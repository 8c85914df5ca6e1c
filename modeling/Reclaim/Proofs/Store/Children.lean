import Reclaim.Proofs.Store.Quiet
import Mathlib.Data.List.Nodup

/-!
# The children of a path, in order

A listing names each child once, in the order of the bytes of their paths. So it is determined by
which children there are: a store that has lost some of its nodes lists what is left in the order in
which all were listed before (`childrenOf_eq_filter`).
-/

namespace Reclaim

namespace Path

theorem le_trans {a b c : Path} (h : a.le b = true) (h' : b.le c = true) : a.le c = true := by
  unfold le at *
  simp only [decide_eq_true_eq] at *
  exact List.le_trans h h'

theorem le_total (a b : Path) : (a.le b || b.le a) = true := by
  unfold le
  simp only [Bool.or_eq_true, decide_eq_true_eq]
  exact List.le_total a.bytes b.bytes

theorem le_antisymm {a b : Path} (h : a.le b = true) (h' : b.le a = true) : a = b := by
  obtain ⟨bytes⟩ := a
  obtain ⟨bytes'⟩ := b
  unfold le at *
  simp only [decide_eq_true_eq] at *
  exact congrArg Path.mk (List.le_antisymm h h')

end Path

namespace Store

theorem nodup_paths (s : Store) : s.paths.Nodup :=
  (List.mergeSort_perm s.keys Path.le).nodup_iff.mpr s.distinct

theorem sorted_paths (s : Store) : s.paths.Pairwise fun a b => a.le b = true := by
  have sorted := @List.pairwise_mergeSort Path Path.le (fun _ _ _ => Path.le_trans) Path.le_total
  exact sorted s.keys

/-- A child is listed once. -/
theorem nodup_childrenOf (s : Store) (directory : Path) : (s.childrenOf directory).Nodup :=
  s.nodup_paths.filter _

theorem sorted_childrenOf (s : Store) (directory : Path) :
    (s.childrenOf directory).Pairwise fun a b => a.le b = true :=
  s.sorted_paths.filter _

/-- **The children in order**: a sorted list of them, each once, is the listing. -/
theorem childrenOf_eq {s : Store} {directory : Path} {entries : List Path} (once : entries.Nodup)
    (sorted : entries.Pairwise fun a b => a.le b = true)
    (members : ∀ c, c ∈ entries ↔ isChild directory c = true ∧ (s.get? c).isSome = true) :
    s.childrenOf directory = entries := by
  have perm := (List.perm_ext_iff_of_nodup (s.nodup_childrenOf directory) once).mpr fun c =>
    mem_childrenOf.trans (members c).symm
  exact perm.eq_of_pairwise (fun _ _ _ _ => Path.le_antisymm) (s.sorted_childrenOf directory) sorted

/-- **A store that has lost some nodes lists what is left in the order of before.** -/
theorem childrenOf_eq_filter {s t : Store} {directory : Path}
    (lost : ∀ c, isChild directory c = true → t.get? c = none ∨ t.get? c = s.get? c) :
    t.childrenOf directory = (s.childrenOf directory).filter fun c => (t.get? c).isSome := by
  refine childrenOf_eq ((s.nodup_childrenOf directory).filter _)
    ((s.sorted_childrenOf directory).filter _) fun c => ?_
  rw [List.mem_filter, mem_childrenOf]
  constructor
  · rintro ⟨⟨child, -⟩, stands⟩
    exact ⟨child, stands⟩
  · rintro ⟨child, stands⟩
    rcases lost c child with gone | same
    · rw [gone] at stands
      cases stands
    · exact ⟨⟨child, same ▸ stands⟩, stands⟩

end Store

/-! ## What is listed and found -/

namespace ScriptedStore

/-- **A call is not set to fail.** -/
def Allows (s : ScriptedStore) (call : CallKind) (path : Path) : Prop := s.failure? call path = none

variable {s : ScriptedStore}

theorem stands_iff {path : Path} :
    s.stands path = true ↔ s.Allows .present path ∧ s.store.get? path ≠ none := by
  rw [stands, Bool.and_eq_true, Option.isNone_iff_eq_none, Option.isSome_iff_ne_none]
  exact Iff.rfl

/-- Without a listing set, a directory is listed by its children. -/
theorem listing_eq {directory : Path} (unlisted : s.script.listings.get? directory = none) :
    s.listing directory =
      match s.failure? .children directory with
      | some reason => .error reason
      | none =>
        if s.store.get? directory = some .directory then .ok (s.store.childrenOf directory)
        else .error Store.Refusal.noSuchDirectory.message := by
  unfold listing
  cases s.failure? .children directory with
  | some reason => rfl
  | none =>
    rw [unlisted]
    dsimp only
    unfold Store.list
    split
    · rfl
    · rfl

theorem mem_entries_listing {directory c : Path}
    (unlisted : s.script.listings.get? directory = none) :
    c ∈ Survey.entries (s.listing directory) ↔
      s.Allows .children directory ∧ s.store.get? directory = some .directory ∧
        c ∈ s.store.childrenOf directory := by
  rw [listing_eq unlisted]
  unfold Allows
  cases s.failure? .children directory with
  | some reason => simp [Survey.entries]
  | none =>
    by_cases isDirectory : s.store.get? directory = some .directory
    · simp [Survey.entries, isDirectory]
    · simp [Survey.entries, isDirectory]

/-- So the entries found are the children of a directory that is seen and listed. -/
theorem mem_found {directory c : Path} (unlisted : s.script.listings.get? directory = none) :
    c ∈ s.found directory ↔
      s.Allows .present directory ∧ s.Allows .children directory ∧
        s.store.get? directory = some .directory ∧ c ∈ s.store.childrenOf directory := by
  unfold found
  by_cases seen : s.stands directory = true
  · rw [if_pos seen, mem_entries_listing unlisted, and_iff_right (stands_iff.mp seen).1]
  · rw [if_neg seen]
    refine iff_of_false List.not_mem_nil ?_
    rintro ⟨allowed, -, isDirectory, -⟩
    refine seen (stands_iff.mpr ⟨allowed, ?_⟩)
    rw [isDirectory]
    exact Option.some_ne_none _

theorem isChild_of_mem_found {directory c : Path}
    (unlisted : s.script.listings.get? directory = none) (found : c ∈ s.found directory) :
    Store.isChild directory c = true := by
  obtain ⟨-, -, -, listed⟩ := (mem_found unlisted).mp found
  exact (Store.mem_childrenOf.mp listed).1

theorem node_of_mem_found {directory c : Path}
    (unlisted : s.script.listings.get? directory = none) (found : c ∈ s.found directory) :
    s.store.get? c ≠ none := by
  obtain ⟨-, -, -, listed⟩ := (mem_found unlisted).mp found
  exact Option.isSome_iff_ne_none.mp (Store.mem_childrenOf.mp listed).2

theorem not_mem_found {directory q : Path} (unlisted : s.script.listings.get? directory = none)
    (outside : Store.isChild directory q = false) : q ∉ s.found directory := by
  intro found
  rw [isChild_of_mem_found unlisted found] at outside
  cases outside

/-- Where entries are found, they are the children, each once. -/
theorem found_cases {directory : Path} (unlisted : s.script.listings.get? directory = none) :
    s.found directory = [] ∨ s.found directory = s.store.childrenOf directory := by
  unfold found
  rw [listing_eq unlisted]
  cases s.stands directory with
  | false => exact .inl rfl
  | true =>
    cases s.failure? .children directory with
    | some reason => exact .inl rfl
    | none =>
      by_cases isDirectory : s.store.get? directory = some .directory
      · simp [Survey.entries, isDirectory]
      · simp [Survey.entries, isDirectory]

theorem nodup_found {directory : Path} (unlisted : s.script.listings.get? directory = none) :
    (s.found directory).Nodup := by
  rcases found_cases unlisted with nothing | all
  · rw [nothing]
    exact List.nodup_nil
  · rw [all]
    exact s.store.nodup_childrenOf directory

end ScriptedStore

end Reclaim
