import Reclaim.Proofs.Distinct
import Reclaim.Proofs.Disk.Lexical

/-!
# The first spelling of each path

Paths are told apart by their components, and a path has many spellings. What all spellings of a path have
in common can be said of the bytes (`Path.alike_iff`): whether it starts at the root, whether it begins with
`.`, and the segments that tell something, which are all but the empty ones and `.`. So separators may be
repeated or stand at the end, and a `.` may stand anywhere but in front; a `..` always counts.

**The law** (`first_spellings_kept`): of a list of paths the first spelling of each path is kept, as it was
written, and no other. Of texts that may be missing the same is true of those that are there.
-/

namespace Reclaim

namespace Path

variable {p q : Path}

/-- **The segments that tell something** wherever they stand. -/
def telling (p : Path) : List (List UInt8) :=
  (segments p.bytes).filter fun segment => segment ≠ [] ∧ segment ≠ [dot]

/-- Whether a path begins with `.`. -/
def BeginsHere (p : Path) : Prop := (segments p.bytes).head? = some [dot]

/-! ## Segments and components -/

/-- A segment means something where it tells something, and its component is spelled like it. -/
theorem ofSegment?_map_bytes (segment : List UInt8) :
    (Component.ofSegment? segment).map Component.bytes =
      if segment ≠ [] ∧ segment ≠ [dot] then some segment else none := by
  unfold Component.ofSegment?
  split
  · simp_all
  split
  · simp_all
  split
  · simp_all [Component.bytes]
  · simp_all [Component.bytes]

/-- The components behind the front spell the segments that tell something. -/
theorem map_bytes_inner (p : Path) : p.inner.map Component.bytes = p.telling := by
  unfold inner telling
  induction segments p.bytes with
  | nil => rfl
  | cons segment rest ih =>
    have read := ofSegment?_map_bytes segment
    by_cases tells : segment ≠ [] ∧ segment ≠ [dot]
    · rw [if_pos tells] at read
      obtain ⟨c, meant, spelled⟩ := Option.map_eq_some_iff.mp read
      rw [List.filterMap_cons_some meant, List.map_cons, ih, spelled, List.filter_cons,
        if_pos (decide_eq_true tells)]
    · rw [if_neg tells, Option.map_eq_none_iff] at read
      rw [List.filterMap_cons_none read, ih, List.filter_cons, if_neg (mt of_decide_eq_true tells)]

theorem inner_eq_iff : p.inner = q.inner ↔ p.telling = q.telling := by
  rw [← map_bytes_inner, ← map_bytes_inner]
  refine ⟨congrArg _, fun same => ?_⟩
  -- Inner components are read again from their spelling.
  have again : ∀ cs : List Component, (∀ c ∈ cs, c.IsInner) →
      (cs.map Component.bytes).filterMap Component.ofSegment? = cs := by
    intro cs inner
    rw [List.filterMap_map]
    exact (List.filterMap_congr fun c hc => (inner c hc).ofSegment?_bytes).trans List.filterMap_some
  rw [← again p.inner fun _ => isInner_of_mem_inner, ← again q.inner fun _ => isInner_of_mem_inner, same]

/-- Only a path that does not start at the root begins with `.`. -/
theorem here_mem_components_iff : .here ∈ p.components ↔ p.BeginsHere := by
  have split : p.components = p.front ++ p.inner := rfl
  rw [split, List.mem_append, or_iff_left p.here_not_mem_inner]
  unfold front BeginsHere
  split
  · rename_i absolute
    obtain ⟨rest, bytes⟩ := List.head?_eq_some_iff.mp (of_decide_eq_true absolute)
    rw [bytes, segments_cons, if_pos rfl]
    simp
  · split
    · exact iff_of_true List.mem_cons_self ‹_›
    · exact iff_of_false List.not_mem_nil ‹_›

theorem front_congr (absolute : p.isAbsolute = q.isAbsolute) (here : p.BeginsHere ↔ q.BeginsHere) :
    p.front = q.front := by
  unfold BeginsHere at here
  rw [front, front, absolute]
  simp only [here]

/-- **Which paths are alike**, by their bytes. -/
theorem alike_iff : p.Alike q ↔
    p.isAbsolute = q.isAbsolute ∧ (p.BeginsHere ↔ q.BeginsHere) ∧ p.telling = q.telling := by
  constructor
  · intro alike
    have same : p.components = q.components := alike
    refine ⟨?_, ?_, inner_eq_iff.mp ?_⟩
    · rw [Bool.eq_iff_iff, ← root_mem_components_iff, ← root_mem_components_iff, same]
    · rw [← here_mem_components_iff, ← here_mem_components_iff, same]
    · rw [← filter_components, ← filter_components, same]
  · rintro ⟨absolute, here, telling⟩
    change p.front ++ p.inner = q.front ++ q.inner
    rw [front_congr absolute here, inner_eq_iff.mpr telling]

end Path

/-- **The first spelling of each path is kept.** -/
theorem first_spellings_kept :
    (∀ p q : Path, p.Alike q ↔
      p.isAbsolute = q.isAbsolute ∧ (p.BeginsHere ↔ q.BeginsHere) ∧ p.telling = q.telling) ∧
    KeepsFirst Path.Alike id (distinctBy Path.components) ∧
    KeepsFirst (· = ·) (List.filterMap id) (distinctPresent : List (Option String) → List String) := by
  refine ⟨fun p q => Path.alike_iff, ?_, ?_⟩
  · exact keepsFirst_distinctBy (fun _ _ => Iff.rfl) fun _ _ => rfl
  · exact keepsFirst_distinctBy (fun _ _ => Iff.rfl) fun xs ys => List.filterMap_append

/-- Four spellings of two paths: a `.` in front counts, one further behind does not. -/
example : distinctBy Path.components
    [.ofString "a//b/", .ofString "./a/b", .ofString "a/./b", .ofString "./a/b/."] =
    [.ofString "a//b/", .ofString "./a/b"] := by decide

end Reclaim
