import Reclaim.Proofs.Reclamation.InStep
import Reclaim.Proofs.Store.Children

/-!
# What survives a run

Which nodes a run takes away, said of the store that it starts from: a quiet one, with no listing
set. Any calls may be set to fail.

* An **entry** of the management directory goes if the directory is seen and listed, and the entry is
  a file whose removal does not fail.
* The **directory** goes if it is seen, its removal does not fail, and no child is left in it.
* The primary and the notification **file** go if they are seen and their removals do not fail.

**The law** (`survival_exact`): just these go, and every other node stays as it was, also below an
entry that is a directory. So a failure decides about the artifact of its call and about no other,
but for the two ways in which the directory and its entries depend on each other (`Bears`): what
cannot be seen or listed keeps its entries, and an entry that stays keeps its directory.
-/

namespace Reclaim

namespace ScriptedStore

/-- **A child of the directory goes.** -/
structure EntryGoes (s : ScriptedStore) (directory c : Path) : Prop where
  child : Store.isChild directory c = true
  isDirectory : s.store.get? directory = some .directory
  seen : s.Allows .present directory
  listed : s.Allows .children directory
  isFile : ∃ size, s.store.get? c = some (.file size)
  free : s.Allows .removeFile c

/-- **The directory goes**: no child is left in it. -/
structure DirectoryGoes (s : ScriptedStore) (directory : Path) : Prop where
  stands : s.store.get? directory ≠ none
  seen : s.Allows .present directory
  free : s.Allows .removeEmptyDirectory directory
  emptied : ∀ c, Store.isChild directory c = true →
    s.store.get? c = none ∨ s.EntryGoes directory c

/-- **A file goes.** -/
structure FileGoes (s : ScriptedStore) (path : Path) : Prop where
  isFile : ∃ size, s.store.get? path = some (.file size)
  seen : s.Allows .present path
  free : s.Allows .removeFile path

/-- **What goes** when a footprint is reclaimed. -/
inductive Goes (s : ScriptedStore) (suffixes : Suffixes) (f : Footprint) : Path → Prop
  | entry {c : Path} : s.EntryGoes (f.managementDirectory suffixes) c → Goes s suffixes f c
  | directory : s.DirectoryGoes (f.managementDirectory suffixes) →
      Goes s suffixes f (f.managementDirectory suffixes)
  | primary : s.FileGoes f.primary → Goes s suffixes f f.primary
  | notification : s.FileGoes (f.notificationFile suffixes) →
      Goes s suffixes f (f.notificationFile suffixes)

/-- **A call bears on a node** whose fate its failure may decide: its own path, the entries of the
directory that it looks at, the directory of the entry that it removes. -/
inductive Bears (directory : Path) : CallKind → Path → Path → Prop
  | own (call : CallKind) (path : Path) : Bears directory call path path
  | seeing {c : Path} : Store.isChild directory c = true → Bears directory .present directory c
  | listing {c : Path} : Store.isChild directory c = true → Bears directory .children directory c
  | emptying {c : Path} : Store.isChild directory c = true → Bears directory .removeFile c directory

variable {s : ScriptedStore}

/-! ## What goes is what is removed -/

/-- What stands and is no directory is a file. -/
theorem isFile_iff {node : Option Node} :
    (∃ size, node = some (.file size)) ↔ node ≠ none ∧ node ≠ some .directory := by
  rcases node with _ | ⟨size⟩ | _
  · simp
  · simp
  · simp

theorem entryGoes_iff {directory c : Path} (unlisted : s.script.listings.get? directory = none) :
    s.EntryGoes directory c ↔ c ∈ s.found directory ∧ s.Removable .managementEntry c := by
  rw [mem_found unlisted, Store.mem_childrenOf, Option.isSome_iff_ne_none,
    removable_file (by decide)]
  constructor
  · intro h
    obtain ⟨hstands, hfile⟩ := isFile_iff.mp h.isFile
    exact ⟨⟨h.seen, h.listed, h.isDirectory, h.child, hstands⟩, h.free, hfile⟩
  · rintro ⟨⟨seen, listed, isDirectory, child, hstands⟩, free, hfile⟩
    exact ⟨child, isDirectory, seen, listed, isFile_iff.mpr ⟨hstands, hfile⟩, free⟩

theorem directoryGoes_iff {directory : Path}
    (unlisted : s.script.listings.get? directory = none) :
    s.DirectoryGoes directory ↔ s.stands directory = true ∧ s.Vacates directory := by
  rw [stands_iff, Vacates]
  simp only [← entryGoes_iff unlisted]
  constructor
  · intro h
    exact ⟨⟨h.seen, h.stands⟩, h.free, h.emptied⟩
  · rintro ⟨⟨seen, stands⟩, free, emptied⟩
    exact ⟨stands, seen, free, emptied⟩

theorem fileGoes_iff {kind : ArtifactKind} {path : Path} (hk : kind ≠ .managementDirectory) :
    s.FileGoes path ↔ s.stands path = true ∧ s.Removable kind path := by
  rw [stands_iff, removable_file hk]
  constructor
  · intro h
    obtain ⟨hstands, hfile⟩ := isFile_iff.mp h.isFile
    exact ⟨⟨h.seen, hstands⟩, h.free, hfile⟩
  · rintro ⟨⟨seen, hstands⟩, free, hfile⟩
    exact ⟨isFile_iff.mpr ⟨hstands, hfile⟩, seen, free⟩

/-- **What goes is what a run removes.** -/
theorem goes_iff {suffixes : Suffixes} {f : Footprint} {q : Path}
    (unlisted : s.script.listings.get? (f.managementDirectory suffixes) = none) :
    s.Goes suffixes f q ↔ s.Removes suffixes f q := by
  rw [Removes, ← entryGoes_iff unlisted, ← directoryGoes_iff unlisted,
    ← fileGoes_iff (by decide), ← fileGoes_iff (by decide)]
  constructor
  · intro h
    cases h with
    | entry h => exact .inl h
    | directory h => exact .inr (.inl ⟨rfl, h⟩)
    | primary h => exact .inr (.inr (.inl ⟨rfl, h⟩))
    | notification h => exact .inr (.inr (.inr ⟨rfl, h⟩))
  · rintro (h | ⟨rfl, h⟩ | ⟨rfl, h⟩ | ⟨rfl, h⟩)
    · exact .entry h
    · exact .directory h
    · exact .primary h
    · exact .notification h

/-! ## Which failures decide -/

variable {t : ScriptedStore}

theorem EntryGoes.congr {directory c : Path} (same : t.store = s.store)
    (seen : s.Allows .present directory → t.Allows .present directory)
    (listed : s.Allows .children directory → t.Allows .children directory)
    (free : s.Allows .removeFile c → t.Allows .removeFile c) (h : s.EntryGoes directory c) :
    t.EntryGoes directory c := by
  refine ⟨h.child, ?_, seen h.seen, listed h.listed, ?_, free h.free⟩
  · rw [same]
    exact h.isDirectory
  · rw [same]
    exact h.isFile

theorem FileGoes.congr {path : Path} (same : t.store = s.store)
    (agree : ∀ call, s.Allows call path → t.Allows call path) (h : s.FileGoes path) :
    t.FileGoes path := by
  refine ⟨?_, agree _ h.seen, agree _ h.free⟩
  rw [same]
  exact h.isFile

/-- Over one store, what goes depends on the calls that bear on it and on no other. -/
theorem Goes.congr {suffixes : Suffixes} {f : Footprint} {q : Path} (same : t.store = s.store)
    (agree : ∀ call on, Bears (f.managementDirectory suffixes) call on q →
      s.Allows call on → t.Allows call on)
    (h : s.Goes suffixes f q) : t.Goes suffixes f q := by
  cases h with
  | entry h =>
    exact .entry (h.congr same (agree _ _ (.seeing h.child)) (agree _ _ (.listing h.child))
      (agree _ _ (.own _ _)))
  | directory h =>
    refine .directory ⟨?_, agree _ _ (.own _ _) h.seen, agree _ _ (.own _ _) h.free,
      fun c child => ?_⟩
    · rw [same]
      exact h.stands
    · rw [same]
      refine (h.emptied c child).imp_right fun goes => ?_
      exact goes.congr same (agree _ _ (.own _ _)) (agree _ _ (.own _ _))
        (agree _ _ (.emptying child))
  | primary h => exact .primary (h.congr same fun call => agree call _ (.own _ _))
  | notification h => exact .notification (h.congr same fun call => agree call _ (.own _ _))

end ScriptedStore

open ScriptedStore

/-! ## The law -/

/-- A run takes away what goes and nothing else. -/
theorem get?_reclaim {s : ScriptedStore} (suffixes : Suffixes) (f : Footprint) (quiet : s.Quiet)
    (unlisted : ∀ path, s.script.listings.get? path = none) (apart : f.Apart suffixes)
    (primaryOutside : Store.isChild (f.managementDirectory suffixes) f.primary = false)
    (noteOutside :
      Store.isChild (f.managementDirectory suffixes) (f.notificationFile suffixes) = false)
    (q : Path) :
    (s.Goes suffixes f q →
      ((reclaim filesystem .silent suffixes f).run s).2.store.get? q = none) ∧
    (¬ s.Goes suffixes f q →
      ((reclaim filesystem .silent suffixes f).run s).2.store.get? q = s.store.get? q) := by
  obtain ⟨c, -, hplay⟩ := reclaim_course filesystem suffixes f s
  have outside : ∀ q ∈ s.found (f.managementDirectory suffixes),
      q ≠ f.managementDirectory suffixes ∧ q ≠ f.primary ∧ q ≠ f.notificationFile suffixes := by
    intro q hq
    obtain ⟨-, -, -, hchild⟩ := (mem_found (unlisted _)).mp hq
    obtain ⟨child, -⟩ := Store.mem_childrenOf.mp hchild
    refine ⟨?_, ?_, ?_⟩
    · rintro rfl
      rw [Store.isChild_self] at child
      cases child
    · rintro rfl
      rw [primaryOutside] at child
      cases child
    · rintro rfl
      rw [noteOutside] at child
      cases child
  have removed := (quiet.course apart outside hplay).2 q
  have kept := (keeps_replay (quiet.spares q) hplay).node
  rw [Course.filterMap_removed?] at kept
  rw [kept, goes_iff (unlisted _), ← removed]
  exact ⟨fun h => if_pos h, fun h => if_neg h⟩

/-- **Exact survival.** On a quiet store without listings, under any failures, with the artifacts apart
from each other and the two files outside the management directory:

* a run takes away just the nodes that go, and leaves every other node as it was;
* any other failures over the same store leave the same at a path, if they agree on the calls that
  bear on it. -/
theorem survival_exact {s : ScriptedStore} (suffixes : Suffixes) (f : Footprint) (quiet : s.Quiet)
    (unlisted : ∀ path, s.script.listings.get? path = none) (apart : f.Apart suffixes)
    (primaryOutside : Store.isChild (f.managementDirectory suffixes) f.primary = false)
    (noteOutside :
      Store.isChild (f.managementDirectory suffixes) (f.notificationFile suffixes) = false)
    (q : Path) :
    let after := ((reclaim filesystem .silent suffixes f).run s).2.store
    (s.Goes suffixes f q → after.get? q = none) ∧
    (¬ s.Goes suffixes f q → after.get? q = s.store.get? q) ∧
    ∀ t : ScriptedStore, t.Quiet → (∀ path, t.script.listings.get? path = none) →
      t.store = s.store →
      (∀ call on, Bears (f.managementDirectory suffixes) call on q →
        (t.Allows call on ↔ s.Allows call on)) →
      ((reclaim filesystem .silent suffixes f).run t).2.store.get? q = after.get? q := by
  intro after
  obtain ⟨gone, stays⟩ :=
    get?_reclaim suffixes f quiet unlisted apart primaryOutside noteOutside q
  refine ⟨gone, stays, fun t quiet' unlisted' same agree => ?_⟩
  obtain ⟨gone', stays'⟩ :=
    get?_reclaim suffixes f quiet' unlisted' apart primaryOutside noteOutside q
  have goes : t.Goes suffixes f q ↔ s.Goes suffixes f q :=
    ⟨Goes.congr same.symm fun call on bears => (agree call on bears).mp,
      Goes.congr same fun call on bears => (agree call on bears).mpr⟩
  by_cases h : s.Goes suffixes f q
  · exact (gone' (goes.mpr h)).trans (gone h).symm
  · rw [stays' (mt goes.mp h), same]
    exact (stays h).symm

/-- The sample with a lock that cannot be removed: the lock stays and the primary file goes. -/
theorem survival_exact_sample :
    let lock := Path.ofString "/d/a.management/lock"
    let s := (ScriptedStore.ofStore .sample).setFailure .removeFile lock "busy"
    let after := ((reclaim filesystem .silent .standard .sample).run s).2.store
    (s.Quiet ∧ (∀ path, s.script.listings.get? path = none) ∧ Footprint.sample.Apart .standard ∧
      Store.isChild (Footprint.sample.managementDirectory .standard) Footprint.sample.primary =
        false ∧
      Store.isChild (Footprint.sample.managementDirectory .standard)
        (Footprint.sample.notificationFile .standard) = false) ∧
    after.get? Footprint.sample.primary = none ∧ after.get? lock = some (.file 1) := by
  intro lock s after
  have law := survival_exact .standard .sample (s := s) rfl (fun _ => rfl) Footprint.sample_apart
    (by decide) (by decide)
  have kept : ¬ s.Goes .standard .sample lock := by
    rw [goes_iff rfl]
    rintro (⟨-, free, -⟩ | ⟨same, -⟩ | ⟨same, -⟩ | ⟨same, -⟩)
    · exact absurd free (by decide)
    · exact absurd same (by decide)
    · exact absurd same (by decide)
    · exact absurd same (by decide)
  refine ⟨⟨rfl, fun _ => rfl, Footprint.sample_apart, by decide, by decide⟩, ?_, ?_⟩
  · exact (law Footprint.sample.primary).1 (.primary ⟨⟨8, rfl⟩, rfl, rfl⟩)
  · exact (law lock).2.1 kept

end Reclaim
