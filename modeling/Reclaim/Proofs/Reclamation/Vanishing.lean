import Reclaim.Proofs.Reclamation.Protocol
import Reclaim.Proofs.Store.Quiet
import Reclaim.Proofs.Store.Waning

/-!
# Artifacts that vanish during a run

Absence is success: what is to be deleted and is not there counts as deleted. It may be gone before
the run, or go between any two of its calls: between the look at an artifact and the question for
its size, between that and its removal, between the listing of a directory and the attempt at an
entry.

**The law** (`absence_succeeds`): where nothing stands in the way but others that delete too, a run
deletes the database whatever they take and whenever they take it, and leaves none of its artifacts.
It warns of nothing, except that the management directory may be taken between the look at it and
its listing. A listing that fails is a warning whatever it failed of, so then the run warns of a
directory that is gone, and is not clean (`vanished_directory_warned`).
-/

namespace Reclaim

open ScriptedStore

/-- That no child is a directory can be read off the entries of a store. -/
theorem Store.flat_of_entries {s : Store} {directory : Path}
    (listed : ∀ e ∈ s.entries, isChild directory e.1 = true → e.2 ≠ .directory) :
    ∀ c, isChild directory c = true → s.get? c ≠ some .directory :=
  fun _ child stands => listed _ (Keyed.mem_of_get? stands) child rfl

/-- **Absence is success, during a run too.** In a store where nodes only vanish, with a directory or
nothing at the management path, no directory among its children and none at the primary and the
notification path, a run deletes the database and leaves no node at the three paths. Its one possible
warning is about a management directory dropped between the look at it and its listing, and it is
clean exactly where that does not happen. -/
theorem absence_succeeds {s : ScriptedStore} (suffixes : Suffixes) (f : Footprint)
    (waning : s.Waning)
    (management : ∀ size, s.store.get? (f.managementDirectory suffixes) ≠ some (.file size))
    (flat : ∀ c, Store.isChild (f.managementDirectory suffixes) c = true →
      s.store.get? c ≠ some .directory)
    (primary : s.store.get? f.primary ≠ some .directory)
    (note : s.store.get? (f.notificationFile suffixes) ≠ some .directory) :
    let run := (reclaim filesystem .silent suffixes f).run s
    run.1.primaryDeleted = true ∧
      run.2.store.get? (f.managementDirectory suffixes) = none ∧
      run.2.store.get? f.primary = none ∧
      run.2.store.get? (f.notificationFile suffixes) = none ∧
      run.1.warnings =
        (if s.DropsUnread (f.managementDirectory suffixes) then
          [⟨.managementDirectory, f.managementDirectory suffixes,
            Store.Refusal.noSuchDirectory.message⟩] else []) ∧
      (run.1.isClean = true ↔ ¬ s.DropsUnread (f.managementDirectory suffixes)) := by
  intro run
  obtain ⟨c, houtcome, hplay⟩ := reclaim_course filesystem suffixes f s
  obtain ⟨swept, visited, verified, hsweep, hdirectory, hprimary, hnote⟩ :=
    Course.replay_iff.mp hplay
  have outcome : run.1 = c.outcome suffixes f := houtcome
  -- What has vanished before each visit.
  have wanesSwept := waning.replay hsweep
  have wanesVisited := wanesSwept.trans (wanesSwept.waning.replay hdirectory)
  have wanesVerified := wanesVisited.trans (wanesVisited.waning.replay hprimary)
  have yieldsPrimary : visited.store.Yields .primary f.primary := wanesVisited.ne primary
  have yieldsNote : verified.store.Yields .notification (f.notificationFile suffixes) :=
    wanesVerified.ne note
  -- The four steps.
  obtain ⟨unread, silentSweep, empty⟩ := waning.sweep management flat hsweep
  obtain ⟨silentDirectory, goneDirectory⟩ := wanesSwept.waning.visit empty hdirectory
  obtain ⟨silentPrimary, gonePrimary⟩ :=
    wanesVisited.waning.visit (fun _ => yieldsPrimary) hprimary
  obtain ⟨silentNote, goneNote⟩ := wanesVerified.waning.visit (fun _ => yieldsNote) hnote
  have toEnd := wanesVerified.waning.replay hnote
  have behindDirectory := (wanesVisited.waning.replay hprimary).trans toEnd
  have warnings : run.1.warnings = c.sweep.warnings (f.managementDirectory suffixes) := by
    rw [outcome]
    simp only [Course.outcome, Course.warnings, Course.attempts, List.filterMap_append,
      silentSweep, silentDirectory, silentPrimary, silentNote, List.append_nil]
  have deleted : run.1.primaryDeleted = true := by
    rw [outcome]
    show c.verdict = true
    rw [Course.verdict, ← Visit.isEmpty_warnings .primary f.primary, silentPrimary]
    rfl
  refine ⟨deleted, behindDirectory.gone goneDirectory, toEnd.gone gonePrimary, goneNote,
    warnings.trans unread, ?_⟩
  rw [Outcome.isClean, deleted, Bool.true_and, List.isEmpty_iff, warnings, unread]
  simp

/-- The sample, whose entry goes before its size is asked for, whose directory goes before its
removal, and whose primary file goes at the look at it. -/
theorem absence_succeeds_sample :
    let management := Footprint.sample.managementDirectory .standard
    let note := Footprint.sample.notificationFile .standard
    let lock := Path.ofString "/d/a.management/lock"
    let s : ScriptedStore := ⟨.sample, { Script.empty with
      hooks := [⟨.fileSize, lock, [lock], []⟩,
        ⟨.removeEmptyDirectory, management, [management], []⟩,
        ⟨.present, Footprint.sample.primary, [Footprint.sample.primary], []⟩] }⟩
    (s.Waning ∧ (∀ size, s.store.get? management ≠ some (.file size)) ∧
      (∀ c, Store.isChild management c = true → s.store.get? c ≠ some .directory) ∧
      s.store.get? Footprint.sample.primary ≠ some .directory ∧
      s.store.get? note ≠ some .directory ∧ ¬ s.DropsUnread management) ∧
    let run := (reclaim filesystem .silent .standard .sample).run s
    run.1.isClean = true ∧ run.2.store.get? management = none ∧
      run.2.store.get? Footprint.sample.primary = none ∧ run.2.store.get? note = none := by
  intro management note lock s
  have waning : s.Waning := by
    refine ⟨fun _ _ => rfl, fun _ => rfl, ?_⟩
    decide
  have noFile : ∀ size, s.store.get? management ≠ some (.file size) := by
    intro size
    rw [show s.store.get? management = some .directory by decide]
    simp
  have flat : ∀ c, Store.isChild management c = true → s.store.get? c ≠ some .directory :=
    Store.flat_of_entries (by decide)
  have primary : s.store.get? Footprint.sample.primary ≠ some .directory := by decide
  have file : s.store.get? note ≠ some .directory := by decide
  have read : ¬ s.DropsUnread management := by decide
  obtain ⟨-, goneDirectory, gonePrimary, goneNote, -, clean⟩ :=
    absence_succeeds .standard .sample waning noFile flat primary file
  exact ⟨⟨waning, noFile, flat, primary, file, read⟩, clean.mpr read, goneDirectory, gonePrimary,
    goneNote⟩

/-- **A directory that vanishes before it is read is warned about.** Nothing is set to fail, and all
that happens beside the run is that the empty management directory is taken as it is listed. The run
leaves nothing of the database, and yet it is not clean. -/
theorem vanished_directory_warned :
    let management := Footprint.sample.managementDirectory .standard
    let note := Footprint.sample.notificationFile .standard
    let s : ScriptedStore := ⟨(Keyed.empty.insert management .directory).insert
      Footprint.sample.primary (.file 8),
      { Script.empty with hooks := [⟨.children, management, [management], []⟩] }⟩
    (s.Waning ∧ (∀ size, s.store.get? management ≠ some (.file size)) ∧
      (∀ c, Store.isChild management c = true → s.store.get? c ≠ some .directory) ∧
      s.store.get? Footprint.sample.primary ≠ some .directory ∧
      s.store.get? note ≠ some .directory ∧ Footprint.sample.Apart .standard) ∧
    let run := (reclaim filesystem .silent .standard .sample).run s
    run.1.warnings = [⟨.managementDirectory, management, "no such directory"⟩] ∧
      run.1.isClean = false ∧ run.2.store.get? management = none ∧
      run.2.store.get? Footprint.sample.primary = none ∧ run.2.store.get? note = none := by
  intro management note s
  have waning : s.Waning := by
    refine ⟨fun _ _ => rfl, fun _ => rfl, ?_⟩
    decide
  have noFile : ∀ size, s.store.get? management ≠ some (.file size) := by
    intro size
    rw [show s.store.get? management = some .directory by decide]
    simp
  have flat : ∀ c, Store.isChild management c = true → s.store.get? c ≠ some .directory :=
    Store.flat_of_entries (by decide)
  refine ⟨⟨waning, noFile, flat, by decide, by decide, Footprint.sample_apart⟩, ?_⟩
  decide +kernel

end Reclaim
