import Reclaim.Proofs.Reclamation.Protocol
import Reclaim.Proofs.Store.Deletion

/-!
# The verdict under interference

A run looks at the primary file once, at the third step. Its path may also be met before, as a
listed entry or as the management directory itself, and after, as the notification file: the
suffixes are not checked here. And others put and drop nodes between any two calls.

**The law** (`verdict_sound`): as long as they leave the node at the primary path alone, and it can
be seen, the verdict says of the last state whether that node is gone.

Two facts carry the proof. What is gone stays gone, since no call puts a node. And what could not be
removed as the primary file cannot be removed as the notification file either: the same failure or
the same directory is in the way.
-/

namespace Reclaim

open ScriptedStore

/-- **The verdict is sound under interference.** Where looking at the primary path does not fail and
no hook puts or drops a node there, the primary file counts as deleted exactly when no node is left
at its path. It does count as deleted if it was no directory and its removal does not fail. -/
theorem verdict_sound {s : ScriptedStore} (suffixes : Suffixes) (f : Footprint)
    (visible : s.failure? .present f.primary = none) (spared : s.Spares f.primary) :
    let run := (reclaim filesystem .silent suffixes f).run s
    (run.1.primaryDeleted = true ↔ run.2.store.get? f.primary = none) ∧
      (s.store.get? f.primary ≠ some .directory → s.failure? .removeFile f.primary = none →
        run.1.primaryDeleted = true) := by
  intro run
  obtain ⟨c, houtcome, hplay⟩ := reclaim_course filesystem suffixes f s
  obtain ⟨swept, before, after, hsweep, hdirectory, hprimary, hnote⟩ := Course.replay_iff.mp hplay
  -- What becomes of the node before the visit, at it, and behind it.
  have earlier := (keeps_replay spared hsweep).trans
    (keeps_replay (keeps_replay spared hsweep).spares hdirectory)
  have visit := keeps_replay earlier.spares hprimary
  have later := keeps_replay visit.spares hnote
  have seen : before.failure? .present f.primary = none := by
    rw [earlier.failures]
    exact visible
  have settled := gone_visit_iff (by decide) earlier.spares seen hprimary
  have verdict : run.1.primaryDeleted = true ↔ after.store.get? f.primary = none := by
    rw [settled, ← visit_succeeds_iff (earlier.spares.file (by decide)) hprimary,
      ← Course.verdict_eq_true_iff]
    exact iff_of_eq (congrArg (·.primaryDeleted = true) houtcome)
  refine ⟨verdict.trans ⟨later.gone, fun gone => ?_⟩, fun file free => ?_⟩
  · refine Classical.byContradiction fun left => ?_
    have last : f.primary ∈
        (c.note.attempts .notification (f.notificationFile suffixes)).filterMap
          Attempt.removed? := by
      refine Classical.byContradiction fun unremoved => ?_
      rw [later.node, Visit.filterMap_removed?, if_neg unremoved] at gone
      exact left gone
    -- Then the notification file is the primary file, which the visit has left stuck.
    have same : f.primary = f.notificationFile suffixes := eq_of_mem_removed_visit last
    rw [← same] at hnote last
    obtain ⟨-, -, freed⟩ := (mem_removed_visit (visit.spares.file (by decide)) hnote).mp last
    exact stuck_of_visit (by decide) earlier.spares seen hprimary left (by decide) freed
  · refine verdict.mpr (settled.mpr fun _ => (removable_file (by decide)).mpr ⟨?_, ?_⟩)
    · rw [earlier.failures]
      exact free
    · rw [earlier.node]
      split
      · exact (Option.some_ne_none _).symm
      · exact file

/-- The sample, in which a file appears in the management directory once that has been listed, and
the notification file is the primary file. -/
theorem verdict_sound_sample :
    let s : ScriptedStore := ⟨.sample, { Script.empty with
      hooks := [⟨.fileSize, .ofString "/d/a.management/lock", [],
        [(.ofString "/d/a.management/late", .file 1)]⟩] }⟩
    (s.failure? .present Footprint.sample.primary = none ∧ s.Spares Footprint.sample.primary) ∧
      ((reclaim filesystem .silent ⟨".management", ""⟩ .sample).run s).1.primaryDeleted = true ∧
      ((reclaim filesystem .silent ⟨".management", ""⟩ .sample).run s).2.store.get?
        (Footprint.sample.primary) = none := by
  intro s
  have spared : s.Spares Footprint.sample.primary :=
    List.forall_mem_singleton.mpr ⟨by decide, by decide⟩
  obtain ⟨sound, free⟩ := verdict_sound ⟨".management", ""⟩ .sample rfl spared
  have counted := free (by decide) rfl
  exact ⟨⟨rfl, spared⟩, counted, sound.mp counted⟩

end Reclaim
