import Reclaim.Proofs.Reclamation.InStep
import Reclaim.Proofs.Store.Settled

/-!
# A second run

Running again right behind a run, with the same failures still set, is of no use, and of no harm: the
first run has left a **settled** store. So the second one changes nothing, deletes nothing, and comes
to the same verdict (`reclaim_converges`).

It warns of a part of what the first one warned of, in the same words and order. It need not be all:
an artifact that one step could not delete may be deleted by a later step, where two artifacts have
one path, or where a directory cannot be listed and is empty.

This needs the primary and the notification file to stand outside the management directory. Inside it
they keep the directory standing until it has been tried, and a second run deletes it.
-/

namespace Reclaim

open ScriptedStore

theorem Attempt.bytesFreed_eq_zero {as : List Attempt} (h : as.filterMap removed? = []) :
    bytesFreed as = 0 := by
  induction as with
  | nil => rfl
  | cons a as ih =>
    rw [filterMap_removed?_cons] at h
    obtain ⟨first, rest⟩ := List.append_eq_nil_iff.mp h
    obtain ⟨⟨size, answer⟩, kind, path⟩ := a
    cases answer with
    | ok => cases first
    | error reason =>
      change 0 + bytesFreed as = 0
      rw [ih rest]

/-- **A second run is idle.** On a quiet store without a listing set for the management directory,
under any failures, with the two files outside the management directory: behind a run, a second one
leaves the store as it is, deletes nothing and frees nothing, has the same verdict, and warns of a
part of what the first one warned of, in that order. -/
theorem reclaim_converges {s : ScriptedStore} (suffixes : Suffixes) (f : Footprint)
    (quiet : s.Quiet)
    (unlisted : s.script.listings.get? (f.managementDirectory suffixes) = none)
    (primaryOutside : Store.isChild (f.managementDirectory suffixes) f.primary = false)
    (noteOutside :
      Store.isChild (f.managementDirectory suffixes) (f.notificationFile suffixes) = false) :
    let first := (reclaim filesystem .silent suffixes f).run s
    let second := (reclaim filesystem .silent suffixes f).run first.2
    second.2 = first.2 ∧
    second.1.removed = [] ∧
    second.1.bytesFreed = 0 ∧
    second.1.primaryDeleted = first.1.primaryDeleted ∧
    second.1.warnings.Sublist first.1.warnings := by
  intro first second
  obtain ⟨c, houtcome, hplay⟩ := reclaim_course filesystem suffixes f s
  obtain ⟨c', houtcome', hplay'⟩ := reclaim_course filesystem suffixes f first.2
  have settled := quiet.settles unlisted primaryOutside noteOutside hplay
  have still := quiet.replay hplay
  obtain ⟨unchanged, nothing, warned, verdict⟩ := settled.idle still hplay'
  have outcome : first.1 = c.outcome suffixes f := houtcome
  have outcome' : second.1 = c'.outcome suffixes f := houtcome'
  refine ⟨unchanged, ?_, ?_, ?_, ?_⟩
  · rw [outcome']
    exact nothing
  · rw [outcome']
    exact Attempt.bytesFreed_eq_zero nothing
  · rw [outcome, outcome']
    change c'.verdict = c.verdict
    rw [verdict, quiet.verdict_settled hplay]
  · rw [outcome, outcome']
    change (c'.warnings suffixes f).Sublist (c.warnings suffixes f)
    rw [warned]
    exact quiet.settledWarnings_sublist unlisted primaryOutside noteOutside hplay

/-- The sample with a lock and a primary file that cannot be removed, and no suffix for the
notification file: both files are one, and both runs warn of it twice. -/
theorem reclaim_converges_sample :
    let suffixes : Suffixes := ⟨".management", ""⟩
    let management := Footprint.sample.managementDirectory suffixes
    let s := ((ScriptedStore.ofStore .sample).setFailure .removeFile
      (.ofString "/d/a.management/lock") "busy").setFailure .removeFile (.ofString "/d/a") "locked"
    (s.Quiet ∧ s.script.listings.get? management = none ∧
      Store.isChild management Footprint.sample.primary = false ∧
      Store.isChild management (Footprint.sample.notificationFile suffixes) = false) ∧
    let first := (reclaim filesystem .silent suffixes .sample).run s
    let second := (reclaim filesystem .silent suffixes .sample).run first.2
    second.2 = first.2 ∧ second.1.removed = [] ∧ second.1.bytesFreed = 0 ∧
    second.1.primaryDeleted = first.1.primaryDeleted ∧
    second.1.warnings.Sublist first.1.warnings := by
  intro suffixes management s
  have primaryOutside : Store.isChild management Footprint.sample.primary = false := by decide
  have noteOutside :
      Store.isChild management (Footprint.sample.notificationFile suffixes) = false := by decide
  exact ⟨⟨rfl, rfl, primaryOutside, noteOutside⟩,
    reclaim_converges (s := s) suffixes .sample rfl rfl primaryOutside noteOutside⟩

end Reclaim
