import Reclaim.Proofs.Reclamation.InStep
import Reclaim.Proofs.Store.Loss

/-!
# What a run reports as removed

The list of what was removed is the difference that the run has made: all that was there and is gone,
each path once (`removed_exact`). No node appears, and none changes. What is gone is the management
directory, a child that it had, the primary file or the notification file. The artifacts may have
their paths in common, or be children of the management directory.

Where a listing is set, the list may name what was not there, and name it twice.
-/

namespace Reclaim

open ScriptedStore

/-- What a run removes are artifacts. -/
theorem ScriptedStore.Quiet.removed_artifact {s t : ScriptedStore} {suffixes : Suffixes}
    {f : Footprint} {c : Course} {q : Path} (quiet : s.Quiet)
    (unlisted : s.script.listings.get? (f.managementDirectory suffixes) = none)
    (h : Replay filesystem s (c.exchanges suffixes f) t)
    (removed : q ∈ (c.attempts suffixes f).filterMap Attempt.removed?) :
    q = f.managementDirectory suffixes ∨
      q ∈ s.store.childrenOf (f.managementDirectory suffixes) ∨
      q = f.primary ∨ q = f.notificationFile suffixes := by
  obtain ⟨swept, visited, verified, hsweep, -, -, -⟩ := Course.replay_iff.mp h
  simp only [Course.attempts, List.filterMap_append, List.mem_append] at removed
  rcases removed with entry | directory | primary | note
  · have found := ((quiet.sweep hsweep).2 q).mp entry
    obtain ⟨-, -, -, child⟩ := (mem_found unlisted).mp found.1
    exact .inr (.inl child)
  · exact .inl (eq_of_mem_removed_visit directory)
  · exact .inr (.inr (.inl (eq_of_mem_removed_visit primary)))
  · exact .inr (.inr (.inr (eq_of_mem_removed_visit note)))

/-- **What was removed is the exact difference.** On a quiet store without a listing set for the
management directory, under any failures and for any footprint:

* no path is removed twice, and those removed are just the ones that had a node and have none now;
* every node that is left is as it was;
* what was removed is the management directory, one of its children, the primary file or the
  notification file. -/
theorem removed_exact {s : ScriptedStore} (suffixes : Suffixes) (f : Footprint) (quiet : s.Quiet)
    (unlisted : s.script.listings.get? (f.managementDirectory suffixes) = none) :
    let run := (reclaim filesystem .silent suffixes f).run s
    run.1.removed.Nodup ∧
    (∀ q, q ∈ run.1.removed ↔ s.store.get? q ≠ none ∧ run.2.store.get? q = none) ∧
    (∀ q, run.2.store.get? q ≠ none → run.2.store.get? q = s.store.get? q) ∧
    ∀ q ∈ run.1.removed,
      q = f.managementDirectory suffixes ∨
        q ∈ s.store.childrenOf (f.managementDirectory suffixes) ∨
        q = f.primary ∨ q = f.notificationFile suffixes := by
  intro run
  obtain ⟨c, houtcome, hplay⟩ := reclaim_course filesystem suffixes f s
  have removed : run.1.removed = (c.attempts suffixes f).filterMap Attempt.removed? :=
    congrArg Outcome.removed houtcome
  have lost := quiet.loses_course unlisted hplay
  rw [← removed] at lost
  refine ⟨lost.nodup, lost.mem_iff, fun q left => ?_, fun q hq => ?_⟩
  · have node := lost.node q
    by_cases gone : q ∈ run.1.removed
    · rw [if_pos gone] at node
      exact absurd node left
    · rw [if_neg gone] at node
      exact node
  · rw [removed] at hq
    exact quiet.removed_artifact unlisted hplay hq

/-- A database whose primary file is an entry of its own management directory: the run meets the file
twice and removes it once. -/
theorem removed_exact_sample :
    let f : Footprint := ⟨.ofString "/d/a", .ofString "/", "d", rfl, rfl, by decide, by decide⟩
    let suffixes : Suffixes := ⟨"", ".note"⟩
    let s := ScriptedStore.ofStore
      ((Keyed.empty.insert (.ofString "/d") .directory).insert (.ofString "/d/a") (.file 8))
    let run := (reclaim filesystem .silent suffixes f).run s
    (s.Quiet ∧ s.script.listings.get? (f.managementDirectory suffixes) = none) ∧
    Store.isChild (f.managementDirectory suffixes) f.primary = true ∧
    run.1.removed.Nodup ∧
    (f.primary ∈ run.1.removed ↔ s.store.get? f.primary ≠ none ∧ run.2.store.get? f.primary = none) := by
  intro f suffixes s run
  obtain ⟨nodup, difference, -, -⟩ := removed_exact (s := s) suffixes f rfl rfl
  exact ⟨⟨rfl, rfl⟩, by decide, nodup, difference f.primary⟩

end Reclaim
