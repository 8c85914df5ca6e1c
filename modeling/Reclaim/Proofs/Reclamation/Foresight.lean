import Reclaim.Proofs.Reclamation.Recount
import Reclaim.Proofs.Store.Quiet

/-!
# What a plan foresees

A plan looks at everything before anything is deleted. A run looks as it goes, at a store that it has
changed, and at the management directory twice. On a **quiet** store they agree (`plan_foresees`),
whatever fails and whatever the listings say, as long as the three artifacts are apart from each
other and from the listed entries.

Where they are not, a run may find less than was planned: what it has deleted under one name does not
stand under another. And a plan says nothing of what can be deleted. Only a run without warnings
removes all of it.
-/

namespace Reclaim

open ScriptedStore

/-- **A plan foresees the run.** On a quiet store whose artifacts are apart from each other and from
the answer of the listing, the plan is the list of the deletions that a run attempts, with their
kinds, in order and as often as they are made. It only looks and lists, leaves the store as it is
and warns of nothing. So a run without warnings removes just what was planned. -/
theorem plan_foresees {s : ScriptedStore} (suffixes : Suffixes) (f : Footprint) (quiet : s.Quiet)
    (apart : f.Apart suffixes)
    (outside : ∀ entries,
      ((filesystem.children (f.managementDirectory suffixes)).run s).1 = .ok entries →
        f.managementDirectory suffixes ∉ entries ∧ f.primary ∉ entries ∧
          f.notificationFile suffixes ∉ entries) :
    let planning := ((plan filesystem.recorded suffixes f).run {}).run s
    let run := ((reclaim filesystem.recorded .recorded suffixes f).run {}).run s
    let planned := planning.1.1
    (∃ c : Course, run.1.2.exchanges = c.exchanges suffixes f ∧
      planned = (c.attempts suffixes f).map Attempt.artifact) ∧
    run.1.2.exchanges.filterMap Exchange.removal? =
      planned.map (fun artifact => (artifact.1.removal, artifact.2)) ∧
    (∀ e ∈ planning.1.2.exchanges, e.kind = .present ∨ e.kind = .children) ∧
    planning.1.2.warnings = [] ∧
    planning.2 = s ∧
    (run.1.1.warnings = [] → run.1.1.removed = planned.map Prod.snd) := by
  intro planning run planned
  obtain ⟨_, _, t, hplan, hlook, v, rfl, rfl⟩ := (@says_plan _ filesystem suffixes f).run s
  have hplanned : planned = v.planned suffixes f := congrArg (·.1.1) hplan
  have hcalls : planning.1.2 = ⟨v.exchanges suffixes f, []⟩ := congrArg (·.1.2) hplan
  have hstate : planning.2 = t := congrArg (·.2) hplan
  obtain ⟨unchanged, standing⟩ := quiet.survey hlook
  obtain ⟨_, _, u, hrun, hplay, c, rfl, rfl⟩ := (@says_reclaim _ filesystem suffixes f).run s
  have houtcome : run.1.1 = c.outcome suffixes f := congrArg (·.1.1) hrun
  have hlog : run.1.2.exchanges = c.exchanges suffixes f := congrArg (·.1.2.exchanges) hrun
  have apartFromFound : ∀ q ∈ s.found (f.managementDirectory suffixes),
      q ≠ f.managementDirectory suffixes ∧ q ≠ f.primary ∧ q ≠ f.notificationFile suffixes := by
    intro q hq
    obtain ⟨entries, answered, listed⟩ := quiet.listed_of_mem_found hq
    obtain ⟨hm, hp, hn⟩ := outside entries answered
    exact ⟨fun e => hm (e ▸ listed), fun e => hp (e ▸ listed), fun e => hn (e ▸ listed)⟩
  have tried := (quiet.course apart apartFromFound hplay).1
  have foreseen : planned = (c.attempts suffixes f).map Attempt.artifact := by
    rw [hplanned, standing, tried]
  refine ⟨⟨c, hlog, foreseen⟩, ?_, ?_, ?_, ?_, ?_⟩
  · rw [hlog, Course.filterMap_removal?, foreseen, List.map_map]
    rfl
  · rw [hcalls]
    exact fun e => Survey.kind_of_mem_exchanges suffixes f
  · rw [hcalls]
  · rw [hstate, unchanged]
  · intro clean
    rw [houtcome] at clean ⊢
    have fulfilled := (List.append_eq_nil_iff.mp clean).2
    rw [foreseen, List.map_map]
    exact Attempt.filterMap_removed?_of_no_warning fulfilled

/-- The sample with a listing that names its lock twice: both deletions are planned, and the lock
still stands. -/
theorem plan_foresees_sample :
    let management := Footprint.sample.managementDirectory .standard
    let lock := Path.ofString "/d/a.management/lock"
    let s := (ScriptedStore.ofStore .sample).setListing management [lock, lock]
    let planning := ((plan filesystem.recorded .standard .sample).run {}).run s
    let run := ((reclaim filesystem.recorded .recorded .standard .sample).run {}).run s
    (s.Quiet ∧ Footprint.sample.Apart .standard ∧
      ((filesystem.children management).run s).1 = .ok [lock, lock]) ∧
    planning.1.1 = [(.managementEntry, lock), (.managementEntry, lock),
      (.managementDirectory, management), (.primary, Footprint.sample.primary),
      (.notification, Footprint.sample.notificationFile .standard)] ∧
    run.1.2.exchanges.filterMap Exchange.removal? =
      planning.1.1.map (fun artifact => (artifact.1.removal, artifact.2)) ∧
    planning.2 = s := by
  intro management lock s planning run
  have listed : ((filesystem.children management).run s).1 = .ok [lock, lock] := rfl
  have outside : ∀ entries, ((filesystem.children management).run s).1 = .ok entries →
      management ∉ entries ∧ Footprint.sample.primary ∉ entries ∧
        Footprint.sample.notificationFile .standard ∉ entries := by
    intro entries answered
    obtain rfl := Except.ok.inj (listed.symm.trans answered)
    exact ⟨by decide, by decide, by decide⟩
  obtain ⟨-, removals, -, -, unchanged, -⟩ :=
    plan_foresees (s := s) .standard .sample rfl Footprint.sample_apart outside
  exact ⟨⟨rfl, Footprint.sample_apart, listed⟩, rfl, removals, unchanged⟩

end Reclaim
