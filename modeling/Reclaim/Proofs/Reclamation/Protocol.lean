import Reclaim.Proofs.Reclamation.InStep

/-!
# The protocol of a run

What a run of reclaiming asks, in which order, and how the answers add up to what it reports. The
**filesystem is open**: it may answer every call as it likes, in any state and differently each
time, and the files may change between two calls.

The calls are those of a course: each answer decides what is asked next, and no failure leaves a
later artifact out. The report is read off the log. Nothing is tallied that was not answered, and
nothing that was answered is lost or counted twice.

The sum of the sizes is a natural number and has no bound here.
-/

namespace Reclaim

/-- The verdict: the primary file was not found, or its removal succeeded. -/
theorem Course.verdict_eq_true_iff {c : Course} :
    c.verdict = true ↔ c.primary = none ∨ ∃ size, c.primary = some ⟨size, .ok ()⟩ := by
  obtain ⟨w, v₁, v, v₃⟩ := c
  cases v with
  | none => exact iff_of_true rfl (.inl rfl)
  | some t =>
    obtain ⟨size, answer⟩ := t
    cases answer with
    | ok => exact iff_of_true rfl (.inr ⟨size, rfl⟩)
    | error reason =>
      refine iff_of_false Bool.false_ne_true ?_
      rintro (h | ⟨size, h⟩)
      · cases h
      · cases h

/-- **The protocol of a run.** From any state of any filesystem:

* the log is that of just one course, and takes place between the first state and the last;
* the paths removed are those of the removals in the log that succeeded, and the warnings are the
  calls in the log that failed, each with its path and reason, in the order of the log;
* by kind, the warnings are a listing that failed, then the attempts that failed;
* the reporter was given the texts of the warnings;
* the bytes freed are the sizes asked for just before the removals that succeeded;
* the verdict is that the primary file was not there, or was removed.

Without a record the run has the same outcome and leaves the same state. -/
theorem run_follows_protocol {σ : Type} (fs : Filesystem (StateM σ)) (suffixes : Suffixes)
    (f : Footprint) (s : σ) :
    let run := ((reclaim fs.recorded .recorded suffixes f).run {}).run s
    let outcome := run.1.1
    let log := run.1.2.exchanges
    (∃ c : Course,
      log = c.exchanges suffixes f ∧
      (∀ c' : Course, log = c'.exchanges suffixes f → c' = c) ∧
      outcome.warnings = c.sweep.warnings (f.managementDirectory suffixes) ++
        (c.attempts suffixes f).filterMap Attempt.warning? ∧
      outcome.bytesFreed = Attempt.bytesFreed (c.attempts suffixes f) ∧
      (outcome.primaryDeleted = true ↔
        c.primary = none ∨ ∃ size, c.primary = some ⟨size, .ok ()⟩)) ∧
    Replay fs s log run.2 ∧
    outcome.removed = log.filterMap Exchange.removed? ∧
    outcome.warnings.map Warning.failure = log.filterMap Exchange.failed? ∧
    run.1.2.warnings = outcome.warnings.map Warning.text ∧
    (reclaim fs .silent suffixes f).run s = (outcome, run.2) := by
  intro run outcome log
  have erased : (outcome, run.2) = (reclaim fs .silent suffixes f).run s :=
    InStep.reclaim (erasure_calls fs) erasure_reports suffixes f {} s
  obtain ⟨_, _, t, hrun, hplay, c, rfl, rfl⟩ := (@says_reclaim σ fs suffixes f).run s
  have houtcome : outcome = c.outcome suffixes f := congrArg (·.1.1) hrun
  have hlog : log = c.exchanges suffixes f := congrArg (·.1.2.exchanges) hrun
  have hwarned : run.1.2.warnings = (c.warnings suffixes f).map Warning.text :=
    congrArg (·.1.2.warnings) hrun
  have hstate : run.2 = t := congrArg (·.2) hrun
  refine ⟨⟨c, hlog, fun c' hc' => ?_, ?_, ?_, ?_⟩, ?_, ?_, ?_, ?_, erased.symm⟩
  · exact Course.exchanges_injective suffixes f (hc'.symm.trans hlog)
  · rw [houtcome]
    rfl
  · rw [houtcome]
    rfl
  · rw [houtcome]
    exact Course.verdict_eq_true_iff
  · rw [hlog, hstate]
    exact hplay
  · rw [houtcome, hlog, Course.filterMap_removed?]
    rfl
  · rw [houtcome, hlog, Course.filterMap_failed?]
    rfl
  · rw [houtcome, hwarned]
    rfl

end Reclaim
