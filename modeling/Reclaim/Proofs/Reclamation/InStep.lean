import Reclaim.Proofs.Reclamation.Recount
import Reclaim.Proofs.Reclamation.Survey

/-!
# Runs in step

Reclaiming is written over any monad, so it cannot tell one from another but by what the calls
answer. Two monads are kept **in step** by a relation between their programs that holds of programs
without effects and passes through sequence (`InStep`). Where the calls and the reports of two
surroundings are in step, so are the runs in them (`InStep.reclaim`) and the plans (`InStep.plan`).

**The first use** is that a record is only a record (`erasure`): the same run without it has the
same outcome and leaves the same state. So what a course says of the recorded run holds of the plain
one (`reclaim_course`).
-/

namespace Reclaim

/-- **Two monads in step.** Related programs have results of one type; whoever relates them says in
what sense the effects agree. -/
structure InStep (m n : Type → Type) [Monad m] [Monad n] where
  Rel : {α : Type} → m α → n α → Prop
  rel_pure : ∀ {α : Type} (a : α), Rel (pure a) (pure a)
  rel_bind : ∀ {α β : Type} {x : m α} {y : n α} {f : α → m β} {g : α → n β},
    Rel x y → (∀ a, Rel (f a) (g a)) → Rel (x >>= f) (y >>= g)

namespace InStep

variable {m n : Type → Type} [Monad m] [Monad n]

/-- Two filesystems in step: call by call. -/
structure Calls (R : InStep m n) (fs : Filesystem m) (gs : Filesystem n) : Prop where
  present : ∀ path, R.Rel (fs.present path) (gs.present path)
  children : ∀ path, R.Rel (fs.children path) (gs.children path)
  removeFile : ∀ path, R.Rel (fs.removeFile path) (gs.removeFile path)
  removeEmptyDirectory : ∀ path,
    R.Rel (fs.removeEmptyDirectory path) (gs.removeEmptyDirectory path)
  fileSize : ∀ path, R.Rel (fs.fileSize path) (gs.fileSize path)

/-- Two reporters in step: report by report. -/
structure Reports (R : InStep m n) (reporter : Reporter m) (reporter' : Reporter n) : Prop where
  removed : ∀ kind path, R.Rel (reporter.removed kind path) (reporter'.removed kind path)
  warned : ∀ text, R.Rel (reporter.warned text) (reporter'.warned text)

variable {R : InStep m n} {fs : Filesystem m} {gs : Filesystem n} {reporter : Reporter m}
  {reporter' : Reporter n}

theorem remove (calls : R.Calls fs gs) (kind : ArtifactKind) (path : Path) :
    R.Rel (fs.remove kind path) (gs.remove kind path) := by
  cases kind with
  | managementDirectory => exact calls.removeEmptyDirectory path
  | managementEntry => exact calls.removeFile path
  | primary => exact calls.removeFile path
  | notification => exact calls.removeFile path

theorem leave (reports : R.Reports reporter reporter') (kind : ArtifactKind) (path : Path)
    (reason : String) : R.Rel (leave reporter kind path reason) (leave reporter' kind path reason) :=
  R.rel_bind (reports.warned _) fun _ => R.rel_pure _

theorem attempt (calls : R.Calls fs gs) (reports : R.Reports reporter reporter')
    (kind : ArtifactKind) (path : Path) :
    R.Rel (attempt fs reporter kind path) (attempt gs reporter' kind path) := by
  refine R.rel_bind (calls.fileSize path) fun size => ?_
  refine R.rel_bind (remove calls kind path) fun answer => ?_
  cases answer with
  | ok => exact R.rel_bind (reports.removed kind path) fun _ => R.rel_pure _
  | error reason => exact leave reports kind path reason

theorem attemptEntries (calls : R.Calls fs gs) (reports : R.Reports reporter reporter')
    (paths : List Path) :
    R.Rel (attemptEntries fs reporter paths) (attemptEntries gs reporter' paths) := by
  induction paths with
  | nil => exact R.rel_pure _
  | cons path rest ih =>
    exact R.rel_bind (attempt calls reports _ path) fun _ => R.rel_bind ih fun _ => R.rel_pure _

theorem attemptPresent (calls : R.Calls fs gs) (reports : R.Reports reporter reporter')
    (kind : ArtifactKind) (path : Path) :
    R.Rel (attemptPresent fs reporter kind path) (attemptPresent gs reporter' kind path) := by
  refine R.rel_bind (calls.present path) fun found => ?_
  cases found with
  | false => exact R.rel_pure _
  | true => exact attempt calls reports kind path

theorem sweep (calls : R.Calls fs gs) (reports : R.Reports reporter reporter') (directory : Path) :
    R.Rel (sweep fs reporter directory) (sweep gs reporter' directory) := by
  refine R.rel_bind (calls.present directory) fun found => ?_
  cases found with
  | false => exact R.rel_pure _
  | true =>
    refine R.rel_bind (calls.children directory) fun listing => ?_
    cases listing with
    | ok entries => exact attemptEntries calls reports entries
    | error reason => exact leave reports _ directory reason

/-- **Runs of reclaiming are in step** where the calls and the reports are. -/
theorem reclaim (calls : R.Calls fs gs) (reports : R.Reports reporter reporter')
    (suffixes : Suffixes) (f : Footprint) :
    R.Rel (reclaim fs reporter suffixes f) (reclaim gs reporter' suffixes f) := by
  refine R.rel_bind (sweep calls reports _) fun _ => ?_
  refine R.rel_bind (attemptPresent calls reports _ _) fun _ => ?_
  refine R.rel_bind (attemptPresent calls reports _ _) fun _ => ?_
  exact R.rel_bind (attemptPresent calls reports _ _) fun _ => R.rel_pure _

theorem planPresent (calls : R.Calls fs gs) (kind : ArtifactKind) (path : Path) :
    R.Rel (planPresent fs kind path) (planPresent gs kind path) := by
  refine R.rel_bind (calls.present path) fun found => ?_
  cases found with
  | false => exact R.rel_pure _
  | true => exact R.rel_pure _

theorem planManagement (calls : R.Calls fs gs) (directory : Path) :
    R.Rel (planManagement fs directory) (planManagement gs directory) := by
  refine R.rel_bind (calls.present directory) fun found => ?_
  cases found with
  | false => exact R.rel_pure _
  | true => exact R.rel_bind (calls.children directory) fun _ => R.rel_pure _

/-- **Plans are in step** where the calls are. -/
theorem plan (calls : R.Calls fs gs) (suffixes : Suffixes) (f : Footprint) :
    R.Rel (plan fs suffixes f) (plan gs suffixes f) := by
  refine R.rel_bind (planManagement calls _) fun _ => ?_
  refine R.rel_bind (planPresent calls _ _) fun _ => ?_
  exact R.rel_bind (planPresent calls _ _) fun _ => R.rel_pure _

end InStep

/-! ## A record is only a record -/

section

variable {σ : Type}

/-- **The erasure of the record**: a recorded program is in step with a plain one that has the same
result and leaves the same state, whatever the record was before. -/
def erasure (σ : Type) : InStep (StateT Record (StateM σ)) (StateM σ) where
  Rel x y := ∀ r s, (((x.run r).run s).1.1, ((x.run r).run s).2) = y.run s
  rel_pure _ _ _ := rfl
  rel_bind {_ _ x y f g} hx hf r s := by
    change _ = (g (y.run s).1).run (y.run s).2
    rw [← hx r s]
    exact hf _ _ _

theorem erasure_calls (fs : Filesystem (StateM σ)) : (erasure σ).Calls fs.recorded fs :=
  ⟨fun _ _ _ => rfl, fun _ _ _ => rfl, fun _ _ _ => rfl, fun _ _ _ => rfl, fun _ _ _ => rfl⟩

theorem erasure_reports : (erasure σ).Reports .recorded .silent :=
  ⟨fun _ _ _ _ => rfl, fun _ _ _ => rfl⟩

/-- **Every plain run has a course**: its calls take place, and the run reports its outcome. -/
theorem reclaim_course (fs : Filesystem (StateM σ)) (suffixes : Suffixes) (f : Footprint) (s : σ) :
    ∃ c : Course,
      ((reclaim fs .silent suffixes f).run s).1 = c.outcome suffixes f ∧
        Replay fs s (c.exchanges suffixes f) ((reclaim fs .silent suffixes f).run s).2 := by
  obtain ⟨_, _, t, hrun, hplay, c, rfl, rfl⟩ := (says_reclaim suffixes f).run s
  have erased := InStep.reclaim (erasure_calls fs) erasure_reports suffixes f {} s
  rw [hrun] at erased
  rw [← erased]
  exact ⟨c, rfl, hplay⟩

/-- **Every plain plan has a survey**: its calls take place, and the plan lists what it found. -/
theorem plan_survey (fs : Filesystem (StateM σ)) (suffixes : Suffixes) (f : Footprint) (s : σ) :
    ∃ v : Survey,
      ((plan fs suffixes f).run s).1 = v.planned suffixes f ∧
        Replay fs s (v.exchanges suffixes f) ((plan fs suffixes f).run s).2 := by
  obtain ⟨_, _, t, hrun, hplay, v, rfl, rfl⟩ := (says_plan suffixes f).run s
  have erased := InStep.plan (erasure_calls fs) suffixes f {} s
  rw [hrun] at erased
  rw [← erased]
  exact ⟨v, rfl, hplay⟩

end

end Reclaim
