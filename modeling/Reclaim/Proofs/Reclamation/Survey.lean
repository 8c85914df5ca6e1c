import Reclaim.Proofs.Replay
import Reclaim.Reclamation

/-!
# The survey of a plan

A plan asks three things: what is in the management directory, whether the primary file stands, and
whether the notification file does. A **survey** holds the answers, and spells out the calls
(`Survey.exchanges`) and the plan (`Survey.planned`).

**The law** (`says_plan`): whatever the filesystem, a plan has a survey, makes its calls and no
others, warns of nothing, and lists what the survey found.
-/

namespace Reclaim

/-- **A survey** of the artifacts of a footprint. -/
structure Survey where
  /-- The listing of the management directory, if that stands. -/
  listing : Option (Except String (List Path))
  primary : Bool
  note : Bool

namespace Survey

variable (suffixes : Suffixes) (f : Footprint)

/-- The entries found in the management directory: none where it could not be read. -/
def entries : Except String (List Path) → List Path
  | .ok entries => entries
  | .error _ => []

/-- The calls about a management directory. -/
def managementExchanges (management : Path) : Option (Except String (List Path)) → List Exchange
  | none => [.present management false]
  | some answer => [.present management true, .children management answer]

/-- What a management directory adds to a plan. -/
def managementPlanned (management : Path) : Option (Except String (List Path)) → List Planned
  | none => []
  | some answer =>
    (entries answer).map (.managementEntry, ·) ++ [(.managementDirectory, management)]

/-- What a single file adds to a plan. -/
def filePlanned (kind : ArtifactKind) (path : Path) (found : Bool) : List Planned :=
  if found then [(kind, path)] else []

/-- **The calls made**, with their answers. -/
def exchanges (v : Survey) : List Exchange :=
  managementExchanges (f.managementDirectory suffixes) v.listing ++
    [.present f.primary v.primary, .present (f.notificationFile suffixes) v.note]

/-- **What was found**, in the order of reclaiming. -/
def planned (v : Survey) : List Planned :=
  managementPlanned (f.managementDirectory suffixes) v.listing ++
    filePlanned .primary f.primary v.primary ++
      filePlanned .notification (f.notificationFile suffixes) v.note

/-- **A survey looks and lists**, and makes no other call. -/
theorem kind_of_mem_exchanges {v : Survey} {e : Exchange} (h : e ∈ v.exchanges suffixes f) :
    e.kind = .present ∨ e.kind = .children := by
  rcases v with ⟨_ | answer, primary, note⟩
  · simp only [exchanges, managementExchanges, List.cons_append, List.nil_append, List.mem_cons,
      List.not_mem_nil, or_false] at h
    rcases h with rfl | rfl | rfl <;> exact .inl rfl
  · simp only [exchanges, managementExchanges, List.cons_append, List.nil_append, List.mem_cons,
      List.not_mem_nil, or_false] at h
    rcases h with rfl | rfl | rfl | rfl
    · exact .inl rfl
    · exact .inr rfl
    · exact .inl rfl
    · exact .inl rfl

end Survey

section

variable {σ : Type} {fs : Filesystem (StateM σ)}

theorem says_planPresent (kind : ArtifactKind) (path : Path) :
    Says fs (planPresent fs.recorded kind path) fun planned account => ∃ found,
      planned = Survey.filePlanned kind path found ∧ account = ⟨[.present path found], []⟩ := by
  refine says_bind (says_recording path fun _ => rfl) fun found _ hfound => ?_
  subst hfound
  cases found with
  | false => exact says_pure ⟨false, rfl, rfl⟩
  | true => exact says_pure ⟨true, rfl, rfl⟩

theorem says_planManagement (management : Path) :
    Says fs (planManagement fs.recorded management) fun planned account => ∃ listing,
      planned = Survey.managementPlanned management listing ∧
        account = ⟨Survey.managementExchanges management listing, []⟩ := by
  refine says_bind (says_recording management fun _ => rfl) fun found _ hfound => ?_
  subst hfound
  cases found with
  | false => exact says_pure ⟨none, rfl, rfl⟩
  | true =>
    refine says_bind (says_recording management fun _ => rfl) fun answer _ hanswer => ?_
    subst hanswer
    cases answer with
    | error reason => exact says_pure ⟨some (.error reason), rfl, rfl⟩
    | ok entries => exact says_pure ⟨some (.ok entries), rfl, rfl⟩

/-- **Every plan has a survey**: it says what the survey spells out, and lists what it found. -/
theorem says_plan (suffixes : Suffixes) (f : Footprint) :
    Says fs (plan fs.recorded suffixes f) fun planned account => ∃ v : Survey,
      planned = v.planned suffixes f ∧ account = ⟨v.exchanges suffixes f, []⟩ := by
  refine says_bind (says_planManagement _) fun management _ h₁ => ?_
  refine says_bind (says_planPresent _ _) fun primary _ h₂ => ?_
  refine says_bind (says_planPresent _ _) fun note _ h₃ => says_pure ?_
  obtain ⟨listing, rfl, rfl⟩ := h₁
  obtain ⟨foundPrimary, rfl, rfl⟩ := h₂
  obtain ⟨foundNote, rfl, rfl⟩ := h₃
  refine ⟨⟨listing, foundPrimary, foundNote⟩, rfl, ?_⟩
  simp only [Record.andThen, Survey.exchanges, List.cons_append, List.nil_append]

end

end Reclaim
