import Reclaim.Proofs.Reclamation.Course

/-!
# Every run has a course

What each part of a run says and what it amounts to, in the order in which the parts are written: a
deletion, the loop over the entries, a visit, the sweep. The record of a part is that of attempts,
and its tally is what they amount to.

**The law** (`says_reclaim`): whatever the filesystem, a run of reclaiming has a course, says what
the course spells out and nothing else, and reports the outcome of the course.
-/

namespace Reclaim

variable {σ : Type} {fs : Filesystem (StateM σ)}

/-- **What a part of a run says**: `Q` holds of its calls and of what it amounts to, and it warns of
what its tally holds. -/
def Recounts (fs : Filesystem (StateM σ)) (x : StateT Record (StateM σ) Tally)
    (Q : List Exchange → Tally → Prop) : Prop :=
  Says fs x fun tally account =>
    Q account.exchanges tally ∧ account.warnings = tally.warnings.map Warning.text

theorem says_remove (kind : ArtifactKind) (path : Path) :
    Says fs (fs.recorded.remove kind path) fun answer account =>
      account = ⟨[.removal kind path answer], []⟩ := by
  cases kind with
  | managementDirectory => exact says_recording path fun _ => rfl
  | managementEntry => exact says_recording path fun _ => rfl
  | primary => exact says_recording path fun _ => rfl
  | notification => exact says_recording path fun _ => rfl

theorem recounts_leave (kind : ArtifactKind) (path : Path) (reason : String) :
    Recounts fs (leave .recorded kind path reason) fun log tally =>
      log = [] ∧ tally = .ofWarning ⟨kind, path, reason⟩ := by
  refine says_bind (says_warned _) fun _ account h => says_pure ⟨⟨?_, rfl⟩, ?_⟩
  · subst h; rfl
  · subst h; rfl

theorem recounts_attempt (kind : ArtifactKind) (path : Path) :
    Recounts fs (attempt fs.recorded .recorded kind path) fun log tally =>
      ∃ t : Trial, log = Attempt.exchanges ⟨t, kind, path⟩ ∧ tally = .ofAttempts [⟨t, kind, path⟩] := by
  refine says_bind (says_recording path fun _ => rfl) fun size _ hsize => ?_
  refine says_bind (says_remove kind path) fun answer _ hanswer => ?_
  subst hsize hanswer
  cases answer with
  | ok =>
    refine says_bind (says_pure (Q := fun _ account => account = {}) rfl) fun _ _ h =>
      says_pure ⟨⟨⟨size, .ok ()⟩, ?_, ?_⟩, ?_⟩
    · subst h; rfl
    · rfl
    · subst h; rfl
  | error reason =>
    refine (recounts_leave kind path reason).mono fun tally account h =>
      ⟨⟨⟨size, .error reason⟩, ?_, ?_⟩, h.2⟩
    · simp only [Record.andThen, h.1.1]; rfl
    · rw [h.1.2]; rfl

/-- **The loop over the entries**, by induction on the listing: one trial to each entry. -/
theorem recounts_attemptEntries (paths : List Path) :
    Recounts fs (attemptEntries fs.recorded .recorded paths) fun log tally =>
      ∃ entries : List (Path × Trial), entries.map Prod.fst = paths ∧
        log = (Sweep.listed entries).attempts.flatMap Attempt.exchanges ∧
        tally = .ofAttempts (Sweep.listed entries).attempts := by
  induction paths with
  | nil => exact says_pure ⟨⟨[], rfl, rfl, rfl⟩, rfl⟩
  | cons path rest ih =>
    refine says_bind (recounts_attempt _ path) fun first account hfirst => ?_
    refine says_bind ih fun others more hothers => says_pure ?_
    obtain ⟨⟨t, hlog, htally⟩, hwarned⟩ := hfirst
    obtain ⟨⟨entries, hpaths, hlog', htally'⟩, hwarned'⟩ := hothers
    refine ⟨⟨(path, t) :: entries, ?_, ?_, ?_⟩, ?_⟩
    · rw [List.map_cons, hpaths]
    · simp only [Record.andThen, hlog, hlog', List.append_nil]; rfl
    · rw [htally, htally', ← Tally.ofAttempts_append]; rfl
    · simp only [Record.andThen, Tally.andThen, hwarned, hwarned', List.map_append, List.append_nil]

theorem recounts_attemptPresent (kind : ArtifactKind) (path : Path) :
    Recounts fs (attemptPresent fs.recorded .recorded kind path) fun log tally =>
      ∃ v : Visit, log = v.exchanges kind path ∧ tally = .ofAttempts (v.attempts kind path) := by
  refine says_bind (says_recording path fun _ => rfl) fun found _ hfound => ?_
  subst hfound
  cases found with
  | false => exact says_pure ⟨⟨none, rfl, rfl⟩, rfl⟩
  | true =>
    refine (recounts_attempt kind path).mono fun tally account h => ?_
    obtain ⟨⟨t, hlog, htally⟩, hwarned⟩ := h
    refine ⟨⟨some t, ?_, htally⟩, hwarned⟩
    simp only [Record.andThen, hlog]; rfl

theorem recounts_sweep (directory : Path) :
    Recounts fs (sweep fs.recorded .recorded directory) fun log tally =>
      ∃ w : Sweep, log = w.exchanges directory ∧
        tally = Tally.andThen ⟨w.warnings directory, [], 0⟩ (.ofAttempts w.attempts) := by
  refine says_bind (says_recording directory fun _ => rfl) fun found _ hfound => ?_
  subst hfound
  cases found with
  | false => exact says_pure ⟨⟨.absent, rfl, rfl⟩, rfl⟩
  | true =>
    refine says_bind (says_recording directory fun _ => rfl) fun listing _ hlisting => ?_
    subst hlisting
    cases listing with
    | error reason =>
      refine (recounts_leave _ directory reason).mono fun tally account h =>
        ⟨⟨.unreadable reason, ?_, h.1.2⟩, h.2⟩
      simp only [Record.andThen, h.1.1]; rfl
    | ok paths =>
      refine (recounts_attemptEntries paths).mono fun tally account h => ?_
      obtain ⟨⟨entries, hpaths, hlog, htally⟩, hwarned⟩ := h
      refine ⟨⟨.listed entries, ?_, ?_⟩, hwarned⟩
      · simp only [Record.andThen, hlog, Sweep.exchanges, hpaths]; rfl
      · rw [htally]; simp [Tally.andThen, Sweep.warnings]

/-- **Every run has a course**: it says what the course spells out, and reports its outcome. -/
theorem says_reclaim (suffixes : Suffixes) (f : Footprint) :
    Says fs (reclaim fs.recorded .recorded suffixes f) fun o account => ∃ c : Course,
      o = c.outcome suffixes f ∧
        account = ⟨c.exchanges suffixes f, (c.warnings suffixes f).map Warning.text⟩ := by
  refine says_bind (recounts_sweep _) fun entries r₁ h₁ => ?_
  refine says_bind (recounts_attemptPresent _ _) fun directory r₂ h₂ => ?_
  refine says_bind (recounts_attemptPresent _ _) fun primary r₃ h₃ => ?_
  refine says_bind (recounts_attemptPresent _ _) fun note r₄ h₄ => says_pure ?_
  obtain ⟨⟨w, hlog₁, ht₁⟩, hw₁⟩ := h₁
  obtain ⟨⟨v₂, hlog₂, ht₂⟩, hw₂⟩ := h₂
  obtain ⟨⟨v₃, hlog₃, ht₃⟩, hw₃⟩ := h₃
  obtain ⟨⟨v₄, hlog₄, ht₄⟩, hw₄⟩ := h₄
  subst ht₁ ht₂ ht₃ ht₄
  refine ⟨⟨w, v₂, v₃, v₄⟩, ?_, ?_⟩
  · simp only [Course.outcome, Course.verdict, Course.warnings, Course.attempts, Tally.andThen,
      Tally.ofAttempts, Visit.isEmpty_warnings, List.filterMap_append,
      Attempt.bytesFreed_append, List.nil_append, List.append_assoc, Nat.zero_add]
  · simp only [Record.andThen, hlog₁, hlog₂, hlog₃, hlog₄, hw₁, hw₂, hw₃, hw₄, Course.exchanges,
      Course.warnings, Course.attempts, Tally.andThen, Tally.ofAttempts, List.filterMap_append,
      List.map_append, List.append_assoc, List.append_nil]

end Reclaim
