import Reclaim.Proofs.Store.Quiet

/-!
# Refusals of a quiet store

A removal goes through, or it is **refused** for one reason (`refusal?`): the failure that is set for
it, or what the store itself has against it. On a quiet store nothing acts between the calls, so the
reason is read off the state before the attempt, and so is the **warning** that the artifact becomes
(`warning?`).

**The law** (`Quiet.attempt`): an attempt takes away the node at its path and is not refused, or is
refused and changes nothing. What a visit or a sweep warns of is then a function of the state it
starts in (`visitWarnings`, `listingWarnings`, `entryWarnings`), and a log without a removal that
succeeded leaves its state as it was (`Quiet.idle`).

The entries of a listing are tried one after the other, each in the store that the ones before it
left. Their warnings are still those of the first state: what was removed as a file is not refused
afterwards, and what is left stands as it did.
-/

namespace Reclaim

/-- What a store has against a removal that it does not yield to. -/
def Store.objection : ArtifactKind → Refusal
  | .managementDirectory => .notEmpty
  | .managementEntry | .primary | .notification => .isDirectory

theorem Store.delete_refused {s : Store} {kind : ArtifactKind} {path : Path}
    (h : ¬ s.Yields kind path) : s.delete kind path = .error (objection kind) := by
  cases kind with
  | managementDirectory => exact if_neg (mt List.isEmpty_iff.mp h)
  | managementEntry => exact if_pos (Classical.not_not.mp h)
  | primary => exact if_pos (Classical.not_not.mp h)
  | notification => exact if_pos (Classical.not_not.mp h)

namespace ScriptedStore

/-- **Why a removal is refused**, if it is. -/
def refusal? (s : ScriptedStore) (kind : ArtifactKind) (path : Path) : Option String :=
  match s.failure? kind.removal path with
  | some reason => some reason
  | none =>
    match s.store.delete kind path with
    | .ok _ => none
    | .error refusal => some refusal.message

/-- **The warning that an artifact becomes**, if its removal is refused. -/
def warning? (s : ScriptedStore) (kind : ArtifactKind) (path : Path) : Option Warning :=
  (s.refusal? kind path).map fun reason => ⟨kind, path, reason⟩

/-- What a visit warns of. -/
def visitWarnings (s : ScriptedStore) (kind : ArtifactKind) (path : Path) : List Warning :=
  if s.stands path then (s.warning? kind path).toList else []

/-- What a sweep warns of the directory: that it stands and cannot be listed. -/
def listingWarnings (s : ScriptedStore) (directory : Path) : List Warning :=
  if s.stands directory then
    match s.listing directory with
    | .ok _ => []
    | .error reason => [⟨.managementDirectory, directory, reason⟩]
  else []

/-- What a sweep warns of the entries. -/
def entryWarnings (s : ScriptedStore) (directory : Path) : List Warning :=
  (s.found directory).filterMap (s.warning? .managementEntry)

variable {s t : ScriptedStore} {kind : ArtifactKind} {path directory q : Path} {trial : Trial}
  {v : Visit} {w : Sweep} {log : List Exchange}

/-! ## The reason -/

theorem refusal?_eq_none_iff : s.refusal? kind path = none ↔ s.Removable kind path := by
  unfold refusal? Removable
  cases s.failure? kind.removal path with
  | some reason => simp
  | none =>
    by_cases yields : s.store.Yields kind path
    · simp [Store.delete_of_yields yields, yields]
    · simp [Store.delete_refused yields, yields]

theorem warning?_eq_none_iff : s.warning? kind path = none ↔ s.Removable kind path := by
  rw [warning?, Option.map_eq_none_iff, refusal?_eq_none_iff]

/-- Two stores that yield alike refuse for the same reason. -/
theorem refusal?_congr (failures : t.failure? = s.failure?)
    (yields : t.store.Yields kind path ↔ s.store.Yields kind path) :
    t.refusal? kind path = s.refusal? kind path := by
  unfold refusal?
  rw [failures]
  by_cases h : s.store.Yields kind path
  · rw [Store.delete_of_yields h, Store.delete_of_yields (yields.mpr h)]
  · rw [Store.delete_refused h, Store.delete_refused (mt yields.mp h)]

theorem warning?_congr (failures : t.failure? = s.failure?)
    (yields : t.store.Yields kind path ↔ s.store.Yields kind path) :
    t.warning? kind path = s.warning? kind path := by
  rw [warning?, warning?, refusal?_congr failures yields]

/-! ## One attempt -/

theorem Quiet.sparesArtifact (quiet : s.Quiet) (kind : ArtifactKind) (path : Path) :
    s.SparesArtifact kind path :=
  ⟨quiet.spares path, fun _ c _ => quiet.spares c⟩

theorem Quiet.fileSize (quiet : s.Quiet) {answer : Option Nat}
    (h : (Exchange.fileSize path answer).TakesPlace filesystem s t) :
    answer = s.measured path ∧ t = s := by
  have hrun := (fileSize_run s path).symm.trans h
  rw [quiet.fire] at hrun
  obtain ⟨hanswer, hstate⟩ := Prod.mk.inj hrun
  exact ⟨hanswer.symm, hstate.symm⟩

/-- **A removal goes through, or is refused and changes nothing.** -/
theorem Quiet.removal (quiet : s.Quiet) {answer : Except String Unit}
    (h : (Exchange.removal kind path answer).TakesPlace filesystem s t) :
    (s.refusal? kind path = none ∧ answer = .ok () ∧ t = s.change (·.erase path)) ∨
      ∃ reason, s.refusal? kind path = some reason ∧ answer = .error reason ∧ t = s := by
  have hrun := Exchange.takesPlace_removal.mp h
  rw [remove_run, quiet.fire] at hrun
  unfold refusal?
  cases hfail : s.failure? kind.removal path with
  | some reason =>
    rw [hfail] at hrun
    obtain ⟨rfl, rfl⟩ := Prod.mk.inj hrun
    exact .inr ⟨reason, rfl, rfl, rfl⟩
  | none =>
    rw [hfail] at hrun
    by_cases yields : s.store.Yields kind path
    · rw [Store.delete_of_yields yields] at hrun ⊢
      obtain ⟨rfl, rfl⟩ := Prod.mk.inj hrun
      exact .inl ⟨rfl, rfl, rfl⟩
    · rw [Store.delete_refused yields] at hrun ⊢
      obtain ⟨rfl, rfl⟩ := Prod.mk.inj hrun
      exact .inr ⟨_, rfl, rfl, rfl⟩

/-- **An attempt** reads the size, and then goes through or is refused. -/
theorem Quiet.attempt (quiet : s.Quiet)
    (h : Replay filesystem s (Attempt.exchanges ⟨trial, kind, path⟩) t) :
    trial.size = s.measured path ∧
      ((s.refusal? kind path = none ∧ trial.answer = .ok () ∧ t = s.change (·.erase path)) ∨
        ∃ reason, s.refusal? kind path = some reason ∧ trial.answer = .error reason ∧ t = s) := by
  obtain ⟨u, hsize, hrest⟩ := Replay.cons_iff.mp h
  obtain ⟨measured, rfl⟩ := quiet.fileSize hsize
  obtain ⟨u', hremoval, hlast⟩ := Replay.cons_iff.mp hrest
  obtain rfl := Replay.nil_iff.mp hlast
  exact ⟨measured, quiet.removal hremoval⟩

/-- An attempt warns of what is refused. -/
theorem Quiet.warning?_attempt (quiet : s.Quiet)
    (h : Replay filesystem s (Attempt.exchanges ⟨trial, kind, path⟩) t) :
    Attempt.warning? ⟨trial, kind, path⟩ = s.warning? kind path := by
  obtain ⟨size, answer⟩ := trial
  rcases (quiet.attempt h).2 with ⟨free, rfl, -⟩ | ⟨reason, refused, rfl, -⟩
  · rw [warning?, free]
    rfl
  · rw [warning?, refused]
    rfl

/-! ## Whole logs -/

/-- **One exchange** takes away what it removed, or changes nothing. -/
theorem Quiet.step (quiet : s.Quiet) {e : Exchange} (h : e.TakesPlace filesystem s t) :
    (e.removed? = none ∧ t = s) ∨
      ∃ path, e.removed? = some path ∧ t = s.change (·.erase path) := by
  cases e with
  | present on answer => exact .inl ⟨rfl, (quiet.present h).2⟩
  | children on answer => exact .inl ⟨rfl, (quiet.children h).2⟩
  | fileSize on answer => exact .inl ⟨rfl, (quiet.fileSize h).2⟩
  | removeFile on answer =>
    have tried : (Exchange.removal .primary on answer).TakesPlace filesystem s t := h
    rcases quiet.removal tried with ⟨-, rfl, rfl⟩ | ⟨_, -, rfl, rfl⟩
    · exact .inr ⟨on, rfl, rfl⟩
    · exact .inl ⟨rfl, rfl⟩
  | removeEmptyDirectory on answer =>
    have tried : (Exchange.removal .managementDirectory on answer).TakesPlace filesystem s t := h
    rcases quiet.removal tried with ⟨-, rfl, rfl⟩ | ⟨_, -, rfl, rfl⟩
    · exact .inr ⟨on, rfl, rfl⟩
    · exact .inl ⟨rfl, rfl⟩

/-- Behind a log the script is what it was: the failures stay set. -/
theorem Quiet.script (quiet : s.Quiet) (h : Replay filesystem s log t) : t.script = s.script := by
  induction h with
  | nil => rfl
  | @cons e log s u t first _ ih =>
    have same : u.script = s.script := by
      rcases quiet.step first with ⟨-, rfl⟩ | ⟨path, -, rfl⟩
      · rfl
      · rfl
    have still : u.Quiet := (congrArg Script.hooks same).trans quiet
    exact (ih still).trans same

theorem Quiet.replay (quiet : s.Quiet) (h : Replay filesystem s log t) : t.Quiet :=
  (congrArg Script.hooks (quiet.script h)).trans quiet

/-- **Behind a log the store is that of before without what was removed**, by induction on the log. -/
theorem Quiet.behind (quiet : s.Quiet) (h : Replay filesystem s log t) :
    t = s.change (·.eraseAll (log.filterMap Exchange.removed?)) := by
  induction h with
  | nil => rfl
  | @cons e log s u t first rest ih =>
    rw [ih (quiet.replay (.cons first (.nil u))), List.filterMap_cons]
    rcases quiet.step first with ⟨nothing, rfl⟩ | ⟨path, removed, rfl⟩
    · rw [nothing]
    · rw [removed]
      rfl

theorem Quiet.failures (quiet : s.Quiet) (h : Replay filesystem s log t) :
    t.failure? = s.failure? := by
  unfold failure?
  rw [quiet.script h]

/-- **A log that removes nothing leaves the store as it was**, by induction on the log. -/
theorem Quiet.idle (quiet : s.Quiet) (h : Replay filesystem s log t)
    (nothing : log.filterMap Exchange.removed? = []) : t = s := by
  induction h with
  | nil => rfl
  | @cons e log s u t first _ ih =>
    have none : ∀ e' ∈ e :: log, e'.removed? = none := List.filterMap_eq_nil_iff.mp nothing
    obtain ⟨hfirst, hrest⟩ := List.forall_mem_cons.mp none
    rcases quiet.step first with ⟨-, rfl⟩ | ⟨path, removed, -⟩
    · exact ih quiet (List.filterMap_eq_nil_iff.mpr hrest)
    · cases hfirst.symm.trans removed

/-! ## What a visit and a sweep warn of -/

/-- **A visit warns of what stands and is refused.** -/
theorem Quiet.warnings_visit (quiet : s.Quiet)
    (h : Replay filesystem s (v.exchanges kind path) t) :
    (v.attempts kind path).filterMap Attempt.warning? = s.visitWarnings kind path := by
  obtain ⟨u, hfound, hrest⟩ := Replay.cons_iff.mp h
  obtain ⟨stood, rfl⟩ := quiet.present hfound
  rw [visitWarnings, ← stood]
  cases v with
  | none => rfl
  | some trial =>
    have tried : Replay filesystem u (Attempt.exchanges ⟨trial, kind, path⟩) t := by
      rw [Visit.attempts_some, List.flatMap_singleton] at hrest
      exact hrest
    rw [Visit.attempts_some, ← quiet.warning?_attempt tried, List.filterMap_cons]
    cases Attempt.warning? ⟨trial, kind, path⟩ <;> rfl

/-- Behind an attempt on one entry the others are refused as before. -/
theorem Quiet.warning?_entry (quiet : s.Quiet)
    (h : Replay filesystem s (Attempt.exchanges ⟨trial, .managementEntry, path⟩) t) (q : Path) :
    t.warning? .managementEntry q = s.warning? .managementEntry q := by
  rcases (quiet.attempt h).2 with ⟨free, -, rfl⟩ | ⟨_, -, -, rfl⟩
  · by_cases hq : q = path
    · subst hq
      have removable := refusal?_eq_none_iff.mp free
      refine warning?_congr rfl (iff_of_true ?_ removable.2)
      change (s.store.erase q).get? q ≠ some .directory
      simp
    · refine warning?_congr rfl ?_
      change (s.store.erase path).get? q ≠ _ ↔ s.store.get? q ≠ _
      rw [Keyed.get?_erase, if_neg hq]
  · rfl

/-- **The loop over a listing**, by induction on the listing: it warns of the entries that are
refused to begin with. -/
theorem Quiet.warnings_entries {entries : List (Path × Trial)} (quiet : s.Quiet)
    (h : Replay filesystem s ((Sweep.listed entries).attempts.flatMap Attempt.exchanges) t) :
    (Sweep.listed entries).attempts.filterMap Attempt.warning? =
      (entries.map Prod.fst).filterMap (s.warning? .managementEntry) := by
  induction entries generalizing s with
  | nil => rfl
  | cons e entries ih =>
    obtain ⟨path, trial⟩ := e
    rw [Sweep.flatMap_attempts_cons] at h
    obtain ⟨u, hfirst, hrest⟩ := Replay.append_iff.mp h
    have rest := ih (quiet.replay hfirst) hrest
    have unchanged : u.warning? .managementEntry = s.warning? .managementEntry :=
      funext (quiet.warning?_entry hfirst)
    rw [Sweep.attempts_cons, List.filterMap_cons, quiet.warning?_attempt hfirst, rest, unchanged,
      List.map_cons, List.filterMap_cons]

/-- **A sweep warns of a listing that fails, and of the entries that are refused.** -/
theorem Quiet.warnings_sweep (quiet : s.Quiet)
    (h : Replay filesystem s (w.exchanges directory) t) :
    w.warnings directory = s.listingWarnings directory ∧
      w.attempts.filterMap Attempt.warning? = s.entryWarnings directory := by
  unfold listingWarnings entryWarnings found
  cases w with
  | absent =>
    obtain ⟨u, hfound, -⟩ := Replay.cons_iff.mp h
    rw [← (quiet.present hfound).1]
    exact ⟨rfl, rfl⟩
  | unreadable reason =>
    obtain ⟨u, hfound, hrest⟩ := Replay.cons_iff.mp h
    obtain ⟨stood, rfl⟩ := quiet.present hfound
    obtain ⟨u', hlisting, -⟩ := Replay.cons_iff.mp hrest
    rw [← stood, ← (quiet.children hlisting).1]
    exact ⟨rfl, rfl⟩
  | listed entries =>
    obtain ⟨u, hfound, hrest⟩ := Replay.cons_iff.mp h
    obtain ⟨stood, rfl⟩ := quiet.present hfound
    obtain ⟨u', hlisting, htrials⟩ := Replay.cons_iff.mp hrest
    obtain ⟨answered, rfl⟩ := quiet.children hlisting
    rw [← stood, ← answered]
    exact ⟨rfl, quiet.warnings_entries htrials⟩

end ScriptedStore

end Reclaim
