import Reclaim.Proofs.Store.Answers

/-!
# Deletions in a scripted store

What an attempt, a visit and the loop over a listing come to, read off the state before them. A
removal goes through exactly when the artifact was `Removable` to begin with, and a visit finds
exactly what stood.

Hooks may act meanwhile, as long as they spare the path in question. Where the artifact is removed as
a directory they spare its children too, since those decide whether it is empty.

**The loop** (`mem_removed_entries`): of the paths of a listing just those are removed that were
removable when the loop began, however often the listing names them.
-/

namespace Reclaim.ScriptedStore

variable {s t : ScriptedStore} {kind : ArtifactKind} {path q : Path} {trial : Trial} {v : Visit}

/-- **The hooks spare an artifact**: its path, and what decides whether it may go. -/
def SparesArtifact (s : ScriptedStore) (kind : ArtifactKind) (path : Path) : Prop :=
  s.Spares path ∧
    (kind = .managementDirectory → ∀ c, Store.isChild path c = true → s.Spares c)

theorem Spares.file (h : s.Spares path) (hk : kind ≠ .managementDirectory) :
    s.SparesArtifact kind path :=
  ⟨h, fun e => absurd e hk⟩

theorem Spares.entry (h : s.Spares path) : s.SparesArtifact .managementEntry path :=
  h.file (by decide)

/-- A directory is empty when no child has a node. -/
theorem childrenOf_eq_nil {s : Store} :
    s.childrenOf path = [] ↔ ∀ c, Store.isChild path c = true → s.get? c = none := by
  rw [List.eq_nil_iff_forall_not_mem]
  refine forall_congr' fun c => ?_
  rw [Store.mem_childrenOf, not_and, Option.not_isSome_iff_eq_none]

/-- What is removed as a file is removable unless it is set to fail or is a directory. -/
theorem removable_file (hk : kind ≠ .managementDirectory) :
    s.Removable kind path ↔
      s.failure? .removeFile path = none ∧ s.store.get? path ≠ some .directory := by
  cases kind with
  | managementDirectory => exact absurd rfl hk
  | managementEntry => exact Iff.rfl
  | primary => exact Iff.rfl
  | notification => exact Iff.rfl

/-- What a store yields is read off the node, and of a directory off the children. -/
theorem yields_congr {a b : Store} (hnode : b.get? path = a.get? path)
    (below : kind = .managementDirectory →
      ∀ c, Store.isChild path c = true → b.get? c = a.get? c) :
    b.Yields kind path ↔ a.Yields kind path := by
  cases kind with
  | managementDirectory =>
    change b.childrenOf path = [] ↔ a.childrenOf path = []
    rw [childrenOf_eq_nil, childrenOf_eq_nil]
    exact forall₂_congr fun c child => by rw [below rfl c child]
  | managementEntry => exact iff_of_eq (congrArg (· ≠ some Node.directory) hnode)
  | primary => exact iff_of_eq (congrArg (· ≠ some Node.directory) hnode)
  | notification => exact iff_of_eq (congrArg (· ≠ some Node.directory) hnode)

/-- Removability is read off the failures and the nodes in question. -/
theorem removable_congr (hfailures : t.failure? = s.failure?)
    (hnode : t.store.get? path = s.store.get? path)
    (below : kind = .managementDirectory →
      ∀ c, Store.isChild path c = true → t.store.get? c = s.store.get? c) :
    t.Removable kind path ↔ s.Removable kind path :=
  and_congr (by rw [hfailures]) (yields_congr hnode below)

theorem removable_fire (spared : s.SparesArtifact kind path) (call : CallKind) (on : Path) :
    (s.fire call on).Removable kind path ↔ s.Removable kind path :=
  removable_congr rfl (get?_fire spared.1 call on) fun hk c hc =>
    get?_fire (spared.2 hk c hc) call on

theorem SparesArtifact.fire (spared : s.SparesArtifact kind path) (call : CallKind) (on : Path) :
    (s.fire call on).SparesArtifact kind path :=
  ⟨spared.1.fire call on, fun hk c hc => (spared.2 hk c hc).fire call on⟩

/-! ## One attempt -/

/-- **An attempt succeeds exactly when the artifact is removable.** -/
theorem answer_eq_ok_iff (spared : s.SparesArtifact kind path)
    (h : Replay filesystem s (Attempt.exchanges ⟨trial, kind, path⟩) t) :
    trial.answer = .ok () ↔ s.Removable kind path := by
  obtain ⟨u, hsize, hrest⟩ := Replay.cons_iff.mp h
  obtain ⟨-, hu⟩ := Prod.mk.inj ((fileSize_run s path).symm.trans hsize)
  subst hu
  obtain ⟨v, hremoval, -⟩ := Replay.cons_iff.mp hrest
  have hrun := Exchange.takesPlace_removal.mp hremoval
  have hsame : ((s.fire .fileSize path).fire kind.removal path).Removable kind path ↔
      s.Removable kind path :=
    (removable_fire (spared.fire _ _) _ _).trans (removable_fire spared _ _)
  rcases remove_cases (s.fire .fileSize path) kind path with ⟨hyes, hok⟩ | ⟨hno, reason, herror⟩
  · obtain ⟨hanswer, -⟩ := Prod.mk.inj (hok.symm.trans hrun)
    exact iff_of_true hanswer.symm (hsame.mp hyes)
  · obtain ⟨hanswer, -⟩ := Prod.mk.inj (herror.symm.trans hrun)
    refine iff_of_false (fun hok => ?_) (mt hsame.mpr hno)
    cases hanswer.trans hok

/-- A path that was not removed stands as it did. -/
theorem Keeps.stands {removed : List Path} (h : Keeps path s t removed)
    (unremoved : path ∉ removed) : t.stands path = s.stands path := by
  rw [ScriptedStore.stands, ScriptedStore.stands, h.failures, h.node, if_neg unremoved]

theorem Keeps.removable {removed : List Path} (h : Keeps path s t removed)
    (unremoved : path ∉ removed) (hk : kind ≠ .managementDirectory) :
    t.Removable kind path ↔ s.Removable kind path := by
  have hsame := h.node
  rw [if_neg unremoved] at hsame
  exact removable_congr h.failures hsame fun e => absurd e hk

/-- Files that are removable stay so, and others do not become so, while files are removed. -/
theorem removable_attempt (spared : s.Spares path) (hq : s.Spares q)
    (h : Replay filesystem s (Attempt.exchanges ⟨trial, .managementEntry, path⟩) t) :
    t.Removable .managementEntry q ↔ s.Removable .managementEntry q := by
  have kept := keeps_replay hq h
  rw [Exchange.reads_removed?.attempt] at kept
  by_cases hremoved : q ∈ (Attempt.removed? ⟨trial, .managementEntry, path⟩).toList
  · have hgone := kept.node
    rw [if_pos hremoved] at hgone
    obtain ⟨rfl, hok⟩ := Attempt.removed?_eq_some.mp (Option.mem_toList.mp hremoved)
    have hwas := (answer_eq_ok_iff spared.entry h).mp hok
    refine iff_of_true ⟨?_, ?_⟩ hwas
    · rw [kept.failures]
      exact hwas.1
    · change t.store.get? path ≠ some .directory
      rw [hgone]
      exact (Option.some_ne_none _).symm
  · exact kept.removable hremoved (by decide)

/-- **The loop over a listing**, by induction on the listing: of its paths, just those are removed
that were removable when the loop began. -/
theorem mem_removed_entries {entries : List (Path × Trial)} (spared : ∀ q, s.Spares q)
    (h : Replay filesystem s ((Sweep.listed entries).attempts.flatMap Attempt.exchanges) t) :
    q ∈ (Sweep.listed entries).attempts.filterMap Attempt.removed? ↔
      q ∈ entries.map Prod.fst ∧ s.Removable .managementEntry q := by
  induction entries generalizing s with
  | nil => simp [Sweep.attempts]
  | cons e entries ih =>
    obtain ⟨path, trial⟩ := e
    rw [Sweep.flatMap_attempts_cons] at h
    obtain ⟨u, hfirst, hrest⟩ := Replay.append_iff.mp h
    have kept : ∀ q, u.Spares q := fun q => (keeps_replay (spared q) hfirst).spares
    have hhead := answer_eq_ok_iff (spared path).entry hfirst
    have htail := ih kept hrest
    rw [removable_attempt (spared path) (spared q) hfirst] at htail
    rw [Sweep.attempts_cons, Attempt.filterMap_removed?_cons, List.mem_append, htail,
      Option.mem_toList, Attempt.removed?_eq_some, List.map_cons, List.mem_cons]
    constructor
    · rintro (⟨rfl, hok⟩ | ⟨hlisted, hremovable⟩)
      · exact ⟨.inl rfl, hhead.mp hok⟩
      · exact ⟨.inr hlisted, hremovable⟩
    · rintro ⟨rfl | hlisted, hremovable⟩
      · exact .inl ⟨rfl, hhead.mpr hremovable⟩
      · exact .inr ⟨hlisted, hremovable⟩

/-! ## One visit -/

theorem stands_fire (spared : s.Spares path) (call : CallKind) (on : Path) :
    (s.fire call on).stands path = s.stands path := by
  rw [stands, stands, failure?_fire, get?_fire spared]

/-- **A visit finds what stands.** -/
theorem isSome_visit (spared : s.Spares path)
    (h : Replay filesystem s (v.exchanges kind path) t) :
    v.isSome = s.stands path := by
  obtain ⟨u, hfound, -⟩ := Replay.cons_iff.mp h
  obtain ⟨hstands, -⟩ := Prod.mk.inj ((present_run s path).symm.trans hfound)
  rw [← hstands, stands_fire spared]

theorem visit_answer_eq_ok_iff (spared : s.SparesArtifact kind path)
    (h : Replay filesystem s (Visit.exchanges kind path (some trial)) t) :
    trial.answer = .ok () ↔ s.Removable kind path := by
  rw [Visit.exchanges_some] at h
  obtain ⟨u, hpresent, hattempt⟩ := Replay.cons_iff.mp h
  obtain ⟨-, hu⟩ := Prod.mk.inj ((present_run s path).symm.trans hpresent)
  subst hu
  rw [answer_eq_ok_iff (spared.fire _ _) hattempt, removable_fire spared]

/-- **A visit removes what stands and is removable.** -/
theorem mem_removed_visit (spared : s.SparesArtifact kind path)
    (h : Replay filesystem s (v.exchanges kind path) t) :
    q ∈ (v.attempts kind path).filterMap Attempt.removed? ↔
      q = path ∧ s.stands path = true ∧ s.Removable kind path := by
  have hfound := isSome_visit spared.1 h
  cases v with
  | none => simp [Visit.attempts, ← hfound]
  | some trial =>
    rw [Visit.mem_removed?_some, visit_answer_eq_ok_iff spared h, ← hfound]
    constructor
    · rintro ⟨rfl, hremovable⟩
      exact ⟨rfl, rfl, hremovable⟩
    · rintro ⟨rfl, -, hremovable⟩
      exact ⟨rfl, hremovable⟩

/-- **A visit leaves no warning** exactly when what stands is removable. -/
theorem visit_succeeds_iff (spared : s.SparesArtifact kind path)
    (h : Replay filesystem s (v.exchanges kind path) t) :
    (v = none ∨ ∃ size, v = some ⟨size, .ok ()⟩) ↔
      (s.stands path = true → s.Removable kind path) := by
  have hfound := isSome_visit spared.1 h
  rw [← hfound]
  cases v with
  | none => exact iff_of_true (.inl rfl) fun hsome => absurd hsome Bool.false_ne_true
  | some trial =>
    rw [← visit_answer_eq_ok_iff spared h]
    obtain ⟨size, answer⟩ := trial
    simp

theorem eq_of_mem_removed_visit (h : q ∈ (v.attempts kind path).filterMap Attempt.removed?) :
    q = path := by
  cases v with
  | none => cases h
  | some trial => exact (Visit.mem_removed?_some.mp h).1.symm

/-! ## A file that can be seen -/

theorem stands_of_visible (visible : s.failure? .present path = none) :
    s.stands path = (s.store.get? path).isSome := by
  rw [stands, visible]
  rfl

/-- **A visit leaves nothing behind** exactly when it leaves no warning. -/
theorem gone_visit_iff (hk : kind ≠ .managementDirectory) (spared : s.Spares path)
    (visible : s.failure? .present path = none)
    (h : Replay filesystem s (v.exchanges kind path) t) :
    t.store.get? path = none ↔ (s.stands path = true → s.Removable kind path) := by
  have removed_iff := mem_removed_visit (q := path) (spared.file hk) h
  rw [(keeps_replay spared h).node, Visit.filterMap_removed?]
  by_cases removed : path ∈ (v.attempts kind path).filterMap Attempt.removed?
  · rw [if_pos removed]
    exact iff_of_true rfl fun _ => (removed_iff.mp removed).2.2
  · rw [if_neg removed]
    constructor
    · intro gone stood
      rw [stands_of_visible visible, gone] at stood
      cases stood
    · intro free
      refine Option.not_isSome_iff_eq_none.mp fun stood => removed ?_
      rw [← stands_of_visible visible] at stood
      exact removed_iff.mpr ⟨rfl, stood, free stood⟩

/-- **What a visit leaves behind stays stuck**: as a file of another kind it cannot be removed
either, since the same failure or the same directory is in the way. -/
theorem stuck_of_visit (hk : kind ≠ .managementDirectory) (spared : s.Spares path)
    (visible : s.failure? .present path = none)
    (h : Replay filesystem s (v.exchanges kind path) t) (left : t.store.get? path ≠ none)
    {other : ArtifactKind} (hother : other ≠ .managementDirectory) :
    ¬ t.Removable other path := by
  have kept := keeps_replay spared h
  intro free
  refine left ((gone_visit_iff hk spared visible h).mpr fun _ => ?_)
  have unremoved : path ∉ (v.exchanges kind path).filterMap Exchange.removed? := fun removed =>
    left (kept.node.trans (if_pos removed))
  rw [kept.removable unremoved hother, removable_file hother] at free
  exact (removable_file hk).mpr free

end Reclaim.ScriptedStore

/-! ## A database in memory -/

namespace Reclaim

/-- The database at `/d/a`. -/
def Footprint.sample : Footprint where
  primary := .ofString "/d/a"
  root := .ofString "/d"
  name := "a"
  absolute := by decide
  canonical := by decide
  single := by decide
  rooted := by decide

/-- Its artifacts under the standard suffixes, with one entry in the management directory. -/
def Store.sample : Store where
  entries := [(.ofString "/d/a.management", .directory), (.ofString "/d/a.management/lock", .file 1),
    (.ofString "/d/a", .file 8), (.ofString "/d/a.note", .file 2)]
  distinct := by decide

end Reclaim
