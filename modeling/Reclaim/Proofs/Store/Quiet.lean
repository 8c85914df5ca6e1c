import Reclaim.Proofs.Footprint
import Reclaim.Proofs.Reclamation.Survey
import Reclaim.Proofs.Store.Deletion

/-!
# Quiet stores

A store is **quiet** when no hook waits. Then nothing happens between the calls, and a look changes
nothing: whatever is asked before the first removal is answered by one and the same store. Failures
and listings may be set.

**The entries found** in a directory (`found`) are those of its listing, and none where it does not
stand or cannot be read. A survey lists them, and a sweep tries them (`Quiet.sweep`): one attempt to
each, in the order of the listing and as often as it names them. It removes those that are removable
to begin with.
-/

namespace Reclaim

namespace ScriptedStore

/-- **No hook waits.** -/
def Quiet (s : ScriptedStore) : Prop := s.script.hooks = []

/-- **The entries found** in a directory. -/
def found (s : ScriptedStore) (directory : Path) : List Path :=
  if s.stands directory then Survey.entries (s.listing directory) else []

/-- **What stands of a footprint**, in the order of reclaiming. -/
def standing (s : ScriptedStore) (suffixes : Suffixes) (f : Footprint) : List Planned :=
  (s.found (f.managementDirectory suffixes)).map (.managementEntry, ·) ++
    (Survey.filePlanned .managementDirectory (f.managementDirectory suffixes)
        (s.stands (f.managementDirectory suffixes)) ++
      (Survey.filePlanned .primary f.primary (s.stands f.primary) ++
        Survey.filePlanned .notification (f.notificationFile suffixes)
          (s.stands (f.notificationFile suffixes))))

variable {s t : ScriptedStore}

theorem Quiet.spares (quiet : s.Quiet) (path : Path) : s.Spares path := by
  intro hook hmem
  rw [show s.script.hooks = [] from quiet] at hmem
  cases hmem

theorem Quiet.fire (quiet : s.Quiet) (call : CallKind) (path : Path) : s.fire call path = s := by
  obtain ⟨store, failures, listings, hooks⟩ := s
  obtain rfl : hooks = [] := quiet
  rfl

/-! ## Looks -/

theorem Quiet.present (quiet : s.Quiet) {path : Path} {answer : Bool}
    (h : (Exchange.present path answer).TakesPlace filesystem s t) :
    answer = s.stands path ∧ t = s := by
  have hrun := (present_run s path).symm.trans h
  rw [quiet.fire] at hrun
  obtain ⟨hanswer, hstate⟩ := Prod.mk.inj hrun
  exact ⟨hanswer.symm, hstate.symm⟩

theorem Quiet.children (quiet : s.Quiet) {path : Path} {answer : Except String (List Path)}
    (h : (Exchange.children path answer).TakesPlace filesystem s t) :
    answer = s.listing path ∧ t = s := by
  have hrun := (children_run s path).symm.trans h
  rw [quiet.fire] at hrun
  obtain ⟨hanswer, hstate⟩ := Prod.mk.inj hrun
  exact ⟨hanswer.symm, hstate.symm⟩

theorem Quiet.listed_of_mem_found (quiet : s.Quiet) {directory q : Path}
    (h : q ∈ s.found directory) :
    ∃ entries, ((filesystem.children directory).run s).1 = .ok entries ∧ q ∈ entries := by
  rw [children_run, quiet.fire]
  unfold found at h
  split at h
  · cases hlisting : s.listing directory with
    | ok entries =>
      rw [hlisting] at h
      exact ⟨entries, rfl, h⟩
    | error reason =>
      rw [hlisting] at h
      cases h
  · cases h

/-- **Looks change nothing**, so each sees the first store; by induction on the log. -/
theorem Quiet.looks {log : List Exchange} (quiet : s.Quiet)
    (looks : ∀ e ∈ log, e.kind = .present ∨ e.kind = .children) (h : Replay filesystem s log t) :
    t = s ∧ ∀ e ∈ log, e.TakesPlace filesystem s s := by
  induction h with
  | nil => exact ⟨rfl, fun e he => absurd he List.not_mem_nil⟩
  | @cons e log s u t first _ ih =>
    have same : u = s := by
      rcases e with ⟨path, answer⟩ | ⟨path, answer⟩ | _ | _ | _
      · exact (quiet.present first).2
      · exact (quiet.children first).2
      · rcases looks _ List.mem_cons_self with h | h <;> cases h
      · rcases looks _ List.mem_cons_self with h | h <;> cases h
      · rcases looks _ List.mem_cons_self with h | h <;> cases h
    subst same
    obtain ⟨hlast, hrest⟩ := ih quiet fun e' he' => looks e' (List.mem_cons_of_mem _ he')
    refine ⟨hlast, fun e' he' => ?_⟩
    rcases List.mem_cons.mp he' with rfl | he'
    · exact first
    · exact hrest e' he'

/-- **A survey of a quiet store** changes nothing, and lists what stands in it. -/
theorem Quiet.survey {suffixes : Suffixes} {f : Footprint} {v : Survey} (quiet : s.Quiet)
    (h : Replay filesystem s (v.exchanges suffixes f) t) :
    t = s ∧ v.planned suffixes f = s.standing suffixes f := by
  obtain ⟨hstate, hcalls⟩ := quiet.looks (fun e => Survey.kind_of_mem_exchanges suffixes f) h
  refine ⟨hstate, ?_⟩
  obtain ⟨listing, primary, note⟩ := v
  simp only [Survey.exchanges, List.forall_mem_append, List.forall_mem_cons] at hcalls
  obtain ⟨hmanagement, hprimary, hnote, -⟩ := hcalls
  obtain rfl := (quiet.present hprimary).1
  obtain rfl := (quiet.present hnote).1
  cases listing with
  | none =>
    obtain ⟨hfound, -⟩ := List.forall_mem_cons.mp hmanagement
    have absent := (quiet.present hfound).1
    simp [Survey.planned, Survey.managementPlanned, Survey.filePlanned, standing, found, ← absent]
  | some answer =>
    obtain ⟨hfound, hlisting⟩ := List.forall_mem_cons.mp hmanagement
    obtain ⟨hlisting, -⟩ := List.forall_mem_cons.mp hlisting
    have stood := (quiet.present hfound).1
    obtain rfl := (quiet.children hlisting).1
    simp [Survey.planned, Survey.managementPlanned, Survey.filePlanned, standing, found, ← stood]

/-! ## The sweep -/

/-- **A sweep of a quiet store** tries the entries found, and removes those that are removable. -/
theorem Quiet.sweep {directory : Path} {w : Sweep} (quiet : s.Quiet)
    (h : Replay filesystem s (w.exchanges directory) t) :
    w.attempts.map Attempt.artifact = (s.found directory).map (.managementEntry, ·) ∧
      ∀ q, q ∈ w.attempts.filterMap Attempt.removed? ↔
        q ∈ s.found directory ∧ s.Removable .managementEntry q := by
  cases w with
  | absent =>
    obtain ⟨u, hfound, -⟩ := Replay.cons_iff.mp h
    have nothing : s.found directory = [] := by
      rw [found, ← (quiet.present hfound).1]
      rfl
    rw [nothing]
    exact ⟨rfl, fun q => by simp [Sweep.attempts]⟩
  | unreadable reason =>
    obtain ⟨u, hfound, hrest⟩ := Replay.cons_iff.mp h
    obtain ⟨stood, rfl⟩ := quiet.present hfound
    obtain ⟨u', hlisting, -⟩ := Replay.cons_iff.mp hrest
    have nothing : u.found directory = [] := by
      rw [found, ← stood, ← (quiet.children hlisting).1]
      rfl
    rw [nothing]
    exact ⟨rfl, fun q => by simp [Sweep.attempts]⟩
  | listed entries =>
    obtain ⟨u, hfound, hrest⟩ := Replay.cons_iff.mp h
    obtain ⟨stood, rfl⟩ := quiet.present hfound
    obtain ⟨u', hlisting, htrials⟩ := Replay.cons_iff.mp hrest
    obtain ⟨answered, rfl⟩ := quiet.children hlisting
    have all : u'.found directory = entries.map Prod.fst := by
      rw [found, ← stood, ← answered]
      rfl
    rw [all]
    refine ⟨?_, fun q => mem_removed_entries quiet.spares htrials⟩
    simp only [Sweep.attempts, List.map_map]
    rfl

/-! ## The whole course -/

/-- **A directory can be vacated** when its removal does not fail, and each child that stands is an
entry found and removable. -/
def Vacates (s : ScriptedStore) (directory : Path) : Prop :=
  s.failure? .removeEmptyDirectory directory = none ∧
    ∀ c, Store.isChild directory c = true →
      s.store.get? c = none ∨ c ∈ s.found directory ∧ s.Removable .managementEntry c

/-- A visit to a file that nothing removed before finds it as it was at first. -/
theorem Keeps.visit {u : ScriptedStore} {kind : ArtifactKind} {path : Path} {v : Visit}
    {removed : List Path} (kept : Keeps path s u removed) (unremoved : path ∉ removed)
    (hk : kind ≠ .managementDirectory) (h : Replay filesystem u (v.exchanges kind path) t) :
    (v.attempts kind path).map Attempt.artifact =
        Survey.filePlanned kind path (s.stands path) ∧
      ∀ q, q ∈ (v.attempts kind path).filterMap Attempt.removed? ↔
        q = path ∧ s.stands path = true ∧ s.Removable kind path := by
  rw [← kept.stands unremoved, ← kept.removable unremoved hk]
  refine ⟨?_, fun q => mem_removed_visit (kept.spares.file hk) h⟩
  rw [← isSome_visit kept.spares h]
  cases v <;> rfl

/-- The directory is visited when the sweep is over: it stands as it did, and is removable when it
could be vacated. -/
theorem Quiet.visit_directory {directory : Path} {w : Sweep} {v : Visit} {swept : ScriptedStore}
    (quiet : s.Quiet) (apart : directory ∉ s.found directory)
    (hsweep : Replay filesystem s (w.exchanges directory) swept)
    (h : Replay filesystem swept (v.exchanges .managementDirectory directory) t) :
    (v.attempts .managementDirectory directory).map Attempt.artifact =
        Survey.filePlanned .managementDirectory directory (s.stands directory) ∧
      ∀ q, q ∈ (v.attempts .managementDirectory directory).filterMap Attempt.removed? ↔
        q = directory ∧ s.stands directory = true ∧ s.Vacates directory := by
  have kept : ∀ q, Keeps q s swept (w.attempts.filterMap Attempt.removed?) := fun q => by
    rw [← Sweep.filterMap_removed? directory]
    exact keeps_replay (quiet.spares q) hsweep
  have removed := (quiet.sweep hsweep).2
  have stands : swept.stands directory = s.stands directory :=
    (kept directory).stands fun h => apart ((removed directory).mp h).1
  have vacated : swept.Removable .managementDirectory directory ↔ s.Vacates directory := by
    refine and_congr (by rw [(kept directory).failures]; rfl) ?_
    refine childrenOf_eq_nil.trans (forall₂_congr fun c _ => ?_)
    rw [(kept c).node, ← removed]
    by_cases gone : c ∈ w.attempts.filterMap Attempt.removed?
    · rw [if_pos gone]
      exact iff_of_true rfl (.inr gone)
    · rw [if_neg gone]
      exact (or_iff_left gone).symm
  have spared : swept.SparesArtifact .managementDirectory directory :=
    ⟨(kept directory).spares, fun _ c _ => (kept c).spares⟩
  rw [← stands, ← vacated]
  refine ⟨?_, fun q => mem_removed_visit spared h⟩
  rw [← isSome_visit spared.1 h]
  cases v <;> rfl

/-- **What a run removes** of a quiet store: the entries that can be removed, the directory if it can
be vacated, and each of the two files if it can be removed. -/
def Removes (s : ScriptedStore) (suffixes : Suffixes) (f : Footprint) (q : Path) : Prop :=
  (q ∈ s.found (f.managementDirectory suffixes) ∧ s.Removable .managementEntry q) ∨
  (q = f.managementDirectory suffixes ∧ s.stands (f.managementDirectory suffixes) = true ∧
    s.Vacates (f.managementDirectory suffixes)) ∨
  (q = f.primary ∧ s.stands f.primary = true ∧ s.Removable .primary f.primary) ∨
  (q = f.notificationFile suffixes ∧ s.stands (f.notificationFile suffixes) = true ∧
    s.Removable .notification (f.notificationFile suffixes))

/-- **The course of a run on a quiet store**, read off the first state: it attempts what stands there,
and removes what can be removed there. The artifacts are apart from each other and from the entries,
so no step takes away what another one looks at. -/
theorem Quiet.course {suffixes : Suffixes} {f : Footprint} {c : Course} (quiet : s.Quiet)
    (apart : f.Apart suffixes)
    (outside : ∀ q ∈ s.found (f.managementDirectory suffixes),
      q ≠ f.managementDirectory suffixes ∧ q ≠ f.primary ∧ q ≠ f.notificationFile suffixes)
    (h : Replay filesystem s (c.exchanges suffixes f) t) :
    (c.attempts suffixes f).map Attempt.artifact = s.standing suffixes f ∧
      ∀ q, q ∈ (c.attempts suffixes f).filterMap Attempt.removed? ↔ s.Removes suffixes f q := by
  obtain ⟨swept, visited, verified, hsweep, hdirectory, hprimary, hnote⟩ := Course.replay_iff.mp h
  obtain ⟨entriesTried, entriesRemoved⟩ := quiet.sweep hsweep
  obtain ⟨directoryTried, directoryRemoved⟩ :=
    quiet.visit_directory (fun h => (outside _ h).1 rfl) hsweep hdirectory
  -- Behind the directory, and behind the primary file, what is kept of the other artifacts.
  have kept : ∀ q, Keeps q s visited
      (c.sweep.attempts.filterMap Attempt.removed? ++
        (c.directory.attempts .managementDirectory (f.managementDirectory suffixes)).filterMap
          Attempt.removed?) := fun q => by
    rw [← Sweep.filterMap_removed? (f.managementDirectory suffixes), ← Visit.filterMap_removed?]
    have first := keeps_replay (quiet.spares q) hsweep
    exact first.trans (keeps_replay first.spares hdirectory)
  have primaryKept : f.primary ∉ c.sweep.attempts.filterMap Attempt.removed? ++
      (c.directory.attempts .managementDirectory (f.managementDirectory suffixes)).filterMap
        Attempt.removed? := by
    rw [List.mem_append, entriesRemoved, directoryRemoved]
    rintro (⟨listed, -⟩ | ⟨same, -⟩)
    · exact (outside _ listed).2.1 rfl
    · exact apart.directory_primary same.symm
  obtain ⟨primaryTried, primaryRemoved⟩ :=
    (kept f.primary).visit primaryKept (by decide) hprimary
  have noteKept : f.notificationFile suffixes ∉ (c.sweep.attempts.filterMap Attempt.removed? ++
      (c.directory.attempts .managementDirectory (f.managementDirectory suffixes)).filterMap
        Attempt.removed?) ++ (c.primary.attempts .primary f.primary).filterMap Attempt.removed? := by
    rw [List.mem_append, List.mem_append, entriesRemoved, directoryRemoved, primaryRemoved]
    rintro ((⟨listed, -⟩ | ⟨same, -⟩) | ⟨same, -⟩)
    · exact (outside _ listed).2.2 rfl
    · exact apart.directory_note same.symm
    · exact apart.primary_note same.symm
  have later : Keeps (f.notificationFile suffixes) s verified _ :=
    (kept _).trans (keeps_replay (kept _).spares hprimary)
  rw [Visit.filterMap_removed?] at later
  obtain ⟨noteTried, noteRemoved⟩ := later.visit noteKept (by decide) hnote
  constructor
  · simp only [Course.attempts, List.map_append, entriesTried, directoryTried, primaryTried,
      noteTried, standing]
  · intro q
    simp only [Course.attempts, List.filterMap_append, List.mem_append, entriesRemoved,
      directoryRemoved, primaryRemoved, noteRemoved, Removes]

end ScriptedStore

theorem Footprint.sample_apart : Footprint.sample.Apart .standard :=
  ⟨by decide, by decide, by decide⟩

end Reclaim
