import Reclaim.Proofs.Store.Deletion

/-!
# Stores on which nodes only vanish

Others may delete the same files while a run is under way. A scripted store is **waning** when that
is all that happens to it: no call is set to fail, no listing is set, and the hooks only drop nodes,
any nodes, at any call.

Then nothing that was gone comes back (`Wanes`), and a node that could be removed can still be
removed, or is gone already, which is no failure either. So an attempt succeeds whatever vanished
before it (`Waning.attempt`), and by induction so does the loop over a listing
(`Waning.entries`).

**One call is different.** A listing needs its directory to stand, and fails where it vanished since
the look that found it. Whether that happens can be read off the hooks (`DropsUnread`), and it is
the only warning a sweep can give (`Waning.sweep`).
-/

namespace Reclaim.ScriptedStore

/-- **A waning store**: nothing is set but hooks, and those put nothing. -/
structure Waning (s : ScriptedStore) : Prop where
  failures : ∀ call path, s.failure? call path = none
  listings : ∀ path, s.script.listings.get? path = none
  hooks : ∀ h ∈ s.script.hooks, h.puts = []

/-- **A call drops a path** when a hook that waits for it does. -/
def Drops (s : ScriptedStore) (call : CallKind) (on path : Path) : Prop :=
  ∃ h ∈ s.script.hooks, h.awaits call on = true ∧ path ∈ h.drops

instance (s : ScriptedStore) (call : CallKind) (on path : Path) :
    Decidable (s.Drops call on path) :=
  inferInstanceAs (Decidable (∃ h ∈ s.script.hooks, h.awaits call on = true ∧ path ∈ h.drops))

/-- **A directory is dropped unread** when it stands, the look at it leaves it standing, and the
listing drops it. -/
def DropsUnread (s : ScriptedStore) (directory : Path) : Prop :=
  s.store.get? directory ≠ none ∧ ¬ s.Drops .present directory directory ∧
    s.Drops .children directory directory

instance (s : ScriptedStore) (directory : Path) : Decidable (s.DropsUnread directory) :=
  inferInstanceAs (Decidable (_ ∧ _ ∧ _))

/-- **A store wanes into another** that is waning too and holds no node that the first does not. -/
structure Wanes (s t : ScriptedStore) : Prop where
  waning : t.Waning
  node : ∀ path, t.store.get? path = none ∨ t.store.get? path = s.store.get? path

variable {s t u : ScriptedStore} {kind : ArtifactKind} {path directory : Path} {trial : Trial}
  {v : Visit} {w : Sweep}

/-! ## What stays as it was -/

theorem Waning.refl (waning : s.Waning) : Wanes s s := ⟨waning, fun _ => .inr rfl⟩

theorem Wanes.trans (h : Wanes s t) (h' : Wanes t u) : Wanes s u := by
  refine ⟨h'.waning, fun path => ?_⟩
  rcases h'.node path with gone | same
  · exact .inl gone
  · rw [same]
    exact h.node path

/-- What is gone stays gone. -/
theorem Wanes.gone (h : Wanes s t) (gone : s.store.get? path = none) :
    t.store.get? path = none := by
  rcases h.node path with gone' | same
  · exact gone'
  · exact same.trans gone

/-- So what stands now stood before. -/
theorem Wanes.stood (h : Wanes s t) (stands : t.store.get? path ≠ none) :
    s.store.get? path ≠ none :=
  mt h.gone stands

/-- And what did not stand there does not stand there now. -/
theorem Wanes.ne {node : Node} (h : Wanes s t) (other : s.store.get? path ≠ some node) :
    t.store.get? path ≠ some node := by
  rcases h.node path with gone | same
  · rw [gone]
    exact (Option.some_ne_none _).symm
  · rw [same]
    exact other

theorem Wanes.childrenOf (h : Wanes s t) (empty : s.store.childrenOf path = []) :
    t.store.childrenOf path = [] :=
  childrenOf_eq_nil.mpr fun c child => h.gone (childrenOf_eq_nil.mp empty c child)

/-- **What could be removed can still be removed.** -/
theorem Wanes.yields (h : Wanes s t) (yields : s.store.Yields kind path) :
    t.store.Yields kind path := by
  cases kind with
  | managementDirectory => exact h.childrenOf yields
  | managementEntry => exact h.ne yields
  | primary => exact h.ne yields
  | notification => exact h.ne yields

/-! ## What a call does -/

/-- Hooks that put nothing take away what one of them drops, by induction on the hooks. -/
theorem get?_foldl_drops (path : Path) (due : List Hook) (store : Store) (dropping : ∀ h ∈ due, h.puts = []) :
    (due.foldl (fun store h => h.apply store) store).get? path =
      if ∃ h ∈ due, path ∈ h.drops then none else store.get? path := by
  induction due generalizing store with
  | nil => simp
  | cons h due ih =>
    have applied : (h.apply store).get? path =
        if path ∈ h.drops then none else store.get? path := by
      rw [Hook.apply, dropping h List.mem_cons_self]
      exact Keyed.get?_eraseAll store h.drops path
    rw [List.foldl_cons, ih _ fun h' hmem => dropping h' (List.mem_cons_of_mem _ hmem), applied]
    by_cases first : path ∈ h.drops
    · simp [first]
    · simp [first]

/-- **The hooks of a call take away just what they drop.** -/
theorem Waning.get?_fire (waning : s.Waning) (call : CallKind) (on path : Path) :
    (s.fire call on).store.get? path =
      if s.Drops call on path then none else s.store.get? path := by
  have same : (∃ h ∈ s.script.hooks.filter fun h => h.awaits call on, path ∈ h.drops) ↔
      s.Drops call on path := by
    simp only [Drops, List.mem_filter, and_assoc]
  have fired := get?_foldl_drops path (s.script.hooks.filter fun h => h.awaits call on) s.store
    fun h hmem => waning.hooks h (List.mem_filter.mp hmem).1
  simp only [same] at fired
  exact fired

theorem Waning.fire (waning : s.Waning) (call : CallKind) (on : Path) :
    Wanes s (s.fire call on) := by
  refine ⟨⟨waning.failures, waning.listings, fun h hmem => ?_⟩, fun path => ?_⟩
  · exact waning.hooks h (List.mem_filter.mp hmem).1
  · rw [waning.get?_fire]
    split
    · exact .inl rfl
    · exact .inr rfl

/-- Hooks that wait for one kind of call are still there behind a call of another kind. -/
theorem drops_fire {call other : CallKind} {on : Path} (apart : call ≠ other) :
    (s.fire call on).Drops other directory path ↔ s.Drops other directory path := by
  have survives : ∀ h : Hook, h.awaits other directory = true → (!h.awaits call on) = true := by
    intro h awaits
    simp only [Hook.awaits, Bool.and_eq_true, decide_eq_true_eq] at awaits
    simp [Hook.awaits, awaits.1, Ne.symm apart]
  constructor
  · rintro ⟨h, hmem, awaits, dropped⟩
    exact ⟨h, (List.mem_filter.mp hmem).1, awaits, dropped⟩
  · rintro ⟨h, hmem, awaits, dropped⟩
    exact ⟨h, List.mem_filter.mpr ⟨hmem, survives h awaits⟩, awaits, dropped⟩

theorem Waning.erase (waning : s.Waning) (path : Path) : Wanes s (s.change (·.erase path)) := by
  refine ⟨⟨waning.failures, waning.listings, waning.hooks⟩, fun q => ?_⟩
  show (s.store.erase path).get? q = none ∨ (s.store.erase path).get? q = s.store.get? q
  rw [Keyed.get?_erase]
  split
  · exact .inl rfl
  · exact .inr rfl

/-- **One exchange.** -/
theorem Waning.takesPlace {e : Exchange} (waning : s.Waning) (h : e.TakesPlace filesystem s t) :
    Wanes s t := by
  have removal : ∀ kind on answer,
      (filesystem.remove kind on).run s = (answer, t) → Wanes s t := by
    intro kind on answer hrun
    have fired := waning.fire kind.removal on
    rcases remove_cases s kind on with ⟨-, hok⟩ | ⟨-, reason, herror⟩
    · obtain ⟨-, rfl⟩ := Prod.mk.inj (hok.symm.trans hrun)
      exact fired.trans (fired.waning.erase on)
    · obtain ⟨-, rfl⟩ := Prod.mk.inj (herror.symm.trans hrun)
      exact fired
  cases e with
  | present on answer =>
    obtain ⟨-, rfl⟩ := Prod.mk.inj ((present_run s on).symm.trans h)
    exact waning.fire _ _
  | children on answer =>
    obtain ⟨-, rfl⟩ := Prod.mk.inj ((children_run s on).symm.trans h)
    exact waning.fire _ _
  | fileSize on answer =>
    obtain ⟨-, rfl⟩ := Prod.mk.inj ((fileSize_run s on).symm.trans h)
    exact waning.fire _ _
  | removeFile on answer => exact removal .primary on answer h
  | removeEmptyDirectory on answer => exact removal .managementDirectory on answer h

/-- **A log**, by induction on its exchanges. -/
theorem Waning.replay {log : List Exchange} (waning : s.Waning) (h : Replay filesystem s log t) :
    Wanes s t := by
  induction h with
  | nil s => exact waning.refl
  | cons first _ ih =>
    have wanes := waning.takesPlace first
    exact wanes.trans (ih wanes.waning)

/-! ## What a step of a run comes to -/

/-- **An attempt succeeds**, and leaves nothing at its path, whatever vanished before it. -/
theorem Waning.attempt (waning : s.Waning) (yields : s.store.Yields kind path)
    (h : Replay filesystem s (Attempt.exchanges ⟨trial, kind, path⟩) t) :
    trial.answer = .ok () ∧ t.store.get? path = none := by
  obtain ⟨u, hsize, hrest⟩ := Replay.cons_iff.mp h
  obtain ⟨v, hremoval, hlast⟩ := Replay.cons_iff.mp hrest
  obtain rfl := Replay.nil_iff.mp hlast
  have sized := waning.takesPlace hsize
  have fired := sized.trans (sized.waning.fire kind.removal path)
  have removable : (u.fire kind.removal path).Removable kind path :=
    ⟨fired.waning.failures _ _, fired.yields yields⟩
  have hrun := Exchange.takesPlace_removal.mp hremoval
  rcases remove_cases u kind path with ⟨-, hok⟩ | ⟨stuck, -⟩
  · obtain ⟨hanswer, rfl⟩ := Prod.mk.inj (hok.symm.trans hrun)
    refine ⟨hanswer.symm, ?_⟩
    show ((u.fire kind.removal path).store.erase path).get? path = none
    rw [Keyed.get?_erase, if_pos rfl]
  · exact absurd removable stuck

theorem stands_of_waning (waning : s.Waning) : s.stands path = (s.store.get? path).isSome :=
  stands_of_visible (waning.failures _ _)

/-- What a look finds in a waning store stood before it. -/
theorem Waning.present {answer : Bool} (waning : s.Waning)
    (h : (Exchange.present path answer).TakesPlace filesystem s t) :
    t = s.fire .present path ∧ answer = (t.store.get? path).isSome := by
  obtain ⟨hanswer, rfl⟩ := Prod.mk.inj ((present_run s path).symm.trans h)
  refine ⟨rfl, ?_⟩
  rw [← hanswer, stands_of_waning (waning.fire _ _).waning]

/-- **A visit** to what can be removed, if it stands, warns of nothing and leaves nothing. -/
theorem Waning.visit (waning : s.Waning)
    (yields : s.store.get? path ≠ none → s.store.Yields kind path)
    (h : Replay filesystem s (v.exchanges kind path) t) :
    (v.attempts kind path).filterMap Attempt.warning? = [] ∧ t.store.get? path = none := by
  obtain ⟨u, hlook, hattempt⟩ := Replay.cons_iff.mp h
  obtain ⟨-, seen⟩ := waning.present hlook
  have looked := waning.takesPlace hlook
  cases v with
  | none =>
    obtain rfl := Replay.nil_iff.mp hattempt
    exact ⟨rfl, Option.isSome_eq_false_iff.mp seen.symm |> Option.isNone_iff_eq_none.mp⟩
  | some trial =>
    have stood := looked.stood (Option.isSome_iff_ne_none.mp seen.symm)
    obtain ⟨succeeds, gone⟩ := looked.waning.attempt (looked.yields (yields stood)) hattempt
    obtain ⟨size, answer⟩ := trial
    obtain rfl : answer = .ok () := succeeds
    exact ⟨rfl, gone⟩

/-- **The loop over a listing**, by induction on it: where no entry is a directory, all of them go
and none is warned about. -/
theorem Waning.entries {entries : List (Path × Trial)} (waning : s.Waning)
    (files : ∀ e ∈ entries, s.store.Yields .managementEntry e.1)
    (h : Replay filesystem s ((Sweep.listed entries).attempts.flatMap Attempt.exchanges) t) :
    (Sweep.listed entries).attempts.filterMap Attempt.warning? = [] ∧
      ∀ e ∈ entries, t.store.get? e.1 = none := by
  induction entries generalizing s with
  | nil => exact ⟨rfl, fun _ hmem => absurd hmem List.not_mem_nil⟩
  | cons e entries ih =>
    obtain ⟨path, size, answer⟩ := e
    rw [Sweep.flatMap_attempts_cons] at h
    obtain ⟨u, hfirst, hrest⟩ := Replay.append_iff.mp h
    have wanes := waning.replay hfirst
    obtain ⟨succeeds, gone⟩ := waning.attempt (files _ List.mem_cons_self) hfirst
    obtain rfl : answer = .ok () := succeeds
    obtain ⟨silent, others⟩ := ih wanes.waning
      (fun e hmem => wanes.yields (files e (List.mem_cons_of_mem _ hmem))) hrest
    refine ⟨silent, fun e hmem => ?_⟩
    rcases List.mem_cons.mp hmem with rfl | hmem
    · exact (wanes.waning.replay hrest).gone gone
    · exact others e hmem

/-- A listing of a waning store is that of the store behind the hooks. -/
theorem Waning.children {answer : Except String (List Path)} (waning : s.Waning)
    (h : (Exchange.children directory answer).TakesPlace filesystem s t) :
    t = s.fire .children directory ∧
      answer = (t.store.list directory).mapError Store.Refusal.message := by
  obtain ⟨hanswer, rfl⟩ := Prod.mk.inj ((children_run s directory).symm.trans h)
  have fired := (waning.fire .children directory).waning
  refine ⟨rfl, ?_⟩
  rw [← hanswer, listing, fired.failures, fired.listings]

/-- Where a directory stands or nothing does, **a listing fails only for want of the directory**. -/
theorem list_error {store : Store} {reason : String}
    (noFile : ∀ size, store.get? directory ≠ some (.file size))
    (h : .error reason = (store.list directory).mapError Store.Refusal.message) :
    store.get? directory = none ∧ reason = Store.Refusal.noSuchDirectory.message := by
  unfold Store.list at h
  cases stands : store.get? directory with
  | none =>
    rw [stands, if_neg (Option.some_ne_none _).symm] at h
    exact ⟨rfl, Except.error.inj h⟩
  | some node =>
    cases node with
    | file size => exact absurd stands (noFile size)
    | directory =>
      rw [stands, if_pos rfl] at h
      cases h

theorem list_ok {store : Store} {entries : List Path}
    (h : .ok entries = (store.list directory).mapError Store.Refusal.message) :
    store.get? directory = some .directory ∧ entries = store.childrenOf directory := by
  unfold Store.list at h
  by_cases stands : store.get? directory = some .directory
  · rw [if_pos stands] at h
    exact ⟨stands, Except.ok.inj h⟩
  · rw [if_neg stands] at h
    cases h

/-- **Dropped unread** is standing behind the look and gone behind the hooks of the listing. -/
theorem Waning.dropsUnread_iff (waning : s.Waning) :
    s.DropsUnread directory ↔ (s.fire .present directory).store.get? directory ≠ none ∧
      ((s.fire .present directory).fire .children directory).store.get? directory = none := by
  have looked := (waning.fire .present directory).waning
  have later : (s.fire .present directory).Drops .children directory directory ↔
      s.Drops .children directory directory := drops_fire (by decide)
  simp only [looked.get?_fire, later, waning.get?_fire]
  unfold DropsUnread
  by_cases stood : s.store.get? directory = none
  · simp [stood]
  · by_cases dropped : s.Drops .present directory directory
    · simp [dropped]
    · simp [stood, dropped]

/-- Where the children of a directory are no directories, the loop over them leaves none. -/
theorem Waning.emptied {entries : List (Path × Trial)} (waning : s.Waning)
    (flat : ∀ c, Store.isChild directory c = true → s.store.get? c ≠ some .directory)
    (children : entries.map Prod.fst = s.store.childrenOf directory)
    (h : Replay filesystem s ((Sweep.listed entries).attempts.flatMap Attempt.exchanges) t) :
    (Sweep.listed entries).attempts.filterMap Attempt.warning? = [] ∧
      t.store.childrenOf directory = [] := by
  have files : ∀ e ∈ entries, s.store.Yields .managementEntry e.1 := by
    intro e hmem
    have child := List.mem_map_of_mem (f := Prod.fst) hmem
    rw [children] at child
    exact flat e.1 (Store.mem_childrenOf.mp child).1
  obtain ⟨silent, gone⟩ := waning.entries files h
  refine ⟨silent, childrenOf_eq_nil.mpr fun c child => ?_⟩
  refine Classical.byContradiction fun left => ?_
  have stood := Option.isSome_iff_ne_none.mpr ((waning.replay h).stood left)
  have tried := Store.mem_childrenOf.mpr ⟨child, stood⟩
  rw [← children] at tried
  obtain ⟨e, hmem, rfl⟩ := List.mem_map.mp tried
  exact left (gone e hmem)

/-- **A sweep** of a directory without directories in it leaves no entry where it leaves the
directory. It warns of nothing, unless the directory was dropped unread. -/
theorem Waning.sweep (waning : s.Waning)
    (noFile : ∀ size, s.store.get? directory ≠ some (.file size))
    (flat : ∀ c, Store.isChild directory c = true → s.store.get? c ≠ some .directory)
    (h : Replay filesystem s (w.exchanges directory) t) :
    w.warnings directory =
        (if s.DropsUnread directory then
          [⟨.managementDirectory, directory, Store.Refusal.noSuchDirectory.message⟩] else []) ∧
      w.attempts.filterMap Attempt.warning? = [] ∧
      (t.store.get? directory ≠ none → t.store.childrenOf directory = []) := by
  have unread : s.DropsUnread directory ↔ _ := waning.dropsUnread_iff
  cases w with
  | absent =>
    obtain ⟨u, hlook, hend⟩ := Replay.cons_iff.mp h
    obtain rfl := Replay.nil_iff.mp hend
    obtain ⟨rfl, seen⟩ := waning.present hlook
    have gone : (s.fire .present directory).store.get? directory = none := by simpa using seen
    refine ⟨?_, rfl, fun stands => absurd gone stands⟩
    rw [if_neg fun dropped => (unread.mp dropped).1 gone]
    rfl
  | unreadable reason =>
    obtain ⟨u, hlook, hrest⟩ := Replay.cons_iff.mp h
    obtain ⟨v, hlist, hend⟩ := Replay.cons_iff.mp hrest
    obtain rfl := Replay.nil_iff.mp hend
    have looked := waning.takesPlace hlook
    have listed := looked.trans (looked.waning.takesPlace hlist)
    obtain ⟨rfl, seen⟩ := waning.present hlook
    obtain ⟨rfl, answered⟩ := looked.waning.children hlist
    obtain ⟨gone, rfl⟩ := list_error (fun size => listed.ne (noFile size)) answered
    refine ⟨?_, rfl, fun stands => absurd gone stands⟩
    rw [if_pos (unread.mpr ⟨Option.isSome_iff_ne_none.mp seen.symm, gone⟩)]
    rfl
  | listed entries =>
    obtain ⟨u, hlook, hrest⟩ := Replay.cons_iff.mp h
    obtain ⟨v, hlist, hentries⟩ := Replay.cons_iff.mp hrest
    have looked := waning.takesPlace hlook
    have listed := looked.trans (looked.waning.takesPlace hlist)
    obtain ⟨rfl, -⟩ := waning.present hlook
    obtain ⟨rfl, answered⟩ := looked.waning.children hlist
    obtain ⟨stands, children⟩ := list_ok answered
    obtain ⟨silent, empty⟩ :=
      listed.waning.emptied (fun c child => listed.ne (flat c child)) children hentries
    refine ⟨?_, silent, fun _ => empty⟩
    rw [if_neg fun dropped => absurd ((unread.mp dropped).2.symm.trans stands)
      (Option.some_ne_none _).symm]
    rfl

end Reclaim.ScriptedStore
