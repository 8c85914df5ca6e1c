import Reclaim.Store.Script
import Reclaim.Proofs.Reclamation.Course

/-!
# The answers of a scripted store

Each call on a scripted store does two things: the hooks that wait for it act, and then the store
that they made answers. So the answer is a function of the store behind the hooks: what is seen at a
path (`stands`), how a directory is listed (`listing`), the size that is read (`measured`), and
whether a removal goes through (`Removable`).

**The law** (`keeps_replay`): a node that no hook touches is gone behind a log exactly when the log
holds a removal of it that succeeded. Otherwise it stays as it was.

This holds under any failures and any listings. It says nothing of a node that a hook puts or drops.
-/

namespace Reclaim

/-- **A hook spares a path** that it neither puts nor drops. -/
def Hook.Spares (h : Hook) (path : Path) : Prop :=
  path ∉ h.drops ∧ path ∉ h.puts.map Prod.fst

theorem Hook.get?_apply {h : Hook} {path : Path} (spared : h.Spares path) (s : Store) :
    (h.apply s).get? path = s.get? path := by
  rw [apply, Keyed.get?_insertAll_of_not_mem _ _ _ spared.2, Keyed.get?_eraseAll,
    if_neg spared.1]

namespace Store

/-- The store without an artifact of a kind. -/
def delete (s : Store) (kind : ArtifactKind) (path : Path) : Except Refusal Store :=
  match kind with
  | .managementDirectory => s.deleteEmpty path
  | .managementEntry | .primary | .notification => s.deleteFile path

/-- **A store yields an artifact**: a directory to be deleted has no children, and what is to be
deleted as a file is no directory. -/
def Yields (s : Store) (kind : ArtifactKind) (path : Path) : Prop :=
  match kind with
  | .managementDirectory => s.childrenOf path = []
  | .managementEntry | .primary | .notification => s.get? path ≠ some .directory

theorem delete_of_yields {s : Store} {kind : ArtifactKind} {path : Path} (h : s.Yields kind path) :
    s.delete kind path = .ok (s.erase path) := by
  cases kind with
  | managementDirectory => exact if_pos (List.isEmpty_iff.mpr h)
  | managementEntry => exact if_neg h
  | primary => exact if_neg h
  | notification => exact if_neg h

theorem delete_of_not_yields {s : Store} {kind : ArtifactKind} {path : Path}
    (h : ¬ s.Yields kind path) : ∃ refusal, s.delete kind path = .error refusal := by
  cases kind with
  | managementDirectory => exact ⟨_, if_neg (mt List.isEmpty_iff.mp h)⟩
  | managementEntry => exact ⟨_, if_pos (Classical.not_not.mp h)⟩
  | primary => exact ⟨_, if_pos (Classical.not_not.mp h)⟩
  | notification => exact ⟨_, if_pos (Classical.not_not.mp h)⟩

end Store

namespace ScriptedStore

def stands (s : ScriptedStore) (path : Path) : Bool :=
  (s.failure? .present path).isNone && (s.store.get? path).isSome

def listing (s : ScriptedStore) (path : Path) : Except String (List Path) :=
  match s.failure? .children path with
  | some reason => .error reason
  | none =>
    match s.script.listings.get? path with
    | some children => .ok children
    | none => (s.store.list path).mapError Store.Refusal.message

def measured (s : ScriptedStore) (path : Path) : Option Nat :=
  match s.failure? .fileSize path with
  | some _ => none
  | none => s.store.sizeOf? path

/-- **Whether a removal goes through**: it is not set to fail, and the store yields the node. -/
def Removable (s : ScriptedStore) (kind : ArtifactKind) (path : Path) : Prop :=
  s.failure? kind.removal path = none ∧ s.store.Yields kind path

/-- **Every hook spares a path.** -/
def Spares (s : ScriptedStore) (path : Path) : Prop := ∀ h ∈ s.script.hooks, h.Spares path

/-! ## The hooks of a call -/

@[simp] theorem failure?_fire (s : ScriptedStore) (call : CallKind) (path : Path) :
    (s.fire call path).failure? = s.failure? := rfl

theorem Spares.fire {s : ScriptedStore} {path : Path} (h : s.Spares path) (call : CallKind)
    (on : Path) : (s.fire call on).Spares path :=
  fun hook hmem => h hook (List.mem_filter.mp hmem).1

/-- Hooks that spare a path leave its node as it is, by induction on the hooks that act. -/
theorem get?_foldl_apply {path : Path} (due : List Hook) (store : Store)
    (spared : ∀ h ∈ due, h.Spares path) :
    (due.foldl (fun store h => h.apply store) store).get? path = store.get? path := by
  induction due generalizing store with
  | nil => rfl
  | cons h due ih =>
    rw [List.foldl_cons, ih _ fun h' hmem => spared h' (List.mem_cons_of_mem _ hmem)]
    exact Hook.get?_apply (spared h List.mem_cons_self) store

theorem get?_fire {s : ScriptedStore} {path : Path} (spared : s.Spares path) (call : CallKind)
    (on : Path) : (s.fire call on).store.get? path = s.store.get? path :=
  get?_foldl_apply _ _ fun h hmem => spared h (List.mem_filter.mp hmem).1

/-! ## Call by call -/

theorem present_run (s : ScriptedStore) (path : Path) :
    (filesystem.present path).run s =
      ((s.fire .present path).stands path, s.fire .present path) := by
  unfold filesystem stands StateT.run
  dsimp only
  generalize s.fire .present path = u
  cases u.failure? .present path <;> rfl

theorem children_run (s : ScriptedStore) (path : Path) :
    (filesystem.children path).run s =
      ((s.fire .children path).listing path, s.fire .children path) := by
  unfold filesystem listing StateT.run
  dsimp only
  generalize s.fire .children path = u
  cases u.failure? .children path with
  | some reason => rfl
  | none => cases u.script.listings.get? path <;> rfl

theorem fileSize_run (s : ScriptedStore) (path : Path) :
    (filesystem.fileSize path).run s =
      ((s.fire .fileSize path).measured path, s.fire .fileSize path) := by
  unfold filesystem measured StateT.run
  dsimp only
  generalize s.fire .fileSize path = u
  cases u.failure? .fileSize path <;> rfl

theorem remove_run (s : ScriptedStore) (kind : ArtifactKind) (path : Path) :
    (filesystem.remove kind path).run s =
      match (s.fire kind.removal path).failure? kind.removal path with
      | some reason => (.error reason, s.fire kind.removal path)
      | none => (s.fire kind.removal path).changing
          ((s.fire kind.removal path).store.delete kind path) := by
  cases kind <;> rfl

/-- **A removal goes through or changes nothing.** -/
theorem remove_cases (s : ScriptedStore) (kind : ArtifactKind) (path : Path) :
    ((s.fire kind.removal path).Removable kind path ∧
        (filesystem.remove kind path).run s =
          (.ok (), (s.fire kind.removal path).change (·.erase path))) ∨
      (¬ (s.fire kind.removal path).Removable kind path ∧
        ∃ reason, (filesystem.remove kind path).run s =
          (.error reason, s.fire kind.removal path)) := by
  rw [remove_run]
  generalize s.fire kind.removal path = u
  cases hfail : u.failure? kind.removal path with
  | some reason =>
    refine .inr ⟨fun h => ?_, reason, rfl⟩
    cases hfail.symm.trans h.1
  | none =>
    by_cases hyields : u.store.Yields kind path
    · refine .inl ⟨⟨hfail, hyields⟩, ?_⟩
      simp only [Store.delete_of_yields hyields]
      rfl
    · obtain ⟨refusal, hrefused⟩ := Store.delete_of_not_yields hyields
      refine .inr ⟨fun h => hyields h.2, refusal.message, ?_⟩
      simp only [hrefused]
      rfl

/-! ## What becomes of a spared node -/

/-- **What calls keep** of a path while they remove others: its failures stay set, hooks go on to
spare it, and its node stays as it was unless it is among the removed. -/
structure Keeps (path : Path) (s t : ScriptedStore) (removed : List Path) : Prop where
  failures : t.failure? = s.failure?
  spares : t.Spares path
  node : t.store.get? path = if path ∈ removed then none else s.store.get? path

theorem Keeps.trans {path : Path} {s t u : ScriptedStore} {first second : List Path}
    (h : Keeps path s t first) (h' : Keeps path t u second) : Keeps path s u (first ++ second) := by
  refine ⟨h'.failures.trans h.failures, h'.spares, ?_⟩
  rw [h'.node, h.node]
  by_cases hsecond : path ∈ second
  · rw [if_pos hsecond, if_pos (List.mem_append_right _ hsecond)]
  · simp only [hsecond, List.mem_append, or_false, if_false]

/-- What is gone stays gone. -/
theorem Keeps.gone {path : Path} {s t : ScriptedStore} {removed : List Path}
    (h : Keeps path s t removed) (gone : s.store.get? path = none) : t.store.get? path = none := by
  rw [h.node, gone, ite_self]

theorem keeps_fire {s : ScriptedStore} {path : Path} (spared : s.Spares path) (call : CallKind)
    (on : Path) : Keeps path s (s.fire call on) [] :=
  ⟨rfl, spared.fire call on, get?_fire spared call on⟩

theorem keeps_remove {s t : ScriptedStore} {path : Path} (spared : s.Spares path)
    (kind : ArtifactKind) {on : Path} {answer : Except String Unit}
    (h : (filesystem.remove kind on).run s = (answer, t)) :
    Keeps path s t (Exchange.removal kind on answer).removed?.toList := by
  have fired := keeps_fire spared kind.removal on
  rw [Exchange.removed?_removal]
  rcases remove_cases s kind on with ⟨-, hrun⟩ | ⟨-, reason, hrun⟩
  · obtain ⟨rfl, rfl⟩ := hrun.symm.trans h
    refine ⟨fired.failures, fired.spares, ?_⟩
    simp only [change, Keyed.get?_erase, get?_fire spared, Option.toList_some, List.mem_singleton]
  · obtain ⟨rfl, rfl⟩ := hrun.symm.trans h
    exact fired

/-- **One exchange.** -/
theorem keeps_takesPlace {e : Exchange} {s t : ScriptedStore} {path : Path}
    (spared : s.Spares path) (h : e.TakesPlace filesystem s t) :
    Keeps path s t e.removed?.toList := by
  cases e with
  | present on answer =>
    obtain ⟨-, rfl⟩ := (present_run s on).symm.trans h
    exact keeps_fire spared _ _
  | children on answer =>
    obtain ⟨-, rfl⟩ := (children_run s on).symm.trans h
    exact keeps_fire spared _ _
  | fileSize on answer =>
    obtain ⟨-, rfl⟩ := (fileSize_run s on).symm.trans h
    exact keeps_fire spared _ _
  | removeFile on answer => exact keeps_remove spared .primary h
  | removeEmptyDirectory on answer => exact keeps_remove spared .managementDirectory h

/-- **A log**, by induction on its exchanges: behind it, a spared node is gone exactly when the log
holds a removal of it that succeeded. -/
theorem keeps_replay {log : List Exchange} {s t : ScriptedStore} {path : Path}
    (spared : s.Spares path) (h : Replay filesystem s log t) :
    Keeps path s t (log.filterMap Exchange.removed?) := by
  induction h with
  | nil => exact ⟨rfl, spared, rfl⟩
  | @cons e log _ _ _ first _ ih =>
    have kept := keeps_takesPlace spared first
    have all := kept.trans (ih kept.spares)
    rw [List.filterMap_cons]
    cases hremoved : e.removed? with
    | none =>
      rw [hremoved] at all
      exact all
    | some on =>
      rw [hremoved] at all
      exact all

end ScriptedStore

end Reclaim
