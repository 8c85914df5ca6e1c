import Reclaim.Proofs.Disk.Answers
import Reclaim.Proofs.Reclamation.InStep

/-!
# What a disk loses

Reclaiming only takes away. A disk is **within** another when all that stands on it stands there too; a
walk on the smaller disk is a walk on the larger one (`Disk.Reaches.mono`), and what the one finds the
other finds (`Disk.Within.find`).

A deletion **strikes** a location when its call finds the location under its path and what stands there
is of the kind that the call deletes: a directory for one of the two calls, anything else for the other
(`Disk.Strikes`).

**The law** (`Disk.loses_replay`): behind a log, each location is as it was, or what stood there is gone
and was struck, on the disk of before the log, by a deletion in the log. So an effect of a run can be
read off the paths that it deletes at, on the disk that it starts from.
-/

namespace Reclaim

namespace Disk

variable {d left u : Disk} {cwd k l t : Location} {p : Path} {links : Nat} {steps : List Component}

/-! ## A smaller disk -/

/-- **A disk is within another**: what stands on it stands there too. -/
def Within (left d : Disk) : Prop := ∀ l e, left.lookup l = some e → d.lookup l = some e

theorem Within.refl (d : Disk) : d.Within d := fun _ _ h => h

theorem Within.trans (h : left.Within u) (h' : u.Within d) : left.Within d :=
  fun l e found => h' l e (h l e found)

theorem Within.gone (h : left.Within d) (absent : d.lookup l = none) : left.lookup l = none := by
  cases found : left.lookup l with
  | none => rfl
  | some e => cases absent.symm.trans (h l e found)

theorem Within.isFirm (h : left.Within d) (firm : left.IsFirm l) : d.IsFirm l := by
  obtain ⟨e, found, notLink⟩ := firm
  exact ⟨e, h l e found, notLink⟩

/-- **A walk on a smaller disk is a walk.** -/
theorem Reaches.mono (h : left.Reaches links l steps t) (within : left.Within d) :
    d.Reaches links l steps t := by
  induction h with
  | done => exact .done
  | root _ ih => exact .root ih
  | here directory _ ih => exact .here (within _ _ directory) ih
  | up directory _ ih => exact .up (within _ _ directory) ih
  | name firm _ ih => exact .name (within.isFirm firm) ih
  | link found _ ih => exact .link (within _ _ found) ih

theorem Within.lastStep (h : left.Within d) {c : Component} (found : left.lastStep l c = .ok k) :
    d.lastStep l c = .ok k := by
  cases c with
  | root => exact found
  | here =>
    rw [lastStep_here_eq_ok] at found ⊢
    exact found.imp_left (h _ _)
  | up =>
    rw [lastStep_up_eq_ok] at found ⊢
    exact found.imp_left (h _ _)
  | name n =>
    rw [lastStep_name_eq_ok] at found ⊢
    exact found.imp_left fun ⟨e, stands⟩ => ⟨e, h _ e stands⟩

theorem Within.locate (h : left.Within d) (found : left.locate cwd p = .ok k) :
    d.locate cwd p = .ok k := by
  obtain ⟨way, c, l, some, walked, last⟩ := exists_last_of_locate found
  exact (locate_iff some).mpr ⟨l, walked.mono h, h.lastStep last⟩

/-- **What a call finds on a smaller disk it finds.** -/
theorem Within.find (h : left.Within d) (found : left.find cwd p = .ok k) : d.find cwd p = .ok k := by
  rw [find_eq_ok_iff] at found ⊢
  exact found.imp_right h.locate

theorem Within.follow (h : left.Within d) (led : left.follow cwd p = .ok t) :
    d.follow cwd p = .ok t := by
  rw [follow_eq_ok_iff, resolve_eq_ok_iff] at led ⊢
  exact ⟨led.1, led.2.1, led.2.2.mono h⟩

/-! ## What a deletion strikes -/

/-- **A deletion strikes a location**: it finds the location under its path, and deletes what stands
there, not an entry of the other kind. -/
def Strikes (d : Disk) (cwd : Location) (call : CallKind × Path) (k : Location) : Prop :=
  d.find cwd call.2 = .ok k ∧ (call.1 = .removeEmptyDirectory ↔ d.lookup k = some .directory)

/-- A file's deletion strikes no directory. -/
theorem Strikes.file (h : d.Strikes cwd (.removeFile, p) k) : d.lookup k ≠ some .directory :=
  fun directory => by cases h.2.mpr directory

/-- **A loss**: each location is as it was, or is one of these and nothing stands there any more. -/
def Loses (d left : Disk) (lost : Location → Prop) : Prop :=
  ∀ k, left.lookup k = d.lookup k ∨ left.lookup k = none ∧ lost k

variable {lost lost' : Location → Prop}

theorem Loses.nothing (d : Disk) : d.Loses d lost := fun _ => .inl rfl

theorem Loses.within (h : d.Loses left lost) : left.Within d := by
  intro l e found
  rcases h l with same | ⟨gone, -⟩
  · exact same ▸ found
  · cases gone.symm.trans found

theorem Loses.mono (h : d.Loses left lost) (more : ∀ k, lost k → lost' k) : d.Loses left lost' :=
  fun k => (h k).imp_right (And.imp_right (more k))

theorem Loses.trans (h : d.Loses u lost) (h' : u.Loses left lost) : d.Loses left lost := by
  intro k
  rcases h' k with same | gone
  · rcases h k with same' | ⟨gone, here⟩
    · exact .inl (same.trans same')
    · exact .inr ⟨same.trans gone, here⟩
  · exact .inr gone

/-- **A deletion that goes through** takes away one node, which stands, holds no entry, and is struck. -/
theorem exists_struck_of_unlink (h : d.unlink cwd p = .ok left) : ∃ n l, d.lookup (n :: l) ≠ none ∧
    d.names (n :: l) = [] ∧ left = d.delete (n :: l) ∧ d.Strikes cwd (.removeFile, p) (n :: l) := by
  obtain ⟨callable, ends, way, n, l, e, hstem, walked, stands, notDirectory, rfl⟩ :=
    unlink_eq_ok_iff.mp h
  have file : d.lookup (n :: l) ≠ some .directory := fun same =>
    notDirectory (Option.some.inj (stands.symm.trans same))
  have found := find_of_stem callable hstem walked stands fun trailing => by
    cases ends.symm.trans trailing
  refine ⟨n, l, ?_, names_eq_nil file, rfl, found, iff_of_false nofun file⟩
  rw [stands]
  exact Option.some_ne_none e

theorem exists_struck_of_removeDirectory (h : d.removeDirectory cwd p = .ok left) :
    ∃ n l, d.lookup (n :: l) ≠ none ∧ d.names (n :: l) = [] ∧ left = d.delete (n :: l) ∧
      d.Strikes cwd (.removeEmptyDirectory, p) (n :: l) := by
  obtain ⟨callable, way, n, l, hstem, walked, stands, leaf, rfl⟩ := removeDirectory_eq_ok_iff.mp h
  have found := find_of_stem callable hstem walked stands fun _ => rfl
  refine ⟨n, l, ?_, leaf, rfl, found, iff_of_true rfl stands⟩
  rw [stands]
  exact Option.some_ne_none _

/-- The node that is taken away is the loss. -/
theorem loses_delete {n : List UInt8} (leaf : d.names (n :: l) = []) (here : lost (n :: l)) :
    d.Loses (d.delete (n :: l)) lost := by
  intro k
  rw [lookup_deleted leaf]
  split
  · rename_i same
    subst same
    exact .inr ⟨rfl, here⟩
  · exact .inl rfl

theorem unlink_strikes (h : d.unlink cwd p = .ok left) :
    d.Loses left (d.Strikes cwd (.removeFile, p)) := by
  obtain ⟨n, l, -, leaf, rfl, struck⟩ := exists_struck_of_unlink h
  exact loses_delete leaf struck

theorem removeDirectory_strikes (h : d.removeDirectory cwd p = .ok left) :
    d.Loses left (d.Strikes cwd (.removeEmptyDirectory, p)) := by
  obtain ⟨n, l, -, leaf, rfl, struck⟩ := exists_struck_of_removeDirectory h
  exact loses_delete leaf struck

/-- A deletion that counts as done or fails leaves the disk as it was. -/
theorem deleted_loses {answer : Except Failure Disk} (h : ∀ left, answer = .ok left → d.Loses left lost) :
    d.Loses (d.deleted answer).2 lost := by
  cases answer with
  | ok left => exact h left rfl
  | error failure => cases failure <;> exact .nothing d

/-- **One exchange.** -/
theorem loses_takesPlace {e : Exchange} (h : e.TakesPlace (Disk.filesystem cwd) d left) :
    d.Loses left fun k => ∃ call, e.removal? = some call ∧ d.Strikes cwd call k := by
  cases e with
  | present path answer =>
    cases h
    exact .nothing d
  | children path answer =>
    cases h
    exact .nothing d
  | fileSize path answer =>
    cases h
    exact .nothing d
  | removeFile path answer =>
    cases h
    refine deleted_loses fun left deleted => ?_
    exact (unlink_strikes deleted).mono fun k strikes => ⟨_, rfl, strikes⟩
  | removeEmptyDirectory path answer =>
    cases h
    refine deleted_loses fun left deleted => ?_
    exact (removeDirectory_strikes deleted).mono fun k strikes => ⟨_, rfl, strikes⟩

/-- **What is struck on a smaller disk is struck**: it stands there, so it is the same on both. -/
theorem Strikes.mono {call : CallKind × Path} (h : left.Strikes cwd call k) (within : left.Within d) :
    d.Strikes cwd call k := by
  obtain ⟨found, kind⟩ := h
  obtain ⟨e, stands⟩ := lookup_of_locate (find_eq_ok_iff.mp found).2
  refine ⟨within.find found, ?_⟩
  rw [kind, stands, within k e stands]

/-- **A log**, by induction on its exchanges: what is lost was struck by a deletion in it. -/
theorem loses_replay {log : List Exchange} (h : Replay (Disk.filesystem cwd) d log left) :
    d.Loses left fun k => ∃ call ∈ log.filterMap Exchange.removal?, d.Strikes cwd call k := by
  induction h with
  | nil => exact .nothing _
  | @cons e log d u left first _ ih =>
    have one := loses_takesPlace first
    refine (one.mono ?_).trans (ih.mono ?_)
    · rintro k ⟨call, deletes, strikes⟩
      exact ⟨call, List.mem_filterMap.mpr ⟨e, List.mem_cons_self, deletes⟩, strikes⟩
    · rintro k ⟨call, deletes, strikes⟩
      obtain ⟨e', listed, same⟩ := List.mem_filterMap.mp deletes
      exact ⟨call, List.mem_filterMap.mpr ⟨e', List.mem_cons_of_mem e listed, same⟩,
        strikes.mono one.within⟩

theorem within_replay {log : List Exchange} (h : Replay (Disk.filesystem cwd) d log left) :
    left.Within d := (loses_replay h).within

end Disk

end Reclaim
