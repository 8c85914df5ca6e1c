import Reclaim.Proofs.Disk.Loss

/-!
# What a deletion leaves

A deletion counts as done where it found nothing to delete. Either way nothing is found under its path
behind it: what it found is gone, or there was nothing (`Disk.gone_of_removed`). A deletion that fails
leaves the disk as it was.

Behind both stand two facts about the calls. A deletion that answers that nothing is there is right
(`Disk.erasing_of_find`): the walk that it makes is the one that finds a node. And a file's deletion at a
canonical path fails on a directory alone (`Disk.directory_of_unlink_error`).
-/

namespace Reclaim

namespace Disk

variable {d left : Disk} {cwd k l t : Location} {p : Path} {kind : ArtifactKind} {reason : String}

/-! ## What is not found -/

theorem exists?_eq_false_iff : d.exists? cwd p = false ↔ ∀ k, d.find cwd p ≠ .ok k := by
  rw [Bool.eq_false_iff, Ne, exists?_eq_true_iff, not_exists]

/-- **Where nothing exists for a call**, the path names nothing, unless the call does not take it. -/
theorem exists?_eq_false_iff_locate :
    d.exists? cwd p = false ↔ (requireCallable p = .ok () → ∀ k, d.locate cwd p ≠ .ok k) := by
  rw [exists?_eq_false_iff]
  constructor
  · intro absent callable k located
    exact absent k (find_eq_ok_iff.mpr ⟨callable, located⟩)
  · intro nothing k found
    obtain ⟨callable, located⟩ := find_eq_ok_iff.mp found
    exact nothing callable k located

/-- What is not found is not found on a smaller disk. -/
theorem Within.absent (h : left.Within d) (absent : d.exists? cwd p = false) :
    left.exists? cwd p = false := by
  rw [exists?_eq_false_iff] at absent ⊢
  exact fun k found => absent k (h.find found)

/-- **What a path was found to name, and is gone, is not found under it any more.** -/
theorem Within.absent_of_gone (h : left.Within d) (found : d.find cwd p = .ok k)
    (gone : left.lookup k = none) : left.exists? cwd p = false := by
  refine exists?_eq_false_iff.mpr fun j still => ?_
  obtain ⟨e, stands⟩ := lookup_of_locate (find_eq_ok_iff.mp still).2
  obtain rfl := Except.ok.inj (found.symm.trans (h.find still))
  cases gone.symm.trans stands

/-- **Where something other than a link is named**, the path leads there. -/
theorem resolve_of_locate (located : d.locate cwd p = .ok k) (firm : d.IsFirm k) :
    d.resolve cwd p = .ok k := by
  obtain ⟨way, c, l, last, walked, step⟩ := exists_last_of_locate located
  refine resolve_eq_ok_iff.mpr ⟨bytes_ne_nil_of_steps last, ?_⟩
  rw [last]
  refine walked.append fun links => ?_
  cases c with
  | root =>
    cases step
    exact .root .done
  | here =>
    obtain ⟨directory, rfl⟩ := lastStep_here_eq_ok.mp step
    exact .here directory .done
  | up =>
    obtain ⟨directory, rfl⟩ := lastStep_up_eq_ok.mp step
    exact .up directory .done
  | name n =>
    obtain ⟨-, rfl⟩ := lastStep_name_eq_ok.mp step
    exact .name firm .done

/-! ## What a deletion meets -/

/-- **A node that is found is met by a deletion**: the walk of the one is the walk of the other, and a last
name is that of an entry. -/
theorem parting_of_find (found : d.find cwd p = .ok k) :
    ∃ l c, d.parting cwd p = .ok (l, c) ∧ ∀ n, c = .name n → ∃ e, d.lookup (n :: l) = some e := by
  obtain ⟨callable, located⟩ := find_eq_ok_iff.mp found
  obtain ⟨_, _, _, some, -, -⟩ := exists_last_of_locate located
  have nonempty := bytes_ne_nil_of_steps some
  obtain ⟨way, c, hstem⟩ := (List.eq_nil_or_concat p.stem).resolve_left (Path.stem_ne_nil nonempty)
  rw [List.concat_eq_append] at hstem
  have only : c = .root → way = [] := fun root => Path.eq_nil_of_stem_root (root ▸ hstem)
  cases trailing : p.endsInSeparator with
  | false =>
    have hsteps : p.steps = way ++ [c] := (p.steps_of_not_endsInSeparator trailing).trans hstem
    obtain ⟨l, walked, step⟩ := (locate_iff hsteps).mp located
    refine ⟨l, c, parting_eq_ok_iff.mpr ⟨callable, way, hstem, walked, fun long => ?_⟩, ?_⟩
    · cases c with
      | root => exact absurd (only rfl) long
      | here => exact (lastStep_here_eq_ok.mp step).1
      | up => exact (lastStep_up_eq_ok.mp step).1
      | name n =>
        obtain ⟨⟨e, stands⟩, -⟩ := lastStep_name_eq_ok.mp step
        exact directory_of_lookup stands
    · rintro n rfl
      exact (lastStep_name_eq_ok.mp step).1
  | true =>
    have hsteps : p.steps = p.stem ++ [.here] := by rw [Path.steps, trailing]; rfl
    obtain ⟨m, walked, step⟩ := (locate_iff hsteps).mp located
    obtain ⟨directory, -⟩ := lastStep_here_eq_ok.mp step
    rw [hstem] at walked
    obtain ⟨l, fewer, -, first, last⟩ := walked.split
    refine ⟨l, c, parting_eq_ok_iff.mpr ⟨callable, way, hstem, first, fun long => ?_⟩, ?_⟩
    · exact last.directory (fun root => long (only (List.mem_singleton.mp root).symm)) fun nothing => by
        cases nothing
    · rintro n rfl
      rcases reaches_name_iff.mp last with ⟨⟨e, stands, -⟩, -⟩ | ⟨_, target, -, stands, -⟩
      · exact ⟨e, stands⟩
      · exact ⟨_, stands⟩

/-- A deletion does not miss what is found. -/
theorem unlink_of_find (found : d.find cwd p = .ok k) : d.unlink cwd p ≠ .error .notFound := by
  intro missed
  obtain ⟨l, c, parted, stands⟩ := parting_of_find found
  rw [unlink, parted] at missed
  cases c with
  | root => cases missed
  | here => cases missed
  | up => cases missed
  | name n =>
    obtain ⟨e, stands⟩ := stands n rfl
    change (d.entry l n >>= _) = _ at missed
    rw [entry_eq_ok.mpr stands] at missed
    cases e with
    | directory => cases missed
    | file content =>
      change ite _ _ _ = _ at missed
      split at missed <;> cases missed
    | link target =>
      change ite _ _ _ = _ at missed
      split at missed <;> cases missed

theorem removeDirectory_of_find (found : d.find cwd p = .ok k) :
    d.removeDirectory cwd p ≠ .error .notFound := by
  intro missed
  obtain ⟨l, c, parted, stands⟩ := parting_of_find found
  rw [removeDirectory, parted] at missed
  cases c with
  | root => cases missed
  | here => cases missed
  | up => cases missed
  | name n =>
    obtain ⟨e, stands⟩ := stands n rfl
    change (d.entry l n >>= _) = _ at missed
    rw [entry_eq_ok.mpr stands] at missed
    cases e with
    | file content => cases missed
    | link target => cases missed
    | directory =>
      change ite _ _ _ = _ at missed
      split at missed <;> cases missed

/-- A deletion that goes through leaves nothing under its path. -/
theorem unlink_absent (h : d.unlink cwd p = .ok left) : left.exists? cwd p = false := by
  have within := (unlink_strikes h).within
  obtain ⟨n, l, -, leaf, rfl, found, -⟩ := exists_struck_of_unlink h
  refine within.absent_of_gone found ?_
  rw [lookup_deleted leaf, if_pos rfl]

theorem removeDirectory_absent (h : d.removeDirectory cwd p = .ok left) :
    left.exists? cwd p = false := by
  have within := (removeDirectory_strikes h).within
  obtain ⟨n, l, -, leaf, rfl, found, -⟩ := exists_struck_of_removeDirectory h
  refine within.absent_of_gone found ?_
  rw [lookup_deleted leaf, if_pos rfl]

/-! ## What a deletion answers -/

/-- The call of a disk that deletes an artifact of a kind, before its answer is read. -/
def erasing (d : Disk) (cwd : Location) (kind : ArtifactKind) (p : Path) : Except Failure Disk :=
  match kind with
  | .managementDirectory => d.removeDirectory cwd p
  | .managementEntry | .primary | .notification => d.unlink cwd p

theorem remove_run (d : Disk) (cwd : Location) (kind : ArtifactKind) (p : Path) :
    ((Disk.filesystem cwd).remove kind p).run d =
      ((d.deleted (d.erasing cwd kind p)).1.mapError Failure.message,
        (d.deleted (d.erasing cwd kind p)).2) := by
  cases kind <;> rfl

theorem erasing_absent (h : d.erasing cwd kind p = .ok left) : left.exists? cwd p = false := by
  cases kind with
  | managementDirectory => exact removeDirectory_absent h
  | managementEntry => exact unlink_absent h
  | primary => exact unlink_absent h
  | notification => exact unlink_absent h

theorem erasing_of_find (found : d.find cwd p = .ok k) :
    d.erasing cwd kind p ≠ .error .notFound := by
  cases kind with
  | managementDirectory => exact removeDirectory_of_find found
  | managementEntry => exact unlink_of_find found
  | primary => exact unlink_of_find found
  | notification => exact unlink_of_find found

/-- **A deletion that counts as done leaves nothing under its path**: it has deleted what was there, or
found nothing. -/
theorem gone_of_removed (h : (Exchange.removal kind p (.ok ())).TakesPlace (Disk.filesystem cwd) d left) :
    left.exists? cwd p = false := by
  have run := (remove_run d cwd kind p).symm.trans (Exchange.takesPlace_removal.mp h)
  cases answer : d.erasing cwd kind p with
  | ok left' =>
    rw [answer] at run
    obtain rfl := (Prod.mk.inj run).2
    exact erasing_absent answer
  | error failure =>
    rw [answer] at run
    cases failure with
    | notFound =>
      obtain rfl := (Prod.mk.inj run).2
      exact exists?_eq_false_iff.mpr fun k found => erasing_of_find found answer
    | _ => cases (Prod.mk.inj run).1

/-- **A deletion that fails leaves the disk as it was**, for a reason other than that nothing is there. -/
theorem kept_of_failed
    (h : (Exchange.removal kind p (.error reason)).TakesPlace (Disk.filesystem cwd) d left) :
    left = d ∧ ∃ failure, d.erasing cwd kind p = .error failure ∧ failure ≠ .notFound := by
  have run := (remove_run d cwd kind p).symm.trans (Exchange.takesPlace_removal.mp h)
  cases answer : d.erasing cwd kind p with
  | ok left' =>
    rw [answer] at run
    cases (Prod.mk.inj run).1
  | error failure =>
    rw [answer] at run
    cases failure with
    | notFound => cases (Prod.mk.inj run).1
    | _ => exact ⟨(Prod.mk.inj run).2.symm, _, rfl, nofun⟩

/-- **At a canonical path, a file's deletion that fails on what it finds has found a directory.** -/
theorem directory_of_unlink_error {failure : Failure} (named : l.IsNamed)
    (found : d.find cwd l.path = .ok k) (failed : d.unlink cwd l.path = .error failure) :
    d.lookup k = some .directory := by
  obtain ⟨callable, located⟩ := find_eq_ok_iff.mp found
  cases l with
  | nil =>
    obtain rfl := Except.ok.inj ((locate_path d.lookup_root).symm.trans located)
    exact d.lookup_root
  | cons n l =>
    obtain ⟨m, walked, ⟨e, stands⟩, rfl⟩ :=
      (locate_eq_ok_iff (Location.steps_path named)).mp located
    refine Classical.byContradiction fun file => ?_
    have unlinked := unlink_eq_ok_iff.mpr ⟨callable, Location.endsInSeparator_path named, _, n, m, e,
      Location.stem_path_cons named, walked, stands, fun same => file (same ▸ stands), rfl⟩
    cases failed.symm.trans unlinked

end Disk

end Reclaim
