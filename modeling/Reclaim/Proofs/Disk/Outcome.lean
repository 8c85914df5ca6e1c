import Reclaim.Proofs.Disk.Deleted
import Reclaim.Proofs.Disk.Listed

/-!
# Deletions are all or nothing

A deletion has one of three outcomes (`Disk.Outcome`). It has **taken** the one node that its path named, it
found the node **absent**, or it was **refused**. Both of the first count as done, and nothing is found under
the path behind them; the last leaves the disk as it was. Of the answers of the call only that nothing is there
is turned into success: a path through a file, a circle of links and a name that is too long stay failures.

Which node a path names is decided by the walk that every call makes: links on the way are followed, one at the
end is not. A separator at the end is a step into a directory, so a path that ends in one names no link.

The law is `deletions_all_or_nothing`. It says which nodes each deletion takes and, of a link that is named,
that a file's deletion takes the link and a directory's deletion refuses it. Which failure a refusal has is said
by the calls.
-/

namespace Reclaim

namespace Disk

variable {d left : Disk} {cwd k t : Location} {p : Path} {call : Except Failure Disk}
  {takes : Location → Prop}

/-- What a file's deletion may take. -/
def IsFileOrLink (d : Disk) (k : Location) : Prop := ∃ e, d.lookup k = some e ∧ e ≠ .directory

/-- What a directory's deletion may take. -/
def IsEmptyDirectory (d : Disk) (k : Location) : Prop :=
  d.lookup k = some .directory ∧ ∀ n, d.lookup (n :: k) = none

/-- **The outcome of a deletion**: from the answer of its call and the nodes that it may take, its own answer
and the disk behind it. -/
inductive Outcome (d : Disk) (cwd : Location) (p : Path) (call : Except Failure Disk)
    (takes : Location → Prop) : Except Failure Unit × Disk → Prop
  /-- The node that the path named is gone, and no other. -/
  | taken {left : Disk} {k : Location} : call = .ok left → d.find cwd p = .ok k → takes k →
      (∀ j, left.lookup j = if j = k then none else d.lookup j) → left.exists? cwd p = false →
      Outcome d cwd p call takes (.ok (), left)
  /-- The path named nothing. -/
  | absent : call = .error .notFound → d.exists? cwd p = false → Outcome d cwd p call takes (.ok (), d)
  /-- The call failed for another reason. -/
  | refused {failure : Failure} : call = .error failure → failure ≠ .notFound →
      Outcome d cwd p call takes (.error failure, d)

/-- **A deletion that counts as done where nothing was there** has an outcome, if its call takes the node that
is found, and misses none. -/
theorem outcome_deleted
    (goes : ∀ left, call = .ok left → ∃ n l, d.find cwd p = .ok (n :: l) ∧ takes (n :: l) ∧
      d.names (n :: l) = [] ∧ left = d.delete (n :: l))
    (gone : ∀ left, call = .ok left → left.exists? cwd p = false)
    (missed : ∀ k, d.find cwd p = .ok k → call ≠ .error .notFound) :
    d.Outcome cwd p call takes (d.deleted call) := by
  cases answer : call with
  | ok left =>
    obtain ⟨n, l, found, taken, leaf, rfl⟩ := goes left answer
    exact .taken rfl found taken (lookup_deleted leaf) (gone _ answer)
  | error failure =>
    by_cases nothing : failure = .notFound
    · subst nothing
      exact .absent rfl (exists?_eq_false_iff.mpr fun k found => missed k found answer)
    · have kept : d.deleted (.error failure) = (.error failure, d) := by
        cases failure with
        | notFound => exact absurd rfl nothing
        | _ => rfl
      rw [kept]
      exact .refused rfl nothing

theorem removeFile_outcome (d : Disk) (cwd : Location) (p : Path) :
    d.Outcome cwd p (d.unlink cwd p) d.IsFileOrLink (d.removeFile cwd p) := by
  refine outcome_deleted (fun left deleted => ?_) (fun left => unlink_absent) fun k => unlink_of_find
  obtain ⟨n, l, stands, leaf, rfl, struck⟩ := exists_struck_of_unlink deleted
  obtain ⟨e, found⟩ := Option.ne_none_iff_exists'.mp stands
  exact ⟨n, l, struck.1, ⟨e, found, fun directory => struck.file (directory ▸ found)⟩, leaf, rfl⟩

theorem removeEmptyDirectory_outcome (d : Disk) (cwd : Location) (p : Path) :
    d.Outcome cwd p (d.removeDirectory cwd p) d.IsEmptyDirectory (d.removeEmptyDirectory cwd p) := by
  refine outcome_deleted (fun left deleted => ?_) (fun left => removeDirectory_absent)
    fun k => removeDirectory_of_find
  obtain ⟨n, l, -, leaf, rfl, struck⟩ := exists_struck_of_removeDirectory deleted
  exact ⟨n, l, struck.1, ⟨struck.2.mp rfl, names_eq_nil_iff.mp leaf⟩, leaf, rfl⟩

/-- **A file or a link that is named is taken**: a path names one by its last step alone, so it does not end in
a separator. -/
theorem unlink_of_fileOrLink (found : d.find cwd p = .ok k) (file : d.IsFileOrLink k) :
    d.unlink cwd p = .ok (d.delete k) := by
  obtain ⟨e, stands, notDirectory⟩ := file
  have noDirectory : d.lookup k ≠ some .directory := fun directory =>
    notDirectory (Option.some.inj (stands.symm.trans directory))
  obtain ⟨callable, located⟩ := find_eq_ok_iff.mp found
  obtain ⟨way, c, l, last, walked, step⟩ := exists_last_of_locate located
  cases c with
  | root =>
    cases step
    exact absurd d.lookup_root noDirectory
  | here =>
    obtain ⟨directory, rfl⟩ := lastStep_here_eq_ok.mp step
    exact absurd directory noDirectory
  | up =>
    obtain ⟨directory, rfl⟩ := lastStep_up_eq_ok.mp step
    exact absurd (directory_of_tail directory) noDirectory
  | name n =>
    obtain ⟨-, rfl⟩ := lastStep_name_eq_ok.mp step
    have ends : p.endsInSeparator = false := by
      cases trailing : p.endsInSeparator with
      | false => rfl
      | true =>
        rw [Path.steps, trailing] at last
        cases (List.append_inj' last rfl).2
    rw [p.steps_of_not_endsInSeparator ends] at last
    exact unlink_eq_ok_iff.mpr
      ⟨callable, ends, way, n, l, e, last, walked, stands, notDirectory, rfl⟩

/-- A link that is named leads elsewhere, if anywhere. -/
theorem ne_of_resolve {target : Path} (linked : d.lookup k = some (.link target))
    (led : d.resolve cwd p = .ok t) : t ≠ k := by
  rintro rfl
  obtain ⟨e, found, firm⟩ := isFirm_of_resolve led
  exact firm target (Option.some.inj (found.symm.trans linked))

end Disk

open Disk in
/-- **Deletions are all or nothing**, on every disk, from every working directory and at every path: each has an
outcome. A link that is named is taken itself by a file's deletion, refused by a directory's, and what it leads
to stays. -/
theorem deletions_all_or_nothing (d : Disk) (cwd : Location) (p : Path) :
    d.Outcome cwd p (d.unlink cwd p) d.IsFileOrLink (d.removeFile cwd p) ∧
    d.Outcome cwd p (d.removeDirectory cwd p) d.IsEmptyDirectory (d.removeEmptyDirectory cwd p) ∧
    ∀ k target, d.find cwd p = .ok k → d.lookup k = some (.link target) →
      (∃ left, d.removeFile cwd p = (.ok (), left) ∧ left.lookup k = none ∧
        (∀ j, j ≠ k → left.lookup j = d.lookup j) ∧
        ∀ t, d.resolve cwd p = .ok t → left.lookup t = d.lookup t) ∧
      ∃ failure, d.removeEmptyDirectory cwd p = (.error failure, d) := by
  have files := d.removeFile_outcome cwd p
  have directories := d.removeEmptyDirectory_outcome cwd p
  refine ⟨files, directories, fun k target found linked => ⟨?_, ?_⟩⟩
  · have deleted := unlink_of_fileOrLink found ⟨_, linked, nofun⟩
    have others : ∀ j, (d.delete k).lookup j = if j = k then none else d.lookup j := by
      cases k with
      | nil => cases linked
      | cons n l => exact lookup_deleted (names_eq_nil (by rw [linked]; nofun))
    refine ⟨d.delete k, by rw [removeFile, deleted]; rfl, ?_, fun j other => ?_, fun t led => ?_⟩
    · rw [others, if_pos rfl]
    · rw [others, if_neg other]
    · rw [others, if_neg (ne_of_resolve linked led)]
  · generalize d.removeEmptyDirectory cwd p = result at directories
    cases directories with
    | @taken left j _ found' empty =>
      obtain rfl := Except.ok.inj (found.symm.trans found')
      cases linked.symm.trans empty.1
    | absent _ absent => exact absurd found (exists?_eq_false_iff.mp absent k)
    | refused _ _ => exact ⟨_, rfl⟩

/-- The link of the sample: a file's deletion takes it, and the directory that it leads to stays with the file
in it. -/
theorem deletions_all_or_nothing_sample :
    let p := Path.ofString "/e/../a.management"
    let k : Location := [Text.encode "a.management"]
    (Disk.sample.find [] p = .ok k ∧ Disk.sample.lookup k = some (.link (.ofString "e")) ∧
      Disk.sample.resolve [] p = .ok [Text.encode "e"]) ∧
    (∃ left, Disk.sample.removeFile [] p = (.ok (), left) ∧ left.lookup k = none ∧
      left.lookup [Text.encode "e"] = some .directory ∧
      left.lookup [Text.encode "f", Text.encode "e"] = some (.file (.zeros 1))) ∧
    ∃ failure, Disk.sample.removeEmptyDirectory [] p = (.error failure, .sample) := by
  intro p k
  have found : Disk.sample.find [] p = .ok k := rfl
  have linked : Disk.sample.lookup k = some (.link (.ofString "e")) := rfl
  have led : Disk.sample.resolve [] p = .ok [Text.encode "e"] := rfl
  obtain ⟨-, -, links⟩ := deletions_all_or_nothing .sample [] p
  obtain ⟨⟨left, deleted, gone, others, target⟩, refused⟩ := links k _ found linked
  refine ⟨⟨found, linked, led⟩, ⟨left, deleted, gone, target _ led, ?_⟩, refused⟩
  exact others [Text.encode "f", Text.encode "e"] (by decide)

end Reclaim
