import Reclaim.Proofs.Disk.Walk

/-!
# The answers of a disk

What a call on a disk answers, said by the walk it makes.

* A call **finds** a node under a path when it takes the path, the walk along all steps but the last ends
  in a directory, and the last step has a node there (`Disk.locate_eq_ok_iff`, `Disk.find_eq_ok_iff`).
* A call **follows** a path when it takes it and the walk along all steps ends somewhere
  (`Disk.follow_eq_ok_iff`).
* A **deletion** that goes through has found a node under its path: a file or a link for one, an empty
  directory for the other. It takes away that node and no other (`Disk.unlink_eq_ok_iff`,
  `Disk.removeDirectory_eq_ok_iff`).

**The canonical path of a location** where something stands leads back to it, from any working directory
(`Disk.locate_path`). A call takes it, and so finds what stands there, just where that is in reach
(`Disk.find_path`).
-/

namespace Reclaim

namespace Disk

variable {d left : Disk} {cwd k l t : Location} {p : Path} {n : List UInt8} {links : Nat}
  {way rest : List Component}

/-! ## Finding -/

theorem requirePath_eq_ok : requirePath p = .ok () ↔ p.bytes ≠ [] := by
  unfold requirePath
  split <;> simp_all

theorem requireCallable_eq_ok :
    requireCallable p = .ok () ↔ 0 ∉ p.bytes ∧ p.bytes.length ≤ pathLimit := by
  unfold requireCallable
  split
  · simp_all
  · split
    · simp_all
    · simp_all

theorem resolve_eq_ok_iff :
    d.resolve cwd p = .ok t ↔ p.bytes ≠ [] ∧ d.Reaches linkLimit cwd p.steps t := by
  rw [resolve, bind_eq_ok, exists_unit, requirePath_eq_ok, walk_eq_ok_iff]

/-- Where a path leads, something other than a link stands. -/
theorem isFirm_of_resolve (h : d.resolve cwd p = .ok t) : d.IsFirm t := by
  obtain ⟨nonempty, walked⟩ := resolve_eq_ok_iff.mp h
  exact walked.isFirm_of_ne_nil (Path.steps_ne_nil nonempty)

theorem find_eq_ok_iff :
    d.find cwd p = .ok k ↔ requireCallable p = .ok () ∧ d.locate cwd p = .ok k := by
  rw [find, bind_eq_ok, exists_unit]

theorem follow_eq_ok_iff :
    d.follow cwd p = .ok t ↔ requireCallable p = .ok () ∧ d.resolve cwd p = .ok t := by
  rw [follow, bind_eq_ok, exists_unit]

theorem lastStep_here_eq_ok : d.lastStep l .here = .ok k ↔ d.lookup l = some .directory ∧ k = l := by
  rw [lastStep, bind_eq_ok, exists_unit, requireDirectory_eq_ok]
  exact and_congr_right fun _ => Except.ok.injEq l k ▸ eq_comm

theorem lastStep_up_eq_ok : d.lastStep l .up = .ok k ↔ d.lookup l = some .directory ∧ k = l.tail := by
  rw [lastStep, bind_eq_ok, exists_unit, requireDirectory_eq_ok]
  exact and_congr_right fun _ => Except.ok.injEq l.tail k ▸ eq_comm

theorem lastStep_name_eq_ok :
    d.lastStep l (.name n) = .ok k ↔ (∃ e, d.lookup (n :: l) = some e) ∧ k = n :: l := by
  rw [lastStep, bind_eq_ok]
  constructor
  · rintro ⟨e, found, h⟩
    cases h
    exact ⟨⟨e, entry_eq_ok.mp found⟩, rfl⟩
  · rintro ⟨⟨e, found⟩, rfl⟩
    exact ⟨e, entry_eq_ok.mpr found, rfl⟩

/-- **What a last step answers** stands. -/
theorem lookup_of_lastStep {c : Component} (h : d.lastStep l c = .ok k) : ∃ e, d.lookup k = some e := by
  cases c with
  | root =>
    cases h
    exact ⟨_, d.lookup_root⟩
  | here =>
    obtain ⟨directory, rfl⟩ := lastStep_here_eq_ok.mp h
    exact ⟨_, directory⟩
  | up =>
    obtain ⟨directory, rfl⟩ := lastStep_up_eq_ok.mp h
    exact ⟨_, directory_of_tail directory⟩
  | name n =>
    obtain ⟨stands, rfl⟩ := lastStep_name_eq_ok.mp h
    exact stands

/-- A step that a walk takes without a link is one that a path can end in. -/
theorem lastStep_of_reaches {c : Component} (h : d.Reaches 0 l [c] t) : d.lastStep l c = .ok t := by
  cases h with
  | root h =>
    obtain rfl := reaches_nil_iff.mp h
    rfl
  | here directory h => exact lastStep_here_eq_ok.mpr ⟨directory, (reaches_nil_iff.mp h).symm⟩
  | up directory h => exact lastStep_up_eq_ok.mpr ⟨directory, (reaches_nil_iff.mp h).symm⟩
  | name firm h =>
    obtain ⟨e, found, -⟩ := firm
    exact lastStep_name_eq_ok.mpr ⟨⟨e, found⟩, (reaches_nil_iff.mp h).symm⟩

/-- A path with a step is not empty. -/
theorem bytes_ne_nil_of_steps {c : Component} (h : p.steps = way ++ [c]) : p.bytes ≠ [] := by
  intro empty
  rw [show p = ⟨[]⟩ from congrArg Path.mk empty] at h
  exact List.append_ne_nil_of_right_ne_nil way (List.cons_ne_nil c []) h.symm

/-- **The node that a path names**: the way is walked, and the last step taken where it ends. -/
theorem locate_iff {c : Component} (h : p.steps = way ++ [c]) :
    d.locate cwd p = .ok k ↔ ∃ l, d.Reaches linkLimit cwd way l ∧ d.lastStep l c = .ok k := by
  rw [locate, bind_eq_ok, exists_unit, requirePath_eq_ok, h, List.getLast?_concat,
    List.dropLast_concat, and_iff_right (bytes_ne_nil_of_steps h), bind_eq_ok]
  simp only [walk_eq_ok_iff]

theorem locate_eq_ok_iff (h : p.steps = way ++ [.name n]) :
    d.locate cwd p = .ok k ↔
      ∃ l, d.Reaches linkLimit cwd way l ∧ (∃ e, d.lookup (n :: l) = some e) ∧ k = n :: l := by
  rw [locate_iff h]
  exact exists_congr fun l => and_congr_right fun _ => lastStep_name_eq_ok

/-- **A path that names a node has a last step.** -/
theorem exists_last_of_locate (h : d.locate cwd p = .ok k) :
    ∃ way c l, p.steps = way ++ [c] ∧ d.Reaches linkLimit cwd way l ∧ d.lastStep l c = .ok k := by
  rcases List.eq_nil_or_concat p.steps with nothing | ⟨way, c, some⟩
  · rw [locate, nothing, bind_eq_ok] at h
    obtain ⟨_, -, h⟩ := h
    cases h
  · rw [List.concat_eq_append] at some
    obtain ⟨l, walked, last⟩ := (locate_iff some).mp h
    exact ⟨way, c, l, some, walked, last⟩

/-- **What a path names stands.** -/
theorem lookup_of_locate (h : d.locate cwd p = .ok k) : ∃ e, d.lookup k = some e := by
  obtain ⟨way, c, l, -, -, last⟩ := exists_last_of_locate h
  exact lookup_of_lastStep last

theorem exists?_eq_true_iff : d.exists? cwd p = true ↔ ∃ k, d.find cwd p = .ok k := by
  unfold exists?
  cases d.find cwd p with
  | error failure => simp [Except.toBool]
  | ok k => simp [Except.toBool]

/-- **The answer of a listing**: an entry for each name in the directory that the path leads to. -/
theorem list_eq_ok_iff {entries : List Path} :
    d.list cwd p = .ok entries ↔ ∃ l, d.follow cwd p = .ok l ∧ d.lookup l = some .directory ∧
      entries = (d.names l).map fun n => p.join ⟨n⟩ := by
  rw [list, bind_eq_ok]
  refine exists_congr fun l => and_congr_right fun _ => ?_
  rw [bind_eq_ok, exists_unit, requireDirectory_eq_ok]
  refine and_congr_right fun _ => ?_
  constructor
  · intro h
    cases h
    rfl
  · rintro rfl
    rfl

theorem isName_of_mem_names (h : n ∈ d.names l) : IsName n := by
  obtain ⟨e, found⟩ := Option.isSome_iff_exists.mp ((d.mem_names l n).mp h)
  exact (isEntryName_of_lookup found).1

/-- **The disk lists entries.** -/
theorem mem_of_list {entries : List Path} (answered : d.list cwd p = .ok entries) {q : Path}
    (h : q ∈ entries) : ∃ n, IsName n ∧ q = p.join ⟨n⟩ := by
  obtain ⟨l, -, -, rfl⟩ := list_eq_ok_iff.mp answered
  obtain ⟨n, listed, rfl⟩ := List.mem_map.mp h
  exact ⟨n, isName_of_mem_names listed, rfl⟩

/-- A path names the entry at the end of its way. Behind a separator that has to be a directory. -/
theorem find_of_stem {way : List Component} {n : List UInt8} {e : Entry}
    (callable : requireCallable p = .ok ()) (hstem : p.stem = way ++ [.name n])
    (walked : d.Reaches linkLimit cwd way l) (found : d.lookup (n :: l) = some e)
    (ends : p.endsInSeparator = true → e = .directory) : d.find cwd p = .ok (n :: l) := by
  refine find_eq_ok_iff.mpr ⟨callable, ?_⟩
  cases trailing : p.endsInSeparator with
  | false =>
    have hsteps : p.steps = way ++ [.name n] := (p.steps_of_not_endsInSeparator trailing).trans hstem
    exact (locate_eq_ok_iff hsteps).mpr ⟨l, walked, ⟨e, found⟩, rfl⟩
  | true =>
    have directory : d.lookup (n :: l) = some .directory := ends trailing ▸ found
    have hsteps : p.steps = p.stem ++ [.here] := by rw [Path.steps, trailing]; rfl
    rw [locate_iff hsteps, hstem]
    exact ⟨n :: l, walked.append fun _ => .name (isFirm_of_directory directory) .done,
      lastStep_here_eq_ok.mpr ⟨directory, rfl⟩⟩

/-! ## Deleting -/

theorem parting_eq_ok_iff {c : Component} :
    d.parting cwd p = .ok (l, c) ↔ requireCallable p = .ok () ∧ ∃ way, p.stem = way ++ [c] ∧
      d.Reaches linkLimit cwd way l ∧ (way ≠ [] → d.lookup l = some .directory) := by
  rw [parting, bind_eq_ok, exists_unit, bind_eq_ok, exists_unit, requirePath_eq_ok]
  refine and_congr_right fun _ => ?_
  rcases List.eq_nil_or_concat p.stem with nothing | ⟨way, last, some⟩
  · rw [nothing]
    refine iff_of_false (fun ⟨_, h⟩ => by cases h) ?_
    rintro ⟨way, h, -⟩
    exact List.append_ne_nil_of_right_ne_nil way (List.cons_ne_nil c []) h.symm
  · rw [List.concat_eq_append] at some
    have nonempty : p.bytes ≠ [] := by
      intro empty
      rw [show p = ⟨[]⟩ from congrArg Path.mk empty] at some
      exact List.append_ne_nil_of_right_ne_nil way (List.cons_ne_nil last []) some.symm
    -- The directory is looked at only where the walk has taken a step.
    have parted : ∀ m, (do
        if way ≠ [] then d.requireDirectory m
        return (m, last) : Except Failure (Location × Component)) = .ok (l, c) ↔
          (m = l ∧ last = c) ∧ (way ≠ [] → d.lookup m = Option.some .directory) := by
      intro m
      by_cases short : way = []
      · simp [short, pure, Except.pure]
      · simp [short, bind_eq_ok, exists_unit, requireDirectory_eq_ok, pure, Except.pure, and_comm]
    rw [some, List.getLast?_concat, List.dropLast_concat, and_iff_right nonempty, bind_eq_ok]
    simp only [walk_eq_ok_iff, parted]
    constructor
    · rintro ⟨_, walked, ⟨rfl, rfl⟩, directory⟩
      exact ⟨way, rfl, walked, directory⟩
    · rintro ⟨way', same, walked, directory⟩
      obtain ⟨rfl, last⟩ := List.append_inj' same rfl
      exact ⟨l, walked, ⟨rfl, List.singleton_inj.mp last⟩, directory⟩

/-- **No name is held** where nothing stands at any. -/
theorem names_eq_nil_iff : d.names l = [] ↔ ∀ n, d.lookup (n :: l) = none := by
  rw [List.eq_nil_iff_forall_not_mem]
  refine forall_congr' fun n => ?_
  rw [mem_names, ← lookup_cons, Option.not_isSome_iff_eq_none]

/-- What is no directory holds no name. -/
theorem names_eq_nil (h : d.lookup l ≠ some .directory) : d.names l = [] := by
  refine names_eq_nil_iff.mpr fun n => ?_
  cases found : d.lookup (n :: l) with
  | none => rfl
  | some e => exact absurd (directory_of_lookup found) h

/-- **What a file's deletion deletes**: it goes through where the path ends in a name, without a
separator behind it, and a file or a link stands there. -/
theorem unlink_eq_ok_iff :
    d.unlink cwd p = .ok left ↔ requireCallable p = .ok () ∧ p.endsInSeparator = false ∧
      ∃ way n l e, p.stem = way ++ [.name n] ∧ d.Reaches linkLimit cwd way l ∧
        d.lookup (n :: l) = some e ∧ e ≠ .directory ∧ left = d.delete (n :: l) := by
  rw [unlink, bind_eq_ok]
  constructor
  · rintro ⟨⟨l, c⟩, parted, h⟩
    obtain ⟨callable, way, hstem, walked, -⟩ := parting_eq_ok_iff.mp parted
    cases c with
    | root => cases h
    | here => cases h
    | up => cases h
    | name n =>
      obtain ⟨e, found, h⟩ := bind_eq_ok.mp h
      rw [entry_eq_ok] at found
      cases e with
      | directory => cases h
      | file content =>
        dsimp only at h
        split at h
        · cases h
        · rename_i ends
          cases h
          exact ⟨callable, Bool.eq_false_iff.mpr ends, way, n, l, _, hstem, walked, found, nofun, rfl⟩
      | link target =>
        dsimp only at h
        split at h
        · cases h
        · rename_i ends
          cases h
          exact ⟨callable, Bool.eq_false_iff.mpr ends, way, n, l, _, hstem, walked, found, nofun, rfl⟩
  · rintro ⟨callable, ends, way, n, l, e, hstem, walked, found, notDirectory, rfl⟩
    refine ⟨(l, .name n), parting_eq_ok_iff.mpr
      ⟨callable, way, hstem, walked, fun _ => directory_of_lookup found⟩, ?_⟩
    refine bind_eq_ok.mpr ⟨e, entry_eq_ok.mpr found, ?_⟩
    cases e with
    | directory => exact absurd rfl notDirectory
    | file content => simp [ends]
    | link target => simp [ends]

/-- **What a directory's deletion deletes**: it goes through where the last name of the path is that of
a directory without entries. -/
theorem removeDirectory_eq_ok_iff :
    d.removeDirectory cwd p = .ok left ↔ requireCallable p = .ok () ∧
      ∃ way n l, p.stem = way ++ [.name n] ∧ d.Reaches linkLimit cwd way l ∧
        d.lookup (n :: l) = some .directory ∧ d.names (n :: l) = [] ∧ left = d.delete (n :: l) := by
  rw [removeDirectory, bind_eq_ok]
  constructor
  · rintro ⟨⟨l, c⟩, parted, h⟩
    obtain ⟨callable, way, hstem, walked, -⟩ := parting_eq_ok_iff.mp parted
    cases c with
    | root => cases h
    | here => cases h
    | up => cases h
    | name n =>
      obtain ⟨e, found, h⟩ := bind_eq_ok.mp h
      rw [entry_eq_ok] at found
      cases e with
      | file content => cases h
      | link target => cases h
      | directory =>
        dsimp only at h
        split at h
        · rename_i leaf
          cases h
          exact ⟨callable, way, n, l, hstem, walked, found, leaf, rfl⟩
        · cases h
  · rintro ⟨callable, way, n, l, hstem, walked, found, leaf, rfl⟩
    refine ⟨(l, .name n), parting_eq_ok_iff.mpr
      ⟨callable, way, hstem, walked, fun _ => directory_of_lookup found⟩, ?_⟩
    refine bind_eq_ok.mpr ⟨_, entry_eq_ok.mpr found, ?_⟩
    rw [if_pos leaf]

/-- **A deleted node is gone and nothing else is.** -/
theorem lookup_deleted (leaf : d.names (n :: l) = []) (j : Location) :
    (d.delete (n :: l)).lookup j = if j = n :: l then none else d.lookup j := by
  rw [d.lookup_delete _ leaf]
  by_cases same : j = n :: l
  · rw [if_pos ⟨same, same ▸ List.cons_ne_nil n l⟩, if_pos same]
  · rw [if_neg fun h => same h.1, if_neg same]

/-! ## Canonical paths -/

/-- **The way to a directory by names** leads there from the root, whatever comes next. -/
theorem reaches_names_iff (directory : d.lookup l = some .directory) :
    d.Reaches links [] (l.reverse.map .name ++ rest) t ↔ d.Reaches links l rest t := by
  induction l generalizing rest with
  | nil => rfl
  | cons n l ih =>
    rw [List.reverse_cons, List.map_append, List.append_assoc, ih (directory_of_lookup directory)]
    change d.Reaches links l (.name n :: rest) t ↔ _
    rw [reaches_name_iff, and_iff_right (isFirm_of_directory directory)]
    refine or_iff_left ?_
    rintro ⟨_, _, -, link, -⟩
    cases directory.symm.trans link

/-- **The canonical way to a location** leads there, unless a link stands there. -/
theorem reaches_components (firm : d.IsFirm l) : d.Reaches links cwd l.components l := by
  rw [Location.components, reaches_root_iff]
  cases l with
  | nil => exact .done
  | cons n l =>
    obtain ⟨e, found, -⟩ := id firm
    rw [List.reverse_cons, List.map_append, reaches_names_iff (directory_of_lookup found)]
    exact .name firm .done

end Disk

namespace Location

variable {n : List UInt8} {l : Location}

theorem stem_path (h : l.IsNamed) : l.path.stem = l.components := by
  induction l with
  | nil => rfl
  | cons n l ih =>
    rw [← path_join h.tail h.head.2.1, Path.stem_join (path_bytes_ne_nil l) h.head, ih h.tail,
      components_cons]

theorem stem_path_cons (h : IsNamed (n :: l)) :
    (path (n :: l)).stem = l.components ++ [.name n] := by
  rw [stem_path h, components_cons]

theorem endsInSeparator_path (h : IsNamed (n :: l)) : (path (n :: l)).endsInSeparator = false := by
  rw [← path_join h.tail h.head.2.1]
  exact Path.endsInSeparator_join h.head

/-- **The steps of a canonical path** are its names behind the root. -/
theorem steps_path (h : IsNamed (n :: l)) : (path (n :: l)).steps = l.components ++ [.name n] :=
  ((path (n :: l)).steps_of_not_endsInSeparator (endsInSeparator_path h)).trans (stem_path_cons h)

end Location

namespace Disk

variable {d : Disk} {cwd k l : Location} {n : List UInt8}

/-- **A canonical path behind a location where no link stands** names the entry there. -/
theorem locate_path_cons (firm : d.IsFirm l) (h : IsName n) :
    d.locate cwd (Location.path (n :: l)) = .ok k ↔
      (∃ e, d.lookup (n :: l) = some e) ∧ k = n :: l := by
  obtain ⟨e, found, -⟩ := id firm
  rw [locate_eq_ok_iff (Location.steps_path (.cons h (isNamed_of_lookup found)))]
  constructor
  · rintro ⟨m, walked, stands, rfl⟩
    obtain rfl := walked.unique (reaches_components firm)
    exact ⟨stands, rfl⟩
  · rintro ⟨stands, rfl⟩
    exact ⟨l, reaches_components firm, stands, rfl⟩

/-- **The canonical path of what stands names it.** -/
theorem locate_path {e : Entry} (h : d.lookup k = some e) : d.locate cwd k.path = .ok k := by
  cases k with
  | nil => rfl
  | cons n l =>
    exact (locate_path_cons (isFirm_of_directory (directory_of_lookup h))
      (isEntryName_of_lookup h).1).mpr ⟨⟨e, h⟩, rfl⟩

/-- **A call takes it** just where that is in reach. -/
theorem requireCallable_path {e : Entry} (h : d.lookup k = some e) :
    requireCallable k.path = .ok () ↔ k.IsInReach := by
  rw [requireCallable_eq_ok]
  refine and_iff_right fun nul => ?_
  cases k with
  | nil => exact absurd nul (by decide)
  | cons n l =>
    obtain ⟨m, hm, nul⟩ := List.mem_flatMap.mp nul
    rcases List.mem_cons.mp nul with slash | nul
    · cases slash
    · exact (isEntryName_of_mem h m (List.mem_reverse.mp hm)).2.1 nul

theorem find_path {e : Entry} (near : k.IsInReach) (h : d.lookup k = some e) :
    d.find cwd k.path = .ok k :=
  find_eq_ok_iff.mpr ⟨(requireCallable_path h).mpr near, locate_path h⟩

/-- **What is found under a canonical path** that leads to no other node is in reach. -/
theorem isInReach_of_find (found : d.find cwd k.path = .ok k) : k.IsInReach := by
  obtain ⟨callable, located⟩ := find_eq_ok_iff.mp found
  obtain ⟨e, stands⟩ := lookup_of_locate located
  exact (requireCallable_path stands).mp callable

end Disk

end Reclaim
