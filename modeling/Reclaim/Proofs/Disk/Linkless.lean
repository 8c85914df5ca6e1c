import Reclaim.Proofs.Disk.Deleted

/-!
# Disks without links

On a disk **without links** (`Disk.IsLinkless`) a path leads where its names say. So under the canonical path
of a location a call finds what stands there, if that is in reach, and no other node
(`Disk.IsLinkless.find_path_iff`).

The other calls are made on what stands, and there links on the way are no concern, since nothing stands
behind a link. At the canonical path of what stands in reach, each call answers by the node alone: the size,
the names in it, and whether a deletion goes through (`Disk.Yields`).
-/

namespace Reclaim

/-- The size of a regular file. -/
def Entry.size? : Entry → Option Nat
  | .file content => some content.size
  | .directory | .link _ => none

namespace Disk

variable {d left : Disk} {cwd j k l t : Location} {n : List UInt8} {names : List (List UInt8)}
  {links : Nat} {e : Entry} {kind : ArtifactKind}

/-- **A disk without links.** -/
def IsLinkless (d : Disk) : Prop := ∀ l target, d.lookup l ≠ some (.link target)

/-- Whether a disk has links can be read off its list. -/
theorem isLinkless_of_entries (h : ∀ e ∈ d.entries.entries, ∀ target, e.2 ≠ .link target) :
    d.IsLinkless := by
  intro l target found
  cases l with
  | nil => cases d.lookup_root.symm.trans found
  | cons n l => exact h _ (Keyed.mem_of_get? found) target rfl

/-- It stays so. -/
theorem IsLinkless.within (linkless : d.IsLinkless) (h : left.Within d) : left.IsLinkless :=
  fun l target found => linkless l target (h l _ found)

/-! ## Finding -/

/-- **A walk by names goes where they say**, by induction on the names. -/
theorem IsLinkless.reaches_names (linkless : d.IsLinkless)
    (h : d.Reaches links l (names.map .name) t) : t = names.reverse ++ l := by
  induction names generalizing l with
  | nil => exact (reaches_nil_iff.mp h).symm
  | cons n names ih =>
    rcases reaches_name_iff.mp h with ⟨-, h⟩ | ⟨_, target, -, link, -⟩
    · rw [ih h, List.reverse_cons, List.append_assoc, List.singleton_append]
    · exact absurd link (linkless _ target)

theorem IsLinkless.reaches_components (linkless : d.IsLinkless)
    (h : d.Reaches links cwd l.components t) : t = l := by
  rw [Location.components, reaches_root_iff] at h
  have there := linkless.reaches_names h
  rwa [List.reverse_reverse, List.append_nil] at there

/-- **Under a canonical path is found what stands at its location**, if that is in reach. -/
theorem IsLinkless.find_path_iff (linkless : d.IsLinkless) (named : k.IsNamed) :
    d.find cwd k.path = .ok j ↔ k.IsInReach ∧ (∃ e, d.lookup k = some e) ∧ j = k := by
  constructor
  · intro found
    have same : j = k := by
      cases k with
      | nil => exact Except.ok.inj (found.symm.trans (find_path (by decide) d.lookup_root))
      | cons n l =>
        obtain ⟨m, walked, -, rfl⟩ :=
          (locate_eq_ok_iff (Location.steps_path named)).mp (find_eq_ok_iff.mp found).2
        rw [linkless.reaches_components walked]
    subst same
    exact ⟨isInReach_of_find found, lookup_of_locate (find_eq_ok_iff.mp found).2, rfl⟩
  · rintro ⟨near, ⟨e, stands⟩, rfl⟩
    exact find_path near stands

theorem IsLinkless.exists?_path (linkless : d.IsLinkless) (named : k.IsNamed) :
    d.exists? cwd k.path = (decide k.IsInReach && (d.lookup k).isSome) := by
  rw [Bool.eq_iff_iff, exists?_eq_true_iff, Bool.and_eq_true, decide_eq_true_eq,
    Option.isSome_iff_exists]
  simp only [linkless.find_path_iff named, exists_and_left, exists_eq, and_true]

/-! ## What stands, under its canonical path -/

theorem fileSize_path (near : k.IsInReach) (h : d.lookup k = some e) :
    d.fileSize cwd k.path = e.size? := by
  rw [fileSize, find_path near h]
  dsimp only
  rw [h]
  cases e <;> rfl

/-- **A directory is listed by its names.** -/
theorem list_path (near : k.IsInReach) (h : d.lookup k = some .directory) :
    d.list cwd k.path = .ok ((d.names k).map fun n => Location.path (n :: k)) := by
  have followed : d.follow cwd k.path = .ok k := by
    have found : d.find cwd k.path = .ok k := find_path near h
    obtain ⟨callable, located⟩ := find_eq_ok_iff.mp found
    exact follow_eq_ok_iff.mpr ⟨callable, resolve_of_locate located (isFirm_of_directory h)⟩
  refine list_eq_ok_iff.mpr ⟨k, followed, h, List.map_congr_left fun n listed => ?_⟩
  exact (Location.path_join (isNamed_of_lookup h) (isName_of_mem_names listed).2.1).symm

/-- **Whether a location yields to a deletion**: a directory that is deleted as one is empty, and what is
deleted as a file is none. -/
def Yields (d : Disk) (kind : ArtifactKind) (k : Location) : Prop :=
  match kind with
  | .managementDirectory => d.lookup k = some .directory ∧ d.names k = []
  | .managementEntry | .primary | .notification => d.lookup k ≠ some .directory

/-- What yields holds no name. -/
theorem Yields.leaf (h : d.Yields kind k) : d.names k = [] := by
  cases kind with
  | managementDirectory => exact h.2
  | managementEntry => exact names_eq_nil h
  | primary => exact names_eq_nil h
  | notification => exact names_eq_nil h

section Deletion

variable (near : Location.IsInReach (n :: l)) (h : d.lookup (n :: l) = some e)
include near h

/-- A deletion at the canonical path of what stands in reach comes to the node. -/
theorem unlink_path_iff :
    d.unlink cwd (Location.path (n :: l)) = .ok left ↔
      d.lookup (n :: l) ≠ some .directory ∧ left = d.delete (n :: l) := by
  have named := isNamed_of_lookup h
  have firm := isFirm_of_directory (directory_of_lookup h)
  have stem := Location.stem_path_cons named
  rw [unlink_eq_ok_iff]
  constructor
  · rintro ⟨-, -, way, m, l', e', same, walked, stands, file, rfl⟩
    obtain ⟨rfl, last⟩ := List.append_inj' (stem.symm.trans same) rfl
    obtain rfl := Component.name.inj (List.singleton_inj.mp last)
    obtain rfl := walked.unique (reaches_components firm)
    exact ⟨fun directory => file (Option.some.inj (stands.symm.trans directory)), rfl⟩
  · rintro ⟨file, rfl⟩
    exact ⟨(requireCallable_path h).mpr near, Location.endsInSeparator_path named, _, n, l, e, stem,
      reaches_components firm, h, fun same => file (same ▸ h), rfl⟩

theorem removeDirectory_path_iff :
    d.removeDirectory cwd (Location.path (n :: l)) = .ok left ↔
      (d.lookup (n :: l) = some .directory ∧ d.names (n :: l) = []) ∧ left = d.delete (n :: l) := by
  have named := isNamed_of_lookup h
  have firm := isFirm_of_directory (directory_of_lookup h)
  have stem := Location.stem_path_cons named
  rw [removeDirectory_eq_ok_iff]
  constructor
  · rintro ⟨-, way, m, l', same, walked, directory, leaf, rfl⟩
    obtain ⟨rfl, last⟩ := List.append_inj' (stem.symm.trans same) rfl
    obtain rfl := Component.name.inj (List.singleton_inj.mp last)
    obtain rfl := walked.unique (reaches_components firm)
    exact ⟨⟨directory, leaf⟩, rfl⟩
  · rintro ⟨⟨directory, leaf⟩, rfl⟩
    exact ⟨(requireCallable_path h).mpr near, _, n, l, stem, reaches_components firm, directory, leaf, rfl⟩

theorem erasing_path_iff :
    d.erasing cwd kind (Location.path (n :: l)) = .ok left ↔
      d.Yields kind (n :: l) ∧ left = d.delete (n :: l) := by
  cases kind with
  | managementDirectory => exact removeDirectory_path_iff near h
  | managementEntry => exact unlink_path_iff near h
  | primary => exact unlink_path_iff near h
  | notification => exact unlink_path_iff near h

/-- **A deletion of what stands in reach**, at its canonical path: it goes through where the location yields, and
otherwise changes nothing. -/
theorem remove_path (cwd : Location) (kind : ArtifactKind) :
    (d.Yields kind (n :: l) ∧ ((Disk.filesystem cwd).remove kind (Location.path (n :: l))).run d =
        (.ok (), d.delete (n :: l))) ∨
      ¬ d.Yields kind (n :: l) ∧ ∃ reason,
        ((Disk.filesystem cwd).remove kind (Location.path (n :: l))).run d = (.error reason, d) := by
  rw [remove_run]
  cases answer : d.erasing cwd kind (Location.path (n :: l)) with
  | ok left =>
    obtain ⟨yields, rfl⟩ := (erasing_path_iff near h).mp answer
    exact .inl ⟨yields, rfl⟩
  | error failure =>
    refine .inr ⟨fun yields => ?_, ?_⟩
    · cases answer.symm.trans ((erasing_path_iff near h).mpr ⟨yields, rfl⟩)
    · cases failure with
      | notFound => exact absurd answer (erasing_of_find (find_path near h))
      | _ => exact ⟨_, rfl⟩

end Deletion

end Disk

end Reclaim
