import Reclaim.Proofs.Disk.Linkless
import Reclaim.Proofs.Store.Children

/-!
# The mirror of a disk

The **mirror** of a disk is the store that holds its directories and files under their canonical paths
(`Disk.mirror`). It has no room for links. A disk without links and its mirror hold the same nodes, and by
those alone a store answers.

* What the mirror holds under a canonical path is what stands at the location (`Disk.get?_mirror_path`).
* The children of a directory have the paths of its names, in the same order
  (`Disk.Mirrored.childrenOf_path`): behind the path of the directory, paths are ordered as names are.
* A location yields to a deletion where its path does (`Disk.Mirrored.yields_path`), and the mirror of what
  a deletion leaves is what a deletion leaves of the mirror (`Disk.Mirrored.delete`).
-/

namespace Reclaim

/-- **The node of an entry**, the bytes of a file left aside. A link has none. -/
def Entry.node? : Entry → Option Node
  | .directory => some .directory
  | .file content => some (.file content.size)
  | .link _ => none

theorem Entry.size?_eq (e : Entry) : e.size? = e.node?.bind Node.size? := by
  cases e <;> rfl

theorem Entry.node?_eq_directory {e : Entry} : e.node? = some .directory ↔ e = .directory := by
  cases e <;> simp [node?]

/-! ## One name behind a path -/

theorem append_slash_inj {a b y r : List UInt8} (hy : slash ∉ y) (hr : slash ∉ r)
    (h : a ++ slash :: y = b ++ slash :: r) : y = r := by
  rcases List.append_eq_append_iff.mp h with ⟨c, -, h⟩ | ⟨c, -, h⟩
  · cases c with
    | nil => exact (List.cons.inj h).2
    | cons b c =>
      rw [(List.cons.inj h).2] at hy
      exact absurd (by simp) hy
  · cases c with
    | nil => exact (List.cons.inj h).2.symm
    | cons b c =>
      rw [(List.cons.inj h).2] at hr
      exact absurd (by simp) hr

namespace Store

variable {l k : Location} {q : Path}

theorem childStem_path (named : l.IsNamed) : childStem l.path = spelled l.reverse ++ [slash] := by
  unfold childStem
  cases l with
  | nil => rfl
  | cons n l =>
    rw [if_neg (Location.getLast?_path named.head)]
    rfl

/-- A child of a canonical path has one more segment behind it. -/
theorem isChild_path (named : l.IsNamed) :
    isChild l.path q = true ↔ ∃ r, r ≠ [] ∧ slash ∉ r ∧ q = Location.path (r :: l) := by
  obtain ⟨bytes⟩ := q
  unfold isChild
  simp only [childStem_path named, Bool.and_eq_true, Bool.not_eq_true', List.isEmpty_eq_false_iff,
    List.contains_eq_mem, decide_eq_false_iff_not, List.isPrefixOf_iff_prefix, Location.path_cons]
  constructor
  · rintro ⟨⟨⟨r, rfl⟩, nonempty⟩, single⟩
    rw [List.drop_left] at nonempty single
    exact ⟨r, nonempty, single, by simp⟩
  · rintro ⟨r, nonempty, single, same⟩
    obtain rfl : bytes = (spelled l.reverse ++ [slash]) ++ r := by simpa using same
    rw [List.drop_left]
    exact ⟨⟨List.prefix_append _ _, nonempty⟩, single⟩

/-- **Among the paths of locations the children are those with one more name.** -/
theorem isChild_path_path (named : l.IsNamed) (named' : k.IsNamed) :
    isChild l.path k.path = true ↔ ∃ n, k = n :: l := by
  rw [isChild_path named]
  constructor
  · rintro ⟨r, nonempty, single, same⟩
    cases k with
    | nil =>
      -- The path of the root is too short to be that of a child.
      rw [Location.path_cons] at same
      have short : 1 = (spelled l.reverse ++ slash :: r).length :=
        congrArg (fun p => p.bytes.length) same
      have long := List.length_pos_iff.mpr nonempty
      rw [List.length_append, List.length_cons] at short
      omega
    | cons n k =>
      have bytes := congrArg Path.bytes same
      rw [Location.path_cons, Location.path_cons] at bytes
      obtain rfl := append_slash_inj named'.head.2.1 single bytes
      exact ⟨n, Location.path_inj named' (.cons named'.head named) same⟩
  · rintro ⟨n, rfl⟩
    exact ⟨n, named'.head.1, named'.head.2.1, rfl⟩

end Store

namespace Disk

variable {d : Disk} {s : Store} {k l : Location} {n : List UInt8} {q : Path} {e : Entry} {node : Node}
  {kind : ArtifactKind}

/-! ## Names in order -/

theorem nodup_names (d : Disk) (l : Location) : (d.names l).Nodup := by
  refine (List.mergeSort_perm _ _).nodup_iff.mpr (List.Nodup.filterMap ?_ d.entries.distinct)
  intro k k' n here there
  cases k with
  | nil => cases here
  | cons m k =>
    cases k' with
    | nil => cases there
    | cons m' k' =>
      obtain ⟨rfl, same⟩ := Option.ite_none_right_eq_some.mp here
      obtain ⟨rfl, same'⟩ := Option.ite_none_right_eq_some.mp there
      obtain rfl := Option.some.inj same
      obtain rfl := Option.some.inj same'
      rfl

theorem sorted_names (d : Disk) (l : Location) : (d.names l).Pairwise (· ≤ ·) := by
  have sorted := @List.pairwise_mergeSort (List UInt8) nameLE
    (fun _ _ _ h h' => decide_eq_true (List.le_trans (of_decide_eq_true h) (of_decide_eq_true h')))
    (fun a b => by
      rw [Bool.or_eq_true, nameLE, nameLE, decide_eq_true_iff, decide_eq_true_iff]
      exact List.le_total a b)
  exact (sorted _).imp of_decide_eq_true

/-- Behind the path of their directory, paths are ordered as names are. -/
theorem sorted_paths_names (d : Disk) (l : Location) :
    ((d.names l).map fun n => Location.path (n :: l)).Pairwise fun a b => a.le b = true := by
  refine List.Pairwise.map _ (fun a b ordered => ?_) (d.sorted_names l)
  rw [Location.path_cons, Location.path_cons, Path.le, decide_eq_true_iff]
  exact List.append_left_le (show [slash] ++ a ≤ [slash] ++ b from List.append_left_le ordered)

theorem nodup_paths_names (d : Disk) (directory : d.lookup l = some .directory) :
    ((d.names l).map fun n => Location.path (n :: l)).Nodup := by
  refine (d.nodup_names l).map_on fun a ha b hb same => ?_
  have named := isNamed_of_lookup directory
  exact (List.cons.inj (Location.path_inj (.cons (isName_of_mem_names ha) named)
    (.cons (isName_of_mem_names hb) named) same)).1

/-! ## The mirror -/

/-- What stands anywhere, with the root. -/
def listed (d : Disk) : List (Location × Entry) := ([], .directory) :: d.entries.entries

theorem mem_listed : (k, e) ∈ d.listed ↔ d.lookup k = some e := by
  constructor
  · intro h
    rcases List.mem_cons.mp h with root | h
    · cases root
      exact d.lookup_root
    · have found := Keyed.get?_of_mem h
      cases k with
      | nil => cases d.isTree.root.symm.trans found
      | cons n l => exact found
  · intro h
    cases k with
    | nil =>
      cases d.lookup_root.symm.trans h
      exact List.mem_cons_self
    | cons n l => exact List.mem_cons_of_mem _ (Keyed.mem_of_get? h)

theorem nodup_listed (d : Disk) : (d.listed.map fun e => e.1.path).Nodup := by
  have once : (d.listed.map Prod.fst).Nodup := by
    refine List.nodup_cons.mpr ⟨fun root => ?_, d.entries.distinct⟩
    have stands := (d.entries.mem_keys []).mp root
    rw [d.isTree.root] at stands
    cases stands
  rw [show (fun e : Location × Entry => e.1.path) = Location.path ∘ Prod.fst from rfl, ← List.map_map]
  refine once.map_on fun k hk j hj same => ?_
  obtain ⟨⟨_, e⟩, here, rfl⟩ := List.mem_map.mp hk
  obtain ⟨⟨_, e'⟩, there, rfl⟩ := List.mem_map.mp hj
  exact Location.path_inj (isNamed_of_lookup (mem_listed.mp here))
    (isNamed_of_lookup (mem_listed.mp there)) same

/-- The paths of the nodes are among those of the entries. -/
theorem sublist_listed (entries : List (Location × Entry)) :
    ((entries.filterMap fun e => e.2.node?.map (e.1.path, ·)).map Prod.fst).Sublist
      (entries.map fun e => e.1.path) := by
  induction entries with
  | nil => exact List.Sublist.slnil
  | cons e entries ih =>
    rw [List.filterMap_cons, List.map_cons]
    cases e.2.node? with
    | none => exact ih.cons _
    | some node => exact ih.cons_cons _

/-- **The mirror of a disk.** -/
def mirror (d : Disk) : Store where
  entries := d.listed.filterMap fun e => e.2.node?.map (e.1.path, ·)
  distinct := (sublist_listed d.listed).nodup d.nodup_listed

theorem get?_mirror_iff : d.mirror.get? q = some node ↔
    ∃ k e, d.lookup k = some e ∧ e.node? = some node ∧ k.path = q := by
  have view : d.mirror.get? q = some node ↔ (q, node) ∈ d.mirror.entries :=
    ⟨Keyed.mem_of_get?, Keyed.get?_of_mem⟩
  rw [view, mirror, List.mem_filterMap]
  constructor
  · rintro ⟨⟨k, e⟩, listed, same⟩
    obtain ⟨node', held, same⟩ := Option.map_eq_some_iff.mp same
    cases same
    exact ⟨k, e, mem_listed.mp listed, held, rfl⟩
  · rintro ⟨k, e, stands, held, rfl⟩
    exact ⟨(k, e), mem_listed.mpr stands, by rw [held]; rfl⟩

/-- **Under a canonical path the mirror holds what stands there.** -/
theorem get?_mirror_path (d : Disk) (named : k.IsNamed) :
    d.mirror.get? k.path = (d.lookup k).bind Entry.node? := by
  refine Option.ext fun node => ?_
  rw [get?_mirror_iff, Option.bind_eq_some_iff]
  constructor
  · rintro ⟨j, e, stands, held, same⟩
    obtain rfl := Location.path_inj (isNamed_of_lookup stands) named same
    exact ⟨e, stands, held⟩
  · rintro ⟨e, stands, held⟩
    exact ⟨k, e, stands, held, rfl⟩

/-- **A store mirrors a disk**: it holds what the mirror holds, in any order. -/
def Mirrored (d : Disk) (s : Store) : Prop := ∀ q, s.get? q = d.mirror.get? q

namespace Mirrored

theorem get?_path (h : d.Mirrored s) (named : k.IsNamed) :
    s.get? k.path = (d.lookup k).bind Entry.node? :=
  (h k.path).trans (d.get?_mirror_path named)

theorem directory_iff (h : d.Mirrored s) (named : k.IsNamed) :
    s.get? k.path = some .directory ↔ d.lookup k = some .directory := by
  rw [h.get?_path named, Option.bind_eq_some_iff]
  simp only [Entry.node?_eq_directory, exists_eq_right]

/-- Where there are no links, the same places are taken. -/
theorem isSome_path (h : d.Mirrored s) (linkless : d.IsLinkless) (named : k.IsNamed) :
    (s.get? k.path).isSome = (d.lookup k).isSome := by
  rw [h.get?_path named]
  cases stands : d.lookup k with
  | none => rfl
  | some e =>
    cases e with
    | directory => rfl
    | file content => rfl
    | link target => exact absurd stands (linkless k target)

/-! ## The children of a directory -/

/-- **The children of a directory have the paths of its names**, in the same order. -/
theorem childrenOf_path (h : d.Mirrored s) (linkless : d.IsLinkless)
    (directory : d.lookup l = some .directory) :
    s.childrenOf l.path = (d.names l).map fun n => Location.path (n :: l) := by
  have named := isNamed_of_lookup directory
  refine Store.childrenOf_eq (d.nodup_paths_names directory) (d.sorted_paths_names l) fun c => ?_
  rw [List.mem_map]
  constructor
  · rintro ⟨n, listed, rfl⟩
    have named' := Location.IsNamed.cons (isName_of_mem_names listed) named
    refine ⟨(Store.isChild_path_path named named').mpr ⟨n, rfl⟩, ?_⟩
    rw [h.isSome_path linkless named']
    exact (d.mem_names l n).mp listed
  · rintro ⟨child, stands⟩
    obtain ⟨node, held⟩ := Option.isSome_iff_exists.mp stands
    obtain ⟨k, e, there, -, rfl⟩ := get?_mirror_iff.mp ((h c).symm.trans held)
    obtain ⟨n, rfl⟩ := (Store.isChild_path_path named (isNamed_of_lookup there)).mp child
    exact ⟨n, (d.mem_names l n).mpr (Option.isSome_of_eq_some there), rfl⟩

/-! ## Deletions -/

/-- **A location yields where its path does**, if what is deleted as a directory is one. -/
theorem yields_path (h : d.Mirrored s) (linkless : d.IsLinkless) (named : k.IsNamed)
    (fits : kind = .managementDirectory → d.lookup k = some .directory) :
    s.Yields kind k.path ↔ d.Yields kind k := by
  have file : s.get? k.path ≠ some .directory ↔ d.lookup k ≠ some .directory :=
    not_congr (h.directory_iff named)
  cases kind with
  | managementDirectory =>
    change s.childrenOf k.path = [] ↔ d.lookup k = some .directory ∧ d.names k = []
    rw [h.childrenOf_path linkless (fits rfl), List.map_eq_nil_iff, and_iff_right (fits rfl)]
  | managementEntry => exact file
  | primary => exact file
  | notification => exact file

/-- **What a deletion leaves is mirrored** by what a deletion leaves of the mirror. -/
theorem delete (h : d.Mirrored s) (named : Location.IsNamed (n :: l)) (leaf : d.names (n :: l) = []) :
    (d.delete (n :: l)).Mirrored (s.erase (Location.path (n :: l))) := by
  intro q
  refine Option.ext fun node => ?_
  rw [Keyed.get?_erase, h q, get?_mirror_iff]
  by_cases here : q = Location.path (n :: l)
  · rw [if_pos here]
    refine iff_of_false nofun ?_
    rintro ⟨k, e, stands, -, rfl⟩
    obtain rfl := Location.path_inj (isNamed_of_lookup stands) named here
    rw [lookup_deleted leaf, if_pos rfl] at stands
    cases stands
  · rw [if_neg here, get?_mirror_iff]
    refine exists₂_congr fun k e => ?_
    rw [lookup_deleted leaf]
    by_cases same : k = n :: l
    · subst same
      exact iff_of_false (fun ⟨_, _, there⟩ => here there.symm) (fun ⟨_, _, there⟩ => here there.symm)
    · rw [if_neg same]

end Mirrored

end Disk

end Reclaim
