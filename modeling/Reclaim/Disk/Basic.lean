import Reclaim.Keyed
import Reclaim.Path.Canonical

/-!
# A disk

A **disk** is a tree of directories, files and symbolic links. It is held flat: a keyed list from
**locations** to what stands there. A location is the list of names on the way from the root, the
innermost name first, so that the parent of a location is its tail.

What makes the list a tree is part of the type. The root is always a directory and is not listed.
Every other location has a name that a directory can hold and stands in a directory. A link leads to
a path that is not empty. A tree may be deeper than the longest path that a call takes: then what
stands **out of reach** has a canonical path that no call takes, and is found by others, if at all.

Two changes are enough here. `Disk.place` puts a node where a directory can take it, and
`Disk.delete` takes away a node that holds no other. Where the tree would be broken they change
nothing.
-/

namespace Reclaim

/-- **A location**: the names on the way from the root, innermost first. -/
abbrev Location := List (List UInt8)

/-- The canonical path of a location. -/
def Location.path (l : Location) : Path :=
  match l with
  | [] => ⟨[slash]⟩
  | names => ⟨spelled names.reverse⟩

/-- The longest name a directory holds, in bytes. -/
def nameLimit : Nat := 255

/-- The longest path a call takes, in bytes. -/
def pathLimit : Nat := 4095

/-- Whether the canonical path of a location is one that a call takes. -/
def Location.IsInReach (l : Location) : Prop := l.path.bytes.length ≤ pathLimit

instance (l : Location) : Decidable l.IsInReach := by
  unfold Location.IsInReach; infer_instance

/-- Whether a directory can hold an entry of this name. -/
def IsEntryName (bytes : List UInt8) : Prop := IsName bytes ∧ 0 ∉ bytes ∧ bytes.length ≤ nameLimit

instance (bytes : List UInt8) : Decidable (IsEntryName bytes) := by
  unfold IsEntryName; infer_instance

/-- What a file holds: a run of zero bytes, kept as its length, or bytes. -/
inductive Content where
  | zeros (count : Nat)
  | bytes (data : List UInt8)
  deriving DecidableEq, Repr

namespace Content

/-- The size of a content. -/
def size : Content → Nat
  | zeros count => count
  | bytes data => data.length

/-- The bytes of a content. -/
def toBytes : Content → List UInt8
  | zeros count => List.replicate count 0
  | bytes data => data

end Content

/-- **What stands at a location.** -/
inductive Entry where
  | directory
  | file (content : Content)
  | link (target : Path)
  deriving DecidableEq, Repr

/-- Whether an entry is other than a link to nowhere. -/
def Entry.IsSound : Entry → Prop
  | .link target => target.bytes ≠ []
  | .directory | .file _ => True

instance (e : Entry) : Decidable e.IsSound := by
  cases e <;> unfold Entry.IsSound <;> infer_instance

/-- What stands at a location of a list of entries; the root is a directory. -/
def lookupIn (entries : Keyed Location Entry) : Location → Option Entry
  | [] => some .directory
  | l => entries.get? l

/-- **Entries that make a tree.** -/
structure IsTree (entries : Keyed Location Entry) : Prop where
  root : entries.get? [] = none
  named : ∀ n l, (entries.get? (n :: l)).isSome → IsEntryName n
  held : ∀ n l, (entries.get? (n :: l)).isSome → lookupIn entries l = some .directory
  sound : ∀ l e, entries.get? l = some e → e.IsSound

/-- **A disk.** -/
structure Disk where
  entries : Keyed Location Entry
  isTree : IsTree entries

namespace Disk

/-- **The view**: what stands at a location. -/
def lookup (d : Disk) (l : Location) : Option Entry := lookupIn d.entries l

@[simp] theorem lookup_root (d : Disk) : d.lookup [] = some .directory := rfl

theorem lookup_cons (d : Disk) (n : List UInt8) (l : Location) :
    d.lookup (n :: l) = d.entries.get? (n :: l) := rfl

/-- The disk with nothing below the root. -/
def empty : Disk where
  entries := .empty
  isTree := ⟨rfl, by simp, by simp, by simp⟩

/-- The order of names by their bytes. -/
def nameLE (a b : List UInt8) : Bool := decide (a ≤ b)

/-- The name of a location that stands directly in another. -/
def nameIn? (l : Location) : Location → Option (List UInt8)
  | [] => none
  | n :: parent => if parent = l then some n else none

/-- **The names in a directory**, in the order of their bytes. -/
def names (d : Disk) (l : Location) : List (List UInt8) :=
  (d.entries.keys.filterMap (nameIn? l)).mergeSort nameLE

theorem mem_names (d : Disk) (l : Location) (n : List UInt8) :
    n ∈ d.names l ↔ (d.entries.get? (n :: l)).isSome := by
  rw [names, (List.mergeSort_perm _ _).mem_iff, List.mem_filterMap]
  constructor
  · rintro ⟨k, hk, hn⟩
    cases k with
    | nil => simp [nameIn?] at hn
    | cons a parent =>
      by_cases hp : parent = l
      · simp only [nameIn?, hp, if_true, Option.some.injEq] at hn
        exact (Keyed.mem_keys _ _).1 (hn ▸ hp ▸ hk)
      · simp [nameIn?, hp] at hn
  · intro h
    exact ⟨n :: l, (Keyed.mem_keys _ _).2 h, by simp [nameIn?]⟩

/-- The entries of a disk without one that holds no other make a tree. -/
theorem isTree_erase (d : Disk) (l : Location) (leaf : d.names l = []) :
    IsTree (d.entries.erase l) where
  root := by simp [d.isTree.root]
  named n k h := by
    rw [Keyed.get?_erase] at h
    split at h
    · simp at h
    · exact d.isTree.named n k h
  held n k h := by
    rw [Keyed.get?_erase] at h
    split at h
    · simp at h
    · have hk : k ≠ l := by
        intro e
        have := (d.mem_names l n).2 (e ▸ h)
        simp [leaf] at this
      have := d.isTree.held n k h
      cases k with
      | nil => rfl
      | cons a parent => simpa [lookupIn, hk] using this
  sound k e h := by
    rw [Keyed.get?_erase] at h
    split at h
    · simp at h
    · exact d.isTree.sound k e h

/-- **Takes away** what stands at a location, if it holds no other entry. -/
def delete (d : Disk) (l : Location) : Disk :=
  if leaf : d.names l = [] then ⟨d.entries.erase l, d.isTree_erase l leaf⟩ else d

/-- What is taken away is gone and nothing else is. The root stays. -/
theorem lookup_delete (d : Disk) (l : Location) (leaf : d.names l = []) (k : Location) :
    (d.delete l).lookup k = if k = l ∧ k ≠ [] then none else d.lookup k := by
  cases k with
  | nil => simp
  | cons n parent => simp [delete, leaf, lookup_cons]

theorem delete_of_names_ne_nil (d : Disk) (l : Location) (h : d.names l ≠ []) :
    d.delete l = d := by
  simp [delete, h]

/-- **Whether an entry can be put** at a name in a directory: a directory holds such names, this one
stands, the entry is sound, and what it replaces holds no other. -/
structure HasRoom (d : Disk) (n : List UInt8) (l : Location) (e : Entry) : Prop where
  named : IsEntryName n
  held : d.lookup l = some .directory
  leaf : d.names (n :: l) = []
  sound : e.IsSound

theorem hasRoom_iff (d : Disk) (n : List UInt8) (l : Location) (e : Entry) :
    d.HasRoom n l e ↔ IsEntryName n ∧ d.lookup l = some .directory ∧ d.names (n :: l) = [] ∧
      e.IsSound :=
  ⟨fun h => ⟨h.1, h.2, h.3, h.4⟩, fun ⟨h1, h2, h3, h4⟩ => ⟨h1, h2, h3, h4⟩⟩

instance (d : Disk) (n : List UInt8) (l : Location) (e : Entry) : Decidable (d.HasRoom n l e) :=
  decidable_of_iff' _ (d.hasRoom_iff n l e)

/-- The entries of a disk with one put in a directory, in place of one that holds no other, make a
tree. -/
theorem isTree_insert (d : Disk) (n : List UInt8) (l : Location) (e : Entry)
    (room : d.HasRoom n l e) : IsTree (d.entries.insert (n :: l) e) where
  root := by simp [d.isTree.root]
  named m k h := by
    rw [Keyed.get?_insert] at h
    split at h
    · rename_i hk
      exact (List.cons.inj hk).1 ▸ room.named
    · exact d.isTree.named m k h
  held m k h := by
    have old : lookupIn d.entries k = some .directory := by
      rw [Keyed.get?_insert] at h
      split at h
      · rename_i hk
        exact (List.cons.inj hk).2 ▸ room.held
      · exact d.isTree.held m k h
    by_cases hk : k = n :: l
    · have : m ∈ d.names (n :: l) := by
        rw [d.mem_names]
        rw [Keyed.get?_insert] at h
        split at h
        · rename_i e
          have := congrArg List.length (hk ▸ (List.cons.inj e).2 : n :: l = l)
          simp at this
        · exact hk ▸ h
      simp [room.leaf] at this
    · cases k with
      | nil => rfl
      | cons a parent => simpa [lookupIn, hk] using old
  sound k f h := by
    rw [Keyed.get?_insert] at h
    split at h
    · exact Option.some.inj h ▸ room.sound
    · exact d.isTree.sound k f h

/-- **Puts** an entry in a directory, in place of one that holds no other. -/
def place (d : Disk) (l : Location) (e : Entry) : Disk :=
  match l with
  | [] => d
  | n :: parent =>
    if room : d.HasRoom n parent e then
      ⟨d.entries.insert (n :: parent) e, d.isTree_insert n parent e room⟩
    else d

/-- What is put somewhere stands there, and all else stands where it stood. -/
theorem lookup_place (d : Disk) (n : List UInt8) (l : Location) (e : Entry)
    (room : d.HasRoom n l e) (k : Location) :
    (d.place (n :: l) e).lookup k = if k = n :: l then some e else d.lookup k := by
  cases k with
  | nil => simp
  | cons m parent => simp [place, room, lookup_cons]

/-- Makes a directory at a location and at every location above it, where nothing stands. -/
def makeDirectories (d : Disk) : Location → Disk
  | [] => d
  | n :: parent =>
    let above := d.makeDirectories parent
    if (above.lookup (n :: parent)).isNone then above.place (n :: parent) .directory else above

/-- The path that leads from a location to one below it, as a text without a separator in front. -/
def pathFrom? (l below : Location) : Option Path :=
  let depth := below.length - l.length
  if l.length < below.length && below.drop depth = l then
    some ⟨(spelled (below.take depth).reverse).tail⟩
  else none

/-- **What stands below a location**, each under its path from there, in the order of the paths'
bytes. -/
def below (d : Disk) (l : Location) : List (Path × Entry) :=
  (d.entries.entries.filterMap fun e => (pathFrom? l e.1).map (·, e.2)).mergeSort
    fun a b => a.1.le b.1

end Disk

end Reclaim
