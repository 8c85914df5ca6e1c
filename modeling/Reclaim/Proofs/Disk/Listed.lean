import Reclaim.Disk.Basic
import Reclaim.Footprint

/-!
# A disk from a list

Whether entries make a tree can be read off their list, one entry at a time: each has a name that a
directory holds, stands in a directory of the list, and is sound (`isTree_of_placed`). So a disk can be
written down as a list and checked.
-/

namespace Reclaim

/-- **An entry is placed** in a list that has room for it. -/
def IsPlaced (entries : Keyed Location Entry) : Location × Entry → Prop
  | ([], _) => False
  | (n :: l, e) => IsEntryName n ∧ lookupIn entries l = some .directory ∧ e.IsSound

instance (entries : Keyed Location Entry) (e : Location × Entry) :
    Decidable (IsPlaced entries e) := by
  rcases e with ⟨_ | ⟨n, l⟩, e⟩ <;> unfold IsPlaced <;> infer_instance

/-- **Entries that are all placed make a tree.** -/
theorem isTree_of_placed {entries : Keyed Location Entry}
    (placed : ∀ e ∈ entries.entries, IsPlaced entries e) : IsTree entries where
  root := by
    cases found : entries.get? [] with
    | none => rfl
    | some e => exact absurd (placed _ (Keyed.mem_of_get? found)) id
  named n l h := by
    obtain ⟨e, found⟩ := Option.isSome_iff_exists.mp h
    exact (placed _ (Keyed.mem_of_get? found)).1
  held n l h := by
    obtain ⟨e, found⟩ := Option.isSome_iff_exists.mp h
    exact (placed _ (Keyed.mem_of_get? found)).2.1
  sound l e found := by
    cases l with
    | nil => exact absurd (placed _ (Keyed.mem_of_get? found)) id
    | cons n l => exact (placed _ (Keyed.mem_of_get? found)).2.2

/-- The database at `/a`, with a link to the directory `/e` in place of its management directory. That
holds a file `f`. -/
def Disk.sample : Disk where
  entries := ⟨[([Text.encode "a"], .file (.zeros 8)),
    ([Text.encode "a.management"], .link (.ofString "e")),
    ([Text.encode "e"], .directory),
    ([Text.encode "f", Text.encode "e"], .file (.zeros 1))], by decide⟩
  isTree := isTree_of_placed (by decide)

/-- The notification file of a database `/a` that is gone. -/
def Disk.orphaned : Disk where
  entries := ⟨[([Text.encode "a.note"], .file (.zeros 2))], by decide⟩
  isTree := isTree_of_placed (by decide)

/-- The database at `/b` with its sidecars, of which the notification file is empty, and a link to it at
`/a`. In the directory `/e` are a file with its name and a link to its management directory. -/
def Disk.linked : Disk where
  entries := ⟨[([Text.encode "a"], .link (.ofString "b")),
    ([Text.encode "b"], .file (.zeros 8)),
    ([Text.encode "b.management"], .directory),
    ([Text.encode "b.note"], .file (.zeros 0)),
    ([Text.encode "e"], .directory),
    ([Text.encode "b", Text.encode "e"], .file (.zeros 1)),
    ([Text.encode "c.note", Text.encode "e"], .link (.ofString "../b.management"))], by decide⟩
  isTree := isTree_of_placed (by decide)

/-- The database at `/a` with its sidecars, and no link anywhere. In the management directory are a file
and a directory. -/
def Disk.plain : Disk where
  entries := ⟨[([Text.encode "a"], .file (.zeros 8)),
    ([Text.encode "a.management"], .directory),
    ([Text.encode "lock", Text.encode "a.management"], .file (.zeros 1)),
    ([Text.encode "old", Text.encode "a.management"], .directory),
    ([Text.encode "a.note"], .file (.zeros 2))], by decide⟩
  isTree := isTree_of_placed (by decide)

/-! ## Deep disks -/

/-- The name of a directory on the way down, with a letter of its own in front. -/
def Disk.deepName (i : Nat) : List UInt8 :=
  (0x41 + i.toUInt8) :: List.replicate (if i < 15 then 254 else 248) 0x78

/-- The location so many directories down. -/
def Location.deep (depth : Nat) : Location := (List.range depth).reverse.map Disk.deepName

/-- Sixteen directories in each other. The path of the innermost has 4090 bytes. In it are a file `a` in
reach, and out of reach its notification file and a directory `a.dir`. -/
def Disk.deepEntries : List (Location × Entry) :=
  (Text.encode "a" :: Location.deep 16, .file (.zeros 8)) ::
    (Text.encode "a.note" :: Location.deep 16, .file (.zeros 2)) ::
    (Text.encode "a.dir" :: Location.deep 16, .directory) ::
    (List.range 16).map fun i => (Location.deep (i + 1), .directory)

/-- A disk with nothing but these. -/
def Disk.deep : Disk where
  entries := ⟨Disk.deepEntries, by decide +kernel⟩
  isTree := isTree_of_placed (by decide +kernel)

/-- The same with links in the root. `/x` leads to the innermost directory, and from there `/g` to the
notification file and `/h` to the database. The link `/b.note` leads back to the root through `a.dir`. Beside
it is a directory `/b`. -/
def Disk.deepLinked : Disk where
  entries := ⟨([Text.encode "x"], .link (Location.deep 16).path) ::
    ([Text.encode "g"], .link (.ofString "x/a.note")) ::
    ([Text.encode "h"], .link (.ofString "x/a")) ::
    ([Text.encode "b"], .directory) ::
    ([Text.encode "b.note"],
      .link (.ofString ("x/a.dir" ++ String.join (List.replicate 17 "/..")))) ::
    Disk.deepEntries, by decide +kernel⟩
  isTree := isTree_of_placed (by decide +kernel)

/-- The footprint of the database at `/a`. -/
def Footprint.atRoot : Footprint where
  primary := .ofString "/a"
  root := .ofString "/"
  name := "a"
  absolute := by decide
  canonical := by decide
  single := rfl
  rooted := by decide

end Reclaim
