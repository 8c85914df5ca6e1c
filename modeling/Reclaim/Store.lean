import Reclaim.Keyed
import Reclaim.Path.Basic

/-!
# A store in memory

Files and directories under paths, for runs that touch no disk. A **store** takes a path as it is
spelled: two spellings are two paths, and a node may stand where no directory holds it. What makes a
node a child of a path is its own path alone: that path, a separator, and a name.

The operations are those of a disk, with failures of their own: a directory is not deleted as a
file, and a directory with children is not deleted at all.
-/

namespace Reclaim

/-- **What stands at a path.** -/
inductive Node where
  | file (size : Nat)
  | directory
  deriving DecidableEq, Repr

/-- The size of a node, if it is a file. -/
def Node.size? : Node → Option Nat
  | .file size => some size
  | .directory => none

/-- **A store**: at most one node to a path. -/
abbrev Store := Keyed Path Node

namespace Store

/-- The bytes that the path of a child begins with. -/
def childStem (directory : Path) : List UInt8 :=
  if directory.bytes.getLast? = some slash then directory.bytes else directory.bytes ++ [slash]

/-- Whether a path is one name behind another path. -/
def isChild (directory path : Path) : Bool :=
  let stem := childStem directory
  let rest := path.bytes.drop stem.length
  stem.isPrefixOf path.bytes && !rest.isEmpty && !rest.contains slash

/-- All paths with a node, in the order of their bytes. -/
def paths (s : Store) : List Path := s.keys.mergeSort Path.le

/-- **The children of a path**, in the order of their bytes. -/
def childrenOf (s : Store) (directory : Path) : List Path := s.paths.filter (isChild directory)

theorem mem_childrenOf {s : Store} {directory path : Path} :
    path ∈ s.childrenOf directory ↔
      isChild directory path = true ∧ (s.get? path).isSome = true := by
  simp only [childrenOf, paths, List.mem_filter, List.mem_mergeSort, Keyed.mem_keys]
  exact And.comm

/-- No path is a child of itself. -/
theorem isChild_self (path : Path) : isChild path path = false := by
  unfold isChild childStem
  split
  · simp
  · rw [Bool.and_assoc, Bool.and_eq_false_iff]
    left
    rw [Bool.eq_false_iff]
    intro h
    have shorter := (List.isPrefixOf_iff_prefix.mp h).length_le
    simp only [List.length_append, List.length_singleton] at shorter
    omega

/-- The total size of the files. -/
def total (s : Store) : Nat := s.entries.foldr (fun e bytes => e.2.size?.getD 0 + bytes) 0

/-- The size of the file at a path. -/
def sizeOf? (s : Store) (path : Path) : Option Nat := (s.get? path).bind Node.size?

/-- **Why a store refuses a call.** -/
inductive Refusal where
  | noSuchDirectory
  | isDirectory
  | notEmpty
  deriving DecidableEq, Repr

/-- How a refused call is reported. -/
def Refusal.message : Refusal → String
  | .noSuchDirectory => "no such directory"
  | .isDirectory => "is a directory"
  | .notEmpty => "directory not empty"

/-- The children of a directory. -/
def list (s : Store) (path : Path) : Except Refusal (List Path) :=
  if s.get? path = some .directory then .ok (s.childrenOf path) else .error .noSuchDirectory

/-- The store without the file at a path. -/
def deleteFile (s : Store) (path : Path) : Except Refusal Store :=
  if s.get? path = some .directory then .error .isDirectory else .ok (s.erase path)

/-- The store without the node at a path, if that has no children. -/
def deleteEmpty (s : Store) (path : Path) : Except Refusal Store :=
  if (s.childrenOf path).isEmpty then .ok (s.erase path) else .error .notEmpty

end Store

end Reclaim
