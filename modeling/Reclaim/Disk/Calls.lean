import Reclaim.Disk.Resolve
import Reclaim.Filesystem

/-!
# The calls on a disk

What a program can ask of a disk: whether a path names anything, the entries of a directory, the
size and the bytes of a file, the canonical path of what a path leads to, and the two deletions. A
deletion answers with the disk that is left; a call that fails leaves the disk as it was.

**What a call refuses unseen.** A call takes no path with a NUL byte in it, and none longer than
`pathLimit`, whatever is on the disk. So a node is out of reach under a canonical path that is longer.
By a link, or from a working directory, a shorter path may lead to it.

**A canonical path** is found by many calls, and a path of any length may have one. From the working
directory, each name is looked up under the canonical path that has been found so far, with the name
behind it. So a walk that comes by something out of reach finds none, even where a call on the path
itself would come to a node.

**The two deletions differ in more than their object.** Both leave a link at the end of a path alone
and take the link itself. A file's deletion refuses a directory, by whatever path; a directory's
deletion refuses a path that ends in `.` or `..`, and a directory that is not empty. A separator
behind the name of a file is an error for both.

For reclaiming, a deletion that finds nothing has nothing left to do: `Disk.filesystem` counts it as
done. Every other failure stands.
-/

namespace Reclaim

namespace Disk

/-- Refuses a path that no call takes. -/
def requireCallable (p : Path) : Except Failure Unit :=
  if 0 ∈ p.bytes then .error .nulByte
  else if pathLimit < p.bytes.length then .error .nameTooLong
  else .ok ()

/-- The node that a call finds under a path, a link at its end not followed. -/
def find (d : Disk) (cwd : Location) (p : Path) : Except Failure Location := do
  requireCallable p
  d.locate cwd p

/-- Where a call goes on a path, all links followed. -/
def follow (d : Disk) (cwd : Location) (p : Path) : Except Failure Location := do
  requireCallable p
  d.resolve cwd p

/-- Whether a path names anything. -/
def exists? (d : Disk) (cwd : Location) (p : Path) : Bool := (d.find cwd p).toBool

/-- The size of the file that a path names. -/
def fileSize (d : Disk) (cwd : Location) (p : Path) : Option Nat :=
  match d.find cwd p with
  | .ok l =>
    match d.lookup l with
    | some (.file content) => some content.size
    | _ => none
  | .error _ => none

/-- **The entries of a directory**, each seen from the path of the directory, in the order of their
names. -/
def list (d : Disk) (cwd : Location) (p : Path) : Except Failure (List Path) := do
  let l ← d.follow cwd p
  d.requireDirectory l
  return (d.names l).map fun n => p.join ⟨n⟩

/-- The bytes of a file. -/
def read (d : Disk) (cwd : Location) (p : Path) : Except Failure (List UInt8) := do
  let l ← d.follow cwd p
  match d.lookup l with
  | some (.file content) => .ok content.toBytes
  | some .directory => .error .isADirectory
  | some (.link _) | none => .error .notFound

/-- Whether steps ask what stands before them to be a directory, before they come to a name. -/
def askDirectory : List Component → Bool
  | .here :: rest => rest.isEmpty || askDirectory rest
  | .up :: _ => true
  | _ => false

/-- The path under which a call looks at what stands at a name: the canonical path of its location. Where
the steps behind the name ask for a directory, and it is not that of a link, a separator is behind it. -/
def lookPath (l : Location) (n : List UInt8) (rest : List Component) : Entry → Path
  | .link _ => Location.path (n :: l)
  | .directory | .file _ =>
    if askDirectory rest then ⟨(Location.path (n :: l)).bytes ++ [slash]⟩ else Location.path (n :: l)

/-- **A name looked up by a call of its own.** -/
def lookUnder (d : Disk) : Look := fun l n rest => do
  let e ← d.entry l n
  requireCallable (lookPath l n rest e)
  return e

/-- Where a path leads, found by a call for each name. -/
def trace (d : Disk) (cwd : Location) (p : Path) : Except Failure Location := do
  requirePath p
  d.walkBy d.lookUnder linkLimit cwd p.steps

/-- **The canonical path** of what a path leads to. -/
def canonicalize (d : Disk) (cwd : Location) (p : Path) : Except Failure Path := do
  return (← d.trace cwd p).path

/-- The path of the working directory, if it still stands. -/
def workingPath (d : Disk) (cwd : Location) : Except Failure Path := do
  d.requireDirectory cwd
  return cwd.path

/-- The directory in which the last step of a path is taken, and that step. A path of one step takes it
where the walk starts, and that is not looked at yet: a working directory that was deleted is no
obstacle to naming the root. -/
def parting (d : Disk) (cwd : Location) (p : Path) : Except Failure (Location × Component) := do
  requireCallable p
  requirePath p
  match p.stem.getLast? with
  | none => .error .notFound
  | some last =>
    let l ← d.walk linkLimit cwd p.stem.dropLast
    if p.stem.dropLast ≠ [] then d.requireDirectory l
    return (l, last)

/-- **Deletes a file or a link.** -/
def unlink (d : Disk) (cwd : Location) (p : Path) : Except Failure Disk := do
  match ← d.parting cwd p with
  | (l, .name n) =>
    match ← d.entry l n with
    | .directory => .error .isADirectory
    | .file _ | .link _ =>
      if p.endsInSeparator then .error .notADirectory else .ok (d.delete (n :: l))
  | (_, .root) | (_, .here) | (_, .up) => .error .isADirectory

/-- **Deletes an empty directory.** -/
def removeDirectory (d : Disk) (cwd : Location) (p : Path) : Except Failure Disk := do
  match ← d.parting cwd p with
  | (l, .name n) =>
    match ← d.entry l n with
    | .directory => if d.names (n :: l) = [] then .ok (d.delete (n :: l)) else .error .notEmpty
    | .file _ | .link _ => .error .notADirectory
  | (_, .here) => .error .invalidArgument
  | (_, .up) => .error .notEmpty
  | (_, .root) => .error .busy

/-- A deletion that counts as done where there was nothing to delete. -/
def deleted (d : Disk) (answer : Except Failure Disk) : Except Failure Unit × Disk :=
  match answer with
  | .ok left => (.ok (), left)
  | .error .notFound => (.ok (), d)
  | .error failure => (.error failure, d)

/-- Deletes what a path names, unless it is a directory. -/
def removeFile (d : Disk) (cwd : Location) (p : Path) : Except Failure Unit × Disk :=
  d.deleted (d.unlink cwd p)

/-- Deletes the directory that a path names, if it is empty. -/
def removeEmptyDirectory (d : Disk) (cwd : Location) (p : Path) : Except Failure Unit × Disk :=
  d.deleted (d.removeDirectory cwd p)

/-- **A disk as a filesystem**, seen from a working directory. -/
def filesystem (cwd : Location) : Filesystem (StateM Disk) where
  present p := fun d => (d.exists? cwd p, d)
  children p := fun d => ((d.list cwd p).mapError Failure.message, d)
  removeFile p := fun d =>
    let (answer, left) := d.removeFile cwd p
    (answer.mapError Failure.message, left)
  removeEmptyDirectory p := fun d =>
    let (answer, left) := d.removeEmptyDirectory cwd p
    (answer.mapError Failure.message, left)
  fileSize p := fun d => (d.fileSize cwd p, d)

end Disk

end Reclaim
