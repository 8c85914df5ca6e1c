import Reclaim.Disk.Basic

/-!
# How a path finds its place

A path is followed from a directory, step by step: the root, the directory itself, its parent, or an
entry by name. Every step but the first to the root needs a directory to stand in. A name that turns
out to be a **link** is replaced by the steps of the path it leads to, seen from the directory that
holds the link, and the walk goes on. A walk follows at most `linkLimit` links: the next one is a
`loop`, whether or not the links would ever come back.

A `..` goes to the parent of the directory in which the walk stands, which after a link is not the
name before the `..` in the text. A separator at the end of a path counts as one more step `.`, so
what stands before it has to be a directory.

**Two readings of the last name.** `Disk.resolve` follows it where it is a link. `Disk.locate` does
not, and so finds the link itself.

A walk takes a path of any length, and goes to any depth. What a call refuses before it walks is said
with the calls, and so is the one walk that looks its names up in another way.
-/

namespace Reclaim

/-- **Why a call on the disk fails.** -/
inductive Failure where
  | notFound
  | notADirectory
  | isADirectory
  | notEmpty
  | invalidArgument
  | busy
  | nameTooLong
  | loop
  | nulByte
  deriving DecidableEq, Repr

/-- How a failed call is reported. -/
def Failure.message : Failure → String
  | .notFound => "No such file or directory (os error 2)"
  | .notADirectory => "Not a directory (os error 20)"
  | .isADirectory => "Is a directory (os error 21)"
  | .notEmpty => "Directory not empty (os error 39)"
  | .invalidArgument => "Invalid argument (os error 22)"
  | .busy => "Device or resource busy (os error 16)"
  | .nameTooLong => "File name too long (os error 36)"
  | .loop => "Too many levels of symbolic links (os error 40)"
  | .nulByte => "file name contained an unexpected NUL byte"

/-- How many links one walk follows. -/
def linkLimit : Nat := 40

/-- What a segment asks of a walk. Empty segments ask nothing. -/
def stepOf? (segment : List UInt8) : Option Component :=
  if segment = [dot] then some .here else Component.ofSegment? segment

namespace Path

/-- The steps of a path, a separator at its end left aside. -/
def stem (p : Path) : List Component :=
  (if p.isAbsolute then [.root] else []) ++ (segments p.bytes).filterMap stepOf?

/-- Whether a path ends in a separator. -/
def endsInSeparator (p : Path) : Bool := p.bytes.getLast? = some slash

/-- **The steps of a path.** -/
def steps (p : Path) : List Component :=
  p.stem ++ if p.endsInSeparator then [.here] else []

end Path

namespace Disk

/-- Refuses a location that is no directory. A working directory that was deleted is nowhere. -/
def requireDirectory (d : Disk) (l : Location) : Except Failure Unit :=
  match d.lookup l with
  | some .directory => .ok ()
  | some _ => .error .notADirectory
  | none => .error .notFound

/-- **One name looked up** in a directory, links not followed. -/
def entry (d : Disk) (l : Location) (name : List UInt8) : Except Failure Entry := do
  d.requireDirectory l
  if nameLimit < name.length then .error .nameTooLong
  else match d.lookup (name :: l) with
    | some e => .ok e
    | none => .error .notFound

/-- **How a walk looks a name up**: in the directory it stands in, with the steps behind the name. -/
abbrev Look := Location → List UInt8 → List Component → Except Failure Entry

/-- A walk that hands each link it meets to `onLink`, with the directory it stands in and the steps
to go from there. -/
def walkWith (d : Disk) (look : Look)
    (onLink : Location → List Component → Except Failure Location) :
    Location → List Component → Except Failure Location
  | l, [] => .ok l
  | _, .root :: rest => d.walkWith look onLink [] rest
  | l, .here :: rest => do
    d.requireDirectory l
    d.walkWith look onLink l rest
  | l, .up :: rest => do
    d.requireDirectory l
    d.walkWith look onLink l.tail rest
  | l, .name n :: rest => do
    match ← look l n rest with
    | .link target => onLink l (target.steps ++ rest)
    | .directory | .file _ => d.walkWith look onLink (n :: l) rest

/-- A walk that looks names up in a given way, with a number of links that it may still follow. -/
def walkBy (d : Disk) (look : Look) : Nat → Location → List Component → Except Failure Location
  | 0 => d.walkWith look fun _ _ => .error .loop
  | links + 1 => d.walkWith look (d.walkBy look links)

/-- A name looked up from where the walk stands, however deep that is. -/
def glance (d : Disk) : Look := fun l n _ => d.entry l n

/-- **A walk** from a location, with a number of links that it may still follow. -/
def walk (d : Disk) : Nat → Location → List Component → Except Failure Location :=
  d.walkBy d.glance

/-- Refuses the empty path, which leads nowhere. -/
def requirePath (p : Path) : Except Failure Unit :=
  if p.bytes = [] then .error .notFound else .ok ()

/-- **Where a path leads**, seen from a working directory, all links followed. -/
def resolve (d : Disk) (cwd : Location) (p : Path) : Except Failure Location := do
  requirePath p
  d.walk linkLimit cwd p.steps

/-- A last step, its own link not followed. -/
def lastStep (d : Disk) (l : Location) : Component → Except Failure Location
  | .root => .ok []
  | .here => do
    d.requireDirectory l
    return l
  | .up => do
    d.requireDirectory l
    return l.tail
  | .name n => do
    let _ ← d.entry l n
    return n :: l

/-- **The node that a path names**, seen from a working directory: links followed on the way, but
not at the end. -/
def locate (d : Disk) (cwd : Location) (p : Path) : Except Failure Location := do
  requirePath p
  match p.steps.getLast? with
  | none => .error .notFound
  | some last =>
    let l ← d.walk linkLimit cwd p.steps.dropLast
    d.lastStep l last

end Disk

end Reclaim
