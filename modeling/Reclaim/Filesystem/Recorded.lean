import Reclaim.Filesystem

/-!
# A record of the calls

A filesystem around another one that answers what the inner one answers and **records** each call
with its answer, and a reporter that records the warnings. The record says all that passed between a
run and its surroundings, in order.
-/

namespace Reclaim

/-- **An exchange**: a call on a path, and its answer. -/
inductive Exchange where
  | present (path : Path) (answer : Bool)
  | children (path : Path) (answer : Except String (List Path))
  | removeFile (path : Path) (answer : Except String Unit)
  | removeEmptyDirectory (path : Path) (answer : Except String Unit)
  | fileSize (path : Path) (answer : Option Nat)
  deriving Repr

namespace Exchange

/-- Which of the five calls was made. -/
def kind : Exchange → CallKind
  | present .. => .present
  | children .. => .children
  | removeFile .. => .removeFile
  | removeEmptyDirectory .. => .removeEmptyDirectory
  | fileSize .. => .fileSize

/-- The path it was made on. -/
def path : Exchange → Path
  | present p _ | children p _ | removeFile p _ | removeEmptyDirectory p _ | fileSize p _ => p

end Exchange

/-- **The record** of a run: its exchanges and the warnings it gave, each in order. -/
structure Record where
  exchanges : List Exchange := []
  warnings : List String := []
  deriving Repr

namespace Record

/-- One more exchange. -/
def exchanged (r : Record) (e : Exchange) : Record := { r with exchanges := r.exchanges ++ [e] }

/-- One more warning. -/
def warned (r : Record) (text : String) : Record := { r with warnings := r.warnings ++ [text] }

end Record

section

variable {m : Type → Type} [Monad m]

/-- A call and the note of its exchange. -/
def recording {α : Type} (call : Path → m α) (note : Path → α → Exchange) (path : Path) :
    StateT Record m α := fun r => do
  let answer ← call path
  return (answer, r.exchanged (note path answer))

/-- **A filesystem that records.** -/
def Filesystem.recorded (fs : Filesystem m) : Filesystem (StateT Record m) where
  present := recording fs.present .present
  children := recording fs.children .children
  removeFile := recording fs.removeFile .removeFile
  removeEmptyDirectory := recording fs.removeEmptyDirectory .removeEmptyDirectory
  fileSize := recording fs.fileSize .fileSize

/-- **A reporter that records the warnings.** -/
def Reporter.recorded : Reporter (StateT Record m) where
  removed _ _ := return ()
  warned text := fun r => return ((), r.warned text)

end

end Reclaim
