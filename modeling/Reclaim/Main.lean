import Reclaim.Command.Run
import Reclaim.Disk.Resolve

/-!
# The command on a real disk

The only module that touches anything: the calls of a host, made on the disk, the environment and
the channels of the process. It decides nothing; what to call, in which order, and what to say is
`Reclaim.run`. Arguments come as texts, and paths are handed over as texts, so a name that is not UTF-8
is not given and not found.
-/

namespace Reclaim.Main

/-- The number and the words of an error of the system. -/
def systemError : IO.Error → UInt32 × String
  | .alreadyExists _ n s | .invalidArgument _ n s | .permissionDenied _ n s
  | .resourceExhausted _ n s | .inappropriateType _ n s | .noSuchThing _ n s => (n, s)
  | .interrupted _ n s | .noFileOrDirectory _ n s => (n, s)
  | .otherError n s | .resourceBusy n s | .resourceVanished n s | .unsupportedOperation n s
  | .hardwareFault n s | .unsatisfiedConstraints n s | .illegalOperation n s | .protocolError n s
  | .timeExpired n s => (n, s)
  | .unexpectedEof => (0, "unexpected end of file")
  | .userError s => (0, s)

/-- The failures of a disk, by the number that the system gives them. -/
def failures : List (Nat × Failure) :=
  [(2, .notFound), (16, .busy), (20, .notADirectory), (21, .isADirectory), (22, .invalidArgument),
    (36, .nameTooLong), (39, .notEmpty), (40, .loop)]

/-- The reason for which a call failed. Some numbers come with their sign turned. -/
def reason (e : IO.Error) : String :=
  let (given, words) := systemError e
  let number := if given.toNat < 1 <<< 31 then given.toNat else (1 <<< 32) - given.toNat
  match failures.lookup number with
  | some failure => failure.message
  | none => words ++ " (os error " ++ toString number ++ ")"

/-- A call on a path, or the reason why it failed. -/
def attempted {α : Type} (p : Path) (call : String → IO α) : IO (Except String α) := do
  match Text.decode? p.bytes with
  | none => return .error Failure.notFound.message
  | some s =>
    try
      return .ok (← call s)
    catch e =>
      return .error (reason e)

/-- What stands at an absolute path, a link at its end not followed. -/
def status (s : String) : IO IO.FS.Metadata := do
  let root ← IO.FS.realPath "/"
  (root / s).symlinkMetadata

/-- A deletion that counts as done where there was nothing to delete. -/
def deletion (p : Path) (call : String → IO Unit) : IO (Except String Unit) := do
  match ← attempted p call with
  | .ok () => return .ok ()
  | .error r => return if r = Failure.notFound.message then .ok () else .error r

/-- Deletes what is not a directory. -/
def removeFile (p : Path) : IO (Except String Unit) := do
  match ← attempted p status with
  | .ok found =>
    if found.type == .dir then return .error Failure.isADirectory.message
    else deletion p fun s => IO.FS.removeFile s
  | .error _ => deletion p fun s => IO.FS.removeFile s

/-- The names in the directory at an absolute path, in the order of their bytes. -/
def entryNames (s : String) : IO (List (List UInt8)) := do
  let root ← IO.FS.realPath "/"
  let entries ← (root / s).readDir
  return (entries.toList.map fun e => Text.encode e.fileName).mergeSort fun a b => decide (a ≤ b)

/-- The size of a regular file. -/
def fileSize (p : Path) : IO (Option Nat) := do
  match ← attempted p status with
  | .ok found => return if found.type == .file then some found.byteSize.toNat else none
  | .error _ => return none

/-- **The process as a host.** -/
def host : Host IO where
  present p := return (← attempted p status).toBool
  children p := do
    return (← attempted p entryNames).map fun names => names.map fun n => p.join ⟨n⟩
  removeFile := removeFile
  removeEmptyDirectory p := deletion p fun s => IO.FS.removeDir s
  fileSize := fileSize
  workingDirectory := do
    try
      return .ok (.ofString (toString (← IO.currentDir)))
    catch e =>
      return .error (reason e)
  canonical p := do
    return (← attempted p fun s => IO.FS.realPath s).toOption.map fun s => .ofString (toString s)
  contents p := do
    return (← attempted p fun s => IO.FS.readBinFile s).map fun data => data.toList
  say text := do (← IO.getStdout).putStr text
  complain text := do (← IO.getStderr).putStr text

/-- What the process finds set. -/
def surroundings : IO Surroundings := do
  let noColor ← IO.getEnv "NO_COLOR"
  return {
    filter := ← IO.getEnv "RUST_LOG"
    coloredLog := (noColor.getD "").isEmpty
    colorOutput := noColor.isNone && (← (← IO.getStdout).isTty) }

end Reclaim.Main

/-- **The command.** -/
def main (arguments : List String) : IO UInt32 := do
  Reclaim.run Reclaim.Main.host (← Reclaim.Main.surroundings) (Reclaim.words arguments)
