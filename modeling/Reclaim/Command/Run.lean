import Reclaim.Command.Host
import Reclaim.Command.Options
import Reclaim.Distinct
import Reclaim.Log
import Reclaim.Probe
import Reclaim.Reclamation
import Reclaim.Rules
import Reclaim.Text.ByteSize

/-!
# The command

Reclaims each of the given databases once, in the order given, and says of each what became of it.

**From an argument to a footprint.** An argument is made absolute without following its last name:
the directory that holds it is made canonical where it exists, and otherwise the path is taken from
the working directory and normalized as a text. The sidecars are named after the path made so. Only
the primary file follows a link to the real database, and the notification file with it.

**What ends a run, and what does not.** A misuse of the options, suffixes that cannot be loaded, and
a root or a name for more than one database end it before anything is done. A path without a
footprint is reported and the run goes on; so does a database that could not be deleted. Either
makes the exit code 1.

A **dry run** lists what stands and deletes nothing.
-/

namespace Reclaim

/-- The command's name. -/
def program : String := "dbreclaim"

/-- The command's version. -/
def version : String := "0.1.0"

/-- What the command says of itself. -/
def helpText : String :=
  "Delete a closed embedded database together with its sidecar files\n\n" ++
  "Usage: " ++ program ++ " [OPTIONS] <PATHS>...\n\n" ++
  "Options:\n" ++
  "      --root <ROOT>      Directory holding the management sidecar\n" ++
  "      --name <NAME>      Logical database name used to derive sidecar names\n" ++
  "  -c, --config <CONFIG>  TOML file overriding the sidecar naming rules\n" ++
  "      --dry-run          Show what would be removed, but don't remove anything\n" ++
  "  -v, --verbose          Show every removed artifact\n" ++
  "  -h, --help             Print help\n" ++
  "  -V, --version          Print version\n"

/-- The filter of log lines: the one asked for, or the one that goes with the options. -/
def logFilter (around : Surroundings) (verbose : Bool) : Log.Filter :=
  (around.filter.bind (Log.Filter.ofText? program)).getD ⟨some (if verbose then .debug else .warn)⟩

section

variable {m : Type → Type} [Monad m]

/-- Puts an event on the channel of log lines, if it passes. -/
def Host.log (host : Host m) (filter : Log.Filter) (colored : Bool) (event : Log.Event) : m Unit :=
  if filter.passes event.level then host.complain (event.line colored) else return ()

/-- The event of a deletion. -/
def removedEvent (kind : ArtifactKind) (path : Path) : Log.Event :=
  ⟨.debug, "removed", [("path", path.text), ("kind", Text.quoted kind.label)]⟩

/-- The event of a probe's first answer. -/
def probedEvent (probe : Probe) (answer : Bool) : Log.Event :=
  ⟨.debug, "capability probed",
    [("capability", Text.quoted probe.name), ("available", toString answer)]⟩

/-- **A host as a reporter**: deletions and warnings become log lines. -/
def Host.reporter (host : Host m) (filter : Log.Filter) (colored : Bool) : Reporter m where
  removed kind path := host.log filter colored (removedEvent kind path)
  warned text := host.log filter colored ⟨.warn, text, []⟩

/-- The directory in which the last name of a path is an entry. -/
def holder (path : Path) : Path :=
  match path.parent? with
  | some parent => if parent.bytes = [] then .current else parent
  | none => .current

/-- A path made absolute as a text. -/
def absoluteByText (host : Host m) (path : Path) : ExceptT Report m Path := do
  if path.isAbsolute then return path.normalize
  match ← host.workingDirectory with
  | .ok cwd => return (cwd.join path).normalize
  | .error reason => throw ⟨"Failed to read current directory", [reason]⟩

/-- **A path made absolute**, its last name not followed. -/
def absolutePath (host : Host m) (path : Path) : ExceptT Report m Path := do
  match path.fileName? with
  | none => absoluteByText host path
  | some name =>
    match ← host.canonical (holder path) with
    | some directory => return directory.join ⟨name⟩
    | none => absoluteByText host path

/-- Gives a footprint, or reports the path as one without. -/
def footprintOr (argument : Path) (made : Except FootprintError Footprint) :
    ExceptT Report m Footprint :=
  match made with
  | .ok f => return f
  | .error e =>
    throw (Report.within (.ofCause e.message) ("Invalid database path " ++ argument.text))

/-- **The footprint of an argument.** -/
def footprintOf (host : Host m) (options : Options) (argument : Path) :
    ExceptT Report m Footprint := do
  let given ← absolutePath host argument
  let asGiven ← footprintOr argument (Footprint.ofPrimary given)
  let root ←
    match options.root with
    | some root => absolutePath host root
    | none => pure asGiven.root
  let primary := (← host.canonical given).getD given
  footprintOr argument (Footprint.ofParts primary root (options.name.getD asGiven.name))

/-- The lines of a plan. -/
def planLines (f : Footprint) (planned : List Planned) : String :=
  if planned.isEmpty then "Nothing to reclaim for " ++ f.primary.text ++ "\n"
  else String.join (planned.map fun p =>
    "Would remove: " ++ p.2.text ++ " (" ++ p.1.label.toLower ++ ")\n")

/-- The line that says what became of a database. -/
def verdictLine (f : Footprint) (o : Outcome) : String :=
  let freed := Text.byteSize o.bytesFreed
  f.primary.text ++ ": " ++
    (if !o.primaryDeleted then "database file could not be deleted"
    else if o.warnings.isEmpty then "reclaimed (" ++ freed ++ " freed)"
    else "reclaimed with " ++ toString o.warnings.length ++ " leftover sidecar(s) (" ++ freed ++
      " freed)") ++ "\n"

/-- The lines of an outcome. -/
def outcomeLines (f : Footprint) (o : Outcome) (verbose : Bool) : String :=
  (if verbose then String.join (o.removed.map fun p => "Removed: " ++ p.text ++ "\n") else "") ++
    verdictLine f o

/-- **What a run amounts to so far**: whether every database is gone, and the bytes freed. -/
structure Progress where
  allDeleted : Bool := true
  freed : Nat := 0
  deriving DecidableEq, Repr

/-- Lists what stands of a footprint. -/
def showPlan (host : Host m) (suffixes : Suffixes) (f : Footprint) : m Unit := do
  host.say (planLines f (← plan host.toFilesystem suffixes f))

/-- Reclaims one footprint. -/
def reclaimOne (host : Host m) (reporter : Reporter m) (options : Options) (suffixes : Suffixes)
    (f : Footprint) : m Progress := do
  let o ← reclaim host.toFilesystem reporter suffixes f
  host.say (outcomeLines f o options.verbose)
  return ⟨o.primaryDeleted, o.bytesFreed⟩

/-- **One argument**: what it adds to the progress of the run. -/
def handleArgument (host : Host m) (reporter : Reporter m) (options : Options)
    (suffixes : Suffixes) (argument : Path) : m Progress := do
  match ← (footprintOf host options argument).run with
  | .error report =>
    host.complain ("Error: " ++ report.render ++ "\n")
    return ⟨false, 0⟩
  | .ok f =>
    if options.dryRun then
      showPlan host suffixes f
      return {}
    else reclaimOne host reporter options suffixes f

/-- All arguments, in order. -/
def handleArguments (host : Host m) (reporter : Reporter m) (options : Options)
    (suffixes : Suffixes) : List Path → m Progress
  | [] => return {}
  | argument :: rest => do
    let first ← handleArgument host reporter options suffixes argument
    let others ← handleArguments host reporter options suffixes rest
    return ⟨first.allDeleted && others.allDeleted, first.freed + others.freed⟩

/-- The lines after all arguments. -/
def closingLines (options : Options) (count freed : Nat) : String :=
  if options.dryRun then "Dry run mode: No files were deleted.\n"
  else if 1 < count then
    String.ofList (List.replicate 40 '=') ++ "\nTotal Size Freed: " ++ Text.byteSize freed ++ "\n"
  else ""

/-- What a rules file was found to hold. -/
def rulesSource (host : Host m) (config : Option Path) :
    m (Option (Path × Except String (List UInt8))) := do
  match config with
  | none => return none
  | some file => return some (file, ← host.contents file)

/-- **A run with given options**: whether every database is gone, or why nothing was done. -/
def reclaimAll (host : Host m) (reporter : Reporter m) (options : Options) :
    m (Except Report Bool) := do
  let paths := distinctBy Path.components options.paths
  if 1 < paths.length && (options.root.isSome || options.name.isSome) then
    return .error (.ofCause "--root and --name can only be used with a single database path")
  else
    match Suffixes.load (← rulesSource host options.config) with
    | .error e => return .error ((e.report Refused.message).within "Failed to load reclaim rules")
    | .ok suffixes =>
      let progress ← handleArguments host reporter options suffixes paths
      host.say (closingLines options paths.length progress.freed)
      return .ok progress.allDeleted

/-- The probe whose answer says whether answers could be coloured. -/
def colorProbe : Probe := { name := "color-output" }

/-- A run with the options read. -/
def runOptions (host : Host m) (around : Surroundings) (options : Options) : m UInt32 := do
  let filter := logFilter around options.verbose
  host.log filter around.coloredLog (probedEvent colorProbe (colorProbe.ask around.colorOutput).1)
  match ← reclaimAll host (host.reporter filter around.coloredLog) options with
  | .ok allDeleted => return if allDeleted then 0 else 1
  | .error report =>
    host.complain (report.closing ++ "\n")
    return 1

/-- **A run of the command**: its exit code. -/
def run (host : Host m) (around : Surroundings) (arguments : List (List UInt8)) : m UInt32 := do
  match Options.read arguments with
  | .ok options => runOptions host around options
  | .error .version =>
    host.say (program ++ " " ++ version ++ "\n")
    return 0
  | .error .help =>
    host.say helpText
    return 0
  | .error (.misuse misuse) =>
    host.complain ("error: " ++ misuse.message ++ "\n")
    return 2

end

end Reclaim
