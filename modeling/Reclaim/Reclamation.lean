import Reclaim.Filesystem
import Reclaim.Footprint

/-!
# Reclaiming a footprint

The artifacts of a footprint are deleted in a fixed order: the entries of the management directory,
that directory, the primary file, the notification file. Every step is taken whatever became of the
others. An artifact that cannot be deleted is left and becomes a **warning**; nothing is raised.

The management directory is taken to be flat. A directory inside it is not entered: it is an entry
that cannot be deleted as a file, and keeps its directory standing.

A database counts as gone when its primary file is gone. So the verdict `primaryDeleted` looks at
that step alone: true where the file was deleted, and where there was none.

A **tally** is what one step, or several in a row, amount to. An **outcome** is the tally of all
steps with the verdict. The **plan** of a footprint lists what stands, in the order in which it
would be deleted, and deletes nothing.
-/

namespace Reclaim

/-- **A tally**: the warnings, the paths deleted, each in order, and the bytes of the files among
them. -/
structure Tally where
  warnings : List Warning := []
  removed : List Path := []
  freed : Nat := 0
  deriving DecidableEq, Repr

namespace Tally

/-- Two tallies, one after the other. -/
def andThen (a b : Tally) : Tally :=
  ⟨a.warnings ++ b.warnings, a.removed ++ b.removed, a.freed + b.freed⟩

/-- Nothing happened. -/
def nothing : Tally := {}

/-- One artifact was deleted, of the size known before. -/
def ofRemoved (path : Path) (size : Option Nat) : Tally :=
  { removed := [path], freed := size.getD 0 }

/-- One artifact still stands. -/
def ofWarning (w : Warning) : Tally := { warnings := [w] }

end Tally

/-- **An outcome**: what was deleted and what was left, and the verdict on the primary file. -/
structure Outcome where
  /-- False only where the primary file was there and could not be deleted. -/
  primaryDeleted : Bool := false
  warnings : List Warning := []
  /-- The artifacts deleted, in that order. -/
  removed : List Path := []
  /-- The bytes of the regular files deleted. -/
  bytesFreed : Nat := 0
  deriving DecidableEq, Repr

/-- Whether nothing was left behind. -/
def Outcome.isClean (o : Outcome) : Bool := o.primaryDeleted && o.warnings.isEmpty

/-- An artifact that stands, with its kind. -/
abbrev Planned := ArtifactKind × Path

section

variable {m : Type → Type} [Monad m]

/-- Leaves an artifact standing: reports the reason and tallies it. -/
def leave (reporter : Reporter m) (kind : ArtifactKind) (path : Path) (reason : String) :
    m Tally := do
  let w : Warning := ⟨kind, path, reason⟩
  reporter.warned w.text
  return .ofWarning w

/-- The call that deletes an artifact of a kind. -/
def Filesystem.remove (fs : Filesystem m) : ArtifactKind → Path → m (Except String Unit)
  | .managementDirectory => fs.removeEmptyDirectory
  | .managementEntry | .primary | .notification => fs.removeFile

/-- **One deletion**: the size is asked for first, since there is none afterwards. -/
def attempt (fs : Filesystem m) (reporter : Reporter m) (kind : ArtifactKind) (path : Path) :
    m Tally := do
  let size ← fs.fileSize path
  match ← fs.remove kind path with
  | .ok () =>
    reporter.removed kind path
    return .ofRemoved path size
  | .error reason => leave reporter kind path reason

/-- Deletions of entries, in the order of the list. -/
def attemptEntries (fs : Filesystem m) (reporter : Reporter m) : List Path → m Tally
  | [] => return .nothing
  | path :: rest => do
    let first ← attempt fs reporter .managementEntry path
    let others ← attemptEntries fs reporter rest
    return first.andThen others

/-- Deletes an artifact if it stands. -/
def attemptPresent (fs : Filesystem m) (reporter : Reporter m) (kind : ArtifactKind) (path : Path) :
    m Tally := do
  if ← fs.present path then attempt fs reporter kind path else return .nothing

/-- Deletes the entries of a directory if it stands. A directory that cannot be read is a warning
about the directory. -/
def sweep (fs : Filesystem m) (reporter : Reporter m) (directory : Path) : m Tally := do
  if ← fs.present directory then
    match ← fs.children directory with
    | .ok entries => attemptEntries fs reporter entries
    | .error reason => leave reporter .managementDirectory directory reason
  else return .nothing

/-- **Reclaims a footprint.** -/
def reclaim (fs : Filesystem m) (reporter : Reporter m) (suffixes : Suffixes) (f : Footprint) :
    m Outcome := do
  let management := f.managementDirectory suffixes
  let entries ← sweep fs reporter management
  let directory ← attemptPresent fs reporter .managementDirectory management
  let primary ← attemptPresent fs reporter .primary f.primary
  let note ← attemptPresent fs reporter .notification (f.notificationFile suffixes)
  let all := entries.andThen (directory.andThen (primary.andThen note))
  return ⟨primary.warnings.isEmpty, all.warnings, all.removed, all.freed⟩

/-- An artifact, if it stands. -/
def planPresent (fs : Filesystem m) (kind : ArtifactKind) (path : Path) : m (List Planned) := do
  if ← fs.present path then return [(kind, path)] else return []

/-- The management directory behind its entries, if it stands. One that cannot be read is listed
without entries. -/
def planManagement (fs : Filesystem m) (directory : Path) : m (List Planned) := do
  if ← fs.present directory then
    let entries := match ← fs.children directory with
      | .ok entries => entries
      | .error _ => []
    return entries.map (.managementEntry, ·) ++ [(.managementDirectory, directory)]
  else return []

/-- **What stands of a footprint**, in the order of reclaiming. -/
def plan (fs : Filesystem m) (suffixes : Suffixes) (f : Footprint) : m (List Planned) := do
  let management ← planManagement fs (f.managementDirectory suffixes)
  let primary ← planPresent fs .primary f.primary
  let note ← planPresent fs .notification (f.notificationFile suffixes)
  return management ++ primary ++ note

end

end Reclaim
