import Reclaim.Artifact

/-!
# What reclaiming asks of its surroundings

A **filesystem** is five calls, each on one path, in any monad: a disk, a store in memory, a record
of the calls around either. Nothing else is known of it. A call may answer what it likes, and two
calls may answer differently: between them the files may have changed.

A failed call answers with a reason, which is a text; only its reader makes anything of it.

A **reporter** is told what happens while it happens: each artifact deleted, and the text of each
warning.
-/

namespace Reclaim

/-- The five calls, by name. -/
inductive CallKind where
  | present
  | children
  | removeFile
  | removeEmptyDirectory
  | fileSize
  deriving DecidableEq, Repr

/-- **The five calls.** -/
structure Filesystem (m : Type → Type) where
  /-- Whether anything stands at the path, a link that leads nowhere included. -/
  present : Path → m Bool
  /-- The paths of the entries of a directory. -/
  children : Path → m (Except String (List Path))
  /-- Deletes what stands at the path, unless it is a directory. Nothing there is no failure. -/
  removeFile : Path → m (Except String Unit)
  /-- Deletes the directory at the path, if it is empty. Nothing there is no failure. -/
  removeEmptyDirectory : Path → m (Except String Unit)
  /-- The size of the regular file at the path. -/
  fileSize : Path → m (Option Nat)

/-- **A reporter.** -/
structure Reporter (m : Type → Type) where
  /-- An artifact was deleted. -/
  removed : ArtifactKind → Path → m Unit
  /-- An artifact still stands: the text of the warning. -/
  warned : String → m Unit

/-- A reporter that keeps what it is told to itself. -/
def Reporter.silent {m : Type → Type} [Monad m] : Reporter m where
  removed _ _ := return ()
  warned _ := return ()

end Reclaim
