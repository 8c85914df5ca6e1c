import Reclaim.Path.Basic

/-!
# Artifacts

An **artifact** is a file or directory that belongs to a footprint. There are four kinds, each with
a label for messages. A **warning** is an artifact that was to be deleted and still stands, with the
reason.
-/

namespace Reclaim

/-- **The kinds of artifact.** -/
inductive ArtifactKind where
  /-- An entry of the management directory. -/
  | managementEntry
  /-- The management directory itself. -/
  | managementDirectory
  /-- The database file. -/
  | primary
  /-- The notification file. -/
  | notification
  deriving DecidableEq, Repr

/-- What an artifact is called in messages. -/
def ArtifactKind.label : ArtifactKind → String
  | .managementEntry => "Temporary file"
  | .managementDirectory => "Temporary folder"
  | .primary => "Database file"
  | .notification => "Notification file"

/-- **A warning**: what could not be deleted, and why. -/
structure Warning where
  kind : ArtifactKind
  path : Path
  reason : String
  deriving DecidableEq, Repr

/-- How a warning reads. -/
def Warning.text (w : Warning) : String :=
  w.kind.label ++ " at " ++ w.path.text ++ " cannot be deleted: " ++ w.reason

end Reclaim
