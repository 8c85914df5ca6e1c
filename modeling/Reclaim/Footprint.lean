import Reclaim.Argument
import Reclaim.Suffixes
import Reclaim.Path.Canonical

/-!
# Footprints

The **footprint** of a database says where its files are: the primary file, the directory in which
its management directory stands, and the logical name its sidecars are named after. A value of the
type has an absolute canonical primary path, a name that is a single component, and a root that is
not empty: no other can be built.

Where only the primary path is given, the root is its parent and the name its last name.

The two sidecars are named in two ways. The management directory is an entry of the root; the
notification file is the primary path with more bytes behind it. So the first follows the root, the
second the primary file.
-/

namespace Reclaim

/-- **A footprint.** -/
structure Footprint where
  /-- The database file. -/
  primary : Path
  /-- The directory in which the management directory stands. -/
  root : Path
  /-- What the management directory is named after. -/
  name : String
  absolute : primary.isAbsolute = true
  canonical : primary.isCanonical = true
  single : isSingleComponent name = true
  rooted : root.bytes ≠ []
  deriving DecidableEq

/-- **Why a footprint is rejected**, before any file is looked at. -/
inductive FootprintError where
  | argument (cause : ArgumentError)
  | relativePrimary (path : Path)
  | nonCanonicalPrimary (path : Path)
  | nameNotAComponent (name : String)
  | nonUtf8Name (path : Path)
  deriving DecidableEq, Repr

/-- How a rejected footprint is reported. -/
def FootprintError.message : FootprintError → String
  | .argument cause => cause.message
  | .relativePrimary path => "Primary path must be absolute: " ++ path.text
  | .nonCanonicalPrimary path =>
    "Primary path must be canonical (no '.' or '..' components): " ++ path.text
  | .nameNotAComponent name =>
    "Logical name must be a single path component: " ++ Text.quoted name
  | .nonUtf8Name path => "Primary file name is not valid UTF-8: " ++ path.text

namespace Footprint

/-- **A footprint from its three parts.** The checks are made in this order: an empty primary path,
an empty name, a relative primary path, one that is not canonical, a name that is no single
component, an empty root. -/
def ofParts (primary root : Path) (name : String) : Except FootprintError Footprint :=
  if primary.bytes = [] then .error (.argument (.empty "primary_path"))
  else if name.isEmpty then .error (.argument (.empty "logical_name"))
  else if absolute : primary.isAbsolute = true then
    if canonical : primary.isCanonical = true then
      if single : isSingleComponent name = true then
        if rooted : root.bytes = [] then .error (.argument (.empty "root_directory"))
        else .ok ⟨primary, root, name, absolute, canonical, single, rooted⟩
      else .error (.nameNotAComponent name)
    else .error (.nonCanonicalPrimary primary)
  else .error (.relativePrimary primary)

/-- **A footprint from its primary path alone.** -/
def ofPrimary (primary : Path) : Except FootprintError Footprint :=
  match primary.parent? with
  | none => .error (.argument (.missing "root_directory"))
  | some root =>
    match primary.fileName? with
    | none => .error (.argument (.missing "logical_name"))
    | some bytes =>
      match Text.decode? bytes with
      | none => .error (.nonUtf8Name primary)
      | some name => ofParts primary root name

/-- **The management directory**: in the root, the name with the suffix behind it. -/
def managementDirectory (f : Footprint) (s : Suffixes) : Path :=
  f.root.join (.ofString (f.name ++ s.management))

/-- **The notification file**: the primary path with the suffix behind it. -/
def notificationFile (f : Footprint) (s : Suffixes) : Path := f.primary.append s.note

end Footprint

end Reclaim
