import Reclaim.Path.Basic

/-!
# Canonical paths

A path is **canonical** when its spelling says nothing that its components do not: no `.` and no
`..`, no doubled and no trailing separator. Two definitions say so, and neither is made from the
other. `Path.isCanonical` is the check: it takes the path apart into components and compares their
spelling with the path. `Path.Canonical` is the grammar: the root alone, or one or more names, each
behind a single separator.

**Lexical normalization** turns any path into one without `.` and `..`, by its text alone: a `..`
takes back the name before it, and stands for nothing where there is none to take back.

Symbolic links are not looked at here. Where a name before a `..` is a link, the text and the disk
disagree on what the path names.
-/

namespace Reclaim

/-- Whether a byte string can name an entry of a directory: it is not empty, holds no separator, and
is neither `.` nor `..`. -/
def IsName (bytes : List UInt8) : Prop :=
  bytes ≠ [] ∧ slash ∉ bytes ∧ bytes ≠ [dot] ∧ bytes ≠ [dot, dot]

instance (bytes : List UInt8) : Decidable (IsName bytes) := by
  unfold IsName; infer_instance

/-- Names, each behind a separator. -/
def spelled (names : List (List UInt8)) : List UInt8 := names.flatMap (slash :: ·)

/-- Whether a component is a step that canonical paths do without. -/
def Component.isRelative : Component → Bool
  | .here | .up => true
  | .root | .name _ => false

namespace Path

/-- **The grammar of absolute canonical paths**: the root alone, or names behind single
separators. -/
def Canonical (p : Path) : Prop :=
  p.bytes = [slash] ∨ ∃ names, names ≠ [] ∧ (∀ n ∈ names, IsName n) ∧ p.bytes = spelled names

/-- **The check**: no component is `.` or `..`, and the components spell the path itself. -/
def isCanonical (p : Path) : Bool :=
  !p.components.any Component.isRelative && ofComponents p.components = p

/-- One component of lexical normalization, on the components kept so far, the latest first. -/
def settle (kept : List Component) : Component → List Component
  | .here => kept
  | .up =>
    match kept with
    | .name _ :: below => below
    | _ => kept
  | c => c :: kept

/-- **Lexical normalization**: the path without `.` and `..`. -/
def normalize (p : Path) : Path :=
  ofComponents (p.components.foldl settle []).reverse

end Path

/-- Whether a text is a single component of a path, spelled as that component: a name. -/
def isSingleComponent (s : String) : Bool :=
  (Path.ofString s).components = [.name (Text.encode s)]

end Reclaim
