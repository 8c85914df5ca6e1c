import Reclaim.Text.Utf8

/-!
# Paths

A **path** is a byte string: any bytes, in any encoding, with `/` between its parts. Two views of it
are kept apart.

* Its **segments** are what stands between the separators, empty ones included. Joined again by
  single separators they are the path, byte for byte.
* Its **components** are what the segments mean: the root, the directory itself where a relative
  path begins with `.`, the parent for `..`, and a name for everything else. Empty segments and
  every other `.` mean nothing. Two paths are *alike* when their components are equal.

Splitting a path into its parent and its last name, and joining the two again, go by components, so
a trailing separator or a trailing `.` hides nothing: the last name of `/data/app/.` is `app`.
-/

namespace Reclaim

/-- The separator of segments. -/
def slash : UInt8 := 0x2F

/-- The byte of which `.` and `..` are made. -/
def dot : UInt8 := 0x2E

/-- **A path**: the bytes as given. -/
structure Path where
  bytes : List UInt8
  deriving DecidableEq, Repr, Inhabited

/-- What a segment of a path means. -/
inductive Component where
  /-- The root directory, at the front of an absolute path. -/
  | root
  /-- The directory itself, at the front of a relative path. -/
  | here
  /-- The parent directory. -/
  | up
  /-- An entry of the directory. -/
  | name (bytes : List UInt8)
  deriving DecidableEq, Repr

/-- **The segments of a byte string**: what stands between its separators. -/
def segments : List UInt8 → List (List UInt8)
  | [] => [[]]
  | b :: rest =>
    if b = slash then [] :: segments rest
    else match segments rest with
      | [] => [[b]]
      | first :: others => (b :: first) :: others

theorem segments_ne_nil (bytes : List UInt8) : segments bytes ≠ [] := by
  cases bytes with
  | nil => simp [segments]
  | cons b rest =>
    unfold segments
    split
    · simp
    · split <;> simp

/-- Joined by single separators, the segments are the bytes again. -/
theorem intercalate_segments (bytes : List UInt8) :
    [slash].intercalate (segments bytes) = bytes := by
  induction bytes with
  | nil => rfl
  | cons b rest ih =>
    unfold segments
    split
    · rename_i h
      cases hs : segments rest with
      | nil => exact absurd hs (segments_ne_nil rest)
      | cons first others =>
        rw [hs] at ih
        simp [List.intercalate_cons_cons, ih, h]
    · split
      · rename_i hs
        exact absurd hs (segments_ne_nil rest)
      · rename_i first others hs
        rw [hs] at ih
        cases others with
        | nil => simpa using ih
        | cons second others =>
          simp only [List.intercalate_cons_cons, List.cons_append] at ih ⊢
          rw [ih]

/-- What a segment means away from the front of a path. -/
def Component.ofSegment? (segment : List UInt8) : Option Component :=
  if segment = [] then none
  else if segment = [dot] then none
  else if segment = [dot, dot] then some .up
  else some (.name segment)

/-- How a component is spelled. -/
def Component.bytes : Component → List UInt8
  | .root => [slash]
  | .here => [dot]
  | .up => [dot, dot]
  | .name bytes => bytes

namespace Path

/-- A text as a path. -/
def ofString (s : String) : Path := ⟨Text.encode s⟩

/-- The empty path. -/
def empty : Path := ⟨[]⟩

/-- The path of the working directory, as seen from itself. -/
def current : Path := ⟨[dot]⟩

/-- The path as people read it. -/
def text (p : Path) : String := Text.lossy p.bytes

/-- Whether a path starts at the root. -/
def isAbsolute (p : Path) : Bool := p.bytes.head? = some slash

/-- What the front of a path means besides its segments. -/
def front (p : Path) : List Component :=
  if p.isAbsolute then [.root]
  else if (segments p.bytes).head? = some [dot] then [.here]
  else []

/-- **The components of a path.** -/
def components (p : Path) : List Component :=
  p.front ++ (segments p.bytes).filterMap Component.ofSegment?

/-- Two paths are alike when they have the same components. -/
def Alike (p q : Path) : Prop := p.components = q.components

instance (p q : Path) : Decidable (Alike p q) := inferInstanceAs (Decidable (_ = _))

/-- **One path seen from another.** An absolute path replaces the first; any other is put behind it,
with a separator between the two unless the first is empty or ends in one. -/
def join (p q : Path) : Path :=
  if q.isAbsolute then q
  else if p.bytes = [] ∨ p.bytes.getLast? = some slash then ⟨p.bytes ++ q.bytes⟩
  else ⟨p.bytes ++ slash :: q.bytes⟩

/-- The path that components spell, each seen from the ones before it. -/
def ofComponents (cs : List Component) : Path :=
  cs.foldl (fun p c => p.join ⟨c.bytes⟩) empty

/-- **The parent of a path**: all components but the last. A path without components and the root
have none. -/
def parent? (p : Path) : Option Path :=
  match p.components.getLast? with
  | none | some .root => none
  | some _ => some (ofComponents p.components.dropLast)

/-- **The last name of a path**, unless it ends in the root, in `..`, or in nothing at all. -/
def fileName? (p : Path) : Option (List UInt8) :=
  match p.components.getLast? with
  | some (.name bytes) => some bytes
  | _ => none

/-- A path with a text put behind it, as part of its last segment. -/
def append (p : Path) (s : String) : Path := ⟨p.bytes ++ Text.encode s⟩

/-- The order of paths by their bytes, a path before all that extend it. -/
def le (p q : Path) : Bool := decide (p.bytes ≤ q.bytes)

end Path

end Reclaim
