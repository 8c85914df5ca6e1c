import Reclaim.Toml.Text

/-!
# Keys

A **key** names a setting inside its table; with dots between its parts it names the tables on the
way as well. A part is bare, of ASCII letters, digits, hyphens and underscores, or a quoted text on
one line. Blanks may stand around each part.
-/

namespace Reclaim.Toml

/-- Whether a character may stand in a bare key. -/
def isBareKeyChar (c : Char) : Bool := c.isAlphanum || c = '-' || c = '_'

/-- One part of a key. -/
def readKeyPart (cs : List Char) : Option (String × List Char) :=
  match cs.takeWhile isBareKeyChar with
  | [] => readLineText cs
  | bare => some (String.ofList bare, cs.dropWhile isBareKeyChar)

/-- The parts of a key, at most as many as `limit` counts. -/
def keyParts : Nat → Reader (List String)
  | 0, _ => none
  | limit + 1, cs => do
    let (part, rest) ← readKeyPart (skipBlanks cs)
    match skipBlanks rest with
    | '.' :: rest => do
      let (others, rest) ← keyParts limit rest
      return (part :: others, rest)
    | rest => return ([part], rest)

/-- The longest key, in parts. -/
def keyLimit : Nat := 79

/-- **A key**, with the blanks around it. -/
def readKey (cs : List Char) : Option (List String × List Char) := keyParts keyLimit cs

end Reclaim.Toml
