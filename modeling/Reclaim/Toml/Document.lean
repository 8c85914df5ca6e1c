import Reclaim.Toml.Key
import Reclaim.Toml.Moment
import Reclaim.Toml.Number
import Reclaim.Toml.Table

/-!
# Documents

A **document** is a list of lines: settings, headers in brackets, comments and empty lines. Values
in brackets may go over several lines, tables in braces may not. Values stand inside each other to a
fixed depth.

`Document.read` gives the settings of a document, or nothing where the text is not a document. Which
of its faults it was is not told.
-/

namespace Reclaim.Toml

/-- The values of an array, after its opening bracket. -/
def readItems (item : Reader Value) : Nat → Reader (List Value)
  | 0, _ => none
  | fuel + 1, cs => do
    match ← skipLines false cs with
    | ']' :: rest => return ([], rest)
    | cs => do
      let (value, rest) ← item cs
      match ← skipLines false rest with
      | ',' :: rest => do
        let (others, rest) ← readItems item fuel rest
        return (value :: others, rest)
      | ']' :: rest => return ([value], rest)
      | _ => none

/-- A setting: a key, the sign, and a value. -/
def readSetting (item : Reader Value) (cs : List Char) :
    Option ((List String × Value) × List Char) := do
  let (key, rest) ← readKey cs
  let rest ← expect? '=' rest
  let (value, rest) ← item (skipBlanks rest)
  return ((key, value), rest)

/-- The settings of a table in braces, after its opening brace. There is one at least. -/
def readPairs (item : Reader Value) : Nat → Reader (List (List String × Value))
  | 0, _ => none
  | fuel + 1, cs => do
    let (setting, rest) ← readSetting item cs
    match skipBlanks rest with
    | ',' :: rest => do
      let (others, rest) ← readPairs item fuel rest
      return (setting :: others, rest)
    | '\x7d' :: rest => return ([setting], rest)
    | _ => none

/-- A table in braces, after its opening brace. -/
def readBraces (item : Reader Value) (cs : List Char) : Option (Value × List Char) := do
  let (settings, rest) ←
    match skipBlanks cs with
    | '\x7d' :: rest => some ([], rest)
    | _ => readPairs item cs.length cs
  return (.table .inline (← addSettings [] settings), rest)

/-- A word that stands for a value. -/
def readWord : Reader Value
  | 't' :: 'r' :: 'u' :: 'e' :: rest => some (.boolean true, rest)
  | 'f' :: 'a' :: 'l' :: 's' :: 'e' :: rest => some (.boolean false, rest)
  | _ => none

/-- A value that holds no other. -/
def readScalar (cs : List Char) : Option (Value × List Char) :=
  match cs with
  | [] => none
  | c :: _ =>
    if c = doubleQuote || c = singleQuote then (readText cs).map fun (s, rest) => (.text s, rest)
    else if c = 't' || c = 'f' then readWord cs
    else match scanMoment cs with
      | .found rest => some (.moment, rest)
      | .malformed => none
      | .absent => readNumber cs

/-- **A value**, with others inside it down to a depth. -/
def readValue : Nat → Reader Value
  | 0, cs =>
    match cs with
    | '[' :: _ | '\x7b' :: _ => none
    | _ => readScalar cs
  | depth + 1, cs =>
    match cs with
    | '[' :: rest => do
      let (items, rest) ← readItems (readValue depth) rest.length rest
      return (.array items, rest)
    | '\x7b' :: rest => readBraces (readValue depth) rest
    | _ => readScalar cs

/-- How many values may stand inside each other, besides the outermost. -/
def depthLimit : Nat := 79

/-- A header, after its first bracket: its key, and whether it had two brackets. -/
def readHeader (cs : List Char) : Option ((List String × Bool) × List Char) :=
  match cs with
  | '[' :: rest => do
    let (key, rest) ← readKey rest
    let rest ← expect? ']' rest
    return ((key, true), ← expect? ']' rest)
  | _ => do
    let (key, rest) ← readKey cs
    return ((key, false), ← expect? ']' rest)

namespace Document

/-- The lines of a document, one after the other. -/
def readLines : Nat → Builder → List Char → Option Builder
  | 0, _, _ => none
  | fuel + 1, b, cs =>
    match skipBlanks cs with
    | [] => some b
    | '\n' :: rest => readLines fuel b rest
    | '#' :: rest => do readLines fuel b (← afterComment rest)
    | '[' :: rest => do
      let ((key, repeated), rest) ← readHeader rest
      let rest ← afterLine rest
      readLines fuel (← if repeated then b.openRepeated key else b.openTable key) rest
    | cs => do
      let ((key, value), rest) ← readSetting (readValue depthLimit) cs
      let rest ← afterLine rest
      readLines fuel (← b.add key value) rest

/-- A text without the mark that may announce its encoding. -/
def dropMark : List Char → List Char
  | '\uFEFF' :: rest => rest
  | cs => cs

/-- **The settings of a document.** -/
def read (text : String) : Option Entries := do
  let cs := unifyLines (dropMark text.toList)
  (← readLines (cs.length + 1) {} cs).finish

end Document

end Reclaim.Toml
