import Reclaim.Toml.Blank

/-!
# Quoted texts of a document

Four forms: between double quotes with escapes, between single quotes without, and either of these
between three quotes over several lines.

In the forms over several lines a line feed right after the opening quotes does not count. One or
two quotes stand for themselves, and up to two may stand before the closing three. In the form with
escapes, a backslash before the end of a line takes away all blanks and line ends up to the next
character.

Each form is a machine that reads one character at a time.
-/

namespace Reclaim.Toml

/-- The double quote. -/
def doubleQuote : Char := '\x22'

/-- The single quote. -/
def singleQuote : Char := '\x27'

/-- Whether a character of a text may stand for itself: a tab, or anything but a control character
of ASCII. -/
def isPlainChar (c : Char) : Bool := isCommentChar c

/-- The character that a letter after a backslash stands for. -/
def letterEscape? (c : Char) : Option Char :=
  match c with
  | 'b' => some '\x08'
  | 'f' => some '\x0c'
  | 'n' => some '\n'
  | 'r' => some '\r'
  | 't' => some '\t'
  | '\\' => some '\\'
  | _ => if c = doubleQuote then some c else none

/-- The value of a hexadecimal digit of either case. -/
def hexValue? (c : Char) : Option Nat :=
  if '0' ≤ c && c ≤ '9' then some (c.toNat - '0'.toNat)
  else if 'a' ≤ c && c ≤ 'f' then some (c.toNat - 'a'.toNat + 10)
  else if 'A' ≤ c && c ≤ 'F' then some (c.toNat - 'A'.toNat + 10)
  else none

/-- The character with a number, if it has one. -/
def charOfNumber? (n : Nat) : Option Char :=
  if n.isValidChar then some (Char.ofNat n) else none

/-- Where a machine stands inside a text with escapes. -/
inductive TextState where
  /-- Between characters, after a number of quotes in a row. -/
  | plain (quotes : Nat)
  /-- After a backslash. -/
  | escape
  /-- Inside a character number, with digits still to come. -/
  | number (digits value : Nat)
  /-- After a backslash and blanks, before the end of the line. -/
  | lineEnd
  /-- After a backslash and the end of a line. -/
  | folding
  deriving DecidableEq, Repr

/-- A character after a backslash: what it stands for, and the state after it. -/
def escapeStep (c : Char) : Option (List Char × TextState) :=
  match letterEscape? c with
  | some x => some ([x], .plain 0)
  | none =>
    if c = 'u' then some ([], .number 4 0)
    else if c = 'U' then some ([], .number 8 0)
    else none

/-- A digit of a character number. -/
def numberStep (digits value : Nat) (c : Char) : Option (List Char × TextState) := do
  let v := 16 * value + (← hexValue? c)
  if digits ≤ 1 then return ([← charOfNumber? v], .plain 0) else return ([], .number (digits - 1) v)

/-- Puts characters in front of a text that was read. -/
def prepend (cs : List Char) (read : Option (List Char × List Char)) :
    Option (List Char × List Char) :=
  read.map fun (text, rest) => (cs ++ text, rest)

/-- The rest of a text in double quotes on one line. -/
def basicFrom : TextState → Reader (List Char)
  | _, [] => none
  | .plain _, c :: rest =>
    if c = doubleQuote then some ([], rest)
    else if c = '\\' then basicFrom .escape rest
    else if isPlainChar c then prepend [c] (basicFrom (.plain 0) rest)
    else none
  | .number digits value, c :: rest => do
    let (shown, next) ← numberStep digits value c
    prepend shown (basicFrom next rest)
  | _, c :: rest => do
    let (shown, next) ← escapeStep c
    prepend shown (basicFrom next rest)

/-- The rest of a text in single quotes on one line. -/
def literalFrom : Reader (List Char)
  | [] => none
  | c :: rest =>
    if c = singleQuote then some ([], rest)
    else if isPlainChar c then prepend [c] (literalFrom rest)
    else none

/-- The rest of a text between three quotes. After three in a row the text is over, unless more
follow, up to five; those before the last three belong to it. -/
def multilineFrom (quote : Char) (escapes : Bool) : TextState → Reader (List Char)
  | .plain quotes, [] =>
    if 3 ≤ quotes then some (List.replicate (quotes - 3) quote, []) else none
  | _, [] => none
  | .plain quotes, c :: rest =>
    if c = quote then
      if quotes = 4 then some ([quote, quote], rest)
      else multilineFrom quote escapes (.plain (quotes + 1)) rest
    else if 3 ≤ quotes then some (List.replicate (quotes - 3) quote, c :: rest)
    else
      let before := List.replicate quotes quote
      if escapes && c = '\\' then prepend before (multilineFrom quote escapes .escape rest)
      else if c = '\n' || isPlainChar c then
        prepend (before ++ [c]) (multilineFrom quote escapes (.plain 0) rest)
      else none
  | .number digits value, c :: rest => do
    let (shown, next) ← numberStep digits value c
    prepend shown (multilineFrom quote escapes next rest)
  | .folding, c :: rest =>
    if isBlank c || c = '\n' then multilineFrom quote escapes .folding rest
    else if c = quote then multilineFrom quote escapes (.plain 1) rest
    else if c = '\\' then multilineFrom quote escapes .escape rest
    else if isPlainChar c then prepend [c] (multilineFrom quote escapes (.plain 0) rest)
    else none
  | .lineEnd, c :: rest =>
    if isBlank c then multilineFrom quote escapes .lineEnd rest
    else if c = '\n' then multilineFrom quote escapes .folding rest
    else none
  | .escape, c :: rest =>
    if isBlank c then multilineFrom quote escapes .lineEnd rest
    else if c = '\n' then multilineFrom quote escapes .folding rest
    else do
      let (shown, next) ← escapeStep c
      prepend shown (multilineFrom quote escapes next rest)

/-- A text without the line feed right after its opening quotes. -/
def dropFirstLineEnd : List Char → List Char
  | '\n' :: rest => rest
  | cs => cs

/-- Gives a text that was read as a string. -/
def asString (read : Option (List Char × List Char)) : Option (String × List Char) :=
  read.map fun (text, rest) => (String.ofList text, rest)

/-- **A quoted text on one line**, from its opening quote. -/
def readLineText : Reader String
  | [] => none
  | c :: rest =>
    if c = doubleQuote then asString (basicFrom (.plain 0) rest)
    else if c = singleQuote then asString (literalFrom rest)
    else none

/-- **A quoted text of any form**, from its opening quote. -/
def readText : Reader String
  | a :: b :: c :: rest =>
    if a = b && b = c && (a = doubleQuote || a = singleQuote) then
      asString (multilineFrom a (a = doubleQuote) (.plain 0) (dropFirstLineEnd rest))
    else readLineText (a :: b :: c :: rest)
  | cs => readLineText cs

end Reclaim.Toml
