/-!
# Blanks, line ends and comments

What stands between the parts of a document. A line ends in a line feed, with or without a carriage
return before it; `unifyLines` makes the two one, so that any carriage return left is out of place.

A **reader** takes characters from the front of a text and gives what it read with the rest, or
nothing where the text does not start as it must.
-/

namespace Reclaim.Toml

/-- **A reader.** -/
abbrev Reader (α : Type) := List Char → Option (α × List Char)

/-- A text whose lines end in line feeds alone. -/
def unifyLines : List Char → List Char
  | '\r' :: '\n' :: rest => '\n' :: unifyLines rest
  | c :: rest => c :: unifyLines rest
  | [] => []

/-- Whether a character is a blank inside a line. -/
def isBlank (c : Char) : Bool := c = ' ' || c = '\t'

/-- Whether a character may stand in a comment: a tab, or anything but a control character of
ASCII. -/
def isCommentChar (c : Char) : Bool := c = '\t' || (' ' ≤ c && c ≠ '\x7f')

/-- A text without the blanks at its front. -/
def skipBlanks (cs : List Char) : List Char := cs.dropWhile isBlank

/-- What follows a comment and the end of its line. The end of the text ends a line. -/
def afterComment : List Char → Option (List Char)
  | [] => some []
  | '\n' :: rest => some rest
  | c :: rest => if isCommentChar c then afterComment rest else none

/-- **What follows the end of a line**: blanks, a comment perhaps, and a line feed or the end of the
text. -/
def afterLine (cs : List Char) : Option (List Char) :=
  match skipBlanks cs with
  | [] => some []
  | '\n' :: rest => some rest
  | '#' :: rest => afterComment rest
  | _ => none

/-- What follows blanks, line ends and comments, where a value goes over several lines. -/
def skipLines (inComment : Bool) : List Char → Option (List Char)
  | [] => if inComment then none else some []
  | '\n' :: rest => skipLines false rest
  | c :: rest =>
    if inComment then if isCommentChar c then skipLines true rest else none
    else if isBlank c then skipLines false rest
    else if c = '#' then skipLines true rest
    else some (c :: rest)

end Reclaim.Toml
