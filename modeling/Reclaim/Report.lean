/-!
# Error reports

An error is a chain of messages: what went wrong for the caller first, then what caused it, down to
the root cause. Two renderings serve two readers.

**The report** puts each cause on a line of its own behind a fixed separator. Where no message holds
the separator, the report determines the chain, and `Report.messages` reads it back.

**The closing statement** of a program that gives up numbers the causes when there are several.
-/

namespace Reclaim

/-- **A chain of messages**, outermost first; there is always a first. -/
structure Report where
  outermost : String
  causes : List String := []
  deriving DecidableEq, Repr

namespace Report

/-- A root cause with nothing around it. -/
def ofCause (message : String) : Report := ⟨message, []⟩

/-- A chain with one more message around it. -/
def within (r : Report) (message : String) : Report := ⟨message, r.outermost :: r.causes⟩

/-- What stands between a message and its cause. -/
def separator : String := "\n  Caused by: "

/-- **The report** of a chain. -/
def render (r : Report) : String :=
  r.causes.foldl (fun shown cause => shown ++ separator ++ cause) r.outermost

/-- A text cut at every occurrence of a separator, from left to right; `piece` is the text since the
last cut, reversed, and `skip` counts the characters of a separator still to be passed over. -/
def cutFrom (sep : List Char) (piece : List Char) : Nat → List Char → List (List Char)
  | _, [] => [piece.reverse]
  | skip + 1, _ :: rest => cutFrom sep piece skip rest
  | 0, c :: rest =>
    if sep.isPrefixOf (c :: rest) then piece.reverse :: cutFrom sep [] (sep.length - 1) rest
    else cutFrom sep (c :: piece) 0 rest

/-- **The messages of a report**: the text between its separators. -/
def messages (report : String) : List String :=
  (cutFrom separator.toList [] 0 report.toList).map String.ofList

/-- A cause of a closing statement: its first line behind `head`, the others behind as many blanks
as `margin` counts. -/
def indented (head : String) (margin : Nat) (cause : String) : String :=
  head ++ ("\n" ++ String.ofList (List.replicate margin ' ')).intercalate (cause.splitOn "\n")

/-- A number in a field of five characters, with the sign that ends it. -/
def ordinal (n : Nat) : String :=
  let digits := toString n
  String.ofList (List.replicate (5 - digits.length) ' ') ++ digits ++ ": "

/-- Causes by number, each on a line of its own. -/
def numberedCauses : Nat → List String → String
  | _, [] => ""
  | n, cause :: rest => "\n" ++ indented (ordinal n) 7 cause ++ numberedCauses (n + 1) rest

/-- **The closing statement** of a program that ends with this error. -/
def closing (r : Report) : String :=
  "Error: " ++ r.outermost ++
    match r.causes with
    | [] => ""
    | [cause] => "\n\nCaused by:\n" ++ indented "    " 4 cause
    | causes => "\n\nCaused by:" ++ numberedCauses 0 causes

end Report

end Reclaim
