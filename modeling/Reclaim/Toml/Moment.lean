import Reclaim.Toml.Blank

/-!
# Dates and times of a document

A date, a time, or both with an offset from universal time perhaps. Four digits and a hyphen
announce a date, and an hour and a colon a time: after either, the rest has to follow. A date may
stand alone: where no time follows the letter or blank behind it, that belongs to what comes next.

Only whether a moment stands there is asked; days are counted by month and year, an hour has sixty
minutes, a minute may have a leap second.
-/

namespace Reclaim.Toml

/-- **What the front of a text may be**: no moment at all, a moment that breaks off, or a moment
with the rest. -/
inductive MomentScan where
  | absent
  | malformed
  | found (rest : List Char)
  deriving DecidableEq, Repr

/-- Two digits as a number. -/
def twoDigits? : List Char → Option (Nat × List Char)
  | a :: b :: rest =>
    if a.isDigit && b.isDigit then some (10 * (a.toNat - 48) + (b.toNat - 48), rest) else none
  | _ => none

/-- Two digits in a range. -/
def field? (low high : Nat) (cs : List Char) : Option (Nat × List Char) := do
  let (n, rest) ← twoDigits? cs
  if low ≤ n && n ≤ high then some (n, rest) else none

/-- A character that has to be there. -/
def expect? (c : Char) : List Char → Option (List Char)
  | d :: rest => if d = c then some rest else none
  | [] => none

/-- Whether a year has a leap day. -/
def isLeapYear (year : Nat) : Bool := (year % 4 = 0 && year % 100 ≠ 0) || year % 400 = 0

/-- The days of a month. -/
def daysIn (year month : Nat) : Nat :=
  if month = 2 then if isLeapYear year then 29 else 28
  else if month = 4 || month = 6 || month = 9 || month = 11 then 30
  else 31

/-- A month and a day of a year, with the hyphen between. -/
def monthAndDay? (year : Nat) (cs : List Char) : Option (List Char) := do
  let (month, cs) ← field? 1 12 cs
  let cs ← expect? '-' cs
  let (day, rest) ← field? 1 31 cs
  if day ≤ daysIn year month then some rest else none

/-- A row of digits, gone. -/
def skipDigits (cs : List Char) : List Char := cs.dropWhile Char.isDigit

/-- A fraction of a second, if there is one. -/
def skipFraction (cs : List Char) : List Char :=
  match cs with
  | '.' :: d :: rest => if d.isDigit then skipDigits rest else cs
  | _ => cs

/-- Minutes and seconds, with the colon between. -/
def minutesAndSeconds? (cs : List Char) : Option (List Char) := do
  let (_, cs) ← field? 0 59 cs
  let cs ← expect? ':' cs
  let (_, rest) ← field? 0 60 cs
  return skipFraction rest

/-- A time of day. -/
def scanTime (cs : List Char) : MomentScan :=
  match field? 0 23 cs with
  | some (_, ':' :: rest) =>
    match minutesAndSeconds? rest with
    | some rest => .found rest
    | none => .malformed
  | _ => .absent

/-- Hours and minutes of an offset. -/
def offsetTime? (cs : List Char) : Option (List Char) := do
  let (_, cs) ← field? 0 23 cs
  let cs ← expect? ':' cs
  let (_, rest) ← field? 0 59 cs
  return rest

/-- An offset from universal time, if there is one. -/
def scanOffset (cs : List Char) : MomentScan :=
  match cs with
  | 'Z' :: rest | 'z' :: rest => .found rest
  | '+' :: rest | '-' :: rest =>
    match offsetTime? rest with
    | some rest => .found rest
    | none => .malformed
  | _ => .found cs

/-- Whether a character may stand between a date and a time. -/
def parts (c : Char) : Bool := c = 'T' || c = 't' || c = ' '

/-- What may follow a date: a time with an offset perhaps, or anything else. -/
def afterDate (cs : List Char) : MomentScan :=
  match cs with
  | c :: rest =>
    if parts c then
      match scanTime rest with
      | .found rest => scanOffset rest
      | .malformed => .malformed
      | .absent => .found cs
    else .found cs
  | [] => .found []

/-- The number of four digits in front of a hyphen. -/
def year? : List Char → Option (Nat × List Char)
  | a :: b :: c :: d :: '-' :: rest => do
    let (high, _) ← twoDigits? [a, b]
    let (low, _) ← twoDigits? [c, d]
    return (100 * high + low, rest)
  | _ => none

/-- **A date or a time**, if one stands at the front. -/
def scanMoment (cs : List Char) : MomentScan :=
  match year? cs with
  | some (year, rest) =>
    match monthAndDay? year rest with
    | some rest => afterDate rest
    | none => .malformed
  | none => scanTime cs

end Reclaim.Toml
