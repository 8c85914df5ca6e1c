import Reclaim.Number.Rounding

/-!
# Binary64 numbers, read and written in decimal

A finite number is a whole **mantissa** times a power of two. Reading a decimal rounds the exact
quotient once, to the nearest mantissa of 53 bits, a tie to the even one. Writing goes the other
way: among the decimals that round to the number, it takes one with the fewest digits, and of those
the nearest. All of it is arithmetic on whole numbers, so nothing is rounded twice.

**The interval of a number** is all that rounds to it: half a step to either side, a quarter below a
power of two, the ends included where the mantissa is even. If a decimal of a given number of digits
lies in the interval, one of the two that enclose the number does; so only those two are tried.

Numbers are written in positions, never with an exponent, and always with a point.
-/

namespace Reclaim.Number

/-- **A binary64 number.** -/
inductive Binary64 where
  | nan
  | infinite (negative : Bool)
  /-- `mantissa * 2 ^ exponent`. -/
  | finite (negative : Bool) (mantissa : Nat) (exponent : Int)
  deriving DecidableEq, Repr

/-- A quotient of whole numbers. -/
structure Quotient where
  num : Nat
  den : Nat

namespace Quotient

/-- A power with any whole exponent. -/
def pow (base : Nat) (exponent : Int) : Quotient :=
  if 0 ≤ exponent then ⟨base.pow exponent.toNat, 1⟩ else ⟨1, base.pow (-exponent).toNat⟩

/-- The product of two quotients. -/
def mul (a b : Quotient) : Quotient := ⟨a.num * b.num, a.den * b.den⟩

/-- A whole multiple of a quotient. -/
def times (n : Nat) (a : Quotient) : Quotient := ⟨n * a.num, a.den⟩

/-- The whole part of a quotient. -/
def floor (a : Quotient) : Nat := a.num / a.den

/-- Whether one quotient is less than another. -/
def lt (a b : Quotient) : Bool := a.num * b.den < b.num * a.den

end Quotient

namespace Binary64

/-- The least exponent. -/
def leastExponent : Int := -1074

/-- **The number nearest to a quotient**, of a given sign. -/
def nearest (negative : Bool) (v : Quotient) : Binary64 :=
  if v.num = 0 then .finite negative 0 leastExponent
  else
    let guess : Int := (v.num.log2 : Int) - v.den.log2 - 53
    let low := max guess leastExponent
    let exponent := if 1 <<< 53 ≤ (v.mul (.pow 2 (-low))).floor then low + 1 else low
    let scaled := v.mul (.pow 2 (-exponent))
    let mantissa := divNearestEven scaled.num scaled.den
    let (mantissa, exponent) :=
      if mantissa = 1 <<< 53 then (1 <<< 52, exponent + 1) else (mantissa, exponent)
    if 1024 ≤ (mantissa.log2 : Int) + exponent then .infinite negative
    else .finite negative mantissa exponent

/-- How many decimal digits a number has. -/
def digitCount (n : Nat) : Nat := (Nat.toDigits 10 n).length

/-- **The number that a decimal stands for**: `digits * 10 ^ exponent`. Decimals far outside the
range are settled by their size alone. -/
def ofDecimal (negative : Bool) (digits : Nat) (exponent : Int) : Binary64 :=
  let size := (digitCount digits : Int) + exponent
  if digits = 0 || size < -400 then .finite negative 0 leastExponent
  else if 400 < size then .infinite negative
  else nearest negative (.times digits (.pow 10 exponent))

/-- The exponent of the leading decimal digit of a quotient that is not zero. -/
def leadingExponent (v : Quotient) : Int :=
  if v.den ≤ v.num then digitCount v.floor - 1
  else -(digitCount ((v.den - 1) / v.num) : Int)

/-- The interval of a number, in quarters of its step. -/
structure Interval where
  low : Nat
  high : Nat
  closed : Bool
  quarter : Quotient

/-- The interval of a number that is not zero. -/
def interval (mantissa : Nat) (exponent : Int) : Interval where
  low := 4 * mantissa - if mantissa = 1 <<< 52 && leastExponent < exponent then 1 else 2
  high := 4 * mantissa + 2
  closed := mantissa % 2 = 0
  quarter := .pow 2 (exponent - 2)

/-- Whether a quotient lies in an interval. -/
def Interval.holds (i : Interval) (v : Quotient) : Bool :=
  let low := i.quarter.times i.low
  let high := i.quarter.times i.high
  if i.closed then !v.lt low && !high.lt v else low.lt v && v.lt high

/-- The better of the two decimals that enclose a number, if either rounds to it: the nearer, of two
equally near the greater. `unit` is the value of the last digit. -/
def enclosing? (i : Interval) (v unit : Quotient) : Option Nat :=
  let below := (v.mul ⟨unit.den, unit.num⟩).floor
  let above := below + 1
  let fits (n : Nat) := i.holds (unit.times n)
  let twice : Quotient := v.times 2
  match fits below, fits above with
  | true, true => some (if twice.lt (unit.times (below + above)) then below else above)
  | true, false => some below
  | false, true => some above
  | false, false => none

/-- Decimals of more and more digits, until one rounds to the number. -/
def shortestFrom (i : Interval) (v : Quotient) (lead : Int) (digits : Nat) : Nat → Nat × Int
  | 0 => (0, 0)
  | more + 1 =>
    let last := lead - digits
    match enclosing? i v (.pow 10 last) with
    | some n => (n, last)
    | none => shortestFrom i v lead (digits + 1) more

/-- **The shortest decimal** that rounds to a number that is not zero: digits and the exponent of
the last of them. The first decimal tried has its last digit in front of the leading one, since the
number may lie just below a power of ten; seventeen digits after that are always enough. -/
def shortest (mantissa : Nat) (exponent : Int) : Nat × Int :=
  let v := Quotient.times mantissa (.pow 2 exponent)
  shortestFrom (interval mantissa exponent) v (leadingExponent v + 1) 0 19

/-- A row of zeros. -/
def zeros (n : Nat) : List Char := List.replicate n '0'

/-- A decimal in positions, with at least one digit on either side of the point. -/
def positional (digits : Nat) (exponent : Int) : String :=
  let ds := Nat.toDigits 10 digits
  if 0 ≤ exponent then String.ofList (ds ++ zeros exponent.toNat ++ ['.', '0'])
  else
    let places := (-exponent).toNat
    let padded := zeros (places + 1 - ds.length) ++ ds
    let whole := padded.length - places
    String.ofList (padded.take whole ++ ['.'] ++ padded.drop whole)

/-- **A number as text.** -/
def text : Binary64 → String
  | .nan => "NaN"
  | .infinite negative => if negative then "-inf" else "inf"
  | .finite negative mantissa exponent =>
    let sign := if negative then "-" else ""
    if mantissa = 0 then sign ++ "0.0"
    else
      let (digits, last) := shortest mantissa exponent
      sign ++ positional digits last

end Binary64

end Reclaim.Number
