import Reclaim.Number.Rounding

/-!
# Sizes for people

A count of bytes in the binary units, each 1024 times the one before. The count is first taken to
the nearest number of 53 significant bits; the largest unit of which it holds at least one is
chosen; and the quotient is written with two decimals, or with none where it is whole. The decimals
round to the nearest, a tie to the even one, after the unit is chosen: so a count just below a unit
may show as `1024.00` of the unit before.
-/

namespace Reclaim.Text

open Number

/-- The units above the byte, from the smallest. -/
def largerUnits : List String := ["KiB", "MiB", "GiB", "TiB", "PiB", "EiB", "ZiB", "YiB"]

/-- Two decimal digits. -/
def twoDigits (n : Nat) : String :=
  String.ofList [Nat.digitChar (n / 10 % 10), Nat.digitChar (n % 10)]

/-- The quotient `n / d` with two decimals, or none where the fraction is at most 2^-52. -/
def quotientText (n d : Nat) : String :=
  if (n % d) <<< 52 ≤ d then toString (n / d)
  else
    let hundredths := divNearestEven (100 * n) d
    toString (hundredths / 100) ++ "." ++ twoDigits (hundredths % 100)

/-- A size in a given unit of `d` bytes, or in one of the larger units if it reaches the next. -/
def sizeIn (n d : Nat) (unit : String) : List String → String
  | [] => quotientText n d ++ " " ++ unit
  | next :: larger =>
    if n < 1024 * d then quotientText n d ++ " " ++ unit
    else sizeIn n (1024 * d) next larger

/-- **The size text** of a count of bytes. -/
def byteSize (bytes : Nat) : String := sizeIn (toSignificant53 bytes) 1 "B" largerUnits

end Reclaim.Text
