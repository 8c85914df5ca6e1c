/-!
# Rounding to the nearest

A quotient rounded to a whole number, a tie going to the even neighbour, and the whole number
nearest to a given one among those with 53 significant bits: the numbers a binary64 holds exactly.
-/

namespace Reclaim.Number

/-- **The whole number nearest to `n / d`**; a tie goes to the even neighbour. -/
def divNearestEven (n d : Nat) : Nat :=
  let q := n / d
  let r := n % d
  if 2 * r < d then q
  else if d < 2 * r then q + 1
  else q + q % 2

/-- The number with at most 53 significant bits nearest to `n`; a tie goes to the even one. -/
def toSignificant53 (n : Nat) : Nat :=
  let unit := 1 <<< (n.log2 - 52)
  divNearestEven n unit * unit

end Reclaim.Number
