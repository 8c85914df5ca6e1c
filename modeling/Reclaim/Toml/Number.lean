import Reclaim.Toml.Text
import Reclaim.Toml.Value

/-!
# Numbers of a document

Whole numbers in decimal, with or without a sign, or after `0x`, `0o` and `0b`; and numbers with a
point or an exponent. An underscore may stand between two digits. A decimal whole number has no
leading zero, and every whole number fits in 64 bits with a sign. A number too large to be finite is
refused, unless it is negative.
-/

namespace Reclaim.Toml

open Number

/-- Digits of a base that follow a digit, with single underscores between. -/
def moreDigits (isDigit : Char → Bool) : Reader (List Char)
  | [] => some ([], [])
  | ['_'] => none
  | '_' :: c :: rest => if isDigit c then prepend [c] (moreDigits isDigit rest) else none
  | c :: rest =>
    if isDigit c then prepend [c] (moreDigits isDigit rest) else some ([], c :: rest)

/-- One digit or more. -/
def someDigits (isDigit : Char → Bool) : Reader (List Char)
  | [] => none
  | c :: rest => if isDigit c then prepend [c] (moreDigits isDigit rest) else none

/-- The number that digits stand for in a base. -/
def valueOf (base : Nat) (digits : List Char) : Nat :=
  digits.foldl (fun n c => base * n + (hexValue? c).getD 0) 0

/-- Whether a whole number fits in 64 bits with a sign. -/
def fits64 (n : Int) : Bool := Int64.minValue.toInt ≤ n && n ≤ Int64.maxValue.toInt

/-- A sign, if there is one, and whether it is a minus. -/
def takeSign : List Char → Bool × List Char
  | '-' :: rest => (true, rest)
  | '+' :: rest => (false, rest)
  | cs => (false, cs)

/-- The digits before a point: a zero alone, or digits that do not start with one. -/
def wholeDigits : Reader (List Char)
  | '0' :: rest => some (['0'], rest)
  | cs => someDigits Char.isDigit cs

/-- The exponent after `e`. -/
def readExponent (cs : List Char) : Option (Int × List Char) := do
  let (negative, cs) := takeSign cs
  let (digits, rest) ← someDigits Char.isDigit cs
  let n : Int := valueOf 10 digits
  return (if negative then -n else n, rest)

/-- Whether a text goes on with an exponent. -/
def startsExponent : List Char → Bool
  | 'e' :: _ | 'E' :: _ => true
  | _ => false

/-- A number that is not whole, unless it is too large. -/
def floatValue (negative : Bool) (digits : List Char) (exponent : Int) : Option Value :=
  match Binary64.ofDecimal negative (valueOf 10 digits) exponent with
  | .infinite false => none
  | x => some (.float x)

/-- What follows the digits before the point: a fraction, an exponent, both, or neither. -/
def afterWhole (negative : Bool) (whole : List Char) (cs : List Char) :
    Option (Value × List Char) :=
  match cs with
  | '.' :: rest => do
    let (fraction, rest) ← someDigits Char.isDigit rest
    let (exponent, rest) ← if startsExponent rest then readExponent rest.tail else some (0, rest)
    return (← floatValue negative (whole ++ fraction) (exponent - fraction.length), rest)
  | _ =>
    if startsExponent cs then do
      let (exponent, rest) ← readExponent cs.tail
      return (← floatValue negative whole exponent, rest)
    else
      let n : Int := valueOf 10 whole
      let n := if negative then -n else n
      if fits64 n then some (.integer n, cs) else none

/-- A whole number in a base other than ten. -/
def readBased (base : Nat) (isDigit : Char → Bool) : Reader Value := fun cs => do
  let (digits, rest) ← someDigits isDigit cs
  let n : Int := valueOf base digits
  if fits64 n then return (.integer n, rest) else none

/-- Whether a character is a hexadecimal digit. -/
def isHexDigit (c : Char) : Bool := (hexValue? c).isSome

/-- Whether a character is an octal digit. -/
def isOctalDigit (c : Char) : Bool := '0' ≤ c && c ≤ '7'

/-- Whether a character is a binary digit. -/
def isBinaryDigit (c : Char) : Bool := c = '0' || c = '1'

/-- **A number**, from its sign or first digit. -/
def readNumber (cs : List Char) : Option (Value × List Char) :=
  match cs with
  | '0' :: 'x' :: rest => readBased 16 isHexDigit rest
  | '0' :: 'o' :: rest => readBased 8 isOctalDigit rest
  | '0' :: 'b' :: rest => readBased 2 isBinaryDigit rest
  | _ =>
    let (negative, unsigned) := takeSign cs
    match unsigned with
    | 'i' :: 'n' :: 'f' :: rest => some (.float (.infinite negative), rest)
    | 'n' :: 'a' :: 'n' :: rest => some (.float .nan, rest)
    | _ => do
      let (whole, rest) ← wholeDigits unsigned
      afterWhole negative whole rest

end Reclaim.Toml
