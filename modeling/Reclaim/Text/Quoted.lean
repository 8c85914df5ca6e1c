import Reclaim.Text.Unprintable
import Reclaim.Text.GraphemeExtend

/-!
# Texts in quotes

How a name or a suffix is shown where its exact characters matter: between double quotes, with a
quote and a backslash behind a backslash, the common controls by letter (`\0`, `\t`, `\n`, `\r`),
and every other character that would not show for itself by its number in hexadecimal digits,
between braces after `\u`. All other characters, the single quote among them, stand as they are.

**What does not show for itself** is more and less than the two tables say. The fillers of Hangul
count as letters, but nothing is printed for them. The halfwidth voicing marks of katakana extend
the character before them, but take a place of their own.
-/

namespace Reclaim.Text

/-- A character by its number, in lower-case hexadecimal digits without leading zeros. -/
def numbered (c : Char) : List Char :=
  ['\\', 'u', '\x7b'] ++ Nat.toDigits 16 c.toNat ++ ['\x7d']

/-- The fillers of Hangul: letters that hold the place of a missing one and show as nothing. -/
def isFiller (c : Char) : Bool :=
  c = '\u115F' || c = '\u1160' || c = '\u3164' || c = '\uFFA0'

/-- The halfwidth voicing marks of katakana: letters with a width of their own, which show. -/
def isVoicingLetter (c : Char) : Bool := c = '\uFF9E' || c = '\uFF9F'

/-- Whether a character would not show for itself. -/
def isHidden (c : Char) : Bool :=
  isUnprintable c || isFiller c || (extendsGrapheme c && !isVoicingLetter c)

/-- A character as it stands between the quotes. -/
def escaped (c : Char) : List Char :=
  if c = '\x22' || c = '\\' then ['\\', c]
  else if c = '\x00' then ['\\', '0']
  else if c = '\t' then ['\\', 't']
  else if c = '\n' then ['\\', 'n']
  else if c = '\r' then ['\\', 'r']
  else if isHidden c then numbered c
  else [c]

/-- **A text in quotes.** -/
def quoted (s : String) : String :=
  String.ofList ('\x22' :: s.toList.flatMap escaped ++ ['\x22'])

end Reclaim.Text
