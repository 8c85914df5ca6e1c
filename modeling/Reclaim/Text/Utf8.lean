/-!
# Bytes read as text

Names on a disk are bytes, and most of them are UTF-8. Two readings serve two needs.

**The strict reading** `decode?` takes a byte string that is UTF-8 as a whole and refuses every
other. `encode` goes back, so a name read strictly is spelled again byte for byte
(`encode_of_decode?`).

**The lossy reading** `lossy` never refuses. Every maximal piece that starts like a character and
breaks off, and every byte that starts none, shows as one U+FFFD. It is a machine that reads one
byte at a time: `Pending` holds the part of the code point read so far and the ranges the next
bytes have to lie in, so a second byte that would make an overlong form, a surrogate or a point
past U+10FFFF breaks the piece before it.
-/

namespace Reclaim.Text

/-- The UTF-8 bytes of a text. -/
def encode (s : String) : List UInt8 := s.toByteArray.data.toList

/-- **The strict reading**: the text whose UTF-8 these bytes are, if there is one. -/
def decode? (bytes : List UInt8) : Option String := String.fromUTF8? ⟨bytes.toArray⟩

/-- What is read strictly is spelled again byte for byte. -/
theorem encode_of_decode? {bytes : List UInt8} {s : String} (h : decode? bytes = some s) :
    encode s = bytes := by
  unfold decode? String.fromUTF8? at h
  split at h
  · cases h
    rfl
  · cases h

/-- Every text is read again from its bytes. -/
@[simp] theorem decode?_encode (s : String) : decode? (encode s) = some s := by
  have h : String.fromUTF8? s.toByteArray = some s := by
    unfold String.fromUTF8?
    rw [dif_pos s.isValidUTF8]
    rfl
  simpa [decode?, encode] using h

@[simp] theorem encode_append (s t : String) : encode (s ++ t) = encode s ++ encode t := by
  simp [encode]

/-- A closed range of bytes. -/
structure ByteRange where
  low : UInt8
  high : UInt8
  deriving DecidableEq, Repr

/-- Whether a byte lies in a range, ends included. -/
def ByteRange.holds (r : ByteRange) (b : UInt8) : Bool := r.low ≤ b && b ≤ r.high

/-- The range of a byte that continues a character, where the lead byte asks for nothing more. -/
def ByteRange.tail : ByteRange := ⟨0x80, 0xBF⟩

/-- Where a lossy reading stands: the code point so far, and the ranges of the bytes still owed. -/
structure Pending where
  value : Nat
  owed : List ByteRange
  deriving DecidableEq, Repr

/-- Between characters. -/
def Pending.none : Pending := ⟨0, []⟩

/-- What a lead byte opens: its share of the code point and the ranges of the bytes after it.
A byte that leads no character opens nothing. -/
def lead? (b : UInt8) : Option Pending :=
  if b ≤ 0x7F then some ⟨b.toNat, []⟩
  else if 0xC2 ≤ b && b ≤ 0xDF then some ⟨b.toNat - 0xC0, [.tail]⟩
  else if b = 0xE0 then some ⟨0, [⟨0xA0, 0xBF⟩, .tail]⟩
  else if b = 0xED then some ⟨0xD, [⟨0x80, 0x9F⟩, .tail]⟩
  else if 0xE1 ≤ b && b ≤ 0xEF then some ⟨b.toNat - 0xE0, [.tail, .tail]⟩
  else if b = 0xF0 then some ⟨0, [⟨0x90, 0xBF⟩, .tail, .tail]⟩
  else if 0xF1 ≤ b && b ≤ 0xF3 then some ⟨b.toNat - 0xF0, [.tail, .tail, .tail]⟩
  else if b = 0xF4 then some ⟨4, [⟨0x80, 0x8F⟩, .tail, .tail]⟩
  else .none

/-- The mark that stands for a piece that is no character. -/
def replacement : Char := '\uFFFD'

/-- A byte read between characters: what it shows at once, and what it leaves owed. -/
def openCharacter (b : UInt8) : List Char × Pending :=
  match lead? b with
  | .none => ([replacement], .none)
  | some ⟨value, []⟩ => ([Char.ofNat value], .none)
  | some pending => ([], pending)

/-- One byte of a lossy reading. A byte that does not continue the character under way breaks it,
and is read again as a first byte. -/
def feed (p : Pending) (b : UInt8) : List Char × Pending :=
  match p.owed with
  | [] => openCharacter b
  | range :: rest =>
    if range.holds b then
      let value := p.value * 64 + (b.toNat - 0x80)
      if rest.isEmpty then ([Char.ofNat value], .none) else ([], ⟨value, rest⟩)
    else
      let (shown, next) := openCharacter b
      (replacement :: shown, next)

/-- The characters a lossy reading shows from a given state. A text that ends inside a character
shows the broken piece. -/
def lossyFrom (p : Pending) : List UInt8 → List Char
  | [] => if p.owed.isEmpty then [] else [replacement]
  | b :: rest => (feed p b).1 ++ lossyFrom (feed p b).2 rest

/-- **The lossy reading** of a byte string. -/
def lossy (bytes : List UInt8) : String := String.ofList (lossyFrom .none bytes)

end Reclaim.Text
