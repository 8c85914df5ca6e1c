import Reclaim.Suffixes
import Reclaim.Path.Basic

/-!
# Suffixes in force, byte by byte

A suffix is checked as a text and put behind a path as bytes. In UTF-8 the two agree on the separator:
a byte below 0x80 stands for itself and is part of no other character (`Text.mem_encode_ascii`). So a
suffix in force brings no separator into a path and is never empty (`isSuffix_bytes`).
-/

namespace Reclaim

namespace Text

theorem encode_eq_flatMap (s : String) : encode s = s.toList.flatMap String.utf8EncodeChar := by
  unfold encode
  rw [← String.utf8Encode_toList, List.utf8Encode, List.data_toByteArray]

theorem encode_injective : Function.Injective encode := by
  intro s t h
  have read := decode?_encode s
  rw [h, decode?_encode] at read
  exact (Option.some.inj read).symm

/-- The bytes of a character beyond ASCII are beyond ASCII. -/
theorem le_of_mem_utf8EncodeChar {c : Char} {b : UInt8} (wide : 0x80 ≤ c.val.toNat)
    (h : b ∈ String.utf8EncodeChar c) : 0x80 ≤ b.toNat := by
  unfold String.utf8EncodeChar at h
  dsimp only at h
  rw [if_neg (by omega)] at h
  split at h
  · simp only [List.mem_cons, List.not_mem_nil, or_false] at h
    rcases h with rfl | rfl <;> rw [UInt8.toNat_ofNat'] <;> omega
  split at h
  · simp only [List.mem_cons, List.not_mem_nil, or_false] at h
    rcases h with rfl | rfl | rfl <;> rw [UInt8.toNat_ofNat'] <;> omega
  · simp only [List.mem_cons, List.not_mem_nil, or_false] at h
    rcases h with rfl | rfl | rfl | rfl <;> rw [UInt8.toNat_ofNat'] <;> omega

/-- **An ASCII byte of a text is an ASCII character of it.** -/
theorem mem_encode_ascii {s : String} {b : UInt8} (ascii : b.toNat < 0x80) (h : b ∈ encode s) :
    ∃ c ∈ s.toList, c.val.toNat = b.toNat := by
  rw [encode_eq_flatMap] at h
  obtain ⟨c, hc, hb⟩ := List.mem_flatMap.mp h
  refine ⟨c, hc, ?_⟩
  by_cases wide : 0x80 ≤ c.val.toNat
  · have := le_of_mem_utf8EncodeChar wide hb
    omega
  · unfold String.utf8EncodeChar at hb
    dsimp only at hb
    rw [if_pos (by omega), List.mem_singleton] at hb
    rw [hb, UInt8.toNat_ofNat']
    omega

theorem encode_ne_nil {s : String} (h : s.toList ≠ []) : encode s ≠ [] := by
  obtain ⟨c, rest, hs⟩ := List.exists_cons_of_ne_nil h
  rw [encode_eq_flatMap, hs, List.flatMap_cons]
  exact fun e => String.utf8EncodeChar_ne_nil (List.append_eq_nil_iff.mp e).1

end Text

/-- **A suffix in force brings no separator into a path, and is not empty.** -/
theorem isSuffix_bytes {value : String} (h : isSuffix value = true) :
    Text.encode value ≠ [] ∧ slash ∉ Text.encode value := by
  unfold isSuffix at h
  split at h
  · rename_i rest hvalue
    obtain ⟨-, noSlash⟩ := Bool.and_eq_true_iff.mp h
    refine ⟨Text.encode_ne_nil (hvalue ▸ List.cons_ne_nil _ _), fun hmem => ?_⟩
    obtain ⟨c, hc, same⟩ := Text.mem_encode_ascii (by decide) hmem
    obtain rfl : c = '/' := Char.ext (UInt32.toNat_inj.mp same)
    rw [hvalue] at hc
    rcases List.mem_cons.mp hc with e | hrest
    · cases e
    · simp [hrest] at noSlash
  · cases h

namespace Suffixes

theorem isSuffix_of_checkOne {key : SuffixKey} {value : String}
    (h : checkOne key value = .ok ()) : isSuffix value = true := by
  unfold checkOne at h
  split at h
  · assumption
  · cases h

/-- Suffixes that pass the check are suffixes, both of them. -/
theorem isSuffix_of_check {s : Suffixes} (h : s.check = .ok ()) :
    isSuffix s.management = true ∧ isSuffix s.note = true := by
  unfold check at h
  cases hm : checkOne .management s.management with
  | error e =>
    rw [hm] at h
    cases h
  | ok =>
    rw [hm] at h
    exact ⟨isSuffix_of_checkOne hm, isSuffix_of_checkOne h⟩

end Suffixes

end Reclaim
