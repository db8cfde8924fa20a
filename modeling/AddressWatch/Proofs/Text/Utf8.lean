import AddressWatch.Text.Utf8
import Mathlib.Tactic.SplitIfs

/-!
# Text as bytes and back

The bytes of a text are read as that text.  Every character is read from its own bytes, so this needs to
be shown for one character only: its first byte opens it, and each of the others lies in the range that
is expected next.
-/

namespace AddressWatch.Text.Utf8

theorem encode_append (text other : List Char) :
    encode (text ++ other) = encode text ++ encode other :=
  List.flatMap_append

theorem encode_cons (char : Char) (text : List Char) :
    encode (char :: text) = String.utf8EncodeChar char ++ encode text := rfl

theorem utf8EncodeChar_of_lt {char : Char} (isAscii : char.toNat < 0x80) :
    String.utf8EncodeChar char = [UInt8.ofNat char.toNat] := by
  have small : char.val.toNat ≤ 127 := Nat.le_of_lt_succ isAscii
  simp only [String.utf8EncodeChar, small, if_true]
  rfl

/-- No byte of a longer character is the code of an ASCII character. -/
theorem le_of_mem_utf8EncodeChar {char : Char} (notAscii : 0x80 ≤ char.toNat) {byte : UInt8}
    (membership : byte ∈ String.utf8EncodeChar char) : 0x80 ≤ byte.toNat := by
  have large : ¬char.val.toNat ≤ 127 := Nat.not_le_of_lt notAscii
  have above {value : Nat} (low : 128 ≤ value) (high : value < 256) :
      0x80 ≤ (UInt8.ofNat value).toNat := by
    rw [UInt8.toNat_ofNat_of_lt' high]
    exact low
  simp only [String.utf8EncodeChar, large, if_false] at membership
  split_ifs at membership <;>
    simp only [List.mem_cons, List.not_mem_nil, or_false] at membership <;>
    rcases membership with rfl | rfl | rfl | rfl <;> exact above (by omega) (by omega)

/-- A byte in the expected range goes on with the character that has been begun. -/
theorem step_pending {done : List Char} {missing bits low high value : Nat}
    (bounded : low ≤ value % 64 + 128 ∧ value % 64 + 128 ≤ high) :
    Reading.step ⟨done, some ⟨missing, bits, low, high⟩⟩ (UInt8.ofNat (value % 64 + 128)) =
      if missing = 1 then ⟨Char.ofNat (bits * 64 + value % 64) :: done, none⟩
      else ⟨done, some ⟨missing - 1, bits * 64 + value % 64, 0x80, 0xbf⟩⟩ := by
  have code : (UInt8.ofNat (value % 64 + 128)).toNat = value % 64 + 128 :=
    UInt8.toNat_ofNat_of_lt' (show value % 64 + 128 < 256 by omega)
  have low_bits : (value % 64 + 128) % 64 = value % 64 := by omega
  simp only [Reading.step, code, if_pos bounded, low_bits]

/-- The first byte of a character opens it. -/
theorem step_start {done : List Char} {value : Nat} {pending : Unfinished} (small : value < 256)
    (opens : opening value = .longer pending) :
    Reading.step ⟨done, none⟩ (UInt8.ofNat value) = ⟨done, some pending⟩ := by
  simp only [Reading.step, UInt8.toNat_ofNat_of_lt' small, Reading.start, opens]

theorem opening_two {code : Nat} (low : 0x80 ≤ code) (high : code ≤ 0x7ff) :
    opening (code / 64 % 32 + 192) = .longer ⟨1, code / 64, 0x80, 0xbf⟩ := by
  have bits : (code / 64 % 32 + 192) % 32 = code / 64 := by omega
  unfold opening
  rw [if_neg (by omega), if_pos (by omega), bits]

theorem opening_three {code : Nat} (low : 0x800 ≤ code) (high : code ≤ 0xffff)
    (scalar : code < 0xd800 ∨ 0xdfff < code) :
    ∃ least most, opening (code / 4096 % 16 + 224) = .longer ⟨2, code / 4096, least, most⟩ ∧
      least ≤ code / 64 % 64 + 128 ∧ code / 64 % 64 + 128 ≤ most := by
  have bits : (code / 4096 % 16 + 224) % 16 = code / 4096 := by omega
  unfold opening
  rw [if_neg (by omega), if_neg (by omega)]
  split_ifs with first surrogate
  · refine ⟨0xa0, 0xbf, ?_, by omega, by omega⟩
    rw [show code / 4096 = 0 by omega]
  · refine ⟨0x80, 0x9f, ?_, by omega, by omega⟩
    rw [show code / 4096 = 13 by omega]
  · exact ⟨0x80, 0xbf, by rw [bits], by omega, by omega⟩
  all_goals omega

theorem opening_four {code : Nat} (low : 0x10000 ≤ code) (high : code < 0x110000) :
    ∃ least most, opening (code / 262144 % 8 + 240) = .longer ⟨3, code / 262144, least, most⟩ ∧
      least ≤ code / 4096 % 64 + 128 ∧ code / 4096 % 64 + 128 ≤ most := by
  have bits : (code / 262144 % 8 + 240) % 8 = code / 262144 := by omega
  unfold opening
  rw [if_neg (by omega), if_neg (by omega), if_neg (by omega), if_neg (by omega), if_neg (by omega)]
  split_ifs with first middle last
  · refine ⟨0x90, 0xbf, ?_, by omega, by omega⟩
    rw [show code / 262144 = 0 by omega]
  · exact ⟨0x80, 0xbf, by rw [bits], by omega, by omega⟩
  · refine ⟨0x80, 0x8f, ?_, by omega, by omega⟩
    rw [show code / 262144 = 4 by omega]
  all_goals omega

/-- A character is read from its bytes. -/
theorem foldl_step_utf8EncodeChar (char : Char) (done : List Char) :
    (String.utf8EncodeChar char).foldl Reading.step ⟨done, none⟩ = ⟨char :: done, none⟩ := by
  have self : Char.ofNat char.toNat = char := Char.ofNat_toNat char
  have scalar : char.toNat < 0xd800 ∨ (0xdfff < char.toNat ∧ char.toNat < 0x110000) := char.valid
  have code : char.val.toNat = char.toNat := rfl
  simp only [String.utf8EncodeChar, code]
  generalize char.toNat = number at self scalar
  -- One case for each number of bytes.
  split_ifs with one two three
  · have small : number < 256 := by omega
    have whole : opening number = .whole (Char.ofNat number) := if_pos (by omega)
    simp only [List.foldl_cons, List.foldl_nil, Reading.step, UInt8.toNat_ofNat_of_lt' small,
      Reading.start, whole, self]
  · have bits : number / 64 * 64 + number % 64 = number := by omega
    rw [List.foldl_cons, step_start (by omega) (opening_two (by omega) two), List.foldl_cons,
      step_pending (by omega), if_pos rfl, bits, self]
    rfl
  · obtain ⟨least, most, opens, bounded⟩ :=
      opening_three (show 0x800 ≤ number by omega) three (by omega)
    have bits : (number / 4096 * 64 + number / 64 % 64) * 64 + number % 64 = number := by omega
    rw [List.foldl_cons, step_start (by omega) opens, List.foldl_cons, step_pending bounded,
      if_neg (by decide), List.foldl_cons, step_pending (by omega), if_pos (by decide), bits, self]
    rfl
  · obtain ⟨least, most, opens, bounded⟩ := opening_four (show 0x10000 ≤ number by omega) (by omega)
    have bits : ((number / 262144 * 64 + number / 4096 % 64) * 64 + number / 64 % 64) * 64 +
        number % 64 = number := by omega
    rw [List.foldl_cons, step_start (by omega) opens, List.foldl_cons, step_pending bounded,
      if_neg (by decide), List.foldl_cons, step_pending (by omega), if_neg (by decide),
      List.foldl_cons, step_pending (by omega), if_pos (by decide), bits, self]
    rfl

theorem foldl_step_encode (text done : List Char) :
    (encode text).foldl Reading.step ⟨done, none⟩ = ⟨text.reverse ++ done, none⟩ := by
  induction text generalizing done with
  | nil => rfl
  | cons char text inductionHypothesis =>
      rw [encode_cons, List.foldl_append, foldl_step_utf8EncodeChar, inductionHypothesis,
        List.reverse_cons, List.append_assoc, List.singleton_append]

theorem decode_encode (text : List Char) : decode (encode text) = text := by
  rw [decode, foldl_step_encode, List.append_nil]
  exact List.reverse_reverse text

end AddressWatch.Text.Utf8
