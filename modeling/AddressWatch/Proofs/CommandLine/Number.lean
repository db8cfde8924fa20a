import AddressWatch.CommandLine.Number
import AddressWatch.Proofs.Text.Digits

/-!
# Digits on the command line

A number is read from its left up to the first digit that makes it too large.  What is read of digits
alone is nevertheless decided by the number that all of them write.
-/

namespace AddressWatch.CommandLine.Number

variable {most : Nat} {overflow : Fault} {text : List Char}

theorem le_ofDigitChars (text : List Char) (read : Nat) : read ≤ Nat.ofDigitChars 10 text read := by
  induction text generalizing read with
  | nil => simp
  | cons char text inductionHypothesis =>
      rw [Nat.ofDigitChars_cons]
      have := inductionHypothesis (10 * read + (char.toNat - '0'.toNat))
      omega

theorem digits_of_isDigit (decimal : ∀ char ∈ text, char.isDigit = true) {read : Nat}
    (room : read ≤ most) :
    digits most overflow read text =
      if Nat.ofDigitChars 10 text read ≤ most then .ok (Nat.ofDigitChars 10 text read)
      else .error overflow := by
  induction text generalizing read with
  | nil => simp [digits, room]
  | cons char text inductionHypothesis =>
      rw [List.forall_mem_cons] at decimal
      have grown := le_ofDigitChars text (10 * read + (char.toNat - '0'.toNat))
      rw [digits, Text.digitBelow?_ten, if_pos decimal.1, Nat.ofDigitChars_cons]
      simp only [Nat.mul_comm read 10]
      split
      next large => rw [if_neg (by omega)]
      next => exact inductionHypothesis decimal.2 (by omega)

theorem unsigned_of_isDigit (decimal : ∀ char ∈ text, char.isDigit = true) (some : text ≠ []) :
    unsigned most text =
      if Nat.ofDigitChars 10 text 0 ≤ most then .ok (Nat.ofDigitChars 10 text 0)
      else .error .tooLarge := by
  have unsigned_eq : unsigned most text = digits most .tooLarge 0 text := by
    unfold unsigned
    split
    · exact absurd rfl some
    · exact absurd (decimal '+' List.mem_cons_self) (by decide)
    · exact absurd (decimal '+' List.mem_cons_self) (by decide)
    · rfl
  rw [unsigned_eq, digits_of_isDigit decimal (Nat.zero_le most)]

theorem signed_of_isDigit {bits : Nat} (decimal : ∀ char ∈ text, char.isDigit = true)
    (some : text ≠ []) :
    signed bits text =
      if Nat.ofDigitChars 10 text 0 ≤ Nat.pow 2 (bits - 1) - 1 then
        .ok (Nat.ofDigitChars 10 text 0 : Int)
      else .error .tooLarge := by
  unfold signed
  split
  · exact absurd rfl some
  · exact absurd (decimal '-' List.mem_cons_self) (by decide)
  · exact absurd (decimal '-' List.mem_cons_self) (by decide)
  · rw [unsigned_of_isDigit decimal some]
    split <;> rfl

theorem word64_of_isDigit (decimal : ∀ char ∈ text, char.isDigit = true) (some : text ≠ []) :
    word64 text =
      if Nat.ofDigitChars 10 text 0 < UInt64.size then .ok (.ofNat (Nat.ofDigitChars 10 text 0))
      else .error .tooLarge := by
  have bound : Nat.ofDigitChars 10 text 0 ≤ UInt64.size - 1 ↔
      Nat.ofDigitChars 10 text 0 < UInt64.size :=
    Nat.le_sub_one_iff_lt (by decide)
  simp only [word64, unsigned_of_isDigit decimal some, bound]
  split <;> rfl

/-- A number that is too long for the shorter word is named in the refusal if it fits into the longer
one. -/
theorem word32_of_isDigit (decimal : ∀ char ∈ text, char.isDigit = true) (some : text ≠ []) :
    word32 text =
      if Nat.ofDigitChars 10 text 0 < UInt32.size then .ok (.ofNat (Nat.ofDigitChars 10 text 0))
      else if Nat.ofDigitChars 10 text 0 < Nat.pow 2 63 then
        .error (.outside (Nat.ofDigitChars 10 text 0) (UInt32.size - 1))
      else .error .tooLarge := by
  have bound : Nat.ofDigitChars 10 text 0 ≤ Nat.pow 2 (64 - 1) - 1 ↔
      Nat.ofDigitChars 10 text 0 < Nat.pow 2 63 :=
    Nat.le_sub_one_iff_lt (by decide)
  have shorter : UInt32.size < Nat.pow 2 63 := by decide
  simp only [word32, signed_of_isDigit decimal some, bound]
  generalize Nat.ofDigitChars 10 text 0 = number
  have fits : (0 ≤ (number : Int) ∧ (number : Int) < UInt32.size) ↔ number < UInt32.size := by
    omega
  by_cases long : number < Nat.pow 2 63
  · rw [if_pos long, if_pos long]
    simp only [fits, Int.toNat_natCast]
  · rw [if_neg long, if_neg long, if_neg fun fits => long (Nat.lt_trans fits shorter)]

theorem word64_decimal (number : UInt64) :
    word64 (Text.decimal number.toNat).toList = .ok number := by
  rw [Text.toList_decimal, word64_of_isDigit, Nat.ofDigitChars_ten_toDigits,
    if_pos number.toNat_lt, UInt64.ofNat_toNat]
  · exact fun char => Nat.isDigit_of_mem_toDigits (by decide) (by decide)
  · exact Nat.toDigits_ne_nil

theorem word32_decimal (number : UInt32) :
    word32 (Text.decimal number.toNat).toList = .ok number := by
  rw [Text.toList_decimal, word32_of_isDigit, Nat.ofDigitChars_ten_toDigits,
    if_pos number.toNat_lt, UInt32.ofNat_toNat]
  · exact fun char => Nat.isDigit_of_mem_toDigits (by decide) (by decide)
  · exact Nat.toDigits_ne_nil

end AddressWatch.CommandLine.Number
