import AddressWatch.Proofs.Text.Digits
import AddressWatch.Text.Percent

/-!
# Graphic text

Numbers and percent-encoded text have neither spaces nor control characters.
-/

namespace AddressWatch.Text

/-- What holds of every code below a bound holds of the characters with these codes. -/
@[elab_as_elim]
theorem of_toNat_lt {motive : Char → Prop} {bound : Nat} (char : Char)
    (small : char.toNat < bound) (each : ∀ code : Fin bound, motive (Char.ofNat code)) :
    motive char := by
  have own := each ⟨char.toNat, small⟩
  rwa [Char.ofNat_toNat] at own

/-- Whether a character is neither a control character nor the space. -/
def isGraphic (char : Char) : Bool := 0x20 < char.toNat && char.toNat != 0x7f

theorem isGraphic_digitChar {digit : Nat} (small : digit < 16) :
    isGraphic (Nat.digitChar digit) = true := by
  have each : ∀ digit : Fin 16, isGraphic (Nat.digitChar digit) = true := by decide
  exact each ⟨digit, small⟩

theorem all_isGraphic_toDigits {base : Nat} (large : 1 < base) (small : base ≤ 16) (number : Nat) :
    (Nat.toDigits base number).all isGraphic = true := by
  rw [List.all_eq_true]
  intro char membership
  obtain ⟨digit, below, rfl⟩ := exists_digit_of_mem_toDigits large membership
  exact isGraphic_digitChar (Nat.lt_of_lt_of_le below small)

theorem all_isGraphic_decimal (number : Nat) : (decimal number).toList.all isGraphic = true := by
  rw [toList_decimal]
  exact all_isGraphic_toDigits (by decide) (by decide) number

theorem all_isGraphic_hexadecimal (number : Nat) :
    (hexadecimal number).toList.all isGraphic = true := by
  rw [toList_hexadecimal]
  exact all_isGraphic_toDigits (by decide) (by decide) number

namespace Percent

theorem isGraphic_toUpper_digitChar {digit : Nat} (small : digit < 16) :
    isGraphic (Nat.digitChar digit).toUpper = true := by
  have each : ∀ digit : Fin 16, isGraphic (Nat.digitChar digit).toUpper = true := by decide
  exact each ⟨digit, small⟩

theorem all_isGraphic_encodeByte (byte : UInt8) : (encodeByte byte).all isGraphic = true := by
  have bounded := byte.toNat_lt
  have high := isGraphic_toUpper_digitChar (show byte.toNat / 16 < 16 by omega)
  have low := isGraphic_toUpper_digitChar (show byte.toNat % 16 < 16 by omega)
  simp only [encodeByte, List.all_cons, List.all_nil, high, low]
  decide

theorem all_isGraphic_encode {keeps : Char → Bool}
    (graphic : ∀ char, keeps char = true → isGraphic char = true) (text : List Char) :
    (encode keeps text).all isGraphic = true := by
  rw [encode, List.all_flatMap, List.all_eq_true]
  intro char _
  cases kept : keeps char with
  | true => simp [graphic char kept]
  | false => simp only [Bool.false_eq_true, if_false, List.all_flatMap, all_isGraphic_encodeByte,
      List.all_eq_true, implies_true]

theorem isGraphic_of_isPrintable {char : Char} (printable : isPrintable char = true)
    (notSpace : char ≠ ' ') : isGraphic char = true := by
  have code : char.toNat ≠ 0x20 := by
    intro same
    apply notSpace
    rw [← Char.ofNat_toNat char, same]
  simp only [isPrintable, Bool.and_eq_true, decide_eq_true_eq] at printable
  simp only [isGraphic, Bool.and_eq_true, decide_eq_true_eq, bne_iff_ne]
  omega

theorem isGraphic_of_keepsInPath {char : Char} (kept : keepsInPath char = true) :
    isGraphic char = true := by
  rw [keepsInPath, Bool.and_eq_true] at kept
  refine isGraphic_of_isPrintable kept.1 ?_
  rintro rfl
  exact absurd kept.2 (by decide)

theorem isGraphic_of_keepsInQuery {special : Bool} {char : Char}
    (kept : keepsInQuery special char = true) : isGraphic char = true := by
  rw [keepsInQuery, Bool.and_eq_true, Bool.and_eq_true] at kept
  refine isGraphic_of_isPrintable kept.1.1 ?_
  rintro rfl
  exact absurd kept.1.2 (by decide)

end Percent

end AddressWatch.Text
