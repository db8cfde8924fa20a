import AddressWatch.Text.Digits
import AddressWatch.Text.Split

/-!
# Numbers as digits and back

The digits that are written for a number are read as that number.
-/

namespace AddressWatch.Text

theorem digitValue?_digitChar {digit : Nat} (small : digit < 16) :
    digitValue? (Nat.digitChar digit) = some digit := by
  have each : ∀ digit : Fin 16, digitValue? (Nat.digitChar digit) = some digit.val := by decide
  exact each ⟨digit, small⟩

theorem digitBelow?_digitChar {base digit : Nat} (small : base ≤ 16) (below : digit < base) :
    digitBelow? base (Nat.digitChar digit) = some digit := by
  rw [digitBelow?, digitValue?_digitChar (Nat.lt_of_lt_of_le below small), Option.filter_some,
    decide_eq_true below]
  rfl

theorem readDigits?_append (base read : Nat) (text other : List Char) :
    readDigits? base read (text ++ other) =
      (readDigits? base read text).bind (readDigits? base · other) := by
  induction text generalizing read with
  | nil => rfl
  | cons char text inductionHypothesis =>
      rw [List.cons_append, readDigits?, readDigits?]
      cases digitBelow? base char with
      | none => rfl
      | some digit => exact inductionHypothesis _

theorem readDigits?_toDigits {base : Nat} (large : 1 < base) (small : base ≤ 16) (number : Nat) :
    readDigits? base 0 (Nat.toDigits base number) = some number := by
  induction number using Nat.strongRecOn with
  | ind number inductionHypothesis =>
      rcases Nat.lt_or_ge number base with below | above
      · rw [Nat.toDigits_of_lt_base below, readDigits?, digitBelow?_digitChar small below]
        simp [readDigits?]
      · have shorter := inductionHypothesis (number / base) (Nat.div_lt_self (by omega) large)
        rw [Nat.toDigits_of_base_le large above, readDigits?_append, shorter, Option.bind_some,
          readDigits?, digitBelow?_digitChar small (Nat.mod_lt _ (by omega))]
        exact congrArg some (Nat.div_add_mod' number base)

theorem toNat_lt_of_digitValue? {char : Char} {digit : Nat}
    (value : digitValue? char = some digit) : char.toNat < 128 := by
  unfold digitValue? at value
  split at value
  next decimal =>
    have upper : char.toNat ≤ 57 := decimal.2
    omega
  next =>
    split at value
    next lower =>
      have upper : char.toNat ≤ 102 := lower.2
      omega
    next =>
      split at value
      next capital =>
        have upper : char.toNat ≤ 70 := capital.2
        omega
      next => contradiction

/-- A digit in lower case is the one that is written for its value. -/
theorem toLower_eq_digitChar {char : Char} {digit : Nat} (value : digitValue? char = some digit) :
    char.toLower = Nat.digitChar digit := by
  have each : ∀ code : Fin 128, (digitValue? (Char.ofNat code)).all
      (fun digit => (Char.ofNat code).toLower == Nat.digitChar digit) = true := by
    decide
  have own := each ⟨char.toNat, toNat_lt_of_digitValue? value⟩
  rw [Char.ofNat_toNat, value] at own
  exact eq_of_beq own

/-- What is read is the value of digits that, in lower case, are the text. -/
theorem exists_digits_of_readDigits? {base read result : Nat} {text : List Char}
    (number : readDigits? base read text = some result) :
    ∃ digits : List Nat, text.map Char.toLower = digits.map Nat.digitChar ∧
      (∀ digit ∈ digits, digit < base) ∧
      result = digits.foldl (fun value digit => value * base + digit) read := by
  induction text generalizing read with
  | nil =>
      obtain rfl := Option.some.inj number
      exact ⟨[], rfl, by simp, rfl⟩
  | cons char text inductionHypothesis =>
      rw [readDigits?] at number
      split at number
      · contradiction
      next digit below =>
        obtain ⟨value, small⟩ := Option.filter_eq_some_iff.mp below
        obtain ⟨digits, written, bounded, result_eq⟩ := inductionHypothesis number
        refine ⟨digit :: digits, ?_, ?_, result_eq⟩
        · rw [List.map_cons, List.map_cons, toLower_eq_digitChar value, written]
        · exact List.forall_mem_cons.mpr ⟨by simpa using small, bounded⟩

theorem isSome_digitValue?_iff (char : Char) :
    (digitValue? char).isSome = true ↔ IsHexDigit char := by
  unfold digitValue? IsHexDigit
  grind

theorem lt_sixteen_of_digitValue? {char : Char} {digit : Nat}
    (value : digitValue? char = some digit) : digit < 16 := by
  have each : ∀ code : Fin 128, (digitValue? (Char.ofNat code)).all (· < 16) = true := by decide
  have own := each ⟨char.toNat, toNat_lt_of_digitValue? value⟩
  rw [Char.ofNat_toNat, value] at own
  simpa using own

theorem isSome_digitBelow?_sixteen (char : Char) :
    (digitBelow? 16 char).isSome = true ↔ IsHexDigit char := by
  rw [← isSome_digitValue?_iff, digitBelow?]
  cases value : digitValue? char with
  | none => rfl
  | some digit =>
      rw [Option.filter_some, decide_eq_true (lt_sixteen_of_digitValue? value), if_pos rfl]

theorem le_iff_toNat_le (char other : Char) : char ≤ other ↔ char.toNat ≤ other.toNat := Iff.rfl

theorem isDigit_iff (char : Char) : char.isDigit = true ↔ '0' ≤ char ∧ char ≤ '9' := by
  rw [Char.isDigit, Bool.and_eq_true, decide_eq_true_eq, decide_eq_true_eq]
  rfl

/-- A digit below ten is a decimal one. -/
theorem digitBelow?_ten (char : Char) :
    digitBelow? 10 char = if char.isDigit then some (char.toNat - '0'.toNat) else none := by
  have upper (decimal : char ≤ '9') : char.toNat ≤ 57 := decimal
  simp only [isDigit_iff]
  unfold digitBelow? digitValue?
  grind

theorem isSome_digitBelow?_ten (char : Char) :
    (digitBelow? 10 char).isSome = true ↔ char.isDigit = true := by
  rw [digitBelow?_ten]
  split <;> simp_all

theorem isSome_readDigits?_iff (base read : Nat) (text : List Char) :
    (readDigits? base read text).isSome = true ↔
      ∀ char ∈ text, (digitBelow? base char).isSome = true := by
  induction text generalizing read with
  | nil => simp [readDigits?]
  | cons char text inductionHypothesis =>
      rw [readDigits?, List.forall_mem_cons]
      cases digitBelow? base char with
      | none => simp
      | some digit => simpa using inductionHypothesis _

theorem isSome_number?_iff (base most : Nat) (text : List Char) :
    (number? base most text).isSome = true ↔
      text ≠ [] ∧ text.length ≤ most ∧
        ∀ char ∈ text, (digitBelow? base char).isSome = true := by
  unfold number?
  split
  next refused =>
    simp only [Option.isSome_none, Bool.false_eq_true, false_iff]
    rintro ⟨nonempty, short, _⟩
    rcases refused with empty | long
    · exact nonempty empty
    · omega
  next admitted =>
    rw [not_or, Nat.not_lt] at admitted
    rw [isSome_readDigits?_iff]
    exact ⟨fun digits => ⟨admitted.1, admitted.2, digits⟩, fun ⟨_, _, digits⟩ => digits⟩

/-- Decimal digits are read as the number that they write. -/
theorem readDigits?_ten {text : List Char} (digits : ∀ char ∈ text, char.isDigit = true)
    (read : Nat) : readDigits? 10 read text = some (Nat.ofDigitChars 10 text read) := by
  induction text generalizing read with
  | nil => simp [readDigits?]
  | cons char text inductionHypothesis =>
      rw [List.forall_mem_cons] at digits
      rw [readDigits?, digitBelow?_ten, if_pos digits.1, Nat.ofDigitChars_cons, Nat.mul_comm 10]
      exact inductionHypothesis digits.2 _

theorem exists_digit_of_mem_toDigits {base number : Nat} {char : Char} (large : 1 < base)
    (membership : char ∈ Nat.toDigits base number) : ∃ digit < base, char = Nat.digitChar digit := by
  induction number using Nat.strongRecOn with
  | ind number inductionHypothesis =>
      rcases Nat.lt_or_ge number base with below | above
      · rw [Nat.toDigits_of_lt_base below, List.mem_singleton] at membership
        exact ⟨number, below, membership⟩
      · rw [Nat.toDigits_of_base_le large above, List.mem_append, List.mem_singleton] at membership
        rcases membership with front | last
        · exact inductionHypothesis _ (Nat.div_lt_self (by omega) large) front
        · exact ⟨_, Nat.mod_lt _ (by omega), last⟩

theorem toList_decimal (number : Nat) : (decimal number).toList = Nat.toDigits 10 number := by
  rw [decimal, Nat.toString_eq_ofList_toDigits, String.toList_ofList]

theorem toList_hexadecimal (number : Nat) :
    (hexadecimal number).toList = Nat.toDigits 16 number :=
  String.toList_ofList

end AddressWatch.Text
