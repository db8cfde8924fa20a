/-!
Reading numbers: digits in a base up to sixteen, and runs of them of bounded length.
-/

namespace AddressWatch.Text

/-- The value of a hexadecimal digit of either case. -/
def digitValue? (char : Char) : Option Nat :=
  if '0' ≤ char ∧ char ≤ '9' then some (char.toNat - '0'.toNat)
  else if 'a' ≤ char ∧ char ≤ 'f' then some (char.toNat - 'a'.toNat + 10)
  else if 'A' ≤ char ∧ char ≤ 'F' then some (char.toNat - 'A'.toNat + 10)
  else none

/-- A hexadecimal digit of either case. -/
def IsHexDigit (char : Char) : Prop :=
  ('0' ≤ char ∧ char ≤ '9') ∨ ('a' ≤ char ∧ char ≤ 'f') ∨ ('A' ≤ char ∧ char ≤ 'F')

/-- The value of a digit below `base`. -/
def digitBelow? (base : Nat) (char : Char) : Option Nat :=
  (digitValue? char).filter (· < base)

/-- The number written by digits below `base` after a number already read. -/
def readDigits? (base : Nat) : (read : Nat) → List Char → Option Nat
  | read, [] => some read
  | read, char :: rest =>
      match digitBelow? base char with
      | none => none
      | some digit => readDigits? base (read * base + digit) rest

/-- The number written by at least one and at most `most` digits below `base`. -/
def number? (base most : Nat) (text : List Char) : Option Nat :=
  if text = [] ∨ most < text.length then none else readDigits? base 0 text

end AddressWatch.Text
