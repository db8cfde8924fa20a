import AddressWatch.Json.Value
import AddressWatch.Text.Digits

/-!
Numbers on the command line: decimal digits, with a sign where one is allowed, up to a bound.
-/

namespace AddressWatch.CommandLine.Number

inductive Fault where
  | empty
  | badDigit
  | tooLarge
  | tooSmall
  /-- A number that is not between zero and a bound. -/
  | outside (number : Int) (most : Nat)
deriving DecidableEq, Inhabited

def Fault.message : Fault → String
  | empty => "cannot parse integer from empty string"
  | badDigit => "invalid digit found in string"
  | tooLarge => "number too large to fit in target type"
  | tooSmall => "number too small to fit in target type"
  | outside number most => String.ofList (Json.writeInteger number) ++ " is not in 0..=" ++
      Text.decimal most

/-- The number written by digits after a number already read.  It is read from the left up to the
first digit that is none or that makes it greater than `most`. -/
def digits (most : Nat) (overflow : Fault) : (read : Nat) → List Char → Except Fault Nat
  | read, [] => .ok read
  | read, char :: rest =>
      match Text.digitBelow? 10 char with
      | none => .error .badDigit
      | some digit =>
          if most < read * 10 + digit then .error overflow
          else digits most overflow (read * 10 + digit) rest

/-- A number without a sign, or with a plus. -/
def unsigned (most : Nat) : List Char → Except Fault Nat
  | [] => .error .empty
  | ['+'] => .error .badDigit
  | '+' :: rest => digits most .tooLarge 0 rest
  | text => digits most .tooLarge 0 text

/-- A number with any sign that fits into a word of the given number of bits. -/
def signed (bits : Nat) : List Char → Except Fault Int
  | [] => .error .empty
  | ['-'] => .error .badDigit
  | '-' :: rest => (digits (Nat.pow 2 (bits - 1)) .tooSmall 0 rest).map fun magnitude => -magnitude
  | text => (unsigned (Nat.pow 2 (bits - 1) - 1) text).map fun magnitude => magnitude

def word64 (text : List Char) : Except Fault UInt64 :=
  (unsigned (UInt64.size - 1) text).map UInt64.ofNat

/-- A number of up to 32 bits, read as a longer one first. -/
def word32 (text : List Char) : Except Fault UInt32 :=
  match signed 64 text with
  | .error fault => .error fault
  | .ok number =>
      if 0 ≤ number ∧ number < UInt32.size then .ok (UInt32.ofNat number.toNat)
      else .error (.outside number (UInt32.size - 1))

end AddressWatch.CommandLine.Number
