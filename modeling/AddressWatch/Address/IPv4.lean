import AddressWatch.Text.Digits
import AddressWatch.Text.Split

/-!
Version 4 addresses as dotted quads.
-/

namespace AddressWatch

/-- A version 4 address by its four octets, most significant first. -/
structure IPv4 where
  octets : List UInt8
  size : octets.length = 4

namespace IPv4

/-- An octet is a decimal number below 256 of at most three digits; only zero begins with zero. -/
def octet? (text : List Char) : Option UInt8 :=
  if text.head? = some '0' ∧ text ≠ ['0'] then none
  else
    match Text.number? 10 3 text with
    | none => none
    | some value => if value < 256 then some (UInt8.ofNat value) else none

def parse? (text : List Char) : Option IPv4 :=
  match (Text.splitAt '.' text).mapM octet? with
  | none => none
  | some octets => if size : octets.length = 4 then some ⟨octets, size⟩ else none

def text (address : IPv4) : String :=
  ".".intercalate (address.octets.map fun octet => Text.decimal octet.toNat)

/-- The address as two groups of sixteen bits. -/
def groups (address : IPv4) : List UInt16 :=
  match address.octets with
  | [first, second, third, fourth] =>
      [first.toUInt16 * 256 + second.toUInt16, third.toUInt16 * 256 + fourth.toUInt16]
  | _ => []

end IPv4

end AddressWatch
