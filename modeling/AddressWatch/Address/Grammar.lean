import AddressWatch.Text.Digits

/-!
The grammar of addresses: which texts denote an address of either version, said apart from how they
are read.
-/

namespace AddressWatch

namespace IPv4

/-- One to three decimal digits of a number up to 255, without a zero in front of others. -/
structure IsOctet (text : List Char) : Prop where
  ne_nil : text ≠ []
  length_le : text.length ≤ 3
  isDigit : ∀ char ∈ text, char.isDigit = true
  value_le : Nat.ofDigitChars 10 text 0 ≤ 255
  eq_zero : text.head? = some '0' → text = ['0']

/-- A dotted quad: four octets with a dot between any two neighbours. -/
inductive IsText : List Char → Prop
  | quad {octets : List (List Char)} (four : octets.length = 4)
      (each : ∀ octet ∈ octets, IsOctet octet) : IsText (['.'].intercalate octets)

end IPv4

namespace IPv6

/-- One to four hexadecimal digits. -/
structure IsGroup (text : List Char) : Prop where
  ne_nil : text ≠ []
  length_le : text.length ≤ 4
  isHexDigit : ∀ char ∈ text, Text.IsHexDigit char

/-- Pieces that stand for so many groups.  Each is a group itself, but the last one may be a dotted
quad, which stands for two. -/
inductive Stands : List (List Char) → Nat → Prop
  | nothing : Stands [] 0
  | quad {text : List Char} (isQuad : IPv4.IsText text) : Stands [text] 2
  | group {text : List Char} {rest : List (List Char)} {count : Nat} (isGroup : IsGroup text)
      (following : Stands rest count) : Stands (text :: rest) (count + 1)

/-- Eight groups between colons, or at most seven around a gap of two colons.  There is no dotted quad
before the gap. -/
inductive IsText : List Char → Prop
  | whole {pieces : List (List Char)} (eight : Stands pieces 8) :
      IsText ([':'].intercalate pieces)
  | gap {head tail : List (List Char)} {count : Nat} (before : ∀ group ∈ head, IsGroup group)
      (after : Stands tail count) (room : head.length + count ≤ 7) :
      IsText ([':'].intercalate head ++ ':' :: ':' :: [':'].intercalate tail)

end IPv6

end AddressWatch
