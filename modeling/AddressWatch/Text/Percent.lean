import AddressWatch.Text.Digits
import AddressWatch.Text.Utf8

/-!
Percent encoding: a byte as a percent sign and two hexadecimal digits.
-/

namespace AddressWatch.Text.Percent

/-- One byte as a percent sign and two upper-case digits. -/
def encodeByte (byte : UInt8) : List Char :=
  ['%', (Nat.digitChar (byte.toNat / 16)).toUpper, (Nat.digitChar (byte.toNat % 16)).toUpper]

/-- A text in which every character that is not kept is written byte by byte. -/
def encode (keeps : Char → Bool) (text : List Char) : List Char :=
  text.flatMap fun char =>
    if keeps char then [char] else (String.utf8EncodeChar char).flatMap encodeByte

/-- The digit that a byte stands for. -/
def digit? (byte : UInt8) : Option Nat := digitBelow? 16 (Char.ofNat byte.toNat)

/-- The bytes of a text with every encoded byte decoded.  A percent sign without two digits stands
for itself. -/
def decode : List UInt8 → List UInt8
  | 0x25 :: high :: low :: rest =>
      match digit? high, digit? low with
      | some highDigit, some lowDigit => UInt8.ofNat (highDigit * 16 + lowDigit) :: decode rest
      | _, _ => 0x25 :: decode (high :: low :: rest)
  | byte :: rest => byte :: decode rest
  | [] => []

/-- A character in the visible part of ASCII or the space. -/
def isPrintable (char : Char) : Bool := 0x20 ≤ char.toNat && char.toNat ≤ 0x7e

/-- What is kept behind the number sign of a URL. -/
def keepsInFragment (char : Char) : Bool :=
  isPrintable char && !" \"<>`".toList.contains char

/-- What is kept in the query of a URL; an apostrophe is kept only where it is not special. -/
def keepsInQuery (special : Bool) (char : Char) : Bool :=
  isPrintable char && !" \"#<>".toList.contains char && !(special && char == '\'')

/-- What is kept in the path of a URL. -/
def keepsInPath (char : Char) : Bool :=
  isPrintable char && !" \"#<>?`\x7b\x7d".toList.contains char

/-- What is kept in the name and the password of a URL. -/
def keepsInUserInfo (char : Char) : Bool :=
  keepsInPath char && !"/:;=@[\\]^|".toList.contains char

end AddressWatch.Text.Percent
