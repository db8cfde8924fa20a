import AddressWatch.Http.Message
import AddressWatch.Text.Blank

/-!
Text of a response: its bytes in the encoding that a mark at the beginning names, or else the
`charset` of its type, or else UTF-8.  Of the encodings there are UTF-8, UTF-16 in both byte orders, and
Windows-1252.
-/

namespace AddressWatch.Http

inductive Charset where
  | utf8
  | utf16 (bigEndian : Bool)
  | windows1252
deriving DecidableEq, Inhabited

namespace Charset

def ofName (name : String) : Charset :=
  if ["utf-16", "utf-16le", "unicode", "ucs-2", "iso-10646-ucs-2", "csunicode",
      "unicodefeff"].contains name then .utf16 false
  else if ["utf-16be", "unicodefffe"].contains name then .utf16 true
  else if ["ansi_x3.4-1968", "ascii", "cp1252", "cp819", "csisolatin1", "ibm819", "iso-8859-1",
      "iso-ir-100", "iso8859-1", "iso88591", "iso_8859-1", "iso_8859-1:1987", "l1", "latin1",
      "us-ascii", "windows-1252", "x-cp1252"].contains name then .windows1252
  else .utf8

/-- The characters of Windows-1252 from `80` to `9f`. -/
def upperControls : List Nat :=
  [0x20ac, 0x81, 0x201a, 0x192, 0x201e, 0x2026, 0x2020, 0x2021, 0x2c6, 0x2030, 0x160, 0x2039, 0x152,
    0x8d, 0x17d, 0x8f, 0x90, 0x2018, 0x2019, 0x201c, 0x201d, 0x2022, 0x2013, 0x2014, 0x2dc, 0x2122,
    0x161, 0x203a, 0x153, 0x9d, 0x17e, 0x178]

def charOfByte (byte : UInt8) : Char :=
  let code := byte.toNat
  Char.ofNat (if 0x80 ≤ code ∧ code < 0xa0 then upperControls.getD (code - 0x80) 0xfffd else code)

/-- The units of UTF-16, `none` for a byte that is left over. -/
def units (bigEndian : Bool) : List UInt8 → List (Option Nat)
  | [] => []
  | [_] => [none]
  | first :: second :: rest =>
      let unit := if bigEndian then first.toNat * 256 + second.toNat
        else second.toNat * 256 + first.toNat
      some unit :: units bigEndian rest

/-- The characters of units: two surrogates in order are one character, and alone they are damaged
ones. -/
def charsOfUnits : List (Option Nat) → List Char
  | [] => []
  | some high :: some low :: rest =>
      if 0xd800 ≤ high ∧ high < 0xdc00 ∧ 0xdc00 ≤ low ∧ low < 0xe000 then
        Char.ofNat (0x10000 + (high - 0xd800) * 0x400 + (low - 0xdc00)) :: charsOfUnits rest
      else if 0xd800 ≤ high ∧ high < 0xe000 then
        Text.Utf8.replacement :: charsOfUnits (some low :: rest)
      else Char.ofNat high :: charsOfUnits (some low :: rest)
  | some unit :: rest =>
      (if 0xd800 ≤ unit ∧ unit < 0xe000 then Text.Utf8.replacement else Char.ofNat unit) ::
        charsOfUnits rest
  | none :: rest => Text.Utf8.replacement :: charsOfUnits rest

/-- The text of bytes without a mark. -/
def decodePlain (charset : Charset) (bytes : List UInt8) : List Char :=
  match charset with
  | utf8 => Text.Utf8.decode bytes
  | utf16 bigEndian => charsOfUnits (units bigEndian bytes)
  | windows1252 => bytes.map charOfByte

/-- The text of bytes.  A mark at the beginning is not part of it. -/
def decode (charset : Charset) : List UInt8 → List Char
  | 0xef :: 0xbb :: 0xbf :: rest => decodePlain .utf8 rest
  | 0xff :: 0xfe :: rest => decodePlain (.utf16 false) rest
  | 0xfe :: 0xff :: rest => decodePlain (.utf16 true) rest
  | bytes => decodePlain charset bytes

def unquote (text : List Char) : List Char :=
  match text with
  | '"' :: rest => if rest.getLast? = some '"' then rest.dropLast else text
  | text => text

/-- The value of a parameter with the name `charset`. -/
def parameter? (text : List Char) : Option String :=
  let name := Text.trim (text.takeWhile (· != '='))
  if name.map Char.toLower = "charset".toList then
    some (String.ofList ((unquote (Text.trim ((text.dropWhile (· != '=')).drop 1))).map Char.toLower))
  else none

/-- The encoding that the type of a response names. -/
def ofType : Option (List UInt8) → Charset
  | none => .utf8
  | some type =>
      (((Text.splitAt ';' (latin type)).drop 1).findSome? parameter?).elim .utf8 ofName

end Charset

end AddressWatch.Http
