import AddressWatch.Address.IPv6
import AddressWatch.Text.Utf8
import AddressWatch.Text.Percent
import AddressWatch.Url.HostNames

/-!
Hosts of URLs: names and addresses.  A name whose last label is a number is an address in one of the
old notations, with fewer parts than four or with parts in other bases.
-/

namespace AddressWatch.Url

/-- A host.  The host of a scheme about which nothing is known is any text. -/
inductive Host where
  | name (text : String)
  | ipv4 (address : IPv4)
  | ipv6 (address : IPv6)
  | unknown (text : String)

namespace Host

def text : Host → String
  | name text | unknown text => text
  | ipv4 address => address.text
  | ipv6 address => "[" ++ address.text ++ "]"

/-- The characters that a host cannot have. -/
def isForbidden (char : Char) : Bool :=
  char.toNat ≤ 0x20 || char.toNat == 0x7f || "#/:<>?@[\\]^|".toList.contains char

/-- The address of the quad with the given number as its four octets. -/
def quad (number : Nat) : IPv4 :=
  ⟨[UInt8.ofNat (number / Nat.pow 2 24), UInt8.ofNat (number / Nat.pow 2 16), UInt8.ofNat (number / Nat.pow 2 8),
    UInt8.ofNat number], rfl⟩

/-- A part of an address in an old notation: hexadecimal after `0x`, octal after `0`, else decimal. -/
def oldNumber? : List Char → Option Nat
  | [] => none
  | '0' :: 'x' :: digits | '0' :: 'X' :: digits => Text.readDigits? 16 0 digits
  | '0' :: digits => Text.readDigits? 8 0 digits
  | digits => Text.readDigits? 10 0 digits

/-- The labels of a name, without an empty one at the end. -/
def labels (name : List Char) : List (List Char) :=
  let labels := Text.splitAt '.' name
  if 1 < labels.length ∧ labels.getLast? = some [] then labels.dropLast else labels

/-- Whether a name is to be read as an address. -/
def endsInNumber (name : List Char) : Bool :=
  match (labels name).getLast? with
  | none | some [] => false
  | some last => last.all Char.isDigit || (oldNumber? last).isSome

/-- The number of an address in an old notation: the last part fills the octets that are left. -/
def oldAddress? (name : List Char) : Option IPv4 :=
  let parts := labels name
  if 4 < parts.length then none
  else
    match parts.mapM oldNumber? with
    | none => none
    | some numbers =>
        match numbers.reverse with
        | [] => none
        | last :: before =>
            let octets := before.reverse
            if Nat.pow 2 (8 * (4 - octets.length)) ≤ last ∨ octets.any (255 < ·) then none
            else
              let high := octets.foldl (fun number octet => number * 256 + octet) 0
              some (quad (high * Nat.pow 2 (8 * (4 - octets.length)) + last))

def read? (names : HostNames) (text : List Char) : Option Host :=
  match text with
  | '[' :: rest =>
      if rest.getLast? = some ']' then (IPv6.parse? rest.dropLast).map .ipv6 else none
  | text =>
      let decoded := Text.Utf8.decode (Text.Percent.decode (Text.Utf8.encode text))
      match names.ascii? decoded with
      | none => none
      | some ascii =>
          if ascii = [] ∨ decoded.contains Text.Utf8.replacement ∨
              ascii.any (fun char => isForbidden char || char == '%') then none
          else if endsInNumber ascii then (oldAddress? ascii).map .ipv4
          else some (.name (String.ofList ascii))

/-- The host of a scheme about which nothing is known. -/
def readUnknown? (names : HostNames) (text : List Char) : Option Host :=
  match text with
  | '[' :: _ => read? names text
  | text =>
      if text.any isForbidden then none
      else some (.unknown (String.ofList
        (Text.Percent.encode (fun char => 0x20 ≤ char.toNat && char.toNat ≤ 0x7e) text)))

end Host

end AddressWatch.Url
