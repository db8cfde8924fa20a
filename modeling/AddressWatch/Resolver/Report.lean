import AddressWatch.Resolver.Strategy
import AddressWatch.Text.Blank

/-!
Finding the address in what a tool printed.
-/

namespace AddressWatch.Resolver.Report

/-- The word in front of an address of the family. -/
def keyword : Family → List Char
  | .ipv4 => "inet".toList
  | .ipv6 => "inet6".toList

/-- The characters that an address of the family is read from. -/
def isAddressChar : Family → Char → Bool
  | .ipv4, char => char.isDigit || char == '.'
  | .ipv6, char => char.isDigit || ('a' ≤ char && char ≤ 'f') || char == ':'

/-- The address at the beginning of a text that begins with the keyword: after one or more blanks,
the longest run of address characters. -/
def addressHere? (family : Family) (text : List Char) : Option (List Char) :=
  match Text.stripOpening? (keyword family) text with
  | none => none
  | some rest =>
      let address := (rest.dropWhile Text.isBlank).takeWhile (isAddressChar family)
      if rest.takeWhile Text.isBlank = [] ∨ address = [] then none else some address

/-- The address after the first keyword of a line that one follows. -/
def addressIn? (family : Family) : List Char → Option (List Char)
  | [] => none
  | char :: rest =>
      match addressHere? family (char :: rest) with
      | some address => some address
      | none => addressIn? family rest

/-- Whether a line describes a version 6 address that is confined to its link. -/
def isLinkScoped (family : Family) (line : List Char) : Bool :=
  family.isIPv6 && Text.contains "scope link".toList line

/-- The first address in a report of `ip addr show`, link-scoped lines left out. -/
def iproute2? (family : Family) (output : List Char) : Option (List Char) :=
  ((Text.lines output).filter fun line => !isLinkScoped family line).findSome? (addressIn? family)

/-- The word after the first keyword among words. -/
def wordAfterKeyword? (family : Family) : List (List Char) → Option (List Char)
  | [] => none
  | word :: rest => if word = keyword family then rest.head? else wordAfterKeyword? family rest

/-- Whether a word begins with `fe80` in either case. -/
def beginsLinkLocal (word : List Char) : Bool :=
  "fe80".toList.isPrefixOf (word.map Char.toLower)

/-- The address on a line of `ifconfig`.  A version 6 address is left out when it begins like a
link-local one, and else cut before its zone. -/
def ifconfigLine? (family : Family) (line : List Char) : Option (List Char) :=
  match wordAfterKeyword? family (Text.words line) with
  | none => none
  | some word =>
      match family with
      | .ipv4 => some word
      | .ipv6 => if beginsLinkLocal word then none else some (word.takeWhile (· != '%'))

/-- The first address in a report of `ifconfig`. -/
def ifconfig? (family : Family) (output : List Char) : Option (List Char) :=
  (Text.lines output).findSome? (ifconfigLine? family)

/-- The first line of a report of `tailscale ip`, trimmed, unless that leaves nothing. -/
def tailscale? (output : List Char) : Option (List Char) :=
  ((Text.lines output).head?.map Text.trim).filter (· ≠ [])

end Report

/-- The address in what the strategy's program printed. -/
def Strategy.parse? (strategy : Strategy) (family : Family) (output : String) : Option String :=
  let address := match strategy with
    | tailscale => Report.tailscale? output.toList
    | iproute2 => Report.iproute2? family output.toList
    | ifconfig => Report.ifconfig? family output.toList
  address.map String.ofList

end AddressWatch.Resolver
