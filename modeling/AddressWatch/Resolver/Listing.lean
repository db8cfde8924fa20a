import AddressWatch.Resolver.Report

/-!
The addresses of an interface, and the two reports that its host prints about them: one for each family,
and one for both families together.  Between the addresses a report has other lines.
-/

namespace AddressWatch.Resolver.Listing

/-- A word of a report that cannot be taken for the beginning of an address. -/
structure Word where
  chars : List Char
  unbroken : ∀ char ∈ chars, Text.isBlank char = false
  plain : ¬ "inet".toList <:+: chars

/-- A line of a report that is about no address. -/
structure Heading where
  chars : List Char
  oneLine : '\n' ∉ chars
  plain : ¬ "inet".toList <:+: chars

/-- The characters in which addresses of a family are written. -/
def alphabet : Family → List Char
  | .ipv4 => "0123456789.".toList
  | .ipv6 => "0123456789abcdef:".toList

/-- An address of the interface with what is reported about it. -/
structure Entry where
  family : Family
  address : List Char
  address_ne_nil : address ≠ []
  address_subset : address ⊆ alphabet family
  zone : Option Word
  prefixLength : Nat
  scope : Word
  /-- The words in front of the scope. -/
  leading : List Word
  /-- The words behind the scope. -/
  trailing : List Word
  /-- The words at the end of the line in the report for both families. -/
  details : List Word

inductive Line where
  | other (heading : Heading)
  | about (entry : Entry)

namespace Entry

def keyword (entry : Entry) : List Char :=
  match entry.family with
  | .ipv4 => "inet".toList
  | .ipv6 => "inet6".toList

def prefixText (entry : Entry) : List Char := (Text.decimal entry.prefixLength).toList

/-- The address with its zone, which only version 6 addresses have. -/
def zonedAddress (entry : Entry) : List Char :=
  match entry.family, entry.zone with
  | .ipv6, some zone => entry.address ++ '%' :: zone.chars
  | _, _ => entry.address

/-- What stands behind the address in the report for one family. -/
def queryDetails (entry : Entry) : List (List Char) :=
  entry.leading.map Word.chars ++ "scope".toList :: entry.scope.chars ::
    entry.trailing.map Word.chars

/-- The line about the address in the report for its family. -/
def queryLine (entry : Entry) : List Char :=
  "    ".toList ++ [' '].intercalate
    (entry.keyword :: (entry.address ++ '/' :: entry.prefixText) :: entry.queryDetails)

/-- What stands behind the address in the report for both families. -/
def interfaceDetails (entry : Entry) : List (List Char) :=
  match entry.family with
  | .ipv4 => "netmask".toList :: entry.details.map Word.chars
  | .ipv6 => "prefixlen".toList :: entry.prefixText :: entry.details.map Word.chars

/-- The line about the address in the report for both families. -/
def interfaceLine (entry : Entry) : List Char :=
  '\t' :: [' '].intercalate (entry.keyword :: entry.zonedAddress :: entry.interfaceDetails)

/-- Whether the text of the address begins as those of link-local addresses do. -/
def isLinkLocal (entry : Entry) : Bool :=
  entry.family.isIPv6 && "fe80".toList.isPrefixOf entry.address

/-- In the report for its family, a version 6 address has link scope exactly when its text begins
as those of link-local addresses do. -/
def IsScoped (entry : Entry) : Prop :=
  entry.family = .ipv6 →
    ("scope link".toList <:+: entry.queryLine ↔ "fe80".toList <+: entry.address)

end Entry

namespace Line

def entry? : Line → Option Entry
  | other _ => none
  | about entry => some entry

/-- Whether the line is in the report for a family. -/
def isShown (family : Family) : Line → Bool
  | other _ => true
  | about entry => entry.family == family

def queryText : Line → List Char
  | other heading => heading.chars
  | about entry => entry.queryLine

def interfaceText : Line → List Char
  | other heading => heading.chars
  | about entry => entry.interfaceLine

end Line

def entries (lines : List Line) : List Entry := lines.filterMap Line.entry?

def printed (texts : List (List Char)) : String := String.ofList (texts.flatMap (· ++ ['\n']))

/-- What `ip -4 addr show` or `ip -6 addr show` prints. -/
def queryReport (family : Family) (lines : List Line) : String :=
  printed ((lines.filter (Line.isShown family)).map Line.queryText)

/-- What `ifconfig` prints. -/
def interfaceReport (lines : List Line) : String := printed (lines.map Line.interfaceText)

/-- The first address of a family that is not link-local. -/
def firstGlobal? (family : Family) (entries : List Entry) : Option String :=
  ((entries.filter (·.family = family)).find? (!·.isLinkLocal)).map fun entry =>
    String.ofList entry.address

end AddressWatch.Resolver.Listing
