import AddressWatch.Text.Punycode
import AddressWatch.Text.Split

/-!
Names of hosts in ASCII.  A name with other characters is mapped and checked by rules that come with
Unicode, so what becomes of it is left open here.
-/

namespace AddressWatch.Url

/-- How names of hosts are written in ASCII. -/
structure HostNames where
  /-- Absent for a name that no host can have. -/
  ascii? : List Char → Option (List Char)

namespace HostNames

def asciiLabel (label : List Char) : List Char :=
  if label.all fun char => char.toNat < 0x80 then label.map Char.toLower
  else "xn--".toList ++ Text.Punycode.encode (label.map Char.toLower)

/-- The characters that separate labels as a full stop does. -/
def isFullStop (char : Char) : Bool :=
  char == '.' || char == '\u3002' || char == '\uff0e' || char == '\uff61'

def asciiName (name : List Char) : List Char :=
  ['.'].intercalate ((Text.splitWhere isFullStop name).map asciiLabel)

/-- Names in lower case, with every label that needs it in Punycode, and nothing mapped or refused. -/
def basic : HostNames := ⟨fun name => some (asciiName name)⟩

/-- Spaces and control characters are neither mapped nor dropped: the name that is left has them, and no
host can have such a name. -/
def KeepsBlanks (names : HostNames) : Prop :=
  ∀ {name ascii : List Char} {char : Char}, names.ascii? name = some ascii → char ∈ name →
    char.toNat ≤ 0x20 → char ∈ ascii

end HostNames

end AddressWatch.Url
