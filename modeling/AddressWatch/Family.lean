/-!
The two address families and the record types that carry them.
-/

namespace AddressWatch

/-- The type of a DNS record that holds an address. -/
inductive RecordType where
  | a
  | aaaa
deriving DecidableEq, Inhabited

inductive Family where
  | ipv4
  | ipv6
deriving DecidableEq, Inhabited

namespace RecordType

/-- The name of the type in a zone. -/
def name : RecordType → String
  | a => "A"
  | aaaa => "AAAA"

/-- The name of the type in diagnostics. -/
def label : RecordType → String
  | a => "A"
  | aaaa => "Aaaa"

end RecordType

namespace Family

/-- The family asked for by a switch that selects the newer one. -/
def ofSwitch (newer : Bool) : Family := if newer then ipv6 else ipv4

def isIPv6 (family : Family) : Bool := family == ipv6

/-- The name of the family in messages. -/
def name : Family → String
  | ipv4 => "IPv4"
  | ipv6 => "IPv6"

/-- The name of the family in diagnostics. -/
def label : Family → String
  | ipv4 => "V4"
  | ipv6 => "V6"

/-- The name of the family in serialized settings. -/
def tag : Family → String
  | ipv4 => "v4"
  | ipv6 => "v6"

def recordType : Family → RecordType
  | ipv4 => .a
  | ipv6 => .aaaa

@[simp]
theorem isIPv6_ofSwitch (newer : Bool) : (ofSwitch newer).isIPv6 = newer := by
  cases newer <;> rfl

@[simp]
theorem ofSwitch_isIPv6 (family : Family) : ofSwitch family.isIPv6 = family := by
  cases family <;> rfl

end Family

end AddressWatch
