import AddressWatch.Address.IPv6
import AddressWatch.Family

/-!
Addresses of either family and the check that a reported text is one of the wanted family.
-/

namespace AddressWatch

inductive Address where
  | ipv4 (address : IPv4)
  | ipv6 (address : IPv6)

namespace Address

def parse? (text : String) : Option Address :=
  match IPv4.parse? text.toList with
  | some address => some (.ipv4 address)
  | none => (IPv6.parse? text.toList).map .ipv6

def family : Address → Family
  | ipv4 _ => .ipv4
  | ipv6 _ => .ipv6

def isLinkLocal : Address → Bool
  | ipv4 _ => false
  | ipv6 address => address.isLinkLocal

/-- Whether a text denotes an address of the family. -/
def isValid (candidate : String) (family : Family) : Bool :=
  (parse? candidate).any (·.family == family)

@[simp]
theorem isValid_empty (family : Family) : isValid "" family = false := by
  cases family <;> rfl

theorem isValid_iff (candidate : String) (family : Family) :
    isValid candidate family = true ↔
      ∃ address, parse? candidate = some address ∧ address.family = family := by
  simp [isValid, Option.any_eq_true]

/-- A text is valid for one family at most. -/
theorem isValid_iff_eq {candidate : String} {family : Family}
    (valid : isValid candidate family = true) (other : Family) :
    isValid candidate other = true ↔ other = family := by
  rw [isValid_iff] at valid ⊢
  obtain ⟨address, parsed, rfl⟩ := valid
  constructor
  · rintro ⟨again, parsedAgain, rfl⟩
    rw [parsed] at parsedAgain
    exact congrArg Address.family (Option.some.inj parsedAgain).symm
  · rintro rfl
    exact ⟨address, parsed, rfl⟩

end Address

end AddressWatch
