import AddressWatch.Proofs.Resolver.Occurrence
import AddressWatch.Proofs.Resolver.Usable

/-!
# Where an address is read in a report

An address is a contiguous piece of one line of the report.  Each strategy passes over the lines that
its tool marks as link-local in its own way.
-/

namespace AddressWatch.Resolver

namespace Report

theorem keyword_injective {family other : Family} (same : keyword family = keyword other) :
    family = other := by
  revert same
  cases family <;> cases other <;> decide

/-- What is read in one line of a report of `ip addr show`. -/
def iproute2Line? (family : Family) (line : List Char) : Option (List Char) :=
  if isLinkScoped family line then none else addressIn? family line

theorem iproute2Line?_eq_some {family : Family} {line address : List Char}
    (found : iproute2Line? family line = some address) :
    isLinkScoped family line = false ∧ addressIn? family line = some address := by
  rw [iproute2Line?, Option.ite_none_left_eq_some, Bool.not_eq_true] at found
  exact found

theorem iproute2?_eq_findSome? (family : Family) (output : List Char) :
    iproute2? family output = (Text.lines output).findSome? (iproute2Line? family) := by
  unfold iproute2?
  induction Text.lines output with
  | nil => rfl
  | cons line lines inductionHypothesis =>
      rw [List.filter_cons, List.findSome?_cons, iproute2Line?]
      cases confined : isLinkScoped family line with
      | true => simpa using inductionHypothesis
      | false =>
          rw [Bool.not_false, if_pos rfl, List.findSome?_cons, inductionHypothesis]
          rfl

end Report

/-! ## Reading a report -/

namespace Strategy

theorem parse?_tailscale (family : Family) (output : String) :
    tailscale.parse? family output =
      (Report.tailscale? output.toList).map String.ofList := rfl

theorem parse?_iproute2 (family : Family) (output : String) :
    iproute2.parse? family output =
      (Report.iproute2? family output.toList).map String.ofList := rfl

theorem parse?_ifconfig (family : Family) (output : String) :
    ifconfig.parse? family output =
      (Report.ifconfig? family output.toList).map String.ofList := rfl

/-- What the strategy reads on one line. -/
def readLine? (strategy : Strategy) (family : Family) (line : List Char) : Option (List Char) :=
  match strategy with
  | tailscale => some (Text.trim line)
  | iproute2 => Report.iproute2Line? family line
  | ifconfig => Report.ifconfigLine? family line

theorem exists_line_of_parse? {strategy : Strategy} {family : Family} {output address : String}
    (parsed : strategy.parse? family output = some address) :
    ∃ line ∈ Text.lines output.toList, strategy.readLine? family line = some address.toList := by
  cases strategy with
  | tailscale =>
      rw [parse?_tailscale, Option.map_eq_some_iff] at parsed
      obtain ⟨text, found, rfl⟩ := parsed
      rw [Report.tailscale?, Option.filter_eq_some_iff, Option.map_eq_some_iff] at found
      obtain ⟨⟨line, first, rfl⟩, _⟩ := found
      rw [String.toList_ofList]
      exact ⟨line, List.mem_of_head? first, rfl⟩
  | iproute2 =>
      rw [parse?_iproute2, Option.map_eq_some_iff] at parsed
      obtain ⟨text, found, rfl⟩ := parsed
      rw [Report.iproute2?_eq_findSome?] at found
      rw [String.toList_ofList]
      exact List.exists_of_findSome?_eq_some found
  | ifconfig =>
      rw [parse?_ifconfig, Option.map_eq_some_iff] at parsed
      obtain ⟨text, found, rfl⟩ := parsed
      rw [String.toList_ofList]
      exact List.exists_of_findSome?_eq_some found

theorem isInfix_of_readLine? {strategy : Strategy} {family : Family} {line address : List Char}
    (read : strategy.readLine? family line = some address) : address <:+: line := by
  cases strategy with
  | tailscale =>
      obtain rfl := Option.some.inj read
      exact Text.trim_isInfix line
  | iproute2 => exact Report.isInfix_of_addressIn? (Report.iproute2Line?_eq_some read).2
  | ifconfig => exact (Report.ifconfigLine?_eq_some read).1

/-- The address that is read in a report is a contiguous piece of it. -/
theorem isInfix_of_parse? {strategy : Strategy} {family : Family} {output address : String}
    (parsed : strategy.parse? family output = some address) : address.toList <:+: output.toList := by
  obtain ⟨line, membership, read⟩ := exists_line_of_parse? parsed
  exact (isInfix_of_readLine? read).trans (Text.isInfix_of_mem_lines membership)

end Strategy

end AddressWatch.Resolver
