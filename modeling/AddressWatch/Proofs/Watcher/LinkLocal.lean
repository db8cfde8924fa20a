import AddressWatch.Proofs.Address.Opening
import AddressWatch.Proofs.Watcher.Provenance

/-!
# Which link-local addresses are published

There is no check of what an address is for.  A link-local address is left out when its tool presents
it as one in the way that the strategy looks for: by the scope of its line or by the beginning of its
text.
-/

namespace AddressWatch

/-- An address whose first group is `fe80` begins as a link-local one, however it is written. -/
theorem Resolver.Report.beginsLinkLocal_of_parse? {text : List Char} {address : IPv6}
    (parsed : IPv6.parse? text = some address) (first : address.groups.head? = some 0xfe80) :
    beginsLinkLocal text = true :=
  List.isPrefixOf_iff_prefix.mpr (IPv6.isPrefix_of_parse? parsed first)

theorem Address.exists_of_isValid_ipv6 {text : String} (valid : isValid text .ipv6 = true) :
    ∃ address, parse? text = some (.ipv6 address) ∧ IPv6.parse? text.toList = some address := by
  obtain ⟨address, parsed, isIPv6⟩ := (isValid_iff _ _).mp valid
  cases address with
  | ipv4 => contradiction
  | ipv6 address =>
      refine ⟨address, parsed, ?_⟩
      unfold parse? at parsed
      split at parsed
      · cases Option.some.inj parsed
      · obtain ⟨read, found, same⟩ := Option.map_eq_some_iff.mp parsed
        obtain rfl := Address.ipv6.inj same
        exact found

namespace Watcher

/-- How a link-local address gets past a strategy: the output does not present it as one. -/
inductive Unmarked (address : IPv6) (text : String) (output : List UInt8) : Resolver.Strategy → Prop
  | tailscale : Unmarked address text output .tailscale
  | iproute2 (line : List Char)
      (isLine : line ∈ Text.lines (Resolver.Completion.decode output).toList)
      (read : Resolver.Report.addressIn? .ipv6 line = some text.toList)
      (unscoped : ¬ "scope link".toList <:+: line) :
      Unmarked address text output .iproute2
  | ifconfig (other : address.groups.head? ≠ some 0xfe80) : Unmarked address text output .ifconfig

/-- Whatever is done with a watcher over a resolver for version 6: a link-local address that is sent
was not presented as one by the tool of its poll. -/
theorem sent_link_local_addresses_are_unmarked {config : Config} {resolver : Resolver}
    {watcher : Watcher} (made : new config resolver.family = .ok watcher)
    (isIPv6 : config.family = .ipv6) (clientName : String) (hosts : Nat → Machine)
    (answers : Nat → Record → Act Outcome) (operations : List Operation) :
    let reports := ((⟨watcher, 0⟩ : Session Nat).performAll
      (World.ofHosts resolver clientName hosts answers) operations).1
    let attempts := reports.flatMap Report.attempts
    attempts.filterMap id = reports.flatMap Report.updates ∧
    ∀ index update, attempts[index]? = some (some update) →
      ∃ address, Address.parse? update.record.value = some (.ipv6 address) ∧
        (address.isLinkLocal = true →
          ∃ strategy behaviour, resolver.ran? (hosts index) = some (strategy, behaviour) ∧
            Unmarked address update.record.value behaviour.output strategy) := by
  intro reports attempts
  refine ⟨Report.filterMap_flatMap_attempts reports, ?_⟩
  intro index update sent
  obtain ⟨accepted, sameFamily, rfl⟩ := (new_eq_ok_iff _ _ _).mp made
  have counts := World.countsPolls_ofHosts resolver clientName hosts answers
  obtain ⟨answered, valid⟩ := counts.answered_of_attempts sent
  rw [Nat.zero_add] at answered
  rw [isIPv6] at valid sameFamily
  obtain ⟨address, denotes, parsedAddress⟩ := Address.exists_of_isValid_ipv6 valid
  obtain ⟨strategy, behaviour, ran, _, parsed⟩ :=
    (resolver.result_current_eq_ok_iff (hosts index) _).mp answered
  refine ⟨address, denotes, fun _ => ⟨strategy, behaviour, ran, ?_⟩⟩
  obtain ⟨line, isLine, read⟩ := Resolver.Strategy.exists_line_of_parse? parsed
  rw [sameFamily] at read
  cases strategy with
  | tailscale => exact .tailscale
  | iproute2 =>
      obtain ⟨unscoped, found⟩ := Resolver.Report.iproute2Line?_eq_some read
      refine .iproute2 line isLine found fun marked => ?_
      rw [Resolver.Report.isLinkScoped, (Text.contains_iff_isInfix _ _).mpr marked] at unscoped
      exact absurd unscoped (by decide)
  | ifconfig =>
      have unconfined := (Resolver.Report.ifconfigLine?_eq_some read).2 rfl
      refine .ifconfig fun first => ?_
      rw [Resolver.Report.beginsLinkLocal_of_parse? parsedAddress first] at unconfined
      exact absurd unconfined (by decide)

theorem new_officeSettings :
    new officeSettings (Resolver.ofConfig officeSettings).family = .ok officeWatcher :=
  (new_eq_ok_iff _ _ _).mpr ⟨_, rfl, rfl⟩

/-- In turn a text with another beginning, a line with another scope, and a tool of which every
address is taken. -/
def unmarkingHosts (index : Nat) : Machine :=
  match index with
  | 0 => hostWith "ifconfig" (printing "\tinet6 fe90::1%eth0 prefixlen 64\n" (.exited 0))
  | 1 => hostWith "ip" (printing "    inet6 fe80::2/64 scope global\n" (.exited 0))
  | _ => hostWith "tailscale" (printing "fe80::3\n" (.exited 0))

def tailnetSettings : Config := { officeSettings with interface := "tailscale" }

def tailnetWatcher : Watcher := ⟨tailnetSettings, by decide, "", .empty⟩

theorem sent_link_local_address_begins_otherwise :
    let reports := ((⟨officeWatcher, 0⟩ : Session Nat).performAll
      (World.ofHosts (.ofConfig officeSettings) "rest" unmarkingHosts
        fun _ _ => .done (.applied 200)) [.poll]).1
    new officeSettings (Resolver.ofConfig officeSettings).family = .ok officeWatcher ∧
    officeSettings.family = .ipv6 ∧
    (reports.flatMap Report.attempts)[0]? =
      some (some ⟨officeWatcher.recordFor "fe90::1", some (.applied 200)⟩) ∧
    ∃ address, Address.parse? "fe90::1" = some (.ipv6 address) ∧
      (address.isLinkLocal = true →
        ∃ strategy behaviour,
          (Resolver.ofConfig officeSettings).ran? (unmarkingHosts 0) = some (strategy, behaviour) ∧
          Unmarked address "fe90::1" behaviour.output strategy) := by
  intro reports
  have sent : (reports.flatMap Report.attempts)[0]? =
      some (some ⟨officeWatcher.recordFor "fe90::1", some (.applied 200)⟩) := by
    decide +kernel
  have unmarked := sent_link_local_addresses_are_unmarked new_officeSettings rfl "rest"
    unmarkingHosts (fun _ _ => .done (.applied 200)) [.poll]
  exact ⟨new_officeSettings, rfl, sent, unmarked.2 0 _ sent⟩

/-- Each strategy has its link-local addresses that are sent. -/
theorem link_local_addresses_are_sent :
    ((⟨officeWatcher, 0⟩ : Session Nat).performAll
      (World.ofHosts (.ofConfig officeSettings) "rest" unmarkingHosts
        fun _ _ => .done (.applied 200)) [.poll, .poll]).1.flatMap Report.attempts = [
          some ⟨officeWatcher.recordFor "fe90::1", some (.applied 200)⟩,
          some ⟨officeWatcher.recordFor "fe80::2", some (.applied 200)⟩] ∧
    ((⟨tailnetWatcher, 2⟩ : Session Nat).performAll
      (World.ofHosts (.ofConfig tailnetSettings) "rest" unmarkingHosts
        fun _ _ => .done (.applied 200)) [.poll]).1.flatMap Report.attempts = [
          some ⟨tailnetWatcher.recordFor "fe80::3", some (.applied 200)⟩] ∧
    ∀ value ∈ ["fe90::1", "fe80::2", "fe80::3"],
      (Address.parse? value).any Address.isLinkLocal = true := by
  decide +kernel

end Watcher

end AddressWatch
