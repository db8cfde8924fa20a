import AddressWatch.Proofs.Resolver.FirstLine
import AddressWatch.Proofs.Watcher.Provenance

/-!
# Trimmed reports

What a tool prints is trimmed before an address is read in it.  The reports of `ip` and `ifconfig` are
read line by line, and blanks at the ends of a line do not matter there.  The report of `tailscale` is
only read up to the end of its first line, which trimming makes the first line that is not blank.
-/

namespace AddressWatch.Resolver

namespace Report

theorem iproute2?_trim (family : Family) (output : List Char) :
    iproute2? family (Text.trim output) = iproute2? family output := by
  have trimmed := Text.findSome?_filled (iproute2Line?_trim family) (iproute2Line?_nil family)
  rw [iproute2?_eq_findSome?, ← trimmed, Text.filled_lines_trim, trimmed, iproute2?_eq_findSome?]

theorem ifconfig?_trim (family : Family) (output : List Char) :
    ifconfig? family (Text.trim output) = ifconfig? family output := by
  have trimmed := Text.findSome?_filled (ifconfigLine?_trim family) (ifconfigLine?_nil family)
  rw [ifconfig?, ← trimmed, Text.filled_lines_trim, trimmed, ifconfig?]

/-- The first line that is not blank, trimmed. -/
def firstFilledLine? (output : List Char) : Option (List Char) :=
  ((Text.lines output).find? fun line => !line.all Text.isBlank).map Text.trim

theorem firstFilledLine?_trim (output : List Char) :
    firstFilledLine? (Text.trim output) = firstFilledLine? output := by
  rw [firstFilledLine?, ← Text.head?_filled, Text.filled_lines_trim, Text.head?_filled,
    firstFilledLine?]

theorem tailscale?_of_lines_eq_cons {output first : List Char} {others : List (List Char)}
    (lines_eq : Text.lines output = first :: others) :
    tailscale? output = if first.all Text.isBlank then none else some (Text.trim first) := by
  rw [tailscale?, lines_eq, List.head?_cons, Option.map_some]
  by_cases blank : first.all Text.isBlank = true
  · rw [if_pos blank, (Text.trim_eq_nil_iff first).mpr blank]
    rfl
  · have kept : Text.trim first ≠ [] := mt (Text.trim_eq_nil_iff first).mp blank
    rw [if_neg blank, Option.filter_some, if_pos (decide_eq_true kept)]

/-- Only the first line of the report is looked at. -/
theorem tailscale?_line_append {line : List Char} (unended : '\n' ∉ line) (rest : List Char) :
    tailscale? (line ++ '\n' :: rest) =
      if line.all Text.isBlank then none else some (Text.trim line) := by
  simp only [tailscale?_of_lines_eq_cons (Text.lines_append_lineFeed unended rest),
    ← Text.trim_eq_nil_iff, Text.trim_dropReturn]

theorem tailscale?_trim (output : List Char) :
    tailscale? (Text.trim output) = firstFilledLine? output := by
  rw [← firstFilledLine?_trim]
  by_cases empty : Text.trim output = []
  · rw [empty]
    rfl
  · obtain ⟨first, others, lines_eq, filled⟩ :=
      Text.exists_lines_eq_cons empty (Text.head_of_trim output)
    have unblank : first.all Text.isBlank = false := by
      rwa [ne_eq, Text.trim_eq_nil_iff, Bool.not_eq_true] at filled
    rw [tailscale?_of_lines_eq_cons lines_eq, firstFilledLine?, lines_eq, List.find?_cons, unblank]
    rfl

end Report

/-- The answer of a resolver is read in the trimmed output of a tool that succeeds. -/
theorem result_current_of_succeeds {resolver : Resolver} {machine : Machine} {strategy : Strategy}
    {behaviour : Machine.Behaviour} (ran : resolver.ran? machine = some (strategy, behaviour))
    (succeeds : behaviour.Succeeds resolver.limit) :
    (resolver.current machine).result =
      resolver.addressOf strategy
        (String.ofList (Text.trim (Text.Utf8.decode behaviour.output))) := by
  obtain ⟨command, chosen, started⟩ := (resolver.ran?_eq_some_iff machine _ _).mp ran
  have printed := (Command.result_runForOutput_eq_ok_iff machine resolver.limit command _).mpr
    ⟨behaviour, started, succeeds, rfl⟩
  rw [current, chosen]
  simp only [Act.result_after, Act.result_map, printed]
  rfl

/-- Trimming the output of a tool loses no address.  In the reports of `ip` and `ifconfig` the same one
is read without it, and in that of `tailscale` it is the first line that is not blank. -/
theorem trimming_loses_no_address :
    (∀ family output, Strategy.iproute2.parse? family (String.ofList (Text.trim output)) =
      Strategy.iproute2.parse? family (String.ofList output)) ∧
    (∀ family output, Strategy.ifconfig.parse? family (String.ofList (Text.trim output)) =
      Strategy.ifconfig.parse? family (String.ofList output)) ∧
    (∀ family output, Strategy.tailscale.parse? family (String.ofList (Text.trim output)) =
      ((Text.lines output).find? fun line => !line.all Text.isBlank).map
        fun line => String.ofList (Text.trim line)) ∧
    (∀ family line rest, '\n' ∉ line →
      Strategy.tailscale.parse? family (String.ofList (line ++ '\n' :: rest)) =
        if line.all Text.isBlank then none else some (String.ofList (Text.trim line))) ∧
    ∀ (resolver : Resolver) machine strategy behaviour,
      resolver.ran? machine = some (strategy, behaviour) → behaviour.Succeeds resolver.limit →
        (resolver.current machine).result = resolver.addressOf strategy
          (String.ofList (Text.trim (Text.Utf8.decode behaviour.output))) := by
  refine ⟨?_, ?_, ?_, ?_, ?_⟩
  · intro family output
    rw [Strategy.parse?_iproute2, Strategy.parse?_iproute2, String.toList_ofList,
      String.toList_ofList, Report.iproute2?_trim]
  · intro family output
    rw [Strategy.parse?_ifconfig, Strategy.parse?_ifconfig, String.toList_ofList,
      String.toList_ofList, Report.ifconfig?_trim]
  · intro family output
    rw [Strategy.parse?_tailscale, String.toList_ofList, Report.tailscale?_trim,
      Report.firstFilledLine?, Option.map_map]
    rfl
  · intro family line rest unended
    rw [Strategy.parse?_tailscale, String.toList_ofList, Report.tailscale?_line_append unended]
    by_cases blank : line.all Text.isBlank = true
    · rw [if_pos blank, if_pos blank, Option.map_none]
    · rw [if_neg blank, if_neg blank, Option.map_some]
  · intro resolver machine strategy behaviour ran succeeds
    exact result_current_of_succeeds ran succeeds

theorem address_behind_blank_lines_is_read :
    let report := "\n \r\n 100.64.0.7 \n"
    let resolver : Resolver := { interface := "tailscale", family := .ipv4 }
    let host := Watcher.hostWith "tailscale" (Watcher.printing report (.exited 0))
    Strategy.tailscale.parse? .ipv4 report = none ∧
    (resolver.current host).result = .ok "100.64.0.7" := by
  intro report resolver host
  obtain ⟨_, _, trimmed, untrimmed, current⟩ := trimming_loses_no_address
  constructor
  · exact (untrimmed .ipv4 [] " \r\n 100.64.0.7 \n".toList (by decide)).trans rfl
  · have ran : resolver.ran? host = some (.tailscale, Watcher.printing report (.exited 0)) := by
      decide +kernel
    have printed : Text.Utf8.decode (Watcher.printing report (.exited 0)).output =
        report.toList := by
      decide +kernel
    rw [current resolver host _ _ ran ⟨rfl, by decide⟩, printed, addressOf_eq_ok_iff, trimmed]
    decide +kernel

end AddressWatch.Resolver
