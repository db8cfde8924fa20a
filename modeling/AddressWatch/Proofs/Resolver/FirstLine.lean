import AddressWatch.Proofs.Resolver.Report

/-!
# The line on which an address is read

A report of `ip addr show` is read up to the first line in which an address occurs, and one of `ifconfig`
up to the first line with a word that can be used.  What stands on the lines before does not matter.
-/

namespace AddressWatch.Resolver.Report

/-! ## Reports of `ip addr show` -/

/-- Lines about version 6 addresses of link scope are passed over. -/
def IsPassedOver (family : Family) (line : List Char) : Prop :=
  family = .ipv6 ∧ "scope link".toList <:+: line

theorem isLinkScoped_iff (family : Family) (line : List Char) :
    isLinkScoped family line = true ↔ IsPassedOver family line := by
  rw [isLinkScoped, Bool.and_eq_true, Text.contains_iff_isInfix, Family.isIPv6, beq_iff_eq]
  rfl

theorem isLinkScoped_trim (family : Family) (line : List Char) :
    isLinkScoped family (Text.trim line) = isLinkScoped family line := by
  have begins : ∀ char ∈ "scope link".toList.head?, Text.isBlank char = false := by
    rintro _ ⟨⟩
    decide
  have ends : ∀ char ∈ "scope link".toList.getLast?, Text.isBlank char = false := by
    rintro _ ⟨⟩
    decide
  rw [Bool.eq_iff_iff, isLinkScoped_iff, isLinkScoped_iff, IsPassedOver, IsPassedOver,
    Text.isInfix_trim_iff (by decide) begins ends]

theorem iproute2Line?_trim (family : Family) (line : List Char) :
    iproute2Line? family (Text.trim line) = iproute2Line? family line := by
  rw [iproute2Line?, isLinkScoped_trim, addressIn?_trim, iproute2Line?]

theorem iproute2Line?_nil (family : Family) : iproute2Line? family [] = none := by
  cases family <;> rfl

theorem iproute2Line?_eq_some_iff (family : Family) (line address : List Char) :
    iproute2Line? family line = some address ↔
      ¬ IsPassedOver family line ∧ OccursFirst family line address := by
  rw [iproute2Line?, Option.ite_none_left_eq_some, isLinkScoped_iff, addressIn?_eq_some_iff]

theorem iproute2Line?_eq_none_iff (family : Family) (line : List Char) :
    iproute2Line? family line = none ↔
      (¬ IsPassedOver family line → ¬ HasOccurrence family line) := by
  rw [iproute2Line?, ← isLinkScoped_iff, ← addressIn?_eq_none_iff]
  by_cases confined : isLinkScoped family line = true <;> simp [confined]

/-- It makes no difference whether the carriage return at the end of an unfinished line is kept. -/
theorem iproute2?_eq_findSome?_splitAt (family : Family) (output : List Char) :
    iproute2? family output =
      ((Text.splitAt '\n' output).map Text.dropReturn).findSome? (iproute2Line? family) := by
  have trimmed := Text.findSome?_filled (iproute2Line?_trim family) (iproute2Line?_nil family)
  rw [iproute2?_eq_findSome?, ← trimmed, Text.filled_lines, ← trimmed (List.map _ _),
    Text.filled_map_dropReturn]

/-- The address in a report of `ip addr show` is the one that occurs first in the first line that is not
passed over and has one. -/
theorem first_occurring_address_is_read (family : Family) (output : String) :
    let lines := (Text.splitAt '\n' output.toList).map Text.dropReturn
    (∀ address, Strategy.iproute2.parse? family output = some address ↔
      ∃ earlier line later, lines = earlier ++ line :: later ∧
        ¬ IsPassedOver family line ∧ OccursFirst family line address.toList ∧
        ∀ other ∈ earlier, ¬ IsPassedOver family other → ¬ HasOccurrence family other) ∧
    (Strategy.iproute2.parse? family output = none ↔
      ∀ line ∈ lines, ¬ IsPassedOver family line → ¬ HasOccurrence family line) := by
  intro lines
  rw [Strategy.parse?_iproute2, iproute2?_eq_findSome?_splitAt]
  constructor
  · intro address
    rw [Text.map_ofList_eq_some_iff, List.findSome?_eq_some_iff]
    simp only [iproute2Line?_eq_some_iff, iproute2Line?_eq_none_iff, and_assoc]
    rfl
  · rw [Option.map_eq_none_iff, List.findSome?_eq_none_iff]
    simp only [iproute2Line?_eq_none_iff]
    rfl

example : Strategy.iproute2.parse? .ipv4
    "inet6 1 inet x inet\t192.0.2.5/24 inet 10.0.0.1\n" = some "192.0.2.5" := by
  decide

/-! ## Reports of `ifconfig` -/

/-- A line in front of a report is read before it. -/
theorem ifconfig?_line_append (family : Family) {line : List Char} (unended : '\n' ∉ line)
    (rest : List Char) :
    ifconfig? family (line ++ '\n' :: rest) =
      (ifconfigLine? family line).or (ifconfig? family rest) := by
  rw [ifconfig?, Text.lines_append_lineFeed unended, List.findSome?_cons, ← ifconfigLine?_trim,
    Text.trim_dropReturn, ifconfigLine?_trim, ifconfig?]
  cases ifconfigLine? family line <;> rfl

theorem ifconfig?_append_of_unusable {family : Family} {unusable : List (List Char)}
    (each : ∀ line ∈ unusable, '\n' ∉ line ∧ ∀ word, ¬ Usable family line word)
    (rest : List Char) :
    ifconfig? family (unusable.flatMap (· ++ ['\n']) ++ rest) = ifconfig? family rest := by
  induction unusable with
  | nil => rfl
  | cons line unusable inductionHypothesis =>
      rw [List.forall_mem_cons] at each
      obtain ⟨⟨unended, nothing⟩, others⟩ := each
      rw [List.flatMap_cons, List.append_assoc, List.append_assoc, List.singleton_append,
        ifconfig?_line_append family unended, (ifconfigLine?_eq_none_iff family line).mpr nothing,
        Option.none_or]
      exact inductionHypothesis others

/-- The address in a report of `ifconfig` is that of the word on the first line with one that can be
used.  Lines without such a word do not matter. -/
theorem first_usable_word_is_read (family : Family) (output : String) :
    (∀ address, Strategy.ifconfig.parse? family output = some address ↔
      ∃ earlier line later word, Text.lines output.toList = earlier ++ line :: later ∧
        Usable family line word ∧ IsAddressOf family word address.toList ∧
        ∀ other ∈ earlier, ∀ word, ¬ Usable family other word) ∧
    (Strategy.ifconfig.parse? family output = none ↔
      ∀ line ∈ Text.lines output.toList, ∀ word, ¬ Usable family line word) ∧
    (family = .ipv6 → ∀ address, Strategy.ifconfig.parse? family output = some address →
      '%' ∉ address.toList ∧ (∀ char ∈ address.toList, Text.isBlank char = false) ∧
        ¬ IsConfined address.toList) ∧
    ∀ unusable : List (List Char),
      (∀ line ∈ unusable, '\n' ∉ line ∧ ∀ word, ¬ Usable family line word) →
        Strategy.ifconfig.parse? family (Listing.printed unusable ++ output) =
          Strategy.ifconfig.parse? family output := by
  have found (address : String) : Strategy.ifconfig.parse? family output = some address ↔
      ∃ earlier line later word, Text.lines output.toList = earlier ++ line :: later ∧
        Usable family line word ∧ IsAddressOf family word address.toList ∧
        ∀ other ∈ earlier, ∀ word, ¬ Usable family other word := by
    rw [Strategy.parse?_ifconfig, Text.map_ofList_eq_some_iff, ifconfig?,
      List.findSome?_eq_some_iff]
    simp only [ifconfigLine?_eq_some_iff, ifconfigLine?_eq_none_iff]
    grind
  refine ⟨found, ?_, ?_, ?_⟩
  · rw [Strategy.parse?_ifconfig, Option.map_eq_none_iff, ifconfig?, List.findSome?_eq_none_iff]
    simp only [ifconfigLine?_eq_none_iff]
  · rintro rfl address parsed
    obtain ⟨_, _, _, word, _, usable, isAddress, _⟩ := (found address).mp parsed
    exact usable.unconfined_address isAddress
  · intro unusable each
    rw [Strategy.parse?_ifconfig, Strategy.parse?_ifconfig, String.toList_append,
      Listing.printed, String.toList_ofList, ifconfig?_append_of_unusable each]

end AddressWatch.Resolver.Report
