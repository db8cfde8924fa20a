import AddressWatch.Proofs.Address.Grammar
import AddressWatch.Proofs.Resolver.Report
import AddressWatch.Proofs.Watcher.Provenance

/-!
# Where an address is cut short

A report of `ip addr show` is read up to the first character that is no lower-case hexadecimal digit
and no colon.  A version 6 address is therefore read whole exactly when it is written without capital
letters and without a dotted quad.  What is left of another one may be an address itself.
-/

namespace AddressWatch.Resolver

namespace Report

theorem isAddressChar_of_iproute2? {family : Family} {output address : List Char}
    (found : iproute2? family output = some address) :
    ∀ char ∈ address, isAddressChar family char = true := by
  rw [iproute2?_eq_findSome?] at found
  obtain ⟨line, _, read⟩ := List.exists_of_findSome?_eq_some found
  obtain ⟨_, _, _, occurrence, _⟩ :=
    (addressIn?_eq_some_iff _ _ _).mp (iproute2Line?_eq_some read).2
  intro char membership
  exact (isAddressChar_iff_mem_alphabet family char).mpr (occurrence.address_subset membership)

theorem addressIn?_append_of_blank {family : Family} {indentation : List Char}
    (blank : ∀ char ∈ indentation, Text.isBlank char = true) (rest : List Char) :
    addressIn? family (indentation ++ rest) = addressIn? family rest := by
  induction indentation with
  | nil => rfl
  | cons char indentation inductionHypothesis =>
      rw [List.forall_mem_cons] at blank
      have other : char ≠ 'i' := by
        rintro rfl
        exact absurd blank.1 (by decide)
      rw [List.cons_append, addressIn?_cons_of_ne other, inductionHypothesis blank.2]

theorem isAddressChar_ipv6_iff (char : Char) :
    isAddressChar .ipv6 char = true ↔
      ('0' ≤ char ∧ char ≤ '9') ∨ ('a' ≤ char ∧ char ≤ 'f') ∨ char = ':' := by
  simp only [isAddressChar, Bool.or_eq_true, Bool.and_eq_true, decide_eq_true_eq, beq_iff_eq,
    Text.isDigit_iff, or_assoc]

/-- Whether a line has a version 6 address that is not confined to its link. -/
def offersAddress (line : List Char) : Bool :=
  Text.contains (keyword .ipv6) line && !isLinkScoped .ipv6 line

theorem iproute2Line?_of_not_offersAddress {line : List Char}
    (without : offersAddress line = false) : iproute2Line? .ipv6 line = none := by
  rw [Option.eq_none_iff_forall_ne_some]
  intro address found
  obtain ⟨unscoped, read⟩ := iproute2Line?_eq_some found
  obtain ⟨_, _, _, occurrence, _⟩ := (addressIn?_eq_some_iff _ _ _).mp read
  have mentioned : Text.contains (keyword .ipv6) line = true :=
    (Text.contains_iff_isInfix _ _).mpr occurrence.keyword_isInfix
  rw [offersAddress, mentioned, unscoped] at without
  contradiction

/-- The first address in the report is written as the text: behind the indentation its line has the
keyword, a space, the text and a slash. -/
inductive Presents (output text : List Char) : Prop
  | line {indentation rest : List Char}
      (blank : ∀ char ∈ indentation, Text.isBlank char = true)
      (first : (Text.lines output).find? offersAddress =
        some (indentation ++ (keyword .ipv6 ++ ' ' :: (text ++ '/' :: rest)))) :
      Presents output text

/-- Without capital letters and without a dotted quad. -/
def IsPlain (text : List Char) : Prop :=
  ∀ char ∈ text, ¬ ('A' ≤ char ∧ char ≤ 'F') ∧ char ≠ '.'

theorem isAddressChar_iff_plain {char : Char}
    (written : Text.IsHexDigit char ∨ char = ':' ∨ char = '.') :
    isAddressChar .ipv6 char = true ↔ ¬ ('A' ≤ char ∧ char ≤ 'F') ∧ char ≠ '.' := by
  rw [isAddressChar_ipv6_iff]
  simp only [Text.IsHexDigit, Text.le_iff_toNat_le, ← Char.toNat_inj, ne_eq,
    Char.reduceToNat] at written ⊢
  omega

theorem findSome?_of_find? {α β : Type} {admits : α → Bool} {read : α → Option β}
    (others : ∀ item, admits item = false → read item = none) {items : List α} {item : α}
    {value : β} (first : items.find? admits = some item) (found : read item = some value) :
    items.findSome? read = some value := by
  induction items with
  | nil => contradiction
  | cons other items inductionHypothesis =>
      rw [List.find?_cons] at first
      rw [List.findSome?_cons]
      cases admitted : admits other with
      | true =>
          rw [admitted] at first
          obtain rfl := Option.some.inj first
          rw [found]
      | false =>
          rw [admitted] at first
          rw [others other admitted, inductionHypothesis first]

/-- What can be read of the first address is read. -/
theorem Presents.iproute2?_eq {output text : List Char} (presented : Presents output text)
    (begins : text.takeWhile (isAddressChar .ipv6) ≠ []) :
    iproute2? .ipv6 output = some (text.takeWhile (isAddressChar .ipv6)) := by
  obtain @⟨indentation, rest, blank, first⟩ := presented
  have spelled : text.takeWhile (isAddressChar .ipv6) ⊆ Listing.alphabet .ipv6 := by
    intro char membership
    rw [← isAddressChar_iff_mem_alphabet]
    exact List.all_eq_true.mp List.all_takeWhile char membership
  have ended : ∀ char ∈ (text.dropWhile (isAddressChar .ipv6) ++ '/' :: rest).head?,
      char ∉ Listing.alphabet .ipv6 := by
    have stopped := Text.head_of_dropWhile (isAddressChar .ipv6) text
    cases remaining : text.dropWhile (isAddressChar .ipv6) with
    | nil =>
        rintro _ ⟨⟩
        decide
    | cons char others =>
        rw [remaining] at stopped
        rintro _ ⟨⟩
        exact (isAddressChar_eq_false_iff _ _).mp (stopped char rfl)
  have parts := List.takeWhile_append_dropWhile (p := isAddressChar .ipv6) (l := text)
  have occurrence : Occurrence .ipv6 (keyword .ipv6 ++ ' ' :: (text ++ '/' :: rest)) [] [' ']
      (text.takeWhile (isAddressChar .ipv6))
      (text.dropWhile (isAddressChar .ipv6) ++ '/' :: rest) :=
    { line_eq := by rw [← List.append_assoc (text.takeWhile _), parts]; rfl
      blanks_ne_nil := List.cons_ne_nil _ _
      blank := List.all_eq_true.mp (by decide)
      address_ne_nil := begins
      address_subset := spelled
      ended := ended }
  have offered := List.find?_some first
  rw [offersAddress, Bool.and_eq_true, Bool.not_eq_true'] at offered
  rw [iproute2?_eq_findSome?]
  refine findSome?_of_find? (fun _ => iproute2Line?_of_not_offersAddress) first ?_
  rw [iproute2Line?, if_neg (by simp [offered.2]), addressIn?_append_of_blank blank]
  exact addressIn?_of_addressHere? ((addressHere?_eq_some_iff _ _ _).mpr ⟨_, _, occurrence⟩)

end Report

/-- The first version 6 address of a report of `ip addr show` is read whole exactly when it is written
without capital letters and without a dotted quad.  Otherwise it is cut in front of the first of
these. -/
theorem addresses_are_read_whole_if_plain {output text : String}
    (presented : Report.Presents output.toList text.toList)
    (valid : Address.isValid text .ipv6 = true) :
    (Strategy.iproute2.parse? .ipv6 output = some text ↔ Report.IsPlain text.toList) ∧
    (text.toList.takeWhile (Report.isAddressChar .ipv6) ≠ [] →
      Strategy.iproute2.parse? .ipv6 output =
        some (String.ofList (text.toList.takeWhile (Report.isAddressChar .ipv6)))) := by
  have isText := (Address.isValid_ipv6_iff text).mp valid
  rw [Strategy.parse?_iproute2]
  refine ⟨⟨?_, ?_⟩, fun begins => by rw [presented.iproute2?_eq begins]; rfl⟩
  · intro whole
    obtain ⟨address, read, rfl⟩ := Option.map_eq_some_iff.mp whole
    rw [String.toList_ofList] at isText ⊢
    intro char membership
    rw [← Report.isAddressChar_iff_plain (isText.isHexDigit_or_separator char membership)]
    exact Report.isAddressChar_of_iproute2? read char membership
  · intro plain
    have all : text.toList.takeWhile (Report.isAddressChar .ipv6) = text.toList := by
      rw [List.takeWhile_eq_self_iff]
      intro char membership
      exact (Report.isAddressChar_iff_plain (isText.isHexDigit_or_separator char membership)).mpr
        (plain char membership)
    have begins : text.toList.takeWhile (Report.isAddressChar .ipv6) ≠ [] := by
      rw [all]
      exact List.ne_nil_of_mem isText.colon_mem
    rw [presented.iproute2?_eq begins, all, Option.map_some, String.ofList_toList]

theorem plain_address_is_read_whole :
    let report := "    inet6 2001:db8::5/64 scope global dynamic\n"
    Report.Presents report.toList "2001:db8::5".toList ∧
    Address.isValid "2001:db8::5" .ipv6 = true ∧
    (Strategy.iproute2.parse? .ipv6 report = some "2001:db8::5" ↔
      Report.IsPlain "2001:db8::5".toList) := by
  intro report
  have presented : Report.Presents report.toList "2001:db8::5".toList :=
    @Report.Presents.line _ _ "    ".toList "64 scope global dynamic".toList
      (List.all_eq_true.mp (by decide)) (by decide +kernel)
  have valid : Address.isValid "2001:db8::5" .ipv6 = true := by decide +kernel
  exact ⟨presented, valid, (addresses_are_read_whole_if_plain presented valid).1⟩

/-- What is left of an address may be another one, and is published. -/
theorem addresses_can_be_cut_short :
    let report := "    inet6 ::ffff:192.0.2.1/96 scope global\n"
    let host := Watcher.hostWith "ip" (Watcher.printing report (.exited 0))
    Report.Presents report.toList "::ffff:192.0.2.1".toList ∧
    Address.isValid "::ffff:192.0.2.1" .ipv6 = true ∧
    Address.isValid "::ffff:192" .ipv6 = true ∧
    Strategy.iproute2.parse? .ipv6 report = some "::ffff:192" ∧
    ((⟨Watcher.officeWatcher, 0⟩ : Watcher.Session Nat).performAll
      (Watcher.World.ofHosts (.ofConfig Watcher.officeSettings) "rest" (fun _ => host)
        fun _ _ => .done (.applied 200)) [.poll]).1.flatMap Watcher.Report.attempts = [
          some ⟨Watcher.officeWatcher.recordFor "::ffff:192", some (.applied 200)⟩] := by
  refine ⟨@Report.Presents.line _ _ "    ".toList "96 scope global".toList
    (List.all_eq_true.mp (by decide)) (by decide +kernel), ?_⟩
  decide +kernel

end AddressWatch.Resolver
