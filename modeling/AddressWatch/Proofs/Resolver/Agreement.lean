import AddressWatch.Proofs.Resolver.Report
import AddressWatch.Resolver.Listing
import Mathlib.Data.List.TakeWhile

/-!
# The two reports about one listing

Whichever of the two reports a host prints about the addresses of an interface, the same address is
found in it: the first one of the family that is not link-local.  Each line is read on its own, and
what is read in it depends on the entry that it is about, not on the report.
-/

namespace AddressWatch.Resolver

/-! ## The lines of a listing -/

namespace Listing

theorem of_mem_alphabet {family : Family} {char : Char} (membership : char ∈ alphabet family) :
    char ≠ '%' ∧ char.toLower = char := by
  have each : (alphabet family).all (fun char => char != '%' && char.toLower == char) = true := by
    cases family <;> decide
  simpa using List.all_eq_true.mp each char membership

theorem Word.ne_keyword (word : Word) (family : Family) : Report.keyword family ≠ word.chars := by
  intro same
  apply word.plain
  rw [← same]
  exact (Report.inet_isPrefix_keyword family).isInfix

theorem Word.unbroken_of_mem {words : List Word} {piece : List Char}
    (membership : piece ∈ words.map Word.chars) : ∀ char ∈ piece, Text.isBlank char = false := by
  obtain ⟨word, _, rfl⟩ := List.mem_map.mp membership
  exact word.unbroken

theorem keyword_not_mem_words (family : Family) (words : List Word) :
    Report.keyword family ∉ words.map Word.chars := by
  intro membership
  obtain ⟨word, _, same⟩ := List.mem_map.mp membership
  exact word.ne_keyword family same.symm

namespace Entry

variable (entry : Entry)

theorem keyword_eq : entry.keyword = Report.keyword entry.family := by
  unfold keyword
  cases entry.family <;> rfl

theorem keyword_unbroken : ∀ char ∈ entry.keyword, Text.isBlank char = false := by
  apply Text.forall_isBlank_eq_false
  unfold keyword
  cases entry.family <;> decide

theorem prefixText_unbroken : ∀ char ∈ entry.prefixText, Text.isBlank char = false := by
  intro char membership
  apply Text.isBlank_of_isDigit
  have digits : entry.prefixText = Nat.toDigits 10 entry.prefixLength := String.toList_ofList
  rw [digits] at membership
  exact Nat.isDigit_of_mem_toDigits (by decide) (by decide) membership

theorem address_unbroken : ∀ char ∈ entry.address, Text.isBlank char = false := fun _ membership =>
  Report.isBlank_of_mem_alphabet (entry.address_subset membership)

theorem queryPieces_unbroken : ∀ piece ∈ entry.keyword ::
    (entry.address ++ '/' :: entry.prefixText) :: entry.queryDetails,
    ∀ char ∈ piece, Text.isBlank char = false := by
  intro piece membership
  simp only [queryDetails, List.mem_cons, List.mem_append] at membership
  rcases membership with rfl | rfl | leading | rfl | rfl | trailing
  · exact entry.keyword_unbroken
  · intro char inside
    rcases List.mem_append.mp inside with inAddress | inLength
    · exact entry.address_unbroken char inAddress
    · rcases List.mem_cons.mp inLength with rfl | inLength
      · decide
      · exact entry.prefixText_unbroken char inLength
  · exact Word.unbroken_of_mem leading
  · exact Text.forall_isBlank_eq_false (by decide)
  · exact entry.scope.unbroken
  · exact Word.unbroken_of_mem trailing

theorem zonedAddress_unbroken : ∀ char ∈ entry.zonedAddress, Text.isBlank char = false := by
  intro char inside
  unfold zonedAddress at inside
  split at inside
  next zone _ _ =>
    rcases List.mem_append.mp inside with inAddress | inZone
    · exact entry.address_unbroken char inAddress
    · rcases List.mem_cons.mp inZone with rfl | inZone
      · decide
      · exact zone.unbroken char inZone
  next => exact entry.address_unbroken char inside

theorem interfacePieces_unbroken : ∀ piece ∈ entry.keyword :: entry.zonedAddress ::
    entry.interfaceDetails, ∀ char ∈ piece, Text.isBlank char = false := by
  intro piece membership
  rcases List.mem_cons.mp membership with rfl | membership
  · exact entry.keyword_unbroken
  rcases List.mem_cons.mp membership with rfl | membership
  · exact entry.zonedAddress_unbroken
  unfold interfaceDetails at membership
  split at membership
  · rcases List.mem_cons.mp membership with rfl | membership
    · exact Text.forall_isBlank_eq_false (by decide)
    · exact Word.unbroken_of_mem membership
  · rcases List.mem_cons.mp membership with rfl | membership
    · exact Text.forall_isBlank_eq_false (by decide)
    rcases List.mem_cons.mp membership with rfl | membership
    · exact entry.prefixText_unbroken
    · exact Word.unbroken_of_mem membership

/-- The only blanks in the lines about an address are those between words and in front. -/
theorem not_mem_queryLine {blank : Char} (isBlank : Text.isBlank blank = true)
    (other : blank ≠ ' ') : blank ∉ entry.queryLine := by
  intro membership
  rcases List.mem_append.mp membership with indented | membership
  · apply other
    simpa using indented
  · exact other (Text.eq_of_isBlank_of_mem_intercalate entry.queryPieces_unbroken isBlank membership)

theorem not_mem_interfaceLine {blank : Char} (isBlank : Text.isBlank blank = true)
    (other : blank ≠ ' ') (notTab : blank ≠ '\t') : blank ∉ entry.interfaceLine := by
  intro membership
  rcases List.mem_cons.mp membership with indented | membership
  · exact notTab indented
  · exact other
      (Text.eq_of_isBlank_of_mem_intercalate entry.interfacePieces_unbroken isBlank membership)

/-! ### The line in the report for one family -/

theorem addressIn?_queryLine :
    Report.addressIn? entry.family entry.queryLine = some entry.address := by
  have line : entry.queryLine = ' ' :: ' ' :: ' ' :: ' ' ::
      (Report.keyword entry.family ++ ' ' :: (entry.address ++
        '/' :: (entry.prefixText ++ entry.queryDetails.flatMap ([' '] ++ ·)))) := by
    rw [queryLine, keyword_eq, Text.intercalate_cons_eq_append_flatMap, List.flatMap_cons]
    simp
  have occurrence : Report.Occurrence entry.family _ [] [' '] entry.address
      ('/' :: (entry.prefixText ++ entry.queryDetails.flatMap ([' '] ++ ·))) :=
    { line_eq := rfl
      blanks_ne_nil := List.cons_ne_nil _ _
      blank := List.all_eq_true.mp (by decide)
      address_ne_nil := entry.address_ne_nil
      address_subset := entry.address_subset
      ended := by rintro _ ⟨⟩; cases entry.family <;> decide }
  have here := (Report.addressHere?_eq_some_iff _ _ _).mpr ⟨_, _, occurrence⟩
  rw [line]
  iterate 4 rw [Report.addressIn?_cons_of_ne (by decide)]
  exact Report.addressIn?_of_addressHere? here

theorem isLinkScoped_queryLine (marked : entry.IsScoped) :
    Report.isLinkScoped entry.family entry.queryLine = entry.isLinkLocal := by
  rw [Report.isLinkScoped, isLinkLocal]
  cases family : entry.family with
  | ipv4 => rfl
  | ipv6 =>
      congr 1
      rw [Bool.eq_iff_iff, Text.contains_iff_isInfix, List.isPrefixOf_iff_prefix]
      exact marked family

/-! ### The line in the report for both families -/

theorem words_interfaceLine : Text.words entry.interfaceLine =
    entry.keyword :: entry.zonedAddress :: entry.interfaceDetails.filter (· ≠ []) := by
  have keyword_ne_nil : entry.keyword ≠ [] := by
    unfold keyword
    cases entry.family <;> decide
  have zonedAddress_ne_nil : entry.zonedAddress ≠ [] := by
    unfold zonedAddress
    split <;> simp [entry.address_ne_nil]
  rw [interfaceLine, Text.words_cons_blank (by decide),
    Text.words_intercalate entry.interfacePieces_unbroken,
    List.filter_cons_of_pos (by simpa using keyword_ne_nil),
    List.filter_cons_of_pos (by simpa using zonedAddress_ne_nil)]

theorem zonedAddress_ne_keyword (family : Family) :
    Report.keyword family ≠ entry.zonedAddress := by
  intro same
  -- An address does not begin with the first letter of a keyword.
  have opening : entry.zonedAddress.head? = some 'i' := by
    rw [← same]
    cases family <;> rfl
  have address : entry.zonedAddress.head? = entry.address.head? := by
    unfold zonedAddress
    split
    · exact List.head?_append_of_ne_nil _ entry.address_ne_nil
    · rfl
  rw [address] at opening
  have spelled := entry.address_subset (List.mem_of_head? opening)
  have absent : 'i' ∉ alphabet entry.family := by cases entry.family <;> decide
  exact absent spelled

theorem keyword_not_mem_interfaceDetails (family : Family) :
    Report.keyword family ∉ entry.interfaceDetails := by
  have numeric : Report.keyword family ≠ entry.prefixText := by
    intro same
    have digits : entry.prefixText = Nat.toDigits 10 entry.prefixLength := String.toList_ofList
    have letter : 'i' ∈ Nat.toDigits 10 entry.prefixLength := by
      rw [← digits, ← same]
      cases family <;> decide
    have := Nat.isDigit_of_mem_toDigits (by decide) (by decide) letter
    contradiction
  have ownWords : Report.keyword family ≠ "netmask".toList ∧
      Report.keyword family ≠ "prefixlen".toList := by
    cases family <;> decide
  have words := keyword_not_mem_words family entry.details
  unfold interfaceDetails
  split
  · rw [List.mem_cons, not_or]
    exact ⟨ownWords.1, words⟩
  · rw [List.mem_cons, List.mem_cons, not_or, not_or]
    exact ⟨ownWords.2, numeric, words⟩

theorem map_toLower_address : entry.address.map Char.toLower = entry.address := by
  refine (List.map_congr_left ?_).trans (List.map_id _)
  intro char membership
  exact (of_mem_alphabet (entry.address_subset membership)).2

/-- A zone does not change how an address begins. -/
theorem beginsLinkLocal_zonedAddress :
    Report.beginsLinkLocal entry.zonedAddress = "fe80".toList.isPrefixOf entry.address := by
  unfold Report.beginsLinkLocal zonedAddress
  split
  · rw [List.map_append, map_toLower_address, List.map_cons, Bool.eq_iff_iff,
      List.isPrefixOf_iff_prefix, List.isPrefixOf_iff_prefix]
    exact Text.isPrefix_append_cons_iff (by decide) _ _
  · rw [map_toLower_address]

theorem takeWhile_zonedAddress : entry.zonedAddress.takeWhile (· != '%') = entry.address := by
  rw [← Report.isAddressOf_iff_takeWhile_eq]
  constructor
  · intro membership
    exact (of_mem_alphabet (entry.address_subset membership)).1 rfl
  · unfold zonedAddress
    split
    next zone _ _ => exact Or.inr ⟨zone.chars, rfl⟩
    next => exact Or.inl rfl

theorem ifconfigLine?_interfaceLine (family : Family) :
    Report.ifconfigLine? family entry.interfaceLine =
      if entry.family = family ∧ entry.isLinkLocal = false then some entry.address else none := by
  rw [Report.ifconfigLine?, words_interfaceLine, keyword_eq]
  by_cases same : entry.family = family
  · subst same
    rw [Report.wordAfterKeyword?, if_pos rfl, List.head?_cons]
    have beginning := entry.beginsLinkLocal_zonedAddress
    have text := entry.takeWhile_zonedAddress
    cases family : entry.family with
    | ipv4 => simp [isLinkLocal, zonedAddress, family, Family.isIPv6]
    | ipv6 =>
        simp only [isLinkLocal, family, Family.isIPv6, beginning, text]
        cases "fe80".toList.isPrefixOf entry.address <;> rfl
  · have absent : Report.keyword family ∉ Report.keyword entry.family :: entry.zonedAddress ::
        entry.interfaceDetails.filter (· ≠ []) := by
      have otherKeyword : Report.keyword family ≠ Report.keyword entry.family := fun keywords =>
        same (Report.keyword_injective keywords).symm
      have details : Report.keyword family ∉ entry.interfaceDetails.filter (· ≠ []) := fun found =>
        entry.keyword_not_mem_interfaceDetails family (List.mem_of_mem_filter found)
      rw [List.mem_cons, List.mem_cons, not_or, not_or]
      exact ⟨otherKeyword, entry.zonedAddress_ne_keyword family, details⟩
    rw [Report.wordAfterKeyword?_eq_none absent, if_neg fun both => same both.1]

end Entry

/-! ## The reports -/

/-- The address that a line says the interface has, if it is of the family and not link-local. -/
def Line.address? (family : Family) : Line → Option (List Char)
  | other _ => none
  | about entry =>
      if entry.family = family ∧ entry.isLinkLocal = false then some entry.address else none

theorem Heading.plain_dropReturn (heading : Heading) :
    ¬ "inet".toList <:+: Text.dropReturn heading.chars := fun found =>
  heading.plain (found.trans (Text.dropReturn_isPrefix heading.chars).isInfix)

theorem iproute2Line?_queryText {family : Family} {line : Line}
    (shown : line.isShown family = true) (marked : ∀ entry ∈ line.entry?, entry.IsScoped) :
    Report.iproute2Line? family (Text.dropReturn line.queryText) = line.address? family := by
  cases line with
  | other heading =>
      rw [Line.queryText, Report.iproute2Line?,
        Report.addressIn?_of_not_isInfix heading.plain_dropReturn, ite_self]
      rfl
  | about entry =>
      obtain rfl : entry.family = family := eq_of_beq shown
      rw [Line.queryText,
        Text.dropReturn_of_not_mem (entry.not_mem_queryLine (by decide) (by decide)),
        Report.iproute2Line?, entry.isLinkScoped_queryLine (marked entry rfl),
        entry.addressIn?_queryLine, Line.address?]
      cases entry.isLinkLocal <;> simp

theorem ifconfigLine?_interfaceText (family : Family) (line : Line) :
    Report.ifconfigLine? family (Text.dropReturn line.interfaceText) = line.address? family := by
  cases line with
  | other heading =>
      have absent : Report.keyword family ∉ Text.words (Text.dropReturn heading.chars) := by
        intro membership
        exact heading.plain_dropReturn ((Report.inet_isPrefix_keyword family).isInfix.trans
          (Text.isInfix_of_mem_words membership))
      rw [Line.interfaceText, Report.ifconfigLine?, Report.wordAfterKeyword?_eq_none absent]
      rfl
  | about entry =>
      rw [Line.interfaceText, Text.dropReturn_of_not_mem
        (entry.not_mem_interfaceLine (by decide) (by decide) (by decide)),
        entry.ifconfigLine?_interfaceLine]
      rfl

theorem not_mem_queryText (line : Line) : '\n' ∉ line.queryText := by
  cases line with
  | other heading => exact heading.oneLine
  | about entry => exact entry.not_mem_queryLine (by decide) (by decide)

theorem not_mem_interfaceText (line : Line) : '\n' ∉ line.interfaceText := by
  cases line with
  | other heading => exact heading.oneLine
  | about entry => exact entry.not_mem_interfaceLine (by decide) (by decide) (by decide)

/-- The lines of a report are read back, apart from carriage returns at their ends. -/
theorem lines_printed_map {text : Line → List Char} (whole : ∀ line, '\n' ∉ text line)
    (lines : List Line) :
    Text.lines (printed (lines.map text)).toList = lines.map (Text.dropReturn ∘ text) := by
  have each : ∀ printedLine ∈ lines.map text, '\n' ∉ printedLine := by
    intro printedLine membership
    obtain ⟨line, _, rfl⟩ := List.mem_map.mp membership
    exact whole line
  rw [printed, String.toList_ofList, Text.lines_flatMap_ended each, List.map_map]

@[simp]
theorem entries_other_cons (heading : Heading) (lines : List Line) :
    entries (.other heading :: lines) = entries lines := rfl

@[simp]
theorem entries_about_cons (entry : Entry) (lines : List Line) :
    entries (.about entry :: lines) = entry :: entries lines := rfl

theorem entries_map_about_append (listed : List Entry) (lines : List Line) :
    entries (listed.map .about ++ lines) = listed ++ entries lines := by
  induction listed with
  | nil => rfl
  | cons entry listed inductionHypothesis =>
      rw [List.map_cons, List.cons_append, entries_about_cons, inductionHypothesis,
        List.cons_append]

/-- The first address that a line tells is that of the first entry to be taken. -/
theorem firstGlobal?_entries (family : Family) (lines : List Line) :
    firstGlobal? family (entries lines) =
      (lines.findSome? (Line.address? family)).map String.ofList := by
  induction lines with
  | nil => rfl
  | cons line lines inductionHypothesis =>
      cases line with
      | other heading =>
          rw [entries_other_cons]
          exact inductionHypothesis
      | about entry =>
          rw [entries_about_cons, List.findSome?_cons, Line.address?]
          by_cases taken : entry.family = family ∧ entry.isLinkLocal = false
          · simp [firstGlobal?, taken]
          · rw [if_neg taken]
            refine Eq.trans ?_ inductionHypothesis
            rw [not_and_or, Bool.not_eq_false] at taken
            rcases taken with other | confined
            · simp [firstGlobal?, other]
            · by_cases same : entry.family = family <;> simp [firstGlobal?, same, confined]

/-- The lines that are left out of the report for a family have no address for it. -/
theorem findSome?_queryText (family : Family) {lines : List Line}
    (marked : ∀ line ∈ lines, ∀ entry ∈ line.entry?, entry.IsScoped) :
    (lines.filter (Line.isShown family)).findSome?
        (fun line => Report.iproute2Line? family (Text.dropReturn line.queryText)) =
      lines.findSome? (Line.address? family) := by
  induction lines with
  | nil => rfl
  | cons line lines inductionHypothesis =>
      rw [List.forall_mem_cons] at marked
      have rest := inductionHypothesis marked.2
      rw [List.filter_cons, List.findSome?_cons]
      split
      next shown => rw [List.findSome?_cons, iproute2Line?_queryText shown marked.1, rest]
      next hidden =>
        have nothing : line.address? family = none := by
          cases line with
          | other heading => rfl
          | about entry =>
              rw [Line.address?, if_neg]
              intro both
              exact hidden (beq_iff_eq.mpr both.1)
        rw [nothing, rest]

theorem parse?_iproute2_queryReport (family : Family) {lines : List Line}
    (marked : ∀ entry ∈ entries lines, entry.IsScoped) :
    Strategy.iproute2.parse? family (queryReport family lines) =
      firstGlobal? family (entries lines) := by
  have each : ∀ line ∈ lines, ∀ entry ∈ line.entry?, entry.IsScoped :=
    fun line among entry isEntry => marked entry (List.mem_filterMap.mpr ⟨line, among, isEntry⟩)
  rw [firstGlobal?_entries, ← findSome?_queryText family each, Strategy.parse?_iproute2,
    queryReport, Report.iproute2?_eq_findSome?, lines_printed_map not_mem_queryText,
    List.findSome?_map]
  rfl

theorem parse?_ifconfig_interfaceReport (family : Family) (lines : List Line) :
    Strategy.ifconfig.parse? family (interfaceReport lines) =
      firstGlobal? family (entries lines) := by
  have each : Report.ifconfigLine? family ∘ Text.dropReturn ∘ Line.interfaceText =
      Line.address? family := funext (ifconfigLine?_interfaceText family)
  rw [firstGlobal?_entries, Strategy.parse?_ifconfig, interfaceReport, Report.ifconfig?,
    lines_printed_map not_mem_interfaceText, List.findSome?_map, each]

/-- The same address is found in two reports about the same addresses, whatever other lines they
have: the first address of the family that is not link-local, if there is one. -/
theorem reports_yield_first_global_address (family : Family) {queried listed : List Line}
    (same : entries queried = entries listed)
    (marked : ∀ entry ∈ entries listed, entry.IsScoped) :
    Strategy.iproute2.parse? family (queryReport family queried) =
        firstGlobal? family (entries listed) ∧
      Strategy.ifconfig.parse? family (interfaceReport listed) =
        firstGlobal? family (entries listed) := by
  refine ⟨?_, parse?_ifconfig_interfaceReport family listed⟩
  rw [← same] at marked ⊢
  exact parse?_iproute2_queryReport family marked

/-! ## An interface with a link-local address in front -/

def Word.ofText (text : String) (unbroken : text.toList.all (!Text.isBlank ·) = true := by decide)
    (plain : ¬ "inet".toList <:+: text.toList := by decide) : Word :=
  ⟨text.toList, Text.forall_isBlank_eq_false unbroken, plain⟩

def wiredAddresses : List Entry :=
  [{ family := .ipv6, address := "fe80::1".toList
     address_ne_nil := by decide, address_subset := by decide
     zone := some (.ofText "eth0"), prefixLength := 64, scope := .ofText "link"
     leading := [], trailing := [], details := [.ofText "secured"] },
   { family := .ipv4, address := "192.0.2.10".toList
     address_ne_nil := by decide, address_subset := by decide
     zone := none, prefixLength := 24, scope := .ofText "global"
     leading := [.ofText "brd", .ofText "192.0.2.255"], trailing := [.ofText "eth0"]
     details := [.ofText "0xffffff00"] },
   { family := .ipv6, address := "2001:db8::10".toList
     address_ne_nil := by decide, address_subset := by decide
     zone := none, prefixLength := 64, scope := .ofText "global"
     leading := [], trailing := [.ofText "dynamic"], details := [] }]

def wiredQuery : List Line :=
  .other ⟨"2: eth0: <UP,LOWER_UP> mtu 1500".toList, by decide, by decide⟩ ::
    (wiredAddresses.map .about ++
      [.other ⟨"       valid_lft forever".toList, by decide, by decide⟩])

def wiredListing : List Line :=
  .other ⟨"eth0: flags=8863<UP> mtu 1500\r".toList, by decide, by decide⟩ ::
    (wiredAddresses.map .about ++ [.other ⟨"\tstatus: active".toList, by decide, by decide⟩])

theorem wired_reports_yield_global_address :
    entries wiredQuery = entries wiredListing ∧
    (∀ entry ∈ entries wiredListing, entry.IsScoped) ∧
    Strategy.iproute2.parse? .ipv6 (queryReport .ipv6 wiredQuery) = some "2001:db8::10" ∧
    Strategy.ifconfig.parse? .ipv6 (interfaceReport wiredListing) = some "2001:db8::10" := by
  have queried : entries wiredQuery = wiredAddresses := entries_map_about_append wiredAddresses _
  have listed : entries wiredListing = wiredAddresses := entries_map_about_append wiredAddresses _
  have same : entries wiredQuery = entries wiredListing := queried.trans listed.symm
  have marked : ∀ entry ∈ entries wiredListing, entry.IsScoped := by
    rw [listed]
    simp only [wiredAddresses, List.forall_mem_cons, Entry.IsScoped]
    decide
  have first : firstGlobal? .ipv6 (entries wiredListing) = some "2001:db8::10" := by
    rw [listed]
    decide
  have found := reports_yield_first_global_address .ipv6 same marked
  rw [first] at found
  exact ⟨same, marked, found⟩

end Listing

end AddressWatch.Resolver
