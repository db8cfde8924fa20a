import AddressWatch.Proofs.Text.Trim
import AddressWatch.Resolver.Report

/-!
# The word that `ifconfig` reports as an address

A line of `ifconfig` can be used if a word follows the first keyword of the family on it, and, for
version 6, this word does not begin like a link-local address.  A zone behind the address is left out.
-/

namespace AddressWatch.Resolver.Report

/-- The word begins with `fe80`, in whatever case its letters are. -/
def IsConfined (word : List Char) : Prop :=
  ∃ opening, opening <+: word ∧ opening.map Char.toLower = "fe80".toList

theorem beginsLinkLocal_iff (word : List Char) :
    beginsLinkLocal word = true ↔ IsConfined word := by
  rw [beginsLinkLocal, List.isPrefixOf_iff_prefix, List.prefix_map_iff]
  simp only [IsConfined, eq_comm]

/-- A word of the line can be used: it follows the first keyword, and is not confined to the link. -/
structure Usable (family : Family) (line word : List Char) : Prop where
  follows : ∃ before after,
    Text.words line = before ++ keyword family :: word :: after ∧ keyword family ∉ before
  unconfined : family = .ipv6 → ¬ IsConfined word

/-- The address is the word, for version 6 up to its zone. -/
def IsAddressOf (family : Family) (word address : List Char) : Prop :=
  match family with
  | .ipv4 => address = word
  | .ipv6 => '%' ∉ address ∧ (word = address ∨ ∃ zone, word = address ++ '%' :: zone)

theorem wordAfterKeyword?_eq_some_iff (family : Family) (words : List (List Char))
    (word : List Char) :
    wordAfterKeyword? family words = some word ↔
      ∃ before after, words = before ++ keyword family :: word :: after ∧
        keyword family ∉ before := by
  induction words with
  | nil => simp [wordAfterKeyword?]
  | cons first rest inductionHypothesis =>
      rw [wordAfterKeyword?]
      by_cases isKeyword : first = keyword family
      · subst isKeyword
        rw [if_pos rfl, List.head?_eq_some_iff]
        constructor
        · rintro ⟨after, rfl⟩
          exact ⟨[], after, rfl, by simp⟩
        · rintro ⟨before, after, words_eq, absent⟩
          cases before with
          | nil => exact ⟨after, (List.cons.inj words_eq).2⟩
          | cons other before =>
              obtain rfl := (List.cons.inj words_eq).1
              exact absurd List.mem_cons_self absent
      · rw [if_neg isKeyword, inductionHypothesis]
        constructor
        · rintro ⟨before, after, rfl, absent⟩
          refine ⟨first :: before, after, rfl, ?_⟩
          rw [List.mem_cons, not_or]
          exact ⟨Ne.symm isKeyword, absent⟩
        · rintro ⟨before, after, words_eq, absent⟩
          cases before with
          | nil => exact absurd (List.cons.inj words_eq).1 isKeyword
          | cons other before =>
              rw [List.mem_cons, not_or] at absent
              exact ⟨before, after, (List.cons.inj words_eq).2, absent.2⟩

theorem wordAfterKeyword?_eq_none {family : Family} {words : List (List Char)}
    (absent : keyword family ∉ words) : wordAfterKeyword? family words = none := by
  rw [Option.eq_none_iff_forall_ne_some]
  intro word found
  obtain ⟨before, after, rfl, _⟩ := (wordAfterKeyword?_eq_some_iff _ _ _).mp found
  apply absent
  simp

/-- The address of version 6 is what stands before the first percent sign. -/
theorem isAddressOf_iff_takeWhile_eq (word address : List Char) :
    IsAddressOf .ipv6 word address ↔ word.takeWhile (· != '%') = address := by
  constructor
  · rintro ⟨absent, address_eq⟩
    have inside : ∀ char ∈ address, (char != '%') = true := by
      intro char membership
      rw [bne_iff_ne]
      rintro rfl
      exact absent membership
    rcases address_eq with rfl | ⟨zone, rfl⟩
    · exact List.takeWhile_eq_self_iff.mpr inside
    · rw [List.takeWhile_append_of_pos inside, List.takeWhile_cons_of_neg (by decide),
        List.append_nil]
  · rintro rfl
    have parts := word.takeWhile_append_dropWhile (p := (· != '%'))
    have stopped := Text.head_of_dropWhile (· != '%') word
    constructor
    · intro membership
      have kept := List.all_eq_true.mp (List.all_takeWhile (l := word)) _ membership
      contradiction
    · cases behind : word.dropWhile (· != '%') with
      | nil =>
          rw [behind, List.append_nil] at parts
          exact Or.inl parts.symm
      | cons char zone =>
          rw [behind] at parts stopped
          obtain rfl : char = '%' := by simpa using stopped char rfl
          exact Or.inr ⟨zone, parts.symm⟩

theorem usable_iff (family : Family) (line word : List Char) :
    Usable family line word ↔
      wordAfterKeyword? family (Text.words line) = some word ∧
        (family = .ipv6 → beginsLinkLocal word = false) := by
  rw [wordAfterKeyword?_eq_some_iff, ← Bool.not_eq_true, beginsLinkLocal_iff]
  exact ⟨fun usable => ⟨usable.follows, usable.unconfined⟩, fun both => ⟨both.1, both.2⟩⟩

theorem ifconfigLine?_eq_some_iff (family : Family) (line address : List Char) :
    ifconfigLine? family line = some address ↔
      ∃ word, Usable family line word ∧ IsAddressOf family word address := by
  simp only [usable_iff, ifconfigLine?]
  cases wordAfterKeyword? family (Text.words line) with
  | none => simp
  | some word =>
      simp only [Option.some.injEq, and_assoc, exists_eq_left']
      cases family with
      | ipv4 =>
          rw [Option.some.injEq, eq_comm]
          exact ⟨fun same => ⟨nofun, same⟩, fun both => both.2⟩
      | ipv6 =>
          rw [isAddressOf_iff_takeWhile_eq, Option.ite_none_left_eq_some, Option.some.injEq,
            Bool.not_eq_true, forall_prop_of_true rfl]

theorem ifconfigLine?_eq_none_iff (family : Family) (line : List Char) :
    ifconfigLine? family line = none ↔ ∀ word, ¬ Usable family line word := by
  simp only [usable_iff, ifconfigLine?]
  cases wordAfterKeyword? family (Text.words line) with
  | none => simp
  | some word =>
      cases family with
      | ipv4 => simp
      | ipv6 => simp

theorem ifconfigLine?_trim (family : Family) (line : List Char) :
    ifconfigLine? family (Text.trim line) = ifconfigLine? family line := by
  rw [ifconfigLine?, Text.words_trim, ifconfigLine?]

theorem ifconfigLine?_nil (family : Family) : ifconfigLine? family [] = none := by
  cases family <;> rfl

theorem IsAddressOf.isPrefix {family : Family} {word address : List Char}
    (isAddress : IsAddressOf family word address) : address <+: word := by
  cases family with
  | ipv4 =>
      obtain rfl : address = word := isAddress
      exact List.prefix_rfl
  | ipv6 =>
      rcases isAddress.2 with rfl | ⟨zone, rfl⟩
      · exact List.prefix_rfl
      · exact List.prefix_append address _

theorem Usable.mem_words {family : Family} {line word : List Char}
    (usable : Usable family line word) : word ∈ Text.words line := by
  obtain ⟨before, after, words_eq, _⟩ := usable.follows
  rw [words_eq]
  simp

/-- What is left of a word has no blanks, and begins as the word does. -/
theorem Usable.unconfined_address {line word address : List Char}
    (usable : Usable .ipv6 line word) (isAddress : IsAddressOf .ipv6 word address) :
    '%' ∉ address ∧ (∀ char ∈ address, Text.isBlank char = false) ∧ ¬ IsConfined address := by
  refine ⟨isAddress.1, ?_, ?_⟩
  · intro char inside
    exact Text.forall_not_of_mem_splitWhere (List.mem_of_mem_filter usable.mem_words) char
      (isAddress.isPrefix.mem inside)
  · rintro ⟨letters, inAddress, spelled⟩
    exact usable.unconfined rfl ⟨letters, inAddress.trans isAddress.isPrefix, spelled⟩

/-- An address on a line of `ifconfig` begins a word, and does not begin like a link-local one. -/
theorem ifconfigLine?_eq_some {family : Family} {line address : List Char}
    (found : ifconfigLine? family line = some address) :
    address <:+: line ∧ (family = .ipv6 → beginsLinkLocal address = false) := by
  obtain ⟨word, usable, isAddress⟩ := (ifconfigLine?_eq_some_iff family line address).mp found
  refine ⟨isAddress.isPrefix.isInfix.trans (Text.isInfix_of_mem_words usable.mem_words), ?_⟩
  rintro rfl
  rw [← Bool.not_eq_true, beginsLinkLocal_iff]
  exact (usable.unconfined_address isAddress).2.2

end AddressWatch.Resolver.Report
