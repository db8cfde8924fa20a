import AddressWatch.Proofs.Text.Graphic
import AddressWatch.Proofs.Text.Trim
import AddressWatch.Resolver.Listing

/-!
# Where an address occurs in a line

On a line of `ip addr show` an address stands behind the keyword of its family and blanks, and goes as
far as the alphabet of the family does.  The line is searched from the left for the first place at which
an address occurs.
-/

namespace AddressWatch.Resolver.Report

theorem inet_isPrefix_keyword (family : Family) : "inet".toList <+: keyword family := by
  cases family <;> decide

theorem isAddressChar_iff_mem_alphabet (family : Family) (char : Char) :
    isAddressChar family char = true ↔ char ∈ Listing.alphabet family := by
  by_cases small : char.toNat < 103
  · have each : ∀ code : Fin 103, isAddressChar family (Char.ofNat code) =
        (Listing.alphabet family).elem (Char.ofNat code) := by
      cases family <;> decide
    have own : isAddressChar family char = (Listing.alphabet family).elem char :=
      Text.of_toNat_lt char small each
    rw [own, List.elem_eq_mem, decide_eq_true_eq]
  · constructor
    · intro read
      have bounded : char.toNat < 103 := by
        cases family <;>
          simp only [isAddressChar, Bool.or_eq_true, Bool.and_eq_true, decide_eq_true_eq,
            beq_iff_eq, Text.isDigit_iff, Text.le_iff_toNat_le, ← Char.toNat_inj,
            Char.reduceToNat] at read <;>
          omega
      exact absurd bounded small
    · intro membership
      have each : (Listing.alphabet family).all (·.toNat < 103) = true := by
        cases family <;> decide
      exact absurd (of_decide_eq_true (List.all_eq_true.mp each char membership)) small

theorem isAddressChar_eq_false_iff (family : Family) (char : Char) :
    isAddressChar family char = false ↔ char ∉ Listing.alphabet family := by
  rw [← Bool.not_eq_true, isAddressChar_iff_mem_alphabet]

theorem isBlank_of_mem_alphabet {family : Family} {char : Char}
    (membership : char ∈ Listing.alphabet family) : Text.isBlank char = false := by
  have each : (Listing.alphabet family).all (!Text.isBlank ·) = true := by
    cases family <;> decide
  exact Text.forall_isBlank_eq_false each char membership

/-- An address occurs in a line: behind some text stand the keyword, blanks, and as many characters of
the alphabet as there are. -/
structure Occurrence (family : Family) (line before blanks address rest : List Char) : Prop where
  line_eq : line = before ++ (keyword family ++ (blanks ++ (address ++ rest)))
  blanks_ne_nil : blanks ≠ []
  blank : ∀ char ∈ blanks, Text.isBlank char = true
  address_ne_nil : address ≠ []
  address_subset : address ⊆ Listing.alphabet family
  ended : ∀ char ∈ rest.head?, char ∉ Listing.alphabet family

/-- An address occurs in a line, and none occurs in it further to the left. -/
def OccursFirst (family : Family) (line address : List Char) : Prop :=
  ∃ before blanks rest, Occurrence family line before blanks address rest ∧
    ∀ earlier otherBlanks other otherRest,
      Occurrence family line earlier otherBlanks other otherRest → before.length ≤ earlier.length

variable {family : Family} {line before blanks address rest : List Char}

theorem Occurrence.of_cons {first char : Char}
    (occurrence : Occurrence family (char :: line) (first :: before) blanks address rest) :
    Occurrence family line before blanks address rest :=
  { occurrence with line_eq := (List.cons.inj occurrence.line_eq).2 }

theorem Occurrence.cons (occurrence : Occurrence family line before blanks address rest)
    (char : Char) : Occurrence family (char :: line) (char :: before) blanks address rest :=
  { occurrence with line_eq := congrArg (char :: ·) occurrence.line_eq }

theorem not_occurrence_nil : ¬ Occurrence family [] before blanks address rest := by
  intro occurrence
  have nothing := occurrence.line_eq.symm
  simp [occurrence.address_ne_nil] at nothing

/-- An address is read where a keyword stands exactly if it occurs there. -/
theorem addressHere?_eq_some_iff (family : Family) (text address : List Char) :
    addressHere? family text = some address ↔
      ∃ blanks rest, Occurrence family text [] blanks address rest := by
  constructor
  · intro found
    unfold addressHere? at found
    split at found
    · contradiction
    next following stripped =>
      rw [Option.ite_none_left_eq_some, not_or] at found
      obtain ⟨⟨separated, nonempty⟩, address_eq⟩ := found
      obtain rfl := Option.some.inj address_eq
      refine ⟨following.takeWhile Text.isBlank,
        (following.dropWhile Text.isBlank).dropWhile (isAddressChar family),
        { line_eq := ?_, blanks_ne_nil := separated, blank := ?_, address_ne_nil := nonempty,
          address_subset := ?_, ended := ?_ }⟩
      · rw [List.takeWhile_append_dropWhile, List.takeWhile_append_dropWhile, List.nil_append]
        exact (List.isPrefixOf?_eq_some_iff_append_eq.mp stripped).symm
      · exact List.all_eq_true.mp List.all_takeWhile
      · intro char membership
        rw [← isAddressChar_iff_mem_alphabet]
        exact List.all_eq_true.mp List.all_takeWhile char membership
      · intro char first
        rw [← isAddressChar_eq_false_iff]
        exact Text.head_of_dropWhile _ _ char first
  · rintro ⟨blanks, rest, occurrence⟩
    have stripped : Text.stripOpening? (keyword family) text = some (blanks ++ (address ++ rest)) :=
      List.isPrefixOf?_eq_some_iff_append_eq.mpr occurrence.line_eq.symm
    have read : ∀ char ∈ address, isAddressChar family char = true := fun char membership =>
      (isAddressChar_iff_mem_alphabet family char).mpr (occurrence.address_subset membership)
    have readToEnd : rest.takeWhile (isAddressChar family) = [] := by
      apply Text.takeWhile_of_head
      intro char first
      exact (isAddressChar_eq_false_iff family char).mpr (occurrence.ended char first)
    have unblank : ∀ char ∈ (address ++ rest).head?, Text.isBlank char = false := by
      intro char first
      rw [List.head?_append_of_ne_nil _ occurrence.address_ne_nil] at first
      exact isBlank_of_mem_alphabet (occurrence.address_subset (List.mem_of_head? first))
    rw [addressHere?, stripped]
    simp only [List.takeWhile_append_of_pos occurrence.blank, Text.takeWhile_of_head unblank,
      List.dropWhile_append_of_pos occurrence.blank, Text.dropWhile_of_head unblank,
      List.takeWhile_append_of_pos read, readToEnd, List.append_nil]
    rw [if_neg (not_or.mpr ⟨occurrence.blanks_ne_nil, occurrence.address_ne_nil⟩)]

/-- With nothing at the beginning of a line, every occurrence is one in what follows. -/
theorem Occurrence.exists_tail {char : Char} (nothing : addressHere? family (char :: line) = none)
    (occurrence : Occurrence family (char :: line) before blanks address rest) :
    ∃ shorter, before = char :: shorter ∧ Occurrence family line shorter blanks address rest := by
  cases before with
  | nil =>
      have found := (addressHere?_eq_some_iff _ _ _).mpr ⟨_, _, occurrence⟩
      rw [nothing] at found
      contradiction
  | cons first before =>
      obtain rfl := (List.cons.inj occurrence.line_eq).1
      exact ⟨before, rfl, occurrence.of_cons⟩

/-- The search from the left finds the first place at which an address occurs. -/
theorem addressIn?_eq_some_iff (family : Family) (line address : List Char) :
    addressIn? family line = some address ↔ OccursFirst family line address := by
  induction line with
  | nil =>
      refine ⟨nofun, ?_⟩
      rintro ⟨_, _, _, occurrence, _⟩
      exact absurd occurrence not_occurrence_nil
  | cons char line inductionHypothesis =>
      rw [addressIn?]
      cases here : addressHere? family (char :: line) with
      | some found =>
          obtain ⟨blanks, rest, first⟩ := (addressHere?_eq_some_iff _ _ _).mp here
          constructor
          · rintro ⟨⟩
            exact ⟨[], blanks, rest, first, fun _ _ _ _ _ => Nat.zero_le _⟩
          · rintro ⟨before, _, _, occurrence, leftmost⟩
            obtain rfl : before = [] :=
              List.eq_nil_of_length_eq_zero (Nat.le_zero.mp (leftmost _ _ _ _ first))
            have found := (addressHere?_eq_some_iff _ _ _).mpr ⟨_, _, occurrence⟩
            rwa [here] at found
      | none =>
          simp only
          rw [inductionHypothesis]
          constructor
          · rintro ⟨before, blanks, rest, occurrence, leftmost⟩
            refine ⟨char :: before, blanks, rest, occurrence.cons char, ?_⟩
            intro earlier _ _ _ other
            obtain ⟨shorter, rfl, inLine⟩ := other.exists_tail here
            exact Nat.succ_le_succ (leftmost _ _ _ _ inLine)
          · rintro ⟨before, blanks, rest, occurrence, leftmost⟩
            obtain ⟨shorter, rfl, inLine⟩ := occurrence.exists_tail here
            refine ⟨shorter, blanks, rest, inLine, ?_⟩
            intro earlier _ _ _ other
            exact Nat.le_of_succ_le_succ (leftmost _ _ _ _ (other.cons char))

/-- Whether an address occurs in the line at all. -/
def HasOccurrence (family : Family) (line : List Char) : Prop :=
  ∃ before blanks address rest, Occurrence family line before blanks address rest

theorem addressIn?_of_addressHere? (found : addressHere? family line = some address) :
    addressIn? family line = some address := by
  cases line with
  | nil => cases family <;> contradiction
  | cons char rest => rw [addressIn?, found]

theorem addressIn?_ne_none_of_occurrence
    (occurrence : Occurrence family line before blanks address rest) :
    addressIn? family line ≠ none := by
  induction before generalizing line with
  | nil =>
      have here := (addressHere?_eq_some_iff _ _ _).mpr ⟨_, _, occurrence⟩
      rw [addressIn?_of_addressHere? here]
      exact Option.some_ne_none address
  | cons char before inductionHypothesis =>
      obtain ⟨rest, rfl⟩ : ∃ rest, line = char :: rest := ⟨_, occurrence.line_eq⟩
      rw [addressIn?]
      cases addressHere? family (char :: rest) with
      | some found => exact Option.some_ne_none found
      | none => exact inductionHypothesis occurrence.of_cons

theorem addressIn?_eq_none_iff (family : Family) (line : List Char) :
    addressIn? family line = none ↔ ¬ HasOccurrence family line := by
  constructor
  · rintro nothing ⟨_, _, _, _, occurrence⟩
    exact addressIn?_ne_none_of_occurrence occurrence nothing
  · intro absent
    rw [Option.eq_none_iff_forall_ne_some]
    intro address found
    obtain ⟨before, blanks, rest, occurrence, _⟩ := (addressIn?_eq_some_iff _ _ _).mp found
    exact absent ⟨before, blanks, address, rest, occurrence⟩

theorem isInfix_of_addressIn? (found : addressIn? family line = some address) : address <:+: line := by
  obtain ⟨before, blanks, rest, occurrence, _⟩ := (addressIn?_eq_some_iff _ _ _).mp found
  refine ⟨before ++ (keyword family ++ blanks), rest, ?_⟩
  rw [occurrence.line_eq]
  simp only [List.append_assoc]

theorem Occurrence.keyword_isInfix
    (occurrence : Occurrence family line before blanks address rest) : keyword family <:+: line :=
  ⟨before, _, (List.append_assoc _ _ _).trans occurrence.line_eq.symm⟩

theorem addressIn?_of_not_isInfix {line : List Char} (plain : ¬ "inet".toList <:+: line)
    (family : Family) : addressIn? family line = none := by
  rw [addressIn?_eq_none_iff]
  rintro ⟨_, _, _, _, occurrence⟩
  exact plain ((inet_isPrefix_keyword family).isInfix.trans occurrence.keyword_isInfix)

theorem addressIn?_cons_of_ne {char : Char} (other : char ≠ 'i') (family : Family)
    (rest : List Char) : addressIn? family (char :: rest) = addressIn? family rest := by
  have nothing : addressHere? family (char :: rest) = none := by
    rw [Option.eq_none_iff_forall_ne_some]
    intro address here
    obtain ⟨_, _, occurrence⟩ := (addressHere?_eq_some_iff _ _ _).mp here
    have text_eq := occurrence.line_eq
    obtain ⟨_, keyword_eq⟩ := inet_isPrefix_keyword family
    rw [← keyword_eq] at text_eq
    exact other (Option.some.inj (congrArg List.head? text_eq))
  rw [addressIn?, nothing]

/-! ## Blanks at the ends of a line -/

theorem Occurrence.append_blank (occurrence : Occurrence family line before blanks address rest)
    {blank : Char} (isBlank : Text.isBlank blank = true) :
    Occurrence family (line ++ [blank]) before blanks address (rest ++ [blank]) := by
  refine { occurrence with line_eq := ?_, ended := ?_ }
  · rw [occurrence.line_eq]
    simp only [List.append_assoc]
  · intro char first membership
    cases rest with
    | nil =>
        obtain rfl : blank = char := Option.some.inj first
        rw [isBlank_of_mem_alphabet membership] at isBlank
        contradiction
    | cons => exact occurrence.ended char first membership

theorem Occurrence.exists_of_append_blank {blank : Char} (isBlank : Text.isBlank blank = true)
    (occurrence : Occurrence family (line ++ [blank]) before blanks address rest) :
    ∃ shorter, Occurrence family line before blanks address shorter := by
  have line_eq := occurrence.line_eq
  rcases List.eq_nil_or_concat' rest with rfl | ⟨shorter, last, rfl⟩
  · -- An address does not end with a blank.
    have ends := congrArg List.getLast? line_eq
    have last : address.getLast? = some blank := by
      simpa [List.getLast?_append_of_ne_nil, occurrence.address_ne_nil] using ends.symm
    have inAlphabet := occurrence.address_subset (List.mem_of_getLast? last)
    rw [isBlank_of_mem_alphabet inAlphabet] at isBlank
    contradiction
  · refine ⟨shorter, { occurrence with line_eq := ?_, ended := ?_ }⟩
    · simp only [← List.append_assoc] at line_eq ⊢
      exact (List.append_inj' line_eq rfl).1
    · intro char first
      apply occurrence.ended char
      rw [Option.mem_def, List.head?_append, Option.mem_def.mp first, Option.some_or]

theorem occursFirst_append_blank_iff {blank : Char} (isBlank : Text.isBlank blank = true) :
    OccursFirst family (line ++ [blank]) address ↔ OccursFirst family line address := by
  constructor
  · rintro ⟨before, blanks, rest, occurrence, leftmost⟩
    obtain ⟨shorter, inLine⟩ := occurrence.exists_of_append_blank isBlank
    refine ⟨before, blanks, shorter, inLine, ?_⟩
    intro earlier _ _ _ other
    exact leftmost _ _ _ _ (other.append_blank isBlank)
  · rintro ⟨before, blanks, rest, occurrence, leftmost⟩
    refine ⟨before, blanks, rest ++ [blank], occurrence.append_blank isBlank, ?_⟩
    intro earlier _ _ _ other
    obtain ⟨_, inLine⟩ := other.exists_of_append_blank isBlank
    exact leftmost _ _ _ _ inLine

theorem addressIn?_trim (family : Family) (line : List Char) :
    addressIn? family (Text.trim line) = addressIn? family line := by
  apply Text.apply_trim (addressIn? family)
  · intro blank line isBlank
    apply addressIn?_cons_of_ne
    rintro rfl
    contradiction
  · intro line blank isBlank
    apply Option.ext
    intro address
    rw [addressIn?_eq_some_iff, addressIn?_eq_some_iff]
    exact occursFirst_append_blank_iff isBlank

end AddressWatch.Resolver.Report
