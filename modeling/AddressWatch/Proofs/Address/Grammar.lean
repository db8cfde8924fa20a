import AddressWatch.Address.Grammar
import AddressWatch.Proofs.Address.Opening

/-!
# Which texts are addresses

A text is read as an address exactly when the grammar of its version says that it denotes one.  The
two grammars have no text in common.
-/

namespace AddressWatch

theorem isSome_mapM_iff {α β : Type} (read : α → Option β) (items : List α) :
    (items.mapM read).isSome = true ↔ ∀ item ∈ items, (read item).isSome = true := by
  induction items with
  | nil => simp
  | cons item items inductionHypothesis =>
      rw [List.mapM_cons, List.forall_mem_cons, ← inductionHypothesis]
      cases read item <;> cases items.mapM read <;> simp

theorem length_of_mapM {α β : Type} {read : α → Option β} {items : List α} {values : List β}
    (written : items.mapM read = some values) : values.length = items.length := by
  induction items generalizing values with
  | nil =>
      obtain rfl := Option.some.inj written
      rfl
  | cons item items inductionHypothesis =>
      rw [List.mapM_cons] at written
      obtain ⟨value, _, rest⟩ := Option.bind_eq_some_iff.mp written
      obtain ⟨others, found, together⟩ := Option.bind_eq_some_iff.mp rest
      obtain rfl := Option.some.inj together
      rw [List.length_cons, List.length_cons, inductionHypothesis found]

/-! ## Dotted quads -/

namespace IPv4

theorem isSome_octet?_iff (text : List Char) : (octet? text).isSome = true ↔ IsOctet text := by
  unfold octet?
  constructor
  · intro read
    split at read
    · contradiction
    next plain =>
      split at read
      · contradiction
      next value number =>
        obtain ⟨nonempty, short, digits⟩ :=
          (Text.isSome_number?_iff 10 3 text).mp (Option.isSome_of_eq_some number)
        simp only [Text.isSome_digitBelow?_ten] at digits
        rw [Text.number?, Option.ite_none_left_eq_some, Text.readDigits?_ten digits] at number
        obtain rfl := Option.some.inj number.2
        split at read
        next small =>
          refine ⟨nonempty, short, digits, Nat.le_of_lt_succ small, fun zero => ?_⟩
          by_contra others
          exact plain ⟨zero, others⟩
        next => contradiction
  · intro octet
    have admitted : ¬ (text = [] ∨ 3 < text.length) :=
      not_or.mpr ⟨octet.ne_nil, Nat.not_lt.mpr octet.length_le⟩
    have plain : ¬ (text.head? = some '0' ∧ text ≠ ['0']) := by
      rintro ⟨zero, others⟩
      exact others (octet.eq_zero zero)
    have small : Nat.ofDigitChars 10 text 0 < 256 := Nat.lt_succ_of_le octet.value_le
    rw [if_neg plain, Text.number?, if_neg admitted, Text.readDigits?_ten octet.isDigit]
    simp only [if_pos small, Option.isSome_some]

theorem isSome_parse?_iff (text : List Char) : (parse? text).isSome = true ↔ IsText text := by
  unfold parse?
  constructor
  · intro read
    split at read
    · contradiction
    next octets written =>
      split at read
      next size =>
        rw [← Text.intercalate_splitAt '.' text]
        refine .quad ((length_of_mapM written).symm.trans size) fun octet membership => ?_
        have each := (isSome_mapM_iff octet? _).mp (Option.isSome_of_eq_some written)
        exact (isSome_octet?_iff octet).mp (each octet membership)
      next => contradiction
  · rintro @⟨octets, four, each⟩
    have whole : ∀ octet ∈ octets, '.' ∉ octet := by
      intro octet membership dot
      exact absurd ((each octet membership).isDigit '.' dot) (by decide)
    have nonempty : octets ≠ [] := by
      rintro rfl
      contradiction
    have read : (octets.mapM octet?).isSome = true := by
      rw [isSome_mapM_iff]
      exact fun octet membership => (isSome_octet?_iff octet).mpr (each octet membership)
    obtain ⟨values, written⟩ := Option.isSome_iff_exists.mp read
    rw [Text.splitAt_intercalate whole nonempty, written]
    simp only [length_of_mapM written, four, dite_true, Option.isSome_some]

theorem IsText.isDigit_or_dot {text : List Char} (isText : IsText text) :
    ∀ char ∈ text, char.isDigit = true ∨ char = '.' := by
  obtain ⟨_, each⟩ := isText
  intro char membership
  rcases Text.mem_of_mem_intercalate membership with dot | ⟨octet, among, inside⟩
  · exact Or.inr (List.mem_singleton.mp dot)
  · exact Or.inl ((each octet among).isDigit char inside)

theorem IsText.dot_mem {text : List Char} (isText : IsText text) : '.' ∈ text := by
  obtain ⟨four, _⟩ := isText
  exact Text.mem_intercalate_of_mem_separator List.mem_cons_self (by omega)

theorem IsText.colon_not_mem {text : List Char} (isText : IsText text) : ':' ∉ text := by
  intro colon
  have kind := isText.isDigit_or_dot ':' colon
  revert kind
  decide

end IPv4

namespace IPv6

/-! ## Groups -/

theorem isSome_group?_iff (text : List Char) : (group? text).isSome = true ↔ IsGroup text := by
  rw [group?, Option.isSome_map, Text.isSome_number?_iff]
  simp only [Text.isSome_digitBelow?_sixteen]
  exact ⟨fun ⟨nonempty, short, digits⟩ => ⟨nonempty, short, digits⟩,
    fun isGroup => ⟨isGroup.ne_nil, isGroup.length_le, isGroup.isHexDigit⟩⟩

theorem IsGroup.colon_not_mem {text : List Char} (isGroup : IsGroup text) : ':' ∉ text := by
  intro colon
  have digit := isGroup.isHexDigit ':' colon
  revert digit
  unfold Text.IsHexDigit
  decide

theorem IsGroup.dot_not_mem {text : List Char} (isGroup : IsGroup text) : '.' ∉ text := by
  intro dot
  have digit := isGroup.isHexDigit '.' dot
  revert digit
  unfold Text.IsHexDigit
  decide

/-- Pieces that are read stand for as many groups as are read from them. -/
theorem stands_of_groupsOfPieces? {pieces : List (List Char)} {groups : List UInt16}
    (read : groupsOfPieces? pieces = some groups) : Stands pieces groups.length := by
  fun_induction groupsOfPieces? pieces generalizing groups with
  | case1 =>
      obtain rfl := Option.some.inj read
      exact .nothing
  | case2 last quad isQuad =>
      obtain rfl := Option.some.inj read
      rw [IPv4.length_groups]
      exact .quad ((IPv4.isSome_parse?_iff last).mp (Option.isSome_of_eq_some isQuad))
  | case3 last _ =>
      obtain ⟨group, isGroup, rfl⟩ := Option.map_eq_some_iff.mp read
      exact .group ((isSome_group?_iff last).mp (Option.isSome_of_eq_some isGroup)) .nothing
  | case4 piece rest _ group following others isGroup inductionHypothesis =>
      obtain rfl := Option.some.inj read
      exact .group ((isSome_group?_iff piece).mp (Option.isSome_of_eq_some isGroup))
        (inductionHypothesis others)
  | case5 => contradiction

/-- A group is read by itself, whatever follows it. -/
theorem groupsOfPieces?_cons_of_isGroup {text : List Char} (isGroup : IsGroup text)
    (rest : List (List Char)) :
    ∃ group, groupsOfPieces? (text :: rest) = (groupsOfPieces? rest).map (group :: ·) := by
  obtain ⟨group, found⟩ := Option.isSome_iff_exists.mp ((isSome_group?_iff text).mpr isGroup)
  refine ⟨group, ?_⟩
  cases rest with
  | nil =>
      have noQuad : IPv4.parse? text = none := by
        rw [← Option.not_isSome_iff_eq_none, IPv4.isSome_parse?_iff]
        exact fun isQuad => isGroup.dot_not_mem isQuad.dot_mem
      simp only [groupsOfPieces?, noQuad, found, Option.map_some]
  | cons next rest =>
      rw [groupsOfPieces?, found]
      · cases groupsOfPieces? (next :: rest) <;> rfl
      · exact List.cons_ne_nil _ _

/-- Pieces that stand for groups are read as that many. -/
theorem Stands.exists_groups {pieces : List (List Char)} {count : Nat}
    (stands : Stands pieces count) :
    ∃ groups, groupsOfPieces? pieces = some groups ∧ groups.length = count := by
  induction stands with
  | nothing => exact ⟨[], rfl, rfl⟩
  | quad isQuad =>
      obtain ⟨quad, found⟩ := Option.isSome_iff_exists.mp ((IPv4.isSome_parse?_iff _).mpr isQuad)
      refine ⟨quad.groups, ?_, quad.length_groups⟩
      rw [groupsOfPieces?, found]
  | group isGroup _ inductionHypothesis =>
      obtain ⟨groups, read, length⟩ := inductionHypothesis
      obtain ⟨group, written⟩ := groupsOfPieces?_cons_of_isGroup isGroup _
      exact ⟨group :: groups, by rw [written, read]; rfl, congrArg (· + 1) length⟩

/-- The pieces are those that the colons between them divide the text into. -/
theorem Stands.ne_nil_and_colon_not_mem {pieces : List (List Char)} {count : Nat}
    (stands : Stands pieces count) : ∀ piece ∈ pieces, piece ≠ [] ∧ ':' ∉ piece := by
  induction stands with
  | nothing => simp
  | quad isQuad =>
      rw [List.forall_mem_singleton]
      exact ⟨List.ne_nil_of_mem isQuad.dot_mem, isQuad.colon_not_mem⟩
  | group isGroup _ inductionHypothesis =>
      exact List.forall_mem_cons.mpr ⟨⟨isGroup.ne_nil, isGroup.colon_not_mem⟩, inductionHypothesis⟩

theorem Stands.count_le {pieces : List (List Char)} {count : Nat} (stands : Stands pieces count) :
    count ≤ pieces.length + 1 := by
  induction stands with
  | nothing => exact Nat.zero_le _
  | quad => exact Nat.le_refl 2
  | group _ _ inductionHypothesis => exact Nat.succ_le_succ inductionHypothesis

theorem Stands.isHexDigit_or_dot {pieces : List (List Char)} {count : Nat}
    (stands : Stands pieces count) :
    ∀ piece ∈ pieces, ∀ char ∈ piece, Text.IsHexDigit char ∨ char = '.' := by
  induction stands with
  | nothing => simp
  | quad isQuad =>
      rw [List.forall_mem_singleton]
      intro char membership
      rcases isQuad.isDigit_or_dot char membership with digit | dot
      · exact Or.inl (Or.inl ((Text.isDigit_iff char).mp digit))
      · exact Or.inr dot
  | group isGroup _ inductionHypothesis =>
      refine List.forall_mem_cons.mpr ⟨fun char membership => ?_, inductionHypothesis⟩
      exact Or.inl (isGroup.isHexDigit char membership)

/-! ## Groups between colons -/

theorem stands_of_groups? {text : List Char} {groups : List UInt16}
    (read : groups? text = some groups) :
    ∃ pieces, text = [':'].intercalate pieces ∧ Stands pieces groups.length := by
  rw [groups?] at read
  split at read
  next empty =>
    obtain rfl := Option.some.inj read
    exact ⟨[], empty, .nothing⟩
  next =>
    exact ⟨_, (Text.intercalate_splitAt ':' text).symm, stands_of_groupsOfPieces? read⟩

theorem Stands.groups?_intercalate {pieces : List (List Char)} {count : Nat}
    (stands : Stands pieces count) :
    ∃ groups, groups? ([':'].intercalate pieces) = some groups ∧ groups.length = count := by
  obtain ⟨groups, read, length⟩ := stands.exists_groups
  refine ⟨groups, ?_, length⟩
  cases pieces with
  | nil => exact read
  | cons first others =>
      have each := stands.ne_nil_and_colon_not_mem
      have nonempty := Text.intercalate_ne_nil [':']
        (fun piece membership => (each piece membership).1) (List.cons_ne_nil first others)
      rw [groups?, if_neg nonempty, Text.splitAt_intercalate
        (fun piece membership => (each piece membership).2) (List.cons_ne_nil first others), read]

theorem isGroup_of_groupsBeforeGap? {text : List Char} {groups : List UInt16}
    (read : groupsBeforeGap? text = some groups) :
    ∃ pieces, text = [':'].intercalate pieces ∧ pieces.length = groups.length ∧
      ∀ piece ∈ pieces, IsGroup piece := by
  rw [groupsBeforeGap?] at read
  split at read
  next empty =>
    obtain rfl := Option.some.inj read
    exact ⟨[], empty, rfl, by simp⟩
  next =>
    refine ⟨_, (Text.intercalate_splitAt ':' text).symm, (length_of_mapM read).symm, ?_⟩
    have each := (isSome_mapM_iff group? _).mp (Option.isSome_of_eq_some read)
    exact fun piece membership => (isSome_group?_iff piece).mp (each piece membership)

theorem groupsBeforeGap?_intercalate {pieces : List (List Char)}
    (each : ∀ piece ∈ pieces, IsGroup piece) :
    ∃ groups, groupsBeforeGap? ([':'].intercalate pieces) = some groups ∧
      groups.length = pieces.length := by
  cases pieces with
  | nil => exact ⟨[], rfl, rfl⟩
  | cons first others =>
      have nonempty := Text.intercalate_ne_nil [':']
        (fun piece membership => (each piece membership).ne_nil) (List.cons_ne_nil first others)
      have read : ((first :: others).mapM group?).isSome = true := by
        rw [isSome_mapM_iff]
        exact fun piece membership => (isSome_group?_iff piece).mpr (each piece membership)
      obtain ⟨groups, written⟩ := Option.isSome_iff_exists.mp read
      refine ⟨groups, ?_, length_of_mapM written⟩
      rw [groupsBeforeGap?, if_neg nonempty, Text.splitAt_intercalate
        (fun piece membership => (each piece membership).colon_not_mem)
        (List.cons_ne_nil first others), written]

/-! ## The gap -/

theorem splitGap?_cons_of_ne {char : Char} (other : char ≠ ':') (rest : List Char) :
    splitGap? (char :: rest) =
      (splitGap? rest).map fun (before, after) => (char :: before, after) := by
  rw [splitGap?]
  rintro _ rfl
  contradiction

theorem splitGap?_colon_cons {next : Char} (other : next ≠ ':') (rest : List Char) :
    splitGap? (':' :: next :: rest) =
      (splitGap? (next :: rest)).map fun (before, after) => (':' :: before, after) := by
  rw [splitGap?]
  rintro _ _ same
  exact other (List.cons.inj same).1

theorem splitGap?_append {piece : List Char} (whole : ':' ∉ piece) (rest : List Char) :
    splitGap? (piece ++ rest) =
      (splitGap? rest).map fun (before, after) => (piece ++ before, after) := by
  induction piece with
  | nil => simp
  | cons char piece inductionHypothesis =>
      rw [List.mem_cons, not_or] at whole
      rw [List.cons_append, splitGap?_cons_of_ne (Ne.symm whole.1), inductionHypothesis whole.2,
        Option.map_map]
      rfl

/-- The first gap is the one behind the groups before it. -/
theorem splitGap?_intercalate_append {groups : List (List Char)}
    (each : ∀ group ∈ groups, IsGroup group) (after : List Char) :
    splitGap? ([':'].intercalate groups ++ ':' :: ':' :: after) =
      some ([':'].intercalate groups, after) := by
  induction groups with
  | nil => rfl
  | cons group groups inductionHypothesis =>
      rw [List.forall_mem_cons] at each
      have following := inductionHypothesis each.2
      cases groups with
      | nil =>
          rw [List.intercalate_singleton, splitGap?_append each.1.colon_not_mem]
          simp [splitGap?]
      | cons next groups =>
          -- The colon behind a group is not doubled, because the next group is not empty.
          have isGroup := each.2 next List.mem_cons_self
          obtain ⟨char, text, rfl⟩ := List.exists_cons_of_ne_nil isGroup.ne_nil
          have other : char ≠ ':' := fun colon => isGroup.colon_not_mem (by simp [colon])
          obtain ⟨joined, joined_eq⟩ :
              ∃ joined, [':'].intercalate ((char :: text) :: groups) = char :: joined :=
            ⟨_, Text.intercalate_cons_eq_append_flatMap _ _ _⟩
          rw [joined_eq] at following
          rw [List.intercalate_cons_cons, joined_eq, List.append_assoc, List.append_assoc,
            splitGap?_append each.1.colon_not_mem, List.singleton_append, List.cons_append,
            splitGap?_colon_cons other, ← List.cons_append, following]
          simp

theorem splitGap?_intercalate {pieces : List (List Char)}
    (each : ∀ piece ∈ pieces, piece ≠ [] ∧ ':' ∉ piece) :
    splitGap? ([':'].intercalate pieces) = none := by
  rw [Option.eq_none_iff_forall_ne_some]
  rintro ⟨before, after⟩ found
  cases pieces with
  | nil => contradiction
  | cons first others =>
      have same := Text.splitAt_intercalate (fun piece membership => (each piece membership).2)
        (List.cons_ne_nil first others)
      -- The colons of a gap have an empty piece between them.
      have between : Text.splitAt ':' (before ++ ':' :: ':' :: after) =
          Text.splitAt ':' before ++ [] :: Text.splitAt ':' after := by
        rw [Text.splitAt_append_cons]
        rfl
      rw [splitGap?_eq_some found, between] at same
      have empty : [] ∈ first :: others := same ▸ by simp
      exact (each [] empty).1 rfl

/-! ## Whole texts -/

theorem isSome_parse?_iff (text : List Char) : (parse? text).isSome = true ↔ IsText text := by
  unfold parse?
  constructor
  · intro read
    split at read
    next =>
      split at read
      · contradiction
      next groups written =>
        split at read
        next size =>
          obtain ⟨pieces, rfl, stands⟩ := stands_of_groups? written
          exact .whole (size ▸ stands)
        next => contradiction
    next before after found =>
      split at read
      next head tail writtenHead writtenTail =>
        split at read
        next room =>
          obtain ⟨groups, rfl, sameLength, each⟩ := isGroup_of_groupsBeforeGap? writtenHead
          obtain ⟨pieces, rfl, stands⟩ := stands_of_groups? writtenTail
          rw [splitGap?_eq_some found]
          exact .gap each stands (sameLength ▸ room)
        next => contradiction
      next => contradiction
  · rintro (@⟨pieces, eight⟩ | @⟨head, tail, count, before, after, room⟩)
    · obtain ⟨groups, written, size⟩ := eight.groups?_intercalate
      rw [splitGap?_intercalate eight.ne_nil_and_colon_not_mem]
      simp only [written, size, dite_true, Option.isSome_some]
    · obtain ⟨headGroups, writtenHead, headLength⟩ := groupsBeforeGap?_intercalate before
      obtain ⟨tailGroups, writtenTail, rfl⟩ := after.groups?_intercalate
      rw [← headLength] at room
      rw [splitGap?_intercalate_append before]
      simp only [writtenHead, writtenTail, room, dite_true, Option.isSome_some]

theorem IsText.colon_mem {text : List Char} (isText : IsText text) : ':' ∈ text := by
  rcases isText with @⟨pieces, eight⟩ | _
  · have := eight.count_le
    exact Text.mem_intercalate_of_mem_separator List.mem_cons_self (by omega)
  · simp

theorem IsText.isHexDigit_or_separator {text : List Char} (isText : IsText text) :
    ∀ char ∈ text, Text.IsHexDigit char ∨ char = ':' ∨ char = '.' := by
  have joined {pieces : List (List Char)} {count : Nat} (stands : Stands pieces count)
      {char : Char} (membership : char ∈ [':'].intercalate pieces) :
      Text.IsHexDigit char ∨ char = ':' ∨ char = '.' := by
    rcases Text.mem_of_mem_intercalate membership with colon | ⟨piece, among, inside⟩
    · exact Or.inr (Or.inl (List.mem_singleton.mp colon))
    · exact (stands.isHexDigit_or_dot piece among char inside).imp_right Or.inr
  intro char membership
  rcases isText with ⟨eight⟩ | @⟨head, tail, count, before, after, _⟩
  · exact joined eight membership
  · rw [List.mem_append, List.mem_cons, List.mem_cons] at membership
    rcases membership with inHead | colon | colon | inTail
    · rcases Text.mem_of_mem_intercalate inHead with colon | ⟨group, among, inside⟩
      · exact Or.inr (Or.inl (List.mem_singleton.mp colon))
      · exact Or.inl ((before group among).isHexDigit char inside)
    · exact Or.inr (Or.inl colon)
    · exact Or.inr (Or.inl colon)
    · exact joined after inTail

end IPv6

namespace Address

theorem isValid_ipv4_iff (text : String) :
    isValid text .ipv4 = true ↔ IPv4.IsText text.toList := by
  rw [← IPv4.isSome_parse?_iff, isValid, parse?]
  cases IPv4.parse? text.toList with
  | some address => rfl
  | none => cases IPv6.parse? text.toList <;> simp [family]

theorem isValid_ipv6_iff (text : String) :
    isValid text .ipv6 = true ↔ IPv6.IsText text.toList := by
  rw [isValid, parse?]
  cases isQuad : IPv4.parse? text.toList with
  | some address =>
      have quad := (IPv4.isSome_parse?_iff _).mp (Option.isSome_of_eq_some isQuad)
      simp only [Option.any_some, family]
      constructor
      · intro same
        contradiction
      · intro isText
        exact absurd isText.colon_mem quad.colon_not_mem
  | none =>
      rw [← IPv6.isSome_parse?_iff]
      cases IPv6.parse? text.toList <;> simp [family]

/-- What is valid for a family is exactly what the grammar of the family says.  No text is valid for
both, and none has any character but hexadecimal digits, colons and dots. -/
theorem isValid_iff_isText (text : String) :
    (isValid text .ipv4 = true ↔ IPv4.IsText text.toList) ∧
    (isValid text .ipv6 = true ↔ IPv6.IsText text.toList) ∧
    ¬ (isValid text .ipv4 = true ∧ isValid text .ipv6 = true) ∧
    ∀ family, isValid text family = true →
      ∀ char ∈ text.toList, Text.IsHexDigit char ∨ char = ':' ∨ char = '.' := by
  refine ⟨isValid_ipv4_iff text, isValid_ipv6_iff text, ?_, ?_⟩
  · rintro ⟨valid, also⟩
    exact absurd ((isValid_iff_eq valid .ipv6).mp also) (by decide)
  · intro family valid char membership
    cases family with
    | ipv4 =>
        rcases ((isValid_ipv4_iff text).mp valid).isDigit_or_dot char membership with digit | dot
        · exact Or.inl (Or.inl ((Text.isDigit_iff char).mp digit))
        · exact Or.inr (Or.inr dot)
    | ipv6 => exact ((isValid_ipv6_iff text).mp valid).isHexDigit_or_separator char membership

/-- A gap stands for at least one group. -/
example : isValid "1:2:3:4:5:6:7::" .ipv6 = true ∧ isValid "1:2:3:4::5:6:7:8" .ipv6 = false := by
  decide +kernel

end Address

end AddressWatch
