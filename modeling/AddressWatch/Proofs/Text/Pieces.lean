import AddressWatch.Text.Blank
import Mathlib.Data.List.Infix
import Mathlib.Data.List.TakeWhile

/-!
# Pieces of a text

Lines, words and trimmed texts are contiguous pieces of the text they are taken from.  Conversely,
lines that are ended by line feeds and words that are joined by blanks are read back.
-/

namespace AddressWatch.Text

theorem splitWhere_eq_splitOnP (separates : Char → Bool) (text : List Char) :
    splitWhere separates text = text.splitOnP separates := by
  induction text with
  | nil => simp
  | cons char text inductionHypothesis =>
      rw [splitWhere_cons, List.splitOnP_cons_eq_if_modifyHead, inductionHypothesis]

/-- A text without separators is its only piece. -/
theorem splitWhere_of_forall_not {separates : Char → Bool} {piece : List Char}
    (whole : ∀ char ∈ piece, separates char = false) : splitWhere separates piece = [piece] := by
  rw [splitWhere_eq_splitOnP]
  apply List.splitOnP_eq_singleton
  intro char membership
  simp [whole char membership]

/-- A separator divides the pieces into those before it and those behind it. -/
theorem splitWhere_append_separator {separates : Char → Bool} {separator : Char}
    (separating : separates separator = true) (text rest : List Char) :
    splitWhere separates (text ++ separator :: rest) =
      splitWhere separates text ++ splitWhere separates rest := by
  rw [splitWhere_eq_splitOnP, List.splitOnP_append_cons _ _ separating, ← splitWhere_eq_splitOnP,
    ← splitWhere_eq_splitOnP]

theorem splitWhere_append_cons {separates : Char → Bool} {piece : List Char} {separator : Char}
    (whole : ∀ char ∈ piece, separates char = false) (separating : separates separator = true)
    (rest : List Char) :
    splitWhere separates (piece ++ separator :: rest) = piece :: splitWhere separates rest := by
  rw [splitWhere_append_separator separating, splitWhere_of_forall_not whole]
  rfl

theorem splitAt_append_cons (separator : Char) (text rest : List Char) :
    splitAt separator (text ++ separator :: rest) =
      splitAt separator text ++ splitAt separator rest := by
  unfold splitAt
  generalize separates_eq : (fun char => char == separator) = separates
  have separating : separates separator = true := by simp [← separates_eq]
  exact splitWhere_append_separator separating text rest

/-- The pieces of a text with the separators between them are the text. -/
theorem intercalate_splitAt (separator : Char) (text : List Char) :
    [separator].intercalate (splitAt separator text) = text := by
  rw [splitAt, splitWhere_eq_splitOnP]
  exact List.intercalate_splitOn separator

theorem splitAt_intercalate {separator : Char} {pieces : List (List Char)}
    (whole : ∀ piece ∈ pieces, separator ∉ piece) (some : pieces ≠ []) :
    splitAt separator ([separator].intercalate pieces) = pieces := by
  rw [splitAt, splitWhere_eq_splitOnP]
  exact List.splitOn_intercalate separator whole some

/-- The first piece stands at the beginning of the text, and the others somewhere in it. -/
theorem exists_splitWhere_eq_cons (separates : Char → Bool) (text : List Char) :
    ∃ first others, splitWhere separates text = first :: others ∧ first <+: text ∧
      ∀ piece ∈ others, piece <:+: text := by
  induction text with
  | nil => exact ⟨[], [], rfl, List.prefix_rfl, by simp⟩
  | cons char text inductionHypothesis =>
      obtain ⟨first, others, pieces, opening, inside⟩ := inductionHypothesis
      have longer {piece : List Char} (found : piece <:+: text) : piece <:+: char :: text :=
        List.infix_cons found
      rw [splitWhere_cons, pieces]
      split
      · refine ⟨[], first :: others, rfl, List.nil_prefix, ?_⟩
        intro piece membership
        rcases List.mem_cons.mp membership with rfl | membership
        · exact longer opening.isInfix
        · exact longer (inside piece membership)
      · refine ⟨char :: first, others, rfl, ?_, ?_⟩
        · exact (List.prefix_cons_inj char).mpr opening
        · intro piece membership
          exact longer (inside piece membership)

theorem isInfix_of_mem_splitWhere {separates : Char → Bool} {text piece : List Char}
    (membership : piece ∈ splitWhere separates text) : piece <:+: text := by
  obtain ⟨first, others, pieces, opening, inside⟩ := exists_splitWhere_eq_cons separates text
  rw [pieces] at membership
  rcases List.mem_cons.mp membership with rfl | membership
  · exact opening.isInfix
  · exact inside piece membership

/-- The pieces have no separators. -/
theorem forall_not_of_mem_splitWhere {separates : Char → Bool} {text piece : List Char}
    (membership : piece ∈ splitWhere separates text) : ∀ char ∈ piece, separates char = false := by
  induction text generalizing piece with
  | nil =>
      obtain rfl : piece = [] := by simpa using membership
      simp
  | cons next text inductionHypothesis =>
      rw [splitWhere_cons] at membership
      split at membership
      · rcases List.mem_cons.mp membership with rfl | among
        · simp
        · exact inductionHypothesis among
      next unseparating =>
        cases pieces : splitWhere separates text with
        | nil => exact absurd pieces (splitWhere_ne_nil separates text)
        | cons first others =>
            rw [pieces] at membership inductionHypothesis
            rcases List.mem_cons.mp membership with rfl | other
            · exact List.forall_mem_cons.mpr
                ⟨by simpa using unseparating, inductionHypothesis List.mem_cons_self⟩
            · exact inductionHypothesis (List.mem_cons_of_mem first other)

/-- Every character that does not separate is in one of the pieces. -/
theorem exists_mem_splitWhere {separates : Char → Bool} {text : List Char} {char : Char}
    (membership : char ∈ text) (unseparating : separates char = false) :
    ∃ piece ∈ splitWhere separates text, char ∈ piece := by
  induction text with
  | nil => contradiction
  | cons next text inductionHypothesis =>
      rw [splitWhere_cons]
      rcases List.mem_cons.mp membership with rfl | among
      · rw [unseparating]
        cases pieces : splitWhere separates text with
        | nil => exact absurd pieces (splitWhere_ne_nil separates text)
        | cons piece pieces => exact ⟨char :: piece, by simp, List.mem_cons_self⟩
      · obtain ⟨piece, found, inside⟩ := inductionHypothesis among
        split
        · exact ⟨piece, List.mem_cons_of_mem [] found, inside⟩
        · cases pieces : splitWhere separates text with
          | nil => exact absurd pieces (splitWhere_ne_nil separates text)
          | cons first others =>
              rw [pieces] at found
              rcases List.mem_cons.mp found with rfl | other
              · exact ⟨next :: piece, by simp, List.mem_cons_of_mem next inside⟩
              · exact ⟨piece, by simp [other], inside⟩

theorem dropReturn_isPrefix (line : List Char) : dropReturn line <+: line := by
  unfold dropReturn
  split
  · exact List.dropLast_prefix line
  · exact List.prefix_rfl

theorem dropReturn_of_not_mem {line : List Char} (absent : '\r' ∉ line) :
    dropReturn line = line := by
  unfold dropReturn
  rw [if_neg]
  intro last
  exact absent (List.mem_of_getLast? last)

theorem isInfix_of_mem_lines {text line : List Char} (membership : line ∈ lines text) :
    line <:+: text := by
  rcases List.mem_append.mp membership with ended | unfinished
  · obtain ⟨piece, among, rfl⟩ := List.mem_map.mp ended
    exact (dropReturn_isPrefix piece).isInfix.trans
      (isInfix_of_mem_splitWhere (List.mem_of_mem_dropLast among))
  · have last : line = (splitAt '\n' text).getLastD [] := by
      split at unfinished <;> simp_all
    have nonempty : splitAt '\n' text ≠ [] := splitWhere_ne_nil _ _
    rw [last, List.getLastD_eq_getLast?, List.getLast?_eq_some_getLast nonempty]
    exact isInfix_of_mem_splitWhere (List.getLast_mem nonempty)

theorem isInfix_of_mem_words {text word : List Char} (membership : word ∈ words text) :
    word <:+: text :=
  isInfix_of_mem_splitWhere (List.mem_of_mem_filter membership)

theorem dropEndWhile_isPrefix (drops : Char → Bool) (text : List Char) :
    dropEndWhile drops text <+: text := by
  unfold dropEndWhile
  rw [← List.reverse_suffix, List.reverse_reverse]
  exact List.dropWhile_suffix drops

/-- What is dropped at the end of a text consists of characters that are dropped there. -/
theorem exists_eq_dropEndWhile_append (drops : Char → Bool) (text : List Char) :
    ∃ dropped, text = dropEndWhile drops text ++ dropped ∧ ∀ char ∈ dropped, drops char = true := by
  refine ⟨(text.reverse.takeWhile drops).reverse, ?_, ?_⟩
  · rw [dropEndWhile, ← List.reverse_append, List.takeWhile_append_dropWhile, List.reverse_reverse]
  · intro char membership
    exact List.all_eq_true.mp List.all_takeWhile char (List.mem_reverse.mp membership)

theorem dropEndWhile_append_of_all {drops : Char → Bool} {dropped : List Char}
    (all : ∀ char ∈ dropped, drops char = true) (text : List Char) :
    dropEndWhile drops (text ++ dropped) = dropEndWhile drops text := by
  rw [dropEndWhile, List.reverse_append, List.dropWhile_append_of_pos]
  · rfl
  · intro char membership
    exact all char (List.mem_reverse.mp membership)

theorem dropWhile_of_head {α : Type} {drops : α → Bool} {text : List α}
    (kept : ∀ first ∈ text.head?, drops first = false) : text.dropWhile drops = text := by
  cases text with
  | nil => rfl
  | cons first text => exact List.dropWhile_cons_of_neg (by simp [kept first rfl])

theorem head_of_dropWhile {α : Type} (drops : α → Bool) (text : List α) :
    ∀ first ∈ (text.dropWhile drops).head?, drops first = false := by
  intro first isFirst
  have stopped := List.head?_dropWhile_not drops text
  rwa [Option.mem_def.mp isFirst] at stopped

/-- What is dropped in front of a text is not affected by more text that cannot be dropped. -/
theorem dropWhile_append_of_head {drops : Char → Bool} {more : List Char}
    (kept : ∀ char ∈ more.head?, drops char = false) (text : List Char) :
    (text ++ more).dropWhile drops = text.dropWhile drops ++ more := by
  rw [List.dropWhile_append]
  split
  next empty => rw [dropWhile_of_head kept, List.isEmpty_iff.mp empty, List.nil_append]
  next => rfl

theorem dropWhile_append_of_exists {drops : Char → Bool} {text : List Char}
    (kept : ∃ char ∈ text, drops char = false) (more : List Char) :
    (text ++ more).dropWhile drops = text.dropWhile drops ++ more := by
  rw [List.dropWhile_append, if_neg]
  intro empty
  obtain ⟨char, membership, stays⟩ := kept
  rw [List.isEmpty_iff, List.dropWhile_eq_nil_iff] at empty
  rw [empty char membership] at stays
  contradiction

theorem takeWhile_of_head {takes : Char → Bool} {text : List Char}
    (left : ∀ char ∈ text.head?, takes char = false) : text.takeWhile takes = [] := by
  cases text with
  | nil => rfl
  | cons char text => exact List.takeWhile_cons_of_neg (by simp [left char rfl])

theorem takeWhile_append_of_head {takes : Char → Bool} {more : List Char}
    (left : ∀ char ∈ more.head?, takes char = false) (text : List Char) :
    (text ++ more).takeWhile takes = text.takeWhile takes := by
  rw [List.takeWhile_append, takeWhile_of_head left, List.append_nil]
  split
  next whole => rw [List.IsPrefix.eq_of_length (List.takeWhile_prefix takes) whole]
  next => rfl

theorem dropEndWhile_append_cons {drops : Char → Bool} {char : Char} (kept : drops char = false)
    (text rest : List Char) :
    dropEndWhile drops (text ++ char :: rest) = text ++ char :: dropEndWhile drops rest := by
  have stops : ∀ first ∈ (char :: text.reverse).head?, drops first = false := by
    rintro first ⟨⟩
    exact kept
  rw [dropEndWhile, List.reverse_append, List.reverse_cons, List.append_assoc,
    List.singleton_append, dropWhile_append_of_head stops, List.reverse_append, List.reverse_cons,
    List.reverse_reverse, List.append_assoc]
  rfl

theorem dropEndWhile_of_last {drops : Char → Bool} {text : List Char}
    (kept : ∀ char ∈ text.getLast?, drops char = false) : dropEndWhile drops text = text := by
  rw [dropEndWhile, dropWhile_of_head, List.reverse_reverse]
  rwa [List.head?_reverse]

theorem trim_isInfix (text : List Char) : trim text <:+: text :=
  (dropEndWhile_isPrefix isBlank _).isInfix.trans (List.dropWhile_suffix isBlank).isInfix

theorem contains_iff_isInfix (piece text : List Char) :
    contains piece text = true ↔ piece <:+: text := by
  induction text with
  | nil => simp [contains]
  | cons char rest inductionHypothesis =>
      rw [contains, Bool.or_eq_true, List.isPrefixOf_iff_prefix, inductionHypothesis,
        List.infix_cons_iff]

/-- What begins a text up to a separator does not reach beyond it. -/
theorem isPrefix_append_cons_iff {piece : List Char} {separator : Char}
    (absent : separator ∉ piece) (text rest : List Char) :
    piece <+: text ++ separator :: rest ↔ piece <+: text := by
  constructor
  · intro opening
    rcases List.prefix_or_prefix_of_prefix opening (List.prefix_append text _) with short | long
    · exact short
    · obtain ⟨more, rfl⟩ := long
      rw [List.prefix_append_right_inj] at opening
      cases more with
      | nil => simp
      | cons char more =>
          rw [List.cons_prefix_cons] at opening
          simp [opening.1] at absent
  · intro opening
    exact opening.trans (List.prefix_append text _)

theorem splitAt_of_not_mem {separator : Char} {piece : List Char} (absent : separator ∉ piece) :
    splitAt separator piece = [piece] := by
  apply splitWhere_of_forall_not
  intro char membership
  rw [beq_eq_false_iff_ne]
  rintro rfl
  exact absent membership

/-- The first line of a text ends at the first line feed. -/
theorem lines_append_lineFeed {line : List Char} (unended : '\n' ∉ line) (rest : List Char) :
    lines (line ++ '\n' :: rest) = dropReturn line :: lines rest := by
  have pieces : splitAt '\n' (line ++ '\n' :: rest) = line :: splitAt '\n' rest := by
    rw [splitAt_append_cons, splitAt_of_not_mem unended, List.singleton_append]
  have others : splitAt '\n' rest ≠ [] := splitWhere_ne_nil _ _
  unfold lines
  simp only [pieces, List.dropLast_cons_of_ne_nil others, List.map_cons, List.cons_append,
    List.getLastD_eq_getLast?, List.getLast?_cons_of_ne_nil others]

/-- Lines that are ended by line feeds are read back, apart from carriage returns at their ends. -/
theorem lines_flatMap_ended {ended : List (List Char)} (whole : ∀ line ∈ ended, '\n' ∉ line) :
    lines (ended.flatMap (· ++ ['\n'])) = ended.map dropReturn := by
  induction ended with
  | nil => rfl
  | cons line ended inductionHypothesis =>
      rw [List.forall_mem_cons] at whole
      rw [List.flatMap_cons, List.append_assoc, List.singleton_append,
        lines_append_lineFeed whole.1, inductionHypothesis whole.2, List.map_cons]

theorem map_ofList_eq_some_iff (found : Option (List Char)) (text : String) :
    found.map String.ofList = some text ↔ found = some text.toList := by
  rw [Option.map_eq_some_iff]
  constructor
  · rintro ⟨_, rfl, rfl⟩
    rw [String.toList_ofList]
  · rintro rfl
    exact ⟨_, rfl, String.ofList_toList⟩

theorem forall_isBlank_eq_false {text : List Char} (unbroken : text.all (!isBlank ·) = true) :
    ∀ char ∈ text, isBlank char = false := by
  simpa using unbroken

theorem isBlank_of_visible {char : Char} (lower : 0x20 < char.toNat) (upper : char.toNat < 0x7f) :
    isBlank char = false := by
  simp only [isBlank, Bool.or_eq_false_iff, Bool.and_eq_false_iff, decide_eq_false_iff_not,
    beq_eq_false_iff_ne]
  omega

theorem isBlank_of_isDigit {char : Char} (isDigit : char.isDigit = true) :
    isBlank char = false := by
  unfold Char.isDigit at isDigit
  rw [Bool.and_eq_true, decide_eq_true_eq, decide_eq_true_eq] at isDigit
  have lower : 48 ≤ char.toNat := isDigit.1
  have upper : char.toNat ≤ 57 := isDigit.2
  exact isBlank_of_visible (by omega) (by omega)

theorem intercalate_cons_eq_append_flatMap (separator piece : List Char)
    (pieces : List (List Char)) :
    separator.intercalate (piece :: pieces) = piece ++ pieces.flatMap (separator ++ ·) := by
  induction pieces generalizing piece with
  | nil => simp
  | cons next pieces inductionHypothesis =>
      rw [List.intercalate_cons_cons, inductionHypothesis, List.flatMap_cons, List.append_assoc,
        List.append_assoc]

theorem mem_intercalate {separator piece : List Char} {pieces : List (List Char)} {char : Char}
    (among : piece ∈ pieces) (inside : char ∈ piece) : char ∈ separator.intercalate pieces := by
  cases pieces with
  | nil => contradiction
  | cons first others =>
      rw [intercalate_cons_eq_append_flatMap, List.mem_append]
      rcases List.mem_cons.mp among with rfl | other
      · exact Or.inl inside
      · exact Or.inr (List.mem_flatMap.mpr ⟨piece, other, List.mem_append_right _ inside⟩)

theorem mem_of_mem_intercalate {separator : List Char} {pieces : List (List Char)} {char : Char}
    (membership : char ∈ separator.intercalate pieces) :
    char ∈ separator ∨ ∃ piece ∈ pieces, char ∈ piece := by
  cases pieces with
  | nil => contradiction
  | cons first others =>
      rw [intercalate_cons_eq_append_flatMap, List.mem_append, List.mem_flatMap] at membership
      rcases membership with inFirst | ⟨other, among, inside⟩
      · exact Or.inr ⟨first, List.mem_cons_self, inFirst⟩
      · rcases List.mem_append.mp inside with between | inOther
        · exact Or.inl between
        · exact Or.inr ⟨other, List.mem_cons_of_mem first among, inOther⟩

theorem mem_intercalate_of_mem_separator {separator : List Char} {pieces : List (List Char)}
    {char : Char} (inside : char ∈ separator) (several : 1 < pieces.length) :
    char ∈ separator.intercalate pieces := by
  match pieces with
  | first :: second :: others =>
      rw [List.intercalate_cons_cons]
      exact List.mem_append_left _ (List.mem_append_right _ inside)

theorem intercalate_ne_nil (separator : List Char) {pieces : List (List Char)}
    (nonempty : ∀ piece ∈ pieces, piece ≠ []) (some : pieces ≠ []) :
    separator.intercalate pieces ≠ [] := by
  cases pieces with
  | nil => contradiction
  | cons first others =>
      rw [intercalate_cons_eq_append_flatMap]
      exact List.append_ne_nil_of_left_ne_nil (nonempty first List.mem_cons_self) _

/-- Words that are joined by blanks are read back, apart from empty ones. -/
theorem words_intercalate {pieces : List (List Char)}
    (unbroken : ∀ piece ∈ pieces, ∀ char ∈ piece, isBlank char = false) :
    words ([' '].intercalate pieces) = pieces.filter (· ≠ []) := by
  unfold words
  induction pieces with
  | nil => rfl
  | cons piece pieces inductionHypothesis =>
      have whole := unbroken piece List.mem_cons_self
      have rest := inductionHypothesis fun other membership =>
        unbroken other (List.mem_cons_of_mem piece membership)
      cases pieces with
      | nil => rw [List.intercalate_singleton, splitWhere_of_forall_not whole]
      | cons next pieces =>
          rw [List.intercalate_cons_cons, List.append_assoc, List.singleton_append,
            splitWhere_append_cons whole (by decide), List.filter_cons, List.filter_cons, rest]

/-- Words that are joined by blanks contain no other blanks. -/
theorem eq_of_isBlank_of_mem_intercalate {pieces : List (List Char)}
    (unbroken : ∀ piece ∈ pieces, ∀ char ∈ piece, isBlank char = false) {blank : Char}
    (isBlank : isBlank blank = true) (membership : blank ∈ [' '].intercalate pieces) :
    blank = ' ' := by
  have outside : ∀ piece ∈ pieces, blank ∉ piece := by
    intro piece among inside
    rw [unbroken piece among blank inside] at isBlank
    contradiction
  cases pieces with
  | nil => contradiction
  | cons piece pieces =>
      rw [intercalate_cons_eq_append_flatMap, List.mem_append, List.mem_flatMap] at membership
      rcases membership with inside | ⟨other, among, inside⟩
      · exact absurd inside (outside piece List.mem_cons_self)
      · rcases List.mem_cons.mp inside with same | inside
        · exact same
        · exact absurd inside (outside other (List.mem_cons_of_mem piece among))

/-- A blank in front of a text does not belong to any word. -/
theorem words_cons_blank {blank : Char} (isBlank : isBlank blank = true) (text : List Char) :
    words (blank :: text) = words text := by
  rw [words, splitWhere_cons, if_pos isBlank]
  rfl

end AddressWatch.Text
