import AddressWatch.Proofs.Text.Pieces

/-!
# Trimmed text

Blanks at the ends of a text belong to none of its words.  They can be whole lines, but these are blank:
trimming a text leaves the lines that are not blank as they were, apart from blanks at their own ends.
-/

namespace AddressWatch.Text

/-- What is read in a text without regard to one blank in front or behind is read in the trimmed
text. -/
theorem apply_trim {α : Type} (read : List Char → α)
    (front : ∀ blank text, isBlank blank = true → read (blank :: text) = read text)
    (back : ∀ text blank, isBlank blank = true → read (text ++ [blank]) = read text)
    (text : List Char) : read (trim text) = read text := by
  have behind (kept blanks : List Char) (blank : ∀ char ∈ blanks, isBlank char = true) :
      read (kept ++ blanks) = read kept := by
    induction blanks generalizing kept with
    | nil => rw [List.append_nil]
    | cons char blanks inductionHypothesis =>
        rw [List.forall_mem_cons] at blank
        rw [← List.singleton_append, ← List.append_assoc, inductionHypothesis _ blank.2]
        exact back kept char blank.1
  have inFront : read (text.dropWhile isBlank) = read text := by
    induction text with
    | nil => rfl
    | cons char text inductionHypothesis =>
        by_cases blank : isBlank char = true
        · rw [List.dropWhile_cons_of_pos blank, inductionHypothesis, front char text blank]
        · rw [List.dropWhile_cons_of_neg blank]
  obtain ⟨dropped, text_eq, blank⟩ :=
    exists_eq_dropEndWhile_append isBlank (text.dropWhile isBlank)
  rw [← inFront, text_eq]
  exact (behind _ dropped blank).symm

theorem trim_cons_blank {blank : Char} (isBlank : isBlank blank = true) (text : List Char) :
    trim (blank :: text) = trim text := by
  rw [trim, List.dropWhile_cons_of_pos isBlank, trim]

theorem trim_append_blank (text : List Char) {blank : Char} (isBlank : isBlank blank = true) :
    trim (text ++ [blank]) = trim text := by
  unfold trim
  rw [List.dropWhile_append]
  split
  next empty =>
    rw [List.dropWhile_cons_of_pos isBlank, List.dropWhile_nil, List.isEmpty_iff.mp empty]
  next => exact dropEndWhile_append_of_all (by simpa using isBlank) _

theorem trim_eq_nil_iff (text : List Char) : trim text = [] ↔ text.all isBlank = true := by
  rw [List.all_eq_true]
  constructor
  · intro empty
    obtain ⟨dropped, rest_eq, blank⟩ :=
      exists_eq_dropEndWhile_append isBlank (text.dropWhile isBlank)
    rw [trim] at empty
    rw [empty, List.nil_append] at rest_eq
    intro char membership
    rw [← List.takeWhile_append_dropWhile (p := isBlank) (l := text), rest_eq] at membership
    rcases List.mem_append.mp membership with inFront | behind
    · exact List.all_eq_true.mp List.all_takeWhile char inFront
    · exact blank char behind
  · intro blank
    rw [trim, List.dropWhile_eq_nil_iff.mpr blank]
    rfl

theorem head_of_trim (text : List Char) :
    ∀ first ∈ (trim text).head?, isBlank first = false := by
  intro first isFirst
  obtain ⟨dropped, rest_eq⟩ := dropEndWhile_isPrefix isBlank (text.dropWhile isBlank)
  apply head_of_dropWhile isBlank text
  rw [← rest_eq]
  exact List.mem_head?_append_of_mem_head? isFirst

theorem trim_dropReturn (line : List Char) : trim (dropReturn line) = trim line := by
  unfold dropReturn
  split
  next last =>
    obtain ⟨front, rfl⟩ := List.getLast?_eq_some_iff.mp last
    rw [List.dropLast_concat, trim_append_blank front (by decide)]
  next => rfl

theorem words_trim (text : List Char) : words (trim text) = words text := by
  apply apply_trim words
  · intro blank text isBlank
    exact words_cons_blank isBlank text
  · intro text blank isBlank
    unfold words
    rw [splitWhere_append_separator isBlank, splitWhere_nil, List.filter_append]
    exact List.append_nil _

/-- A piece that neither begins nor ends with a blank is not affected by blanks at the ends. -/
theorem isInfix_trim_iff {piece : List Char} (nonempty : piece ≠ [])
    (begins : ∀ char ∈ piece.head?, isBlank char = false)
    (ends : ∀ char ∈ piece.getLast?, isBlank char = false) (text : List Char) :
    piece <:+: trim text ↔ piece <:+: text := by
  have beyond {opening : List Char} (some : opening ≠ [])
      (unblank : ∀ char ∈ opening.head?, isBlank char = false) {blank : Char}
      (isBlank : Text.isBlank blank = true) (text : List Char) :
      opening <:+: blank :: text ↔ opening <:+: text := by
    rw [List.infix_cons_iff, or_iff_right]
    intro front
    cases opening with
    | nil => contradiction
    | cons char opening =>
        obtain rfl := (List.cons_prefix_cons.mp front).1
        rw [unblank char rfl] at isBlank
        contradiction
  apply Iff.of_eq
  apply apply_trim (piece <:+: ·)
  · intro blank text isBlank
    exact propext (beyond nonempty begins isBlank text)
  · intro text blank isBlank
    refine propext ?_
    rw [← List.reverse_infix, List.reverse_append, ← @List.reverse_infix _ piece text]
    apply beyond (by simpa using nonempty) _ isBlank
    rwa [List.head?_reverse]

/-! ## Lines that are not blank -/

/-- A text is taken apart line by line. -/
@[elab_as_elim]
theorem line_induction {motive : List Char → Prop}
    (last : ∀ line, '\n' ∉ line → motive line)
    (more : ∀ line text, '\n' ∉ line → motive text → motive (line ++ '\n' :: text))
    (text : List Char) : motive text := by
  -- The characters in front are those of a line that has not ended.
  suffices behind : ∀ line, '\n' ∉ line → motive (line ++ text) from behind [] (by simp)
  induction text with
  | nil =>
      intro line unended
      rw [List.append_nil]
      exact last line unended
  | cons char text inductionHypothesis =>
      intro line unended
      by_cases ends : char = '\n'
      · subst ends
        exact more line text unended (inductionHypothesis [] (by simp))
      · rw [← List.singleton_append, ← List.append_assoc]
        apply inductionHypothesis
        simpa [unended] using Ne.symm ends

/-- If a text does not begin with a blank, its first line is not blank. -/
theorem exists_lines_eq_cons {text : List Char} (nonempty : text ≠ [])
    (begins : ∀ first ∈ text.head?, isBlank first = false) :
    ∃ first others, lines text = first :: others ∧ trim first ≠ [] := by
  have unblank (line : List Char) (nonempty : line ≠ [])
      (begins : ∀ first ∈ line.head?, isBlank first = false) : trim line ≠ [] := by
    intro empty
    obtain ⟨char, rest, rfl⟩ := List.exists_cons_of_ne_nil nonempty
    rw [trim_eq_nil_iff, List.all_cons, begins char rfl] at empty
    contradiction
  induction text using line_induction with
  | last line unended =>
      refine ⟨line, [], ?_, unblank line nonempty begins⟩
      unfold lines
      simp only [splitAt_of_not_mem unended]
      exact if_neg nonempty
  | more line text unended =>
      refine ⟨dropReturn line, lines text, lines_append_lineFeed unended text, ?_⟩
      rw [trim_dropReturn]
      cases line with
      | nil => exact absurd (begins '\n' rfl) (by decide)
      | cons char line => exact unblank (char :: line) (by simp) begins

/-- The pieces that are not blank, trimmed. -/
def filled (pieces : List (List Char)) : List (List Char) := (pieces.map trim).filter (· ≠ [])

@[simp]
theorem filled_nil : filled [] = [] := rfl

theorem filled_cons (piece : List Char) (pieces : List (List Char)) :
    filled (piece :: pieces) = filled [piece] ++ filled pieces := by
  unfold filled
  rw [← List.filter_append]
  rfl

theorem filled_append (pieces others : List (List Char)) :
    filled (pieces ++ others) = filled pieces ++ filled others := by
  unfold filled
  rw [List.map_append, List.filter_append]

theorem filled_congr {piece other : List Char} (same : trim piece = trim other) :
    filled [piece] = filled [other] := by
  unfold filled
  rw [List.map_singleton, same, List.map_singleton]

theorem filled_map_dropReturn (pieces : List (List Char)) :
    filled (pieces.map dropReturn) = filled pieces := by
  unfold filled
  rw [List.map_map]
  congr 1
  exact List.map_congr_left fun piece _ => trim_dropReturn piece

theorem filled_lines (text : List Char) : filled (lines text) = filled (splitAt '\n' text) := by
  have nonempty : splitAt '\n' text ≠ [] := splitWhere_ne_nil _ _
  have unfinished : filled (if (splitAt '\n' text).getLast nonempty = [] then []
      else [(splitAt '\n' text).getLast nonempty]) =
      filled [(splitAt '\n' text).getLast nonempty] := by
    split
    next empty => rw [empty]; rfl
    next => rfl
  unfold lines
  simp only [List.getLastD_eq_getLast?, List.getLast?_eq_some_getLast nonempty, Option.getD_some]
  rw [filled_append, filled_map_dropReturn, unfinished, ← filled_append,
    List.dropLast_concat_getLast]

theorem filled_splitAt_cons_blank {blank : Char} (isBlank : isBlank blank = true)
    (text : List Char) : filled (splitAt '\n' (blank :: text)) = filled (splitAt '\n' text) := by
  unfold splitAt
  rw [splitWhere_cons]
  split
  · exact filled_cons [] _
  · cases pieces : splitWhere (· == '\n') text with
    | nil => exact absurd pieces (splitWhere_ne_nil _ _)
    | cons first others =>
        rw [List.modifyHead_cons, filled_cons, filled_congr (trim_cons_blank isBlank first),
          ← filled_cons]

theorem filled_splitAt_append_blank (text : List Char) {blank : Char}
    (isBlank : isBlank blank = true) :
    filled (splitAt '\n' (text ++ [blank])) = filled (splitAt '\n' text) := by
  by_cases ends : blank = '\n'
  · subst ends
    rw [splitAt_append_cons, filled_append]
    exact List.append_nil _
  · induction text using line_induction with
    | last line unended =>
        have longer : '\n' ∉ line ++ [blank] := by simpa [unended] using Ne.symm ends
        rw [splitAt_of_not_mem longer, splitAt_of_not_mem unended]
        exact filled_congr (trim_append_blank line isBlank)
    | more line text unended inductionHypothesis =>
        rw [List.append_assoc, List.cons_append, splitAt_append_cons, splitAt_append_cons,
          filled_append, filled_append, inductionHypothesis]

/-- Trimming a text leaves the lines that are not blank, apart from blanks at their ends. -/
theorem filled_lines_trim (text : List Char) : filled (lines (trim text)) = filled (lines text) := by
  rw [filled_lines, filled_lines]
  apply apply_trim fun text => filled (splitAt '\n' text)
  · intro blank text isBlank
    exact filled_splitAt_cons_blank isBlank text
  · intro text blank isBlank
    exact filled_splitAt_append_blank text isBlank

/-- What is found in pieces without regard to blanks at their ends is found in the trimmed ones. -/
theorem findSome?_filled {α : Type} {read : List Char → Option α}
    (trimmed : ∀ piece, read (trim piece) = read piece) (nothing : read [] = none)
    (pieces : List (List Char)) : (filled pieces).findSome? read = pieces.findSome? read := by
  induction pieces with
  | nil => rfl
  | cons piece pieces inductionHypothesis =>
      have first : (filled [piece]).findSome? read = read piece := by
        rw [← trimmed piece, filled, List.map_singleton]
        by_cases empty : trim piece = []
        · rw [List.filter_cons_of_neg (by simpa using empty), List.filter_nil, empty, nothing]
          rfl
        · rw [List.filter_cons_of_pos (by simpa using empty), List.filter_nil,
            List.findSome?_singleton]
      rw [filled_cons, List.findSome?_append, first, inductionHypothesis, List.findSome?_cons]
      cases read piece <;> rfl

theorem head?_filled (pieces : List (List Char)) :
    (filled pieces).head? = (pieces.find? fun piece => !piece.all isBlank).map trim := by
  induction pieces with
  | nil => rfl
  | cons piece pieces inductionHypothesis =>
      rw [filled_cons, List.find?_cons]
      by_cases blank : piece.all isBlank = true
      · rw [filled, List.map_singleton, (trim_eq_nil_iff piece).mpr blank, blank]
        exact inductionHypothesis
      · have kept : trim piece ≠ [] := fun empty => blank ((trim_eq_nil_iff piece).mp empty)
        rw [filled, List.map_singleton, List.filter_cons_of_pos (by simpa using kept)]
        rw [Bool.not_eq_true] at blank
        rw [blank]
        rfl

end AddressWatch.Text
