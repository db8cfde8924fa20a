import AddressWatch.Proofs.Url.Directory

/-!
# URLs with a longer path

The path of the records is appended to the text of a URL, after slashes at its end have been cut.  What is
in front of the path stays what it is, unless the text is no more than a scheme and slashes.
-/

namespace AddressWatch.Url

open Text

namespace Reader

/-- Whether a character is not skipped inside a URL. -/
def isKept (char : Char) : Bool := char != '\t' && char != '\n' && char != '\r'

/-- The text behind the scheme as it is read. -/
def cleanEnd (text : List Char) : List Char := (dropEndWhile isOuter text).filter isKept

theorem clean_append_cons {scheme : String} (known : scheme = "http" ∨ scheme = "https")
    (rest : List Char) :
    clean (scheme.toList ++ ':' :: rest) = scheme.toList ++ ':' :: cleanEnd rest := by
  have clean_eq (text : List Char) :
      clean text = (dropEndWhile isOuter (text.dropWhile isOuter)).filter isKept := rfl
  have kept : scheme.toList.filter isKept = scheme.toList := by rcases known with rfl | rfl <;> rfl
  have opens : (scheme.toList ++ ':' :: rest).dropWhile isOuter = scheme.toList ++ ':' :: rest := by
    rcases known with rfl | rfl <;> rfl
  rw [clean_eq, opens, dropEndWhile_append_cons (by decide), List.filter_append, kept,
    List.filter_cons_of_pos (by decide), cleanEnd]

theorem scheme?_append_cons {scheme : String} (known : scheme = "http" ∨ scheme = "https")
    (rest : List Char) : scheme? (scheme.toList ++ ':' :: rest) = some (scheme, rest) := by
  rcases known with rfl | rfl <;> rfl

/-- The text without slashes at its end. -/
def cut (text : List Char) : List Char := dropEndWhile (· == '/') text

/-- The text in front of the path that is appended, as it is read. -/
def stem (text : List Char) : List Char := (cut text).filter isKept

theorem cleanEnd_cut_append (text : List Char) :
    cleanEnd (cut text ++ Config.recordsPath.toList) = stem text ++ Config.recordsPath.toList := by
  have last : (cut text ++ Config.recordsPath.toList).getLast? = some 's' := by
    rw [List.getLast?_append_of_ne_nil _ (by decide)]
    rfl
  have whole : dropEndWhile isOuter (cut text ++ Config.recordsPath.toList) =
      cut text ++ Config.recordsPath.toList := by
    apply dropEndWhile_of_last
    rw [last]
    rintro char ⟨⟩
    decide
  have kept : Config.recordsPath.toList.filter isKept = Config.recordsPath.toList := by decide
  rw [cleanEnd, whole, List.filter_append, kept]
  rfl

theorem cleanEnd_of_slashes {text : List Char} {count : Nat}
    (text_eq : text = cut text ++ List.replicate (count + 1) '/') :
    cleanEnd text = stem text ++ List.replicate (count + 1) '/' := by
  have last : text.getLast? = some '/' := by
    rw [text_eq, List.replicate_succ', ← List.append_assoc, List.getLast?_concat]
  have whole : dropEndWhile isOuter text = text := by
    apply dropEndWhile_of_last
    rw [last]
    rintro char ⟨⟩
    decide
  have kept : (List.replicate (count + 1) '/').filter isKept = List.replicate (count + 1) '/' := by
    simp [isKept]
  calc cleanEnd text = (cut text ++ List.replicate (count + 1) '/').filter isKept := by
        rw [cleanEnd, whole, ← text_eq]
    _ = stem text ++ List.replicate (count + 1) '/' := by
        rw [List.filter_append, kept]
        rfl

theorem stem_of_no_slash {text : List Char} (uncut : cut text = text) :
    stem text = cleanEnd text ∨ (∃ char ∈ text.getLast?, isOuter char = true) ∧
      ∃ blanks, blanks ≠ [] ∧ (∀ char ∈ blanks, isOuter char = true) ∧
        stem text = cleanEnd text ++ blanks := by
  obtain ⟨blanks, blanks_eq, outer⟩ := exists_eq_dropEndWhile_append isOuter text
  have stem_eq : stem text = cleanEnd text ++ blanks.filter isKept := by
    rw [stem, uncut, cleanEnd, ← List.filter_append, ← blanks_eq]
  rcases List.eq_nil_or_concat blanks with rfl | ⟨before, last, rfl⟩
  · exact Or.inl (by simpa using stem_eq)
  · rw [List.concat_eq_append] at blanks_eq outer stem_eq
    by_cases filtered : (before ++ [last]).filter isKept = []
    · exact Or.inl (by rw [stem_eq, filtered, List.append_nil])
    · refine Or.inr ⟨⟨last, ?_, outer last (by simp)⟩, _, filtered, ?_, stem_eq⟩
      · rw [blanks_eq, ← List.append_assoc, List.getLast?_concat]
        rfl
      · exact fun char membership => outer char (List.mem_filter.mp membership).1

/-- The text that is read is the stem and slashes, or the stem is that text and blanks. -/
theorem cleanEnd_cases (text : List Char) :
    (∃ count, cleanEnd text = stem text ++ List.replicate count '/') ∨
      (∃ char ∈ (cut text).getLast?, isOuter char = true) ∧
        ∃ blanks, blanks ≠ [] ∧ (∀ char ∈ blanks, isOuter char = true) ∧
          stem text = cleanEnd text ++ blanks := by
  obtain ⟨slashes, text_eq, all⟩ := exists_eq_dropEndWhile_append (· == '/') text
  rw [← cut, List.eq_replicate_iff.mpr ⟨rfl, fun char among => eq_of_beq (all char among)⟩] at text_eq
  cases length : slashes.length with
  | zero =>
      rw [length, List.replicate_zero, List.append_nil] at text_eq
      have uncut : cut text = text := text_eq.symm
      rcases stem_of_no_slash uncut with same | blanked
      · exact Or.inl ⟨0, by rw [same, List.replicate_zero, List.append_nil]⟩
      · rw [uncut]
        exact Or.inr blanked
  | succ count =>
      rw [length] at text_eq
      exact Or.inl ⟨count + 1, cleanEnd_of_slashes text_eq⟩

end Reader

variable {names : HostNames} {text scheme : String} {rest : List Char}

theorem read?_web (known : scheme = "http" ∨ scheme = "https")
    (text_eq : text.toList = scheme.toList ++ ':' :: rest) :
    read? names text = (Reader.authority? names scheme (Reader.authorityText (Reader.cleanEnd rest))).map
      (·.url scheme (Reader.pathText (Reader.cleanEnd rest))) := by
  have found : Reader.scheme? (Reader.clean text.toList) = some (scheme, Reader.cleanEnd rest) := by
    rw [text_eq, Reader.clean_append_cons known, Reader.scheme?_append_cons known]
  exact read?_eq_map found (isSpecial_web known)

/-- What is appended behind a slash follows the authority in the stem. -/
theorem read?_of_cleanEnd (known : scheme = "http" ∨ scheme = "https")
    (text_eq : text.toList = scheme.toList ++ ':' :: rest) {stem more : List Char}
    (beyond : ∃ char ∈ stem, Reader.isSlash true char = false)
    (slash : ∀ char ∈ more.head?, char = '/') (cleaned : Reader.cleanEnd rest = stem ++ more) :
    read? names text = (Reader.authority? names scheme (Reader.authorityText stem)).map
      (·.url scheme (Reader.pathText stem ++ more)) := by
  have ends : ∀ char ∈ more.head?, (!Reader.endsAuthority true char) = false := by
    intro char first
    rw [slash char first]
    rfl
  rw [read?_web known text_eq, cleaned, Reader.authorityText, Reader.pathText,
    dropWhile_append_of_exists beyond, takeWhile_append_of_head ends, dropWhile_append_of_head ends]
  rfl

theorem read?_append_recordsPath (known : scheme = "http" ∨ scheme = "https")
    (text_eq : text.toList = scheme.toList ++ ':' :: (Reader.cut rest ++ Config.recordsPath.toList))
    (beyond : ∃ char ∈ Reader.stem rest, Reader.isSlash true char = false) :
    read? names text = (Reader.authority? names scheme (Reader.authorityText (Reader.stem rest))).map
      (·.url scheme (Reader.pathText (Reader.stem rest) ++ Config.recordsPath.toList)) := by
  refine read?_of_cleanEnd known text_eq beyond ?_ (Reader.cleanEnd_cut_append rest)
  rintro char ⟨⟩
  rfl

theorem read?_of_slashes (known : scheme = "http" ∨ scheme = "https")
    (text_eq : text.toList = scheme.toList ++ ':' :: rest)
    (beyond : ∃ char ∈ Reader.stem rest, Reader.isSlash true char = false) {count : Nat}
    (cleaned : Reader.cleanEnd rest = Reader.stem rest ++ List.replicate count '/') :
    read? names text = (Reader.authority? names scheme (Reader.authorityText (Reader.stem rest))).map
      (·.url scheme (Reader.pathText (Reader.stem rest) ++ List.replicate count '/')) := by
  refine read?_of_cleanEnd known text_eq beyond ?_ cleaned
  intro char first
  exact (List.mem_replicate.mp (List.mem_of_mem_head? first)).2

theorem Reader.not_ends_of_isOuter {char : Char} (outer : isOuter char = true) :
    isSlash true char = false ∧ endsAuthority true char = false := by
  have each : ∀ code : Fin 33, isSlash true (Char.ofNat code) = false ∧
      endsAuthority true (Char.ofNat code) = false := by
    decide
  exact of_isOuter char outer each

/-- Blanks at the end of a text are not in the authority, if it is one. -/
theorem authorityText_append_of_isOuter (keeps : names.KeepsBlanks) (special : isSpecial scheme = true)
    {front blanks : List Char} (nonempty : blanks ≠ [])
    (outer : ∀ char ∈ blanks, isOuter char = true) {authority : Reader.Authority}
    (found : Reader.authority? names scheme (Reader.authorityText (front ++ blanks)) = some authority) :
    Reader.authorityText (front ++ blanks) = Reader.authorityText front := by
  have stops : ∀ char ∈ blanks.head?, Reader.isSlash true char = false := fun char first =>
    (Reader.not_ends_of_isOuter (outer char (List.mem_of_mem_head? first))).1
  have whole : blanks.takeWhile (!Reader.endsAuthority true ·) = blanks := by
    rw [List.takeWhile_eq_self_iff]
    intro char membership
    rw [(Reader.not_ends_of_isOuter (outer char membership)).2]
    rfl
  rw [Reader.authorityText, dropWhile_append_of_head stops, List.takeWhile_append, whole] at found ⊢
  split at found
  next unended =>
    -- The blanks would stand at the end of the authority.
    have last : ((front.dropWhile (Reader.isSlash true)) ++ blanks).getLast? =
        some (blanks.getLast nonempty) := by
      rw [List.getLast?_append_of_ne_nil _ nonempty, List.getLast?_eq_some_getLast nonempty]
    rw [Reader.authority?_eq_none keeps special last (outer _ (List.getLast_mem nonempty))] at found
    contradiction
  next ended => rw [if_neg ended, Reader.authorityText]

/-- If the path of the records can be appended, it follows the same authority. -/
theorem exists_base (keeps : names.KeepsBlanks) {base : String} (known : scheme = "http" ∨ scheme = "https")
    (base_eq : base.toList = scheme.toList ++ ':' :: rest)
    (text_eq : text.toList = scheme.toList ++ ':' :: (Reader.cut rest ++ Config.recordsPath.toList))
    (beyond : ∃ char ∈ Reader.stem rest, Reader.isSlash true char = false) {full : Url}
    (read : read? names text = some full) :
    ∃ (authority : Reader.Authority) (after after' : List Char),
      read? names base = some (authority.url scheme after) ∧ full = authority.url scheme after' := by
  rw [read?_append_recordsPath known text_eq beyond, Option.map_eq_some_iff] at read
  obtain ⟨authority, found, rfl⟩ := read
  rcases Reader.cleanEnd_cases rest with ⟨count, cleaned⟩ | ⟨-, blanks, nonempty, outer, stem_eq⟩
  · refine ⟨authority, Reader.pathText (Reader.stem rest) ++ List.replicate count '/', _, ?_, rfl⟩
    rw [read?_of_slashes known base_eq beyond cleaned, found, Option.map_some]
  · -- Blanks that the base skips at its end stand inside the longer text.
    refine ⟨authority, Reader.pathText (Reader.cleanEnd rest), _, ?_, rfl⟩
    rw [stem_eq] at found
    rw [read?_web known base_eq, ← authorityText_append_of_isOuter keeps (isSpecial_web known) nonempty outer found,
      found, Option.map_some]

/-- A URL that does not end in a blank, slashes aside, leads to the same authority as what is
below it. -/
theorem exists_full {base : String} {url : Url} (known : scheme = "http" ∨ scheme = "https")
    (base_eq : base.toList = scheme.toList ++ ':' :: rest)
    (text_eq : text.toList = scheme.toList ++ ':' :: (Reader.cut rest ++ Config.recordsPath.toList))
    (beyond : ∃ char ∈ Reader.stem rest, Reader.isSlash true char = false)
    (unblanked : ∀ char ∈ (Reader.cut rest).getLast?, isOuter char = false)
    (read : read? names base = some url) :
    ∃ (authority : Reader.Authority) (count : Nat),
      url = authority.url scheme (Reader.pathText (Reader.stem rest) ++ List.replicate count '/') ∧
      read? names text = some
        (authority.url scheme (Reader.pathText (Reader.stem rest) ++ Config.recordsPath.toList)) := by
  rcases Reader.cleanEnd_cases rest with ⟨count, cleaned⟩ | ⟨⟨char, last, outer⟩, -⟩
  · rw [read?_of_slashes known base_eq beyond cleaned, Option.map_eq_some_iff] at read
    obtain ⟨authority, found, url_eq⟩ := read
    refine ⟨authority, count, url_eq.symm, ?_⟩
    rw [read?_append_recordsPath known text_eq beyond, found, Option.map_some]
  · rw [unblanked char last] at outer
    contradiction

namespace Reader

/-- What follows an authority is its path if there is neither a query nor a fragment. -/
theorem Authority.url_of_path (special : isSpecial scheme = true) (authority : Authority)
    {after : List Char} (plain : ∀ char ∈ after, char ≠ '?' ∧ char ≠ '#') :
    (authority.url scheme after).path = path true after ∧
      (authority.url scheme after).query = none ∧ (authority.url scheme after).fragment = none := by
  have inPath : ∀ char ∈ after, (char != '?' && char != '#') = true := by
    intro char membership
    rw [Bool.and_eq_true, bne_iff_ne, bne_iff_ne]
    exact plain char membership
  have split : splitSuffix after = (after, []) := by
    rw [splitSuffix, List.takeWhile_eq_self_iff.mpr inPath, List.dropWhile_eq_nil_iff.mpr inPath]
  rw [Authority.url, special, split]
  exact ⟨rfl, rfl, rfl⟩

theorem pathText_isSuffix (text : List Char) : pathText text <:+ text :=
  (List.dropWhile_suffix _).trans (List.dropWhile_suffix _)

theorem mem_of_mem_stem {text : List Char} {char : Char} (membership : char ∈ stem text) :
    char ∈ text :=
  (dropEndWhile_isPrefix _ text).subset (List.mem_filter.mp membership).1

theorem plain_pathText_append {text more : List Char}
    (plain : ∀ char ∈ text, char ≠ '?' ∧ char ≠ '#')
    (plainMore : ∀ char ∈ more, char ≠ '?' ∧ char ≠ '#') :
    ∀ char ∈ pathText text ++ more, char ≠ '?' ∧ char ≠ '#' := by
  intro char membership
  rcases List.mem_append.mp membership with inPath | inMore
  · exact plain char ((pathText_isSuffix text).subset inPath)
  · exact plainMore char inMore

/-- What follows the authority begins with a slash if it is a path. -/
theorem isSlash_of_head?_pathText {text : List Char}
    (plain : ∀ char ∈ text, char ≠ '?' ∧ char ≠ '#') :
    ∀ char ∈ (pathText text).head?, isSlash true char = true := by
  intro char first
  have ends := List.head?_dropWhile_not (!endsAuthority true ·) (text.dropWhile (isSlash true))
  rw [← pathText, first] at ends
  obtain ⟨noQuery, noFragment⟩ :=
    plain char ((pathText_isSuffix text).subset (List.mem_of_mem_head? first))
  simpa [endsAuthority, noQuery, noFragment] using ends

/-- A text that ends in a name has it in its path, if there is a path. -/
theorem endsInName_tail_pathText {text opening : List Char}
    (plain : ∀ char ∈ text, char ≠ '?' ∧ char ≠ '#')
    (named : endsInName (opening ++ text) = true) :
    pathText text = [] ∨ endsInName (pathText text).tail = true := by
  cases found : pathText text with
  | nil => exact Or.inl rfl
  | cons char body =>
      have slash := isSlash_of_head?_pathText plain char (by rw [found]; rfl)
      obtain ⟨before, text_eq⟩ := pathText_isSuffix text
      refine Or.inr ?_
      rwa [endsInName, ← text_eq, found, ← List.append_assoc, splitWhere_append_separator slash,
        List.getLastD_eq_getLast?, List.getLast?_append_of_ne_nil _ (splitWhere_ne_nil _ _),
        ← List.getLastD_eq_getLast?] at named

end Reader

end AddressWatch.Url
