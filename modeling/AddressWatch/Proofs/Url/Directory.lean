import AddressWatch.Config
import AddressWatch.Proofs.Url.Authority

/-!
# Directories of paths

The path of the records is appended to the text of another path.  What that path comes to when more
segments follow is its directory; the path itself is the directory and slashes.
-/

namespace AddressWatch.Url

open Text

namespace Reader

/-- The names that the text of a path leads to when more follows behind a slash. -/
def directory : List Char → List String
  | [] => []
  | _ :: body =>
      ((splitWhere (isSlash true) body).foldl enter []).reverse.map String.ofList

theorem segments_append_singleton (texts : List (List Char)) (last : List Char) :
    segments (texts ++ [last]) =
      (enterLast (texts.foldl enter []) last).reverse.map String.ofList := by
  rw [segments, List.dropLast_concat, List.getLastD_concat]

/-- What a path is below the directory of another one. -/
theorem path_append_recordsPath {text : List Char}
    (opens : ∀ char ∈ text.head?, isSlash true char = true) :
    path true (text ++ Config.recordsPath.toList) =
      .segments (directory text ++ ["api", "v1", "records"]) := by
  have api : segment "api".toList = .name "api".toList := rfl
  have version : segment "v1".toList = .name "v1".toList := rfl
  have records : segment "records".toList = .name "records".toList := rfl
  have names : splitWhere (isSlash true) "api/v1/records".toList =
      ["api".toList, "v1".toList] ++ ["records".toList] := by decide
  have recordsPath : Config.recordsPath.toList = '/' :: "api/v1/records".toList := rfl
  cases text with
  | nil => rfl
  | cons char body =>
      rw [List.cons_append, path, if_pos (opens char rfl), recordsPath,
        splitWhere_append_separator (by decide), names, ← List.append_assoc,
        segments_append_singleton, List.foldl_append, List.foldl_cons, List.foldl_cons,
        List.foldl_nil, directory]
      simp only [enter, api, version, enterLast, records, List.reverse_cons, List.append_assoc,
        List.map_append, List.map_cons, List.map_nil, List.cons_append, List.nil_append,
        String.ofList_toList]

theorem segment_nil : segment [] = .name [] := rfl

theorem foldl_enter_replicate (count : Nat) (names : List (List Char)) :
    (List.replicate count []).foldl enter names = List.replicate count [] ++ names := by
  induction count generalizing names with
  | zero => rfl
  | succ count inductionHypothesis =>
      rw [List.replicate_succ, List.foldl_cons, inductionHypothesis, enter, segment_nil]
      simp only
      rw [List.append_cons, ← List.replicate_succ', List.replicate_succ, List.cons_append]

theorem splitWhere_replicate_slash (count : Nat) :
    splitWhere (isSlash true) (List.replicate count '/') = List.replicate (count + 1) [] := by
  induction count with
  | zero => rfl
  | succ count inductionHypothesis =>
      rw [List.replicate_succ, splitWhere_cons, if_pos (by decide), inductionHypothesis,
        ← List.replicate_succ]

/-- The last segment of a path is in its directory, unless it stands for a directory itself. -/
theorem exists_enterLast_eq (names : List (List Char)) (text : List Char) :
    ∃ count, enterLast names text = List.replicate count [] ++ enter names text := by
  unfold enterLast enter
  cases segment text with
  | name text => exact ⟨0, rfl⟩
  | here => exact ⟨1, rfl⟩
  | above => exact ⟨1, rfl⟩

theorem exists_segments_eq {texts : List (List Char)} (nonempty : texts ≠ []) :
    ∃ count, segments texts =
      (texts.foldl enter []).reverse.map String.ofList ++ List.replicate count "" := by
  obtain ⟨before, last, rfl⟩ := List.eq_nil_or_concat texts |>.resolve_left nonempty
  obtain ⟨count, entered⟩ := exists_enterLast_eq (before.foldl enter []) last
  refine ⟨count, ?_⟩
  rw [List.concat_eq_append, segments_append_singleton, entered, List.foldl_append, List.reverse_append,
    List.map_append, List.reverse_replicate, List.map_replicate]
  rfl

theorem reverse_foldl_enter_append_replicate (texts : List (List Char)) (count : Nat) :
    ((texts ++ List.replicate count []).foldl enter []).reverse.map String.ofList =
      (texts.foldl enter []).reverse.map String.ofList ++ List.replicate count "" := by
  rw [List.foldl_append, foldl_enter_replicate, List.reverse_append, List.map_append,
    List.reverse_replicate, List.map_replicate]

/-- A path is its directory and empty names. -/
theorem exists_path_eq {text : List Char} (opens : ∀ char ∈ text.head?, isSlash true char = true)
    (slashes : Nat) : ∃ count, path true (text ++ List.replicate slashes '/') =
      .segments (directory text ++ List.replicate count "") := by
  cases text with
  | nil =>
      cases slashes with
      -- A host has a path, even if its text is empty.
      | zero => exact ⟨1, rfl⟩
      | succ slashes =>
          have nonempty : List.replicate (slashes + 1) ([] : List Char) ≠ [] := by simp
          obtain ⟨count, names⟩ := exists_segments_eq nonempty
          have entered := reverse_foldl_enter_append_replicate [] (slashes + 1)
          rw [List.nil_append] at entered
          refine ⟨slashes + 1 + count, ?_⟩
          rw [List.nil_append, List.replicate_succ, path, if_pos (by decide), splitWhere_replicate_slash,
            names, entered, List.append_assoc, List.replicate_append_replicate]
          rfl
  | cons char body =>
      rw [List.cons_append, path, if_pos (opens char rfl), directory]
      cases slashes with
      | zero =>
          obtain ⟨count, names⟩ := exists_segments_eq (splitWhere_ne_nil (isSlash true) body)
          refine ⟨count, ?_⟩
          rw [List.replicate_zero, List.append_nil, names]
      | succ slashes =>
          have nonempty :
              splitWhere (isSlash true) body ++ List.replicate (slashes + 1) [] ≠ [] := by simp
          obtain ⟨count, names⟩ := exists_segments_eq nonempty
          refine ⟨slashes + 1 + count, ?_⟩
          rw [List.replicate_succ, splitWhere_append_separator (by decide),
            splitWhere_replicate_slash, names, reverse_foldl_enter_append_replicate,
            List.append_assoc, List.replicate_append_replicate]

end Reader

theorem Path.toList_text_append (names others : List String) :
    (Path.segments (names ++ others)).text.toList =
      (Path.segments names).text.toList ++ (Path.segments others).text.toList := by
  simp [Path.text, String.toList_join]

theorem Path.toList_text_replicate (count : Nat) :
    (Path.segments (List.replicate count "")).text.toList = List.replicate count '/' := by
  induction count with
  | zero => rfl
  | succ count inductionHypothesis =>
      rw [List.replicate_succ, ← List.singleton_append, Path.toList_text_append, inductionHypothesis]
      rfl

namespace Reader

/-- Whether the last segment of a text is a name, and not an empty one. -/
def endsInName (text : List Char) : Bool :=
  match segment ((splitWhere (isSlash true) text).getLastD []) with
  | .name (_ :: _) => true
  | _ => false

theorem exists_of_endsInName {text : List Char} (named : endsInName text = true) :
    ∃ char name,
      segment ((splitWhere (isSlash true) text).getLastD []) = .name (char :: name) := by
  unfold endsInName at named
  split at named
  next char name found => exact ⟨char, name, found⟩
  next => contradiction

theorem not_mem_encode_path {text : List Char} (absent : '/' ∉ text) :
    '/' ∉ Percent.encode Percent.keepsInPath text := by
  have digits : ∀ digit : Fin 16, (Nat.digitChar digit).toUpper ≠ '/' := by decide
  intro membership
  obtain ⟨char, among, inside⟩ := List.mem_flatMap.mp membership
  split at inside
  · rw [List.mem_singleton] at inside
    exact absent (inside ▸ among)
  · obtain ⟨byte, -, encoded⟩ := List.mem_flatMap.mp inside
    have bounded := byte.toNat_lt
    simp only [Percent.encodeByte, List.mem_cons, List.not_mem_nil, or_false] at encoded
    rcases encoded with percent | high | low
    · exact absurd percent (by decide)
    · exact digits ⟨byte.toNat / 16, by omega⟩ high.symm
    · exact digits ⟨byte.toNat % 16, by omega⟩ low.symm

theorem not_mem_of_segment {text name : List Char} (absent : '/' ∉ text)
    (named : segment text = .name name) : '/' ∉ name := by
  unfold segment at named
  dsimp only at named
  split_ifs at named
  rw [← Segment.name.inj named]
  exact not_mem_encode_path absent

/-- A directory whose text ends in a name does not end in a slash. -/
theorem getLast?_directory_ne_slash {char : Char} {body : List Char} (named : endsInName body = true) :
    ∀ last ∈ (Path.segments (directory (char :: body))).text.toList.getLast?,
      (last == '/') = false := by
  obtain ⟨first, name, segment_eq⟩ := exists_of_endsInName named
  obtain ⟨before, piece, pieces⟩ :=
    (List.eq_nil_or_concat (splitWhere (isSlash true) body)).resolve_left (splitWhere_ne_nil _ _)
  rw [List.concat_eq_append] at pieces
  rw [pieces, List.getLastD_concat] at segment_eq
  have unbroken : '/' ∉ piece := by
    intro inside
    have among : piece ∈ splitWhere (isSlash true) body := by simp [pieces]
    exact absurd (forall_not_of_mem_splitWhere among '/' inside) (by decide)
  have absent := not_mem_of_segment unbroken segment_eq
  have opening : ("/" : String).toList = ['/'] := rfl
  have text : (Path.segments (directory (char :: body))).text.toList =
      (Path.segments ((before.foldl enter []).reverse.map String.ofList)).text.toList ++
        '/' :: first :: name := by
    rw [directory, pieces, List.foldl_append, List.foldl_cons, List.foldl_nil, enter, segment_eq]
    simp only [List.reverse_cons, List.map_append, List.map_cons, List.map_nil]
    rw [Path.toList_text_append]
    simp [Path.text, String.toList_join, opening]
  intro last found
  rw [text, List.getLast?_append_of_ne_nil _ (by simp), List.getLast?_cons_cons] at found
  rw [beq_eq_false_iff_ne]
  rintro rfl
  exact absent (List.mem_of_getLast? found)

/-- The path of the records is the other path without slashes at its end, and the path of the records
behind it.  There may be more slashes in between if the directory ends in an empty name. -/
theorem exists_path_text_eq {text : List Char}
    (opens : ∀ char ∈ text.head?, isSlash true char = true) (slashes : Nat) :
    ∃ between : List Char, (∀ char ∈ between, char = '/') ∧
      (path true (text ++ Config.recordsPath.toList)).text.toList =
        dropEndWhile (· == '/') (path true (text ++ List.replicate slashes '/')).text.toList ++
          between ++ Config.recordsPath.toList ∧
      (text = [] ∨ endsInName text.tail = true → between = []) := by
  obtain ⟨count, path_eq⟩ := exists_path_eq opens slashes
  have slash : ∀ char ∈ List.replicate count '/', (char == '/') = true := by simp
  have recordsPath : (Path.segments ["api", "v1", "records"]).text.toList =
      Config.recordsPath.toList := by decide
  rw [path_append_recordsPath opens, path_eq, Path.toList_text_append, Path.toList_text_append,
    Path.toList_text_replicate, dropEndWhile_append_of_all slash, recordsPath]
  obtain ⟨between, split, all⟩ := exists_eq_dropEndWhile_append (· == '/')
    (Path.segments (directory text)).text.toList
  refine ⟨between, fun char membership => eq_of_beq (all char membership), ?_, ?_⟩
  · rw [← split]
  · intro named
    have whole : dropEndWhile (· == '/') (Path.segments (directory text)).text.toList =
        (Path.segments (directory text)).text.toList := by
      apply dropEndWhile_of_last
      cases text with
      | nil => simp [directory, Path.text]
      | cons char body =>
          exact getLast?_directory_ne_slash (named.resolve_left (List.cons_ne_nil char body))
    rw [whole] at split
    simpa using split

end Reader

end AddressWatch.Url
