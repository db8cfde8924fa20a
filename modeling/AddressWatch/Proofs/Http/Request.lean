import AddressWatch.Http.Request
import AddressWatch.Proofs.Text.Graphic
import AddressWatch.Proofs.Text.Pieces
import AddressWatch.Proofs.Text.Utf8

/-!
# Requests are read back

A request whose lines are unbroken and whose length field tells the length of its body is read back from
its bytes, whatever follows them.
-/

namespace AddressWatch.Http

/-- Whether a character can be part of the value of a field: no control character but the tab. -/
def isValueChar (char : Char) : Bool :=
  char == '\t' || (0x20 ≤ char.toNat && char.toNat != 0x7f)

/-- Whether a character stands in the names of fields: the hyphen and the small letters. -/
def isNameChar (char : Char) : Bool :=
  char.toNat == 45 || (97 ≤ char.toNat && char.toNat ≤ 122)

theorem isValueChar_of_isGraphic {char : Char} (graphic : Text.isGraphic char = true) :
    isValueChar char = true := by
  simp only [Text.isGraphic, Bool.and_eq_true, decide_eq_true_eq] at graphic
  simp only [isValueChar, graphic.2, Nat.le_of_lt graphic.1, decide_true, Bool.and_self,
    Bool.or_true]

theorem toNat_of_isNameChar {char : Char} (isName : isNameChar char = true) :
    char.toNat = 45 ∨ (97 ≤ char.toNat ∧ char.toNat ≤ 122) := by
  simpa [isNameChar] using isName

theorem isGraphic_of_isNameChar {char : Char} (isName : isNameChar char = true) :
    Text.isGraphic char = true := by
  have code := toNat_of_isNameChar isName
  simp only [Text.isGraphic, Bool.and_eq_true, decide_eq_true_eq, bne_iff_ne]
  omega

theorem utf8_append (text other : String) : utf8 (text ++ other) = utf8 text ++ utf8 other := by
  rw [utf8, String.toList_append, Text.Utf8.encode_append]
  rfl

theorem utf8_ne_nil {text : String} (nonempty : text ≠ "") : utf8 text ≠ [] := by
  intro empty
  have chars := Text.Utf8.decode_encode text.toList
  rw [← utf8, empty] at chars
  exact nonempty (String.toList_eq_nil_iff.mp chars.symm)

/-- The bytes of a character can be part of a value if the character can. -/
theorem all_isValueByte_utf8EncodeChar (char : Char) :
    (String.utf8EncodeChar char).all isValueByte = isValueChar char := by
  rcases Nat.lt_or_ge char.toNat 0x80 with isAscii | notAscii
  · have each : ∀ code : Fin 128, isValueByte (UInt8.ofNat (Char.ofNat code).toNat) =
        isValueChar (Char.ofNat code) := by
      decide
    have own : isValueByte (UInt8.ofNat char.toNat) = isValueChar char :=
      Text.of_toNat_lt char isAscii each
    rw [Text.Utf8.utf8EncodeChar_of_lt isAscii, List.all_cons, List.all_nil, Bool.and_true, own]
  · have outside : isValueChar char = true := by
      simp only [isValueChar, Bool.or_eq_true, Bool.and_eq_true, decide_eq_true_eq, bne_iff_ne]
      omega
    rw [outside, List.all_eq_true]
    intro byte membership
    have high := Text.Utf8.le_of_mem_utf8EncodeChar notAscii membership
    simp only [isValueByte, Bool.or_eq_true, Bool.and_eq_true, decide_eq_true_eq, bne_iff_ne,
      UInt8.le_iff_toNat_le]
    refine Or.inr ⟨Nat.le_trans (by decide) high, ?_⟩
    rintro rfl
    contradiction

theorem all_isValueByte_utf8 (text : String) :
    (utf8 text).all isValueByte = text.toList.all isValueChar := by
  rw [utf8, Text.Utf8.encode, List.all_flatMap]
  exact congrArg (text.toList.all ·) (funext all_isValueByte_utf8EncodeChar)

/-- A text of ASCII characters has one byte for each character. -/
theorem latin_utf8 {text : String} (isAscii : ∀ char ∈ text.toList, char.toNat < 0x80) :
    latin (utf8 text) = text.toList := by
  rw [utf8]
  generalize text.toList = chars at isAscii
  induction chars with
  | nil => rfl
  | cons char chars inductionHypothesis =>
      have small := isAscii char List.mem_cons_self
      have rest := inductionHypothesis fun other membership =>
        isAscii other (List.mem_cons_of_mem char membership)
      have code : (UInt8.ofNat char.toNat).toNat = char.toNat :=
        UInt8.toNat_ofNat_of_lt' (Nat.lt_trans small (by decide))
      rw [Text.Utf8.encode_cons, Text.Utf8.utf8EncodeChar_of_lt small, List.singleton_append, latin,
        List.map_cons, code, Char.ofNat_toNat]
      exact congrArg (char :: ·) rest

theorem decimal?_utf8_decimal (number : Nat) :
    decimal? (utf8 (Text.decimal number)) = some number := by
  have digits := Text.toList_decimal number
  have isAscii : ∀ char ∈ (Text.decimal number).toList, char.toNat < 0x80 := by
    intro char membership
    rw [digits] at membership
    obtain ⟨digit, below, rfl⟩ := Text.exists_digit_of_mem_toDigits (by decide) membership
    have each : ∀ digit : Fin 10, (Nat.digitChar digit).toNat < 0x80 := by decide
    exact each ⟨digit, below⟩
  have latin_eq := latin_utf8 isAscii
  have nonempty : utf8 (Text.decimal number) ≠ [] := by
    intro empty
    rw [empty, digits] at latin_eq
    exact Nat.toDigits_ne_nil latin_eq.symm
  rw [decimal?, if_neg nonempty, latin_eq, digits,
    Text.readDigits?_toDigits (by decide) (by decide)]

theorem toLower_of_isNameChar {char : Char} (isName : isNameChar char = true) :
    char.toLower = char := by
  have each : ∀ code : Fin 128,
      isNameChar (Char.ofNat code) = true → (Char.ofNat code).toLower = Char.ofNat code := by
    decide
  have code := toNat_of_isNameChar isName
  have small : char.toNat < 128 := by omega
  have own : isNameChar char = true → char.toLower = char := Text.of_toNat_lt char small each
  exact own isName

theorem fieldName_utf8 {name : String} (isName : name.toList.all isNameChar = true) :
    fieldName (utf8 name) = name := by
  rw [List.all_eq_true] at isName
  have isAscii : ∀ char ∈ name.toList, char.toNat < 0x80 := by
    intro char membership
    have code := toNat_of_isNameChar (isName char membership)
    omega
  have lower : name.toList.map Char.toLower = name.toList := by
    rw [List.map_congr_left fun char membership => toLower_of_isNameChar (isName char membership)]
    exact List.map_id _
  rw [fieldName, latin_utf8 isAscii, lower, String.ofList_toList]

/-- No byte of the characters is the code of an ASCII character that is not among them. -/
theorem not_mem_utf8 {text : String} {code : UInt8} (isAscii : code.toNat < 0x80)
    (absent : ∀ char ∈ text.toList, char.toNat ≠ code.toNat) : code ∉ utf8 text := by
  intro membership
  obtain ⟨char, among, inside⟩ := List.mem_flatMap.mp membership
  rcases Nat.lt_or_ge char.toNat 0x80 with small | large
  · rw [Text.Utf8.utf8EncodeChar_of_lt small, List.mem_singleton] at inside
    apply absent char among
    rw [inside, UInt8.toNat_ofNat_of_lt' (Nat.lt_trans small (by decide))]
  · exact Nat.not_le_of_lt isAscii (Text.Utf8.le_of_mem_utf8EncodeChar large inside)

theorem trimValue_of_ends {value : List UInt8}
    (first : ∀ byte ∈ value.head?, isSpaceByte byte = false)
    (last : ∀ byte ∈ value.getLast?, isSpaceByte byte = false) : trimValue value = value := by
  rw [trimValue, Text.dropWhile_of_head first, Text.dropWhile_of_head, List.reverse_reverse]
  rwa [List.head?_reverse]

theorem isSpaceByte_of_mem_utf8 {text : String} (graphic : text.toList.all Text.isGraphic = true)
    {byte : UInt8} (membership : byte ∈ utf8 text) : isSpaceByte byte = false := by
  have absent {code : UInt8} (isAscii : code.toNat ≤ 0x20) : code ∉ utf8 text := by
    refine not_mem_utf8 (Nat.lt_of_le_of_lt isAscii (by decide)) ?_
    intro char among same
    have own := List.all_eq_true.mp graphic char among
    simp only [Text.isGraphic, Bool.and_eq_true, decide_eq_true_eq] at own
    omega
  simp only [isSpaceByte, Bool.or_eq_false_iff, beq_eq_false_iff_ne]
  constructor
  · rintro rfl
    exact absent (by decide) membership
  · rintro rfl
    exact absent (by decide) membership

theorem trimValue_utf8 {text : String} (graphic : text.toList.all Text.isGraphic = true) :
    trimValue (utf8 text) = utf8 text :=
  trimValue_of_ends
    (fun _ first => isSpaceByte_of_mem_utf8 graphic (List.mem_of_mem_head? first))
    (fun _ last => isSpaceByte_of_mem_utf8 graphic (List.mem_of_getLast? last))

/-- The field with a value that has no spaces or tabs at its ends. -/
def Field.trimmed (field : Field) : Field := { field with value := trimValue field.value }

/-- The line of a field, without its end. -/
def Field.line (field : Field) : List UInt8 := utf8 field.name ++ [58, 32] ++ field.value

/-- A field that stands on one line. -/
structure Field.Framed (field : Field) : Prop where
  name : field.name.toList.all isNameChar = true
  value : field.value.all isValueByte = true

namespace Request

/-- The first line of a request, without its end. -/
def startLine (request : Request) : List UInt8 :=
  utf8 request.method ++ [32] ++ utf8 request.target ++ utf8 " HTTP/1.1"

/-- A request whose lines are unbroken and whose length field tells the length of its body, which is empty
if there is no such field. -/
structure Framed (request : Request) : Prop where
  method : request.method.toList.all Text.isGraphic = true
  target : request.target.toList.all Text.isGraphic = true
  fields : ∀ field ∈ request.fields, field.Framed
  length : ((valuesOf "content-length" (request.fields.map Field.trimmed)).head?.bind decimal?).getD 0 =
    request.body.length

theorem bytes_eq (request : Request) :
    request.bytes = (request.startLine :: request.fields.map Field.line).flatMap (· ++ lineEnd) ++
      lineEnd ++ request.body := by
  rw [List.flatMap_cons, List.flatMap_map, List.append_assoc _ _ lineEnd, bytes, startLine]
  simp only [List.append_assoc]
  rfl

theorem headLines?_append_lineEnd {line : List UInt8} (unbroken : 13 ∉ line)
    (begun rest : List UInt8) :
    headLines? begun (line ++ lineEnd ++ rest) =
      if begun.reverse ++ line = [] then some ([], rest)
      else (headLines? [] rest).map fun (lines, last) => ((begun.reverse ++ line) :: lines, last) := by
  -- Each byte moves to what has been begun of the line.
  induction line generalizing begun with
  | nil =>
      rw [List.nil_append, lineEnd, List.cons_append, List.cons_append, List.nil_append, headLines?,
        List.append_nil]
      simp only [List.reverse_eq_nil_iff]
  | cons byte line inductionHypothesis =>
      have other : byte ≠ 13 := fun same => unbroken (same ▸ List.mem_cons_self)
      have rest_unbroken : 13 ∉ line := fun inside => unbroken (List.mem_cons_of_mem byte inside)
      rw [List.cons_append, List.cons_append, headLines?, inductionHypothesis rest_unbroken,
        List.reverse_cons, List.append_assoc, List.singleton_append]
      intro _ same
      exact absurd same other

/-- Lines up to the first blank one. -/
theorem headLines?_flatMap {lines : List (List UInt8)}
    (unbroken : ∀ line ∈ lines, 13 ∉ line) (nonempty : ∀ line ∈ lines, line ≠ [])
    (rest : List UInt8) :
    headLines? [] (lines.flatMap (· ++ lineEnd) ++ lineEnd ++ rest) = some (lines, rest) := by
  induction lines with
  | nil => rfl
  | cons line lines inductionHypothesis =>
      have following := inductionHypothesis
        (fun other membership => unbroken other (List.mem_cons_of_mem line membership))
        (fun other membership => nonempty other (List.mem_cons_of_mem line membership))
      rw [List.flatMap_cons, List.append_assoc, List.append_assoc,
        headLines?_append_lineEnd (unbroken line List.mem_cons_self), List.reverse_nil,
        List.nil_append, if_neg (nonempty line List.mem_cons_self), ← List.append_assoc, following]
      rfl

theorem field_line {name : String} (isName : name.toList.all isNameChar = true)
    (value : List UInt8) : field (Field.line ⟨name, value⟩) = ⟨name, trimValue value⟩ := by
  have noColon : ∀ byte ∈ utf8 name, (byte != 58) = true := by
    intro byte membership
    rw [bne_iff_ne]
    rintro rfl
    refine not_mem_utf8 (by decide) ?_ membership
    intro char among
    have code := toNat_of_isNameChar (List.all_eq_true.mp isName char among)
    have colon : (58 : UInt8).toNat = 58 := rfl
    omega
  have line : Field.line ⟨name, value⟩ = utf8 name ++ 58 :: 32 :: value := by
    simp [Field.line]
  have before : (Field.line ⟨name, value⟩).takeWhile (· != 58) = utf8 name := by
    rw [line, List.takeWhile_append_of_pos noColon]
    simp
  have behind : (Field.line ⟨name, value⟩).dropWhile (· != 58) = 58 :: 32 :: value := by
    rw [line, List.dropWhile_append_of_pos noColon]
    simp
  rw [field, before, behind, fieldName_utf8 isName]
  rfl

theorem not_isSpace_of_all_isGraphic {text : String} (graphic : text.toList.all Text.isGraphic = true) :
    ∀ char ∈ text.toList, (char == ' ') = false := by
  intro char membership
  rw [beq_eq_false_iff_ne]
  rintro rfl
  exact absurd (List.all_eq_true.mp graphic ' ' membership) (by decide)

theorem pieces_startLine {request : Request} (framed : request.Framed) :
    pieces request.startLine = [request.method, request.target, "HTTP/1.1"] := by
  have version : "HTTP/1.1".toList.all Text.isGraphic = true := by decide
  have text : request.startLine = Text.Utf8.encode (request.method.toList ++
      ' ' :: (request.target.toList ++ ' ' :: "HTTP/1.1".toList)) := by
    have space : String.utf8EncodeChar ' ' = [32] := rfl
    have version : utf8 " HTTP/1.1" = [32] ++ Text.Utf8.encode "HTTP/1.1".toList := rfl
    rw [startLine, version]
    simp only [utf8, Text.Utf8.encode_append, Text.Utf8.encode_cons, space, List.append_assoc]
  rw [pieces, text, Text.Utf8.decode_encode, Text.splitAt,
    Text.splitWhere_append_cons (not_isSpace_of_all_isGraphic framed.method) (by decide),
    Text.splitWhere_append_cons (not_isSpace_of_all_isGraphic framed.target) (by decide),
    Text.splitWhere_of_forall_not (not_isSpace_of_all_isGraphic version), List.map_cons,
    List.map_cons, List.map_cons, List.map_nil, String.ofList_toList, String.ofList_toList,
    String.ofList_toList]

theorem not_mem_of_all_isValueByte {bytes : List UInt8} (valid : bytes.all isValueByte = true) :
    13 ∉ bytes := by
  intro membership
  exact absurd (List.all_eq_true.mp valid 13 membership) (by decide)

theorem all_isValueByte_of_all_isGraphic {text : String}
    (graphic : text.toList.all Text.isGraphic = true) : (utf8 text).all isValueByte = true := by
  rw [all_isValueByte_utf8]
  exact List.all_eq_true.mpr fun char membership =>
    isValueChar_of_isGraphic (List.all_eq_true.mp graphic char membership)

theorem Framed.startLine_unbroken {request : Request} (framed : request.Framed) :
    13 ∉ request.startLine := by
  apply not_mem_of_all_isValueByte
  rw [startLine, List.all_append, List.all_append, List.all_append,
    all_isValueByte_of_all_isGraphic framed.method, all_isValueByte_of_all_isGraphic framed.target]
  decide

theorem line_unbroken {field : Field} (framed : field.Framed) : 13 ∉ field.line := by
  apply not_mem_of_all_isValueByte
  have name : (utf8 field.name).all isValueByte = true :=
    all_isValueByte_of_all_isGraphic <| List.all_eq_true.mpr fun char membership =>
      isGraphic_of_isNameChar (List.all_eq_true.mp framed.name char membership)
  rw [Field.line, List.all_append, List.all_append, name, framed.value]
  decide

/-- A framed request is read back from its bytes, whatever follows them. -/
theorem read?_bytes_append {request : Request} (framed : request.Framed) (rest : List UInt8) :
    read? (request.bytes ++ rest) =
      some ({ request with fields := request.fields.map Field.trimmed }, rest) := by
  have unbroken : ∀ line ∈ request.startLine :: request.fields.map Field.line, 13 ∉ line := by
    intro line membership
    rcases List.mem_cons.mp membership with rfl | membership
    · exact framed.startLine_unbroken
    · obtain ⟨field, among, rfl⟩ := List.mem_map.mp membership
      exact line_unbroken (framed.fields field among)
  -- An empty line would end the head too early.
  have nonempty : ∀ line ∈ request.startLine :: request.fields.map Field.line, line ≠ [] := by
    intro line membership
    rcases List.mem_cons.mp membership with rfl | membership
    · simp [startLine]
    · obtain ⟨field, among, rfl⟩ := List.mem_map.mp membership
      simp [Field.line]
  have lines := headLines?_flatMap unbroken nonempty (request.body ++ rest)
  have fields : (request.fields.map Field.line).map field = request.fields.map Field.trimmed := by
    rw [List.map_map]
    exact List.map_congr_left fun field among => field_line (framed.fields field among).name field.value
  rw [bytes_eq, List.append_assoc, read?, lines]
  simp only [fields, framed.length, pieces_startLine framed, List.length_append,
    Nat.not_lt.mpr (Nat.le_add_right _ _), if_false, List.take_left, List.drop_left]

end Request

end AddressWatch.Http
