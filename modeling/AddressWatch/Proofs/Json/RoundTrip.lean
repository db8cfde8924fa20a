import AddressWatch.Json.Reader
import AddressWatch.Proofs.Text.Digits

/-!
# Reading what was written

A reader takes the text of a value from the front of any longer text.  For strings this holds of every
text whatever, since what could end a string is escaped; for numbers it takes something behind that does
not go on as a number; and of an object every member is taken in its place.
-/

namespace AddressWatch.Json

/-- The reader takes the value from the front of the text and leaves the rest. -/
def Takes {α : Type} (reader : (text : List Char) → Read α text) (text : List Char) (value : α)
    (rest : List Char) : Prop :=
  (reader text).map (fun taken => (taken.1, taken.2.val)) = .ok (value, rest)

theorem takes_iff {α : Type} {reader : (text : List Char) → Read α text} {text rest : List Char}
    {value : α} :
    Takes reader text value rest ↔ ∃ shorter, reader text = .ok (value, ⟨rest, shorter⟩) := by
  unfold Takes
  cases reader text with
  | error stop => simp [Except.map]
  | ok taken =>
      obtain ⟨taken, last, shorter⟩ := taken
      simp only [Except.map, Except.ok.injEq, Prod.mk.injEq, Subtype.mk.injEq]
      constructor
      · rintro ⟨rfl, rfl⟩
        exact ⟨shorter, rfl, rfl⟩
      · rintro ⟨_, same⟩
        exact same

/-! ## Strings -/

theorem readHexEscape_hexPair {code : Nat} (control : code < 0x20) (rest : List Char) :
    Takes readHexEscape ('0' :: '0' :: (hexPair code ++ rest)) (Char.ofNat code) rest := by
  have each : ∀ code : Fin 0x20, unit? ('0' :: '0' :: hexPair code) = some code.val := by decide
  have digits : unit? ['0', '0', Nat.digitChar (code / 16 % 16), Nat.digitChar (code % 16)] =
      some code := each ⟨code, control⟩
  have below : ¬(0xdc00 ≤ code ∧ code ≤ 0xdfff) := by omega
  have notLeading : ¬(0xd800 ≤ code ∧ code ≤ 0xdbff) := by omega
  simp only [Takes, hexPair, List.cons_append, List.nil_append, readHexEscape, readUnit, digits,
    if_neg below, if_neg notLeading]
  rfl

/-- A character is written as it is, or with a backslash and what is read back behind one. -/
theorem escape_cases (char : Char) :
    (escape char = [char] ∧ char ≠ '"' ∧ char ≠ '\\' ∧ 0x20 ≤ char.toNat) ∨
      ∃ after, escape char = '\\' :: after ∧ ∀ rest, Takes readEscape (after ++ rest) char rest := by
  unfold escape
  split
  next => exact .inr ⟨['"'], rfl, fun rest => rfl⟩
  next => exact .inr ⟨['\\'], rfl, fun rest => rfl⟩
  next => exact .inr ⟨['b'], rfl, fun rest => rfl⟩
  next => exact .inr ⟨['t'], rfl, fun rest => rfl⟩
  next => exact .inr ⟨['n'], rfl, fun rest => rfl⟩
  next => exact .inr ⟨['f'], rfl, fun rest => rfl⟩
  next => exact .inr ⟨['r'], rfl, fun rest => rfl⟩
  next noQuote noBackslash _ _ _ _ _ =>
    split
    next control =>
      refine .inr ⟨_, rfl, fun rest => ?_⟩
      obtain ⟨shorter, read⟩ := takes_iff.mp (readHexEscape_hexPair control rest)
      rw [Char.ofNat_toNat] at read
      simp only [Takes, List.cons_append, readEscape, read]
      rfl
    next plain => exact .inl ⟨rfl, noQuote, noBackslash, by omega⟩

theorem readString_plain {char : Char} (noQuote : char ≠ '"') (noBackslash : char ≠ '\\')
    (plain : 0x20 ≤ char.toNat) {read text rest : List Char} {result : String}
    (following : Takes (readString (char :: read)) text result rest) :
    Takes (readString read) (char :: text) result rest := by
  obtain ⟨shorter, following⟩ := takes_iff.mp following
  rw [Takes, readString]
  · simp only [if_neg (Nat.not_lt.mpr plain), following]
    rfl
  · exact noQuote
  · exact noBackslash

theorem readString_escaped {char : Char} {read text middle rest : List Char} {result : String}
    (escaped : Takes readEscape text char middle)
    (following : Takes (readString (char :: read)) middle result rest) :
    Takes (readString read) ('\\' :: text) result rest := by
  obtain ⟨shorter, escaped⟩ := takes_iff.mp escaped
  obtain ⟨shorter, following⟩ := takes_iff.mp following
  rw [Takes, readString]
  simp only [escaped, following]
  rfl

/-- Whatever characters a text has, it is read up to the quote that was written behind it. -/
theorem readString_escape (read text rest : List Char) :
    Takes (readString read) (text.flatMap escape ++ '"' :: rest)
      (String.ofList (read.reverse ++ text)) rest := by
  induction text generalizing read with
  | nil =>
      rw [List.flatMap_nil, List.nil_append, List.append_nil, Takes, readString]
      rfl
  | cons char text inductionHypothesis =>
      have following := inductionHypothesis (char :: read)
      rw [List.reverse_cons, List.append_assoc, List.singleton_append] at following
      rw [List.flatMap_cons, List.append_assoc]
      rcases escape_cases char with ⟨alone, noQuote, noBackslash, plain⟩ | ⟨after, escaped, read⟩
      · rw [alone]
        exact readString_plain noQuote noBackslash plain following
      · rw [escaped]
        exact readString_escaped (read _) following

/-! ## Numbers -/

/-- What stands behind a value in an object. -/
inductive Follows : List Char → Prop
  | comma (rest : List Char) : Follows (',' :: rest)
  | brace (rest : List Char) : Follows ('}' :: rest)

theorem head?_toDigits_ne_zero {number : Nat} (positive : 0 < number) :
    (Nat.toDigits 10 number).head? ≠ some '0' := by
  induction number using Nat.strongRecOn with
  | ind number inductionHypothesis =>
      rcases Nat.lt_or_ge number 10 with below | above
      · have each : ∀ digit : Fin 10, 0 < digit.val → Nat.digitChar digit ≠ '0' := by decide
        rw [Nat.toDigits_of_lt_base below]
        simpa using each ⟨number, below⟩ positive
      · rw [Nat.toDigits_of_base_le (by omega) above]
        have front := inductionHypothesis (number / 10) (by omega) (by omega)
        cases digits : Nat.toDigits 10 (number / 10) with
        | nil => exact absurd digits Nat.toDigits_ne_nil
        | cons digit digits => simpa [digits] using front

theorem digitsValue_toDigits (number : Nat) : digitsValue (Nat.toDigits 10 number) = number := by
  have value : Nat.ofDigitChars 10 (Nat.toDigits 10 number) 0 = number :=
    Nat.ofDigitChars_toDigits (by decide) (by decide)
  simp only [Nat.ofDigitChars, Nat.mul_comm 10] at value
  exact value

theorem readNumber_toDigits {number : Nat} {rest : List Char} (follows : Follows rest)
    (inRange : isOutOfRange number 0 = false) :
    readNumber false (Nat.toDigits 10 number ++ rest) = .ok (.natural number, rest) := by
  have digits : ∀ char ∈ Nat.toDigits 10 number, char.isDigit = true :=
    fun char => Nat.isDigit_of_mem_toDigits (by decide) (by decide)
  have whole : (Nat.toDigits 10 number ++ rest).takeWhile Char.isDigit = Nat.toDigits 10 number := by
    rw [List.takeWhile_append_of_pos digits]
    cases follows <;> simp [Char.isDigit]
  have left : (Nat.toDigits 10 number ++ rest).dropWhile Char.isDigit = rest := by
    rw [List.dropWhile_append_of_pos digits]
    cases follows <;> simp [Char.isDigit]
  have finished : readExponent false (digitsValue (Nat.toDigits 10 number)) 0 rest =
      .ok (.natural number, rest) := by
    rw [digitsValue_toDigits]
    cases follows <;> simp [readExponent, finishNumber, inRange, Value.natural]
  simp only [readNumber, whole, left]
  split
  next none => exact absurd none Nat.toDigits_ne_nil
  next zero =>
    rcases Nat.eq_zero_or_pos number with rfl | positive
    · simp [Nat.toDigits_of_lt_base] at zero
    · exact absurd (by rw [zero]; rfl) (head?_toDigits_ne_zero positive)
  next => cases follows <;> exact finished

theorem readToken_of_isDigit {char : Char} (isDigit : char.isDigit = true)
    {text rest : List Char} {value : Value}
    (read : readNumber false (char :: text) = .ok (value, rest))
    (nested : Option ((text : List Char) → Read Value text)) :
    Takes (readToken nested) (char :: text) value rest := by
  rw [Takes, readToken, dif_pos isDigit]
  · split
    next refused => simp [read] at refused
    next taken =>
      rw [read] at taken
      cases taken
      rfl
  all_goals
    rintro rfl
    exact absurd isDigit (by decide)

theorem exists_toDigits_eq_cons (number : Nat) :
    ∃ digit rest, Nat.toDigits 10 number = digit :: rest ∧ digit.isDigit = true := by
  cases digits : Nat.toDigits 10 number with
  | nil => exact absurd digits Nat.toDigits_ne_nil
  | cons digit rest =>
      have membership : digit ∈ Nat.toDigits 10 number := by simp [digits]
      exact ⟨digit, rest, rfl, Nat.isDigit_of_mem_toDigits (by decide) (by decide) membership⟩

theorem readToken_toDigits (nested : Option ((text : List Char) → Read Value text)) {number : Nat}
    {rest : List Char} (follows : Follows rest) (inRange : isOutOfRange number 0 = false) :
    Takes (readToken nested) (Nat.toDigits 10 number ++ rest) (.natural number) rest := by
  have read := readNumber_toDigits follows inRange
  obtain ⟨digit, others, digits_eq, isDigit⟩ := exists_toDigits_eq_cons number
  rw [digits_eq] at read ⊢
  exact readToken_of_isDigit isDigit read nested

theorem isOutOfRange_of_length_le {number : Nat} (few : (Nat.toDigits 10 number).length ≤ 308) :
    isOutOfRange number 0 = false := by
  refine if_pos (.inr ?_)
  omega

/-! ## Members -/

section

variable {readItem : (text : List Char) → Read Value text} {member : String × Value}
  {text middle rest : List Char}

theorem readMember_of_takes
    (label : Takes (readString []) text member.1 (':' :: middle))
    (value : Takes readItem middle member.2 rest) :
    Takes (readMember readItem) text member rest := by
  obtain ⟨_, label⟩ := takes_iff.mp label
  obtain ⟨_, value⟩ := takes_iff.mp value
  simp only [Takes, readMember, label]
  split
  next nothing => cases nothing
  next colon =>
    cases colon
    simp only [value]
    rfl
  next noColon => exact (noColon _ rfl).elim

theorem readMoreMembers_brace (members : List (String × Value)) (rest : List Char) :
    Takes (readMoreMembers readItem members) ('}' :: rest) members.reverse rest := by
  rw [Takes, readMoreMembers]
  split
  next nothing => cases nothing
  next brace =>
    cases brace
    rfl
  next comma => cases comma
  next noBrace _ => exact (noBrace _ rfl).elim

theorem readMoreMembers_comma {members result : List (String × Value)}
    (first : Takes (readMember readItem) text member middle)
    (following : Takes (readMoreMembers readItem (member :: members)) middle result rest) :
    Takes (readMoreMembers readItem members) (',' :: '"' :: text) result rest := by
  obtain ⟨_, first⟩ := takes_iff.mp first
  obtain ⟨_, following⟩ := takes_iff.mp following
  rw [Takes, readMoreMembers]
  split
  next nothing => cases nothing
  next brace => cases brace
  next comma =>
    cases comma
    split
    next nothing => cases nothing
    next brace => cases brace
    next quote =>
      cases quote
      simp only [first, following]
      rfl
    next noQuote => exact (noQuote _ rfl).elim
  next noComma => exact (noComma _ rfl).elim

theorem readMembers_brace (rest : List Char) : Takes (readMembers readItem) ('}' :: rest) [] rest := by
  rw [Takes, readMembers]
  split
  next nothing => cases nothing
  next brace =>
    cases brace
    rfl
  next quote => cases quote
  next noBrace _ => exact (noBrace _ rfl).elim

theorem readMembers_quote {result : List (String × Value)}
    (first : Takes (readMember readItem) text member middle)
    (following : Takes (readMoreMembers readItem [member]) middle result rest) :
    Takes (readMembers readItem) ('"' :: text) result rest := by
  obtain ⟨_, first⟩ := takes_iff.mp first
  obtain ⟨_, following⟩ := takes_iff.mp following
  rw [Takes, readMembers]
  split
  next nothing => cases nothing
  next brace => cases brace
  next quote =>
    cases quote
    simp only [first, following]
    rfl
  next noQuote => exact (noQuote _ rfl).elim

end

/-- A member behind the opening quote of its label. -/
def memberText (member : String × Value) : List Char :=
  member.1.toList.flatMap escape ++ '"' :: ':' :: write member.2

theorem writeMembers_cons (member : String × Value) (members : List (String × Value)) :
    writeMembers (member :: members) =
      '"' :: memberText member ++ members.flatMap (fun other => ',' :: '"' :: memberText other) := by
  induction members generalizing member with
  | nil => simp [writeMembers, writeString, memberText]
  | cons other members inductionHypothesis =>
      rw [writeMembers, inductionHypothesis, List.flatMap_cons]
      · simp [writeString, memberText]
      · simp

/-- What was written of a value is read back, whatever follows it in an object. -/
def ReadsBack (reader : (text : List Char) → Read Value text) (value : Value) : Prop :=
  ∀ rest, Follows rest → Takes reader (write value ++ rest) value rest

section

variable {readItem : (text : List Char) → Read Value text}

theorem readMember_memberText {member : String × Value} (readsBack : ReadsBack readItem member.2)
    {rest : List Char} (follows : Follows rest) :
    Takes (readMember readItem) (memberText member ++ rest) member rest := by
  have label := readString_escape [] member.1.toList (':' :: (write member.2 ++ rest))
  rw [List.reverse_nil, List.nil_append, String.ofList_toList] at label
  refine readMember_of_takes ?_ (readsBack rest follows)
  simpa [memberText] using label

theorem follows_more (members : List (String × Value)) (rest : List Char) :
    Follows (members.flatMap (fun other => ',' :: '"' :: memberText other) ++ '}' :: rest) := by
  cases members with
  | nil => exact .brace rest
  | cons member members => exact .comma _

theorem readMoreMembers_write {members : List (String × Value)}
    (readsBack : ∀ member ∈ members, ReadsBack readItem member.2) (read : List (String × Value))
    (rest : List Char) :
    Takes (readMoreMembers readItem read)
      (members.flatMap (fun other => ',' :: '"' :: memberText other) ++ '}' :: rest)
      (read.reverse ++ members) rest := by
  induction members generalizing read with
  | nil => simpa using readMoreMembers_brace read rest
  | cons member members inductionHypothesis =>
      rw [List.forall_mem_cons] at readsBack
      have following := inductionHypothesis readsBack.2 (member :: read)
      rw [List.reverse_cons, List.append_assoc, List.singleton_append] at following
      rw [List.flatMap_cons, List.append_assoc]
      exact readMoreMembers_comma
        (readMember_memberText readsBack.1 (follows_more members rest)) following

/-- The members of an object are read back in their order. -/
theorem readMembers_write {members : List (String × Value)}
    (readsBack : ∀ member ∈ members, ReadsBack readItem member.2) (rest : List Char) :
    Takes (readMembers readItem) (writeMembers members ++ '}' :: rest) members rest := by
  cases members with
  | nil => exact readMembers_brace rest
  | cons member members =>
      rw [List.forall_mem_cons] at readsBack
      rw [writeMembers_cons, List.append_assoc]
      exact readMembers_quote (readMember_memberText readsBack.1 (follows_more members rest))
        (readMoreMembers_write readsBack.2 [member] rest)

end

/-! ## Values -/

theorem readSpaced_of_takes {readItem : (text : List Char) → Read Value text} {text rest : List Char}
    {value : Value} (taken : Takes readItem (skipSpace text) value rest) :
    Takes (readSpaced readItem) text value rest := by
  obtain ⟨_, taken⟩ := takes_iff.mp taken
  simp only [Takes, readSpaced, taken]
  rfl

theorem skipSpace_of_isSpace_eq_false {char : Char} (noSpace : isSpace char = false)
    (text : List Char) : skipSpace (char :: text) = char :: text := by
  rw [skipSpace, List.dropWhile_cons, noSpace, if_neg Bool.false_ne_true]

/-- Any value is read by its first token, at every depth. -/
theorem readValue_of_readToken {char : Char} (noSpace : isSpace char = false)
    {text rest : List Char} {value : Value}
    (taken : ∀ nested, Takes (readToken nested) (char :: text) value rest) (depth : Nat) :
    Takes (readValue depth) (char :: text) value rest := by
  cases depth <;>
    exact readSpaced_of_takes (by rw [skipSpace_of_isSpace_eq_false noSpace]; exact taken _)

theorem readsBack_string (depth : Nat) (text : String) :
    ReadsBack (readValue depth) (.string text) := by
  intro rest _
  have taken := readString_escape [] text.toList rest
  rw [List.reverse_nil, List.nil_append, String.ofList_toList] at taken
  obtain ⟨_, taken⟩ := takes_iff.mp taken
  have quoted : write (.string text) ++ rest = '"' :: (text.toList.flatMap escape ++ '"' :: rest) := by
    simp [write, writeString]
  rw [quoted]
  refine readValue_of_readToken (by decide) (fun nested => ?_) depth
  simp only [Takes, readToken, taken]
  rfl

theorem isSpace_of_isDigit {char : Char} (isDigit : char.isDigit = true) : isSpace char = false := by
  rw [← Bool.not_eq_true]
  simp only [isSpace, Bool.or_eq_true, beq_iff_eq]
  rintro (((rfl | rfl) | rfl) | rfl) <;> contradiction

theorem readsBack_natural (depth : Nat) {number : Nat} (inRange : isOutOfRange number 0 = false) :
    ReadsBack (readValue depth) (.natural number) := by
  intro rest follows
  have written : write (.natural number) = Nat.toDigits 10 number := by
    rw [Value.natural, write, if_pos rfl, ← Text.toList_decimal]
    rfl
  have taken (nested : Option ((text : List Char) → Read Value text)) :=
    readToken_toDigits nested follows inRange
  obtain ⟨digit, others, digits_eq, isDigit⟩ := exists_toDigits_eq_cons number
  rw [digits_eq] at written taken
  rw [written]
  exact readValue_of_readToken (isSpace_of_isDigit isDigit) taken depth

/-- An object is read back, whatever follows it, if what its members hold is. -/
theorem readValue_object {depth : Nat} {members : List (String × Value)}
    (readsBack : ∀ member ∈ members, ReadsBack (readValue depth) member.2) (rest : List Char) :
    Takes (readValue (depth + 1)) (write (.object members) ++ rest) (.object members) rest := by
  obtain ⟨_, taken⟩ := takes_iff.mp (readMembers_write readsBack rest)
  have braced : write (.object members) ++ rest = '{' :: (writeMembers members ++ '}' :: rest) := by
    simp [write]
  rw [braced]
  refine readSpaced_of_takes ?_
  rw [skipSpace_of_isSpace_eq_false (by decide)]
  simp only [Takes, readToken, taken]
  rfl

theorem read_of_takes {text : String} {value : Value}
    (taken : Takes (readValue maxDepth) text.toList value []) : read text = .ok value := by
  obtain ⟨_, taken⟩ := takes_iff.mp taken
  simp only [read, taken]
  rfl

end AddressWatch.Json
