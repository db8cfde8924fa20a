import AddressWatch.Text.Digits
import AddressWatch.Json.Value

/-!
Reading a JSON value from text.  A reader returns the value and the shorter rest of the text, or the
fault that stopped it together with the number of bytes that were not read by then, from which the
line and the column of the fault follow.
-/

namespace AddressWatch.Json

inductive Cause where
  | endInList
  | endInObject
  | endInString
  | endInValue
  | expectedColon
  | expectedCommaOrListEnd
  | expectedCommaOrObjectEnd
  | expectedWord
  | expectedValue
  | invalidEscape
  | invalidNumber
  | numberOutOfRange
  | controlCharacter
  | keyNotString
  | loneSurrogate
  | trailingComma
  | trailingCharacters
  | endOfEscape
  | tooDeep
deriving DecidableEq, Inhabited

namespace Cause

def message : Cause → String
  | endInList => "EOF while parsing a list"
  | endInObject => "EOF while parsing an object"
  | endInString => "EOF while parsing a string"
  | endInValue => "EOF while parsing a value"
  | expectedColon => "expected `:`"
  | expectedCommaOrListEnd => "expected `,` or `]`"
  | expectedCommaOrObjectEnd => "expected `,` or `\x7d`"
  | expectedWord => "expected ident"
  | expectedValue => "expected value"
  | invalidEscape => "invalid escape"
  | invalidNumber => "invalid number"
  | numberOutOfRange => "number out of range"
  | controlCharacter => "control character (\\u0000-\\u001F) found while parsing a string"
  | keyNotString => "key must be a string"
  | loneSurrogate => "lone leading surrogate in hex escape"
  | trailingComma => "trailing comma"
  | trailingCharacters => "trailing characters"
  | endOfEscape => "unexpected end of hex escape"
  | tooDeep => "recursion limit exceeded"

end Cause

/-- A fault and the number of bytes of the text that were unread when it was found. -/
structure Stop where
  cause : Cause
  unread : Nat

def byteCount (text : List Char) : Nat :=
  text.foldl (fun count char => count + char.utf8Size) 0

/-- A fault found after everything before `rest` was read. -/
def Stop.before (cause : Cause) (rest : List Char) : Stop := ⟨cause, byteCount rest⟩

/-- A fault found in the first byte of `rest`, which counts as read when there is one. -/
def Stop.at (cause : Cause) (rest : List Char) : Stop := ⟨cause, byteCount rest - 1⟩

/-- The rests of a text that are shorter than the text. -/
abbrev Shorter (text : List Char) := { rest : List Char // rest.length < text.length }

/-- What a reader makes of a text. -/
abbrev Read (α : Type) (text : List Char) := Except Stop (α × Shorter text)

/-- The four characters that may stand between the tokens of a value. -/
def isSpace (char : Char) : Bool :=
  char == ' ' || char == '\n' || char == '\t' || char == '\r'

def skipSpace (text : List Char) : List Char := text.dropWhile isSpace

theorem length_skipSpace_le (text : List Char) : (skipSpace text).length ≤ text.length :=
  (List.dropWhile_suffix _).length_le

/-- The sixteen bits of four hexadecimal digits. -/
def unit? (digits : List Char) : Option Nat := Text.number? 16 4 digits

/-- Reads the four digits of an escape; the digits are looked for among bytes. -/
def readUnit : (text : List Char) → Except Stop (Nat × Shorter text)
  | first :: second :: third :: fourth :: rest =>
      match unit? [first, second, third, fourth] with
      | some unit => .ok (unit, ⟨rest, by simp; omega⟩)
      | none => .error ⟨.invalidEscape, byteCount (first :: second :: third :: fourth :: rest) - 4⟩
  | text =>
      if 4 ≤ byteCount text then .error ⟨.invalidEscape, byteCount text - 4⟩
      else .error ⟨.endInString, 0⟩

/-- Reads the second half of a surrogate pair. -/
def readTrailing (leading : Nat) : (text : List Char) → Read Char text
  | [] => .error (.before .endInString [])
  | '\\' :: [] => .error (.before .endInString [])
  | '\\' :: 'u' :: rest =>
      match readUnit rest with
      | .error stop => .error stop
      | .ok (unit, ⟨shorter, isShorter⟩) =>
          if 0xdc00 ≤ unit ∧ unit ≤ 0xdfff then
            .ok (Char.ofNat ((leading - 0xd800) * 0x400 + (unit - 0xdc00) + 0x10000),
              ⟨shorter, by simp; omega⟩)
          else .error (.before .loneSurrogate shorter)
  | '\\' :: char :: rest => .error (.at .endOfEscape (char :: rest))
  | char :: rest => .error (.at .endOfEscape (char :: rest))

/-- Reads the rest of a hexadecimal escape; two of them may make one character. -/
def readHexEscape (text : List Char) : Read Char text :=
  match readUnit text with
  | .error stop => .error stop
  | .ok (unit, ⟨rest, isShorter⟩) =>
      if 0xdc00 ≤ unit ∧ unit ≤ 0xdfff then .error (.before .loneSurrogate rest)
      else if 0xd800 ≤ unit ∧ unit ≤ 0xdbff then
        match readTrailing unit rest with
        | .error stop => .error stop
        | .ok (char, ⟨shorter, isShorter'⟩) => .ok (char, ⟨shorter, by omega⟩)
      else .ok (Char.ofNat unit, ⟨rest, isShorter⟩)

/-- Reads what follows the backslash of an escape. -/
def readEscape : (text : List Char) → Read Char text
  | [] => .error (.before .endInString [])
  | 'u' :: rest =>
      match readHexEscape rest with
      | .error stop => .error stop
      | .ok (char, ⟨shorter, isShorter⟩) => .ok (char, ⟨shorter, by simp; omega⟩)
  | char :: rest =>
      match char with
      | '"' => .ok ('"', ⟨rest, by simp⟩)
      | '\\' => .ok ('\\', ⟨rest, by simp⟩)
      | '/' => .ok ('/', ⟨rest, by simp⟩)
      | 'b' => .ok ('\x08', ⟨rest, by simp⟩)
      | 'f' => .ok ('\x0c', ⟨rest, by simp⟩)
      | 'n' => .ok ('\n', ⟨rest, by simp⟩)
      | 'r' => .ok ('\r', ⟨rest, by simp⟩)
      | 't' => .ok ('\t', ⟨rest, by simp⟩)
      | char => .error (.at .invalidEscape (char :: rest))

/-- Reads a string from behind its opening quote; `read` holds what was read, last first. -/
def readString (read : List Char) (text : List Char) : Read String text :=
  match text with
  | [] => .error (.before .endInString [])
  | '"' :: rest => .ok (String.ofList read.reverse, ⟨rest, by simp⟩)
  | '\\' :: rest =>
      match readEscape rest with
      | .error stop => .error stop
      | .ok (char, ⟨shorter, isShorter⟩) =>
          match readString (char :: read) shorter with
          | .error stop => .error stop
          | .ok (text, ⟨last, isLast⟩) => .ok (text, ⟨last, by simp; omega⟩)
  | char :: rest =>
      if char.toNat < 0x20 then .error (.before .controlCharacter rest)
      else
        match readString (char :: read) rest with
        | .error stop => .error stop
        | .ok (text, ⟨last, isLast⟩) => .ok (text, ⟨last, by simp; omega⟩)
termination_by text.length
decreasing_by all_goals simp_all <;> omega

def readWord (value : Value) : (letters text : List Char) → Except Stop (Value × List Char)
  | [], text => .ok (value, text)
  | _ :: _, [] => .error (.before .endInValue [])
  | letter :: letters, char :: rest =>
      if char = letter then readWord value letters rest
      else .error (.at .expectedWord (char :: rest))

theorem length_readWord {value result : Value} {letters text rest : List Char}
    (read : readWord value letters text = .ok (result, rest)) : rest.length ≤ text.length := by
  fun_induction readWord value letters text with
  | case1 => simp_all
  | case2 => simp at read
  | case3 letter letters rest' ih =>
      have shorter := ih read
      simp
      omega
  | case4 => simp at read

def digitsValue (digits : List Char) : Nat :=
  digits.foldl (fun value char => value * 10 + (char.toNat - '0'.toNat)) 0

/-- Whether a double-precision number that large is infinite. -/
def isOutOfRange (mantissa : Nat) (exponent : Int) : Bool :=
  let limit := Nat.pow 2 1024 - Nat.pow 2 970
  let size := (Nat.toDigits 10 mantissa).length + exponent
  if mantissa = 0 ∨ size ≤ 308 then false
  else if 310 ≤ size then true
  else if 0 ≤ exponent then limit ≤ mantissa * Nat.pow 10 exponent.toNat
  else limit * Nat.pow 10 (-exponent).toNat ≤ mantissa

/-- Reads the digits of an exponent, of which at most the range of 32 bits counts.  The result is
the exponent, or nothing when it is out of that range. -/
def readExponentDigits (mayBeLarge : Bool) (exponent : Nat) :
    List Char → Except Stop (Option Nat × List Char)
  | [] => .ok (some exponent, [])
  | char :: rest =>
      if char.isDigit then
        let next := exponent * 10 + (char.toNat - '0'.toNat)
        if next < Nat.pow 2 31 then readExponentDigits mayBeLarge next rest
        else if mayBeLarge then .ok (none, rest.dropWhile Char.isDigit)
        else .error (.before .numberOutOfRange rest)
      else .ok (some exponent, char :: rest)

def exponentSign : List Char → Bool × List Char
  | '+' :: rest => (false, rest)
  | '-' :: rest => (true, rest)
  | rest => (false, rest)

/-- The number with the given sign, or the fault that it is too large. -/
def finishNumber (negative : Bool) (mantissa : Nat) (exponent : Int) (rest : List Char) :
    Except Stop (Value × List Char) :=
  if isOutOfRange mantissa exponent then .error (.before .numberOutOfRange rest)
  else .ok (.number (if negative then -mantissa else mantissa) exponent, rest)

/-- Reads an exponent, if there is one, and makes the number. -/
def readExponent (negative : Bool) (mantissa : Nat) (exponent : Int) (text : List Char) :
    Except Stop (Value × List Char) :=
  let mark := text.head?
  if mark = some 'e' ∨ mark = some 'E' then
    let (falls, digits) := exponentSign text.tail
    match digits with
    | [] => .error (.before .endInValue [])
    | char :: _ =>
        if char.isDigit then
          match readExponentDigits (falls || mantissa == 0) 0 digits with
          | .error stop => .error stop
          | .ok (none, rest) => .ok (.number 0 0, rest)
          | .ok (some value, rest) =>
              finishNumber negative mantissa (if falls then exponent - value else exponent + value)
                rest
        else .error (.at .invalidNumber digits)
  else finishNumber negative mantissa exponent text

/-- Reads a number from behind its sign. -/
def readNumber (negative : Bool) (text : List Char) : Except Stop (Value × List Char) :=
  let whole := text.takeWhile Char.isDigit
  let rest := text.dropWhile Char.isDigit
  match whole with
  | [] =>
      match text with
      | [] => .error (.before .endInValue [])
      | _ => .error (.at .invalidNumber text)
  | '0' :: _ :: _ => .error (.at .invalidNumber text.tail)
  | _ =>
      match rest with
      | '.' :: afterPoint =>
          let places := afterPoint.takeWhile Char.isDigit
          let rest := afterPoint.dropWhile Char.isDigit
          if places = [] then
            match afterPoint with
            | [] => .error (.before .endInValue [])
            | _ => .error (.at .invalidNumber afterPoint)
          else readExponent negative (digitsValue (whole ++ places)) (-places.length) rest
      | _ => readExponent negative (digitsValue whole) 0 rest

theorem length_readExponentDigits {mayBeLarge : Bool} {exponent : Nat} {result : Option Nat}
    {text rest : List Char}
    (read : readExponentDigits mayBeLarge exponent text = .ok (result, rest)) :
    rest.length ≤ text.length := by
  fun_induction readExponentDigits mayBeLarge exponent text with
  | case1 => simp_all
  | case2 exponent char rest' _ _ _ ih =>
      have shorter := ih read
      simp
      omega
  | case3 exponent char rest' =>
      have shorter := (List.dropWhile_suffix (l := rest') Char.isDigit).length_le
      simp_all
      omega
  | case4 => simp at read
  | case5 => simp_all

theorem length_exponentSign_le (text : List Char) :
    (exponentSign text).2.length ≤ text.length := by
  unfold exponentSign
  split <;> simp

theorem length_finishNumber {negative : Bool} {mantissa : Nat} {exponent : Int} {value : Value}
    {text rest : List Char}
    (read : finishNumber negative mantissa exponent text = .ok (value, rest)) :
    rest.length ≤ text.length := by
  unfold finishNumber at read
  split at read <;> simp_all

theorem length_readExponent {negative : Bool} {mantissa : Nat} {exponent : Int} {value : Value}
    {text rest : List Char}
    (read : readExponent negative mantissa exponent text = .ok (value, rest)) :
    rest.length ≤ text.length := by
  have tailShorter : text.tail.length ≤ text.length := by simp
  have signShorter := length_exponentSign_le text.tail
  unfold readExponent at read
  dsimp only at read
  split at read
  · split at read
    · simp at read
    · rename_i char after digits
      split at read
      · split at read
        · simp at read
        · rename_i exponentRead
          have shorter := length_readExponentDigits exponentRead
          simp_all
          omega
        · rename_i exponentRead
          have shorter := length_readExponentDigits exponentRead
          have shorter' := length_finishNumber read
          simp_all
          omega
      · simp at read
  · exact length_finishNumber read

theorem length_readNumber_le_dropWhile {negative : Bool} {value : Value} {text rest : List Char}
    (read : readNumber negative text = .ok (value, rest)) :
    rest.length ≤ (text.dropWhile Char.isDigit).length := by
  unfold readNumber at read
  dsimp only at read
  split at read
  · split at read <;> simp at read
  · simp at read
  · split at read
    · rename_i afterPoint atPoint
      have placesShorter := (List.dropWhile_suffix (l := afterPoint) Char.isDigit).length_le
      split at read
      · split at read <;> simp at read
      · have shorter := length_readExponent read
        simp_all
        omega
    · exact length_readExponent read

theorem length_readNumber {negative : Bool} {value : Value} {text rest : List Char}
    (read : readNumber negative text = .ok (value, rest)) : rest.length ≤ text.length :=
  Nat.le_trans (length_readNumber_le_dropWhile read) (List.dropWhile_suffix _).length_le

theorem length_readNumber_of_isDigit {negative : Bool} {value : Value} {char : Char}
    {text rest : List Char} (isDigit : char.isDigit)
    (read : readNumber negative (char :: text) = .ok (value, rest)) :
    rest.length < (char :: text).length := by
  have shorter := length_readNumber_le_dropWhile read
  rw [List.dropWhile_cons, if_pos isDigit] at shorter
  exact Nat.lt_succ_of_le (Nat.le_trans shorter (List.dropWhile_suffix _).length_le)

/-- Reads the items of an array from behind one of them. -/
def readMoreItems (readItem : (text : List Char) → Read Value text) (items : List Value)
    (text : List Char) : Read (List Value) text :=
  match spaced : skipSpace text with
  | [] => .error (.at .endInList [])
  | ']' :: rest => .ok (items.reverse, ⟨rest, by
      have := length_skipSpace_le text
      simp [spaced] at this
      omega⟩)
  | ',' :: rest =>
      match spaced' : skipSpace rest with
      | [] => .error (.at .endInValue [])
      | ']' :: rest' => .error (.at .trailingComma (']' :: rest'))
      | text' =>
          match readItem text' with
          | .error stop => .error stop
          | .ok (item, ⟨rest', isShorter⟩) =>
              have isShort : rest'.length < text.length := by
                have := length_skipSpace_le text
                have := length_skipSpace_le rest
                simp_all
                omega
              match readMoreItems readItem (item :: items) rest' with
              | .error stop => .error stop
              | .ok (items, ⟨last, isLast⟩) => .ok (items, ⟨last, by omega⟩)
  | text' => .error (.at .expectedCommaOrListEnd text')
termination_by text.length

/-- Reads the items of an array from behind its opening bracket. -/
def readItems (readItem : (text : List Char) → Read Value text) (text : List Char) :
    Read (List Value) text :=
  match spaced : skipSpace text with
  | [] => .error (.at .endInList [])
  | ']' :: rest => .ok ([], ⟨rest, by
      have := length_skipSpace_le text
      simp [spaced] at this
      omega⟩)
  | text' =>
      match readItem text' with
      | .error stop => .error stop
      | .ok (item, ⟨rest, isShorter⟩) =>
          match readMoreItems readItem [item] rest with
          | .error stop => .error stop
          | .ok (items, ⟨last, isLast⟩) => .ok (items, ⟨last, by
              have := length_skipSpace_le text
              simp_all
              omega⟩)

/-- Reads a member of an object from behind the opening quote of its key. -/
def readMember (readItem : (text : List Char) → Read Value text) (text : List Char) :
    Read (String × Value) text :=
  match readString [] text with
  | .error stop => .error stop
  | .ok (label, ⟨rest, isShorter⟩) =>
      match spaced : skipSpace rest with
      | [] => .error (.at .endInObject [])
      | ':' :: afterColon =>
          match readItem afterColon with
          | .error stop => .error stop
          | .ok (value, ⟨last, isLast⟩) => .ok ((label, value), ⟨last, by
              have := length_skipSpace_le rest
              simp [spaced] at this
              omega⟩)
      | text' => .error (.at .expectedColon text')

/-- Reads the members of an object from behind one of them. -/
def readMoreMembers (readItem : (text : List Char) → Read Value text)
    (members : List (String × Value)) (text : List Char) : Read (List (String × Value)) text :=
  match spaced : skipSpace text with
  | [] => .error (.at .endInObject [])
  | '}' :: rest => .ok (members.reverse, ⟨rest, by
      have := length_skipSpace_le text
      simp [spaced] at this
      omega⟩)
  | ',' :: rest =>
      match spaced' : skipSpace rest with
      | [] => .error (.at .endInValue [])
      | '}' :: rest' => .error (.at .trailingComma ('}' :: rest'))
      | '"' :: rest' =>
          match readMember readItem rest' with
          | .error stop => .error stop
          | .ok (member, ⟨last, isShorter⟩) =>
              have isShort : last.length < text.length := by
                have := length_skipSpace_le text
                have := length_skipSpace_le rest
                simp_all
                omega
              match readMoreMembers readItem (member :: members) last with
              | .error stop => .error stop
              | .ok (members, ⟨last, isLast⟩) => .ok (members, ⟨last, by omega⟩)
      | text' => .error (.at .keyNotString text')
  | text' => .error (.at .expectedCommaOrObjectEnd text')
termination_by text.length

/-- Reads the members of an object from behind its opening brace. -/
def readMembers (readItem : (text : List Char) → Read Value text) (text : List Char) :
    Read (List (String × Value)) text :=
  match spaced : skipSpace text with
  | [] => .error (.at .endInObject [])
  | '}' :: rest => .ok ([], ⟨rest, by
      have := length_skipSpace_le text
      simp [spaced] at this
      omega⟩)
  | '"' :: rest =>
      match readMember readItem rest with
      | .error stop => .error stop
      | .ok (member, ⟨last, isShorter⟩) =>
          match readMoreMembers readItem [member] last with
          | .error stop => .error stop
          | .ok (members, ⟨last, isLast⟩) => .ok (members, ⟨last, by
              have := length_skipSpace_le text
              simp [spaced] at this
              omega⟩)
  | text' => .error (.at .keyNotString text')

/-- Reads a value that begins with the first character of the text.  The values inside an array or
an object are read with `nested`, if any may be inside. -/
def readToken (nested : Option ((text : List Char) → Read Value text)) :
    (text : List Char) → Read Value text
  | [] => .error (.at .endInValue [])
  | 'n' :: rest =>
      match read : readWord .null "ull".toList rest with
      | .error stop => .error stop
      | .ok (value, last) => .ok (value, ⟨last, Nat.lt_succ_of_le (length_readWord read)⟩)
  | 't' :: rest =>
      match read : readWord (.bool true) "rue".toList rest with
      | .error stop => .error stop
      | .ok (value, last) => .ok (value, ⟨last, Nat.lt_succ_of_le (length_readWord read)⟩)
  | 'f' :: rest =>
      match read : readWord (.bool false) "alse".toList rest with
      | .error stop => .error stop
      | .ok (value, last) => .ok (value, ⟨last, Nat.lt_succ_of_le (length_readWord read)⟩)
  | '-' :: rest =>
      match read : readNumber true rest with
      | .error stop => .error stop
      | .ok (value, last) => .ok (value, ⟨last, Nat.lt_succ_of_le (length_readNumber read)⟩)
  | '"' :: rest =>
      match readString [] rest with
      | .error stop => .error stop
      | .ok (text, ⟨last, isShorter⟩) => .ok (.string text, ⟨last, Nat.lt_succ_of_lt isShorter⟩)
  | '[' :: rest =>
      match nested with
      | none => .error (.at .tooDeep ('[' :: rest))
      | some readItem =>
          match readItems readItem rest with
          | .error stop => .error stop
          | .ok (items, ⟨last, isShorter⟩) =>
              .ok (.array items, ⟨last, Nat.lt_succ_of_lt isShorter⟩)
  | '{' :: rest =>
      match nested with
      | none => .error (.at .tooDeep ('{' :: rest))
      | some readItem =>
          match readMembers readItem rest with
          | .error stop => .error stop
          | .ok (members, ⟨last, isShorter⟩) =>
              .ok (.object members, ⟨last, Nat.lt_succ_of_lt isShorter⟩)
  | char :: rest =>
      if isDigit : char.isDigit then
        match read : readNumber false (char :: rest) with
        | .error stop => .error stop
        | .ok (value, last) => .ok (value, ⟨last, length_readNumber_of_isDigit isDigit read⟩)
      else .error (.at .expectedValue (char :: rest))

/-- Reads a value after the space in front of it. -/
def readSpaced (readItem : (text : List Char) → Read Value text) (text : List Char) :
    Read Value text :=
  match readItem (skipSpace text) with
  | .error stop => .error stop
  | .ok (value, ⟨rest, isShorter⟩) =>
      .ok (value, ⟨rest, Nat.lt_of_lt_of_le isShorter (length_skipSpace_le text)⟩)

/-- Reads a value in which arrays and objects are nested at most `depth` deep. -/
def readValue : (depth : Nat) → (text : List Char) → Read Value text
  | 0, text => readSpaced (readToken none) text
  | depth + 1, text => readSpaced (readToken (some (readValue depth))) text

/-- The deepest nesting of arrays and objects that is read. -/
def maxDepth : Nat := 127

/-- Where and why a text is not JSON.  Lines count from one, and the column is the number of bytes
read on the line. -/
structure Fault where
  cause : Cause
  line : Nat
  column : Nat
deriving DecidableEq, Inhabited

/-- The line of a fault and the number of bytes read on it, after the given bytes. -/
def position (bytes : List UInt8) : Nat × Nat :=
  bytes.foldl (fun place byte =>
    if byte == 10 then (place.1 + 1, 0) else (place.1, place.2 + 1)) (1, 0)

/-- The place of a fault in the text. -/
def Stop.fault (stop : Stop) (text : String) : Fault :=
  let bytes := text.toUTF8.toList
  let (line, column) := position (bytes.take (bytes.length - stop.unread))
  ⟨stop.cause, line, column⟩

def Fault.message (fault : Fault) : String :=
  fault.cause.message ++ " at line " ++ Text.decimal fault.line ++ " column " ++
    Text.decimal fault.column

def read (text : String) : Except Fault Value :=
  match readValue maxDepth text.toList with
  | .error stop => .error (stop.fault text)
  | .ok (value, ⟨rest, _⟩) =>
      match skipSpace rest with
      | [] => .ok value
      | rest => .error ((Stop.at .trailingCharacters rest).fault text)

end AddressWatch.Json
