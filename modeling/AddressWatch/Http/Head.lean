import AddressWatch.Http.Message

/-!
Heads of responses as they arrive: a status and fields.  A head that has begun and may still be completed
is told from one that is malformed.  The reader has limits for the fields of a head and for its length.
-/

namespace AddressWatch.Http

/-- What reading from the beginning of some bytes comes to. -/
inductive Reading (α : Type) where
  /-- More bytes are needed. -/
  | incomplete
  | malformed
  | done (value : α) (rest : List UInt8)
deriving DecidableEq, Inhabited

namespace Reading

variable {α β : Type}

/-- Go on reading after what has been read. -/
def andThen (reading : Reading α) (next : α → List UInt8 → Reading β) : Reading β :=
  match reading with
  | incomplete => .incomplete
  | malformed => .malformed
  | done value rest => next value rest

def map (change : α → β) (reading : Reading α) : Reading β :=
  reading.andThen fun value rest => .done (change value) rest

end Reading

structure Head where
  /-- The digit after the point of the version. -/
  minor : Nat
  status : UInt16
  fields : List Field
deriving DecidableEq, Inhabited

namespace Head

/-- Read the rest of a line of which every byte satisfies `valid`.  A line feed ends a line, with or
without a carriage return. -/
def readLine (valid : UInt8 → Bool) : List UInt8 → Reading (List UInt8)
  | [] | [13] => .incomplete
  | 10 :: rest | 13 :: 10 :: rest => .done [] rest
  | byte :: rest =>
      if byte != 13 && valid byte then (readLine valid rest).map (byte :: ·) else .malformed

def readExactly : (expected bytes : List UInt8) → Reading Unit
  | [], bytes => .done () bytes
  | _ :: _, [] => .incomplete
  | wanted :: expected, byte :: bytes =>
      if wanted = byte then readExactly expected bytes else .malformed

def skipBlankLines : List UInt8 → Reading Unit
  | 10 :: rest | 13 :: 10 :: rest => skipBlankLines rest
  | [] | [13] => .incomplete
  | 13 :: _ :: _ => .malformed
  | bytes => .done () bytes

def readDecimals : (count : Nat) → (read : Nat) → List UInt8 → Reading Nat
  | 0, read, bytes => .done read bytes
  | _ + 1, _, [] => .incomplete
  | count + 1, read, byte :: bytes =>
      match Text.digitBelow? 10 (Char.ofNat byte.toNat) with
      | none => .malformed
      | some digit => readDecimals count (read * 10 + digit) bytes

/-- Read the rest of the first line: nothing, or a space and a reason. -/
def readReason : List UInt8 → Reading Unit
  | [] | [13] => .incomplete
  | 10 :: rest | 13 :: 10 :: rest => .done () rest
  | 32 :: rest => (readLine isValueByte rest).map fun _ => ()
  | _ => .malformed

def isNameByte (byte : UInt8) : Bool :=
  let char := Char.ofNat byte.toNat
  char.isAlphanum || "!#$%&'*+-.^_`|~".toList.contains char

def readName : List UInt8 → Reading (List UInt8)
  | [] => .incomplete
  | byte :: rest =>
      if byte = 58 then .done [] rest
      else if isNameByte byte then (readName rest).map (byte :: ·)
      else .malformed

def readField (bytes : List UInt8) : Reading Field :=
  (readName bytes).andThen fun name rest =>
    if name = [] then .malformed
    else (readLine isValueByte rest).map fun value => ⟨fieldName name, trimValue value⟩

/-- Read the fields up to the blank line, at most `room` of them. -/
def readFields : (room : Nat) → List UInt8 → Reading (List Field)
  | _, [] | _, [13] => .incomplete
  | _, 10 :: rest | _, 13 :: 10 :: rest => .done [] rest
  | _, 13 :: _ => .malformed
  | 0, _ => .malformed
  | room + 1, bytes =>
      (readField bytes).andThen fun field rest => (readFields room rest).map (field :: ·)

def maxFields : Nat := 100

/-- The least length of a name that is too long. -/
def maxNameLength : Nat := 65536

/-- Read a head of any length. -/
def readWhole (bytes : List UInt8) : Reading Head :=
  (skipBlankLines bytes).andThen fun _ bytes =>
    (readExactly (utf8 "HTTP/1.") bytes).andThen fun _ bytes =>
      (readDecimals 1 0 bytes).andThen fun minor bytes =>
        (readExactly [32] bytes).andThen fun _ bytes =>
          (readDecimals 3 0 bytes).andThen fun status bytes =>
            (readReason bytes).andThen fun _ bytes =>
              (readFields maxFields bytes).andThen fun fields rest =>
                if 1 < minor ∨ status < 100 ∨ fields.any (maxNameLength ≤ ·.name.length) then
                  .malformed
                else .done ⟨minor, UInt16.ofNat status, fields⟩ rest

/-- The bytes of a head that are held in any case until it is complete. -/
def maxLength : Nat := 417792

/-- Read a head of at most `most` bytes. -/
def read (most : Nat) (bytes : List UInt8) : Reading Head :=
  match readWhole bytes with
  | .malformed => .malformed
  | .incomplete => if most ≤ bytes.length then .malformed else .incomplete
  | .done head rest => if bytes.length - rest.length ≤ most then .done head rest else .malformed

end Head

end AddressWatch.Http
