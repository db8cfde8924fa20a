import AddressWatch.Http.Head

/-!
Bodies in chunks.  Each chunk stands behind a line with its size, and the last one is empty.  What stands
behind a size, and the lines behind the last chunk, are read and dropped, but only up to a limit.
-/

namespace AddressWatch.Http.Chunked

/-- How many bytes the extensions of all chunks may have. -/
def maxExtensions : Nat := 16383

/-- How many bytes the lines behind the last chunk may have. -/
def maxTrailer : Nat := 16383

/-- Read the other digits of a number in hexadecimal digits. -/
def readDigits : (read : Nat) → List UInt8 → Reading Nat
  | _, [] => .incomplete
  | read, byte :: bytes =>
      match Text.digitBelow? 16 (Char.ofNat byte.toNat) with
      | none => .done read (byte :: bytes)
      | some digit =>
          if UInt64.size ≤ read * 16 + digit then .malformed else readDigits (read * 16 + digit) bytes

def readNumber : List UInt8 → Reading Nat
  | [] => .incomplete
  | byte :: bytes =>
      match Text.digitBelow? 16 (Char.ofNat byte.toNat) with
      | none => .malformed
      | some digit => readDigits digit bytes

def skipBlanks : List UInt8 → Reading Unit
  | [] => .incomplete
  | byte :: bytes => if isSpaceByte byte then skipBlanks bytes else .done () (byte :: bytes)

/-- Read up to a carriage return, at most `room` bytes, of which every one satisfies `valid`. -/
def readText (valid : UInt8 → Bool) : (room : Nat) → List UInt8 → Reading (List UInt8)
  | _, [] => .incomplete
  | room, byte :: bytes =>
      if byte = 13 then .done [] (byte :: bytes)
      else
        match room with
        | 0 => .malformed
        | room + 1 =>
            if valid byte then (readText valid room bytes).map (byte :: ·) else .malformed

/-- Read what stands behind the blanks on the line with a size: nothing, or a semicolon and an
extension, of which the length is kept. -/
def readExtension (room : Nat) : List UInt8 → Reading Nat
  | [] => .incomplete
  | byte :: bytes =>
      if byte = 59 then (readText (· != 10) room bytes).map List.length
      else if byte = 13 then .done 0 (byte :: bytes)
      else .malformed

/-- Read the line with a size, which may have an extension of at most `room` bytes. -/
def readSizeLine (room : Nat) (bytes : List UInt8) : Reading (Nat × Nat) :=
  (readNumber bytes).andThen fun size rest =>
    (skipBlanks rest).andThen fun _ rest =>
      (readExtension room rest).andThen fun extension rest =>
        (Head.readExactly lineEnd rest).map fun _ => (size, extension)

def readData (size : Nat) (bytes : List UInt8) : Reading (List UInt8) :=
  if bytes.length < size then .incomplete else .done (bytes.take size) (bytes.drop size)

/-- Read the end of a line for which there has to be room. -/
def readLineEnd (room : Nat) (bytes : List UInt8) : Reading Unit :=
  if room = 0 then .malformed
  else
    (Head.readExactly lineEnd bytes).andThen fun _ rest =>
      if room = 1 then .malformed else .done () rest

/-- Read at most `most` lines up to a blank one; they and the blank one have at most `room` bytes. -/
def readLines : (most room : Nat) → List UInt8 → Reading (List (List UInt8))
  | _, _, [] => .incomplete
  | most, room, byte :: bytes =>
      if byte = 13 then (readLineEnd room (byte :: bytes)).map fun _ => []
      else
        (readText (fun _ => true) room (byte :: bytes)).andThen fun line rest =>
          (readLineEnd (room - line.length) rest).andThen fun _ rest =>
            match most with
            | 0 => .malformed
            | most + 1 => (readLines most (room - line.length - 2) rest).map (line :: ·)

/-- Lines with their ends, and a blank one. -/
def linesText (lines : List (List UInt8)) : List UInt8 := lines.flatMap (· ++ lineEnd) ++ lineEnd

/-- Whether the lines behind the last chunk are fields.  As many fields are expected as there are
lines. -/
def areFields (lines : List (List UInt8)) : Bool :=
  lines.length < Head.maxFields &&
    match Head.readFields lines.length (linesText lines) with
    | .done _ _ => true
    | _ => false

def readTrailer (bytes : List UInt8) : Reading Unit :=
  (readLines Head.maxFields maxTrailer bytes).andThen fun lines rest =>
    if areFields lines then .done () rest else .malformed

/-- Read a body in at most `most` chunks, whose extensions have at most `room` bytes. -/
def readAmong : (most : Nat) → (room : Nat) → List UInt8 → Reading (List UInt8)
  | 0, _, _ => .incomplete
  | most + 1, room, bytes =>
      (readSizeLine room bytes).andThen fun (size, extension) rest =>
        if size = 0 then (readTrailer rest).map fun _ => []
        else
          (readData size rest).andThen fun data rest =>
            (Head.readExactly lineEnd rest).andThen fun _ rest =>
              (readAmong most (room - extension) rest).map (data ++ ·)

/-- Read a body in chunks.  There are no more chunks than bytes. -/
def read (bytes : List UInt8) : Reading (List UInt8) :=
  readAmong (bytes.length + 1) maxExtensions bytes

end AddressWatch.Http.Chunked
