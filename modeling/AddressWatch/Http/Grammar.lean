import AddressWatch.Http.Response

/-!
What a response is on a connection, without saying how it is found there: the lines of a head, the
interim heads in front of the final one, and the body in the extent that the final head gives it.
-/

namespace AddressWatch.Http

/-- A line feed ends a line of a head, with or without a carriage return. -/
inductive EndsLine : List UInt8 → Prop
  | bare : EndsLine [10]
  | full : EndsLine [13, 10]

inductive BlankLines : List UInt8 → Prop
  | nil : BlankLines []
  | cons {ending rest : List UInt8} (ends : EndsLine ending) (blank : BlankLines rest) :
      BlankLines (ending ++ rest)

/-- A number with so many decimal digits. -/
structure Digits (count value : Nat) (bytes : List UInt8) : Prop where
  length_eq : bytes.length = count
  value_eq : Text.readDigits? 10 0 (latin bytes) = some value

/-- What stands behind the status on its line: nothing, or a space and a reason. -/
inductive Reason : List UInt8 → Prop
  | none : Reason []
  | given {text : List UInt8} (valid : ∀ byte ∈ text, isValueByte byte = true) :
      Reason (32 :: text)

/-- The first line of a head. -/
inductive StatusLine : (minor status : Nat) → List UInt8 → Prop
  | line {minor status : Nat} {minorDigits statusDigits reason ending : List UInt8}
      (minorGiven : Digits 1 minor minorDigits) (known : minor ≤ 1)
      (statusGiven : Digits 3 status statusDigits) (large : 100 ≤ status) (excused : Reason reason)
      (ends : EndsLine ending) :
      StatusLine minor status
        (utf8 "HTTP/1." ++ minorDigits ++ [32] ++ statusDigits ++ reason ++ ending)

/-- A field on its line.  The name is read in lower case, and the value without blanks at its ends. -/
inductive Field.Written : Field → List UInt8 → Prop
  | line {name value ending : List UInt8} (named : name ≠ [])
      (nameValid : ∀ byte ∈ name, Head.isNameByte byte = true)
      (valueValid : ∀ byte ∈ value, isValueByte byte = true) (ends : EndsLine ending) :
      Written ⟨fieldName name, trimValue value⟩ (name ++ [58] ++ value ++ ending)

inductive FieldLines : List Field → List UInt8 → Prop
  | nil : FieldLines [] []
  | cons {field : Field} {fields : List Field} {line lines : List UInt8}
      (written : field.Written line) (others : FieldLines fields lines) :
      FieldLines (field :: fields) (line ++ lines)

/-- A complete and well-formed head, up to the blank line that ends it. -/
inductive Head.Written : Head → List UInt8 → Prop
  | lines {minor status : Nat} {fields : List Field} {blank first others last : List UInt8}
      (skipped : BlankLines blank) (stated : StatusLine minor status first)
      (listed : FieldLines fields others) (ends : EndsLine last) :
      Written ⟨minor, UInt16.ofNat status, fields⟩ (blank ++ first ++ others ++ last)

/-- A head that the reader can hold: it has neither too many fields nor too long names, and at most so
many bytes. -/
structure Head.Fits (head : Head) (most : Nat) (bytes : List UInt8) : Prop where
  few : head.fields.length ≤ maxFields
  short_names : ∀ field ∈ head.fields, field.name.length < maxNameLength
  short : bytes.length ≤ most

/-- A final head, with interim ones in front of it, that the reader can hold and whose fields give the
body an extent. -/
inductive Answered (most : Nat) (head : Head) (framing : Framing) : List UInt8 → Prop
  | final {bytes : List UInt8} (written : head.Written bytes) (fits : head.Fits most bytes)
      (isFinal : isInterim head.status = false) (extent : Framing.ofHead? head = some framing) :
      Answered most head framing bytes
  | interim {other : Head} {front bytes : List UInt8} (written : other.Written front)
      (fits : other.Fits most front) (isInterim : isInterim other.status = true)
      (answered : Answered most head framing bytes) : Answered most head framing (front ++ bytes)

/-- The reader takes the lines behind the last chunk if they are not too many and not too long, and if it
finds fields and a blank line in them. -/
structure Trailer.Fits (lines : List (List UInt8)) : Prop where
  few : lines.length < Head.maxFields
  short : (Chunked.linesText lines).length ≤ Chunked.maxTrailer
  are_fields : ∃ fields front last behind, FieldLines fields front ∧ fields.length ≤ lines.length ∧
    EndsLine last ∧ Chunked.linesText lines = front ++ last ++ behind

end AddressWatch.Http
