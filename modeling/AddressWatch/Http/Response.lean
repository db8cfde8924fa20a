import AddressWatch.Http.Chunked
import AddressWatch.Text.Blank

/-!
Responses as they arrive: the head of the final one behind interim ones, and how far its body reaches.
-/

namespace AddressWatch.Http

/-- How far the body of a response reaches. -/
inductive Framing where
  | absent
  | sized (length : Nat)
  | chunked
  | untilClose
deriving DecidableEq, Inhabited

namespace Framing

/-- The text of a value of visible ASCII characters, spaces and tabs; others have none. -/
def plain? (value : List UInt8) : Option (List Char) :=
  if value.all fun byte => byte == 9 || (0x20 ≤ byte && byte < 0x7f) then some (latin value) else none

/-- The numbers in the value of a length field, which may be a list. -/
def lengths? (value : List UInt8) : Option (List Nat) :=
  (plain? value).bind fun text => (Text.splitAt ',' text).mapM fun text =>
    let digits := Text.trim text
    if digits = [] then none
    else (Text.readDigits? 10 0 digits).filter (· < UInt64.size - 2)

/-- Whether the last coding of a body is the chunked one. -/
def endsChunked (values : List (List UInt8)) : Bool :=
  match values.getLast?.bind plain? with
  | none => false
  | some text =>
      String.ofList ((Text.trim ((Text.splitAt ',' text).getLastD [])).map Char.toLower) = "chunked"

/-- The extent of a body that has a coding field. -/
def ofCodings? (minor : Nat) (values : List (List UInt8)) : Option Framing :=
  if minor = 0 then none else some (if endsChunked values then .chunked else .untilClose)

/-- The extent of a body that has length fields.  They have to agree. -/
def ofLengths? (values : List (List UInt8)) : Option Framing :=
  match (values.mapM lengths?).map List.flatten with
  | some (length :: others) => if others.all (· = length) then some (.sized length) else none
  | _ => none

/-- The extent of the body behind a head, unless its fields contradict each other. -/
def ofHead? (head : Head) : Option Framing :=
  let codings := valuesOf "transfer-encoding" head.fields
  let lengths := valuesOf "content-length" head.fields
  if head.status = 101 ∨ head.status = 204 ∨ head.status = 304 then some .absent
  else if codings ≠ [] then ofCodings? head.minor codings
  else if lengths ≠ [] then ofLengths? lengths
  else some .untilClose

end Framing

/-- What a connection does after the last byte. -/
inductive Silence where
  /-- It is closed. -/
  | closed
  /-- It stays open, and nothing arrives any more. -/
  | quiet
deriving DecidableEq, Inhabited

/-- What arrives on a connection. -/
structure Arrival where
  bytes : List UInt8
  silence : Silence
  /-- How many bytes the read brings beyond `Head.maxLength` with which a head reaches it: only then is a
  head that is not complete given up. -/
  surplus : Nat := 0
deriving DecidableEq, Inhabited

/-- What reading a body that is followed by silence comes to. -/
inductive Body where
  | whole (bytes : List UInt8)
  /-- The body is malformed or cut off. -/
  | broken
  /-- The rest is waited for. -/
  | awaited
deriving DecidableEq, Inhabited

/-- A body that has not ended when the bytes have. -/
def Body.unfinished : Silence → Body
  | .closed => .broken
  | .quiet => .awaited

/-- The body in the bytes behind a head. -/
def Framing.body (framing : Framing) (bytes : List UInt8) (silence : Silence) : Body :=
  match framing with
  | absent => .whole []
  | sized length => if length ≤ bytes.length then .whole (bytes.take length) else .unfinished silence
  | untilClose =>
      match silence with
      | .closed => .whole bytes
      | .quiet => .awaited
  | chunked =>
      match Chunked.read bytes with
      | .done data _ => .whole data
      | .malformed => .broken
      | .incomplete => .unfinished silence

/-- Whether a status belongs to a response that another one follows. -/
def isInterim (status : UInt16) : Bool := 100 ≤ status && status < 200 && status != 101

/-- Read the head of the final response among at most `count` heads of at most `most` bytes, with the
extent of its body. -/
def readFinalAmong (most : Nat) : (count : Nat) → List UInt8 → Reading (Head × Framing)
  | 0, _ => .incomplete
  | count + 1, bytes =>
      (Head.read most bytes).andThen fun head rest =>
        if isInterim head.status then readFinalAmong most count rest
        else
          match Framing.ofHead? head with
          | none => .malformed
          | some framing => .done (head, framing) rest

/-- Read the head of the final response, with the extent of its body.  There are no more heads than
bytes. -/
def Arrival.readFinal (arrival : Arrival) : Reading (Head × Framing) :=
  readFinalAmong (Head.maxLength + arrival.surplus) (arrival.bytes.length + 1) arrival.bytes

end AddressWatch.Http
