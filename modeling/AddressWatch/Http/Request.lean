import AddressWatch.Http.Message
import AddressWatch.Text.Blank

/-!
Requests and their bytes on a connection, and reading them at the other end: the lines up to the
first blank one, and as many bytes of the body as the length field says.
-/

namespace AddressWatch.Http

structure Request where
  method : String
  target : String
  fields : List Field
  body : List UInt8
deriving DecidableEq, Inhabited

namespace Request

def bytes (request : Request) : List UInt8 :=
  utf8 request.method ++ [32] ++ utf8 request.target ++ utf8 " HTTP/1.1" ++ lineEnd ++
    request.fields.flatMap Field.bytes ++ lineEnd ++ request.body

/-- The lines up to the first blank one, and what follows it; `line` is what has been read of the
first line, last byte first. -/
def headLines? : (line : List UInt8) → List UInt8 → Option (List (List UInt8) × List UInt8)
  | line, 13 :: 10 :: rest =>
      if line = [] then some ([], rest)
      else (headLines? [] rest).map fun (lines, last) => (line.reverse :: lines, last)
  | line, byte :: rest => headLines? (byte :: line) rest
  | _, [] => none

def field (line : List UInt8) : Field where
  name := fieldName (line.takeWhile (· != 58))
  value := trimValue ((line.dropWhile (· != 58)).drop 1)

/-- The pieces of a line between its spaces. -/
def pieces (line : List UInt8) : List String :=
  (Text.splitAt ' ' (Text.Utf8.decode line)).map String.ofList

/-- The request at the beginning of what arrives on a connection, and the bytes behind it. -/
def read? (arrived : List UInt8) : Option (Request × List UInt8) :=
  match headLines? [] arrived with
  | some (start :: lines, rest) =>
      let fields := lines.map field
      let length := ((valuesOf "content-length" fields).head?.bind decimal?).getD 0
      match pieces start with
      | [method, target, _] =>
          if rest.length < length then none
          else some (⟨method, target, fields, rest.take length⟩, rest.drop length)
      | _ => none
  | _ => none

end Request

end AddressWatch.Http
