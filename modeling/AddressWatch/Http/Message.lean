import AddressWatch.Text.Digits
import AddressWatch.Text.Utf8

/-!
The parts that requests and responses have in common: fields with a name and a value, and lines.
-/

namespace AddressWatch.Http

structure Field where
  name : String
  value : List UInt8
deriving DecidableEq, Inhabited

/-- A text as it is sent. -/
def utf8 (text : String) : List UInt8 := Text.Utf8.encode text.toList

def lineEnd : List UInt8 := [13, 10]

def Field.bytes (field : Field) : List UInt8 := utf8 field.name ++ [58, 32] ++ field.value ++ lineEnd

/-- Whether a byte can be part of the value of a field: no control character but the tab. -/
def isValueByte (byte : UInt8) : Bool := byte == 9 || (0x20 ≤ byte && byte != 0x7f)

def isSpaceByte (byte : UInt8) : Bool := byte == 32 || byte == 9

/-- A value without spaces and tabs at the ends. -/
def trimValue (value : List UInt8) : List UInt8 :=
  ((value.dropWhile isSpaceByte).reverse.dropWhile isSpaceByte).reverse

/-- The bytes as characters, one for one. -/
def latin (bytes : List UInt8) : List Char := bytes.map fun byte => Char.ofNat byte.toNat

/-- The name of a field in lower case. -/
def fieldName (bytes : List UInt8) : String := String.ofList ((latin bytes).map Char.toLower)

/-- The values of the fields with a name, in order. -/
def valuesOf (name : String) (fields : List Field) : List (List UInt8) :=
  (fields.filter (·.name = name)).map Field.value

def decimal? (bytes : List UInt8) : Option Nat :=
  if bytes = [] then none else Text.readDigits? 10 0 (latin bytes)

end AddressWatch.Http
