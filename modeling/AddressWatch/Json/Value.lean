import AddressWatch.Text.Split

/-!
JSON values and their compact text.  The members of an object keep their order.
-/

namespace AddressWatch.Json

/-- A JSON value.  A number is an integer times a power of ten. -/
inductive Value where
  | null
  | bool (value : Bool)
  | number (mantissa exponent : Int)
  | string (text : String)
  | array (items : List Value)
  | object (members : List (String × Value))
deriving Inhabited

namespace Value

def natural (number : Nat) : Value := .number number 0

def member? (label : String) : Value → Option Value
  | .object members => members.lookup label
  | _ => none

end Value

def hexPair (code : Nat) : List Char :=
  [Nat.digitChar (code / 16 % 16), Nat.digitChar (code % 16)]

/-- How one character is written inside a JSON string: quote, backslash and the control characters
below U+0020 are escaped, and nothing else is. -/
def escape (char : Char) : List Char :=
  match char with
  | '"' => ['\\', '"']
  | '\\' => ['\\', '\\']
  | '\x08' => ['\\', 'b']
  | '\t' => ['\\', 't']
  | '\n' => ['\\', 'n']
  | '\x0c' => ['\\', 'f']
  | '\r' => ['\\', 'r']
  | char =>
      if char.toNat < 0x20 then '\\' :: 'u' :: '0' :: '0' :: hexPair char.toNat else [char]

def writeString (text : String) : List Char :=
  '"' :: (text.toList.flatMap escape ++ ['"'])

def writeInteger (number : Int) : List Char :=
  match number with
  | .ofNat value => (Text.decimal value).toList
  | .negSucc value => '-' :: (Text.decimal (value + 1)).toList

mutual

/-- The compact text of a value. -/
def write : Value → List Char
  | .null => "null".toList
  | .bool true => "true".toList
  | .bool false => "false".toList
  | .number mantissa exponent =>
      if exponent = 0 then writeInteger mantissa
      else writeInteger mantissa ++ 'e' :: writeInteger exponent
  | .string text => writeString text
  | .array items => '[' :: (writeItems items ++ [']'])
  | .object members => '{' :: (writeMembers members ++ ['}'])

/-- The items of an array between commas. -/
def writeItems : List Value → List Char
  | [] => []
  | [item] => write item
  | item :: rest => write item ++ ',' :: writeItems rest

/-- The members of an object between commas. -/
def writeMembers : List (String × Value) → List Char
  | [] => []
  | [(label, value)] => writeString label ++ ':' :: write value
  | (label, value) :: rest => writeString label ++ ':' :: (write value ++ ',' :: writeMembers rest)

end

def Value.text (value : Value) : String := String.ofList (write value)

end AddressWatch.Json
