import AddressWatch.Text.Split
import AddressWatch.Text.Visible

/-!
Quoted text for diagnostics: a text between double quotes in which everything a reader could not
see is written as an escape.
-/

namespace AddressWatch.Text.Quoted

/-- How one character is written between the quotes. -/
def escape (char : Char) : List Char :=
  match char with
  | '\x00' => ['\\', '0']
  | '\t' => ['\\', 't']
  | '\n' => ['\\', 'n']
  | '\r' => ['\\', 'r']
  | '"' => ['\\', '"']
  | '\\' => ['\\', '\\']
  | char =>
      if isVisible char then [char]
      else "\\u\x7b".toList ++ (hexadecimal char.toNat).toList ++ ['}']

def quote (text : String) : String :=
  String.ofList ('"' :: (text.toList.flatMap escape ++ ['"']))

end AddressWatch.Text.Quoted
