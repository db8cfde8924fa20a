import AddressWatch.Text.Split

/-!
Blank characters and what is cut at them: trimmed text, words and lines.
-/

namespace AddressWatch.Text

/-- The characters with the Unicode property White_Space. -/
def isBlank (char : Char) : Bool :=
  let code := char.toNat
  (9 ≤ code && code ≤ 13) || code == 0x20 || code == 0x85 || code == 0xa0 || code == 0x1680 ||
    (0x2000 ≤ code && code ≤ 0x200a) || code == 0x2028 || code == 0x2029 || code == 0x202f ||
    code == 0x205f || code == 0x3000

def trim (text : List Char) : List Char :=
  dropEndWhile isBlank (text.dropWhile isBlank)

/-- The non-empty pieces of a text between its blanks. -/
def words (text : List Char) : List (List Char) :=
  (splitWhere isBlank text).filter (· ≠ [])

/-- A line without the carriage return of its line end. -/
def dropReturn (line : List Char) : List Char :=
  if line.getLast? = some '\r' then line.dropLast else line

/-- The lines of a text.  A line ends with a line feed, of which a carriage return before it is a
part; text after the last line feed is a line as well, and keeps a carriage return at its end. -/
def lines (text : List Char) : List (List Char) :=
  let pieces := splitAt '\n' text
  let unfinished := pieces.getLastD []
  pieces.dropLast.map dropReturn ++ if unfinished = [] then [] else [unfinished]

end AddressWatch.Text
