/-!
Cutting text at separators, and the two searches the rest of the library needs: a known opening and
a known piece anywhere inside.
-/

namespace AddressWatch.Text

/-- The pieces of a text between the characters that satisfy `separates`.  There is always at least
one piece, and pieces may be empty. -/
def splitWhere (separates : Char → Bool) (text : List Char) : List (List Char) :=
  text.foldr (fun char pieces =>
    if separates char then [] :: pieces else pieces.modifyHead (char :: ·)) [[]]

@[simp]
theorem splitWhere_nil (separates : Char → Bool) : splitWhere separates [] = [[]] := rfl

theorem splitWhere_cons (separates : Char → Bool) (char : Char) (text : List Char) :
    splitWhere separates (char :: text) =
      if separates char then [] :: splitWhere separates text
      else (splitWhere separates text).modifyHead (char :: ·) := rfl

theorem splitWhere_ne_nil (separates : Char → Bool) (text : List Char) :
    splitWhere separates text ≠ [] := by
  cases text with
  | nil => simp
  | cons char text =>
      rw [splitWhere_cons]
      split
      · simp
      · cases inner : splitWhere separates text with
        | nil => exact absurd inner (splitWhere_ne_nil separates text)
        | cons => simp

/-- The pieces of a text between the occurrences of one character. -/
def splitAt (separator : Char) (text : List Char) : List (List Char) :=
  splitWhere (· == separator) text

/-- What follows `opening` when the text begins with it. -/
def stripOpening? (opening text : List Char) : Option (List Char) :=
  opening.isPrefixOf? text

/-- Whether `piece` occurs somewhere in the text without a gap. -/
def contains (piece : List Char) : List Char → Bool
  | [] => piece.isEmpty
  | char :: rest => piece.isPrefixOf (char :: rest) || contains piece rest

/-- The text without the characters at its end that satisfy `drops`. -/
def dropEndWhile (drops : Char → Bool) (text : List Char) : List Char :=
  (text.reverse.dropWhile drops).reverse

def decimal (number : Nat) : String := toString number

def hexadecimal (number : Nat) : String := String.ofList (Nat.toDigits 16 number)

end AddressWatch.Text
