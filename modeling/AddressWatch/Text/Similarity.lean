/-!
How much two texts resemble each other.  Characters match when they are equal and not too far apart,
and each character matches at most one other.  The similarity is the mean of three fractions: of the
first text that matches, of the second text that matches, and of the matches that are in order.
-/

namespace AddressWatch.Text.Similarity

/-- Characters, each with whether it has been matched. -/
abbrev Marked : Type := List (Char × Bool)

/-- Match a character with the first equal one between two positions that is not matched yet. -/
def takeFirst? (char : Char) (low high : Nat) : (position : Nat) → Marked → Option Marked
  | _, [] => none
  | position, (other, taken) :: rest =>
      if low ≤ position ∧ position < high ∧ other = char ∧ taken = false then
        some ((other, true) :: rest)
      else (takeFirst? char low high (position + 1) rest).map ((other, taken) :: ·)

/-- The matched characters of the first text in order, and the second text with its matches. -/
def pairUp (range : Nat) : (position : Nat) → List Char → Marked → List Char × Marked
  | _, [], other => ([], other)
  | position, char :: rest, other =>
      match takeFirst? char (position - range) (position + range + 1) 0 other with
      | none => pairUp range (position + 1) rest other
      | some marked =>
          let (matched, last) := pairUp range (position + 1) rest marked
          (char :: matched, last)

structure Ratio where
  numerator : Nat
  denominator : Nat

def Ratio.le (first second : Ratio) : Bool :=
  first.numerator * second.denominator ≤ second.numerator * first.denominator

/-- The similarity of two texts, between zero and one. -/
def ratio (first second : List Char) : Ratio :=
  let range := max first.length second.length / 2 - 1
  let (matched, marked) := pairUp range 0 first (second.map (·, false))
  let counterparts := (marked.filter (·.2)).map Prod.fst
  let displaced := ((matched.zip counterparts).filter fun (one, other) => one ≠ other).length
  let count := matched.length
  if count = 0 then ⟨0, 1⟩
  else
    let ordered := count - displaced / 2
    ⟨count * count * (first.length + second.length) + ordered * first.length * second.length,
      3 * count * first.length * second.length⟩

/-- The least similarity at which one text passes for a misspelling of another. -/
def threshold : Ratio := ⟨7, 10⟩

end AddressWatch.Text.Similarity
