import AddressWatch.Text.Split

/-!
Lengths of time in nanoseconds, and their text in the largest fitting unit.
-/

namespace AddressWatch

structure Duration where
  nanoseconds : Nat
deriving DecidableEq, Inhabited

namespace Duration

def ofSeconds (seconds : Nat) : Duration := ⟨seconds * 1000000000⟩

def ofMilliseconds (milliseconds : Nat) : Duration := ⟨milliseconds * 1000000⟩

/-- The shortest whole number of milliseconds that is not shorter. -/
def toMilliseconds (duration : Duration) : Nat := (duration.nanoseconds + 999999) / 1000000

/-- The digits after the point of `part` out of `10 ^ places`, without zeros at the end. -/
def fraction (places part : Nat) : List Char :=
  let digits := Nat.toDigits 10 part
  Text.dropEndWhile (· == '0') (List.replicate (places - digits.length) '0' ++ digits)

/-- A count of units of `10 ^ places` nanoseconds. -/
def inUnit (places : Nat) (unit : String) (nanoseconds : Nat) : String :=
  let whole := Text.decimal (nanoseconds / Nat.pow 10 places)
  match fraction places (nanoseconds % Nat.pow 10 places) with
  | [] => whole ++ unit
  | digits => whole ++ "." ++ String.ofList digits ++ unit

/-- The text in the largest unit of which there is at least one whole. -/
def text (duration : Duration) : String :=
  let nanoseconds := duration.nanoseconds
  if Nat.pow 10 9 ≤ nanoseconds then inUnit 9 "s" nanoseconds
  else if Nat.pow 10 6 ≤ nanoseconds then inUnit 6 "ms" nanoseconds
  else if Nat.pow 10 3 ≤ nanoseconds then inUnit 3 "µs" nanoseconds
  else inUnit 0 "ns" nanoseconds

end Duration

end AddressWatch
