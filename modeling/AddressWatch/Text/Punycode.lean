/-!
Punycode: text with any characters as letters, digits and hyphens.  The characters outside ASCII are
inserted into the others in increasing order, each by the distance from the one before.
-/

namespace AddressWatch.Text.Punycode

/-- The least and greatest thresholds of a digit. -/
def threshold (position bias : Nat) : Nat :=
  if position ≤ bias then 1 else if bias + 26 ≤ position then 26 else position - bias

theorem threshold_pos (position bias : Nat) : 1 ≤ threshold position bias := by
  unfold threshold
  grind

/-- A digit of base 36. -/
def digit (value : Nat) : Char :=
  if value < 26 then Char.ofNat (value + 0x61) else Char.ofNat (value - 26 + 0x30)

/-- A distance as digits, the least significant first. -/
def digits (bias position distance : Nat) : List Char :=
  let least := threshold position bias
  if distance < least then [digit distance]
  else
    digit (least + (distance - least) % (36 - least)) ::
      digits bias (position + 36) ((distance - least) / (36 - least))
termination_by distance
decreasing_by
  have := threshold_pos position bias
  have := Nat.div_le_self (distance - threshold position bias) (36 - threshold position bias)
  omega

/-- The bias that large distances come to. -/
def settle (position distance : Nat) : Nat :=
  if 455 < distance then settle (position + 36) (distance / 35)
  else position + 36 * distance / (distance + 38)
termination_by distance
decreasing_by omega

/-- The bias after a distance. -/
def adapt (first : Bool) (distance handled : Nat) : Nat :=
  let damped := distance / if first then 700 else 2
  settle 0 (damped + damped / handled)

structure Progress where
  next : Nat := 0x80
  distance : Nat := 0
  bias : Nat := 72
  handled : Nat
  isFirst : Bool := true
  /-- The digits so far, last first. -/
  written : List Char := []

/-- Pass a character while looking for those with the code `code`. -/
def Progress.pass (code : Nat) (progress : Progress) (char : Char) : Progress :=
  if char.toNat < code then { progress with distance := progress.distance + 1 }
  else if char.toNat = code then
    { progress with
      distance := 0
      bias := adapt progress.isFirst progress.distance (progress.handled + 1)
      handled := progress.handled + 1
      isFirst := false
      written := (digits progress.bias 36 progress.distance).reverse ++ progress.written }
  else progress

/-- Insert the characters with the code `code`. -/
def Progress.insert (text : List Char) (progress : Progress) (code : Nat) : Progress :=
  let reached := { progress with
    distance := progress.distance + (code - progress.next) * (progress.handled + 1) }
  let passed := text.foldl (Progress.pass code) reached
  { passed with distance := passed.distance + 1, next := code + 1 }

def encode (text : List Char) : List Char :=
  let basic := text.filter fun char => char.toNat < 0x80
  let codes := ((text.map Char.toNat).filter (0x80 ≤ ·)).mergeSort.eraseDups
  let progress := codes.foldl (Progress.insert text) { handled := basic.length }
  let opening := if basic = [] then [] else basic ++ ['-']
  opening ++ progress.written.reverse

end AddressWatch.Text.Punycode
