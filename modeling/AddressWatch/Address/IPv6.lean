import AddressWatch.Address.IPv4

/-!
Version 6 addresses as groups between colons, with at most one gap and possibly a dotted quad in the
place of the last two groups.
-/

namespace AddressWatch

/-- A version 6 address by its eight groups of sixteen bits, most significant first. -/
structure IPv6 where
  groups : List UInt16
  size : groups.length = 8

namespace IPv6

/-- A group has one to four hexadecimal digits of either case. -/
def group? (text : List Char) : Option UInt16 :=
  (Text.number? 16 4 text).map UInt16.ofNat

/-- The groups written by pieces, the last of which may be a dotted quad. -/
def groupsOfPieces? : List (List Char) → Option (List UInt16)
  | [] => some []
  | [last] =>
      match IPv4.parse? last with
      | some quad => some quad.groups
      | none => (group? last).map ([·])
  | piece :: rest =>
      match group? piece, groupsOfPieces? rest with
      | some group, some groups => some (group :: groups)
      | _, _ => none

/-- The groups written between colons, or none at all for an empty text. -/
def groups? (text : List Char) : Option (List UInt16) :=
  if text = [] then some [] else groupsOfPieces? (Text.splitAt ':' text)

/-- The groups before a gap: a dotted quad cannot stand there. -/
def groupsBeforeGap? (text : List Char) : Option (List UInt16) :=
  if text = [] then some [] else (Text.splitAt ':' text).mapM group?

/-- The texts before and after the first two colons in a row. -/
def splitGap? : List Char → Option (List Char × List Char)
  | ':' :: ':' :: rest => some ([], rest)
  | [] => none
  | char :: rest => (splitGap? rest).map fun (before, after) => (char :: before, after)

/-- The address written by eight groups, or by fewer around a gap that stands for at least one. -/
def parse? (text : List Char) : Option IPv6 :=
  match splitGap? text with
  | none =>
      match groups? text with
      | none => none
      | some groups => if size : groups.length = 8 then some ⟨groups, size⟩ else none
  | some (before, after) =>
      match groupsBeforeGap? before, groups? after with
      | some head, some tail =>
          if room : head.length + tail.length ≤ 7 then
            some ⟨head ++ List.replicate (8 - (head.length + tail.length)) 0 ++ tail, by
              simp; omega⟩
          else none
      | _, _ => none

/-- Whether the address lies in `fe80::/10`. -/
def isLinkLocal (address : IPv6) : Bool :=
  address.groups.head?.any fun group => group &&& 0xffc0 == 0xfe80

def zeroRun (groups : List UInt16) : Nat := (groups.takeWhile (· == 0)).length

/-- The first longest run of zero groups, as its position and length. -/
def longestZeroRun : (position : Nat) → List UInt16 → Nat × Nat
  | position, [] => (position, 0)
  | position, group :: rest =>
      let later := longestZeroRun (position + 1) rest
      let here := zeroRun (group :: rest)
      if later.2 ≤ here then (position, here) else later

/-- Groups between colons, without leading zeros. -/
def joinGroups (groups : List UInt16) : String :=
  ":".intercalate (groups.map fun group => Text.hexadecimal group.toNat)

/-- The shortest text: the first longest run of at least two zero groups becomes the gap. -/
def text (address : IPv6) : String :=
  let (position, length) := longestZeroRun 0 address.groups
  if length < 2 then joinGroups address.groups
  else joinGroups (address.groups.take position) ++ "::" ++
    joinGroups (address.groups.drop (position + length))

end IPv6

end AddressWatch
