/-!
UTF-8: text as bytes, and bytes as text when they may be damaged.  Every longest piece that could have
begun a character, but does not go on as one, becomes a single replacement character.
-/

namespace AddressWatch.Text.Utf8

def encode (text : List Char) : List UInt8 := text.flatMap String.utf8EncodeChar

def replacement : Char := '\uFFFD'

/-- A character of which some bytes have been read: how many are missing, the bits read so far, and
the range in which the next byte has to lie. -/
structure Unfinished where
  missing : Nat
  bits : Nat
  low : Nat
  high : Nat

/-- What a byte begins: a whole character, a longer one, or nothing. -/
inductive Opening where
  | whole (char : Char)
  | longer (pending : Unfinished)
  | nothing

/-- The well-formed UTF-8 sequences by their first byte. -/
def opening (byte : Nat) : Opening :=
  if byte < 0x80 then .whole (Char.ofNat byte)
  else if 0xc2 ≤ byte ∧ byte ≤ 0xdf then .longer ⟨1, byte % 0x20, 0x80, 0xbf⟩
  else if byte = 0xe0 then .longer ⟨2, 0, 0xa0, 0xbf⟩
  else if byte = 0xed then .longer ⟨2, 0xd, 0x80, 0x9f⟩
  else if 0xe1 ≤ byte ∧ byte ≤ 0xef then .longer ⟨2, byte % 0x10, 0x80, 0xbf⟩
  else if byte = 0xf0 then .longer ⟨3, 0, 0x90, 0xbf⟩
  else if 0xf1 ≤ byte ∧ byte ≤ 0xf3 then .longer ⟨3, byte % 8, 0x80, 0xbf⟩
  else if byte = 0xf4 then .longer ⟨3, 4, 0x80, 0x8f⟩
  else .nothing

/-- The state of reading: the characters read so far, last first, and the character under way. -/
structure Reading where
  done : List Char := []
  pending : Option Unfinished := none

/-- Read a byte with no character under way. -/
def Reading.start (done : List Char) (byte : Nat) : Reading :=
  match opening byte with
  | .whole char => ⟨char :: done, none⟩
  | .longer pending => ⟨done, some pending⟩
  | .nothing => ⟨replacement :: done, none⟩

/-- Read one more byte. -/
def Reading.step (reading : Reading) (byte : UInt8) : Reading :=
  let byte := byte.toNat
  match reading.pending with
  | none => .start reading.done byte
  | some pending =>
      if pending.low ≤ byte ∧ byte ≤ pending.high then
        let bits := pending.bits * 0x40 + byte % 0x40
        if pending.missing = 1 then ⟨Char.ofNat bits :: reading.done, none⟩
        else ⟨reading.done, some ⟨pending.missing - 1, bits, 0x80, 0xbf⟩⟩
      else .start (replacement :: reading.done) byte

/-- A character still under way at the end is a damaged one. -/
def Reading.finish (reading : Reading) : List Char :=
  match reading.pending with
  | none => reading.done.reverse
  | some _ => (replacement :: reading.done).reverse

/-- The text of the bytes. -/
def decode (bytes : List UInt8) : List Char :=
  (bytes.foldl Reading.step ({} : Reading)).finish

end AddressWatch.Text.Utf8
