/-!
Base 64: three bytes as four letters of an alphabet, with equals signs in the place of missing bytes.
-/

namespace AddressWatch.Text.Base64

/-- The letter for six bits. -/
def letter (bits : Nat) : Char :=
  if bits < 26 then Char.ofNat (bits + 0x41)
  else if bits < 52 then Char.ofNat (bits - 26 + 0x61)
  else if bits < 62 then Char.ofNat (bits - 52 + 0x30)
  else if bits = 62 then '+'
  else '/'

def encode : List UInt8 → List Char
  | first :: second :: third :: rest =>
      let bits := first.toNat * 0x10000 + second.toNat * 0x100 + third.toNat
      letter (bits / 0x40000) :: letter (bits / 0x1000 % 0x40) :: letter (bits / 0x40 % 0x40) ::
        letter (bits % 0x40) :: encode rest
  | [first, second] =>
      let bits := first.toNat * 0x100 + second.toNat
      [letter (bits / 0x400), letter (bits / 0x10 % 0x40), letter (bits % 0x10 * 4), '=']
  | [first] => [letter (first.toNat / 4), letter (first.toNat % 4 * 0x10), '=', '=']
  | [] => []

end AddressWatch.Text.Base64
