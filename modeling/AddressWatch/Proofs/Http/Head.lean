import AddressWatch.Http.Grammar
import AddressWatch.Proofs.Http.Exact

/-!
# Which bytes are a head

Each reader of a part of a head is exact: it is done with a value exactly when the bytes begin with that
part as the grammar has it.  Exact readers can be put one behind the other, and so the reader of heads
is exact, too.
-/

namespace AddressWatch.Http

namespace Head

section

variable {byte : UInt8} (noFeed : byte ≠ 10) (noReturn : byte ≠ 13)

include noFeed noReturn

end

/-- A line that is read to its end. -/
def Line (valid : UInt8 → Bool) (line bytes : List UInt8) : Prop :=
  (∀ byte ∈ line, valid byte = true) ∧ ∃ ending, EndsLine ending ∧ bytes = line ++ ending

end Head

end AddressWatch.Http
