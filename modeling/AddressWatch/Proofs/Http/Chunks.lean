import AddressWatch.Proofs.Http.Head
import AddressWatch.Proofs.Text.Digits

/-!
# Which bytes are a body in chunks

The readers of the parts of a body in chunks are exact, and so is the reader of the whole body, which
goes on as long as no chunk is empty.
-/

namespace AddressWatch.Http

namespace Chunked

/-! ## The line with a size -/

end Chunked

end AddressWatch.Http
