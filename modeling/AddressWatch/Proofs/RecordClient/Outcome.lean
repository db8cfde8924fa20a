import AddressWatch.Proofs.Http.Chunks
import AddressWatch.Proofs.Library
import AddressWatch.Proofs.RecordClient.Body
import AddressWatch.Proofs.RecordClient.Endpoint
import AddressWatch.Proofs.RecordClient.Redirect
import AddressWatch.Proofs.Watcher.Confirmation
import AddressWatch.RecordClient.Destination
import AddressWatch.Watcher.Correspondence

/-!
# What an answer comes to

An update is taken when a well-formed head with one of two statuses has come back, and refused when its
status is another one; only then does the body matter.  Whatever else the servers do, they have not been
reached.  The head is that of the last answer, which leads nowhere else.
-/

namespace AddressWatch

namespace RecordClient

variable {client : RecordClient} {library : Library} {record : Record} {room : Nat}
  {message : Message} {servers : List Server} {answer : Answer} {arrival : Http.Arrival}

/-- What an answer comes to that leads nowhere else. -/
def Answer.outcome (library : Library) (answer : Answer) : Outcome :=
  if isSuccess answer.head.status then .applied answer.head.status
  else .rejected answer.head.status
    (match answer.framing.body answer.behind answer.silence with
    | .whole body => library.text answer.type? body
    | _ => unreadable)

end RecordClient

namespace Watcher

variable {σ : Type}

end Watcher

namespace RecordClient

end RecordClient

end AddressWatch
