import AddressWatch.Http.Grammar
import AddressWatch.Json.Reader
import AddressWatch.RecordClient
import Mathlib.Data.List.Chain

/-!
What servers give back for an update, in terms of the grammar of responses: a final head, and what has
arrived behind it before the connection is closed or the time is up.  The answer to an update is the one
to its last message.
-/

namespace AddressWatch.RecordClient

structure Answer where
  head : Http.Head
  framing : Http.Framing
  behind : List UInt8
  silence : Http.Silence

namespace Answer

/-- A complete and well-formed final head arrives that the reader can hold, with this behind it. -/
structure Arrives (answer : Answer) (arrival : Http.Arrival) : Prop where
  silence_eq : arrival.silence = answer.silence
  answered : ∃ front, arrival.bytes = front ++ answer.behind ∧
    Http.Answered (Http.Head.maxLength + arrival.surplus) answer.head answer.framing front

/-- The value of the first field with the type of the body. -/
def type? (answer : Answer) : Option (List UInt8) :=
  (Http.valuesOf "content-type" answer.head.fields).head?

end Answer

/-- Among the servers that the connections meet, the last one that a message is led to gives the answer,
when it may be led elsewhere so many times. -/
inductive Message.Answered (library : Library) : (room : Nat) → Message → List Server → Answer → Prop
  | final {room : Nat} {message : Message} {arrival : Http.Arrival} {servers : List Server}
      {answer : Answer} (arrives : answer.Arrives arrival)
      (ends : message.next? library answer.head = none) :
      Answered library room message (.present arrival :: servers) answer
  | led {room : Nat} {message next : Message} {arrival : Http.Arrival} {servers : List Server}
      {other answer : Answer} (arrives : other.Arrives arrival)
      (leads : message.next? library other.head = some next) (isWeb : next.url.isWeb = true)
      (answered : Answered library room next servers answer) :
      Answered library (room + 1) message (.present arrival :: servers) answer

/-- The update is sent, and an answer comes back. -/
inductive Answers (client : RecordClient) (library : Library) (record : Record)
    (servers : List Server) (answer : Answer) : Prop
  | intro {message : Message} (sent : client.deliver library record = .ok message)
      (answered : message.Answered library maxRedirects servers answer)

/-- Each message is the one to which the answer in front of it leads. -/
def Led (library : Library) (exchanges : List Exchange) : Prop :=
  exchanges.IsChain fun exchange other => exchange.next? library = some other.message

end AddressWatch.RecordClient
