import AddressWatch.Http.Request
import AddressWatch.Http.Response
import AddressWatch.Library

/-!
Messages to the API, and where answers that point elsewhere lead: the same message, or what is left of it,
goes to another URL.
-/

namespace AddressWatch.RecordClient

/-- What is sent to a server: a record in a body, or a question without a body. -/
structure Message where
  url : Url
  /-- The values of the authorizations. -/
  authorizations : List (List UInt8)
  /-- Where the answer was found that has led here. -/
  referer : Option String := none
  body : Option String

namespace Message

/-- The values of each field, in order. -/
def values (message : Message) : List (String × List (List UInt8)) := [
  ("authorization", message.authorizations),
  ("content-type", message.body.toList.map fun _ => Http.utf8 "application/json"),
  ("accept", [Http.utf8 "*/*"]),
  ("referer", message.referer.toList.map Http.utf8),
  ("host", [Http.utf8 message.url.hostAndPort]),
  ("content-length",
    message.body.toList.map fun body => Http.utf8 (Text.decimal (Http.utf8 body).length))]

def fields (message : Message) : List Http.Field :=
  message.values.flatMap fun (name, values) => values.map (Http.Field.mk name)

def request (message : Message) : Http.Request where
  method := if message.body.isSome then "POST" else "GET"
  target := message.url.target
  fields := message.fields
  body := Http.utf8 (message.body.getD "")

/-- How a URL is named to the next one.  What is asked for over a protected connection is not told over
an open one. -/
def refererFor? (next previous : Url) : Option String :=
  if next.scheme = "http" ∧ previous.scheme = "https" then none
  else some { previous.withoutCredentials with fragment := none }.text

/-- The statuses of answers that point elsewhere. -/
def pointsElsewhere (status : UInt16) : Bool := [301, 302, 303, 307, 308].contains status

/-- Whether a message goes elsewhere with its body. -/
def keepsBody (status : UInt16) : Bool := status == 307 || status == 308

/-- The message for another URL.  Authorizations are for one host and one port. -/
def goTo (message : Message) (status : UInt16) (url : Url) : Message where
  url := url
  authorizations := if url.isWith message.url then message.authorizations else []
  referer := (refererFor? url message.url).or message.referer
  body := if keepsBody status then message.body else none

/-- The message to which the head of an answer leads. -/
def next? (library : Library) (message : Message) (head : Http.Head) : Option Message :=
  if pointsElsewhere head.status then
    ((Http.valuesOf "location" head.fields).head?.bind (library.resolve? message.url)).map
      (message.goTo head.status)
  else none

end Message

/-- A message, and what arrives for it. -/
structure Exchange where
  message : Message
  arrival : Http.Arrival

/-- The message to which the answer leads. -/
def Exchange.next? (library : Library) (exchange : Exchange) : Option Message :=
  match exchange.arrival.readFinal with
  | .done (head, _) _ => exchange.message.next? library head
  | _ => none

end AddressWatch.RecordClient
