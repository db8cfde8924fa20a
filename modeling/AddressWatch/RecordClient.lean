import AddressWatch.Act
import AddressWatch.Record
import AddressWatch.RecordClient.Message
import AddressWatch.Text.Base64

/-!
The client of the record API: a message for each update, which may be led elsewhere, and an outcome
whatever happens to it.
-/

namespace AddressWatch

/-- A client for one API.  Its token goes into the requests and nowhere else. -/
structure RecordClient where
  endpoint : String
  token : String
  /-- How long an answer is waited for. -/
  timeout : Duration
  token_ne_empty : token ≠ ""

namespace RecordClient

def name : String := "rest"

def defaultTimeout : Duration := .ofSeconds 10

def new (apiUrl token : String) (timeout : Duration := defaultTimeout) :
    Except Error RecordClient :=
  if isEmpty : token = "" then .error (.config "API token cannot be empty")
  else .ok ⟨Config.endpointBelow apiUrl, token, timeout, isEmpty⟩

def ofConfig (config : Config) : Except Error RecordClient := new config.apiUrl config.token

def layout (client : RecordClient) : Text.Layout where
  name := "HttpRecordClient"
  fields := [
    ("endpoint", Text.Quoted.quote client.endpoint),
    ("token", Config.redacted),
    ("timeout", client.timeout.text)]

inductive Fault where
  /-- No request can be made for the token or for the address, of which the text is kept if it is a
  URL. -/
  | unusable (url : Option String)
  | noConnection (url : String)
  | noResponse (url : String)
  /-- The answers lead from one URL to the next. -/
  | misled (url : String)
  | timedOut (limit : Duration)
deriving DecidableEq, Inhabited

def Fault.message : Fault → String
  | unusable none => "builder error"
  | unusable (some url) => "builder error for url (" ++ url ++ ")"
  | noConnection url => "connect error: error sending request for url (" ++ url ++ ")"
  | noResponse url => "error sending request for url (" ++ url ++ ")"
  | misled url => "error following redirect for url (" ++ url ++ ")"
  | timedOut limit => "timed out after " ++ limit.text

def bearer (token : String) : List UInt8 := Http.utf8 ("Bearer " ++ token)

/-- The value that carries a name and a password. -/
def basic (user : String) (password : Option String) : List UInt8 :=
  Http.utf8 "Basic " ++
    Http.utf8 (String.ofList (Text.Base64.encode
      (Http.utf8 (user ++ ":" ++ password.getD ""))))

/-- Whether a token can be sent: it has no control character but the tab. -/
def isSendable (token : String) : Bool := (bearer token).all Http.isValueByte

def isReachable (url : Url) : Bool := url.isWeb && url.fitsRequest

/-- The message for an update.  A name and a password in the URL are sent like the token. -/
def deliver (client : RecordClient) (library : Library) (record : Record) : Except Fault Message :=
  match Url.read? library.hostNames client.endpoint with
  | none => .error (.unusable none)
  | some full =>
      let credentials := full.credentials?
      let url := if credentials.isSome then full.withoutCredentials else full
      if !full.hasHost then .error (.unusable (some full.text))
      else if !isSendable client.token then .error (.unusable none)
      else if !isReachable url then .error (.unusable (some url.text))
      else .ok {
        url
        authorizations :=
          credentials.toList.map (fun (user, password) => basic user password) ++ [bearer client.token]
        body := some record.body }

/-- What a connection for a message meets. -/
inductive Server where
  /-- Nothing accepts the connection. -/
  | absent
  | present (arrival : Http.Arrival)
deriving DecidableEq, Inhabited

def faultEntry (fault : Fault) : Log.Entry := Log.error ("API connection failed: " ++ fault.message)

def fail (elapsed : Nat) (fault : Fault) : Act Outcome :=
  ⟨[], elapsed, [faultEntry fault], .unreachable fault.message⟩

def unreadable : String := "Unable to read error response"

def reject (elapsed : Nat) (status : UInt16) (body : String) : Act Outcome :=
  ⟨[], elapsed, [Log.error ("API returned HTTP " ++ Text.decimal status.toNat ++ ": " ++ body)],
    .rejected status body⟩

def accept (record : Record) (status : UInt16) : Act Outcome :=
  ⟨[], 0, [Log.info ("Updated " ++ record.name ++ " " ++ record.type.name ++ " -> " ++ record.value ++
    " (HTTP " ++ Text.decimal status.toNat ++ ")")], .applied status⟩

/-- The statuses with which the API takes a record. -/
def isSuccess (status : UInt16) : Bool := status == 200 || status == 201

/-- What an update comes to in its last exchange. -/
def conclude (client : RecordClient) (library : Library) (record : Record) (exchange : Exchange) :
    Act Outcome :=
  let limit := client.timeout.toMilliseconds
  let silence := exchange.arrival.silence
  match exchange.arrival.readFinal with
  | .malformed => fail 0 (.noResponse exchange.message.url.text)
  | .incomplete =>
      match silence with
      | .closed => fail 0 (.noResponse exchange.message.url.text)
      | .quiet => fail limit (.timedOut client.timeout)
  | .done (head, framing) rest =>
      if isSuccess head.status then accept record head.status
      else
        match framing.body rest silence with
        | .whole bytes => reject 0 head.status
            (library.text (Http.valuesOf "content-type" head.fields).head? bytes)
        | .broken => reject 0 head.status unreadable
        | .awaited => reject limit head.status unreadable

/-- How often an update goes elsewhere at most. -/
def maxRedirects : Nat := 10

/-- What is said for an update, and what it comes to. -/
structure Dispatch where
  exchanges : List Exchange
  act : Act Outcome

/-- Send a message, and then those to which the answers lead, `room` at most.  Each connection meets the
next server. -/
def converse (client : RecordClient) (library : Library) (record : Record) :
    (room : Nat) → Message → List Server → Dispatch
  | _, message, [] | _, message, .absent :: _ => ⟨[], fail 0 (.noConnection message.url.text)⟩
  | room, message, .present arrival :: servers =>
      let exchange : Exchange := ⟨message, arrival⟩
      match exchange.next? library, room with
      | none, _ => ⟨[exchange], client.conclude library record exchange⟩
      | some _, 0 => ⟨[exchange], fail 0 (.misled message.url.text)⟩
      | some next, room + 1 =>
          if next.url.isWeb then
            let others := client.converse library record room next servers
            ⟨exchange :: others.exchanges, others.act⟩
          else ⟨[exchange], fail 0 (.unusable (some next.url.text))⟩

def startEntry (client : RecordClient) (record : Record) : Log.Entry :=
  Log.debug ("POST " ++ client.endpoint ++ " name=" ++ record.name ++ " type=" ++ record.type.name ++
    " ttl=" ++ Text.decimal record.ttl.toNat ++ " value=" ++ record.value)

def upsert (client : RecordClient) (library : Library) (servers : List Server) (record : Record) :
    Dispatch :=
  let dispatch : Dispatch := match client.deliver library record with
    | .error fault => ⟨[], fail 0 fault⟩
    | .ok message => client.converse library record maxRedirects message servers
  { dispatch with act := dispatch.act.after [client.startEntry record] }

end RecordClient

end AddressWatch
