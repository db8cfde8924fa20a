import AddressWatch.Proofs.Watcher.ChangeDetection
import AddressWatch.Proofs.Watcher.Likeness
import AddressWatch.RecordClient.Destination

/-!
# The token stays in the authorization

Two clients that differ in the token send requests that differ in the authorization only, and make the
same of the answers.  Their worlds are therefore alike, with states that are related when the requests
received so far are the same apart from the authorization; so whatever is done with their watchers
shows the same.
-/

namespace AddressWatch

/-- The field without the value of an authorization. -/
def Http.Field.concealed (field : Field) : Field :=
  if field.name = "authorization" then { field with value := [] } else field

/-- The request without the values of its authorizations. -/
def Http.Request.concealed (request : Request) : Request :=
  { request with fields := request.fields.map Field.concealed }

namespace RecordClient

/-- What an exchange is with the value of no authorization: where it takes place, what is asked, and what
arrives. -/
def Exchange.concealed (exchange : Exchange) : Url × Http.Request × Http.Arrival :=
  (exchange.message.url, exchange.message.request.concealed, exchange.arrival)

/-- The clients differ in the token only, and both tokens can be sent. -/
structure Alike (client other : RecordClient) : Prop where
  endpoint_eq : other.endpoint = client.endpoint
  timeout_eq : other.timeout = client.timeout
  sendable : isSendable client.token = true
  other_sendable : isSendable other.token = true

/-- The messages are the same apart from the values of the authorizations. -/
structure Message.Alike (message other : Message) : Prop where
  url_eq : other.url = message.url
  referer_eq : other.referer = message.referer
  body_eq : other.body = message.body
  length_eq : other.authorizations.length = message.authorizations.length

namespace Message.Alike

variable {message other : Message}

theorem concealed_request (messages : message.Alike other) :
    other.request.concealed = message.request.concealed := by
  have concealed (values : List (List UInt8)) :
      (values.map (Http.Field.mk "authorization")).map Http.Field.concealed =
        List.replicate values.length ⟨"authorization", []⟩ := by
    rw [List.map_map, List.eq_replicate_iff]
    simp [Http.Field.concealed]
  have fields : other.fields.map Http.Field.concealed = message.fields.map Http.Field.concealed := by
    simp only [fields, values, List.flatMap_cons, List.map_append, concealed, messages.url_eq,
      messages.referer_eq, messages.body_eq, messages.length_eq]
  simp only [Http.Request.concealed, request, fields, messages.body_eq, messages.url_eq]

theorem concealed_exchange (messages : message.Alike other) (arrival : Http.Arrival) :
    (Exchange.mk other arrival).concealed = (Exchange.mk message arrival).concealed := by
  simp only [Exchange.concealed, messages.url_eq, messages.concealed_request]

/-- A head leads both messages nowhere, or it leads them to messages that are alike again. -/
theorem next?_cases (messages : message.Alike other) (library : Library) (head : Http.Head) :
    (message.next? library head = none ∧ other.next? library head = none) ∨
      ∃ next otherNext, message.next? library head = some next ∧
        other.next? library head = some otherNext ∧ next.Alike otherNext := by
  unfold next?
  rw [messages.url_eq]
  split
  · cases (Http.valuesOf "location" head.fields).head?.bind (library.resolve? message.url) with
    | none => exact .inl ⟨rfl, rfl⟩
    | some url =>
        refine .inr ⟨_, _, rfl, rfl, rfl, ?_, ?_, ?_⟩
        · simp only [goTo, messages.url_eq, messages.referer_eq]
        · simp only [goTo, messages.body_eq]
        · simp only [goTo, messages.url_eq]
          split
          · exact messages.length_eq
          · rfl
  · exact .inl ⟨rfl, rfl⟩

/-- So does an arrival. -/
theorem exchange_next?_cases (messages : message.Alike other) (library : Library)
    (arrival : Http.Arrival) :
    (Exchange.next? library ⟨message, arrival⟩ = none ∧
        Exchange.next? library ⟨other, arrival⟩ = none) ∨
      ∃ next otherNext, Exchange.next? library ⟨message, arrival⟩ = some next ∧
        Exchange.next? library ⟨other, arrival⟩ = some otherNext ∧ next.Alike otherNext := by
  unfold Exchange.next?
  dsimp only
  split
  next head _ _ _ => exact messages.next?_cases library head
  next => exact .inl ⟨rfl, rfl⟩

end Message.Alike

/-- The exchanges are the same apart from the values of the authorizations. -/
def SameExchanges (exchanges others : List Exchange) : Prop :=
  others.map Exchange.concealed = exchanges.map Exchange.concealed

namespace Alike

variable {client other : RecordClient}

/-- Both clients fail for the same reason, or they deliver messages that are alike. -/
theorem deliver_cases (clients : client.Alike other) (library : Library) (record : Record) :
    (∃ fault, client.deliver library record = .error fault ∧
      other.deliver library record = .error fault) ∨
    ∃ message otherMessage, client.deliver library record = .ok message ∧
      other.deliver library record = .ok otherMessage ∧ message.Alike otherMessage := by
  rw [deliver_of_sendable clients.sendable, deliver_of_sendable clients.other_sendable,
    clients.endpoint_eq]
  cases destination library client.endpoint with
  | error fault => exact Or.inl ⟨fault, rfl, rfl⟩
  | ok destination =>
      refine Or.inr ⟨_, _, rfl, rfl, rfl, rfl, rfl, ?_⟩
      simp [Destination.message]

theorem conclude_eq (clients : client.Alike other) (library : Library) (record : Record)
    {message otherMessage : Message} (messages : message.Alike otherMessage)
    (arrival : Http.Arrival) :
    other.conclude library record ⟨otherMessage, arrival⟩ =
      client.conclude library record ⟨message, arrival⟩ := by
  unfold conclude
  simp only [clients.timeout_eq, messages.url_eq]

/-- Messages that are alike lead to the same end over exchanges that are the same. -/
theorem converse_eq (clients : client.Alike other) (library : Library) (record : Record) (room : Nat)
    {message otherMessage : Message} (messages : message.Alike otherMessage)
    (servers : List Server) :
    (other.converse library record room otherMessage servers).act =
        (client.converse library record room message servers).act ∧
      SameExchanges (client.converse library record room message servers).exchanges
        (other.converse library record room otherMessage servers).exchanges := by
  induction servers generalizing room message otherMessage with
  | nil => simp [converse, SameExchanges, messages.url_eq]
  | cons server servers inductionHypothesis =>
      cases server with
      | absent => simp [converse, SameExchanges, messages.url_eq]
      | present arrival =>
          have same := messages.concealed_exchange arrival
          rcases messages.exchange_next?_cases library arrival with
            ⟨ends, otherEnds⟩ | ⟨next, otherNext, leads, otherLeads, nextAlike⟩
          · simp only [converse, ends, otherEnds]
            exact ⟨clients.conclude_eq library record messages arrival, by simp [SameExchanges, same]⟩
          · cases room with
            | zero => simp [converse, leads, otherLeads, SameExchanges, same, messages.url_eq]
            | succ room =>
                obtain ⟨acts, exchanges⟩ := inductionHypothesis room nextAlike
                unfold converse
                simp only [leads, otherLeads, nextAlike.url_eq]
                split
                · exact ⟨acts, List.cons_eq_cons.mpr ⟨same, exchanges⟩⟩
                · exact ⟨rfl, by simp [SameExchanges, same]⟩

theorem upsert_eq (clients : client.Alike other) (library : Library) (servers : List Server)
    (record : Record) :
    (other.upsert library servers record).act = (client.upsert library servers record).act ∧
      SameExchanges (client.upsert library servers record).exchanges
        (other.upsert library servers record).exchanges := by
  unfold upsert startEntry
  rw [clients.endpoint_eq]
  rcases clients.deliver_cases library record with
    ⟨fault, failed, otherFailed⟩ | ⟨message, otherMessage, delivered, otherDelivered, messages⟩
  · rw [failed, otherFailed]
    exact ⟨rfl, rfl⟩
  · rw [delivered, otherDelivered]
    obtain ⟨acts, exchanges⟩ := clients.converse_eq library record maxRedirects messages servers
    exact ⟨congrArg (Act.after _) acts, exchanges⟩

end Alike

end RecordClient

namespace Watcher

variable {σ : Type}

/-- The states are the same, apart from the authorizations of the requests received. -/
def SameButAuthorization (state other : σ × List (List RecordClient.Exchange)) : Prop :=
  other.1 = state.1 ∧ List.Forall₂ RecordClient.SameExchanges state.2 other.2

theorem alike_ofClient {client other : RecordClient} (clients : client.Alike other)
    (partners : Partners σ) :
    (World.ofClient client partners).Alike SameButAuthorization
      (World.ofClient other partners) where
  describe_eq states := congrArg partners.describe states.1
  clientName_eq := rfl
  look {state otherState} states := by
    obtain ⟨same, received⟩ := states
    simp only [World.ofClient, same, true_and]
    exact ⟨rfl, received⟩
  push {state otherState} states record := by
    obtain ⟨same, received⟩ := states
    obtain ⟨acts, exchanges⟩ := clients.upsert_eq partners.library (partners.servers state.1) record
    simp only [World.ofClient, same, acts, true_and]
    exact ⟨rfl, List.rel_append received (.cons exchanges .nil)⟩

theorem new_of_ne {config : Config} {reported : Family} (accepted : config.Accepted)
    (mismatch : reported ≠ config.family) :
    new config reported = .error (familyMismatch reported config.family) := by
  unfold new
  split
  next fault faulty => rw [Config.Accepted, faulty] at accepted; contradiction
  next => exact if_pos mismatch

/-- Take two accepted settings that differ in the token only, where both tokens can be sent.  The settings
are shown the same, and so are their clients.  Over the same host and the same servers, whatever is done
with their watchers comes to the same polls, updates, outcomes, messages and log, and to the same memory;
the requests that the servers receive are the same apart from the values of the authorizations. -/
theorem token_stays_in_authorization {config : Config} {token : String} (accepted : config.Accepted)
    (otherAccepted : ({ config with token } : Config).Accepted)
    (sendable : RecordClient.isSendable config.token = true)
    (otherSendable : RecordClient.isSendable token = true) :
    let other : Config := { config with token }
    (other.layout = config.layout ∧ other.toJson = config.toJson) ∧
    ∃ client otherClient, RecordClient.ofConfig config = .ok client ∧
      RecordClient.ofConfig other = .ok otherClient ∧ otherClient.layout = client.layout ∧
      ∀ reported, (∃ error, new config reported = .error error ∧ new other reported = .error error) ∨
        ∃ watcher otherWatcher, new config reported = .ok watcher ∧
          new other reported = .ok otherWatcher ∧
          ∀ (partners : Partners σ) (state : σ) (operations : List Operation),
            let (reports, last) := (⟨watcher, state, []⟩ : Session (σ × List (List RecordClient.Exchange))).performAll
              (.ofClient client partners) operations
            let (otherReports, otherLast) :=
              (⟨otherWatcher, state, []⟩ : Session (σ × List (List RecordClient.Exchange))).performAll
                (.ofClient otherClient partners) operations
            otherReports.map Report.display = reports.map Report.display ∧
              otherLast.watcher.lastAccepted = last.watcher.lastAccepted ∧
              SameButAuthorization last.state otherLast.state := by
  intro other
  have tokenGiven := (config.accepted_iff_checked.mp accepted).token_ne_empty
  have otherGiven := (other.accepted_iff_checked.mp otherAccepted).token_ne_empty
  let client : RecordClient := ⟨config.endpoint, config.token, RecordClient.defaultTimeout, tokenGiven⟩
  let otherClient : RecordClient := ⟨config.endpoint, token, RecordClient.defaultTimeout, otherGiven⟩
  have clients : client.Alike otherClient := ⟨rfl, rfl, sendable, otherSendable⟩
  refine ⟨⟨rfl, rfl⟩, client, otherClient, dif_neg tokenGiven, dif_neg otherGiven, rfl, ?_⟩
  intro reported
  by_cases fits : reported = config.family
  · let watcher : Watcher := ⟨config, accepted, "", .empty⟩
    refine Or.inr ⟨watcher, watcher.withToken token otherGiven, ?_, ?_, ?_⟩
    · exact (new_eq_ok_iff _ _ _).mpr ⟨accepted, fits, rfl⟩
    · exact (new_eq_ok_iff _ _ _).mpr ⟨otherAccepted, fits, rfl⟩
    · intro partners state operations
      let session : Session (σ × List (List RecordClient.Exchange)) := ⟨watcher, state, []⟩
      have sessions : session.Alike SameButAuthorization token otherGiven
          ⟨watcher.withToken token otherGiven, state, []⟩ := ⟨rfl, rfl, .nil⟩
      obtain ⟨shown, last⟩ := sessions.performAll (alike_ofClient clients partners) operations
      have memory := congrArg lastAccepted last.watcher_eq
      exact ⟨shown, memory, last.state⟩
  · exact Or.inl ⟨_, new_of_ne accepted fits, new_of_ne otherAccepted fits⟩

/-- A host with one address, and a server that takes every record. -/
def willingPartners : Partners Unit where
  library := .basic
  describe _ := "commands"
  look _ := (.done (.ok "192.0.2.1"), ())
  servers _ := [.present ⟨Http.utf8 "HTTP/1.1 200 OK\r\n\r\n", .closed, 0⟩]
  afterPush _ _ := ()

/-- The world of a client with the given token over that host and that server. -/
def willingWorld (token : String) (given : token ≠ "") : World (Unit × List (List RecordClient.Exchange)) :=
  .ofClient ⟨homeSettings.endpoint, token, RecordClient.defaultTimeout, given⟩ willingPartners

theorem homeSettings_accepted : homeSettings.Accepted := by decide

def homeSession (token : String) (given : token ≠ "") : Session (Unit × List (List RecordClient.Exchange)) :=
  ⟨(⟨homeSettings, homeSettings_accepted, "", .empty⟩ : Watcher).withToken token given, (), []⟩

theorem tokens_of_home_stay_in_authorization :
    let other : Config := { homeSettings with token := "another" }
    let last := ((homeSession "secret" (by decide)).performAll
      (willingWorld "secret" (by decide)) [.poll, .poll]).2
    let otherLast := ((homeSession "another" (by decide)).performAll
      (willingWorld "another" (by decide)) [.poll, .poll]).2
    homeSettings.Accepted ∧ other.Accepted ∧
      RecordClient.isSendable homeSettings.token = true ∧
      RecordClient.isSendable other.token = true ∧
      last.state.2.length = 1 ∧
      otherLast.state.2.flatten.map (·.message.authorizations) ≠
        last.state.2.flatten.map (·.message.authorizations) ∧
      last.watcher.lastAccepted = "192.0.2.1" ∧
      otherLast.watcher.lastAccepted = last.watcher.lastAccepted ∧
      SameButAuthorization last.state otherLast.state := by
  intro other last otherLast
  have otherAccepted : other.Accepted := by decide
  have sendable : RecordClient.isSendable homeSettings.token = true := by decide +kernel
  have otherSendable : RecordClient.isSendable "another" = true := by decide +kernel
  refine ⟨homeSettings_accepted, otherAccepted, sendable, otherSendable, by decide +kernel, by decide +kernel, by decide +kernel, ?_⟩
  obtain ⟨_, client, otherClient, made, otherMade, _, watchers⟩ :=
    token_stays_in_authorization (σ := Unit) homeSettings_accepted otherAccepted sendable otherSendable
  rcases watchers .ipv4 with ⟨error, failed, _⟩ | ⟨watcher, otherWatcher, watching, otherWatching, same⟩
  · contradiction
  · cases Except.ok.inj (made.symm.trans rfl)
    cases Except.ok.inj (otherMade.symm.trans rfl)
    cases Except.ok.inj (watching.symm.trans rfl)
    cases Except.ok.inj (otherWatching.symm.trans rfl)
    exact (same willingPartners () [.poll, .poll]).2

end Watcher

end AddressWatch
