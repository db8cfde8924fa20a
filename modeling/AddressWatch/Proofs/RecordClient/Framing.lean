import AddressWatch.Proofs.RecordClient.Message
import AddressWatch.RecordClient.Destination

/-!
# Updates cannot break out of their request

Whatever characters are in a token and in a record, the request for an update is read as what it was meant
to be.  The values from the URL are graphic, and a token with a control character that could end a line is
not sent.
-/

namespace AddressWatch

open Text

theorem Text.Base64.isGraphic_letter (bits : Nat) : isGraphic (letter bits) = true := by
  have each : ∀ bits : Fin 63, isGraphic (letter bits) = true := by decide
  rcases Nat.lt_or_ge bits 63 with small | large
  · exact each ⟨bits, small⟩
  · rw [letter, if_neg (by omega), if_neg (by omega), if_neg (by omega), if_neg (by omega)]
    decide

theorem Text.Base64.all_isGraphic_encode (bytes : List UInt8) :
    (encode bytes).all isGraphic = true := by
  have equals : isGraphic '=' = true := by decide
  fun_induction encode bytes <;> simp_all [isGraphic_letter]

theorem Text.Base64.encode_ne_nil {bytes : List UInt8} (nonempty : bytes ≠ []) :
    encode bytes ≠ [] := by
  fun_cases encode bytes <;> simp_all

namespace RecordClient

/-- A token can be sent if it has no control character but the tab. -/
theorem isSendable_eq (token : String) : isSendable token = token.toList.all Http.isValueChar := by
  have opening : "Bearer ".toList.all Http.isValueChar = true := by decide
  rw [isSendable, bearer, Http.all_isValueByte_utf8, String.toList_append, List.all_append, opening,
    Bool.true_and]

/-- The value for a name and a password is a word and another one. -/
theorem exists_basic_eq (user : String) (password : Option String) :
    ∃ letters : String, letters ≠ "" ∧ letters.toList.all isGraphic = true ∧
      basic user password = Http.utf8 "Basic " ++ Http.utf8 letters := by
  have nonempty : Http.utf8 (user ++ ":" ++ password.getD "") ≠ [] :=
    Http.utf8_ne_nil (by simp)
  refine ⟨_, ?_, ?_, rfl⟩
  · rw [ne_eq, String.ofList_eq_empty_iff]
    exact Text.Base64.encode_ne_nil nonempty
  · rw [String.toList_ofList]
    exact Text.Base64.all_isGraphic_encode _

theorem all_isValueByte_basic (user : String) (password : Option String) :
    (basic user password).all Http.isValueByte = true := by
  obtain ⟨letters, -, graphic, basic_eq⟩ := exists_basic_eq user password
  rw [basic_eq, List.all_append, Http.Request.all_isValueByte_of_all_isGraphic graphic]
  decide

theorem trimValue_basic (user : String) (password : Option String) :
    Http.trimValue (basic user password) = basic user password := by
  obtain ⟨letters, nonempty, graphic, basic_eq⟩ := exists_basic_eq user password
  rw [basic_eq]
  apply Http.trimValue_of_ends
  · intro byte first
    cases first
    rfl
  · intro byte last
    rw [List.getLast?_append_of_ne_nil _ (Http.utf8_ne_nil nonempty)] at last
    exact Http.isSpaceByte_of_mem_utf8 graphic (List.mem_of_getLast? last)

/-- A destination has a URL of the web whose target and host can stand in a request. -/
theorem printed_of_destination {library : Library} {endpoint : String} {found : Destination}
    (sent : destination library endpoint = .ok found) :
    found.url.Printed ∧ found.url.isWeb = true := by
  obtain ⟨full, read, -, reachable, whole | stripped⟩ := exists_of_destination_eq_ok sent
  · rw [whole] at reachable ⊢
    have isWeb := (Bool.and_eq_true_iff.mp reachable).1
    exact ⟨Url.printed_of_read? read (isSpecial_of_isWeb isWeb), isWeb⟩
  · rw [stripped] at reachable ⊢
    have isWeb : full.isWeb = true := (Bool.and_eq_true_iff.mp reachable).1
    obtain ⟨target, hostAndPort, hasHost⟩ := Url.printed_of_read? read (isSpecial_of_isWeb isWeb)
    exact ⟨⟨target, hostAndPort, hasHost⟩, isWeb⟩

/-- A token that cannot be sent has a control character other than the tab. -/
theorem exists_control_of_not_isSendable {token : String} (unsendable : isSendable token = false) :
    ∃ char ∈ token.toList, char ≠ '\t' ∧ (char.toNat < 0x20 ∨ char.toNat = 0x7f) := by
  rw [isSendable_eq, List.all_eq_false] at unsendable
  obtain ⟨char, membership, outside⟩ := unsendable
  refine ⟨char, membership, ?_⟩
  simpa [Http.isValueChar, Nat.not_le, or_iff_not_imp_left] using outside

theorem new_eq_ok_iff {apiUrl token : String} {timeout : Duration} {client : RecordClient} :
    new apiUrl token timeout = .ok client ↔ client.endpoint = Config.endpointBelow apiUrl ∧
      client.token = token ∧ client.timeout = timeout := by
  unfold new
  constructor
  · intro made
    split at made
    · contradiction
    · cases made
      exact ⟨rfl, rfl, rfl⟩
  · rintro ⟨endpoint, rfl, rfl⟩
    obtain ⟨_, _, _, given⟩ := client
    rw [dif_neg given, ← endpoint]

/-- The authorizations that are received with a record: the credentials, and the token. -/
theorem Destination.valuesOf_authorization (destination : Destination) (token : String)
    (record : Record) :
    Http.valuesOf "authorization" (destination.message token record).receivedFields =
      destination.credentials.toList.map (fun (user, password) => basic user password) ++
        [Http.trimValue (bearer token)] := by
  rw [Message.receivedFields, Message.valuesOf_authorization]
  simp [message, trimValue_basic]

theorem Destination.valuesOf_contentType (destination : Destination) (token : String)
    (record : Record) :
    Http.valuesOf "content-type" (destination.message token record).receivedFields =
      [Http.utf8 "application/json"] := by
  rw [Message.receivedFields, Message.valuesOf_contentType]
  rfl

theorem Destination.bearer_mem_valuesOf (destination : Destination) (token : String)
    (record : Record) :
    Http.trimValue (bearer token) ∈
      Http.valuesOf "authorization" (destination.message token record).receivedFields := by
  rw [valuesOf_authorization]
  simp

theorem Destination.startLine_isPrefix (found : Destination) (token : String) (record : Record) :
    Http.utf8 ("POST " ++ found.url.target ++ " HTTP/1.1\r\n") <+:
      (found.message token record).request.bytes := by
  have opening : Http.utf8 ("POST " ++ found.url.target ++ " HTTP/1.1\r\n") =
      (found.message token record).request.startLine ++ Http.lineEnd := by
    have method : Http.utf8 "POST " = Http.utf8 "POST" ++ [32] := rfl
    have version : Http.utf8 " HTTP/1.1\r\n" = Http.utf8 " HTTP/1.1" ++ Http.lineEnd := rfl
    have line : (found.message token record).request.startLine =
        Http.utf8 "POST" ++ [32] ++ Http.utf8 found.url.target ++ Http.utf8 " HTTP/1.1" := rfl
    rw [Http.utf8_append, Http.utf8_append, method, version, line, List.append_assoc _ _ Http.lineEnd]
  rw [opening, Http.Request.bytes_eq, List.flatMap_cons]
  simp only [List.append_assoc]
  exact List.prefix_append_right_inj _ |>.mpr (List.prefix_append _ _)

/-- The message to a destination is read as a request that puts the record there. -/
theorem Destination.exists_received {found : Destination} {token : String} {record : Record}
    (printed : (found.message token record).Printed) (rest : List UInt8) :
    ∃ received,
      Http.Request.read? ((found.message token record).request.bytes ++ rest) = some (received, rest) ∧
      received.method = "POST" ∧ received.target = found.url.target ∧
      received.fields = (found.message token record).receivedFields ∧
      received.body = Http.utf8 record.body ∧
      Http.valuesOf "content-type" received.fields = [Http.utf8 "application/json"] ∧
      Http.trimValue (bearer token) ∈ Http.valuesOf "authorization" received.fields := by
  refine ⟨(found.message token record).received, printed.read?_request rest, rfl, rfl, rfl, ?_, ?_, ?_⟩
  · simp only [Message.received, Message.request, message, Option.getD_some]
  · exact found.valuesOf_contentType token record
  · exact found.bearer_mem_valuesOf token record

section

variable {client : RecordClient} {library : Library} {record : Record} {message : Message}

/-- No message is made for an update if the endpoint leads nowhere or the token cannot be sent. -/
theorem cause_of_deliver_eq_error {fault : Fault}
    (failed : client.deliver library record = .error fault) :
    (∃ url, destination library client.endpoint = .error (.unusable url)) ∨
      ∃ char ∈ client.token.toList, char ≠ '\t' ∧ (char.toNat < 0x20 ∨ char.toNat = 0x7f) := by
  cases sendable : isSendable client.token with
  | false => exact Or.inr (exists_control_of_not_isSendable sendable)
  | true =>
      rw [deliver_of_sendable sendable] at failed
      cases sent : destination library client.endpoint with
      | error failure =>
          obtain ⟨url, rfl⟩ := unusable_of_destination_eq_error sent
          exact Or.inl ⟨url, rfl⟩
      | ok found =>
          rw [sent] at failed
          contradiction

theorem result_upsert_of_error {fault : Fault}
    (failed : client.deliver library record = .error fault) (servers : List Server) :
    (client.upsert library servers record).act.result = .unreachable fault.message := by
  simp only [upsert, failed, Act.result_after, fail]

theorem upsert_of_absent (delivered : client.deliver library record = .ok message)
    {servers : List Server} (absent : ∀ server ∈ servers.head?, server = .absent) :
    (client.upsert library servers record).exchanges = [] ∧
      (client.upsert library servers record).act.result =
        .unreachable (Fault.noConnection message.url.text).message := by
  have alone : client.converse library record maxRedirects message servers =
      ⟨[], fail 0 (.noConnection message.url.text)⟩ := by
    cases servers with
    | nil => rfl
    | cons server servers =>
        rw [absent server rfl]
        rfl
  simp only [upsert, delivered, alone, Act.result_after, fail, and_self]

theorem exists_present_of_not_absent {servers : List Server}
    (present : ¬ ∀ server ∈ servers.head?, server = .absent) :
    ∃ arrival rest, servers = .present arrival :: rest := by
  cases servers with
  | nil => simp at present
  | cons server rest =>
      cases server with
      | absent => simp at present
      | present arrival => exact ⟨arrival, rest, rfl⟩

theorem exists_exchanges_upsert (delivered : client.deliver library record = .ok message)
    (arrival : Http.Arrival) (servers : List Server) :
    ∃ others, (client.upsert library (.present arrival :: servers) record).exchanges =
      ⟨message, arrival⟩ :: others := by
  rw [exchanges_upsert_of_ok _ delivered]
  unfold converse
  dsimp only
  split
  · exact ⟨_, rfl⟩
  · exact ⟨_, rfl⟩
  · split
    · exact ⟨_, rfl⟩
    · exact ⟨_, rfl⟩

theorem printed_of_deliver (delivered : client.deliver library record = .ok message) :
    message.Printed := by
  obtain ⟨sendable, found, sent, rfl⟩ := exists_destination_of_deliver_eq_ok delivered
  obtain ⟨printed, isWeb⟩ := printed_of_destination sent
  refine ⟨printed, isWeb, ?_, by simp [Destination.message]⟩
  intro value given
  simp only [Destination.message, List.mem_append, List.mem_map, List.mem_singleton] at given
  rcases given with ⟨credentials, -, rfl⟩ | rfl
  · exact all_isValueByte_basic _ _
  · exact sendable

/-- Every message of an update can stand in a request. -/
theorem printed_upsert (client : RecordClient) (sound : library.Sound) (record : Record)
    (servers : List Server) :
    ∀ exchange ∈ (client.upsert library servers record).exchanges, exchange.message.Printed :=
  forall_message_upsert client library record servers Message.Printed
    (fun _ => printed_of_deliver) fun printed => printed.next sound

/-- Every message of an update has the text of the record as its body, or none. -/
theorem body_upsert (client : RecordClient) (library : Library) (record : Record)
    (servers : List Server) :
    ∀ exchange ∈ (client.upsert library servers record).exchanges,
      exchange.message.body = some record.body ∨ exchange.message.body = none := by
  apply forall_message_upsert client library record servers
    (fun message => message.body = some record.body ∨ message.body = none)
  · intro message delivered
    obtain ⟨-, found, -, rfl⟩ := exists_destination_of_deliver_eq_ok delivered
    exact .inl rfl
  · intro message next head given leads _
    obtain ⟨-, reference, url, -, rfl⟩ := Message.exists_goTo_of_next? leads
    simp only [Message.goTo]
    split
    · exact given
    · exact .inr rfl

end

/-- Whatever characters are in a token, a name and a value, an update comes to one of two things.  Nothing
is sent and the API is not reached: nothing accepts the connection, or the address of the API leads nowhere,
or the token has a control character other than the tab.  Or a request arrives, and whatever follows it, it
is read as a request for the target and with the fields that the address of the API determines, the token
in an authorization, and the text of the record as its body.  Further requests arrive only as the answers
lead the update elsewhere, a few at most, and they are read as they were meant to be, too. -/
theorem updates_are_framed {apiUrl token : String} {timeout : Duration} {client : RecordClient}
    (made : new apiUrl token timeout = .ok client) {library : Library} (sound : library.Sound)
    (servers : List Server) (record : Record) :
    let dispatch := client.upsert library servers record
    (dispatch.exchanges = [] ∧ (∃ reason, dispatch.act.result = .unreachable reason) ∧
      ((∀ server ∈ servers.head?, server = .absent) ∨
        (∃ url, destination library (Config.endpointBelow apiUrl) = .error (.unusable url)) ∨
        ∃ char ∈ token.toList, char ≠ '\t' ∧ (char.toNat < 0x20 ∨ char.toNat = 0x7f))) ∨
    ∃ found first others, destination library (Config.endpointBelow apiUrl) = .ok found ∧
      dispatch.exchanges = first :: others ∧
      Http.utf8 ("POST " ++ found.url.target ++ " HTTP/1.1\r\n") <+: first.message.request.bytes ∧
      (∀ rest, ∃ received,
        Http.Request.read? (first.message.request.bytes ++ rest) = some (received, rest) ∧
        received.method = "POST" ∧ received.target = found.url.target ∧
        received.fields = (found.message token record).receivedFields ∧
        received.body = Http.utf8 record.body ∧
        Http.valuesOf "content-type" received.fields = [Http.utf8 "application/json"] ∧
        Http.trimValue (bearer token) ∈ Http.valuesOf "authorization" received.fields) ∧
      Led library (first :: others) ∧ others.length ≤ maxRedirects ∧
      ∀ exchange ∈ others, ∀ rest, ∃ received,
        Http.Request.read? (exchange.message.request.bytes ++ rest) = some (received, rest) ∧
        received.target = exchange.message.url.target ∧
        received.fields = exchange.message.receivedFields ∧
        (received.method = "POST" ∧ received.body = Http.utf8 record.body ∨
          received.method = "GET" ∧ received.body = []) := by
  intro dispatch
  obtain ⟨endpoint_eq, rfl, -⟩ := new_eq_ok_iff.mp made
  rw [← endpoint_eq]
  cases delivered : client.deliver library record with
  | error fault =>
      have nothing : dispatch.exchanges = [] := exchanges_upsert_of_error servers delivered
      exact Or.inl ⟨nothing, ⟨_, result_upsert_of_error delivered servers⟩,
        Or.inr (cause_of_deliver_eq_error delivered)⟩
  | ok message =>
      by_cases absent : ∀ server ∈ servers.head?, server = .absent
      · obtain ⟨nothing, unreachable⟩ := upsert_of_absent delivered absent
        exact Or.inl ⟨nothing, ⟨_, unreachable⟩, Or.inl absent⟩
      · obtain ⟨arrival, rest, rfl⟩ := exists_present_of_not_absent absent
        obtain ⟨others, exchanges⟩ := exists_exchanges_upsert delivered arrival rest
        obtain ⟨-, found, sent, rfl⟩ := exists_destination_of_deliver_eq_ok delivered
        have printed := printed_upsert client sound record (.present arrival :: rest)
        have bodies := body_upsert client library record (.present arrival :: rest)
        have led := led_upsert client library record (.present arrival :: rest)
        have few := length_upsert_le client library record (.present arrival :: rest)
        rw [exchanges] at printed bodies led few
        refine Or.inr ⟨found, _, others, sent, exchanges, ?_, ?_, led, Nat.le_of_succ_le_succ few, ?_⟩
        · exact found.startLine_isPrefix client.token record
        · exact found.exists_received (printed _ List.mem_cons_self)
        · intro exchange among
          have member := List.mem_cons_of_mem ⟨found.message client.token record, arrival⟩ among
          exact (printed exchange member).exists_received (bodies exchange member)

def hostileRecord : Record := ⟨"a\r\nHost: b\r\n\r\nGET / HTTP/1.1", .a, 60, "\"é"⟩

def spacedClient : RecordClient :=
  ⟨"http://user@h/x/api/v1/records", " tök\t", defaultTimeout, by decide⟩

theorem hostile_update_is_framed :
    new "http://user@h/x//" " tök\t" = .ok spacedClient ∧ Library.basic.Sound ∧
      ∃ first others,
        (spacedClient.upsert .basic [.present ⟨[], .closed, 0⟩] hostileRecord).exchanges =
          first :: others ∧
        ∃ received, Http.Request.read? first.message.request.bytes = some (received, []) ∧
          received.body = Http.utf8 hostileRecord.body ∧
          Http.valuesOf "content-type" received.fields = [Http.utf8 "application/json"] := by
  have made : new "http://user@h/x//" " tök\t" = .ok spacedClient := by rfl
  have begun : (spacedClient.upsert .basic [.present ⟨[], .closed, 0⟩] hostileRecord).exchanges.length = 1 := by
    decide +kernel
  refine ⟨made, Library.sound_basic, ?_⟩
  rcases updates_are_framed made Library.sound_basic [.present ⟨[], .closed, 0⟩] hostileRecord with
    ⟨nothing, -, -⟩ | ⟨found, first, others, -, sent, -, framed, -, -, -⟩
  · rw [nothing] at begun
    contradiction
  · obtain ⟨received, read, -, -, -, body, type, -⟩ := framed []
    rw [List.append_nil] at read
    exact ⟨first, others, sent, received, read, body, type⟩

/-- One update can come to two requests: an answer that points elsewhere is followed, with the record in a
request of the same kind or without it in one of another kind. -/
theorem updates_can_come_to_two_requests :
    let requests (answer : String) : List (String × String × List UInt8) :=
      let servers : List Server := [.present ⟨Http.utf8 answer, .closed, 0⟩, .present ⟨[], .closed, 0⟩]
      (spacedClient.upsert .basic servers hostileRecord).exchanges.map fun exchange =>
        (exchange.message.request.method, exchange.message.request.target, exchange.message.request.body)
    requests "HTTP/1.1 307 Moved\r\nLocation: /other\r\n\r\n" =
        [("POST", "/x/api/v1/records", Http.utf8 hostileRecord.body),
          ("POST", "/other", Http.utf8 hostileRecord.body)] ∧
      requests "HTTP/1.1 302 Moved\r\nLocation: /other\r\n\r\n" =
        [("POST", "/x/api/v1/records", Http.utf8 hostileRecord.body), ("GET", "/other", [])] := by
  decide +kernel

end RecordClient

end AddressWatch
