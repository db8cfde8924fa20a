import AddressWatch.Proofs.RecordClient.Endpoint
import AddressWatch.Proofs.RecordClient.Framing

/-!
# Authorizations of requests

Every request carries the token as an authorization.  A name or a password in the address of the API is
sent as well, as an authorization of its own in front of it.  An address without an at sign has neither.
-/

namespace AddressWatch

open Text

namespace Url

variable {names : HostNames}

theorem SamePlace.credentials?_eq {url other : Url} (same : url.SamePlace other) :
    url.credentials? = other.credentials? := by
  rw [credentials?, credentials?, same.user, same.password]

namespace Reader

theorem splitUser_of_not_mem {text : List Char} (absent : '@' ∉ text) :
    splitUser text = (none, text) := by
  have whole : text.reverse.takeWhile (· != '@') = text.reverse := by
    apply List.takeWhile_eq_self_iff.mpr
    intro char membership
    apply bne_iff_ne.mpr
    rintro rfl
    exact absent (List.mem_reverse.mp membership)
  rw [splitUser, whole, List.reverse_reverse, if_pos rfl]

theorem user_of_authority? {scheme : String} {text : List Char} {authority : Authority}
    (absent : '@' ∉ text) (read : authority? names scheme text = some authority) :
    authority.user = "" ∧ authority.password = none := by
  unfold authority? at read
  rw [splitUser_of_not_mem absent] at read
  dsimp only at read
  split at read
  · contradiction
  · split at read
    · cases read
      exact ⟨rfl, rfl⟩
    · contradiction

theorem mem_of_mem_authorityText {rest : List Char} {char : Char}
    (membership : char ∈ authorityText (cleanEnd rest)) : char ∈ rest := by
  have kept : char ∈ cleanEnd rest :=
    (List.dropWhile_sublist _).subset ((List.takeWhile_sublist _).subset membership)
  exact (dropEndWhile_isPrefix _ _).subset (List.mem_filter.mp kept).1

end Reader

/-- Credentials stand in front of an at sign. -/
theorem credentials?_of_not_mem {text scheme : String} {rest : List Char} {url : Url}
    (known : scheme = "http" ∨ scheme = "https") (text_eq : text.toList = scheme.toList ++ ':' :: rest)
    (absent : '@' ∉ rest) (read : read? names text = some url) : url.credentials? = none := by
  rw [read?_web known text_eq, Option.map_eq_some_iff] at read
  obtain ⟨authority, found, rfl⟩ := read
  obtain ⟨user, password⟩ :=
    Reader.user_of_authority? (absent ∘ Reader.mem_of_mem_authorityText) found
  have decoded : decoded? "" = some "" := by decide
  simp [credentials?, Reader.Authority.url, user, password, decoded]

end Url

namespace Config

variable {names : Url.HostNames} {config : Config} {scheme : String} {rest : List Char} {full : Url}

theorem credentials?_endpoint_of_not_mem (known : scheme = "http" ∨ scheme = "https")
    (apiUrl_eq : config.apiUrl.toList = scheme.toList ++ ':' :: rest) (absent : '@' ∉ rest)
    (read : Url.read? names config.endpoint = some full) : full.credentials? = none := by
  apply Url.credentials?_of_not_mem known (toList_endpoint apiUrl_eq) _ read
  intro membership
  rcases List.mem_append.mp membership with inside | appended
  · exact absent ((dropEndWhile_isPrefix _ _).subset inside)
  · exact absurd appended (by decide)

theorem credentials?_apiUrl_of_not_mem (known : scheme = "http" ∨ scheme = "https")
    (apiUrl_eq : config.apiUrl.toList = scheme.toList ++ ':' :: rest) (absent : '@' ∉ rest) :
    (Url.read? names config.apiUrl).bind Url.credentials? = none := by
  apply Option.bind_eq_none_iff.mpr
  intro base read
  exact Url.credentials?_of_not_mem known apiUrl_eq absent read

/-- The endpoint carries the credentials of the address of the API. -/
theorem credentials?_endpoint (keeps : names.KeepsBlanks) (accepted : config.Accepted)
    (read : Url.read? names config.endpoint = some full) :
    full.credentials? = (Url.read? names config.apiUrl).bind Url.credentials? := by
  by_cases beyond : Url.GoesBeyondScheme config.apiUrl
  · obtain ⟨base, base_read, -, -, same⟩ := exists_samePlace keeps accepted beyond read
    rw [base_read, Option.bind_some, same.credentials?_eq]
  · -- There is no host to compare, but no at sign either.
    obtain ⟨scheme, rest, known, apiUrl_eq⟩ := exists_rest_of_accepted accepted
    have absent : '@' ∉ rest := by
      intro membership
      apply beyond
      rw [← drop_apiUrl known apiUrl_eq] at membership
      exact ⟨'@', membership, by decide⟩
    rw [credentials?_endpoint_of_not_mem known apiUrl_eq absent read,
      credentials?_apiUrl_of_not_mem known apiUrl_eq absent]

end Config

namespace RecordClient

/-- Under accepted settings the message for an update is received with the credentials in the address of the
API and with the token of the settings. -/
theorem valuesOf_authorization_of_deliver {config : Config} (accepted : config.Accepted)
    {library : Library} (sound : library.Sound) {client : RecordClient}
    (made : ofConfig config = .ok client) {record : Record} {message : Message}
    (delivered : client.deliver library record = .ok message) :
    Http.valuesOf "authorization" message.receivedFields =
      ((Url.read? library.hostNames config.apiUrl).bind Url.credentials?).toList.map
          (fun (user, password) => basic user password) ++
        [Http.trimValue (bearer config.token)] := by
  obtain ⟨endpoint, token, -⟩ := new_eq_ok_iff.mp made
  obtain ⟨-, found, found_eq, rfl⟩ := exists_destination_of_deliver_eq_ok delivered
  rw [endpoint] at found_eq
  obtain ⟨full, read, own, -⟩ := exists_of_destination_eq_ok found_eq
  rw [token, ← Config.credentials?_endpoint sound.keepsBlanks accepted read, ← own]
  exact found.valuesOf_authorization config.token record

/-- Under accepted settings every update begins with a request that is received with the token of the
settings as an authorization.  It is the only one exactly if the address of the API carries no credentials;
otherwise these come in front of it.  Requests to which answers lead are received with the same
authorizations or without any. -/
theorem authorizations_are_credentials_and_token {config : Config} (accepted : config.Accepted)
    {library : Library} (sound : library.Sound) :
    let credentials := (Url.read? library.hostNames config.apiUrl).bind Url.credentials?
    ('@' ∉ config.apiUrl.toList → credentials = none) ∧
    ∃ client, ofConfig config = .ok client ∧
      ∀ servers record first others,
        (client.upsert library servers record).exchanges = first :: others → ∀ rest,
        (∃ received,
          Http.Request.read? (first.message.request.bytes ++ rest) = some (received, rest) ∧
          Http.valuesOf "authorization" received.fields =
            credentials.toList.map (fun (user, password) => basic user password) ++
              [Http.trimValue (bearer config.token)] ∧
          (Http.valuesOf "authorization" received.fields = [Http.trimValue (bearer config.token)] ↔
            credentials = none)) ∧
        ∀ exchange ∈ others, ∃ received,
          Http.Request.read? (exchange.message.request.bytes ++ rest) = some (received, rest) ∧
          (Http.valuesOf "authorization" received.fields = [] ∨
            Http.valuesOf "authorization" received.fields =
              credentials.toList.map (fun (user, password) => basic user password) ++
                [Http.trimValue (bearer config.token)]) := by
  intro credentials
  have given := (config.accepted_iff_checked.mp accepted).token_ne_empty
  let client : RecordClient := ⟨config.endpoint, config.token, defaultTimeout, given⟩
  have made : ofConfig config = .ok client := dif_neg given
  refine ⟨?_, client, made, ?_⟩
  · intro absent
    obtain ⟨scheme, rest, known, apiUrl_eq⟩ := Config.exists_rest_of_accepted accepted
    apply Config.credentials?_apiUrl_of_not_mem known apiUrl_eq
    intro membership
    apply absent
    rw [apiUrl_eq]
    exact List.mem_append_right _ (List.mem_cons_of_mem _ membership)
  · intro servers record first others sent rest
    have printed := printed_upsert client sound record servers
    rw [sent] at printed
    have values : Http.valuesOf "authorization" first.message.receivedFields =
        credentials.toList.map (fun (user, password) => basic user password) ++
          [Http.trimValue (bearer config.token)] :=
      valuesOf_authorization_of_deliver accepted sound made (deliver_of_exchanges_upsert sent)
    constructor
    · refine ⟨first.message.received, (printed first List.mem_cons_self).read?_request rest, values, ?_⟩
      rw [Message.received, values]
      cases credentials <;> simp
    · intro exchange among
      have member : exchange ∈ first :: others := List.mem_cons_of_mem first among
      refine ⟨exchange.message.received, (printed exchange member).read?_request rest, ?_⟩
      rw [← values]
      simp only [Message.received, Message.receivedFields, Message.valuesOf_authorization]
      refine (retains_upsert sent exchange among).imp (fun none => ?_) fun same => ?_
      · rw [none, List.map_nil]
      · rw [same.1]

/-- The authorizations that arrive with the first request for a record under some settings. -/
def authorizationsFor (config : Config) (record : Record) : Option (List (List UInt8)) :=
  match ofConfig config with
  | .error _ => none
  | .ok client =>
      match (client.upsert .basic [.closing ""] record).exchanges with
      | [] => none
      | first :: _ => (Http.Request.read? first.message.request.bytes).map fun (received, _) =>
          Http.valuesOf "authorization" received.fields

/-- An at sign in the path is no part of credentials, and blanks at the end of the token are not seen. -/
theorem authorization_beside_path_with_at_sign :
    let config : Config := { settingsFor "http://h/@x" with token := " tök\t" }
    config.Accepted ∧ Library.basic.Sound ∧
      ∃ client first others received, ofConfig config = .ok client ∧
        (client.upsert .basic [.closing ""] hostRecord).exchanges = first :: others ∧
        Http.Request.read? first.message.request.bytes = some (received, []) ∧
        Http.valuesOf "authorization" received.fields = [Http.utf8 "Bearer  tök"] := by
  intro config
  have accepted : config.Accepted := by decide
  have anonymous : (Url.read? Library.basic.hostNames config.apiUrl).bind Url.credentials? = none := by
    decide +kernel
  have begun : (authorizationsFor config hostRecord).isSome = true := by decide +kernel
  obtain ⟨-, client, made, authorizations⟩ :=
    authorizations_are_credentials_and_token accepted Library.sound_basic
  rw [authorizationsFor, made] at begun
  cases sent : (client.upsert .basic [.closing ""] hostRecord).exchanges with
  | nil => simp [sent] at begun
  | cons first others =>
      obtain ⟨⟨received, read, -, single⟩, -⟩ := authorizations _ hostRecord first others sent []
      rw [List.append_nil] at read
      refine ⟨accepted, Library.sound_basic, client, first, others, received, made, sent, read, ?_⟩
      rw [single.mpr anonymous]
      decide +kernel

/-- Accepted settings can lead to requests with two authorizations: a name in the address of the API is
sent too, with its password or without one. -/
theorem requests_can_have_two_authorizations :
    ((settingsFor "http://user:pass@h").Accepted ∧
      authorizationsFor (settingsFor "http://user:pass@h") hostRecord =
        some [Http.utf8 "Basic dXNlcjpwYXNz", Http.utf8 "Bearer secret"]) ∧
    ((settingsFor "http://user@h").Accepted ∧
      authorizationsFor (settingsFor "http://user@h") hostRecord =
        some [Http.utf8 "Basic dXNlcjo=", Http.utf8 "Bearer secret"]) := by
  decide +kernel

end RecordClient

end AddressWatch
