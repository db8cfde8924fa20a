import AddressWatch.RecordClient

/-!
Where the requests of a client go.  This depends on the endpoint alone; the token and the record only
fill in the request.
-/

namespace AddressWatch.RecordClient

/-- A URL that requests can be sent to, and the credentials that the endpoint carries. -/
structure Destination where
  url : Url
  credentials : Option (String × Option String)

/-- The destination of the requests for an endpoint. -/
def destination (library : Library) (endpoint : String) : Except Fault Destination :=
  match Url.read? library.hostNames endpoint with
  | none => .error (.unusable none)
  | some full =>
      let url := if full.credentials?.isSome then full.withoutCredentials else full
      if !full.hasHost then .error (.unusable (some full.text))
      else if !isReachable url then .error (.unusable (some url.text))
      else .ok ⟨url, full.credentials?⟩

/-- The message that puts a record there. -/
def Destination.message (destination : Destination) (token : String) (record : Record) : Message where
  url := destination.url
  authorizations :=
    destination.credentials.toList.map (fun (user, password) => basic user password) ++ [bearer token]
  body := some record.body

variable {library : Library}

/-- A destination is where the endpoint leads, with the credentials apart. -/
theorem exists_of_destination_eq_ok {endpoint : String} {found : Destination}
    (sent : destination library endpoint = .ok found) :
    ∃ full, Url.read? library.hostNames endpoint = some full ∧ found.credentials = full.credentials? ∧
      isReachable found.url = true ∧
      (found.url = full ∨ found.url = full.withoutCredentials) := by
  unfold destination at sent
  cases read : Url.read? library.hostNames endpoint with
  | none => simp [read] at sent
  | some full =>
      have either : (if full.credentials?.isSome then full.withoutCredentials else full) = full ∨
          (if full.credentials?.isSome then full.withoutCredentials else full) =
            full.withoutCredentials := by
        cases full.credentials?.isSome
        · exact Or.inl rfl
        · exact Or.inr rfl
      simp only [read] at sent
      generalize (if full.credentials?.isSome = true then full.withoutCredentials else full) = url
        at either sent
      cases hosted : full.hasHost <;> cases reachable : isReachable url <;>
        simp only [hosted, reachable] at sent <;> cases sent
      exact ⟨full, rfl, rfl, reachable, either⟩

/-- A client whose token can be sent delivers a record to the destination. -/
theorem deliver_of_sendable {client : RecordClient} (sendable : isSendable client.token = true)
    (record : Record) :
    client.deliver library record =
      (destination library client.endpoint).map (·.message client.token record) := by
  unfold deliver destination
  rw [sendable]
  cases Url.read? library.hostNames client.endpoint with
  | none => rfl
  | some full =>
      dsimp only
      generalize (if full.credentials?.isSome = true then full.withoutCredentials else full) = url
      cases full.hasHost <;> cases isReachable url <;> rfl

/-- A client whose token cannot be sent delivers nothing. -/
theorem deliver_of_not_sendable {client : RecordClient} (unsendable : isSendable client.token = false)
    (record : Record) : ∃ url, client.deliver library record = .error (.unusable url) := by
  unfold deliver
  rw [unsendable]
  cases Url.read? library.hostNames client.endpoint with
  | none => exact ⟨_, rfl⟩
  | some full =>
      dsimp only
      split <;> exact ⟨_, rfl⟩

/-- What is delivered goes to the destination of the endpoint, with a token that can be sent. -/
theorem exists_destination_of_deliver_eq_ok {client : RecordClient} {record : Record}
    {message : Message} (delivered : client.deliver library record = .ok message) :
    isSendable client.token = true ∧ ∃ found, destination library client.endpoint = .ok found ∧
      message = found.message client.token record := by
  cases sendable : isSendable client.token with
  | false =>
      obtain ⟨url, failed⟩ := deliver_of_not_sendable sendable record
      rw [failed] at delivered
      contradiction
  | true =>
      rw [deliver_of_sendable sendable] at delivered
      cases sent : destination library client.endpoint with
      | error fault =>
          rw [sent] at delivered
          contradiction
      | ok found =>
          rw [sent] at delivered
          exact ⟨rfl, found, rfl, (Except.ok.inj delivered).symm⟩

/-- An endpoint without a destination is unusable. -/
theorem unusable_of_destination_eq_error {endpoint : String} {fault : Fault}
    (failed : destination library endpoint = .error fault) : ∃ url, fault = .unusable url := by
  unfold destination at failed
  cases found : Url.read? library.hostNames endpoint with
  | none => simp only [found, Except.error.injEq] at failed; exact ⟨_, failed.symm⟩
  | some full =>
      simp only [found] at failed
      generalize (if full.credentials?.isSome = true then full.withoutCredentials else full) = url
        at failed
      cases hosted : full.hasHost <;> cases reachable : isReachable url <;>
        simp only [hosted, reachable] at failed <;> cases failed <;> exact ⟨_, rfl⟩

end AddressWatch.RecordClient
