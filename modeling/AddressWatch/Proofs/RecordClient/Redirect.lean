import AddressWatch.RecordClient.Answer

/-!
# Where updates are led

The exchanges of an update begin with its own message, and each further message is the one to which the
answer in front of it leads.  So what holds of the first message, and is kept whenever a message goes
elsewhere, holds of all of them.
-/

namespace AddressWatch.RecordClient

namespace Message

variable {library : Library} {message next : Message} {head : Http.Head}

/-- A message is led by a status and a reference. -/
theorem exists_goTo_of_next? (leads : message.next? library head = some next) :
    pointsElsewhere head.status = true ∧ ∃ reference url,
      library.resolve? message.url reference = some url ∧ next = message.goTo head.status url := by
  unfold next? at leads
  split at leads
  next points =>
    obtain ⟨url, resolved, rfl⟩ := Option.map_eq_some_iff.mp leads
    obtain ⟨reference, -, resolved⟩ := Option.bind_eq_some_iff.mp resolved
    exact ⟨points, reference, url, resolved, rfl⟩
  next => contradiction

end Message

variable {client : RecordClient} {library : Library} {record : Record} {room : Nat}
  {servers : List Server} {message : Message}

theorem exists_next?_of_exchange {exchange : Exchange} {next : Message}
    (leads : exchange.next? library = some next) :
    ∃ head, exchange.message.next? library head = some next := by
  unfold Exchange.next? at leads
  split at leads
  next head _ _ _ => exact ⟨head, leads⟩
  next => contradiction

theorem message_head?_converse :
    ∀ first ∈ (client.converse library record room message servers).exchanges.head?,
      first.message = message := by
  fun_cases converse client library record room message servers with
  | case1 | case2 => simp
  | case3 | case4 | case5 | case6 =>
      intro first begins
      rw [← Option.some.inj begins]

theorem led_converse : Led library (client.converse library record room message servers).exchanges := by
  fun_induction converse client library record room message servers with
  | case1 | case2 => exact .nil
  | case3 | case4 | case6 => exact .singleton _
  | case5 message arrival servers exchange next room leads isWeb others inductionHypothesis =>
      refine List.isChain_cons.mpr ⟨?_, inductionHypothesis⟩
      intro other first
      rw [message_head?_converse other first]
      exact leads

theorem length_converse_le :
    (client.converse library record room message servers).exchanges.length ≤ room + 1 := by
  fun_induction converse client library record room message servers with
  | case1 | case2 => exact Nat.zero_le _
  | case3 | case4 | case6 => exact Nat.succ_le_succ (Nat.zero_le _)
  | case5 message arrival servers exchange next room leads isWeb others inductionHypothesis =>
      exact Nat.succ_le_succ inductionHypothesis

/-- What is kept by every step of an update holds of all its messages. -/
theorem forall_message_converse {holds : Message → Prop} (begins : holds message)
    (keeps : ∀ {message next : Message} {head : Http.Head}, holds message →
      message.next? library head = some next → next.url.isWeb = true → holds next) :
    ∀ exchange ∈ (client.converse library record room message servers).exchanges,
      holds exchange.message := by
  fun_induction converse client library record room message servers with
  | case1 | case2 => exact List.forall_mem_nil _
  | case3 | case4 | case6 => exact List.forall_mem_singleton.mpr begins
  | case5 message arrival servers exchange next room leads isWeb others inductionHypothesis =>
      refine List.forall_mem_cons.mpr ⟨begins, inductionHypothesis ?_⟩
      obtain ⟨head, ledTo⟩ := exists_next?_of_exchange leads
      exact keeps begins ledTo isWeb

theorem exchanges_upsert_of_ok (servers : List Server)
    (delivered : client.deliver library record = .ok message) :
    (client.upsert library servers record).exchanges =
      (client.converse library record maxRedirects message servers).exchanges := by
  simp only [upsert, delivered]

theorem exchanges_upsert_of_error (servers : List Server) {fault : Fault}
    (failed : client.deliver library record = .error fault) :
    (client.upsert library servers record).exchanges = [] := by
  simp only [upsert, failed]

/-- The first message of an update is its own. -/
theorem deliver_of_exchanges_upsert {first : Exchange} {others : List Exchange}
    (sent : (client.upsert library servers record).exchanges = first :: others) :
    client.deliver library record = .ok first.message := by
  cases delivered : client.deliver library record with
  | error fault =>
      rw [exchanges_upsert_of_error servers delivered] at sent
      contradiction
  | ok message =>
      rw [exchanges_upsert_of_ok servers delivered] at sent
      have begins := congrArg List.head? sent
      rw [message_head?_converse first begins]

section

variable (client library record servers)

theorem led_upsert : Led library (client.upsert library servers record).exchanges := by
  cases delivered : client.deliver library record with
  | error fault =>
      rw [exchanges_upsert_of_error servers delivered]
      exact .nil
  | ok message =>
      rw [exchanges_upsert_of_ok servers delivered]
      exact led_converse

theorem length_upsert_le :
    (client.upsert library servers record).exchanges.length ≤ maxRedirects + 1 := by
  cases delivered : client.deliver library record with
  | error fault =>
      rw [exchanges_upsert_of_error servers delivered]
      exact Nat.zero_le _
  | ok message =>
      rw [exchanges_upsert_of_ok servers delivered]
      exact length_converse_le

theorem forall_message_upsert (holds : Message → Prop)
    (begins : ∀ message, client.deliver library record = .ok message → holds message)
    (keeps : ∀ {message next : Message} {head : Http.Head}, holds message →
      message.next? library head = some next → next.url.isWeb = true → holds next) :
    ∀ exchange ∈ (client.upsert library servers record).exchanges, holds exchange.message := by
  cases delivered : client.deliver library record with
  | error fault =>
      rw [exchanges_upsert_of_error servers delivered]
      exact List.forall_mem_nil _
  | ok message =>
      rw [exchanges_upsert_of_ok servers delivered]
      exact forall_message_converse (begins message delivered) keeps

end

/-! ## What goes along -/

theorem isWith_iff (url other : Url) : url.isWith other = true ↔
    url.host.map Url.Host.text = other.host.map Url.Host.text ∧ url.knownPort? = other.knownPort? := by
  rw [Url.isWith, Bool.and_eq_true, decide_eq_true_eq, decide_eq_true_eq]

/-- The authorizations of the message have come along from another one, or none have. -/
def Message.Retains (message first : Message) : Prop :=
  message.authorizations = [] ∨
    message.authorizations = first.authorizations ∧ message.url.isWith first.url = true

theorem Message.Retains.refl (message : Message) : message.Retains message :=
  .inr ⟨rfl, (isWith_iff _ _).mpr ⟨rfl, rfl⟩⟩

theorem Message.Retains.next {first message next : Message} {head : Http.Head}
    (retains : message.Retains first) (leads : message.next? library head = some next) :
    next.Retains first := by
  obtain ⟨-, reference, url, -, rfl⟩ := exists_goTo_of_next? leads
  cases stays : url.isWith message.url with
  | false => exact .inl (by simp [goTo, stays])
  | true =>
      have kept : (message.goTo head.status url).authorizations = message.authorizations := by
        simp [goTo, stays]
      rcases retains with none | ⟨same, isWith⟩
      · exact .inl (kept.trans none)
      · obtain ⟨host, port⟩ := (isWith_iff _ _).mp stays
        obtain ⟨firstHost, firstPort⟩ := (isWith_iff _ _).mp isWith
        exact .inr ⟨kept.trans same,
          (isWith_iff _ _).mpr ⟨host.trans firstHost, port.trans firstPort⟩⟩

/-- Authorizations go along with an update as long as it stays with its host and its port. -/
theorem retains_upsert {first : Exchange} {others : List Exchange}
    (sent : (client.upsert library servers record).exchanges = first :: others) :
    ∀ exchange ∈ others, exchange.message.Retains first.message := by
  have retains := forall_message_upsert client library record servers (·.Retains first.message) ?_
    fun retains leads _ => retains.next leads
  · rw [sent] at retains
    exact (List.forall_mem_cons.mp retains).2
  · intro message delivered
    cases (deliver_of_exchanges_upsert sent).symm.trans delivered
    exact .refl _

end AddressWatch.RecordClient
