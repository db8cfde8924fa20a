import AddressWatch.Proofs.Watcher.Cancellation

/-!
# What a watcher publishes

The invariant ties the memory of a watcher to the updates it has sent: they lead from one memory to the
next, and each of them fits the settings and the memory it was sent from.  It is kept by a single poll,
hence by polls in sequence, hence by a run, which is such a sequence with at most one update more, and
hence by whatever is done with a watcher.
-/

namespace AddressWatch

/-- The record is the one that the settings ask for, and its address is new. -/
structure Record.Fits (record : Record) (config : Config) (remembered : String) : Prop where
  name_eq : record.name = config.recordName
  name_terminated : record.name.toList.getLast? = some '.'
  ttl_eq : record.ttl = config.ttl
  ttl_ge : 60 ≤ record.ttl.toNat
  ttl_le : record.ttl.toNat ≤ 86400
  type_a_iff : record.type = .a ↔ config.family = .ipv4
  type_aaaa_iff : record.type = .aaaa ↔ config.family = .ipv6
  valid_iff : ∀ family, Address.isValid record.value family = true ↔ family = config.family
  fresh : record.value ≠ remembered

namespace Watcher

variable {σ : Type}

theorem fits_recordFor (watcher : Watcher) {address : String}
    (valid : Address.isValid address watcher.config.family = true)
    (fresh : address ≠ watcher.lastAccepted) :
    (watcher.recordFor address).Fits watcher.config watcher.lastAccepted := by
  have checked := watcher.config.accepted_iff_checked.mp watcher.accepted
  constructor
  · rfl
  · exact checked.recordName_terminated
  · rfl
  · exact checked.minTtl_le
  · exact checked.le_maxTtl
  · change watcher.config.family.recordType = _ ↔ _
    cases watcher.config.family <;> decide
  · change watcher.config.family.recordType = _ ↔ _
    cases watcher.config.family <;> decide
  · exact Address.isValid_iff_eq valid
  · exact fresh

theorem fits_of_update? (watcher : Watcher) (world : World σ) (state : σ) {update : Update}
    (sent : (watcher.poll world state).update? = some update) :
    update.record.Fits watcher.config watcher.lastAccepted := by
  obtain ⟨_, valid, fresh, recordEquality⟩ := answered_of_update? sent
  rw [recordEquality]
  exact watcher.fits_recordFor valid fresh

/-- Updates that lead from one memory to another. -/
inductive Lead (config : Config) : (first : String) → List Update → (last : String) → Prop where
  | nil {remembered} : Lead config remembered [] remembered
  | cons {remembered update rest last} :
      update.record.Fits config remembered →
      Lead config (update.applied?.getD remembered) rest last →
      Lead config remembered (update :: rest) last

namespace Lead

variable {config : Config} {first middle last : String} {updates more : List Update}

theorem append (leads : Lead config first updates middle) (leadsOn : Lead config middle more last) :
    Lead config first (updates ++ more) last := by
  induction leads with
  | nil => exact leadsOn
  | cons fits _ inductionHypothesis => exact .cons fits (inductionHypothesis leadsOn)

theorem fits (leads : Lead config first updates last) {before after : List Update} {update : Update}
    (position : updates = before ++ update :: after) :
    update.record.Fits config ((before.filterMap Update.applied?).getLastD first) := by
  induction before generalizing first updates with
  | nil =>
      subst position
      cases leads with
      | cons fits _ => exact fits
  | cons head before inductionHypothesis =>
      subst position
      cases leads with
      | cons _ leadsOn =>
          rw [getLastD_filterMap_cons]
          exact inductionHypothesis leadsOn rfl

/-- A memory that is empty or valid stays so. -/
theorem empty_or_valid (leads : Lead config first updates last)
    (before : first = "" ∨ Address.isValid first config.family = true) :
    last = "" ∨ Address.isValid last config.family = true := by
  induction leads with
  | nil => exact before
  | @cons remembered update rest last fits _ inductionHypothesis =>
      apply inductionHypothesis
      unfold Update.applied?
      split
      · exact Or.inr ((fits.valid_iff _).mpr rfl)
      · exact before

end Lead

/-- The updates of a poll, of polls in sequence, of a run and of any operations lead from the memory
before to the memory after. -/
theorem lead_poll (watcher : Watcher) (world : World σ) (state : σ) :
    Lead watcher.config watcher.lastAccepted (watcher.poll world state).update?.toList
      (watcher.poll world state).lastAccepted := by
  rw [lastAccepted_poll, Poll.applied?]
  cases sent : (watcher.poll world state).update? with
  | none => exact .nil
  | some update => exact .cons (watcher.fits_of_update? world state sent) .nil

namespace Session

theorem lead_polls (world : World σ) (session : Session σ) (count : Nat) :
    Lead session.watcher.config session.watcher.lastAccepted
      ((session.polls world count).filterMap Poll.update?)
      (session.afterPolls world count).watcher.lastAccepted := by
  induction count generalizing session with
  | zero => exact .nil
  | succ count inductionHypothesis =>
      have first := session.watcher.lead_poll world session.state
      have both := first.append (inductionHypothesis (session.afterPoll world))
      rw [polls_succ, List.filterMap_cons]
      change Lead _ _ ((session.nextPoll world).update?.toList ++ _) _ at both
      cases sent : (session.nextPoll world).update? with
      | none => rwa [sent] at both
      | some update => rwa [sent] at both

end Session

theorem lead_run (watcher : Watcher) (world : World σ) (deadline : Nat) (state : σ) :
    Lead watcher.config watcher.lastAccepted
      (Report.ran (watcher.run world deadline state)).updates
      (watcher.run world deadline state).watcher.lastAccepted := by
  obtain ⟨begun, completed, follows⟩ := watcher.run_follows world deadline state
  let session : Session σ := ⟨watcher, state⟩
  have updates : (Report.ran (watcher.run world deadline state)).updates = _ := follows.updates_eq
  rw [Session.polls_withChannel, Session.pollAt_withChannel] at updates
  rw [updates, watcher_run follows]
  change Lead _ _ _ (session.afterPolls world completed).watcher.lastAccepted
  apply (session.lead_polls world completed).append
  split
  · -- The update that is cut short fits what is remembered, and changes nothing.
    cases sent : (session.pollAt world completed).update? with
    | none => exact .nil
    | some update =>
        have fits := (session.afterPolls world completed).watcher.fits_of_update? world _ sent
        rw [Session.config_afterPolls] at fits
        exact .cons fits .nil
  · exact .nil

namespace Session

@[simp]
theorem config_perform (world : World σ) (session : Session σ) (operation : Operation) :
    (session.perform world operation).2.watcher.config = session.watcher.config := by
  cases operation with
  | run deadline =>
      obtain ⟨begun, completed, follows⟩ :=
        session.watcher.run_follows world deadline session.state
      have config := congrArg Watcher.config (watcher_run follows)
      exact config.trans (Session.config_afterPolls world session completed)
  | poll | receive | leave => rfl

theorem lead_perform (world : World σ) (session : Session σ) (operation : Operation) :
    Lead session.watcher.config session.watcher.lastAccepted
      (session.perform world operation).1.updates
      (session.perform world operation).2.watcher.lastAccepted := by
  cases operation with
  | poll => exact session.watcher.lead_poll world session.state
  | run deadline => exact session.watcher.lead_run world deadline session.state
  | receive | leave => exact .nil

theorem lead_performAll (world : World σ) (session : Session σ) (operations : List Operation) :
    Lead session.watcher.config session.watcher.lastAccepted
      ((session.performAll world operations).1.flatMap Report.updates)
      (session.performAll world operations).2.watcher.lastAccepted := by
  induction operations generalizing session with
  | nil => exact .nil
  | cons operation rest inductionHypothesis =>
      have leadsOn := inductionHypothesis (session.perform world operation).2
      rw [config_perform] at leadsOn
      exact (session.lead_perform world operation).append leadsOn

end Session

/-- Whatever is done with a new watcher, in whatever order and whatever the host and the API answer: it
remembers no address or a valid one, and each record it sends is the one its settings ask for, with an
address of the wanted family that is not the last one that the API is known to have taken. -/
theorem published_records_fit {config : Config} {reported : Family} {watcher : Watcher}
    (made : new config reported = .ok watcher) (world : World σ) (state : σ)
    (operations : List Operation) :
    let (reports, last) := (⟨watcher, state⟩ : Session σ).performAll world operations
    (last.watcher.lastAccepted = "" ∨
      Address.isValid last.watcher.lastAccepted config.family = true) ∧
    ∀ before update after, reports.flatMap Report.updates = before ++ update :: after →
      update.record.Fits config ((before.filterMap Update.applied?).getLastD "") := by
  obtain ⟨accepted, rfl, rfl⟩ := (new_eq_ok_iff _ _ _).mp made
  have leads := (⟨⟨config, accepted, "", .empty⟩, state⟩ : Session σ).lead_performAll world operations
  constructor
  · exact leads.empty_or_valid (Or.inl rfl)
  · intro before update after position
    exact leads.fits position

def officeSettings : Config where
  interface := "eth0"
  recordName := "office.example.org."
  token := "secret"
  family := .ipv6

/-- The host has a new address in each round, and the API takes the first one only. -/
def renumberedRounds (index : Nat) : Round where
  look := .done (.ok ("2001:db8::" ++ Text.decimal (index + 1)))
  push := .done (if index = 0 then .applied 200 else .unreachable "refused")

theorem published_records_fit_renumbered_host :
    ∃ watcher, new officeSettings .ipv6 = .ok watcher ∧
      ((⟨watcher, 0⟩ : Session Nat).performAll (World.ofRounds "commands" "rest" renumberedRounds)
        [.poll, .receive 1, .poll, .leave, .poll]).1.flatMap Report.updates = [
          ⟨watcher.recordFor "2001:db8::1", some (.applied 200)⟩,
          ⟨watcher.recordFor "2001:db8::2", some (.unreachable "refused")⟩,
          ⟨watcher.recordFor "2001:db8::3", some (.unreachable "refused")⟩] ∧
      (watcher.recordFor "2001:db8::3").Fits officeSettings "2001:db8::1" := by
  have made : new officeSettings .ipv6 = .ok ⟨officeSettings, by decide, "", .empty⟩ :=
    (new_eq_ok_iff _ _ _).mpr ⟨by decide, rfl, rfl⟩
  have published := published_records_fit made (World.ofRounds "commands" "rest" renumberedRounds) 0
    [.poll, .receive 1, .poll, .leave, .poll]
  refine ⟨_, made, by decide, ?_⟩
  exact published.2 [_, _] _ [] (by rfl)

end Watcher

end AddressWatch
