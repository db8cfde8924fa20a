import AddressWatch.Proofs.Watcher.Polls
import Mathlib.Data.List.Destutter

/-!
# Change detection over a whole history

In a world laid down round by round, the addresses that the API has taken are the confirmed ones with
repetitions in a row left out.  An empty memory stands for no address at all, and it cannot be mistaken
for one because the empty text is valid for neither family.
-/

namespace AddressWatch.Watcher

variable (source clientName : String) (rounds : Nat → Round)

/-- In a round the API takes the confirmed address, unless it is remembered. -/
theorem applied?_poll_ofRounds (watcher : Watcher) (begun : Nat) :
    (watcher.poll (World.ofRounds source clientName rounds) begun).applied? =
      ((rounds begun).confirmed? watcher.config.family).filter (· ≠ watcher.lastAccepted) := by
  ext address
  rw [applied?_poll_eq_some_iff, judge_eq_changed_iff, Option.filter_eq_some_iff,
    Round.confirmed?_eq_some_iff, decide_eq_true_iff]
  change ((rounds begun).look.result = _ ∧ _) ∧ (rounds begun).push.result.isApplied = true ↔ _
  constructor
  · rintro ⟨⟨answer, valid, fresh⟩, applied⟩
    exact ⟨⟨answer, valid, applied⟩, fresh⟩
  · rintro ⟨⟨answer, valid, applied⟩, fresh⟩
    exact ⟨⟨answer, valid, fresh⟩, applied⟩

namespace Session

/-- With the memory in front, what the API takes is what is confirmed, without repetitions in a row. -/
theorem applied_polls_ofRounds (session : Session Nat) (count : Nat) :
    session.watcher.lastAccepted ::
        (session.polls (World.ofRounds source clientName rounds) count).filterMap Poll.applied? =
      (((List.range' session.state count).map rounds).filterMap
        (Round.confirmed? session.watcher.config.family)).destutter' (· ≠ ·)
          session.watcher.lastAccepted := by
  have counts := World.countsPolls_ofRounds source clientName rounds
  induction count generalizing session with
  | zero => rfl
  | succ count inductionHypothesis =>
      have applied : (session.nextPoll (World.ofRounds source clientName rounds)).applied? = _ :=
        applied?_poll_ofRounds source clientName rounds session.watcher session.state
      have rest := inductionHypothesis
        (session.afterPoll (World.ofRounds source clientName rounds))
      rw [lastAccepted_afterPoll, counts.state_afterPoll] at rest
      rw [polls_succ, List.range'_succ, List.map_cons]
      cases confirmed : (rounds session.state).confirmed? session.watcher.config.family with
      | none =>
          rw [confirmed, Option.filter_none] at applied
          rw [applied, Option.getD_none] at rest
          rw [List.filterMap_cons_none applied, List.filterMap_cons_none confirmed]
          exact rest
      | some address =>
          rw [confirmed] at applied
          rw [List.filterMap_cons_some confirmed]
          by_cases repeated : address = session.watcher.lastAccepted
          · rw [Option.filter_some_neg (by simpa using repeated)] at applied
            rw [applied, Option.getD_none] at rest
            rw [List.filterMap_cons_none applied, List.destutter'_cons_neg _ (by simp [repeated])]
            exact rest
          · rw [Option.filter_some_pos (by simpa using repeated)] at applied
            rw [applied, Option.getD_some] at rest
            rw [List.filterMap_cons_some applied, List.destutter'_cons_pos _ (Ne.symm repeated)]
            exact congrArg _ rest

/-- An empty memory does not hide the first confirmed address. -/
theorem applied_polls_ofRounds_of_empty (session : Session Nat)
    (empty : session.watcher.lastAccepted = "") (count : Nat) :
    (session.polls (World.ofRounds source clientName rounds) count).filterMap Poll.applied? =
      (((List.range' session.state count).map rounds).filterMap
        (Round.confirmed? session.watcher.config.family)).destutter (· ≠ ·) := by
  have withMemory := session.applied_polls_ofRounds source clientName rounds count
  rw [empty] at withMemory
  cases confirmed : ((List.range' session.state count).map rounds).filterMap
      (Round.confirmed? session.watcher.config.family) with
  | nil =>
      rw [confirmed] at withMemory
      exact List.tail_eq_of_cons_eq withMemory
  | cons address rest =>
      have membership : address ∈ ((List.range' session.state count).map rounds).filterMap
          (Round.confirmed? session.watcher.config.family) := by
        rw [confirmed]
        exact List.mem_cons_self
      obtain ⟨round, _, confirmedThere⟩ := List.mem_filterMap.mp membership
      have valid := ((round.confirmed?_eq_some_iff _ _).mp confirmedThere).2.1
      have fresh : "" ≠ address := by
        rintro rfl
        simp at valid
      rw [confirmed, List.destutter'_cons_pos _ fresh] at withMemory
      exact List.tail_eq_of_cons_eq withMemory

/-- What a poll in a round sends. -/
theorem mem_sent_reportAt_ofRounds_iff (session : Session Nat) (index : Nat) (record : Record) :
    record ∈ (session.reportAt (World.ofRounds source clientName rounds) index).sent ↔
      ∃ address, (rounds (session.state + index)).look.result = .ok address ∧
        Address.isValid address session.watcher.config.family = true ∧
        address ≠ (session.afterPolls (World.ofRounds source clientName rounds)
          index).watcher.lastAccepted ∧
        record = session.watcher.recordFor address := by
  have counts := World.countsPolls_ofRounds source clientName rounds
  have sent := record?_poll_eq_some_iff
    (session.afterPolls (World.ofRounds source clientName rounds) index).watcher
    (World.ofRounds source clientName rounds)
    (session.afterPolls (World.ofRounds source clientName rounds) index).state record
  simp only [config_afterPolls, recordFor_afterPolls, counts.state_afterPolls] at sent
  change record ∈ (session.pollAt _ index).update?.toList.map Update.record ↔ _
  rw [← Option.toList_map, Poll.map_record_update?, Option.mem_toList, pollAt, nextPoll,
    counts.state_afterPolls]
  exact sent

end Session

/-- The addresses that the API takes from a new watcher are the confirmed ones without repetitions in a
row.  An update is sent in a poll when its answer is valid and is not the last address taken; that
address is what the watcher remembers, and the changes it reports lead from one to the next. -/
theorem polls_of_new_follow_confirmed_addresses {config : Config} (accepted : config.Accepted) :
    ∃ watcher, new config config.family = .ok watcher ∧ ∀ count,
      let session : Session Nat := ⟨watcher, 0⟩
      let (reports, last) := session.performAll (World.ofRounds source clientName rounds)
        (List.replicate count .poll)
      Report.applied reports =
        (((List.range count).map rounds).filterMap (Round.confirmed? config.family)).destutter
          (· ≠ ·) ∧
      (∀ index report, reports[index]? = some report → ∀ record, record ∈ report.sent ↔
        ∃ address, (rounds index).look.result = .ok address ∧
          Address.isValid address config.family = true ∧
          address ≠ (Report.applied (reports.take index)).getLastD "" ∧
          record = watcher.recordFor address) ∧
      last.watcher.lastAccepted = (Report.applied reports).getLastD "" ∧
      (reports.flatMap (Report.emitted watcher)).filterMap Event.transition? =
        ("" :: Report.applied reports).zip (Report.applied reports) := by
  refine ⟨⟨config, accepted, "", .empty⟩, (new_eq_ok_iff _ _ _).mpr ⟨accepted, rfl, rfl⟩, ?_⟩
  intro count session
  rw [Session.performAll_replicate_poll]
  simp only [Session.applied_map_reportAt, Session.emitted_map_reportAt]
  refine ⟨?_, ?_, ?_, ?_⟩
  · rw [List.range_eq_range']
    exact session.applied_polls_ofRounds_of_empty source clientName rounds rfl count
  · intro index report reached record
    obtain ⟨inReports, rfl⟩ := List.getElem?_eq_some_iff.mp reached
    have inRange : index < count := by simpa using inReports
    rw [← List.map_take, List.take_range, Nat.min_eq_left inRange.le, Session.applied_map_reportAt,
      List.getElem_map, List.getElem_range]
    have sent := session.mem_sent_reportAt_ofRounds_iff source clientName rounds index record
    rw [session.lastAccepted_afterPolls, Nat.zero_add] at sent
    exact sent
  · exact session.lastAccepted_afterPolls _ count
  · rw [List.filterMap_map]
    exact session.transitions_polls _ count

def homeSettings : Config where
  interface := "eth0"
  recordName := "home.example.org."
  token := "secret"

def homeWatcher : Watcher := ⟨homeSettings, by decide, "", .empty⟩

/-- Rounds without delays.  After the last of them the host gives no address. -/
def flappingRounds (index : Nat) : Round :=
  let answers : List (Except Error String × Outcome) := [
    (.ok "192.0.2.1", .applied 200),
    (.error (.noAddress "eth0"), .applied 200),
    (.ok "192.0.2.1", .applied 200),
    (.ok "not-an-ip", .applied 200),
    (.ok "192.0.2.2", .rejected 500 "busy"),
    (.ok "192.0.2.2", .applied 201),
    (.ok "192.0.2.1", .applied 200)]
  match answers[index]? with
  | some (answer, outcome) => ⟨.done answer, .done outcome⟩
  | none => ⟨.done (.error (.noAddress "eth0")), .done (.applied 200)⟩

theorem polls_of_new_follow_flapping_address :
    homeSettings.Accepted ∧ ∃ watcher, new homeSettings .ipv4 = .ok watcher ∧
      Report.applied ((⟨watcher, 0⟩ : Session Nat).performAll
        (World.ofRounds "commands" "rest" flappingRounds) (List.replicate 7 .poll)).1 =
          ["192.0.2.1", "192.0.2.2", "192.0.2.1"] := by
  have accepted : homeSettings.Accepted := by decide
  obtain ⟨watcher, made, followed⟩ :=
    polls_of_new_follow_confirmed_addresses "commands" "rest" flappingRounds accepted
  refine ⟨accepted, watcher, made, (followed 7).1.trans ?_⟩
  decide

end AddressWatch.Watcher
