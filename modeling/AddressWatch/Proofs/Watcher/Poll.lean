import AddressWatch.Watcher.Poll

/-!
What a single poll does.  It either sends nothing and leaves the memory of the watcher as it is, or it
sends one update with a valid new address; `poll_cases` says so, and the other statements follow
from it.
-/

namespace AddressWatch.Watcher

variable {σ : Type}

/-- An answer calls for an update when it is a valid address that the watcher does not remember. -/
theorem judge_eq_changed_iff (watcher : Watcher) (answer : Except Error String) (address : String) :
    watcher.judge answer = .changed address ↔
      answer = .ok address ∧ Address.isValid address watcher.config.family = true ∧
        address ≠ watcher.lastAccepted := by
  cases answer with
  | error error => simp [judge]
  | ok candidate =>
      by_cases valid : Address.isValid candidate watcher.config.family = true
      · by_cases same : candidate = watcher.lastAccepted
        · have kept : watcher.judge (.ok candidate) = .same candidate := by
            simp [judge, valid, ← same]
          grind
        · have sent : watcher.judge (.ok candidate) = .changed candidate := by
            simp [judge, valid, same]
          grind
      · have refused : watcher.judge (.ok candidate) = .malformed candidate := by
          simp [judge, valid]
        grind

@[simp]
theorem look_poll (watcher : Watcher) (world : World σ) (state : σ) :
    (watcher.poll world state).look = (world.look state).1 := by
  cases finding : watcher.judge (world.look state).1.result <;> simp only [poll, finding]

theorem afterLook_poll (watcher : Watcher) (world : World σ) (state : σ) :
    (watcher.poll world state).afterLook = (world.look state).2 := by
  cases finding : watcher.judge (world.look state).1.result <;> simp only [poll, finding]

/-- A poll leaves the world as it is after the last thing that was done in it. -/
theorem afterPush_poll (watcher : Watcher) (world : World σ) (state : σ) :
    (watcher.poll world state).afterPush =
      match watcher.recordOf? (watcher.judge (world.look state).1.result) with
      | some record => (world.push (world.look state).2 record).2
      | none => (world.look state).2 := by
  cases finding : watcher.judge (world.look state).1.result <;>
    simp only [poll, finding, recordOf?]

/-- A poll that sends nothing. -/
structure Poll.IsIdle (watcher : Watcher) (poll : Poll σ) : Prop where
  unchanged : ∀ address, watcher.judge poll.look.result ≠ .changed address
  push_eq : poll.push = none
  lastAccepted_eq : poll.lastAccepted = watcher.lastAccepted
  transition?_eq : poll.transition? = none

/-- A poll that sends an address, with the act of sending it. -/
structure Poll.Sends (watcher : Watcher) (poll : Poll σ) (address : String) (act : Act Outcome) :
    Prop where
  changed : watcher.judge poll.look.result = .changed address
  push_eq : poll.push = some (watcher.recordFor address, act)
  lastAccepted_eq : poll.lastAccepted = watcher.settle address act.result
  event_eq : poll.event = watcher.outcomeEvent address act.result

/-- All that a poll can do. -/
theorem poll_cases (watcher : Watcher) (world : World σ) (state : σ) :
    (watcher.poll world state).IsIdle watcher ∨
      ∃ address, (watcher.poll world state).Sends watcher address
        (world.push (world.look state).2 (watcher.recordFor address)).1 := by
  cases finding : watcher.judge (world.look state).1.result with
  | missing | malformed | same =>
      left
      constructor <;> simp [poll, finding, Poll.transition?, Event.transition?]
  | changed address =>
      right
      refine ⟨address, ?_⟩
      constructor <;> simp [poll, finding]

theorem Poll.IsIdle.update?_eq {watcher : Watcher} {poll : Poll σ} (idle : poll.IsIdle watcher) :
    poll.update? = none := by
  simp [Poll.update?, idle.push_eq]

theorem Poll.IsIdle.applied?_eq {watcher : Watcher} {poll : Poll σ} (idle : poll.IsIdle watcher) :
    poll.applied? = none := by
  simp [Poll.applied?, idle.update?_eq]

theorem Poll.Sends.update?_eq {watcher : Watcher} {poll : Poll σ} {address : String}
    {act : Act Outcome} (sends : poll.Sends watcher address act) :
    poll.update? = some ⟨watcher.recordFor address, some act.result⟩ := by
  simp [Poll.update?, sends.push_eq]

theorem Poll.Sends.applied?_eq {watcher : Watcher} {poll : Poll σ} {address : String}
    {act : Act Outcome} (sends : poll.Sends watcher address act) :
    poll.applied? = if act.result.isApplied then some address else none := by
  simp [Poll.applied?, sends.update?_eq, Update.applied?, recordFor]

theorem applied?_poll_eq_some_iff (watcher : Watcher) (world : World σ) (state : σ)
    (address : String) :
    (watcher.poll world state).applied? = some address ↔
      watcher.judge (world.look state).1.result = .changed address ∧
        (world.push (world.look state).2 (watcher.recordFor address)).1.result.isApplied = true := by
  rcases watcher.poll_cases world state with idle | ⟨sent, sends⟩
  · rw [idle.applied?_eq, ← look_poll watcher]
    constructor
    · intro applied
      contradiction
    · rintro ⟨changed, _⟩
      exact absurd changed (idle.unchanged address)
  · rw [sends.applied?_eq, ← look_poll watcher, sends.changed, Option.ite_none_right_eq_some]
    constructor
    · rintro ⟨applied, sentEquality⟩
      cases sentEquality
      exact ⟨rfl, applied⟩
    · rintro ⟨changed, applied⟩
      cases changed
      exact ⟨applied, rfl⟩

/-- Only an update that the API has taken moves the memory. -/
theorem lastAccepted_poll (watcher : Watcher) (world : World σ) (state : σ) :
    (watcher.poll world state).lastAccepted =
      (watcher.poll world state).applied?.getD watcher.lastAccepted := by
  rcases watcher.poll_cases world state with idle | ⟨address, sends⟩
  · rw [idle.lastAccepted_eq, idle.applied?_eq, Option.getD_none]
  · rw [sends.lastAccepted_eq, sends.applied?_eq, settle]
    split <;> rfl

/-- The message of a poll reports a change exactly when the memory has moved. -/
theorem transition?_poll (watcher : Watcher) (world : World σ) (state : σ) :
    (watcher.poll world state).transition? =
      (watcher.poll world state).applied?.map (watcher.lastAccepted, ·) := by
  rcases watcher.poll_cases world state with idle | ⟨address, sends⟩
  · rw [idle.transition?_eq, idle.applied?_eq, Option.map_none]
  · rw [Poll.transition?, sends.event_eq, sends.applied?_eq, outcomeEvent]
    split <;> rfl

/-- A poll sends the record that its finding calls for, and nothing else. -/
theorem record?_poll (watcher : Watcher) (world : World σ) (state : σ) :
    (watcher.poll world state).record? =
      watcher.recordOf? (watcher.judge (world.look state).1.result) := by
  rcases watcher.poll_cases world state with idle | ⟨address, sends⟩
  · have unchanged := idle.unchanged
    rw [look_poll] at unchanged
    rw [Poll.record?, idle.push_eq, Option.map_none]
    cases finding : watcher.judge (world.look state).1.result with
    | changed address => exact absurd finding (unchanged address)
    | missing | malformed | same => rfl
  · have changed := sends.changed
    rw [look_poll] at changed
    rw [Poll.record?, sends.push_eq, changed]
    rfl

theorem record?_poll_eq_some_iff (watcher : Watcher) (world : World σ) (state : σ)
    (record : Record) :
    (watcher.poll world state).record? = some record ↔
      ∃ address, (world.look state).1.result = .ok address ∧
        Address.isValid address watcher.config.family = true ∧
        address ≠ watcher.lastAccepted ∧ record = watcher.recordFor address := by
  rw [record?_poll]
  constructor
  · intro sent
    cases finding : watcher.judge (world.look state).1.result with
    | changed address =>
        obtain ⟨answer, valid, fresh⟩ := (watcher.judge_eq_changed_iff _ _).mp finding
        rw [finding] at sent
        exact ⟨address, answer, valid, fresh, (Option.some.inj sent).symm⟩
    | missing | malformed | same => simp [finding, recordOf?] at sent
  · rintro ⟨address, answer, valid, fresh, rfl⟩
    rw [(watcher.judge_eq_changed_iff _ _).mpr ⟨answer, valid, fresh⟩]
    rfl

/-- An address is reported missing exactly when the host gives an error, and the report carries it. -/
theorem event_poll_eq_addressMissing_iff (watcher : Watcher) (world : World σ) (state : σ)
    (reason : String) (environment : Bool) :
    (watcher.poll world state).event = .addressMissing reason environment ↔
      ∃ error, (world.look state).1.result = .error error ∧ error.message = reason ∧
        error.isEnvironment = environment := by
  cases answer : (world.look state).1.result with
  | error error => simp [poll, judge, answer]
  | ok candidate =>
      simp only [reduceCtorEq, false_and, exists_false, iff_false]
      cases finding : watcher.judge (world.look state).1.result with
      | missing error =>
          rw [answer, judge] at finding
          split at finding
          · contradiction
          · split at finding <;> contradiction
      | malformed | same => simp [poll, finding]
      | changed address =>
          simp only [poll, finding, outcomeEvent]
          split <;> simp

/-- A poll that is given an error does nothing more and remembers what it did. -/
theorem isIdle_poll_of_error {watcher : Watcher} {world : World σ} {state : σ} {error : Error}
    (failed : (world.look state).1.result = .error error) :
    (watcher.poll world state).IsIdle watcher := by
  rcases watcher.poll_cases world state with idle | ⟨address, sends⟩
  · exact idle
  · have changed := sends.changed
    rw [look_poll, failed] at changed
    contradiction

/-- An update carries the answer that its poll was given. -/
theorem answered_of_update? {watcher : Watcher} {world : World σ} {state : σ} {update : Update}
    (sent : (watcher.poll world state).update? = some update) :
    (world.look state).1.result = .ok update.record.value ∧
      Address.isValid update.record.value watcher.config.family = true ∧
      update.record.value ≠ watcher.lastAccepted ∧
      update.record = watcher.recordFor update.record.value := by
  have recorded := congrArg (Option.map Update.record) sent
  rw [Poll.map_record_update?, Option.map_some, record?_poll_eq_some_iff] at recorded
  obtain ⟨address, answer, valid, fresh, recordEquality⟩ := recorded
  rw [recordEquality]
  exact ⟨answer, valid, fresh, rfl⟩

end AddressWatch.Watcher
