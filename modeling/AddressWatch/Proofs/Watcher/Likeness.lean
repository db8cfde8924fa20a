import AddressWatch.Proofs.Watcher.Poll
import AddressWatch.Watcher.Correspondence

/-!
# Watchers and worlds that are alike

Two worlds are alike when they give the same answers in related states and stay related.  Two watchers
that differ in the token cannot tell such worlds apart, and show the same in them: the step is a single
poll, the loop follows from it by its own recursion, and sequences of operations from both.
-/

namespace AddressWatch.Watcher

variable {σ τ : Type}

/-- The worlds give the same answers in related states, and then are in related states again. -/
structure World.Alike (related : σ → τ → Prop) (world : World σ) (other : World τ) : Prop where
  describe_eq : ∀ {state otherState}, related state otherState →
    other.describe otherState = world.describe state
  clientName_eq : other.clientName = world.clientName
  look : ∀ {state otherState}, related state otherState →
    (other.look otherState).1 = (world.look state).1 ∧
      related (world.look state).2 (other.look otherState).2
  push : ∀ {state otherState}, related state otherState → ∀ record,
    (other.push otherState record).1 = (world.push state record).1 ∧
      related (world.push state record).2 (other.push otherState record).2

/-- The watcher with another token. -/
def withToken (watcher : Watcher) (token : String) (given : token ≠ "") : Watcher where
  config := { watcher.config with token }
  accepted := by
    have checked := watcher.config.accepted_iff_checked.mp watcher.accepted
    exact (Config.accepted_iff_checked _).mpr { checked with token_ne_empty := given }
  lastAccepted := watcher.lastAccepted
  channel := watcher.channel

/-- The polls differ in nothing but the states of the world, which are related. -/
structure Poll.Alike (related : σ → τ → Prop) (poll : Poll σ) (other : Poll τ) : Prop where
  eq : other = { poll with afterLook := other.afterLook, afterPush := other.afterPush }
  afterLook : related poll.afterLook other.afterLook
  afterPush : related poll.afterPush other.afterPush

structure Loop.Alike (related : σ → τ → Prop) (token : String) (given : token ≠ "")
    (loop : Loop σ) (other : Loop τ) : Prop where
  turns_eq : other.turns = loop.turns
  ended_eq : other.ended = loop.ended
  watcher_eq : other.watcher = loop.watcher.withToken token given
  state : related loop.state other.state

/-- The sessions differ in the token and in the states of the world, which are related. -/
structure Session.Alike (related : σ → τ → Prop) (token : String) (given : token ≠ "")
    (session : Session σ) (other : Session τ) : Prop where
  watcher_eq : other.watcher = session.watcher.withToken token given
  state : related session.state other.state

variable {related : σ → τ → Prop} {token : String} {given : token ≠ ""} {world : World σ}
  {other : World τ}

/-- The token has no part in a poll. -/
theorem poll_withToken (watcher : Watcher) (state : σ) :
    (watcher.withToken token given).poll world state = watcher.poll world state := rfl

theorem World.Alike.poll (alike : world.Alike related other) (watcher : Watcher) {state : σ}
    {otherState : τ} (states : related state otherState) :
    (watcher.poll world state).Alike related (watcher.poll other otherState) := by
  obtain ⟨answer, afterLook⟩ := alike.look states
  cases finding : watcher.judge (world.look state).1.result with
  | missing | malformed | same =>
      constructor <;> simp only [Watcher.poll, answer, finding] <;> exact afterLook
  | changed address =>
      obtain ⟨outcome, afterPush⟩ := alike.push afterLook (watcher.recordFor address)
      have name := alike.clientName_eq
      constructor
      · simp only [Watcher.poll, answer, finding, outcome, name]
      · simp only [Watcher.poll, answer, finding]
        exact afterLook
      · simp only [Watcher.poll, answer, finding]
        exact afterPush

variable (given) in
/-- What a loop in the other world begins with. -/
theorem World.Alike.poll_withToken_eq (alike : world.Alike related other) (watcher : Watcher)
    {state : σ} {otherState : τ} (states : related state otherState) :
    (watcher.withToken token given).poll other otherState =
      { watcher.poll world state with
        afterLook := (watcher.poll other otherState).afterLook
        afterPush := (watcher.poll other otherState).afterPush } :=
  (poll_withToken watcher otherState).trans (alike.poll watcher states).eq

variable (given) in
theorem World.Alike.turnsFrom (alike : world.Alike related other) (deadline now : Nat)
    (watcher : Watcher) (state : σ) {otherState : τ} (states : related state otherState) :
    (Watcher.turnsFrom world deadline now watcher state).Alike related token given
      (Watcher.turnsFrom other deadline now (watcher.withToken token given) otherState) := by
  revert otherState
  -- The loop in the other world takes the same branch each time: this depends on the poll alone.
  fun_induction Watcher.turnsFrom world deadline now watcher state with
  | case1 now watcher state late =>
      intro otherState states
      rw [turnsFrom_of_le other late]
      exact ⟨rfl, rfl, rfl, states⟩
  | case2 now watcher state early poll turn =>
      rename_i unanswered
      intro otherState states
      have polls := alike.poll watcher states
      have unfolded : Watcher.turnsFrom other deadline now (watcher.withToken token given) otherState =
          ⟨[turn], deadline, watcher.withToken token given,
            (watcher.poll other otherState).afterLook⟩ := by
        rw [Watcher.turnsFrom, if_neg early, alike.poll_withToken_eq given watcher states]
        exact if_pos unanswered
      rw [unfolded]
      exact ⟨rfl, rfl, rfl, polls.afterLook⟩
  | case3 now watcher state early poll turn answered =>
      rename_i unsettled
      intro otherState states
      have polls := alike.poll watcher states
      have unfolded : Watcher.turnsFrom other deadline now (watcher.withToken token given) otherState =
          ⟨[turn], deadline, watcher.withToken token given,
            (watcher.poll other otherState).afterPush⟩ := by
        rw [Watcher.turnsFrom, if_neg early, alike.poll_withToken_eq given watcher states]
        exact (if_neg answered).trans (if_pos unsettled)
      rw [unfolded]
      exact ⟨rfl, rfl, rfl, polls.afterPush⟩
  | case4 now watcher state early poll turn next answered settled =>
      rename_i late
      intro otherState states
      have polls := alike.poll watcher states
      have unfolded : Watcher.turnsFrom other deadline now (watcher.withToken token given) otherState =
          ⟨[turn], deadline, (watcher.finish poll).withToken token given,
            (watcher.poll other otherState).afterPush⟩ := by
        rw [Watcher.turnsFrom, if_neg early, alike.poll_withToken_eq given watcher states]
        exact (if_neg answered).trans ((if_neg settled).trans (if_pos late))
      rw [unfolded]
      exact ⟨rfl, rfl, rfl, polls.afterPush⟩
  | case5 now watcher state early poll turn next answered settled paused =>
      rename_i inductionHypothesis
      intro otherState states
      have polls := alike.poll watcher states
      have unfolded : Watcher.turnsFrom other deadline now (watcher.withToken token given) otherState =
          (Watcher.turnsFrom other deadline next ((watcher.finish poll).withToken token given)
            (watcher.poll other otherState).afterPush).after turn := by
        rw [Watcher.turnsFrom, if_neg early, alike.poll_withToken_eq given watcher states]
        exact (if_neg answered).trans ((if_neg settled).trans (if_neg paused))
      have rest := inductionHypothesis polls.afterPush
      rw [unfolded]
      exact ⟨congrArg (turn :: ·) rest.turns_eq, rest.ended_eq, rest.watcher_eq, rest.state⟩

variable (given) in
/-- A run shows the same in both worlds, and leaves its watcher and the world alike. -/
theorem World.Alike.run (alike : world.Alike related other) (watcher : Watcher) {state : σ}
    {otherState : τ} (states : related state otherState) (deadline : Nat) :
    let run := watcher.run world deadline state
    let otherRun := (watcher.withToken token given).run other deadline otherState
    otherRun = ⟨run.opening, run.turns, run.closing, run.ended,
        run.watcher.withToken token given, otherRun.state⟩ ∧
      related run.state otherRun.state := by
  have loops := alike.turnsFrom given deadline 0 (watcher.emit watcher.startEvent) state states
  refine ⟨?_, loops.state⟩
  -- The other loop begins after the first message, which does not show the token.
  let otherLoop := Watcher.turnsFrom other deadline 0
    ((watcher.emit watcher.startEvent).withToken token given) otherState
  change Run.mk (watcher.startLog (other.describe otherState) ++ watcher.channel.sendLog)
    otherLoop.turns (stopEntry :: otherLoop.watcher.channel.sendLog) otherLoop.ended
    (otherLoop.watcher.emit stopEvent) otherLoop.state = _
  rw [alike.describe_eq states, loops.turns_eq, loops.ended_eq, loops.watcher_eq]
  rfl

namespace Session

variable {session : Session σ} {otherSession : Session τ}

/-- Each operation shows the same in both sessions and leaves them alike. -/
theorem Alike.perform (sessions : session.Alike related token given otherSession)
    (alike : world.Alike related other) (operation : Operation) :
    (otherSession.perform other operation).1.display = (session.perform world operation).1.display ∧
      (session.perform world operation).2.Alike related token given
        (otherSession.perform other operation).2 := by
  obtain ⟨watcher, state⟩ := session
  obtain ⟨otherWatcher, otherState⟩ := otherSession
  obtain ⟨rfl, states⟩ := sessions
  cases operation with
  | poll =>
      have polls := alike.poll watcher states
      have same := alike.poll_withToken_eq given watcher states
      refine ⟨?_, ?_, polls.afterPush⟩
      · exact congrArg (fun poll => (Report.polled poll (watcher.pollLog poll)).display) same
      · exact congrArg (watcher.withToken token given).finish same
  | run deadline =>
      obtain ⟨same, ending⟩ := alike.run given watcher states deadline
      refine ⟨?_, ?_, ending⟩
      · exact congrArg (fun run => (Report.ran run).display) same
      · exact congrArg Run.watcher same
  | receive | leave => exact ⟨rfl, rfl, states⟩

theorem Alike.performAll (sessions : session.Alike related token given otherSession)
    (alike : world.Alike related other) (operations : List Operation) :
    (otherSession.performAll other operations).1.map Report.display =
        (session.performAll world operations).1.map Report.display ∧
      (session.performAll world operations).2.Alike related token given
        (otherSession.performAll other operations).2 := by
  induction operations generalizing session otherSession with
  | nil => exact ⟨rfl, sessions⟩
  | cons operation rest inductionHypothesis =>
      obtain ⟨shown, next⟩ := sessions.perform alike operation
      obtain ⟨shownLater, last⟩ := inductionHypothesis next
      refine ⟨?_, last⟩
      simp only [Session.performAll, List.map_cons, shown, shownLater]

end Session

end AddressWatch.Watcher
