import AddressWatch.Proofs.Watcher.Delivery
import AddressWatch.Watcher.Conduct

/-!
# What a watcher does does not depend on its listener

Two sessions that differ in nothing but the channel stay so: the operations of the listener change
nothing else, and those of the watcher are the same in both.
-/

namespace AddressWatch.Watcher

variable {σ : Type}

/-- Apart from its log, a turn does not depend on the watcher that makes the poll. -/
theorem move_turn (watcher other : Watcher) (deadline now : Nat) (poll : Poll σ) :
    (other.turn deadline now poll).move = (watcher.turn deadline now poll).move := rfl

namespace Session

variable (world : World σ) (session : Session σ) (channel : Channel Event)

theorem move_turnAt_withChannel (deadline now index : Nat) :
    ((session.withChannel channel).turnAt world deadline now index).move =
      (session.turnAt world deadline now index).move := by
  unfold turnAt
  rw [begins_withChannel, pollAt_withChannel, afterPolls_withChannel]
  exact move_turn _ _ _ _ _

end Session

theorem moves_turnsFrom_withChannel (world : World σ) (deadline now : Nat) (watcher : Watcher)
    (state : σ) (channel : Channel Event) :
    (turnsFrom world deadline now (watcher.withChannel channel) state).turns.map Turn.move =
      (turnsFrom world deadline now watcher state).turns.map Turn.move := by
  let session : Session σ := ⟨watcher, state⟩
  obtain ⟨_, _, follows⟩ := turnsFrom_follows world deadline now watcher state
  obtain ⟨_, _, otherFollows⟩ :=
    turnsFrom_follows world deadline now (watcher.withChannel channel) state
  -- Both loops follow their polls, so each of the turns can be compared on its own.
  apply List.ext_getElem?
  intro index
  have begins := session.begins_withChannel world channel now index
  have move := session.move_turnAt_withChannel world channel deadline now index
  rw [List.getElem?_map, List.getElem?_map, follows.getElem?_turns, otherFollows.getElem?_turns]
  change Option.map _ (if (session.withChannel channel).begins world now index < deadline then
    some ((session.withChannel channel).turnAt world deadline now index) else none) = _
  rw [begins]
  split
  · exact congrArg some move
  · rfl

namespace Session

variable (world : World σ) {session other : Session σ}

/-- Sessions that nobody can tell apart once the listener has gone differ only in the channel. -/
theorem eq_withChannel_of_unheard_eq (alike : other.unheard = session.unheard) :
    other = session.withChannel other.watcher.channel := by
  obtain ⟨⟨config, accepted, lastAccepted, channel⟩, state⟩ := session
  obtain ⟨⟨otherConfig, otherAccepted, otherLastAccepted, otherChannel⟩, otherState⟩ := other
  cases alike
  rfl

theorem unheard_withChannel (session : Session σ) (channel : Channel Event) :
    (session.withChannel channel).unheard = session.unheard := rfl

variable (session) in
/-- What the listener does leaves all but the channel as it is. -/
theorem unheard_perform_of_not_isOwn {operation : Operation} (foreign : operation.isOwn = false) :
    (session.perform world operation).1.conduct? = none ∧
      (session.perform world operation).2.unheard = session.unheard := by
  cases operation with
  | poll | run => contradiction
  | receive | leave => exact ⟨rfl, rfl⟩

/-- The same operation does the same in two sessions that differ in the channel. -/
theorem conduct?_perform (alike : other.unheard = session.unheard) (operation : Operation) :
    (other.perform world operation).1.conduct? = (session.perform world operation).1.conduct? ∧
      (other.perform world operation).2.unheard =
        (session.perform world operation).2.unheard := by
  have after : (other.perform world operation).2.unheard =
      (session.perform world operation).2.unheard := by
    rw [← unheard_perform, ← unheard_perform, alike]
  refine ⟨?_, after⟩
  have relation := eq_withChannel_of_unheard_eq alike
  cases operation with
  | receive | leave => rfl
  | poll => rw [relation]; rfl
  | run deadline =>
      have moves := moves_turnsFrom_withChannel world deadline 0
        (session.watcher.emit session.watcher.startEvent) session.state
        (other.watcher.channel.send session.watcher.startEvent)
      have ended (watcher : Watcher) (state : σ) :
          (watcher.run world deadline state).ended = deadline :=
        ended_turnsFrom world deadline 0 _ state (Nat.zero_le deadline)
      have memory : (other.watcher.run world deadline other.state).watcher.lastAccepted =
          (session.watcher.run world deadline session.state).watcher.lastAccepted :=
        congrArg (·.watcher.lastAccepted) after
      have ending : (other.watcher.run world deadline other.state).state =
          (session.watcher.run world deadline session.state).state :=
        congrArg (·.state) after
      simp only [perform, Report.conduct?, ended, memory, ending]
      rw [relation]
      exact congrArg (fun moves => some (Conduct.ran moves _ _ _)) moves

/-- In a session, what the watcher does is what it does when its own operations are all there are. -/
theorem conduct?_performAll_filter_isOwn (alike : other.unheard = session.unheard)
    (operations : List Operation) :
    ((other.performAll world operations).1.filterMap Report.conduct? =
      (session.performAll world (operations.filter Operation.isOwn)).1.filterMap
        Report.conduct?) ∧
    (other.performAll world operations).2.unheard =
      (session.performAll world (operations.filter Operation.isOwn)).2.unheard := by
  induction operations generalizing session other with
  | nil => exact ⟨rfl, alike⟩
  | cons operation rest inductionHypothesis =>
      cases own : operation.isOwn with
      | false =>
          obtain ⟨silent, unchanged⟩ := unheard_perform_of_not_isOwn world other own
          obtain ⟨conducts, ending⟩ := inductionHypothesis (unchanged.trans alike)
          rw [List.filter_cons_of_neg (by simp [own]), ← conducts, ← ending]
          exact ⟨List.filterMap_cons_none silent, rfl⟩
      | true =>
          obtain ⟨same, next⟩ := conduct?_perform world alike operation
          obtain ⟨conducts, ending⟩ := inductionHypothesis next
          rw [List.filter_cons_of_pos own]
          simp only [performAll, List.filterMap_cons, same, conducts, ending, and_self]

end Session

/-- Whenever a listener receives messages, however many, and whether or not it leaves: the watcher makes
the same polls and the same runs, with the same updates at the same times, and remembers the same
address after each. -/
theorem listeners_change_nothing (world : World σ) (session : Session σ) (channel : Channel Event)
    {operations others : List Operation}
    (same : others.filter Operation.isOwn = operations.filter Operation.isOwn) :
    let (reports, last) := session.performAll world operations
    let (otherReports, otherLast) := (session.withChannel channel).performAll world others
    otherReports.filterMap Report.conduct? = reports.filterMap Report.conduct? ∧
      otherLast = last.withChannel otherLast.watcher.channel := by
  obtain ⟨conducts, ending⟩ :=
    Session.conduct?_performAll_filter_isOwn world (Eq.refl session.unheard) operations
  obtain ⟨otherConducts, otherEnding⟩ :=
    Session.conduct?_performAll_filter_isOwn world (session.unheard_withChannel channel) others
  rw [same] at otherConducts otherEnding
  exact ⟨otherConducts.trans conducts.symm,
    Session.eq_withChannel_of_unheard_eq (otherEnding.trans ending.symm)⟩

/-- One listener never receives anything, the other one leaves after the first message. -/
theorem neglectful_and_departed_listeners_change_nothing :
    let world := World.ofRounds "commands" "rest" renumberedRounds
    let session : Session Nat := ⟨⟨officeSettings, by decide, "", .empty⟩, 0⟩
    let others : List Operation := [.poll, .receive 1, .leave] ++ List.replicate 64 .poll
    let (reports, last) := session.performAll world (List.replicate 65 .poll)
    let (otherReports, otherLast) := session.performAll world others
    others.filter Operation.isOwn = (List.replicate 65 .poll).filter Operation.isOwn ∧
      last.watcher.channel.isFull = true ∧ otherLast.watcher.channel.isOpen = false ∧
      (reports.flatMap Report.updates).length = 65 ∧
      otherReports.filterMap Report.conduct? = reports.filterMap Report.conduct? ∧
      otherLast = last.withChannel otherLast.watcher.channel := by
  intro world session others
  have same : others.filter Operation.isOwn =
      (List.replicate 65 Operation.poll).filter Operation.isOwn := by decide
  have unchanged := listeners_change_nothing world session .empty same
  exact ⟨same, by decide +kernel, by decide +kernel, by decide +kernel, unchanged⟩

end AddressWatch.Watcher
