import AddressWatch.Proofs.Watcher.Polls
import AddressWatch.Proofs.Watcher.Schedule

/-!
# A run that is cut short

At the deadline at most one poll is under way.  A run is then the same as the polls that are over by the
deadline, made one after the other without a clock; all that is left of the last poll is its update, if
it was sent in time, and nothing is learned about that.
-/

namespace AddressWatch.Watcher

variable {σ : Type}

namespace Session

variable (world : World σ) (session : Session σ) (channel : Channel Event)
  (deadline now index : Nat)

theorem update?_turnAt : (session.turnAt world deadline now index).update? =
    if session.ends world now index < deadline then (session.pollAt world index).update?
    else if (session.pollAt world index).answered (session.begins world now index) < deadline then
      (session.pollAt world index).update?.map Update.unanswered
    else none :=
  update?_turn _ _ _ _

end Session

namespace Loop.Follows

variable {world : World σ} {session : Session σ} {deadline now begun completed : Nat} {loop : Loop σ}

theorem not_ends_completed (follows : loop.Follows world session deadline now begun completed) :
    ¬ session.ends world now completed < deadline := fun finished =>
  Nat.lt_irrefl completed ((follows.completed_iff completed).mpr finished)

/-- At most one of the polls that were begun is not over. -/
theorem begun_eq (follows : loop.Follows world session deadline now begun completed) :
    begun = if session.begins world now completed < deadline then completed + 1 else completed := by
  -- A poll begins after the ones before it are over.
  have atMostOne : begun ≤ completed + 1 := by
    apply Nat.le_of_not_lt
    intro more
    have early := (follows.begun_iff (completed + 1)).mp more
    exact follows.not_ends_completed
      ((session.ends_lt_begins_succ world now completed).trans early)
  by_cases early : session.begins world now completed < deadline
  · rw [if_pos early]
    exact Nat.le_antisymm atMostOne ((follows.begun_iff completed).mpr early)
  · rw [if_neg early]
    apply Nat.le_antisymm
    · apply Nat.le_of_not_lt
      intro more
      exact early ((follows.begun_iff completed).mp more)
    · -- Whatever is over by the deadline was begun before it.
      apply Nat.le_of_not_lt
      intro fewer
      have finished := (follows.completed_iff begun).mp fewer
      have begunEarly := (session.begins_le_ends world now begun).trans_lt finished
      exact Nat.lt_irrefl begun ((follows.begun_iff begun).mpr begunEarly)

theorem filterMap_turns {β : Type} (follows : loop.Follows world session deadline now begun completed)
    (read : Turn → Option β) :
    loop.turns.filterMap read =
      ((List.range completed).filterMap fun index =>
        read (session.turnAt world deadline now index)) ++
      (if session.begins world now completed < deadline then
        read (session.turnAt world deadline now completed)
      else none).toList := by
  rw [follows.turns_eq, List.filterMap_map, follows.begun_eq]
  split
  · rw [List.range_succ, List.filterMap_append, List.filterMap_cons, List.filterMap_nil,
      Function.comp_apply]
    cases read (session.turnAt world deadline now completed) <;> rfl
  · exact (List.append_nil _).symm

/-- The messages are those of the polls that are over. -/
theorem events_eq (follows : loop.Follows world session deadline now begun completed) :
    loop.turns.filterMap Turn.event = (session.polls world completed).map Poll.event := by
  have finished : ∀ index ∈ List.range completed,
      (session.turnAt world deadline now index).event =
        some (session.pollAt world index).event := by
    intro index membership
    rw [Session.event_turnAt,
      if_pos ((follows.completed_iff index).mp (List.mem_range.mp membership))]
  rw [follows.filterMap_turns, List.filterMap_congr finished, Session.event_turnAt,
    if_neg follows.not_ends_completed, ite_self, Option.toList_none, List.append_nil,
    Session.polls, List.map_map]
  exact congrFun List.filterMap_eq_map _

/-- The updates are those of the polls that are over and at most one more, without its outcome. -/
theorem updates_eq (follows : loop.Follows world session deadline now begun completed) :
    loop.turns.filterMap Turn.update? =
      (session.polls world completed).filterMap Poll.update? ++
      (if (session.pollAt world completed).answered (session.begins world now completed) <
          deadline then
        (session.pollAt world completed).update?.map Update.unanswered
      else none).toList := by
  have finished : ∀ index ∈ List.range completed,
      (session.turnAt world deadline now index).update? =
        (session.pollAt world index).update? := by
    intro index membership
    rw [Session.update?_turnAt,
      if_pos ((follows.completed_iff index).mp (List.mem_range.mp membership))]
  rw [follows.filterMap_turns, List.filterMap_congr finished, Session.update?_turnAt,
    if_neg follows.not_ends_completed, Session.polls, List.filterMap_map]
  congr 2
  split
  · rfl
  next late =>
    rw [if_neg fun answered => late ((Poll.le_answered _ _).trans_lt answered)]

end Loop.Follows

/-- A run leaves its watcher as the polls that are over leave it, apart from the messages. -/
theorem watcher_run {watcher : Watcher} {world : World σ} {deadline : Nat} {state : σ}
    {begun completed : Nat}
    (follows : (turnsFrom world deadline 0 (watcher.emit watcher.startEvent) state).Follows world
      ((⟨watcher, state⟩ : Session σ).withChannel (watcher.channel.send watcher.startEvent))
      deadline 0 begun completed) :
    (watcher.run world deadline state).watcher =
      ((⟨watcher, state⟩ : Session σ).afterPolls world completed).watcher.withChannel
        ((watcher.startEvent :: (((⟨watcher, state⟩ : Session σ).polls world completed).map
          Poll.event ++ [stopEvent])).foldl Channel.send watcher.channel) := by
  rw [run, follows.watcher_eq, Session.afterPolls_withChannel, List.foldl_cons, List.foldl_append]
  rfl

/-- A run that is cut short at the deadline ends with the memory of the polls that are over by then,
made one after the other.  It tells its listener that it starts, then what those polls tell, and then
that it stops.  Besides the updates of those polls it sends at most the one that is under way at the
deadline.  With no time at all it makes no poll. -/
theorem run_refines_polls (watcher : Watcher) (world : World σ) (deadline : Nat) (state : σ) :
    let session : Session σ := ⟨watcher, state⟩
    let run := watcher.run world deadline state
    let emitted := (Report.ran run).emitted watcher
    (∃ completed,
      (∀ index, index < completed ↔ session.ends world 0 index < deadline) ∧
      let (reports, last) := session.performAll world (List.replicate completed .poll)
      run.watcher.lastAccepted = last.watcher.lastAccepted ∧
      emitted = watcher.startEvent :: (reports.flatMap (Report.emitted watcher) ++ [stopEvent]) ∧
      run.watcher.channel = emitted.foldl Channel.send watcher.channel ∧
      (Report.ran run).updates = reports.flatMap Report.updates ++
        (if (session.pollAt world completed).answered (session.begins world 0 completed) <
            deadline then
          (session.pollAt world completed).update?.map Update.unanswered
        else none).toList) ∧
    (watcher.run world 0 state).turns = [] := by
  intro session run emitted
  constructor
  · obtain ⟨begun, completed, follows⟩ := watcher.run_follows world deadline state
    refine ⟨completed, ?_, ?_⟩
    · intro index
      rw [follows.completed_iff, Session.ends_withChannel]
    · rw [Session.performAll_replicate_poll]
      simp only [Session.emitted_map_reportAt, Session.updates_map_reportAt]
      have begins (index : Nat) := session.begins_withChannel world
        (watcher.channel.send watcher.startEvent) 0 index
      have polls := session.polls_withChannel world
        (watcher.channel.send watcher.startEvent) completed
      have events := follows.events_eq
      have updates := follows.updates_eq
      rw [polls] at events updates
      rw [begins, Session.pollAt_withChannel] at updates
      have told : emitted = watcher.startEvent :: (_ ++ [stopEvent]) :=
        congrArg (fun messages => _ :: (messages ++ _)) events
      have memory : run.watcher.lastAccepted = _ := congrArg lastAccepted (watcher_run follows)
      refine ⟨memory, told, ?_, updates⟩
      rw [told]
      exact congrArg channel (watcher_run follows)
  · exact congrArg Loop.turns (turnsFrom_of_le world (Nat.le_refl 0) _ state)

end AddressWatch.Watcher
