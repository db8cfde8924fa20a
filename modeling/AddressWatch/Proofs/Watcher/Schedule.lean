import AddressWatch.Proofs.Watcher.ChangeDetection
import AddressWatch.Proofs.Watcher.Course
import AddressWatch.Proofs.Watcher.Listener
import Mathlib.Order.Monotone.Basic

/-!
# The loop and its schedule

A loop makes the polls that are made one after the other, at the times of the schedule.  It makes those
that begin before the deadline, and its watcher is the one that has made those that are over before the
deadline.
-/

namespace AddressWatch.Watcher

variable {σ : Type}

namespace Session

theorem begins_le_ends (world : World σ) (session : Session σ) (now index : Nat) :
    session.begins world now index ≤ session.ends world now index :=
  (Poll.le_answered _ _).trans (Poll.answered_le_settled _ _)

theorem ends_lt_begins_succ (world : World σ) (session : Session σ) (now index : Nat) :
    session.ends world now index < session.begins world now (index + 1) := by
  rw [begins, ends]
  exact Nat.lt_add_of_pos_right session.watcher.pause_pos

/-- Polls do not overlap. -/
theorem begins_strictMono (world : World σ) (session : Session σ) (now : Nat) :
    StrictMono (session.begins world now) :=
  strictMono_nat_of_lt_succ fun index =>
    (session.begins_le_ends world now index).trans_lt (session.ends_lt_begins_succ world now index)

theorem ends_lt_begins (world : World σ) (session : Session σ) (now : Nat) {earlier later : Nat}
    (order : earlier < later) :
    session.ends world now earlier < session.begins world now later :=
  (session.ends_lt_begins_succ world now earlier).trans_le
    ((session.begins_strictMono world now).monotone order)

/-- Each poll is followed by a whole pause. -/
theorem add_mul_pause_le_begins (world : World σ) (session : Session σ) (now index : Nat) :
    now + index * session.watcher.pause ≤ session.begins world now index := by
  induction index with
  | zero => simp
  | succ index inductionHypothesis =>
      have paused : session.begins world now (index + 1) =
          session.ends world now index + session.watcher.pause := rfl
      have := session.begins_le_ends world now index
      rw [Nat.succ_mul]
      omega

theorem le_begins (world : World σ) (session : Session σ) (now index : Nat) :
    now ≤ session.begins world now index :=
  (Nat.le_add_right _ _).trans (session.add_mul_pause_le_begins world now index)

end Session

/-- A loop that begins some polls before the deadline, of which some are over by then. -/
structure Loop.Follows (loop : Loop σ) (world : World σ) (session : Session σ)
    (deadline now begun completed : Nat) : Prop where
  begun_iff : ∀ index, index < begun ↔ session.begins world now index < deadline
  completed_iff : ∀ index, index < completed ↔ session.ends world now index < deadline
  turns_eq : loop.turns = (List.range begun).map (session.turnAt world deadline now)
  watcher_eq : loop.watcher = (session.afterPolls world completed).watcher

namespace Loop.Follows

variable {world : World σ} {session : Session σ} {deadline now : Nat}

/-- No poll begins once the deadline has come. -/
theorem nothing (late : deadline ≤ now) {loop : Loop σ} (turns_eq : loop.turns = [])
    (watcher_eq : loop.watcher = session.watcher) :
    loop.Follows world session deadline now 0 0 where
  begun_iff index := by
    have := session.le_begins world now index
    omega
  completed_iff index := by
    have := session.le_begins world now index
    have := session.begins_le_ends world now index
    omega
  turns_eq := turns_eq
  watcher_eq := watcher_eq

/-- A poll that the deadline cuts short is the last one. -/
theorem cut (early : now < deadline) (late : deadline ≤ (session.nextPoll world).settled now)
    {loop : Loop σ}
    (turns_eq : loop.turns = [session.watcher.turn deadline now (session.nextPoll world)])
    (watcher_eq : loop.watcher = session.watcher) :
    loop.Follows world session deadline now 1 0 where
  begun_iff index := by
    cases index with
    | zero => simpa using early
    | succ index =>
        have before : (session.nextPoll world).settled now < session.begins world now (index + 1) :=
          session.ends_lt_begins world now (Nat.succ_pos index)
        omega
  completed_iff index := by
    cases index with
    | zero => simpa using late
    | succ index =>
        have before : (session.nextPoll world).settled now < session.begins world now (index + 1) :=
          session.ends_lt_begins world now (Nat.succ_pos index)
        have := session.begins_le_ends world now (index + 1)
        omega
  turns_eq := turns_eq
  watcher_eq := watcher_eq

/-- A poll that is over before the deadline comes in front of what follows. -/
theorem cons (settled : (session.nextPoll world).settled now < deadline) {rest loop : Loop σ}
    {begun completed : Nat}
    (follows : rest.Follows world (session.afterPoll world) deadline
      ((session.nextPoll world).settled now + session.watcher.pause) begun completed)
    (turns_eq : loop.turns =
      session.watcher.turn deadline now (session.nextPoll world) :: rest.turns)
    (watcher_eq : loop.watcher = rest.watcher) :
    loop.Follows world session deadline now (begun + 1) (completed + 1) where
  begun_iff index := by
    cases index with
    | zero =>
        have := session.begins_le_ends world now 0
        rw [Session.begins_zero, Session.ends_zero] at this
        simpa using this.trans_lt settled
    | succ index => simpa using follows.begun_iff index
  completed_iff index := by
    cases index with
    | zero => simpa using settled
    | succ index => simpa using follows.completed_iff index
  turns_eq := by
    rw [turns_eq, follows.turns_eq, List.range_succ_eq_map, List.map_cons, List.map_map,
      Session.turnAt_zero]
    congr 2
    funext index
    exact (session.turnAt_succ world deadline now index).symm
  watcher_eq := watcher_eq.trans follows.watcher_eq

end Loop.Follows

/-- The loop makes the polls of the schedule. -/
theorem turnsFrom_follows (world : World σ) (deadline now : Nat) (watcher : Watcher) (state : σ) :
    ∃ begun completed, (turnsFrom world deadline now watcher state).Follows world ⟨watcher, state⟩
      deadline now begun completed := by
  fun_induction turnsFrom world deadline now watcher state with
  | case1 now watcher state late => exact ⟨0, 0, .nothing late rfl rfl⟩
  | case2 now watcher state early poll turn unanswered =>
      refine ⟨1, 0, .cut (Nat.lt_of_not_le early) ?_ rfl rfl⟩
      exact Nat.le_trans unanswered (poll.answered_le_settled now)
  | case3 now watcher state early poll turn answered unsettled =>
      refine ⟨1, 0, .cut (Nat.lt_of_not_le early) ?_ rfl rfl⟩
      exact unsettled
  | case4 now watcher state early poll turn next answered settled late =>
      -- The loop ends in the pause: nothing follows the poll.
      let session : Session σ := ⟨watcher, state⟩
      have nothing : (⟨[], next, watcher.finish poll, poll.afterPush⟩ : Loop σ).Follows world
          (session.afterPoll world) deadline next 0 0 := .nothing late rfl rfl
      exact ⟨1, 1, .cons (Nat.lt_of_not_le settled) nothing rfl rfl⟩
  | case5 now watcher state early poll turn next answered settled paused inductionHypothesis =>
      obtain ⟨begun, completed, follows⟩ := inductionHypothesis
      exact ⟨begun + 1, completed + 1, .cons (Nat.lt_of_not_le settled) follows rfl rfl⟩

/-- Whatever the deadline interrupts, the loop ends at it. -/
theorem ended_turnsFrom (world : World σ) (deadline now : Nat) (watcher : Watcher) (state : σ)
    (begun : now ≤ deadline) :
    (turnsFrom world deadline now watcher state).ended = deadline := by
  fun_induction turnsFrom world deadline now watcher state with
  | case1 now watcher state late => exact Nat.le_antisymm begun late
  | case2 | case3 | case4 => rfl
  | case5 now watcher state early poll turn next answered settled paused inductionHypothesis =>
      exact inductionHypothesis (Nat.le_of_not_le paused)

/-- A run makes the polls of the watcher it begins with. -/
theorem run_follows (watcher : Watcher) (world : World σ) (deadline : Nat) (state : σ) :
    ∃ begun completed,
      (turnsFrom world deadline 0 (watcher.emit watcher.startEvent) state).Follows world
        ((⟨watcher, state⟩ : Session σ).withChannel (watcher.channel.send watcher.startEvent))
        deadline 0 begun completed :=
  turnsFrom_follows world deadline 0 (watcher.emit watcher.startEvent) state

namespace Session

variable (world : World σ) (session : Session σ) (channel : Channel Event)
  (deadline now index : Nat)

@[simp]
theorem start_turnAt : (session.turnAt world deadline now index).start =
    session.begins world now index := rfl

@[simp]
theorem event_turnAt : (session.turnAt world deadline now index).event =
    if session.ends world now index < deadline then some (session.pollAt world index).event
    else none := rfl

theorem sent_turnAt : (session.turnAt world deadline now index).sent =
    if (session.pollAt world index).answered (session.begins world now index) < deadline then
      (session.pollAt world index).record?.map
        ((session.pollAt world index).answered (session.begins world now index), ·)
    else none := by
  unfold turnAt
  exact sent_turn _ _ _ _

end Session

namespace Loop.Follows

variable {world : World σ} {session : Session σ} {deadline now begun completed : Nat} {loop : Loop σ}

theorem getElem?_turns (follows : loop.Follows world session deadline now begun completed)
    (index : Nat) :
    loop.turns[index]? =
      if session.begins world now index < deadline then
        some (session.turnAt world deadline now index)
      else none := by
  rw [follows.turns_eq, List.getElem?_map]
  by_cases early : session.begins world now index < deadline
  · rw [if_pos early, List.getElem?_range ((follows.begun_iff index).mpr early), Option.map_some]
  · have outside : begun ≤ index := Nat.le_of_not_lt fun inside =>
      early ((follows.begun_iff index).mp inside)
    rw [if_neg early, List.getElem?_eq_none (by simpa using outside), Option.map_none]

theorem getElem?_start (follows : loop.Follows world session deadline now begun completed)
    (index : Nat) :
    (loop.turns[index]?).map Turn.start =
      if session.begins world now index < deadline then some (session.begins world now index)
      else none := by
  rw [follows.getElem?_turns]
  split <;> rfl

theorem getElem?_sent (follows : loop.Follows world session deadline now begun completed)
    (index : Nat) :
    (loop.turns[index]?).bind Turn.sent =
      if (session.pollAt world index).answered (session.begins world now index) < deadline then
        (session.pollAt world index).record?.map
          ((session.pollAt world index).answered (session.begins world now index), ·)
      else none := by
  rw [follows.getElem?_turns]
  split
  · rw [Option.bind_some, Session.sent_turnAt]
  next late =>
    have unanswered : ¬ (session.pollAt world index).answered (session.begins world now index) <
        deadline := by
      intro answered
      exact late ((Poll.le_answered _ _).trans_lt answered)
    rw [Option.bind_none, if_neg unanswered]

/-- Nothing begins once the deadline has come. -/
theorem begins_early (follows : loop.Follows world session deadline now begun completed) :
    ∀ turn ∈ loop.turns, turn.start < deadline ∧ ∀ sent ∈ turn.sent, sent.1 < deadline := by
  intro turn membership
  obtain ⟨index, found⟩ := List.mem_iff_getElem?.mp membership
  rw [follows.getElem?_turns, Option.ite_none_right_eq_some] at found
  obtain ⟨early, turnEquality⟩ := found
  cases turnEquality
  constructor
  · exact early
  · intro sent sentMembership
    rw [Session.sent_turnAt, Option.mem_def, Option.ite_none_right_eq_some] at sentMembership
    obtain ⟨answered, recorded⟩ := sentMembership
    obtain ⟨record, _, rfl⟩ := Option.map_eq_some_iff.mp recorded
    exact answered

/-- Since every poll is followed by a whole pause, only so many fit before the deadline. -/
theorem length_turns_le (follows : loop.Follows world session deadline 0 begun completed) :
    loop.turns.length ≤ deadline / session.watcher.pause + 1 := by
  rw [follows.turns_eq, List.length_map, List.length_range]
  cases begun with
  | zero => exact Nat.zero_le _
  | succ last =>
      have early := (follows.begun_iff last).mp (Nat.lt_succ_self last)
      have paused := session.add_mul_pause_le_begins world 0 last
      have fits : last * session.watcher.pause ≤ deadline := by omega
      exact Nat.succ_le_succ ((Nat.le_div_iff_mul_le session.watcher.pause_pos).mpr fits)

end Loop.Follows

/-- A run that asks the host at the given times, sends what is due, and goes by the clock of the world
in all of it. -/
structure Run.Keeps (run : Run σ) (config : Config) (world : World σ) (deadline : Nat)
    (situation : Nat → Situation σ) (start : Nat → Nat) : Prop where
  start_zero : start 0 = 0
  /-- The host is asked again when it has answered, the update is over and a whole pause has passed. -/
  start_succ : ∀ index, start (index + 1) =
    start index + (situation index).lookTime world + (situation index).pushTime config world +
      1000 * config.interval.toNat
  asked : ∀ index, (run.turns[index]?).map Turn.start =
    if start index < deadline then some (start index) else none
  /-- An update goes out as soon as the host has answered. -/
  sent : ∀ index, (run.turns[index]?).bind Turn.sent =
    if start index + (situation index).lookTime world < deadline then
      ((situation index).due? config world).map
        (start index + (situation index).lookTime world, ·)
    else none
  /-- Polls do not overlap. -/
  apart : ∀ earlier later, earlier < later →
    start earlier + (situation earlier).lookTime world +
      (situation earlier).pushTime config world < start later
  early : ∀ turn ∈ run.turns, turn.start < deadline ∧ ∀ sent ∈ turn.sent, sent.1 < deadline
  ended_eq : run.ended = deadline
  length_turns_le : run.turns.length ≤ deadline / (1000 * config.interval.toNat) + 1

/-- A run asks the host first at time zero, and then whenever the previous poll is over and a pause has
passed, as long as that is before the deadline; an update goes out as soon as the host has answered,
unless the deadline has come.  Polls do not overlap, nothing begins at the deadline or after it, and the
run ends at the deadline, however long the pause is. -/
theorem run_keeps_schedule (watcher : Watcher) (world : World σ) (deadline : Nat) (state : σ) :
    ∃ start, (watcher.run world deadline state).Keeps watcher.config world deadline
      ((⟨state, watcher.lastAccepted⟩ : Situation σ).after watcher.config world) start := by
  let session : Session σ := ⟨watcher, state⟩
  obtain ⟨begun, completed, follows⟩ := watcher.run_follows world deadline state
  have look (index : Nat) : (session.pollAt world index).look.elapsed =
      ((⟨state, watcher.lastAccepted⟩ : Situation σ).after watcher.config world index).lookTime
        world := session.elapsed_look_pollAt world index
  have push (index : Nat) : (session.pollAt world index).pushElapsed =
      ((⟨state, watcher.lastAccepted⟩ : Situation σ).after watcher.config world index).pushTime
        watcher.config world := session.pushElapsed_pollAt world index
  have due (index : Nat) : (session.pollAt world index).record? =
      ((⟨state, watcher.lastAccepted⟩ : Situation σ).after watcher.config world index).due?
        watcher.config world := session.record?_pollAt world index
  refine ⟨session.begins world 0, ?_⟩
  constructor
  case start_zero => rfl
  case start_succ =>
    intro index
    rw [← look, ← push]
    rfl
  case asked =>
    intro index
    have started := follows.getElem?_start index
    rw [Session.begins_withChannel] at started
    exact started
  case sent =>
    intro index
    have sent := follows.getElem?_sent index
    rw [Session.begins_withChannel, Session.pollAt_withChannel] at sent
    rw [← look, ← due]
    exact sent
  case apart =>
    intro earlier later order
    rw [← look, ← push]
    exact session.ends_lt_begins world 0 order
  case early => exact follows.begins_early
  case ended_eq => exact ended_turnsFrom world deadline 0 _ state (Nat.zero_le deadline)
  case length_turns_le => exact follows.length_turns_le

/-- Rounds in which the host takes three milliseconds and the API twenty. -/
def slowRounds (index : Nat) : Round :=
  if index = 0 then ⟨⟨[], 3, [], .ok "192.0.2.1"⟩, ⟨[], 20, [], .applied 200⟩⟩
  else ⟨⟨[], 3, [], .ok "192.0.2.2"⟩, ⟨[], 20, [], .rejected 500 "busy"⟩⟩

/-- The second poll begins a pause after the first one is over.  Its update is sent, but the deadline
comes before the answer. -/
theorem run_with_slowRounds_is_cut_in_second_poll :
    let run := homeWatcher.run (World.ofRounds "commands" "rest" slowRounds) 30030 0
    (run.turns[0]?).bind Turn.sent = some (3, homeWatcher.recordFor "192.0.2.1") ∧
    (run.turns[1]?).map Turn.start = some 30023 ∧
    (run.turns[1]?).bind Turn.sent = some (30026, homeWatcher.recordFor "192.0.2.2") ∧
    run.turns.length ≤ 2 ∧ run.ended = 30030 := by
  obtain ⟨start, keeps⟩ :=
    homeWatcher.run_keeps_schedule (World.ofRounds "commands" "rest" slowRounds) 30030 0
  have first := keeps.start_zero
  have second : start 1 = 30023 := by
    rw [keeps.start_succ 0, first]
    decide
  refine ⟨?_, ?_, ?_, ?_, keeps.ended_eq⟩
  · have sent := keeps.sent 0
    rw [first] at sent
    exact sent.trans (by decide)
  · have asked := keeps.asked 1
    rw [second] at asked
    exact asked
  · have sent := keeps.sent 1
    rw [second] at sent
    exact sent.trans (by decide)
  · exact keeps.length_turns_le

end AddressWatch.Watcher
