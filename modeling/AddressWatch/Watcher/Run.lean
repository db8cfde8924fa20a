import AddressWatch.Watcher.Poll

/-!
The loop of a watcher on a clock that counts milliseconds from its start: polls with a pause after
each, until a deadline.  At the deadline everything that is under way is cut short: an update may have
been sent, but its outcome is not waited for.
-/

namespace AddressWatch.Watcher

variable {σ : Type}

/-- One poll of the loop: when the host was asked, the update with the time it was sent, the message
unless the poll was cut short, and the log with its times. -/
structure Turn where
  start : Nat
  timedUpdate : Option (Nat × Update)
  event : Option Event
  log : List (Nat × Log.Entry)

def Turn.sent (turn : Turn) : Option (Nat × Record) :=
  turn.timedUpdate.map fun (time, update) => (time, update.record)

def Turn.update? (turn : Turn) : Option Update := turn.timedUpdate.map Prod.snd

def stamped (time : Nat) (entries : List Log.Entry) : List (Nat × Log.Entry) :=
  entries.map (time, ·)

/-- What a poll that begins at `now` comes to before the deadline. -/
def turn (watcher : Watcher) (deadline now : Nat) (poll : Poll σ) : Turn :=
  let answered := poll.answered now
  let settled := poll.settled now
  let known (update : Update) : Update := if settled < deadline then update else update.unanswered
  { start := now
    timedUpdate := if answered < deadline then poll.update?.map (answered, known ·) else none
    event := if settled < deadline then some poll.event else none
    log := stamped now poll.lookLog ++
      (if answered < deadline then stamped answered poll.answerLog else []) ++
      (if settled < deadline then stamped settled (poll.outcomeLog ++ watcher.channel.sendLog)
        else []) }

/-- The record is sent when the host has answered, whether or not there is time for the outcome. -/
theorem sent_turn (watcher : Watcher) (deadline now : Nat) (poll : Poll σ) :
    (watcher.turn deadline now poll).sent =
      if poll.answered now < deadline then poll.record?.map (poll.answered now, ·) else none := by
  have known (update : Update) :
      (if poll.settled now < deadline then update else update.unanswered).record =
        update.record := by
    split <;> rfl
  by_cases answered : poll.answered now < deadline
  · simp only [Turn.sent, turn, if_pos answered, Poll.update?, Poll.record?]
    cases poll.push with
    | none => rfl
    | some pushed => simp only [Option.map_some, known]
  · simp only [Turn.sent, turn, if_neg answered, Option.map_none]

theorem update?_turn (watcher : Watcher) (deadline now : Nat) (poll : Poll σ) :
    (watcher.turn deadline now poll).update? =
      if poll.settled now < deadline then poll.update?
      else if poll.answered now < deadline then poll.update?.map Update.unanswered else none := by
  by_cases settled : poll.settled now < deadline
  · have answered := Nat.lt_of_le_of_lt (poll.answered_le_settled now) settled
    simp only [Turn.update?, turn, if_pos settled, if_pos answered, Option.map_map]
    exact Option.map_id_apply
  · by_cases answered : poll.answered now < deadline
    · simp only [Turn.update?, turn, if_neg settled, if_pos answered, Option.map_map]
      rfl
    · simp only [Turn.update?, turn, if_neg settled, if_neg answered, Option.map_none]

structure Loop (σ : Type) where
  turns : List Turn
  ended : Nat
  watcher : Watcher
  state : σ

def Loop.after (turn : Turn) (loop : Loop σ) : Loop σ :=
  { loop with turns := turn :: loop.turns }

def pause (watcher : Watcher) : Nat := 1000 * watcher.config.interval.toNat

theorem pause_pos (watcher : Watcher) : 0 < watcher.pause := by
  have := watcher.accepted.interval_pos
  unfold pause
  omega

@[simp]
theorem pause_finish (watcher : Watcher) (poll : Poll σ) :
    (watcher.finish poll).pause = watcher.pause := rfl

/-- The turns from `now` until the deadline.  The deadline is looked for before each poll; the
question to the host, the update and the pause are each given up when it comes first. -/
def turnsFrom (world : World σ) (deadline now : Nat) (watcher : Watcher) (state : σ) : Loop σ :=
  if deadline ≤ now then ⟨[], now, watcher, state⟩
  else
    let poll := watcher.poll world state
    let turn := watcher.turn deadline now poll
    let next := poll.settled now + watcher.pause
    if deadline ≤ poll.answered now then ⟨[turn], deadline, watcher, poll.afterLook⟩
    else if deadline ≤ poll.settled now then ⟨[turn], deadline, watcher, poll.afterPush⟩
    else if deadline ≤ next then ⟨[turn], deadline, watcher.finish poll, poll.afterPush⟩
    else (turnsFrom world deadline next (watcher.finish poll) poll.afterPush).after turn
termination_by deadline - now
decreasing_by
  have := watcher.pause_pos
  simp only [Poll.settled, Poll.answered]
  omega

theorem turnsFrom_of_le (world : World σ) {deadline now : Nat} (late : deadline ≤ now)
    (watcher : Watcher) (state : σ) :
    turnsFrom world deadline now watcher state = ⟨[], now, watcher, state⟩ := by
  rw [turnsFrom, if_pos late]

/-- What came of a run: the entries in front of the first poll, the turns, the entries after the last
one, and when it ended. -/
structure Run (σ : Type) where
  opening : List Log.Entry
  turns : List Turn
  closing : List Log.Entry
  ended : Nat
  watcher : Watcher
  state : σ

def startEvent (watcher : Watcher) : Event :=
  .started watcher.config.interface watcher.config.recordName watcher.config.recordType

def stopEvent : Event := .stopped "Shutdown signal"

def startLog (watcher : Watcher) (source : String) : List Log.Entry :=
  let config := watcher.config
  [Log.info ("Watching interface=" ++ config.interface ++ " (" ++ source ++ ") record=" ++
      config.recordName ++ " type=" ++ config.recordType.name ++ " interval=" ++
      Text.decimal config.interval.toNat ++ "s"),
    Log.info ("API=" ++ config.apiUrl ++ " ttl=" ++ Text.decimal config.ttl.toNat ++ "s")]

def stopEntry : Log.Entry := Log.info "Shutting down"

/-- Run the loop until the deadline. -/
def run (watcher : Watcher) (world : World σ) (deadline : Nat) (state : σ) : Run σ :=
  let loop := turnsFrom world deadline 0 (watcher.emit watcher.startEvent) state
  { opening := watcher.startLog (world.describe state) ++ watcher.channel.sendLog
    turns := loop.turns
    closing := stopEntry :: loop.watcher.channel.sendLog
    ended := loop.ended
    watcher := loop.watcher.emit stopEvent
    state := loop.state }

namespace Run

/-- The log with its times, without the entries after the last poll. -/
def logBeforeEnd (run : Run σ) : List (Nat × Log.Entry) :=
  stamped 0 run.opening ++ run.turns.flatMap Turn.log

def log (run : Run σ) : List Log.Entry :=
  run.logBeforeEnd.map Prod.snd ++ run.closing

end Run

end AddressWatch.Watcher
