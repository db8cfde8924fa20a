import AddressWatch.Watcher

/-!
One poll: ask the host, judge the answer, and send an update if the address has changed.  A poll is
laid out in its two acts, so that it can be cut short during either.
-/

namespace AddressWatch.Watcher

/-- A poll over worlds with states in `σ`. -/
structure Poll (σ : Type) where
  /-- The question to the host, and the state of the world after it. -/
  look : Act (Except Error String)
  afterLook : σ
  notice : Log.Entry
  /-- The update, if there is one. -/
  push : Option (Record × Act Outcome)
  afterPush : σ
  verdict : List Log.Entry
  event : Event
  /-- What the watcher remembers after the poll. -/
  lastAccepted : String

variable {σ : Type}

/-- An update as the watcher sees it. -/
structure Update where
  record : Record
  /-- What the API made of it; absent if the answer was not waited for. -/
  outcome : Option Outcome
deriving DecidableEq, Inhabited

/-- The update without the answer of the API. -/
def Update.unanswered (update : Update) : Update := { update with outcome := none }

/-- The address that the API has taken, as far as the watcher knows. -/
def Update.applied? (update : Update) : Option String :=
  if update.outcome.any Outcome.isApplied then some update.record.value else none

/-- The poll that a watcher makes in a world. -/
def poll (watcher : Watcher) (world : World σ) (state : σ) : Poll σ :=
  let (look, afterLook) := world.look state
  let finding := watcher.judge look.result
  let idle (event : Event) : Poll σ :=
    ⟨look, afterLook, watcher.findingEntry finding, none, afterLook, [], event,
      watcher.lastAccepted⟩
  match finding with
  | .missing error => idle (.addressMissing error.message error.isEnvironment)
  | .malformed candidate => idle (.addressRejected candidate)
  | .same address => idle (.unchanged address)
  | .changed address =>
      let record := watcher.recordFor address
      let (push, afterPush) := world.push afterLook record
      ⟨look, afterLook, watcher.findingEntry finding, some (record, push), afterPush,
        [watcher.outcomeEntry world.clientName address push.result],
        watcher.outcomeEvent address push.result, watcher.settle address push.result⟩

namespace Poll

/-- The record that the poll sends. -/
def record? (poll : Poll σ) : Option Record := poll.push.map Prod.fst

def update? (poll : Poll σ) : Option Update :=
  poll.push.map fun (record, act) => ⟨record, some act.result⟩

theorem map_record_update? (poll : Poll σ) : poll.update?.map Update.record = poll.record? := by
  rw [update?, Option.map_map]
  rfl

def applied? (poll : Poll σ) : Option String := poll.update?.bind Update.applied?

def transition? (poll : Poll σ) : Option (String × String) := poll.event.transition?

def pushElapsed (poll : Poll σ) : Nat := (poll.push.map (·.2.elapsed)).getD 0

/-- When the host answers if the poll begins at `now`. -/
def answered (poll : Poll σ) (now : Nat) : Nat := now + poll.look.elapsed

/-- When a poll that begins at `now` is over. -/
def settled (poll : Poll σ) (now : Nat) : Nat := poll.answered now + poll.pushElapsed

theorem le_answered (poll : Poll σ) (now : Nat) : now ≤ poll.answered now := Nat.le_add_right _ _

theorem answered_le_settled (poll : Poll σ) (now : Nat) : poll.answered now ≤ poll.settled now :=
  Nat.le_add_right _ _

def lookLog (poll : Poll σ) : List Log.Entry := poll.look.atStart

def answerLog (poll : Poll σ) : List Log.Entry :=
  poll.look.atEnd ++ poll.notice :: (poll.push.map (·.2.atStart)).getD []

/-- What is logged when the update has ended. -/
def outcomeLog (poll : Poll σ) : List Log.Entry :=
  (poll.push.map (·.2.atEnd)).getD [] ++ poll.verdict

end Poll

/-- The watcher after a poll that was not cut short. -/
def finish (watcher : Watcher) (poll : Poll σ) : Watcher :=
  { watcher with lastAccepted := poll.lastAccepted }.emit poll.event

/-- What a poll that is not cut short logs. -/
def pollLog (watcher : Watcher) (poll : Poll σ) : List Log.Entry :=
  poll.lookLog ++ poll.answerLog ++ poll.outcomeLog ++ watcher.channel.sendLog

end AddressWatch.Watcher
