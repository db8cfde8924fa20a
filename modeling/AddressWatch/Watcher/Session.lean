import AddressWatch.Watcher.Run

/-!
All that can be done with a watcher, in any order: single polls and runs on the one side, and
receiving its messages or no longer listening to them on the other.
-/

namespace AddressWatch.Watcher

variable {σ : Type}

/-- One thing done with a watcher. -/
inductive Operation where
  | poll
  | run (deadline : Nat)
  /-- Receive at most `most` messages. -/
  | receive (most : Nat)
  /-- Listen no longer. -/
  | leave
deriving DecidableEq, Inhabited

/-- What came of an operation. -/
inductive Report (σ : Type) where
  | polled (poll : Poll σ) (log : List Log.Entry)
  | ran (run : Run σ)
  /-- The messages received, and whether the channel was found empty. -/
  | received (messages : List Event) (isDry : Bool)
  | left

namespace Report

/-- The messages that the watcher sent to its listener, whether or not they were dropped. -/
def emitted (watcher : Watcher) : Report σ → List Event
  | polled poll _ => [poll.event]
  | ran run => watcher.startEvent :: (run.turns.filterMap Turn.event ++ [stopEvent])
  | received _ _ | left => []

def messages : Report σ → List Event
  | received messages _ => messages
  | _ => []

def updates : Report σ → List Update
  | polled poll _ => poll.update?.toList
  | ran run => run.turns.filterMap Turn.update?
  | received _ _ | left => []

def sent (report : Report σ) : List Record := report.updates.map Update.record

def log : Report σ → List Log.Entry
  | polled _ log => log
  | ran run => run.log
  | received _ _ | left => []

/-- The addresses that the API has taken, as far as the watcher knows. -/
def applied (reports : List (Report σ)) : List String :=
  (reports.flatMap updates).filterMap Update.applied?

end Report

structure Session (σ : Type) where
  watcher : Watcher
  state : σ

namespace Session

def nextPoll (world : World σ) (session : Session σ) : Poll σ :=
  session.watcher.poll world session.state

def afterPoll (world : World σ) (session : Session σ) : Session σ :=
  let poll := session.nextPoll world
  ⟨session.watcher.finish poll, poll.afterPush⟩

def perform (world : World σ) (session : Session σ) : Operation → Report σ × Session σ
  | .poll =>
      let poll := session.nextPoll world
      (.polled poll (session.watcher.pollLog poll), session.afterPoll world)
  | .run deadline =>
      let run := session.watcher.run world deadline session.state
      (.ran run, ⟨run.watcher, run.state⟩)
  | .receive most =>
      let channel := session.watcher.channel
      (.received (channel.received most) (channel.runsDry most),
        { session with watcher := session.watcher.drain most })
  | .leave => (.left, { session with watcher := session.watcher.dropListener })

def performAll (world : World σ) (session : Session σ) :
    List Operation → List (Report σ) × Session σ
  | [] => ([], session)
  | operation :: rest =>
      let (report, next) := session.perform world operation
      let (reports, last) := next.performAll world rest
      (report :: reports, last)

end Session

end AddressWatch.Watcher
