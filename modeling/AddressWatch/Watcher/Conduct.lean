import AddressWatch.Watcher.Session

/-!
What a watcher does apart from telling its listener about it: its polls, and the turns of its runs
without their log.
-/

namespace AddressWatch.Watcher

variable {σ : Type}

/-- Whether an operation is the watcher's own, and not one of its listener. -/
def Operation.isOwn : Operation → Bool
  | poll | run _ => true
  | receive _ | leave => false

/-- A turn without its log. -/
structure Move where
  start : Nat
  timedUpdate : Option (Nat × Update)
  event : Option Event
deriving DecidableEq, Inhabited

def Turn.move (turn : Turn) : Move := ⟨turn.start, turn.timedUpdate, turn.event⟩

/-- What the watcher does in an operation of its own, what it remembers then, and what the world is
like. -/
inductive Conduct (σ : Type) where
  | polled (poll : Poll σ)
  | ran (moves : List Move) (ended : Nat) (lastAccepted : String) (state : σ)

def Report.conduct? : Report σ → Option (Conduct σ)
  | polled poll _ => some (.polled poll)
  | ran run => some (.ran (run.turns.map Turn.move) run.ended run.watcher.lastAccepted run.state)
  | received _ _ | left => none

end AddressWatch.Watcher
