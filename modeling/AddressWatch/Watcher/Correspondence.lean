import AddressWatch.RecordClient.Answer
import AddressWatch.Watcher.Session

/-!
A watcher over a client of the record API: a host that may answer in any way, servers for each state, and
what has been said over the connections.
-/

namespace AddressWatch.Watcher

variable {σ : Type}

/-- A host, and the servers that the connections for an update meet. -/
structure Partners (σ : Type) where
  library : Library
  describe : σ → String
  look : σ → Act (Except Error String) × σ
  servers : σ → List RecordClient.Server
  afterPush : σ → Record → σ

/-- The world of a watcher over the client.  Its state also holds the exchanges of every update, oldest
first. -/
def World.ofClient (client : RecordClient) (partners : Partners σ) :
    World (σ × List (List RecordClient.Exchange)) where
  describe state := partners.describe state.1
  clientName := RecordClient.name
  look state := ((partners.look state.1).1, (partners.look state.1).2, state.2)
  push state record :=
    let dispatch := client.upsert partners.library (partners.servers state.1) record
    (dispatch.act, (partners.afterPush state.1 record, state.2 ++ [dispatch.exchanges]))

/-- What an operation shows: everything in its report but the state of the world and the settings. -/
inductive Display where
  | polled (look : Act (Except Error String)) (push : Option (Record × Act Outcome)) (event : Event)
      (lastAccepted : String) (log : List Log.Entry)
  | ran (turns : List Turn) (log : List Log.Entry) (ended : Nat) (lastAccepted : String)
  | received (messages : List Event) (isDry : Bool)
  | left

def Report.display : Report σ → Display
  | polled poll log => .polled poll.look poll.push poll.event poll.lastAccepted log
  | ran run => .ran run.turns run.log run.ended run.watcher.lastAccepted
  | received messages isDry => .received messages isDry
  | left => .left

end AddressWatch.Watcher
