import AddressWatch.Address
import AddressWatch.Watcher.Channel
import AddressWatch.Watcher.Event
import AddressWatch.Watcher.World

/-!
A watcher keeps one record pointed at the address that a host reports.  It remembers the last address
that the API has taken and sends an update when a valid address differs from it.
-/

namespace AddressWatch

structure Watcher where
  config : Config
  accepted : config.Accepted
  /-- The last address that the API has taken; empty if there is none. -/
  lastAccepted : String
  channel : Watcher.Channel Watcher.Event

namespace Watcher

def familyMismatch (reported configured : Family) : Error :=
  .config ("Address source reports " ++ reported.name ++ " but " ++ configured.name ++
    " is configured")

/-- A watcher for the settings over a host that reports addresses of the given family. -/
def new (config : Config) (reported : Family) : Except Error Watcher :=
  match accepted : config.fault? with
  | some fault => .error (.config fault.message)
  | none =>
      if reported ≠ config.family then .error (familyMismatch reported config.family)
      else .ok ⟨config, accepted, "", .empty⟩

/-- A new watcher remembers nothing, and its channel is empty. -/
theorem new_eq_ok_iff (config : Config) (reported : Family) (watcher : Watcher) :
    new config reported = .ok watcher ↔
      ∃ accepted : config.Accepted,
        reported = config.family ∧ watcher = ⟨config, accepted, "", .empty⟩ := by
  unfold new
  split
  next fault faulty =>
    constructor
    · intro made
      contradiction
    · rintro ⟨accepted, _⟩
      rw [Config.Accepted, faulty] at accepted
      contradiction
  next accepted =>
    split
    next mismatch =>
      constructor
      · intro made
        contradiction
      · rintro ⟨_, equality, _⟩
        exact absurd equality mismatch
    next fits =>
      constructor
      · intro made
        exact ⟨accepted, Decidable.not_not.mp fits, (Except.ok.inj made).symm⟩
      · rintro ⟨_, _, rfl⟩
        rfl

def recordFor (watcher : Watcher) (value : String) : Record where
  name := watcher.config.recordName
  type := watcher.config.recordType
  ttl := watcher.config.ttl
  value := value

/-- What the answer of a host means to a watcher. -/
inductive Finding where
  | missing (error : Error)
  /-- The answer is no address of the family. -/
  | malformed (candidate : String)
  /-- The API has the address already. -/
  | same (address : String)
  | changed (address : String)
deriving DecidableEq, Inhabited

def judge (watcher : Watcher) : Except Error String → Finding
  | .error error => .missing error
  | .ok candidate =>
      if !Address.isValid candidate watcher.config.family then .malformed candidate
      else if candidate = watcher.lastAccepted then .same candidate
      else .changed candidate

def recordOf? (watcher : Watcher) : Finding → Option Record
  | .changed address => some (watcher.recordFor address)
  | _ => none

def findingEntry (watcher : Watcher) : Finding → Log.Entry
  | .missing error =>
      if error.isEnvironment then
        Log.error ("Cannot resolve " ++ watcher.config.family.name ++ " address on " ++
          watcher.config.interface ++ ": " ++ error.message)
      else
        Log.warn ("No " ++ watcher.config.recordType.name ++ " address found on " ++
          watcher.config.interface ++ ": " ++ error.message)
  | .malformed candidate =>
      Log.warn ("Invalid IP detected on " ++ watcher.config.interface ++ ": " ++
        Text.Quoted.quote candidate)
  | .same address => Log.debug ("No change: " ++ address)
  | .changed address =>
      Log.info ("IP changed: '" ++ watcher.lastAccepted ++ "' -> '" ++ address ++ "'")

def outcomeEntry (watcher : Watcher) (clientName value : String) (outcome : Outcome) : Log.Entry :=
  let record := watcher.config.recordName ++ " " ++ watcher.config.recordType.name
  if outcome.isApplied then
    Log.debug ("Record " ++ record ++ " now " ++ value ++ " (" ++ outcome.detail ++ ")")
  else
    Log.warn ("Update of " ++ record ++ " to " ++ value ++ " via " ++ clientName ++
      " not applied, retrying next poll: " ++ outcome.detail)

/-- What the watcher remembers after an update. -/
def settle (watcher : Watcher) (value : String) (outcome : Outcome) : String :=
  if outcome.isApplied then value else watcher.lastAccepted

def outcomeEvent (watcher : Watcher) (value : String) (outcome : Outcome) : Event :=
  if outcome.isApplied then .updateSucceeded watcher.lastAccepted value
  else .updateFailed value outcome.detail

def withChannel (watcher : Watcher) (channel : Channel Event) : Watcher :=
  { watcher with channel := channel }

def emit (watcher : Watcher) (event : Event) : Watcher :=
  watcher.withChannel (watcher.channel.send event)

/-- Give the listener at most `most` messages. -/
def drain (watcher : Watcher) (most : Nat) : Watcher :=
  watcher.withChannel (watcher.channel.receive most)

def dropListener (watcher : Watcher) : Watcher := watcher.withChannel watcher.channel.close

end Watcher

end AddressWatch
