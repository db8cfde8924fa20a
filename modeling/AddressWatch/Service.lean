import AddressWatch.CommandLine
import AddressWatch.RecordClient
import AddressWatch.Resolver
import AddressWatch.Watcher.Run

/-!
The service: a watcher over the resolver of a host and the client of an API, from its settings to its
end by a signal.
-/

namespace AddressWatch

/-- What is around a service: a host and the servers that connections meet for each state, and how the
state changes when the host has been asked and when a record has been sent. -/
structure Surroundings (σ : Type) where
  library : Library
  machine : σ → Machine
  servers : σ → List RecordClient.Server
  afterLook : σ → σ
  afterPush : σ → σ

/-- Surroundings that do not change. -/
def Surroundings.constant (library : Library) (machine : Machine)
    (servers : List RecordClient.Server) : Surroundings Unit where
  library := library
  machine _ := machine
  servers _ := servers
  afterLook state := state
  afterPush state := state

structure Service where
  resolver : Resolver
  client : RecordClient
  watcher : Watcher

namespace Service

variable {σ : Type}

inductive Signal where
  | interrupt
  | terminate
deriving DecidableEq, Inhabited

def Signal.name : Signal → String
  | interrupt => "SIGINT"
  | terminate => "SIGTERM"

/-- Why a service does not start with settings that were accepted. -/
inductive Failure where
  | client (error : Error)
  | watcher (error : Error)
deriving DecidableEq, Inhabited

namespace Failure

def exitCode : Failure → UInt8
  | client _ => 1
  | watcher _ => 2

def entry : Failure → Log.Entry
  | client error => Log.error ("Failed to create record API client: " ++ error.message)
  | watcher error => Log.error ("Watcher error: " ++ error.message)

end Failure

def startEntry : Log.Entry :=
  Log.info ("Starting " ++ CommandLine.programName ++ " " ++ CommandLine.version)

/-- What is logged of a failure.  The service has begun when it gets its watcher. -/
def Failure.log (failure : Failure) : List Log.Entry :=
  match failure with
  | client _ => [failure.entry]
  | watcher _ => [startEntry, failure.entry]

/-- The service for the settings.  Nobody listens to its watcher: the log says all that the messages
do. -/
def ofConfig (config : Config) : Except Failure Service :=
  match RecordClient.ofConfig config with
  | .error error => .error (.client error)
  | .ok client =>
      let resolver := Resolver.ofConfig config
      match Watcher.new config resolver.family with
      | .error error => .error (.watcher error)
      | .ok watcher => .ok ⟨resolver, client, watcher.dropListener⟩

/-- The host and the API of the service as its watcher sees them. -/
def world (service : Service) (surroundings : Surroundings σ) : Watcher.World σ where
  describe state := service.resolver.describe (surroundings.machine state)
  clientName := RecordClient.name
  look state :=
    (service.resolver.current (surroundings.machine state), surroundings.afterLook state)
  push state record :=
    ((service.client.upsert surroundings.library (surroundings.servers state) record).act,
      surroundings.afterPush state)

/-- What the log keeps. -/
def level (service : Service) : Log.Level :=
  if service.watcher.config.verbose then .debug else .info

def signalEntry (signal : Signal) : Log.Entry :=
  Log.info ("Received shutdown signal: " ++ signal.name)

/-- The service from its start until a signal at the deadline. -/
def run (service : Service) (surroundings : Surroundings σ) (deadline : Nat) (state : σ) :
    Watcher.Run σ :=
  service.watcher.run (service.world surroundings) deadline state

/-- What is logged before the deadline, with its times. -/
def logBeforeSignal (service : Service) (run : Watcher.Run σ) : List (Nat × Log.Entry) :=
  ((0, startEntry) :: run.logBeforeEnd).filter (·.2.isKept service.level)

def log (service : Service) (run : Watcher.Run σ) (signal : Signal) : List Log.Entry :=
  (service.logBeforeSignal run).map Prod.snd ++
    (signalEntry signal :: run.closing).filter (·.isKept service.level)

/-- When a line with the given text is first logged, if that is before the deadline. -/
def timeOfLine? (service : Service) (run : Watcher.Run σ) (text : String) : Option Nat :=
  ((service.logBeforeSignal run).find? fun (_, entry) =>
    Text.contains text.toList entry.text.toList).map Prod.fst

end Service

end AddressWatch
