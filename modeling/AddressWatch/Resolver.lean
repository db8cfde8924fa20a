import AddressWatch.Config
import AddressWatch.Resolver.Command
import AddressWatch.Resolver.Probe
import AddressWatch.Resolver.Report

/-!
The address of an interface as its host reports it.  The choice of the tool is made anew each time,
so a tool that is installed later is used without a restart.
-/

namespace AddressWatch

structure Resolver where
  interface : String
  family : Family
  /-- The longest time one command may take. -/
  limit : Duration := .ofSeconds 10
  /-- The directories to look for programs in, instead of the host's own. -/
  searchPath : Option String := none
deriving Inhabited

namespace Resolver

def ofConfig (config : Config) : Resolver where
  interface := config.interface
  family := config.family
  limit := config.commandLimit

/-- Where the resolver finds a program on a host. -/
def find? (resolver : Resolver) (machine : Machine) (program : String) : Option String :=
  findProgram? machine resolver.searchPath program

/-- The strategy that can be used on a host. -/
def strategy (resolver : Resolver) (machine : Machine) : Except Error Strategy :=
  Strategy.select resolver.interface fun program => (resolver.find? machine program).isSome

def describe (resolver : Resolver) (machine : Machine) : String :=
  match resolver.strategy machine with
  | .ok strategy => strategy.name
  | .error _ => "no resolver available"

/-- The strategy that can be used on a host and the command it runs there. -/
def query (resolver : Resolver) (machine : Machine) : Except Error (Strategy × Command) :=
  match resolver.strategy machine with
  | .error error => .error error
  | .ok strategy =>
      match resolver.find? machine strategy.program with
      | none => .error (.environment ("'" ++ strategy.program ++ "' not found in PATH"))
      | some program =>
          .ok (strategy, ⟨program, strategy.arguments resolver.interface resolver.family⟩)

def queryEntry (resolver : Resolver) (strategy : Strategy) : Log.Entry :=
  Log.debug ("Querying " ++ resolver.family.name ++ " address of " ++ resolver.interface ++ " via " ++
    strategy.name)

/-- The address in what a tool printed. -/
def addressOf (resolver : Resolver) (strategy : Strategy) (output : String) :
    Except Error String :=
  match strategy.parse? resolver.family output with
  | some address => .ok address
  | none => .error (.noAddress (strategy.name ++ " reported no " ++ resolver.family.name ++
      " address for " ++ resolver.interface))

def current (resolver : Resolver) (machine : Machine) : Act (Except Error String) :=
  match resolver.query machine with
  | .error error => .done (.error error)
  | .ok (strategy, command) =>
      ((command.runForOutput machine resolver.limit).map
        (·.bind (resolver.addressOf strategy))).after [resolver.queryEntry strategy]

end Resolver

end AddressWatch
