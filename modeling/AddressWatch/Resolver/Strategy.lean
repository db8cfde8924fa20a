import AddressWatch.Error
import AddressWatch.Family

/-!
The ways to ask a host for the address of an interface, and the choice among them.
-/

namespace AddressWatch.Resolver

/-- A way to ask for an address, named for the tool suite it uses. -/
inductive Strategy where
  | tailscale
  | iproute2
  | ifconfig
deriving DecidableEq, Inhabited

/-- The interface that is asked for with its own tool. -/
def tailscaleInterface : String := "tailscale"

/-- Why no strategy can be used. -/
inductive Missing where
  | tailscaleTool
  | queryTools
deriving DecidableEq, Inhabited

def Missing.message : Missing → String
  | tailscaleTool => "'tailscale' CLI not found in PATH"
  | queryTools => "Neither 'ip' nor 'ifconfig' found in PATH"

namespace Strategy

def name : Strategy → String
  | tailscale => "tailscale"
  | iproute2 => "iproute2"
  | ifconfig => "ifconfig"

def label : Strategy → String
  | tailscale => "Tailscale"
  | iproute2 => "IpRoute2"
  | ifconfig => "Ifconfig"

def program : Strategy → String
  | tailscale => "tailscale"
  | iproute2 => "ip"
  | ifconfig => "ifconfig"

def familyFlag : Family → String
  | .ipv4 => "-4"
  | .ipv6 => "-6"

/-- The arguments with which the program reports the addresses of an interface. -/
def arguments (strategy : Strategy) (interface : String) (family : Family) : List String :=
  match strategy with
  | tailscale => ["ip", familyFlag family]
  | iproute2 => [familyFlag family, "addr", "show", "dev", interface]
  | ifconfig => [interface]

/-- The strategies for an interface, the preferred one first. -/
def candidates (interface : String) : List Strategy :=
  if interface = tailscaleInterface then [tailscale] else [iproute2, ifconfig]

/-- What is missing when no strategy for an interface can be used. -/
def missing (interface : String) : Missing :=
  if interface = tailscaleInterface then .tailscaleTool else .queryTools

/-- The first strategy for an interface whose program is available. -/
def select (interface : String) (available : String → Bool) : Except Error Strategy :=
  match (candidates interface).find? fun strategy => available strategy.program with
  | some strategy => .ok strategy
  | none => .error (.environment (missing interface).message)

/-- The programs of the strategies up to the first one that is available. -/
def askedOf (available : String → Bool) : List Strategy → List String
  | [] => []
  | strategy :: rest =>
      strategy.program :: if available strategy.program then [] else askedOf available rest

/-- The programs whose availability the choice depends on, in the order in which they are asked
for. -/
def asked (interface : String) (available : String → Bool) : List String :=
  askedOf available (candidates interface)

end Strategy

end AddressWatch.Resolver
