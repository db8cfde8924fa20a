import AddressWatch.CommandLine.Refusal

/-!
Flags with their values, and the settings that they ask for.
-/

namespace AddressWatch.CommandLine

inductive Given where
  | interface (value : String)
  | recordName (value : String)
  | url (value : String)
  | token (value : String)
  | interval (seconds : UInt64)
  | ttl (seconds : UInt32)
  | ipv6
  | verbose
  | commandTimeout (seconds : UInt64)
deriving DecidableEq, Inhabited

/-- What asks for a text instead of settings. -/
inductive Inquiry where
  | help
  | version
deriving DecidableEq, Inhabited

/-- Why reading a command line ends without settings. -/
inductive Stop where
  | inquiry (inquiry : Inquiry)
  | refusal (refusal : Refusal)
deriving DecidableEq, Inhabited

def Given.flag : Given → Flag
  | interface _ => .interface
  | recordName _ => .recordName
  | url _ => .url
  | token _ => .token
  | interval _ => .interval
  | ttl _ => .ttl
  | ipv6 => .ipv6
  | verbose => .verbose
  | commandTimeout _ => .commandTimeout

/-- The flag with its value, if it takes one. -/
def Flag.give (flag : Flag) (value : String) : Except Stop Given :=
  let read {α : Type} (number : Except Number.Fault α) (given : α → Given) : Except Stop Given :=
    match number with
    | .ok number => .ok (given number)
    | .error fault => .error (.refusal (.badValue flag value fault))
  match flag with
  | interface => .ok (.interface value)
  | recordName => .ok (.recordName value)
  | url => .ok (.url value)
  | token => .ok (.token value)
  | interval => read (Number.word64 value.toList) .interval
  | ttl => read (Number.word32 value.toList) .ttl
  | commandTimeout => read (Number.word64 value.toList) .commandTimeout
  | ipv6 => .ok .ipv6
  | verbose => .ok .verbose
  | help => .error (.inquiry .help)
  | version => .error (.inquiry .version)

/-- The flags and values of a command line, in the order in which they were read. -/
structure Arguments where
  given : List Given := []
deriving DecidableEq, Inhabited

namespace Arguments

def flags (arguments : Arguments) : List Flag := arguments.given.map Given.flag

def interface? (arguments : Arguments) : Option String :=
  arguments.given.findSome? fun | .interface value => some value | _ => none

def recordName? (arguments : Arguments) : Option String :=
  arguments.given.findSome? fun | .recordName value => some value | _ => none

def url? (arguments : Arguments) : Option String :=
  arguments.given.findSome? fun | .url value => some value | _ => none

def token? (arguments : Arguments) : Option String :=
  arguments.given.findSome? fun | .token value => some value | _ => none

def interval? (arguments : Arguments) : Option UInt64 :=
  arguments.given.findSome? fun | .interval seconds => some seconds | _ => none

def ttl? (arguments : Arguments) : Option UInt32 :=
  arguments.given.findSome? fun | .ttl seconds => some seconds | _ => none

def commandTimeout? (arguments : Arguments) : Option UInt64 :=
  arguments.given.findSome? fun | .commandTimeout seconds => some seconds | _ => none

def has (arguments : Arguments) (given : Given) : Bool := arguments.given.contains given

def missing (arguments : Arguments) : List Flag :=
  Flag.required.filter (· ∉ arguments.flags)

/-- The token: that of the flag, or else that of the environment.  Empty ones do not count. -/
def tokenOr (arguments : Arguments) (environment : Option String) : Option String :=
  (arguments.token?.filter (· ≠ "")).or (environment.filter (· ≠ ""))

def noToken : String := "--token or $" ++ Config.tokenVariable ++ " is required"

/-- The settings that are asked for, before they are checked. -/
def settings (arguments : Arguments) (token : String) : Config where
  interface := arguments.interface?.getD ""
  recordName := arguments.recordName?.getD ""
  apiUrl := arguments.url?.getD Config.defaultApiUrl
  token := token
  interval := arguments.interval?.getD Config.defaultInterval
  ttl := arguments.ttl?.getD Config.defaultTtl
  family := .ofSwitch (arguments.has .ipv6)
  verbose := arguments.has .verbose
  commandTimeout := arguments.commandTimeout?.getD Config.defaultCommandTimeout

/-- The settings that are asked for, if they can be used. -/
def config (arguments : Arguments) (environment : Option String) : Except Error Config :=
  match arguments.tokenOr environment with
  | none => .error (.config noToken)
  | some token =>
      let config := arguments.settings token
      match config.fault? with
      | some fault => .error (.config fault.message)
      | none => .ok config

end Arguments

end AddressWatch.CommandLine
