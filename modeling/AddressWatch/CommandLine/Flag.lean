import AddressWatch.Config

/-!
The flags of the command line: their spellings, the values they take, and what the help says of them.
-/

namespace AddressWatch.CommandLine

inductive Flag where
  | interface
  | recordName
  | url
  | token
  | interval
  | ttl
  | ipv6
  | verbose
  | commandTimeout
  | help
  | version
deriving DecidableEq, Inhabited

namespace Flag

/-- The flags in the order of the help. -/
def all : List Flag :=
  [interface, recordName, url, token, interval, ttl, ipv6, verbose, commandTimeout, help, version]

/-- The name after two hyphens. -/
def long : Flag → String
  | interface => "interface"
  | recordName => "name"
  | url => "url"
  | token => "token"
  | interval => "interval"
  | ttl => "ttl"
  | ipv6 => "ipv6"
  | verbose => "verbose"
  | commandTimeout => "command-timeout"
  | help => "help"
  | version => "version"

/-- The letter after one hyphen. -/
def short? : Flag → Option Char
  | interface => some 'i'
  | recordName => some 'n'
  | url => some 'u'
  | token => some 't'
  | interval => some 'I'
  | ttl => some 'T'
  | ipv6 => none
  | verbose => some 'v'
  | commandTimeout => none
  | help => some 'h'
  | version => some 'V'

/-- What stands for the value of a flag that takes one. -/
def placeholder? : Flag → Option String
  | interface => some "INTERFACE"
  | recordName => some "NAME"
  | url => some "URL"
  | token => some "TOKEN"
  | interval | ttl | commandTimeout => some "SECS"
  | ipv6 | verbose | help | version => none

def takesValue (flag : Flag) : Bool := flag.placeholder?.isSome

def isRequired : Flag → Bool
  | interface | recordName => true
  | _ => false

def default? : Flag → Option String
  | url => some Config.defaultApiUrl
  | interval => some (Text.decimal Config.defaultInterval.toNat)
  | ttl => some (Text.decimal Config.defaultTtl.toNat)
  | commandTimeout => some (Text.decimal Config.defaultCommandTimeout.toNat)
  | _ => none

def purpose : Flag → String
  | interface => "Interface to watch (e.g. eth0, utun7) or \"tailscale\" for the tailscale CLI"
  | recordName => "DNS record name, fully qualified with trailing dot"
  | url => "Record API base URL"
  | token => "Bearer token (falls back to $" ++ Config.tokenVariable ++ ")"
  | interval => "Poll interval in seconds"
  | ttl => "Record TTL in seconds (60-86400)"
  | ipv6 => "Watch the IPv6 address and update an AAAA record"
  | verbose => "Debug logging"
  | commandTimeout => "Upper bound for one interface query command"
  | help => "Print help"
  | version => "Print version"

def ofLong? (name : String) : Option Flag := all.find? (·.long = name)

def ofShort? (letter : Char) : Option Flag := all.find? (·.short? = some letter)

def spelling (flag : Flag) : String :=
  match flag.placeholder? with
  | none => "--" ++ flag.long
  | some placeholder => "--" ++ flag.long ++ " <" ++ placeholder ++ ">"

def required : List Flag := all.filter isRequired

end Flag

end AddressWatch.CommandLine
