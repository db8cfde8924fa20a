import AddressWatch.Duration
import AddressWatch.Error
import AddressWatch.Family
import AddressWatch.Text.Blank

/-!
The settings of the agent: defaults, the checks they have to pass, and the two forms in which they
are shown.  The token appears in neither.
-/

namespace AddressWatch

namespace Config

def defaultApiUrl : String := "http://localhost:8080"

def defaultInterval : UInt64 := 30

def defaultTtl : UInt32 := 300

def defaultCommandTimeout : UInt64 := 10

end Config

/-- What to watch, which record to keep, and how. -/
structure Config where
  interface : String
  recordName : String
  apiUrl : String := Config.defaultApiUrl
  token : String
  /-- Seconds between polls. -/
  interval : UInt64 := Config.defaultInterval
  /-- Seconds the record may be cached. -/
  ttl : UInt32 := Config.defaultTtl
  family : Family := .ipv4
  verbose : Bool := false
  /-- Seconds one command may take. -/
  commandTimeout : UInt64 := Config.defaultCommandTimeout
deriving DecidableEq, Inhabited

namespace Config

def recordsPath : String := "/api/v1/records"

/-- The variable that holds the token when no flag does. -/
def tokenVariable : String := "DYNUPDATE_TOKEN"

/-- The least time to live that the API takes. -/
def minTtl : UInt32 := 60

/-- The greatest time to live that the API takes. -/
def maxTtl : UInt32 := 86400

inductive Fault where
  | blankInterface
  | emptyName
  | unterminatedName (name : String)
  | emptyUrl
  | unknownScheme (url : String)
  | missingToken
  | zeroInterval
  | ttlOutOfRange (ttl : UInt32)
  | zeroCommandTimeout
deriving DecidableEq, Inhabited

def Fault.message : Fault → String
  | blankInterface => "Interface cannot be empty"
  | emptyName => "Record name cannot be empty"
  | unterminatedName name => "Record name must end with a trailing dot: " ++ name
  | emptyUrl => "API URL cannot be empty"
  | unknownScheme url => "API URL must use HTTP or HTTPS scheme. Got: " ++ url
  | missingToken => "Token is required (pass --token or set " ++ tokenVariable ++ ")"
  | zeroInterval => "Interval must be a positive integer: 0"
  | ttlOutOfRange ttl => "TTL must be between " ++ Text.decimal minTtl.toNat ++ " and " ++
      Text.decimal maxTtl.toNat ++ ": " ++ Text.decimal ttl.toNat
  | zeroCommandTimeout => "Command timeout must be a positive integer: 0"

def isBlankName (name : String) : Bool := name.toList.all Text.isBlank

/-- Whether the address of the API begins with one of the two schemes it may have. -/
def hasKnownScheme (url : String) : Bool :=
  "http://".toList.isPrefixOf url.toList || "https://".toList.isPrefixOf url.toList

theorem hasKnownScheme_iff (url : String) :
    hasKnownScheme url = true ↔
      "http://".toList <+: url.toList ∨ "https://".toList <+: url.toList := by
  simp only [hasKnownScheme, Bool.or_eq_true, List.isPrefixOf_iff_prefix]

/-- The first fault of the settings, in the order in which they are checked. -/
def fault? (config : Config) : Option Fault :=
  if isBlankName config.interface then some .blankInterface
  else if config.recordName = "" then some .emptyName
  else if config.recordName.toList.getLast? ≠ some '.' then
    some (.unterminatedName config.recordName)
  else if config.apiUrl = "" then some .emptyUrl
  else if ¬hasKnownScheme config.apiUrl then some (.unknownScheme config.apiUrl)
  else if config.token = "" then some .missingToken
  else if config.interval = 0 then some .zeroInterval
  else if config.ttl < minTtl ∨ maxTtl < config.ttl then some (.ttlOutOfRange config.ttl)
  else if config.commandTimeout = 0 then some .zeroCommandTimeout
  else none

def Accepted (config : Config) : Prop := config.fault? = none

instance (config : Config) : Decidable config.Accepted :=
  inferInstanceAs (Decidable (config.fault? = none))

structure Checked (config : Config) : Prop where
  interface_not_blank : isBlankName config.interface = false
  recordName_ne_empty : config.recordName ≠ ""
  recordName_terminated : config.recordName.toList.getLast? = some '.'
  apiUrl_ne_empty : config.apiUrl ≠ ""
  scheme_known : hasKnownScheme config.apiUrl = true
  token_ne_empty : config.token ≠ ""
  interval_ne_zero : config.interval ≠ 0
  minTtl_le : minTtl ≤ config.ttl
  le_maxTtl : config.ttl ≤ maxTtl
  commandTimeout_ne_zero : config.commandTimeout ≠ 0

theorem accepted_iff_checked (config : Config) : config.Accepted ↔ config.Checked := by
  unfold Accepted fault?
  constructor
  · intro accepted
    constructor <;> grind
  · intro checked
    cases checked
    grind

theorem Accepted.interval_pos {config : Config} (accepted : config.Accepted) :
    0 < config.interval.toNat := by
  rw [Nat.pos_iff_ne_zero]
  intro zero
  exact (config.accepted_iff_checked.mp accepted).interval_ne_zero (UInt64.toNat_inj.mp zero)

def pollInterval (config : Config) : Duration := .ofSeconds config.interval.toNat

def commandLimit (config : Config) : Duration := .ofSeconds config.commandTimeout.toNat

def recordType (config : Config) : RecordType := config.family.recordType

/-- The address of the records below an API: slashes at the end of the API's address do not
count. -/
def endpointBelow (url : String) : String :=
  String.ofList (Text.dropEndWhile (· == '/') url.toList) ++ recordsPath

def endpoint (config : Config) : String := endpointBelow config.apiUrl

/-- The text shown in the place of a token. -/
def redacted : String := Text.Quoted.quote "<REDACTED>"

def layout (config : Config) : Text.Layout where
  name := "WatchConfig"
  fields := [
    ("interface", Text.Quoted.quote config.interface),
    ("record_name", Text.Quoted.quote config.recordName),
    ("api_url", Text.Quoted.quote config.apiUrl),
    ("token", redacted),
    ("interval_secs", Text.decimal config.interval.toNat),
    ("ttl", Text.decimal config.ttl.toNat),
    ("family", config.family.label),
    ("verbose", if config.verbose then "true" else "false"),
    ("command_timeout_secs", Text.decimal config.commandTimeout.toNat)]

def toJson (config : Config) : Json.Value :=
  .object [
    ("interface", .string config.interface),
    ("record_name", .string config.recordName),
    ("api_url", .string config.apiUrl),
    ("interval_secs", .natural config.interval.toNat),
    ("ttl", .natural config.ttl.toNat),
    ("family", .string config.family.tag),
    ("verbose", .bool config.verbose),
    ("command_timeout_secs", .natural config.commandTimeout.toNat)]

end Config

end AddressWatch
