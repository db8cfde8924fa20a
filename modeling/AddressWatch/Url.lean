import AddressWatch.Url.Host

/-!
URLs by their parts, and their text.
-/

namespace AddressWatch

/-- Where a URL leads on its host. -/
inductive Url.Path where
  /-- Segments, each after a slash. -/
  | segments (names : List String)
  /-- A text without a structure. -/
  | plain (text : String)
deriving DecidableEq, Inhabited

/-- A URL.  All texts are written as they are in the URL, with encoded bytes. -/
structure Url where
  scheme : String
  user : String := ""
  password : Option String := none
  host : Option Url.Host := none
  port : Option Nat := none
  path : Url.Path
  query : Option String := none
  fragment : Option String := none

namespace Url

/-- The port that a scheme uses unless another one is named. -/
def defaultPort? : String → Option Nat
  | "http" | "ws" => some 80
  | "https" | "wss" => some 443
  | "ftp" => some 21
  | _ => none

/-- Whether a host belongs to every URL of a scheme. -/
def isSpecial (scheme : String) : Bool := (defaultPort? scheme).isSome

def Path.text : Path → String
  | .segments names => String.join (names.map ("/" ++ ·))
  | .plain text => text

/-- The name and the password in front of the host. -/
def userInfo (url : Url) : String :=
  let password := match url.password with
    | none => ""
    | some password => ":" ++ password
  if url.user = "" ∧ url.password.isNone then "" else url.user ++ password ++ "@"

/-- The host and the port, unless it is the usual one. -/
def hostAndPort (url : Url) : String :=
  let port := match url.port with
    | none => ""
    | some port => ":" ++ Text.decimal port
  ((url.host.map Host.text).getD "") ++ port

/-- What is in front of the path. -/
def authority (url : Url) : String :=
  match url.host, url.path with
  | some _, _ => "//" ++ url.userInfo ++ url.hostAndPort
  | none, .segments ("" :: _ :: _) => "/."
  | none, _ => ""

/-- The path and the query: what is asked for on the host. -/
def target (url : Url) : String :=
  let query := match url.query with
    | none => ""
    | some query => "?" ++ query
  url.path.text ++ query

def text (url : Url) : String :=
  let fragment := match url.fragment with
    | none => ""
    | some fragment => "#" ++ fragment
  url.scheme ++ ":" ++ url.authority ++ url.target ++ fragment

def hasHost (url : Url) : Bool := url.host.any (·.text ≠ "")

/-- The text that encoded bytes denote, if they denote one. -/
def decoded? (text : String) : Option String :=
  let bytes := Text.Percent.decode (Text.Utf8.encode text.toList)
  let chars := Text.Utf8.decode bytes
  if Text.Utf8.encode chars = bytes then some (String.ofList chars) else none

/-- The name and the password that a URL carries. -/
def credentials? (url : Url) : Option (String × Option String) :=
  match decoded? url.user with
  | none => none
  | some user =>
      let password := url.password.bind decoded?
      if user = "" ∧ password.isNone then none else some (user, password)

/-- The URL without name and password. -/
def withoutCredentials (url : Url) : Url := { url with user := "", password := none }

/-- Whether the scheme is one of the web. -/
def isWeb (url : Url) : Bool := ["http", "https"].contains url.scheme

/-- The longest URL to which a request is made, in bytes. -/
def maxLength : Nat := 65534

/-- Whether a URL can stand in a request. -/
def fitsRequest (url : Url) : Bool :=
  url.text.utf8ByteSize ≤ maxLength && !url.hostAndPort.toList.any ("\"`\x7b\x7d".toList.contains ·)

/-- The port to connect to. -/
def knownPort? (url : Url) : Option Nat := url.port.or (defaultPort? url.scheme)

/-- Whether URLs lead to the same host and the same port. -/
def isWith (url other : Url) : Bool :=
  url.host.map Host.text = other.host.map Host.text && url.knownPort? = other.knownPort?

end Url

end AddressWatch
