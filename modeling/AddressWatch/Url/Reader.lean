import AddressWatch.Url

/-!
Reading a URL from text.  Schemes that are known to have hosts are read leniently: any number of
slashes of either kind is skipped in front of the host, and a backslash separates like a slash.
-/

namespace AddressWatch.Url.Reader

/-- The text without what is skipped: control characters and spaces at the ends, tabs and line ends
anywhere. -/
def clean (text : List Char) : List Char :=
  let isOuter (char : Char) : Bool := char.toNat ≤ 0x20
  (Text.dropEndWhile isOuter (text.dropWhile isOuter)).filter fun char =>
    char != '\t' && char != '\n' && char != '\r'

def isSchemeChar (char : Char) : Bool := char.isAlphanum || "+-.".toList.contains char

/-- The scheme in front of the first colon, in lower case, and what follows. -/
def scheme? (text : List Char) : Option (String × List Char) :=
  let scheme := text.takeWhile isSchemeChar
  match text.dropWhile isSchemeChar with
  | ':' :: rest =>
      if (scheme.head?.any Char.isAlpha) then some (String.ofList (scheme.map Char.toLower), rest)
      else none
  | _ => none

/-- Whether a character separates the parts of a path. -/
def isSlash (special : Bool) (char : Char) : Bool := char == '/' || (special && char == '\\')

/-- Whether a character ends the host and what belongs to it. -/
def endsAuthority (special : Bool) (char : Char) : Bool :=
  isSlash special char || char == '?' || char == '#'

/-- The texts before and after the last at sign. -/
def splitUser (text : List Char) : Option (List Char) × List Char :=
  let host := (text.reverse.takeWhile (· != '@')).reverse
  if host.length = text.length then (none, text)
  else (some (text.take (text.length - host.length - 1)), host)

/-- The texts before and after the colon in front of the port.  Colons between brackets belong to the
host. -/
def splitPort (bracketed : Bool) : List Char → List Char × Option (List Char)
  | [] => ([], none)
  | char :: rest =>
      if char = ':' ∧ bracketed = false then ([], some rest)
      else
        let inside := if char = '[' then true else if char = ']' then false else bracketed
        let (host, port) := splitPort inside rest
        (char :: host, port)

/-- The port: none at all, or digits of a number below 2¹⁶. -/
def port? (scheme : String) : Option (List Char) → Option (Option Nat)
  | none | some [] => some none
  | some digits =>
      match Text.readDigits? 10 0 digits with
      | none => none
      | some port =>
          if 65535 < port then none
          else if defaultPort? scheme = some port then some none
          else some (some port)

def encodeUser (text : List Char) : String :=
  String.ofList (Text.Percent.encode Text.Percent.keepsInUserInfo text)

/-- The user and the password of a URL; an empty password does not count. -/
def userInfo (text : List Char) : String × Option String :=
  let user := text.takeWhile (· != ':')
  let password := (text.dropWhile (· != ':')).drop 1
  (encodeUser user, if password = [] then none else some (encodeUser password))

/-- The parts between the slashes and the path. -/
structure Authority where
  user : String
  password : Option String
  host : Host
  port : Option Nat

def authority? (names : HostNames) (scheme : String) (text : List Char) : Option Authority :=
  let special := isSpecial scheme
  let (info, place) := splitUser text
  let (user, password) := userInfo (info.getD [])
  let (hostText, portText) := splitPort false place
  let isIncomplete := hostText = [] ∧
    (special ∨ portText.isSome ∨ user ≠ "" ∨ password.isSome)
  if isIncomplete then none
  else
    match (if special then Host.read? names hostText else Host.readUnknown? names hostText),
        port? scheme portText with
    | some host, some port => some ⟨user, password, host, port⟩
    | _, _ => none

/-- What a segment of a path stands for. -/
inductive Segment where
  | name (text : List Char)
  | here
  | above

/-- The segment that a text denotes; full stops may be encoded. -/
def segment (text : List Char) : Segment :=
  let encoded := Text.Percent.encode Text.Percent.keepsInPath text
  let plain := String.ofList (encoded.map Char.toLower)
  if [".", "%2e"].contains plain then .here
  else if ["..", "%2e.", ".%2e", "%2e%2e"].contains plain then .above
  else .name encoded

/-- The segments, last first, after one more that is not the last one. -/
def enter (names : List (List Char)) (text : List Char) : List (List Char) :=
  match segment text with
  | .name text => text :: names
  | .here => names
  | .above => names.tail

/-- The segments, last first, after the last one.  A path that ends in full stops ends in a slash. -/
def enterLast (names : List (List Char)) (text : List Char) : List (List Char) :=
  match segment text with
  | .name text => text :: names
  | .here => [] :: names
  | .above => [] :: names.tail

def segments (texts : List (List Char)) : List String :=
  let names := enterLast (texts.dropLast.foldl enter []) (texts.getLastD [])
  names.reverse.map String.ofList

/-- A path, whose first slash may be missing. -/
def path (special : Bool) (text : List Char) : Path :=
  match text with
  | [] => .segments (if special then [""] else [])
  | char :: rest =>
      let body := if isSlash special char then rest else char :: rest
      .segments (segments (Text.splitWhere (isSlash special) body))

structure Suffix where
  query : Option String
  fragment : Option String

def suffix (special : Bool) (text : List Char) : Suffix :=
  let queryText := text.takeWhile (· != '#')
  { query := match queryText with
      | [] => none
      | _ :: query => some (String.ofList
          (Text.Percent.encode (Text.Percent.keepsInQuery special) query))
    fragment := match text.dropWhile (· != '#') with
      | [] => none
      | _ :: fragment => some (String.ofList
          (Text.Percent.encode Text.Percent.keepsInFragment fragment)) }

/-- The text of a path and what follows it. -/
def splitSuffix (text : List Char) : List Char × List Char :=
  (text.takeWhile fun char => char != '?' && char != '#',
    text.dropWhile fun char => char != '?' && char != '#')

/-- A URL with a host, from what follows the slashes. -/
def withHost? (names : HostNames) (scheme : String) (text : List Char) : Option Url :=
  let special := isSpecial scheme
  let ends := endsAuthority special
  match authority? names scheme (text.takeWhile (!ends ·)) with
  | none => none
  | some authority =>
      let (pathText, suffixText) := splitSuffix (text.dropWhile (!ends ·))
      let suffix := suffix special suffixText
      some {
        scheme
        user := authority.user
        password := authority.password
        host := some authority.host
        port := authority.port
        path := path special pathText
        query := suffix.query
        fragment := suffix.fragment }

/-- The segments of a path in the file system: empty ones in front do not count. -/
def filePath (path : Path) : Path :=
  match path with
  | .segments segments =>
      match segments.dropWhile (· = "") with
      | [] => .segments [""]
      | kept => .segments kept
  | path => path

/-- A URL of a file, whose host may be missing. -/
def file? (names : HostNames) (text : List Char) : Option Url :=
  let slash := isSlash true
  let (hostText, rest) := match text with
    | first :: second :: rest =>
        if slash first ∧ slash second then
          (rest.takeWhile (!endsAuthority true ·), rest.dropWhile (!endsAuthority true ·))
        else ([], text)
    | text => ([], text)
  let (pathText, suffixText) := splitSuffix rest
  let suffix := suffix true suffixText
  let host := if hostText = [] then some (Host.name "") else Host.read? names hostText
  host.map fun host => {
    scheme := "file"
    host := some (if host.text = "localhost" then .name "" else host)
    path := filePath (path true pathText)
    query := suffix.query
    fragment := suffix.fragment }

/-- A URL without a host, from what follows the scheme. -/
def withoutHost (scheme : String) (text : List Char) : Url :=
  let (pathText, suffixText) := splitSuffix text
  let suffix := suffix false suffixText
  { scheme
    path := match pathText with
      | '/' :: _ => path false pathText
      | pathText => .plain (String.ofList
          (Text.Percent.encode (fun char => Text.Percent.isPrintable char) pathText))
    query := suffix.query
    fragment := suffix.fragment }

end Reader

def read? (names : HostNames) (text : String) : Option Url :=
  match Reader.scheme? (Reader.clean text.toList) with
  | none => none
  | some (scheme, rest) =>
      if scheme = "file" then Reader.file? names rest
      else if isSpecial scheme then
        Reader.withHost? names scheme (rest.dropWhile (Reader.isSlash true))
      else
        match rest with
        | '/' :: '/' :: rest => Reader.withHost? names scheme rest
        | rest => some (Reader.withoutHost scheme rest)

end AddressWatch.Url
