import AddressWatch.Http.Charset
import AddressWatch.Url.Reader

/-!
What a client of the web takes from elsewhere: names of hosts, the texts of bodies, and references in
place of URLs.
-/

namespace AddressWatch

/-- A library of the web. -/
structure Library where
  hostNames : Url.HostNames
  /-- The text of a body, whose response may name a type. -/
  text : (type : Option (List UInt8)) → (body : List UInt8) → String
  /-- Where a reference leads that is found at a URL, if requests can be made for it. -/
  resolve? : (found : Url) → (reference : List UInt8) → Option Url

namespace Library

/-- What a reference leads to if it is a URL or a path. -/
def resolveWhole? (found : Url) (reference : List UInt8) : Option Url :=
  let text := String.ofList (Text.Utf8.decode reference)
  let whole := match text.toList with
    | '/' :: '/' :: _ => found.scheme ++ ":" ++ text
    | '/' :: _ => found.scheme ++ ":" ++ found.authority ++ text
    | _ => text
  (Url.read? .basic whole).filter Url.fitsRequest

/-- The library as far as it is written here: for names and encodings that need no tables, and for
references that are URLs or paths. -/
def basic : Library where
  hostNames := .basic
  text type body := String.ofList ((Http.Charset.ofType type).decode body)
  resolve? := resolveWhole?

end Library

end AddressWatch
