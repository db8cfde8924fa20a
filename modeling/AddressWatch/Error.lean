import AddressWatch.Json.Reader
import AddressWatch.Text.Layout
import AddressWatch.Text.Quoted

/-!
What can go wrong between the host and the record API, with one wording for each kind.
-/

namespace AddressWatch

inductive Error where
  /-- The host lacks something that the resolver needs. -/
  | environment (message : String)
  /-- A command was run and failed. -/
  | commandFailed (command reason : String)
  /-- A command succeeded and reported no address of the wanted family. -/
  | noAddress (message : String)
  /-- The settings cannot be used. -/
  | config (message : String)
  /-- The record API could not be talked to. -/
  | http (message : String)
  /-- A text is not JSON. -/
  | json (fault : Json.Fault)
deriving DecidableEq, Inhabited

namespace Error

def kind : Error → String
  | environment _ => "Environment"
  | commandFailed _ _ => "CommandFailed"
  | noAddress _ => "NoAddress"
  | config _ => "Config"
  | http _ => "Http"
  | json _ => "Json"

def message : Error → String
  | environment message => "Environment error: " ++ message
  | commandFailed command reason => "Command `" ++ command ++ "` failed: " ++ reason
  | noAddress message => "No address found: " ++ message
  | config message => "Configuration error: " ++ message
  | http message => "HTTP error: " ++ message
  | json fault => "JSON error: " ++ fault.message

/-- Whether the host, and not the state of the interface, is to blame. -/
def isEnvironment : Error → Bool
  | environment _ => true
  | _ => false

/-- The diagnostic text of an error that carries texts only. -/
def diagnostic? (error : Error) : Option String :=
  match error with
  | environment message | noAddress message | config message | http message =>
      some (error.kind ++ "(" ++ Text.Quoted.quote message ++ ")")
  | commandFailed command reason =>
      some ({ name := error.kind, fields := [("command", Text.Quoted.quote command),
        ("reason", Text.Quoted.quote reason)] : Text.Layout }.inline)
  | json _ => none

end Error

end AddressWatch
