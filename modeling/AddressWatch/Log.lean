/-!
Log records: a level, a message and labelled fields, on one line.
-/

namespace AddressWatch.Log

inductive Level where
  | error
  | warn
  | info
  | debug
  | trace
deriving DecidableEq, Inhabited

def Level.name : Level → String
  | error => "ERROR"
  | warn => "WARN"
  | info => "INFO"
  | debug => "DEBUG"
  | trace => "TRACE"

/-- The place of a level in the order of importance, most important first. -/
def Level.rank : Level → Nat
  | error => 0
  | warn => 1
  | info => 2
  | debug => 3
  | trace => 4

structure Entry where
  level : Level
  message : String
  fields : List (String × String)
deriving DecidableEq, Inhabited

def error (message : String) : Entry := ⟨.error, message, []⟩

def warn (message : String) : Entry := ⟨.warn, message, []⟩

def info (message : String) : Entry := ⟨.info, message, []⟩

def debug (message : String) : Entry := ⟨.debug, message, []⟩

/-- The record on one line: its level, its message, and each field after a blank. -/
def Entry.text (entry : Entry) : String :=
  let fields := entry.fields.map fun (label, value) => " " ++ label ++ "=" ++ value
  entry.level.name ++ " " ++ entry.message ++ String.join fields

/-- Whether a log that keeps records up to `limit` keeps this one. -/
def Entry.isKept (limit : Level) (entry : Entry) : Bool := entry.level.rank ≤ limit.rank

end AddressWatch.Log
