import AddressWatch.CommandLine.Flag
import AddressWatch.CommandLine.Number
import AddressWatch.Text.Similarity
import AddressWatch.Text.Terminal

/-!
Why a command line is refused, and the text that is then printed.
-/

namespace AddressWatch.CommandLine

def programName : String := "dynupdate-watcher"

/-- A reason to refuse a command line.  Where flags are kept, they are the flags that had been read by
then and that the usage shows. -/
inductive Refusal where
  | missing (flags given : List Flag)
  | unknownLong (name : String) (given : List Flag)
  | unknownShort (letter : Char)
  | stray (argument : String)
  | valueMissing (flag : Flag)
  | surplusValue (flag : Flag) (value : String) (given : List Flag)
  | badValue (flag : Flag) (value : String) (fault : Number.Fault)
  | repeated (flag : Flag)
deriving DecidableEq, Inhabited

namespace Refusal

def kind : Refusal → String
  | missing _ _ => "MissingRequiredArgument"
  | unknownLong _ _ | unknownShort _ | stray _ => "UnknownArgument"
  | valueMissing _ => "InvalidValue"
  | surplusValue _ _ _ => "TooManyValues"
  | badValue _ _ _ => "ValueValidation"
  | repeated _ => "ArgumentConflict"

/-- The first line in pieces: what was given is a piece of its own. -/
def summary : Refusal → List String
  | missing _ _ => ["the following required arguments were not provided:"]
  | unknownLong name _ => ["unexpected argument '", "--" ++ name, "' found"]
  | unknownShort letter => ["unexpected argument '", "-" ++ letter.toString, "' found"]
  | stray argument => ["unexpected argument '", argument, "' found"]
  | valueMissing flag => ["a value is required for '" ++ flag.spelling ++ "' but none was supplied"]
  | surplusValue flag value _ => ["unexpected value '", value, "' for '" ++ flag.spelling ++
      "' found; no more were expected"]
  | badValue flag value fault => ["invalid value '", value, "' for '" ++ flag.spelling ++ "': " ++
      fault.message]
  | repeated flag => ["the argument '" ++ flag.spelling ++ "' cannot be used multiple times"]

/-- The more similar of two flags to a name, or the later of two that are equally so. -/
def closer (name : List Char) (best : Option Flag) (flag : Flag) : Option Flag :=
  let similarity (other : Flag) := Text.Similarity.ratio name other.long.toList
  if !Text.Similarity.threshold.le (similarity flag) then best
  else
    match best with
    | none => some flag
    | some other => if (similarity other).le (similarity flag) then some flag else some other

/-- The flag that a name passes for a misspelling of. -/
def similarFlag? (name : String) : Option Flag := Flag.all.foldl (closer name.toList) none

/-- The command with the flags that it needs and further ones. -/
def exampleWith (flags : List Flag) : String :=
  let shown := Flag.required ++ flags.filter fun flag => !flag.isRequired
  " ".intercalate (programName :: shown.map Flag.spelling)

/-- The command with the flags that it needs and room for others. -/
def generalUsage : String :=
  " ".intercalate (programName :: "[OPTIONS]" :: Flag.required.map Flag.spelling)

/-- The usage when some flags have been given. -/
def usageWith (flags : List Flag) : String :=
  if (flags.filter fun flag => !flag.isRequired) = [] then generalUsage else exampleWith flags

def adding (flag : Flag) (given : List Flag) : List Flag :=
  if flag ∈ given then given else given ++ [flag]

/-- What is printed between the refusal and the pointer to the help. -/
def advice : Refusal → String
  | missing flags given =>
      String.join (flags.map fun flag => "\n  " ++ flag.spelling) ++ "\n\nUsage: " ++
        exampleWith given
  | unknownLong name given =>
      match similarFlag? name with
      | none => "\n\nUsage: " ++ usageWith given
      | some flag => "\n\n  tip: a similar argument exists: '--" ++ flag.long ++ "'\n\nUsage: " ++
          usageWith (adding flag given)
  | unknownShort _ | stray _ | repeated _ => "\n\nUsage: " ++ generalUsage
  | valueMissing _ | badValue _ _ _ => ""
  | surplusValue flag _ given => "\n\n" ++ usageWith (adding flag given)

/-- The text of an error from its pieces.  Each has a style of its own, so that what a quoted argument
does to the terminal ends with the argument. -/
def errorText (pieces : List String) : String :=
  String.join (("error: " :: pieces ++ ["\n\nFor more information, try '--help'.\n"]).map
    Text.Terminal.plain)

def text (refusal : Refusal) : String := errorText (refusal.summary ++ [refusal.advice])

end Refusal

end AddressWatch.CommandLine
