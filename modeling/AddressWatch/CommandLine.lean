import AddressWatch.CommandLine.Reading

/-!
The command line as a whole: from arguments to settings, or to what is printed instead of watching.
-/

namespace AddressWatch.CommandLine

def version : String := "0.1.0"

def purpose : String := "Watch a network interface and keep a DNS record pointed at its address"

def spellings (flag : Flag) : String :=
  match flag.short? with
  | some letter => "  -" ++ letter.toString ++ ", " ++ flag.spelling
  | none => "      " ++ flag.spelling

def spellingsWidth : Nat := (Flag.all.map fun flag => (spellings flag).length).foldl max 0

def flagHelp (flag : Flag) : String :=
  let padding := String.ofList (List.replicate (spellingsWidth - (spellings flag).length + 2) ' ')
  let default := match flag.default? with
    | none => ""
    | some value => " [default: " ++ value ++ "]"
  spellings flag ++ padding ++ flag.purpose ++ default ++ "\n"

def examples : List (String × String) := [
  ("Watch eth0, update A record",
    "dynupdate-watcher -i eth0 -n myhost.example.org. -t secret"),
  ("Tailscale IP via the tailscale CLI",
    "dynupdate-watcher -i tailscale -n myhost.ts.example.org. -t secret"),
  ("Tailscale interface directly (Linux)",
    "dynupdate-watcher -i tailscale0 -n myhost.ts.example.org. -t secret"),
  ("IPv6 on a macOS utun interface",
    "dynupdate-watcher -i utun7 -n myhost.ts.example.org. -t secret --ipv6"),
  ("Token from the environment",
    "DYNUPDATE_TOKEN=secret dynupdate-watcher -i tailscale0 -n myhost.ts.example.org.")]

def helpText : String :=
  purpose ++ "\n\nUsage: " ++ Refusal.generalUsage ++ "\n\nOptions:\n" ++
    String.join (Flag.all.map flagHelp) ++ "\nExamples:\n" ++
    "\n\n".intercalate (examples.map fun (aim, command) => "  # " ++ aim ++ "\n  " ++ command) ++ "\n"

def Inquiry.text : Inquiry → String
  | help => helpText
  | version => programName ++ " " ++ CommandLine.version ++ "\n"

def unusableText (error : Error) : String :=
  Refusal.errorText [error.message ++ "\n\n", "Usage: " ++ Refusal.generalUsage]

inductive Ending where
  | stop (stop : Stop)
  | unusable (error : Error)
deriving DecidableEq, Inhabited

/-- The settings that a command line asks for. -/
def configure (arguments : List String) (environment : Option String) : Except Ending Config :=
  match parse arguments with
  | .error stop => .error (.stop stop)
  | .ok arguments =>
      match arguments.config environment with
      | .error error => .error (.unusable error)
      | .ok config => .ok config

structure Printout where
  exitCode : UInt8
  output : String := ""
  errors : String := ""
deriving DecidableEq, Inhabited

def Ending.printout : Ending → Printout
  | stop (.inquiry inquiry) => { exitCode := 0, output := inquiry.text }
  | stop (.refusal refusal) => { exitCode := 2, errors := refusal.text }
  | unusable error => { exitCode := 1, errors := unusableText error ++ "\n" }

end AddressWatch.CommandLine
