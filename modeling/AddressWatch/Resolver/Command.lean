import AddressWatch.Act
import AddressWatch.Error
import AddressWatch.Machine.Process
import AddressWatch.Text.Blank
import AddressWatch.Text.Utf8

/-!
Running a command within a time limit and reading what it printed.
-/

namespace AddressWatch.Resolver

structure Command where
  program : String
  arguments : List String
deriving DecidableEq, Inhabited

/-- The command on one line, for messages. -/
def Command.line (command : Command) : String :=
  " ".intercalate (command.program :: command.arguments)

/-- How a command ended and what it printed, without blanks at the ends. -/
structure Completion where
  /-- The exit code, or -1 when the command was killed. -/
  exitCode : Int
  output : String
  errors : String
deriving DecidableEq, Inhabited

namespace Completion

def isSuccess (completion : Completion) : Bool := completion.exitCode == 0

def decode (bytes : List UInt8) : String := String.ofList (Text.trim (Text.Utf8.decode bytes))

def ofBehaviour (behaviour : Machine.Behaviour) : Completion where
  exitCode := match behaviour.ending with
    | .exited code => code.toNat
    | .killed => -1
  output := decode behaviour.output
  errors := decode behaviour.errors

def exitText (completion : Completion) : String := String.ofList (Json.writeInteger completion.exitCode)

/-- Why a completed command counts as failed. -/
def failure (completion : Completion) : String :=
  if completion.errors = "" then "exit status " ++ completion.exitText
  else "exit status " ++ completion.exitText ++ ": " ++ completion.errors

end Completion

namespace Command

def startEntry (command : Command) : Log.Entry :=
  ⟨.debug, "Executing command", [("command", command.line)]⟩

def endEntry (command : Command) (completion : Completion) : Log.Entry :=
  ⟨.trace, "Command finished", [("command", command.line), ("exit_code", completion.exitText)]⟩

/-- Whether a program that takes `duration` is still running when the limit passes.  Nothing ends
within no time at all. -/
def overruns (duration limit : Duration) : Bool :=
  limit.nanoseconds ≤ duration.nanoseconds

/-- Runs a command for at most the given time. -/
def run (machine : Machine) (limit : Duration) (command : Command) : Act (Except Error Completion) :=
  match machine.spawn command.program command.arguments with
  | .error .notFound =>
      ⟨[command.startEntry], 0, [],
        .error (.environment ("'" ++ command.program ++ "' not found in PATH"))⟩
  | .error fault => ⟨[command.startEntry], 0, [], .error (.commandFailed command.line fault.message)⟩
  | .ok behaviour =>
      if overruns behaviour.duration limit then
        ⟨[command.startEntry], limit.toMilliseconds, [],
          .error (.commandFailed command.line ("timed out after " ++ limit.text))⟩
      else
        let completion := Completion.ofBehaviour behaviour
        ⟨[command.startEntry], behaviour.duration.toMilliseconds, [command.endEntry completion],
          .ok completion⟩

/-- What a completed command printed, or that it failed. -/
def outputOf (command : Command) (completion : Completion) : Except Error String :=
  if completion.isSuccess then .ok completion.output
  else .error (.commandFailed command.line completion.failure)

/-- Runs a command and takes what it printed; any exit code but zero is a failure. -/
def runForOutput (machine : Machine) (limit : Duration) (command : Command) :
    Act (Except Error String) :=
  (command.run machine limit).map (·.bind command.outputOf)

end Command

end AddressWatch.Resolver
