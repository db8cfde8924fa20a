import AddressWatch.Launch

/-!
The program.  It reads the command line, and then watches a host whose reports arrive on standard
input, one address a line, while the API is out of reach.
-/

open AddressWatch

def printLog (level : Log.Level) (entries : List Log.Entry) : IO Unit :=
  for entry in entries do
    if entry.isKept level then IO.println entry.text

/-- A host that has reported a line, and an API that is out of reach. -/
def reportedWorld (client : RecordClient) : Watcher.World String where
  describe _ := "standard input"
  clientName := RecordClient.name
  look line := (.done (.ok line), line)
  push line record := ((client.upsert .basic [] record).act, line)

/-- Poll once for each line of standard input. -/
partial def watchLines (service : Service) (input : IO.FS.Stream) (watcher : Watcher) : IO Unit := do
  let line ← input.getLine
  if line.isEmpty then return
  let poll := watcher.poll (reportedWorld service.client) (String.ofList (Text.trim line.toList))
  printLog service.level (watcher.pollLog poll)
  watchLines service input (watcher.finish poll)

/-- Watch until standard input ends. -/
def watch (service : Service) : IO Unit := do
  let world := reportedWorld service.client
  printLog service.level (Service.startEntry :: service.watcher.startLog (world.describe ""))
  watchLines service (← IO.getStdin) service.watcher
  printLog service.level [Watcher.stopEntry]

def main (arguments : List String) : IO UInt32 := do
  let environment ← IO.getEnv Config.tokenVariable
  match Launch.ofArguments arguments environment with
  | .printed printout =>
      IO.print printout.output
      IO.eprint printout.errors
      return printout.exitCode.toUInt32
  | .failed failure =>
      printLog .info failure.log
      return failure.exitCode.toUInt32
  | .watching service =>
      watch service
      return 0
