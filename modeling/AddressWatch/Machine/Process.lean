import AddressWatch.Machine.FileSystem

/-!
Starting programs: which file a program's name means, and why starting it can fail.
-/

namespace AddressWatch

/-- A host: its files, and the list of directories in which it looks for programs. -/
structure Machine where
  files : Machine.FileSystem
  path : Option String
deriving Inhabited

namespace Machine

def SpawnFault.message : SpawnFault → String
  | notFound => "No such file or directory (os error 2)"
  | permissionDenied => "Permission denied (os error 13)"
  | unknownFormat => "Exec format error (os error 8)"
  | notDirectory => "Not a directory (os error 20)"
  | nameTooLong => "File name too long (os error 36)"
  | argumentTooLong => "Argument list too long (os error 7)"
  | zeroCharacter => "nul byte found in provided data"
  | other message _ => message

/-- Whether a search for a program goes on in the next directory after this. -/
def SpawnFault.isPassedOver : SpawnFault → Bool
  | notFound | notDirectory | permissionDenied => true
  | other _ isPassedOver => isPassedOver
  | unknownFormat | nameTooLong | argumentTooLong | zeroCharacter => false

/-- Starts the file at a path. -/
def FileSystem.execute (files : FileSystem) (path : String) (arguments : List String) :
    Except SpawnFault Behaviour :=
  match files.stat path with
  | .error .absent => .error .notFound
  | .error .notDirectory => .error .notDirectory
  | .error .tooLong => .error .nameTooLong
  | .ok .directory => .error .permissionDenied
  | .ok (.file mode content) =>
      if !FileSystem.mayExecute mode then .error .permissionDenied
      else if arguments.any (131072 ≤ ·.utf8ByteSize) then .error .argumentTooLong
      else
        match content with
        | .program behaviour => .ok behaviour
        | .missingInterpreter => .error .notFound
        | .unknownFormat => .error .unknownFormat
        | .refused fault => .error fault

/-- Starts a program from the first directory that has it.  What is reported if none has is the last
fault that was passed over, or that a file may not be executed if there was one. -/
def searchPath (files : FileSystem) (program : String) (arguments : List String) :
    (reported : SpawnFault) → List (List Char) → Except SpawnFault Behaviour
  | reported, [] => .error reported
  | reported, directory :: rest =>
      let place := if directory = [] then program else String.ofList directory ++ "/" ++ program
      match files.execute place arguments with
      | .ok behaviour => .ok behaviour
      | .error fault =>
          if fault.isPassedOver then
            searchPath files program arguments
              (if reported = .permissionDenied then reported else fault) rest
          else .error fault

/-- The directories that are searched when the host has no list of its own. -/
def fallbackPath : String := "/bin:/usr/bin"

/-- Starts a program.  A name with a slash is a path; any other is searched for in the directories
of the host. -/
def spawn (machine : Machine) (program : String) (arguments : List String) :
    Except SpawnFault Behaviour :=
  if (program :: arguments).any (·.toList.any (· == '\x00')) then .error .zeroCharacter
  else if program = "" then .error .notFound
  else if program.toList.any (· == '/') then machine.files.execute program arguments
  else
    searchPath machine.files program arguments .notFound
      (Text.splitAt ':' (machine.path.getD fallbackPath).toList)

end Machine

end AddressWatch
