import AddressWatch.Duration

/-!
The files of a host, as far as looking up and running programs depends on them.
-/

namespace AddressWatch.Machine

inductive Ending where
  | exited (code : UInt8)
  | killed
deriving DecidableEq, Inhabited

/-- What a program does when it is run: what it prints, how it ends, and how long that takes. -/
structure Behaviour where
  output : List UInt8
  errors : List UInt8
  ending : Ending
  duration : Duration
deriving DecidableEq, Inhabited

/-- Why a program does not start. -/
inductive SpawnFault where
  /-- The program, or the interpreter that it names, does not exist. -/
  | notFound
  | permissionDenied
  | unknownFormat
  | notDirectory
  | nameTooLong
  | argumentTooLong
  | zeroCharacter
  /-- Anything else that the system can say, and whether a search for the program goes on after it. -/
  | other (message : String) (isPassedOver : Bool)
deriving DecidableEq, Inhabited

/-- What the system finds in a file that it is to run. -/
inductive Content where
  | program (behaviour : Behaviour)
  /-- A script whose interpreter does not exist. -/
  | missingInterpreter
  /-- Neither a script nor a program. -/
  | unknownFormat
  /-- A program that the system does not start, for instance one that another user may execute, or one
  for which it has no process left. -/
  | refused (fault : SpawnFault)
deriving DecidableEq, Inhabited

/-- What a path can lead to.  Of a file's mode the permission bits matter. -/
inductive Node where
  | file (mode : Nat) (content : Content)
  | directory
deriving DecidableEq, Inhabited

inductive PathFault where
  | absent
  | notDirectory
  | tooLong
deriving DecidableEq, Inhabited

/-- The files of a host by their names from the root on, and the directory from which relative paths
start. -/
structure FileSystem where
  nodes : List (List String × Node)
  workingDirectory : List String
deriving Inhabited

namespace FileSystem

/-- What the names lead to.  The root is always a directory. -/
def node? (files : FileSystem) (names : List String) : Option Node :=
  if names = [] then some .directory else files.nodes.lookup names

/-- Follows the parts of a path from a place; every place that is left has to be a directory. -/
def walk (files : FileSystem) (place : List String) :
    List (List Char) → Except PathFault (List String)
  | [] => .ok place
  | part :: rest =>
      match files.node? place with
      | none => .error .absent
      | some (.file _ _) => .error .notDirectory
      | some .directory =>
          if part = [] ∨ part = ['.'] then files.walk place rest
          else if part = ['.', '.'] then files.walk place.dropLast rest
          else
            let name := String.ofList part
            let next := place ++ [name]
            if 255 < name.utf8ByteSize then .error .tooLong
            else if (files.node? next).isNone then .error .absent
            else files.walk next rest

def stat (files : FileSystem) (path : String) : Except PathFault Node :=
  if path = "" then .error .absent
  else if 4096 ≤ path.utf8ByteSize then .error .tooLong
  else
    let start := if path.toList.head? = some '/' then [] else files.workingDirectory
    match files.walk start (Text.splitAt '/' path.toList) with
    | .error fault => .error fault
    | .ok names =>
        match files.node? names with
        | some node => .ok node
        | none => .error .absent

/-- Whether any of the three execute bits of a mode is set. -/
def mayExecute (mode : Nat) : Bool := mode &&& 0o111 != 0

/-- Whether a path leads to a regular file that may be executed. -/
def isExecutable (files : FileSystem) (path : String) : Bool :=
  match files.stat path with
  | .ok (.file mode _) => mayExecute mode
  | _ => false

/-- The proper beginnings of a list of names that are not empty. -/
def ancestors (names : List String) : List (List String) :=
  (List.range names.length).filterMap fun count =>
    if count = 0 then none else some (names.take count)

/-- The files without what is at the names and below. -/
def remove (files : FileSystem) (names : List String) : FileSystem :=
  { files with nodes := files.nodes.filter fun (other, _) => !names.isPrefixOf other }

/-- The files with a node at the names, in the place of what was there, and with directories around
it. -/
def insert (files : FileSystem) (names : List String) (node : Node) : FileSystem :=
  let missing := (ancestors names).filter fun place => (files.node? place).isNone
  let cleared := files.remove names
  { cleared with
    nodes := (names, node) :: missing.map (fun place => (place, .directory)) ++ cleared.nodes }

/-- The files with another mode for the file at the names. -/
def setMode (files : FileSystem) (names : List String) (mode : Nat) : FileSystem :=
  { files with nodes := files.nodes.map fun (other, node) =>
      match node with
      | .file _ content => if other = names then (other, .file mode content) else (other, node)
      | .directory => (other, node) }

end FileSystem

end AddressWatch.Machine
