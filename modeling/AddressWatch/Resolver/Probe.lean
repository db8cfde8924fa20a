import AddressWatch.Machine.Process

/-!
Looking for a program in a list of directories.
-/

namespace AddressWatch.Resolver

/-- The path of a program in a directory.  An absolute program keeps its path, and the empty
directory is the one where relative paths start. -/
def placeIn (program : String) (directory : List Char) : String :=
  if program.toList.head? = some '/' ∨ directory = [] then program
  else if directory.getLast? = some '/' then String.ofList directory ++ program
  else String.ofList directory ++ "/" ++ program

/-- The paths that a program can have, in the order of the directories between colons. -/
def places (program : String) (searchPath : String) : List String :=
  (Text.splitAt ':' searchPath.toList).map (placeIn program)

/-- The path of the first executable file for a program.  Without a search path, the host's own
list of directories is searched. -/
def findProgram? (machine : Machine) (searchPath : Option String) (program : String) :
    Option String :=
  match searchPath.or machine.path with
  | none => none
  | some directories => (places program directories).find? machine.files.isExecutable

end AddressWatch.Resolver
