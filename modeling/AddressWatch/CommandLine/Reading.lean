import AddressWatch.CommandLine.Given

/-!
Reading a command line argument by argument.  A flag takes effect when it is complete: at once if it
takes no value or has one attached, and otherwise when the next flag takes effect or the arguments
end.
-/

namespace AddressWatch.CommandLine

/-- A command line of which some arguments have been read. -/
structure Reading where
  /-- What has taken effect. -/
  arguments : Arguments := {}
  /-- A flag that has not taken effect, with its value if that has been read. -/
  pending : Option (Flag × Option String) := none
  /-- Whether two hyphens have ended the flags. -/
  ended : Bool := false
deriving DecidableEq, Inhabited

namespace Reading

/-- Let a flag take effect. -/
def apply (reading : Reading) (flag : Flag) (value : Option String) : Except Stop Reading :=
  if flag.takesValue ∧ value = none then .error (.refusal (.valueMissing flag))
  else if flag ∈ reading.arguments.flags then .error (.refusal (.repeated flag))
  else
    match flag.give (value.getD "") with
    | .error stop => .error stop
    | .ok given => .ok { reading with arguments := ⟨reading.arguments.given ++ [given]⟩ }

/-- Let the pending flag take effect. -/
def settle (reading : Reading) : Except Stop Reading :=
  match reading.pending with
  | none => .ok reading
  | some (flag, value) => { reading with pending := none }.apply flag value

/-- Let the pending flag take effect, and then another one. -/
def complete (reading : Reading) (flag : Flag) (value : Option String) : Except Stop Reading :=
  match reading.settle with
  | .error stop => .error stop
  | .ok settled => settled.apply flag value

/-- Let the pending flag take effect, and wait for the value of another one. -/
def await (reading : Reading) (flag : Flag) : Except Stop Reading :=
  match reading.settle with
  | .error stop => .error stop
  | .ok settled => .ok { settled with pending := some (flag, none) }

/-- The flags that a refusal shows as given.  A pending flag with a value is one of them, unless it is
given a second time. -/
def shown (reading : Reading) : List Flag :=
  let flags := reading.arguments.flags
  match reading.pending with
  | some (flag, some _) => if flag ∈ flags then flags.filter (· ≠ flag) else flags ++ [flag]
  | _ => flags

/-- Read what follows two hyphens. -/
def long (reading : Reading) (text : List Char) : Except Stop Reading :=
  let name := String.ofList (text.takeWhile (· != '='))
  let value := match text.dropWhile (· != '=') with
    | [] => none
    | _ :: value => some (String.ofList value)
  match Flag.ofLong? name with
  | none => .error (.refusal (.unknownLong name reading.shown))
  | some flag =>
      match flag.takesValue, value with
      | true, none => reading.await flag
      | true, some value => reading.complete flag (some value)
      | false, none => reading.complete flag none
      | false, some value =>
          .error (.refusal (.surplusValue flag value reading.arguments.flags))

/-- Read the letters that follow one hyphen.  What follows the letter of a flag with a value is that
value, and an equals sign in front of it does not count. -/
def short (reading : Reading) : List Char → Except Stop Reading
  | [] => .ok reading
  | letter :: rest =>
      match Flag.ofShort? letter with
      | none => .error (.refusal (.unknownShort letter))
      | some flag =>
          if flag.takesValue then
            match rest with
            | [] => reading.await flag
            | '=' :: value => reading.complete flag (some (String.ofList value))
            | value => reading.complete flag (some (String.ofList value))
          else
            match reading.complete flag none with
            | .error stop => .error stop
            | .ok next => next.short rest

/-- Read an argument that is no flag: the value that is waited for. -/
def plain (reading : Reading) (argument : String) : Except Stop Reading :=
  match reading.pending with
  | some (flag, none) =>
      if reading.ended then .error (.refusal (.stray argument))
      else .ok { reading with pending := some (flag, some argument) }
  | _ => .error (.refusal (.stray argument))

def step (reading : Reading) (argument : String) : Except Stop Reading :=
  if reading.ended then reading.plain argument
  else
    match argument.toList with
    | ['-', '-'] => .ok { reading with ended := true }
    | '-' :: '-' :: text => reading.long text
    | '-' :: letter :: rest => reading.short (letter :: rest)
    | _ => reading.plain argument

def all (reading : Reading) : List String → Except Stop Reading
  | [] => .ok reading
  | argument :: rest =>
      match reading.step argument with
      | .error stop => .error stop
      | .ok next => next.all rest

/-- What the arguments come to when they end. -/
def finish (reading : Reading) : Except Stop Arguments :=
  match reading.settle with
  | .error stop => .error stop
  | .ok settled =>
      let arguments := settled.arguments
      match arguments.missing with
      | [] => .ok arguments
      | missing => .error (.refusal (.missing missing arguments.flags))

end Reading

def parse (arguments : List String) : Except Stop Arguments :=
  match ({} : Reading).all arguments with
  | .error stop => .error stop
  | .ok reading => reading.finish

end AddressWatch.CommandLine
