/-!
Text for a terminal without what would control it: escape sequences and control characters are left
out, and line ends, tabs and form feeds are kept.
-/

namespace AddressWatch.Text.Terminal

/-- Where in an escape sequence a character stands. -/
inductive State where
  /-- In no sequence. -/
  | ground
  /-- After the escape character, and possibly after intermediate characters. -/
  | escape (intermediate : Bool)
  /-- In a control sequence, which ends with a letter or a sign above it. -/
  | control
  /-- In a command to the operating system, which ends with a bell. -/
  | command
  /-- In another string, which ends with the next escape character. -/
  | string
deriving DecidableEq, Inhabited

/-- A control character that only moves the place of printing. -/
def isSpacing (char : Char) : Bool :=
  char == '\t' || char == '\n' || char == '\x0c' || char == '\r'

/-- The state after the character behind the escape character. -/
def enter (char : Char) : State :=
  if char = '[' then .control
  else if char = ']' then .command
  else if char = 'P' ∨ char = 'X' ∨ char = '^' ∨ char = '_' then .string
  else .ground

/-- Whether a state ends at a control character that moves the place of printing. -/
def State.yields : State → Bool
  | ground | escape _ | control => true
  | command | string => false

/-- The state after a character, and whether the character is kept. -/
def step (state : State) (char : Char) : State × Bool :=
  let code := char.toNat
  if code = 0x1b then (.escape false, false)
  else if code = 0x18 ∨ code = 0x1a then (.ground, false)
  else if 0x80 ≤ code then (.ground, true)
  else if code = 0x7f then (state, false)
  else if isSpacing char ∧ state.yields then (.ground, true)
  else
    match state with
    | .ground => (.ground, 0x20 ≤ code)
    | .escape intermediate =>
        if code < 0x20 then (state, false)
        else if code < 0x30 then (.escape true, false)
        else if intermediate then (.ground, false)
        else (enter char, false)
    | .control => (if 0x40 ≤ code then .ground else .control, false)
    | .command => (if code = 7 then .ground else .command, false)
    | .string => (.string, false)

/-- The state and the characters kept so far, last first, after one more character. -/
def advance (progress : State × List Char) (char : Char) : State × List Char :=
  match step progress.1 char with
  | (state, true) => (state, char :: progress.2)
  | (state, false) => (state, progress.2)

/-- The text without what would control a terminal. -/
def plain (text : String) : String :=
  String.ofList (text.toList.foldl advance (.ground, [])).2.reverse

end AddressWatch.Text.Terminal
