import AddressWatch.CommandLine.Spelling
import AddressWatch.Proofs.CommandLine.Number
import Mathlib.Data.List.TakeWhile

/-!
# Flags written on a command line and read back

A flag is read as itself, with its value, in each of its spellings, and so are flags one after the
other.
-/

namespace AddressWatch.CommandLine

namespace Flag

variable {flag : Flag} {letter : Char}

theorem ofLong?_long (flag : Flag) : ofLong? flag.long = some flag := by
  cases flag <;> decide +kernel

theorem long_ne_nil (flag : Flag) : flag.long.toList ≠ [] := by
  cases flag <;> decide

theorem ne_equals_of_mem_long (flag : Flag) : ∀ char ∈ flag.long.toList, (char != '=') = true :=
  List.all_eq_true.mp (by cases flag <;> decide)

theorem ofShort?_short (lettered : flag.short? = some letter) : ofShort? letter = some flag := by
  cases flag <;> cases lettered <;> decide +kernel

theorem ne_hyphen_of_short? (lettered : flag.short? = some letter) : letter ≠ '-' := by
  cases flag <;> cases lettered <;> decide

end Flag

namespace Given

theorem takesValue_flag (given : Given) : given.flag.takesValue = given.value?.isSome := by
  cases given <;> rfl

/-- A value is read back from how it is written. -/
theorem give_flag (given : Given) : given.flag.give (given.value?.getD "") = .ok given := by
  cases given with
  | interface | recordName | url | token | ipv6 | verbose => rfl
  | interval seconds => simp only [flag, value?, Option.getD_some, Flag.give, Number.word64_decimal]
  | commandTimeout seconds =>
      simp only [flag, value?, Option.getD_some, Flag.give, Number.word64_decimal]
  | ttl seconds => simp only [flag, value?, Option.getD_some, Flag.give, Number.word32_decimal]

end Given

namespace Reading

/-- A command line of which these flags have been read and have taken effect. -/
def of (given : List Given) : Reading := { arguments := ⟨given⟩ }

/-- These flags have been read.  The last of them may not have taken effect. -/
structure Settles (reading : Reading) (given : List Given) : Prop where
  settle_eq : reading.settle = .ok (of given)
  not_ended : reading.ended = false

variable {reading next : Reading} {given : List Given} {option : Given} {value : String}

theorem settles_of (given : List Given) : (of given).Settles given := ⟨rfl, rfl⟩

theorem apply_of (new : option.flag ∉ given.map Given.flag) :
    (of given).apply option.flag option.value? = .ok (of (given ++ [option])) := by
  have valued : ¬ (option.flag.takesValue = true ∧ option.value? = none) := by
    rintro ⟨takes, unvalued⟩
    rw [option.takesValue_flag, unvalued] at takes
    contradiction
  have absent : option.flag ∉ (of given).arguments.flags := new
  rw [apply, if_neg valued, if_neg absent, option.give_flag]
  rfl

theorem Settles.complete_eq (settles : reading.Settles given)
    (new : option.flag ∉ given.map Given.flag) :
    reading.complete option.flag option.value? = .ok (of (given ++ [option])) := by
  simp only [complete, settles.settle_eq, apply_of new]

/-- A flag that waits for its value, or for what follows it. -/
def awaiting (given : List Given) (flag : Flag) (value : Option String) : Reading :=
  { of given with pending := some (flag, value) }

theorem Settles.await_eq (settles : reading.Settles given) (flag : Flag) :
    reading.await flag = .ok (awaiting given flag none) := by
  simp only [await, settles.settle_eq]
  rfl

theorem settles_awaiting (new : option.flag ∉ given.map Given.flag)
    (valued : option.value? = some value) :
    (awaiting given option.flag (some value)).Settles (given ++ [option]) :=
  ⟨valued ▸ apply_of new, rfl⟩

/-! ## Arguments one by one -/

variable {argument : String} {arguments : List String}

theorem all_cons_of_step (stepped : reading.step argument = .ok next) (arguments : List String) :
    reading.all (argument :: arguments) = next.all arguments := by
  simp only [all, stepped]

theorem all_singleton_of_step (stepped : reading.step argument = .ok next) :
    reading.all [argument] = .ok next :=
  all_cons_of_step stepped []

theorem all_append_of_all (before : reading.all arguments = .ok next) (more : List String) :
    reading.all (arguments ++ more) = next.all more := by
  induction arguments generalizing reading with
  | nil =>
      cases before
      rfl
  | cons argument arguments inductionHypothesis =>
      cases stepped : reading.step argument with
      | error stop =>
          simp only [all, stepped] at before
          contradiction
      | ok further =>
          rw [all_cons_of_step stepped] at before
          rw [List.cons_append, all_cons_of_step stepped, inductionHypothesis before]

theorem step_eq_long (unended : reading.ended = false) {text : List Char} (some : text ≠ [])
    (argument_eq : argument.toList = '-' :: '-' :: text) : reading.step argument = reading.long text := by
  cases text with
  | nil => contradiction
  | cons char text => simp [step, unended, argument_eq]

theorem step_eq_short (unended : reading.ended = false) {letter : Char} (other : letter ≠ '-')
    {rest : List Char} (argument_eq : argument.toList = '-' :: letter :: rest) :
    reading.step argument = reading.short (letter :: rest) := by
  simp [step, unended, argument_eq, other]

theorem step_awaiting (flag : Flag) (plain : Given.IsPlain value) :
    (awaiting given flag none).step value = .ok (awaiting given flag (some value)) := by
  have begins : ∀ rest, value.toList ≠ '-' :: rest := by
    intro rest begins
    exact (plain '-' (by rw [begins]; rfl)).1 rfl
  have stepped : (awaiting given flag none).step value = (awaiting given flag none).plain value := by
    unfold step
    split
    · contradiction
    · split
      next hyphens => exact absurd hyphens (begins _)
      next hyphens => exact absurd hyphens (begins _)
      next hyphen => exact absurd hyphen (begins _)
      next => rfl
  rw [stepped]
  rfl

/-! ## Flags in their spellings -/

variable {flag : Flag} {letter : Char}

theorem toList_long (flag : Flag) : ("--" ++ flag.long).toList = '-' :: '-' :: flag.long.toList := by
  rw [String.toList_append]
  rfl

theorem toList_short (letter : Char) : ("-" ++ letter.toString).toList = ['-', letter] := by
  rw [String.toList_append, Char.toString, String.toList_singleton]
  rfl

theorem step_attached (unended : reading.ended = false) (takes : flag.takesValue = true)
    (value : String) :
    reading.step ("--" ++ flag.long ++ "=" ++ value) = reading.complete flag (some value) := by
  have argument_eq : ("--" ++ flag.long ++ "=" ++ value).toList =
      '-' :: '-' :: (flag.long.toList ++ '=' :: value.toList) := by
    rw [String.toList_append, String.toList_append, toList_long, List.append_assoc]
    rfl
  have name : (flag.long.toList ++ '=' :: value.toList).takeWhile (· != '=') =
      flag.long.toList := by
    rw [List.takeWhile_append_of_pos flag.ne_equals_of_mem_long]
    simp
  have behind : (flag.long.toList ++ '=' :: value.toList).dropWhile (· != '=') =
      '=' :: value.toList := by
    rw [List.dropWhile_append_of_pos flag.ne_equals_of_mem_long]
    simp
  rw [step_eq_long unended (by simp) argument_eq]
  simp only [long, name, behind, String.ofList_toList, flag.ofLong?_long, takes]

theorem step_bare (settles : reading.Settles given) (flag : Flag) :
    reading.step ("--" ++ flag.long) =
      match flag.takesValue with
      | true => reading.await flag
      | false => reading.complete flag none := by
  have name : flag.long.toList.takeWhile (· != '=') = flag.long.toList :=
    List.takeWhile_eq_self_iff.mpr flag.ne_equals_of_mem_long
  have behind : flag.long.toList.dropWhile (· != '=') = [] :=
    List.dropWhile_eq_nil_iff.mpr flag.ne_equals_of_mem_long
  rw [step_eq_long settles.not_ended flag.long_ne_nil (toList_long flag)]
  simp only [long, name, behind, String.ofList_toList, flag.ofLong?_long]
  cases flag.takesValue <;> rfl

theorem step_short (settles : reading.Settles given) (lettered : flag.short? = some letter) :
    reading.step ("-" ++ letter.toString) =
      match flag.takesValue with
      | true => reading.await flag
      | false => reading.complete flag none := by
  rw [step_eq_short settles.not_ended (Flag.ne_hyphen_of_short? lettered) (toList_short letter)]
  simp only [short, Flag.ofShort?_short lettered]
  cases flag.takesValue with
  | true => rfl
  | false => cases completed : reading.complete flag none <;> rfl

theorem step_shortAttached (settles : reading.Settles given)
    (lettered : flag.short? = some letter) (takes : flag.takesValue = true) (value : String) :
    reading.step ("-" ++ letter.toString ++ "=" ++ value) = reading.complete flag (some value) := by
  have argument_eq : ("-" ++ letter.toString ++ "=" ++ value).toList =
      '-' :: letter :: '=' :: value.toList := by
    rw [String.toList_append, String.toList_append, toList_short]
    rfl
  rw [step_eq_short settles.not_ended (Flag.ne_hyphen_of_short? lettered) argument_eq, short,
    Flag.ofShort?_short lettered]
  simp only [takes, if_true, String.ofList_toList]

theorem step_shortJoined (settles : reading.Settles given)
    (lettered : flag.short? = some letter) (takes : flag.takesValue = true)
    (plain : Given.IsPlain value) (nonempty : value ≠ "") :
    reading.step ("-" ++ letter.toString ++ value) = reading.complete flag (some value) := by
  have argument_eq : ("-" ++ letter.toString ++ value).toList = '-' :: letter :: value.toList := by
    rw [String.toList_append, toList_short]
    rfl
  rw [step_eq_short settles.not_ended (Flag.ne_hyphen_of_short? lettered) argument_eq, short,
    Flag.ofShort?_short lettered]
  simp only [takes, if_true]
  split
  next empty => exact absurd (String.toList_eq_nil_iff.mp empty) nonempty
  next equals => exact absurd rfl (plain '=' (by rw [equals]; rfl)).2
  next => rw [String.ofList_toList]

/-- A flag that is written in one of its ways is read as this flag. -/
theorem Settles.spelling (settles : reading.Settles given)
    (new : option.flag ∉ given.map Given.flag) (nonempty : option.value? ≠ some "")
    (spelled : option.Spelling arguments) :
    ∃ next, reading.all arguments = .ok next ∧ next.Settles (given ++ [option]) := by
  have completed := settles.complete_eq new
  have takes := option.takesValue_flag
  have awaited := settles.await_eq option.flag
  cases spelled with
  | attached valued =>
      rw [valued] at completed takes
      refine ⟨_, all_singleton_of_step ?_, settles_of _⟩
      rw [step_attached settles.not_ended takes, completed]
  | @separate value valued plain =>
      rw [valued] at takes
      have stepped := step_bare settles option.flag
      rw [takes] at stepped
      rw [all_cons_of_step (stepped.trans awaited)]
      exact ⟨_, all_singleton_of_step (step_awaiting _ plain), settles_awaiting new valued⟩
  | shortSeparate valued plain lettered =>
      rw [valued] at takes
      have stepped := step_short settles lettered
      rw [takes] at stepped
      rw [all_cons_of_step (stepped.trans awaited)]
      exact ⟨_, all_singleton_of_step (step_awaiting _ plain), settles_awaiting new valued⟩
  | shortJoined valued plain lettered =>
      rw [valued] at completed takes nonempty
      refine ⟨_, all_singleton_of_step ?_, settles_of _⟩
      rw [step_shortJoined settles lettered takes plain (by simpa using nonempty), completed]
  | shortAttached valued plain lettered =>
      rw [valued] at completed takes
      refine ⟨_, all_singleton_of_step ?_, settles_of _⟩
      rw [step_shortAttached settles lettered takes, completed]
  | switch unvalued =>
      rw [unvalued] at completed takes
      have stepped := step_bare settles option.flag
      rw [takes] at stepped
      exact ⟨_, all_singleton_of_step (stepped.trans completed), settles_of _⟩
  | shortSwitch unvalued lettered =>
      rw [unvalued] at completed takes
      have stepped := step_short settles lettered
      rw [takes] at stepped
      exact ⟨_, all_singleton_of_step (stepped.trans completed), settles_of _⟩

/-- Flags that are written one after the other are read as these flags. -/
theorem Settles.all_spells {before : List Given} (settles : reading.Settles before)
    (distinct : ((before ++ given).map Given.flag).Nodup)
    (nonempty : ∀ option ∈ given, option.value? ≠ some "") (spelled : Spells given arguments) :
    ∃ next, reading.all arguments = .ok next ∧ next.Settles (before ++ given) := by
  induction spelled generalizing reading before with
  | nil => exact ⟨reading, rfl, by rwa [List.append_nil]⟩
  | @cons option rest written arguments first others inductionHypothesis =>
      rw [List.forall_mem_cons] at nonempty
      have new : option.flag ∉ before.map Given.flag := by
        rw [List.map_append, List.map_cons, List.nodup_append] at distinct
        exact fun again => distinct.2.2 _ again _ List.mem_cons_self rfl
      obtain ⟨next, read, settled⟩ := settles.spelling new nonempty.1 first
      rw [all_append_of_all read, List.append_cons]
      rw [List.append_cons] at distinct
      exact inductionHypothesis settled distinct nonempty.2

theorem Settles.finish_eq (settles : reading.Settles given)
    (required : ∀ flag ∈ Flag.required, flag ∈ given.map Given.flag) :
    reading.finish = .ok ⟨given⟩ := by
  have missing : (of given).arguments.missing = [] := by
    rw [Arguments.missing, List.filter_eq_nil_iff]
    intro flag membership
    have present : flag ∈ (of given).arguments.flags := required flag membership
    simp [present]
  simp only [finish, settles.settle_eq, missing]
  rfl

end Reading

/-- What is written is read, if nothing is written twice or without a value and nothing is missing. -/
theorem parse_of_spells {given : List Given} {arguments : List String}
    (distinct : (given.map Given.flag).Nodup) (nonempty : ∀ option ∈ given, option.value? ≠ some "")
    (required : ∀ flag ∈ Flag.required, flag ∈ given.map Given.flag)
    (spelled : Spells given arguments) : parse arguments = .ok ⟨given⟩ := by
  obtain ⟨next, read, settles⟩ :=
    (Reading.settles_of []).all_spells distinct nonempty spelled
  have started : ({} : Reading).all arguments = .ok next := read
  simp only [parse, started]
  exact settles.finish_eq required

end AddressWatch.CommandLine
