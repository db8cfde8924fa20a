import AddressWatch.Proofs.CommandLine.Spelling

/-!
# One flag more on a command line

What has been read of a command line is only looked at to refuse what comes twice, and to see in the end
whether anything is missing.  So a flag can be added where one can stand: it takes effect, or is refused,
for itself, and the other flags come to what they came to without it.
-/

namespace AddressWatch.CommandLine

theorem Flag.flag_of_give {flag : Flag} {value : String} {given : Given}
    (taken : flag.give value = .ok given) : given.flag = flag := by
  cases flag with
  | interface | recordName | url | token | ipv6 | verbose =>
      cases taken
      rfl
  | interval | ttl | commandTimeout =>
      simp only [give] at taken
      split at taken
      · cases taken
        rfl
      · contradiction
  | help | version => contradiction

namespace Reading

variable {reading next other last : Reading} {option : Given} {argument : String}
  {arguments : List String} {result : Arguments}

theorem apply_eq_ok_iff {flag : Flag} {value : Option String} :
    reading.apply flag value = .ok next ↔
      ¬(flag.takesValue = true ∧ value = none) ∧ flag ∉ reading.arguments.flags ∧
        ∃ given, flag.give (value.getD "") = .ok given ∧
          next = { reading with arguments := ⟨reading.arguments.given ++ [given]⟩ } := by
  unfold apply
  by_cases missing : flag.takesValue = true ∧ value = none
  · rw [if_pos missing]
    exact ⟨nofun, fun applied => absurd missing applied.1⟩
  · by_cases again : flag ∈ reading.arguments.flags
    · rw [if_neg missing, if_pos again]
      exact ⟨nofun, fun applied => absurd again applied.2.1⟩
    · rw [if_neg missing, if_neg again]
      cases flag.give (value.getD "") with
      | error stop => simp
      | ok given =>
          constructor
          · rintro ⟨⟩
            exact ⟨missing, again, given, rfl, rfl⟩
          · rintro ⟨-, -, _, ⟨⟩, rfl⟩
            rfl

theorem all_cons_eq_ok_iff :
    reading.all (argument :: arguments) = .ok last ↔
      ∃ next, reading.step argument = .ok next ∧ next.all arguments = .ok last := by
  cases stepped : reading.step argument <;> simp [all, stepped]

/-! ## Readings that differ in one flag -/

/-- The other reading has a flag more among those that have taken effect. -/
def Gains (option : Given) (reading other : Reading) : Prop :=
  ∃ front back, reading.arguments.given = front ++ back ∧
    other = { reading with arguments := ⟨front ++ option :: back⟩ }

/-- Reading on adds flags to those that have taken effect.  One flag more among them stays there, and
changes nothing else, unless it comes again. -/
structure Local (read : Reading → Except Stop Reading) : Prop where
  keeps : ∀ {reading next}, read reading = .ok next →
    reading.arguments.flags ⊆ next.arguments.flags
  gains : ∀ {option reading other next}, Gains option reading other → read reading = .ok next →
    option.flag ∉ next.arguments.flags → ∃ further, read other = .ok further ∧ Gains option next further

theorem Local.andThen {first second : Reading → Except Stop Reading} (one : Local first)
    (two : Local second) : Local fun reading =>
      match first reading with
      | .error stop => .error stop
      | .ok next => second next where
  keeps {reading next} read := by
    cases middle : first reading with
    | error stop => simp [middle] at read
    | ok between =>
        simp only [middle] at read
        exact List.Subset.trans (one.keeps middle) (two.keeps read)
  gains {option reading other next} more read new := by
    cases middle : first reading with
    | error stop => simp [middle] at read
    | ok between =>
        simp only [middle] at read
        have before : option.flag ∉ between.arguments.flags := fun again => new (two.keeps read again)
        obtain ⟨further, further_eq, moreBetween⟩ := one.gains more middle before
        simp only [further_eq]
        exact two.gains moreBetween read new

theorem local_error (stop : Reading → Stop) : Local fun reading => .error (stop reading) where
  keeps read := by contradiction
  gains _ read := by contradiction

theorem local_apply (flag : Flag) (value : Option String) : Local (apply · flag value) where
  keeps {reading next} applied := by
    obtain ⟨-, -, given, -, rfl⟩ := apply_eq_ok_iff.mp applied
    simp [Arguments.flags]
  gains {option reading other next} more applied new := by
    obtain ⟨front, back, given_eq, rfl⟩ := more
    obtain ⟨valued, absent, given, taken, rfl⟩ := apply_eq_ok_iff.mp applied
    -- If it were the same flag, it would come twice.
    have different : flag ≠ option.flag := by
      rintro rfl
      apply new
      simp [Arguments.flags, Flag.flag_of_give taken]
    have stillAbsent : flag ∉ (⟨front ++ option :: back⟩ : Arguments).flags := by
      simp only [Arguments.flags, given_eq, List.map_append, List.mem_append] at absent
      simpa [Arguments.flags, different] using absent
    refine ⟨_, apply_eq_ok_iff.mpr ⟨valued, stillAbsent, given, taken, rfl⟩, front, back ++ [given], ?_, ?_⟩
    · simp [given_eq]
    · simp

theorem local_set (pending : Option (Flag × Option String)) (ended : Bool) :
    Local fun reading => .ok { reading with pending, ended } where
  keeps {reading next} read := by
    cases read
    exact List.Subset.refl _
  gains {option reading other next} more read _ := by
    obtain ⟨front, back, given_eq, rfl⟩ := more
    cases read
    exact ⟨_, rfl, front, back, given_eq, rfl⟩

/-- What is pending, and whether the flags have ended, may be taken as known. -/
theorem Local.of_fixed {read : Reading → Except Stop Reading}
    (fixed : ∀ pending ended, Local fun reading => read { reading with pending, ended }) :
    Local read where
  keeps {reading next} := (fixed reading.pending reading.ended).keeps
  gains {option reading other next} more := by
    obtain ⟨front, back, given_eq, rfl⟩ := more
    exact (fixed reading.pending reading.ended).gains ⟨front, back, given_eq, rfl⟩

theorem local_settle : Local settle := by
  apply Local.of_fixed
  rintro (_ | ⟨flag, value⟩) ended
  · exact local_set none ended
  · exact (local_set none ended).andThen (local_apply flag value)

theorem local_complete (flag : Flag) (value : Option String) : Local (complete · flag value) :=
  local_settle.andThen (local_apply flag value)

theorem local_await (flag : Flag) : Local (await · flag) := by
  have waiting : Local fun reading => .ok { reading with pending := some (flag, none) } :=
    Local.of_fixed fun _ ended => local_set (some (flag, none)) ended
  exact local_settle.andThen waiting

theorem local_long (text : List Char) : Local (long · text) := by
  unfold long
  dsimp only
  split
  · exact local_error _
  · split
    · exact local_await _
    · exact local_complete _ _
    · exact local_complete _ _
    · exact local_error _

theorem local_short (letters : List Char) : Local (short · letters) := by
  induction letters with
  | nil => exact Local.of_fixed local_set
  | cons letter rest inductionHypothesis =>
      simp only [short]
      split
      · exact local_error _
      next flag _ =>
        split
        · split
          · exact local_await flag
          · exact local_complete flag _
          · exact local_complete flag _
        · exact (local_complete flag none).andThen inductionHypothesis

theorem local_plain (argument : String) : Local (plain · argument) := by
  apply Local.of_fixed
  rintro (_ | ⟨flag, _ | value⟩) ended
  · exact local_error _
  · cases ended with
    | true => exact local_error _
    | false => exact local_set (some (flag, some argument)) false
  · exact local_error _

/-- An argument ends the flags, or is read as flags, or is none. -/
theorem step_cases (argument : String) :
    (∀ reading : Reading, reading.ended = false →
      reading.step argument = .ok { reading with ended := true }) ∨
    (∃ text, ∀ reading : Reading, reading.ended = false →
      reading.step argument = reading.long text) ∨
    (∃ letter rest, ∀ reading : Reading, reading.ended = false →
      reading.step argument = reading.short (letter :: rest)) ∨
    ∀ reading : Reading, reading.step argument = reading.plain argument := by
  rcases text : argument.toList with _ | ⟨first, _ | ⟨second, rest⟩⟩
  · exact .inr (.inr (.inr fun reading => by simp [step, text]))
  · exact .inr (.inr (.inr fun reading => by simp [step, text]))
  · by_cases hyphen : first = '-'
    · subst hyphen
      by_cases doubled : second = '-'
      · subst doubled
        cases rest with
        | nil => exact .inl fun reading unended => by simp [step, text, unended]
        | cons char rest =>
            exact .inr (.inl ⟨char :: rest, fun reading unended =>
              step_eq_long unended (List.cons_ne_nil char rest) text⟩)
      · exact .inr (.inr (.inl ⟨second, rest, fun reading unended =>
          step_eq_short unended doubled text⟩))
    · exact .inr (.inr (.inr fun reading => by simp [step, text, hyphen]))

theorem local_step (argument : String) : Local (step · argument) := by
  apply Local.of_fixed
  intro pending ended
  cases ended with
  | true => exact (local_set pending true).andThen (local_plain argument)
  | false =>
      rcases step_cases argument with ends | ⟨text, asLong⟩ | ⟨letter, rest, asShort⟩ | stray
      · have same (reading : Reading) := ends { reading with pending, ended := false } rfl
        simp only [same]
        exact local_set pending true
      · have same (reading : Reading) := asLong { reading with pending, ended := false } rfl
        simp only [same]
        exact (local_set pending false).andThen (local_long text)
      · have same (reading : Reading) := asShort { reading with pending, ended := false } rfl
        simp only [same]
        exact (local_set pending false).andThen (local_short (letter :: rest))
      · simp only [stray]
        exact (local_set pending false).andThen (local_plain argument)

theorem local_all (arguments : List String) : Local (all · arguments) := by
  induction arguments with
  | nil => exact Local.of_fixed local_set
  | cons argument rest inductionHypothesis =>
      exact (local_step argument).andThen inductionHypothesis

theorem finish_eq_ok_iff :
    reading.finish = .ok result ↔
      ∃ settled, reading.settle = .ok settled ∧ settled.arguments.missing = [] ∧
        settled.arguments = result := by
  unfold finish
  cases reading.settle with
  | error stop => simp
  | ok settled => cases missing : settled.arguments.missing <;> simp [missing]

theorem flags_subset_of_finish (finished : reading.finish = .ok result) :
    reading.arguments.flags ⊆ result.flags := by
  obtain ⟨settled, settles, -, rfl⟩ := finish_eq_ok_iff.mp finished
  exact local_settle.keeps settles

theorem Gains.finish (more : Gains option reading other) (finished : reading.finish = .ok result)
    (new : option.flag ∉ result.flags) :
    ∃ front back, result.given = front ++ back ∧ other.finish = .ok ⟨front ++ option :: back⟩ := by
  obtain ⟨settled, settles, missing, rfl⟩ := finish_eq_ok_iff.mp finished
  obtain ⟨further, further_eq, front, back, given_eq, rfl⟩ := local_settle.gains more settles new
  refine ⟨front, back, given_eq, finish_eq_ok_iff.mpr ⟨_, further_eq, ?_, rfl⟩⟩
  rw [Arguments.missing, List.filter_eq_nil_iff] at missing ⊢
  intro flag required
  have present := missing flag required
  simp only [Arguments.flags, given_eq, List.map_append, List.mem_append, decide_eq_true_eq,
    Decidable.not_not] at present
  simp only [Arguments.flags, List.map_append, List.map_cons, List.mem_append, List.mem_cons,
    decide_eq_true_eq, Decidable.not_not]
  exact present.imp_right Or.inr

/-! ## Readings without what is pending -/

theorem settle_of_settle_eq_ok {settled : Reading} (settles : reading.settle = .ok settled) :
    settled.settle = .ok settled ∧ settled.ended = reading.ended ∧ settled.pending = none := by
  unfold settle at settles
  split at settles
  next pending =>
    cases settles
    exact ⟨by simp only [settle, pending], rfl, pending⟩
  next =>
    obtain ⟨-, -, _, -, rfl⟩ := apply_eq_ok_iff.mp settles
    exact ⟨rfl, rfl, rfl⟩

/-- Reading on begins with letting the pending flag take effect. -/
def Settling (read : Reading → Except Stop Reading) : Prop :=
  ∀ ⦃reading next⦄, read reading = .ok next →
    ∃ settled, reading.settle = .ok settled ∧ read settled = .ok next

theorem settling_error (stop : Reading → Stop) : Settling fun reading => .error (stop reading) := by
  intro reading next read
  contradiction

theorem settling_settle : Settling settle := by
  intro reading next read
  exact ⟨next, read, (settle_of_settle_eq_ok read).1⟩

theorem Settling.andThen {first : Reading → Except Stop Reading} (settling : Settling first)
    (second : Reading → Except Stop Reading) : Settling fun reading =>
      match first reading with
      | .error stop => .error stop
      | .ok next => second next := by
  intro reading next read
  cases middle : first reading with
  | error stop => simp [middle] at read
  | ok between =>
      obtain ⟨settled, settles, same⟩ := settling middle
      refine ⟨settled, settles, ?_⟩
      simp only [middle] at read
      simp only [same, read]

theorem settling_complete (flag : Flag) (value : Option String) : Settling (complete · flag value) :=
  settling_settle.andThen (apply · flag value)

theorem settling_await (flag : Flag) : Settling (await · flag) :=
  settling_settle.andThen fun reading => .ok { reading with pending := some (flag, none) }

theorem settling_long (text : List Char) : Settling (long · text) := by
  unfold long
  dsimp only
  split
  · exact settling_error _
  · split
    · exact settling_await _
    · exact settling_complete _ _
    · exact settling_complete _ _
    · exact settling_error _

theorem settling_short (letter : Char) (rest : List Char) : Settling (short · (letter :: rest)) := by
  simp only [short]
  split
  · exact settling_error _
  next flag _ =>
    split
    · split
      · exact settling_await flag
      · exact settling_complete flag _
      · exact settling_complete flag _
    · exact (settling_complete flag none).andThen (short · rest)

/-- An argument ends the flags, or is read when the pending flag has been settled, or is no flag. -/
theorem step_settling_cases (argument : String) :
    (∀ reading : Reading, reading.ended = false →
      reading.step argument = .ok { reading with ended := true }) ∨
    (∃ read, Settling read ∧
      ∀ reading : Reading, reading.ended = false → reading.step argument = read reading) ∨
    ∀ reading : Reading, reading.step argument = reading.plain argument := by
  rcases step_cases argument with ends | ⟨text, asLong⟩ | ⟨letter, rest, asShort⟩ | stray
  · exact .inl ends
  · exact .inr (.inl ⟨_, settling_long text, asLong⟩)
  · exact .inr (.inl ⟨_, settling_short letter rest, asShort⟩)
  · exact .inr (.inr stray)

theorem plain_ne_ok (filled : ∀ flag, reading.pending ≠ some (flag, none)) :
    reading.plain argument ≠ .ok next := by
  unfold plain
  split
  next flag waiting => exact absurd waiting (filled flag)
  next => nofun

theorem exists_settle_of_ended {settled : Reading}
    (settles : settle { reading with ended := true } = .ok settled) :
    ∃ before, reading.settle = .ok before ∧ settled = { before with ended := true } := by
  unfold settle at settles ⊢
  dsimp only at settles
  split at settles
  · cases settles
    exact ⟨reading, rfl, rfl⟩
  · obtain ⟨valued, absent, given, taken, rfl⟩ := apply_eq_ok_iff.mp settles
    exact ⟨_, apply_eq_ok_iff.mpr ⟨valued, absent, given, taken, rfl⟩, rfl⟩

/-- What follows a flag with its value does not depend on whether the flag has taken effect. -/
theorem exists_settle_of_all (filled : ∀ flag, reading.pending ≠ some (flag, none))
    (read : reading.all arguments = .ok last) (finished : last.finish = .ok result) :
    ∃ settled further, reading.settle = .ok settled ∧ settled.all arguments = .ok further ∧
      further.finish = .ok result := by
  induction arguments generalizing reading with
  | nil =>
      cases read
      obtain ⟨settled, settles, missing, rfl⟩ := finish_eq_ok_iff.mp finished
      refine ⟨settled, settled, settles, rfl, finish_eq_ok_iff.mpr ⟨settled, ?_, missing, rfl⟩⟩
      exact (settle_of_settle_eq_ok settles).1
  | cons argument rest inductionHypothesis =>
      obtain ⟨next, stepped, rest_eq⟩ := all_cons_eq_ok_iff.mp read
      have unended : reading.ended = false := by
        rw [← Bool.not_eq_true]
        intro ended
        rw [step, if_pos ended] at stepped
        exact plain_ne_ok filled stepped
      -- Two hyphens leave the flag pending, and the argument behind them finds it as it was.  Any other
      -- argument that can be read here settles it first.
      rcases step_settling_cases argument with ends | ⟨readOn, settling, step_eq⟩ | stray
      · rw [ends reading unended] at stepped
        cases stepped
        have stillFilled (flag : Flag) :
            ({ reading with ended := true } : Reading).pending ≠ some (flag, none) := filled flag
        obtain ⟨_, further, endedSettles, all_eq, finish_eq⟩ := inductionHypothesis stillFilled rest_eq
        obtain ⟨settled, settles, rfl⟩ := exists_settle_of_ended endedSettles
        have unendedSettled := (settle_of_settle_eq_ok settles).2.1.trans unended
        refine ⟨settled, further, settles, ?_, finish_eq⟩
        rw [all_cons_of_step (ends settled unendedSettled), all_eq]
      · rw [step_eq reading unended] at stepped
        obtain ⟨settled, settles, settled_eq⟩ := settling stepped
        have unendedSettled := (settle_of_settle_eq_ok settles).2.1.trans unended
        refine ⟨settled, last, settles, ?_, finished⟩
        rw [all_cons_of_step ((step_eq settled unendedSettled).trans settled_eq), rest_eq]
      · rw [stray reading] at stepped
        exact absurd stepped (plain_ne_ok filled)

/-! ## Readings that wait for a value -/

/-- Only a flag that takes a value waits for one. -/
def Fillable (reading : Reading) : Prop :=
  ∀ flag, reading.pending = some (flag, none) → flag.takesValue = true

theorem fillable_of_pending (settled : reading.pending = none) : reading.Fillable := by
  intro flag waiting
  rw [settled] at waiting
  contradiction

theorem fillable_of_complete {value : Option String} (completed : reading.complete flag value = .ok next) :
    next.Fillable := by
  cases settles : reading.settle with
  | error stop => simp [complete, settles] at completed
  | ok settled =>
      simp only [complete, settles] at completed
      obtain ⟨-, -, given, -, rfl⟩ := apply_eq_ok_iff.mp completed
      exact fillable_of_pending (settle_of_settle_eq_ok settles).2.2

theorem fillable_of_await (takes : flag.takesValue = true) (awaited : reading.await flag = .ok next) :
    next.Fillable := by
  cases settles : reading.settle with
  | error stop => simp [await, settles] at awaited
  | ok settled =>
      simp only [await, settles] at awaited
      cases awaited
      rintro _ ⟨⟩
      exact takes

theorem fillable_of_long {text : List Char} (read : reading.long text = .ok next) : next.Fillable := by
  simp only [long] at read
  split at read
  · contradiction
  · split at read
    next takes _ => exact fillable_of_await takes read
    next => exact fillable_of_complete read
    next => exact fillable_of_complete read
    next => contradiction

theorem Fillable.short (fillable : reading.Fillable) {letters : List Char}
    (read : reading.short letters = .ok next) : next.Fillable := by
  induction letters generalizing reading with
  | nil =>
      cases read
      exact fillable
  | cons letter rest inductionHypothesis =>
      simp only [Reading.short] at read
      split at read
      · contradiction
      · split at read
        next takes =>
          split at read
          · exact fillable_of_await takes read
          · exact fillable_of_complete read
          · exact fillable_of_complete read
        next =>
          split at read
          · contradiction
          next between completed =>
            exact inductionHypothesis (fillable_of_complete completed) read

theorem fillable_of_plain (read : reading.plain argument = .ok next) : next.Fillable := by
  unfold plain at read
  split at read
  · split at read
    · contradiction
    · cases read
      rintro _ ⟨⟩
  · contradiction

theorem Fillable.step (fillable : reading.Fillable) (read : reading.step argument = .ok next) :
    next.Fillable := by
  unfold Reading.step at read
  split at read
  · exact fillable_of_plain read
  · split at read
    · cases read
      exact fillable
    · exact fillable_of_long read
    · exact fillable.short read
    · exact fillable_of_plain read

theorem Fillable.all (fillable : reading.Fillable) (read : reading.all arguments = .ok last) :
    last.Fillable := by
  induction arguments generalizing reading with
  | nil =>
      cases read
      exact fillable
  | cons argument rest inductionHypothesis =>
      obtain ⟨next, stepped, rest_eq⟩ := all_cons_eq_ok_iff.mp read
      exact inductionHypothesis (fillable.step stepped) rest_eq

theorem exists_all_of_append (read : reading.all (arguments ++ more) = .ok last) :
    ∃ next, reading.all arguments = .ok next := by
  induction arguments generalizing reading with
  | nil => exact ⟨reading, rfl⟩
  | cons argument rest inductionHypothesis =>
      obtain ⟨next, stepped, rest_eq⟩ := all_cons_eq_ok_iff.mp read
      rw [all_cons_of_step stepped]
      exact inductionHypothesis rest_eq

theorem plain_of_ended (ended : reading.ended = true) (argument : String) :
    reading.plain argument = .error (.refusal (.stray argument)) := by
  unfold plain
  split
  · rw [if_pos ended]
  · rfl

end Reading

variable {before after : List String} {result : Arguments} {flag : Flag} {value : String}

theorem parse_eq_ok_iff {arguments : List String} :
    parse arguments = .ok result ↔
      ∃ last, ({} : Reading).all arguments = .ok last ∧ last.finish = .ok result := by
  unfold parse
  cases ({} : Reading).all arguments <;> simp

/-- Where a flag can stand in a command line, the flags in front of it have been read, and what follows
can be read with these alone. -/
theorem exists_settles_of_admitsFlag (parsed : parse (before ++ after) = .ok result)
    (admits : AdmitsFlag before) :
    ∃ reading given last, ({} : Reading).all before = .ok reading ∧ reading.Settles given ∧
      (Reading.of given).all after = .ok last ∧ last.finish = .ok result := by
  obtain ⟨reading, reached, unended, filled⟩ := admits
  obtain ⟨last, read, finished⟩ := parse_eq_ok_iff.mp parsed
  rw [Reading.all_append_of_all reached] at read
  obtain ⟨settled, further, settles, all_eq, finish_eq⟩ :=
    Reading.exists_settle_of_all filled read finished
  obtain ⟨-, ended_eq, pending_eq⟩ := Reading.settle_of_settle_eq_ok settles
  have settled_eq : settled = Reading.of settled.arguments.given := by
    rw [Reading.of, ← pending_eq, ← unended, ← ended_eq]
  rw [settled_eq] at settles all_eq
  exact ⟨reading, _, further, reached, ⟨settles, unended⟩, all_eq, finish_eq⟩

/-- A flag with a value that is added to a command line is applied to the flags in front of it, and what
follows can be read without it. -/
theorem exists_step_attached (parsed : parse (before ++ after) = .ok result)
    (admits : AdmitsFlag before) (takes : flag.takesValue = true) (new : flag ∉ result.flags)
    (value : String) :
    ∃ reading given last, ({} : Reading).all before = .ok reading ∧
      reading.step ("--" ++ flag.long ++ "=" ++ value) = (Reading.of given).apply flag (some value) ∧
      (Reading.of given).all after = .ok last ∧ last.finish = .ok result ∧
      flag ∉ (Reading.of given).arguments.flags ∧ flag ∉ last.arguments.flags := by
  obtain ⟨reading, given, last, reached, settles, read, finished⟩ :=
    exists_settles_of_admitsFlag parsed admits
  have absentLast : flag ∉ last.arguments.flags := fun again =>
    new (Reading.flags_subset_of_finish finished again)
  have absent : flag ∉ (Reading.of given).arguments.flags := fun again =>
    absentLast ((Reading.local_all after).keeps read again)
  refine ⟨reading, given, last, reached, ?_, read, finished, absent, absentLast⟩
  rw [Reading.step_attached settles.not_ended takes, Reading.complete, settles.settle_eq]

theorem parse_attached_eq_error {stop : Stop} (parsed : parse (before ++ after) = .ok result)
    (admits : AdmitsFlag before) (takes : flag.takesValue = true) (new : flag ∉ result.flags)
    (refused : flag.give value = .error stop) :
    parse (before ++ ("--" ++ flag.long ++ "=" ++ value) :: after) = .error stop := by
  obtain ⟨reading, given, -, reached, stepped, -, -, absent, -⟩ :=
    exists_step_attached parsed admits takes new value
  have valued : ¬(flag.takesValue = true ∧ some value = none) := nofun
  rw [Reading.apply, if_neg valued, if_neg absent, Option.getD_some, refused] at stepped
  simp only [parse, Reading.all_append_of_all reached, Reading.all, stepped]

/-- A flag with a value that is added to a command line takes effect among the others. -/
theorem exists_parse_attached_eq_ok {option : Given} (parsed : parse (before ++ after) = .ok result)
    (admits : AdmitsFlag before) (takes : flag.takesValue = true) (new : flag ∉ result.flags)
    (taken : flag.give value = .ok option) :
    ∃ front back, result.given = front ++ back ∧
      parse (before ++ ("--" ++ flag.long ++ "=" ++ value) :: after) =
        .ok ⟨front ++ option :: back⟩ := by
  obtain ⟨reading, given, last, reached, stepped, read, finished, absent, absentLast⟩ :=
    exists_step_attached parsed admits takes new value
  have applied : (Reading.of given).apply flag (some value) = .ok (.of (given ++ [option])) :=
    Reading.apply_eq_ok_iff.mpr ⟨nofun, absent, option, taken, rfl⟩
  have more : Reading.Gains option (.of given) (.of (given ++ [option])) :=
    ⟨given, [], (List.append_nil given).symm, rfl⟩
  obtain rfl := Flag.flag_of_give taken
  obtain ⟨further, all_eq, moreLast⟩ := (Reading.local_all after).gains more read absentLast
  obtain ⟨front, back, given_eq, finish_eq⟩ := moreLast.finish finished new
  refine ⟨front, back, given_eq, parse_eq_ok_iff.mpr ⟨further, ?_, finish_eq⟩⟩
  rw [Reading.all_append_of_all reached, Reading.all_cons_of_step (stepped.trans applied), all_eq]

/-- Where a flag cannot stand, one that is added is refused, whatever its value. -/
theorem exists_parse_attached_eq_error (parsed : parse (before ++ after) = .ok result)
    (misplaced : ¬AdmitsFlag before) (takes : flag.takesValue = true) (value : String) :
    ∃ refusal,
      parse (before ++ ("--" ++ flag.long ++ "=" ++ value) :: after) = .error (.refusal refusal) := by
  obtain ⟨last, read, -⟩ := parse_eq_ok_iff.mp parsed
  obtain ⟨reading, reached⟩ := Reading.exists_all_of_append read
  -- Either there are no flags any more, or another flag waits and misses its value.
  have refused : ∃ refusal,
      reading.step ("--" ++ flag.long ++ "=" ++ value) = .error (.refusal refusal) := by
    cases ended : reading.ended with
    | true =>
        rw [Reading.step, if_pos ended, Reading.plain_of_ended ended]
        exact ⟨_, rfl⟩
    | false =>
        obtain ⟨waiting, pending⟩ : ∃ waiting, reading.pending = some (waiting, none) := by
          by_contra filled
          exact misplaced ⟨reading, reached, ended, not_exists.mp filled⟩
        have fillable : reading.Fillable := (Reading.fillable_of_pending rfl).all reached
        have unsettled : reading.settle = .error (.refusal (.valueMissing waiting)) := by
          simp only [Reading.settle, pending]
          rw [Reading.apply, if_pos ⟨fillable waiting pending, rfl⟩]
        rw [Reading.step_attached ended takes, Reading.complete, unsettled]
        exact ⟨_, rfl⟩
  obtain ⟨refusal, refused⟩ := refused
  refine ⟨refusal, ?_⟩
  simp only [parse, Reading.all_append_of_all reached, Reading.all, refused]

end AddressWatch.CommandLine
