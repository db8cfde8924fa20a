import AddressWatch.CommandLine.Quantity
import AddressWatch.Proofs.CommandLine.Insertion
import AddressWatch.Proofs.CommandLine.Settings

/-!
# Numbers of seconds on a command line

The digits that are given for a setting come to the number that they write, or the command line is refused:
by the reader if the number does not fit into its word, and by the check of the settings if it does.
-/

namespace AddressWatch.CommandLine

variable {quantity : Quantity} {number : Nat}

namespace Quantity

theorem takesValue_flag (quantity : Quantity) : quantity.flag.takesValue = true := by
  cases quantity <;> rfl

@[simp]
theorem flag_given (quantity : Quantity) (number : Nat) : (quantity.given number).flag = quantity.flag := by
  cases quantity <;> rfl

theorem lt_size_of_admits (admitted : quantity.Admits number) : number < quantity.size := by
  cases quantity <;> simp only [Admits, size, UInt32.size, UInt64.size] at admitted ⊢ <;> omega

/-- A number that the word can hold is kept as it is. -/
theorem seconds_set (config : Config) (fits : number < quantity.size) :
    quantity.seconds (quantity.set config number) = number := by
  cases quantity with
  | interval => exact UInt64.toNat_ofNat_of_lt' fits
  | ttl => exact UInt32.toNat_ofNat_of_lt' fits
  | commandTimeout => exact UInt64.toNat_ofNat_of_lt' fits

theorem duration?_eq (config : Config) :
    ∀ duration ∈ quantity.duration? config, duration = .ofSeconds (quantity.seconds config) := by
  cases quantity <;> rintro _ ⟨⟩ <;> rfl

/-! ## The value of a flag -/

variable {digits : String}

theorem give_of_fits (decimal : ∀ char ∈ digits.toList, char.isDigit = true) (some : digits ≠ "")
    (fits : Nat.ofDigitChars 10 digits.toList 0 < quantity.size) :
    quantity.flag.give digits = .ok (quantity.given (Nat.ofDigitChars 10 digits.toList 0)) := by
  have nonempty : digits.toList ≠ [] := some ∘ String.toList_eq_nil_iff.mp
  cases quantity with
  | interval | commandTimeout =>
      have fits : Nat.ofDigitChars 10 digits.toList 0 < UInt64.size := fits
      simp only [flag, Flag.give, Number.word64_of_isDigit decimal nonempty, if_pos fits]
      rfl
  | ttl =>
      have fits : Nat.ofDigitChars 10 digits.toList 0 < UInt32.size := fits
      simp only [flag, Flag.give, Number.word32_of_isDigit decimal nonempty, if_pos fits]
      rfl

theorem exists_give_of_not_fits (decimal : ∀ char ∈ digits.toList, char.isDigit = true)
    (some : digits ≠ "") (long : quantity.size ≤ Nat.ofDigitChars 10 digits.toList 0) :
    ∃ fault, quantity.flag.give digits = .error (.refusal (.badValue quantity.flag digits fault)) := by
  have nonempty : digits.toList ≠ [] := some ∘ String.toList_eq_nil_iff.mp
  cases quantity with
  | interval | commandTimeout =>
      have long : ¬Nat.ofDigitChars 10 digits.toList 0 < UInt64.size := Nat.not_lt.mpr long
      simp only [flag, Flag.give, Number.word64_of_isDigit decimal nonempty, if_neg long]
      exact ⟨_, rfl⟩
  | ttl =>
      have long : ¬Nat.ofDigitChars 10 digits.toList 0 < UInt32.size := Nat.not_lt.mpr long
      simp only [flag, Flag.give, Number.word32_of_isDigit decimal nonempty, if_neg long]
      by_cases short : Nat.ofDigitChars 10 digits.toList 0 < Nat.pow 2 63
      · exact ⟨_, by rw [if_pos short]⟩
      · exact ⟨_, by rw [if_neg short]⟩

/-! ## The settings that are asked for -/

variable {front back : List Given}

theorem findSome?_insert {α : Type} {option : Given} {pick : Given → Option α} {value : α}
    (own : pick option = some value) (others : ∀ other, other.flag ≠ option.flag → pick other = none)
    (absent : option.flag ∉ (⟨front ++ back⟩ : Arguments).flags) :
    (front ++ option :: back).findSome? pick = some value := by
  have skipped : front.findSome? pick = none := by
    apply List.findSome?_eq_none_iff.mpr
    intro other member
    apply others
    intro same
    apply absent
    rw [← same]
    exact List.mem_map_of_mem (List.mem_append_left back member)
  rw [List.findSome?_append, skipped, List.findSome?_cons, own, Option.none_or]

theorem settings_insert (absent : quantity.flag ∉ (⟨front ++ back⟩ : Arguments).flags)
    (token : String) :
    (⟨front ++ quantity.given number :: back⟩ : Arguments).settings token =
      quantity.set ((⟨front ++ back⟩ : Arguments).settings token) number := by
  rw [← flag_given quantity number] at absent
  cases quantity with
  | interval =>
      have own : (⟨front ++ .interval (.ofNat number) :: back⟩ : Arguments).interval? =
          some (.ofNat number) :=
        findSome?_insert rfl (by rintro ⟨⟩ <;> simp [Given.flag]) absent
      simp [set, given, own, Arguments.settings, Arguments.interface?, Arguments.recordName?,
        Arguments.url?, Arguments.ttl?, Arguments.commandTimeout?, Arguments.has]
  | ttl =>
      have own : (⟨front ++ .ttl (.ofNat number) :: back⟩ : Arguments).ttl? = some (.ofNat number) :=
        findSome?_insert rfl (by rintro ⟨⟩ <;> simp [Given.flag]) absent
      simp [set, given, own, Arguments.settings, Arguments.interface?, Arguments.recordName?,
        Arguments.url?, Arguments.interval?, Arguments.commandTimeout?, Arguments.has]
  | commandTimeout =>
      have own : (⟨front ++ .commandTimeout (.ofNat number) :: back⟩ : Arguments).commandTimeout? =
          some (.ofNat number) :=
        findSome?_insert rfl (by rintro ⟨⟩ <;> simp [Given.flag]) absent
      simp [set, given, own, Arguments.settings, Arguments.interface?, Arguments.recordName?,
        Arguments.url?, Arguments.interval?, Arguments.ttl?, Arguments.has]

theorem tokenOr_insert (environment : Option String) :
    (⟨front ++ quantity.given number :: back⟩ : Arguments).tokenOr environment =
      (⟨front ++ back⟩ : Arguments).tokenOr environment := by
  cases quantity <;> simp [Arguments.tokenOr, Arguments.token?, given]

variable {config : Config}

/-- Of settings that were accepted with other numbers, only the numbers can be refused. -/
theorem fault?_of_numbers (checked : config.Checked) (interval : UInt64) (ttl : UInt32)
    (commandTimeout : UInt64) :
    { config with interval, ttl, commandTimeout }.fault? =
      if interval = 0 then some .zeroInterval
      else if ttl < Config.minTtl ∨ Config.maxTtl < ttl then some (.ttlOutOfRange ttl)
      else if commandTimeout = 0 then some .zeroCommandTimeout
      else none := by
  simp [Config.fault?, checked.interface_not_blank, checked.recordName_ne_empty,
    checked.recordName_terminated, checked.apiUrl_ne_empty, checked.scheme_known, checked.token_ne_empty]

theorem ofNat_eq_zero_iff (fits : number < UInt64.size) :
    UInt64.ofNat number = 0 ↔ ¬(1 ≤ number ∧ number ≤ UInt64.size - 1) := by
  rw [← UInt64.toNat_inj, UInt64.toNat_ofNat_of_lt' fits, UInt64.toNat_zero]
  simp only [UInt64.size] at fits ⊢
  omega

theorem ofNat_outside_iff (fits : number < UInt32.size) :
    (UInt32.ofNat number < Config.minTtl ∨ Config.maxTtl < UInt32.ofNat number) ↔
      ¬(60 ≤ number ∧ number ≤ 86400) := by
  have least : Config.minTtl.toNat = 60 := rfl
  have greatest : Config.maxTtl.toNat = 86400 := rfl
  rw [UInt32.lt_iff_toNat_lt, UInt32.lt_iff_toNat_lt, UInt32.toNat_ofNat_of_lt' fits, least, greatest]
  omega

theorem fault?_set (accepted : config.Accepted) (fits : number < quantity.size) :
    (quantity.set config number).fault? =
      if quantity.Admits number then none else some (quantity.fault number) := by
  have checked := config.accepted_iff_checked.mp accepted
  have inside : ¬(config.ttl < Config.minTtl ∨ Config.maxTtl < config.ttl) := by
    rw [not_or, UInt32.not_lt, UInt32.not_lt]
    exact ⟨checked.minTtl_le, checked.le_maxTtl⟩
  cases quantity with
  | interval =>
      apply (fault?_of_numbers checked (.ofNat number) config.ttl config.commandTimeout).trans
      rw [if_neg inside, if_neg checked.commandTimeout_ne_zero]
      exact (if_congr (ofNat_eq_zero_iff fits) rfl rfl).trans (ite_not _ _ _)
  | ttl =>
      apply (fault?_of_numbers checked config.interval (.ofNat number) config.commandTimeout).trans
      rw [if_neg checked.interval_ne_zero, if_neg checked.commandTimeout_ne_zero]
      exact (if_congr (ofNat_outside_iff fits) rfl rfl).trans (ite_not _ _ _)
  | commandTimeout =>
      apply (fault?_of_numbers checked config.interval config.ttl (.ofNat number)).trans
      rw [if_neg checked.interval_ne_zero, if_neg inside]
      exact (if_congr (ofNat_eq_zero_iff fits) rfl rfl).trans (ite_not _ _ _)

/-- The number alone decides whether settings that could be used without it can still be used. -/
theorem config_insert {environment : Option String}
    (usable : (⟨front ++ back⟩ : Arguments).config environment = .ok config)
    (absent : quantity.flag ∉ (⟨front ++ back⟩ : Arguments).flags) (fits : number < quantity.size) :
    (⟨front ++ quantity.given number :: back⟩ : Arguments).config environment =
      if quantity.Admits number then .ok (quantity.set config number)
      else .error (.config (quantity.fault number).message) := by
  obtain ⟨token, found, accepted, rfl⟩ := (Arguments.config_eq_ok_iff config).mp usable
  simp only [Arguments.config, tokenOr_insert, found, settings_insert absent, fault?_set accepted fits]
  by_cases admitted : quantity.Admits number
  · simp only [if_pos admitted]
  · simp only [if_neg admitted]

end Quantity

/-! ## Command lines with a number -/

section

variable {before after : List String} {arguments : Arguments} {environment : Option String}
  {config : Config} {digits : String}

theorem configure_of_fits (parsed : parse (before ++ after) = .ok arguments)
    (usable : arguments.config environment = .ok config) (absent : quantity.flag ∉ arguments.flags)
    (admits : AdmitsFlag before) (nonempty : digits ≠ "")
    (decimal : ∀ char ∈ digits.toList, char.isDigit = true)
    (fits : Nat.ofDigitChars 10 digits.toList 0 < quantity.size) :
    configure (before ++ ("--" ++ quantity.flag.long ++ "=" ++ digits) :: after) environment =
      if quantity.Admits (Nat.ofDigitChars 10 digits.toList 0) then
        .ok (quantity.set config (Nat.ofDigitChars 10 digits.toList 0))
      else .error (.unusable
        (.config (quantity.fault (Nat.ofDigitChars 10 digits.toList 0)).message)) := by
  obtain ⟨front, back, given_eq, parse_eq⟩ := exists_parse_attached_eq_ok parsed admits
    quantity.takesValue_flag absent (Quantity.give_of_fits decimal nonempty fits)
  obtain rfl : arguments = ⟨front ++ back⟩ := congrArg Arguments.mk given_eq
  simp only [configure, parse_eq, Quantity.config_insert usable absent fits]
  by_cases admitted : quantity.Admits (Nat.ofDigitChars 10 digits.toList 0)
  · simp only [if_pos admitted]
  · simp only [if_neg admitted]

theorem exists_configure_of_not_fits (parsed : parse (before ++ after) = .ok arguments)
    (absent : quantity.flag ∉ arguments.flags) (admits : AdmitsFlag before) (nonempty : digits ≠ "")
    (decimal : ∀ char ∈ digits.toList, char.isDigit = true)
    (long : quantity.size ≤ Nat.ofDigitChars 10 digits.toList 0) :
    ∃ fault,
      configure (before ++ ("--" ++ quantity.flag.long ++ "=" ++ digits) :: after) environment =
        .error (.stop (.refusal (.badValue quantity.flag digits fault))) := by
  obtain ⟨fault, refused⟩ := Quantity.exists_give_of_not_fits decimal nonempty long
  have parse_eq := parse_attached_eq_error parsed admits quantity.takesValue_flag absent refused
  exact ⟨fault, by simp only [configure, parse_eq]⟩

theorem exists_configure_of_misplaced (parsed : parse (before ++ after) = .ok arguments)
    (misplaced : ¬AdmitsFlag before) (quantity : Quantity) (digits : String) :
    ∃ refusal,
      configure (before ++ ("--" ++ quantity.flag.long ++ "=" ++ digits) :: after) environment =
        .error (.stop (.refusal refusal)) := by
  obtain ⟨refusal, parse_eq⟩ :=
    exists_parse_attached_eq_error parsed misplaced quantity.takesValue_flag digits
  exact ⟨refusal, by simp only [configure, parse_eq]⟩

/-- Digits that are given for a setting, where a flag can stand in a command line that can be used without
it, come to the number that they write, however many they are.  No number is taken for another: what is not
accepted is refused, by the reader if the word cannot hold it, and else by the check of the settings.  Where
no flag can stand the reader refuses it. -/
theorem numbers_are_taken_exactly (quantity : Quantity) (digits : String)
    (parsed : parse (before ++ after) = .ok arguments)
    (usable : arguments.config environment = .ok config) (absent : quantity.flag ∉ arguments.flags)
    (nonempty : digits ≠ "") (decimal : ∀ char ∈ digits.toList, char.isDigit = true) :
    let number := Nat.ofDigitChars 10 digits.toList 0
    let result :=
      configure (before ++ ("--" ++ quantity.flag.long ++ "=" ++ digits) :: after) environment
    (AdmitsFlag before →
      ((∃ changed, result = .ok changed) ↔ quantity.Admits number) ∧
      (∀ changed, result = .ok changed →
        changed = quantity.set config number ∧ quantity.seconds changed = number ∧
          ∀ duration ∈ quantity.duration? changed, duration = .ofSeconds number) ∧
      (quantity.size ≤ number →
        ∃ fault, result = .error (.stop (.refusal (.badValue quantity.flag digits fault)))) ∧
      (number < quantity.size → ¬quantity.Admits number →
        result = .error (.unusable (.config (quantity.fault number).message)))) ∧
    (¬AdmitsFlag before → ∃ refusal, result = .error (.stop (.refusal refusal))) := by
  intro number result
  refine ⟨fun admits => ?_, fun misplaced => exists_configure_of_misplaced parsed misplaced _ _⟩
  by_cases fits : number < quantity.size
  · have result_eq : result = _ :=
      configure_of_fits parsed usable absent admits nonempty decimal fits
    rw [result_eq]
    by_cases admitted : quantity.Admits number
    · rw [if_pos admitted]
      refine ⟨⟨fun _ => admitted, fun _ => ⟨_, rfl⟩⟩, ?_, fun long => absurd fits (Nat.not_lt.mpr long),
        fun _ refused => absurd admitted refused⟩
      rintro _ ⟨⟩
      have kept := Quantity.seconds_set config fits
      refine ⟨rfl, kept, fun duration member => ?_⟩
      rw [Quantity.duration?_eq _ duration member, kept]
    · rw [if_neg admitted]
      exact ⟨⟨nofun, fun accepted => absurd accepted admitted⟩, nofun,
        fun long => absurd fits (Nat.not_lt.mpr long), fun _ _ => rfl⟩
  · obtain ⟨fault, result_eq⟩ : ∃ fault, result = _ :=
      exists_configure_of_not_fits parsed absent admits nonempty decimal (Nat.le_of_not_lt fits)
    rw [result_eq]
    exact ⟨⟨nofun, fun accepted => absurd (Quantity.lt_size_of_admits accepted) fits⟩, nofun,
      fun _ => ⟨fault, rfl⟩, fun short => absurd short fits⟩

/-- Between a name and a token, the longest interval is taken with a zero in front, and a time to live
whose lowest 32 bits are 60 is refused. -/
theorem longest_interval_is_taken_and_wrapping_ttl_is_refused :
    (∃ changed, configure
        ["-i", "eth0", "-n", "host.example.", "--interval=018446744073709551615", "-tsecret", "--"] none =
          .ok changed ∧ changed.interval.toNat = 18446744073709551615 ∧
        changed.pollInterval = .ofSeconds 18446744073709551615) ∧
      ∃ fault, configure
        ["-i", "eth0", "-n", "host.example.", "--ttl=4294967356", "-tsecret", "--"] none =
          .error (.stop (.refusal (.badValue .ttl "4294967356" fault))) := by
  have parsed : parse (["-i", "eth0", "-n", "host.example."] ++ ["-tsecret", "--"]) =
      .ok ⟨[.interface "eth0", .recordName "host.example.", .token "secret"]⟩ := by decide +kernel
  have usable : (⟨[.interface "eth0", .recordName "host.example.", .token "secret"]⟩ :
      Arguments).config none =
        .ok { interface := "eth0", recordName := "host.example.", token := "secret" } := by decide +kernel
  have admits : AdmitsFlag ["-i", "eth0", "-n", "host.example."] := by
    refine ⟨⟨⟨[.interface "eth0"]⟩, some (.recordName, some "host.example."), false⟩, ?_, rfl, nofun⟩
    decide +kernel
  obtain ⟨intervalTaken, -⟩ := numbers_are_taken_exactly .interval "018446744073709551615" parsed usable
    (by decide) (by decide) (List.all_eq_true.mp (by decide))
  obtain ⟨ttlTaken, -⟩ := numbers_are_taken_exactly .ttl "4294967356" parsed usable (by decide)
    (by decide) (List.all_eq_true.mp (by decide))
  obtain ⟨accepted_iff, exact_of_accepted, -, -⟩ := intervalTaken admits
  obtain ⟨-, -, refused_of_long, -⟩ := ttlTaken admits
  obtain ⟨changed, accepted⟩ := accepted_iff.mpr (by decide)
  obtain ⟨-, seconds, duration⟩ := exact_of_accepted changed accepted
  obtain ⟨fault, refused⟩ := refused_of_long (by decide)
  exact ⟨⟨changed, accepted, seconds, duration _ rfl⟩, fault, refused⟩

end

end AddressWatch.CommandLine
