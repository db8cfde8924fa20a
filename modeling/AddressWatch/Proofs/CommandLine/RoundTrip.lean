import AddressWatch.Proofs.CommandLine.Settings
import AddressWatch.Proofs.CommandLine.Spelling
import Mathlib.Data.List.Nodup

/-!
# Settings written on a command line and read back

The flags that ask for settings come to these settings, whatever their order and their spellings, and
also without those that change nothing.
-/

namespace AddressWatch.CommandLine

variable {config : Config} {environment : Option String} {given omitted : List Given}

theorem nodup_map_flag_optionsOf (config : Config) :
    ((optionsOf config).map Given.flag).Nodup := by
  unfold optionsOf
  cases config.family.isIPv6 <;> cases config.verbose <;> simp [Given.flag]

/-- No value of accepted settings is written as nothing. -/
theorem value?_ne_empty_of_mem_optionsOf (accepted : config.Accepted) :
    ∀ option ∈ optionsOf config, option.value? ≠ some "" := by
  have checked := config.accepted_iff_checked.mp accepted
  have written (number : Nat) : Text.decimal number ≠ "" := by
    intro empty
    exact Nat.toDigits_ne_nil (Text.toList_decimal number ▸ String.toList_eq_nil_iff.mpr empty)
  have interface : config.interface ≠ "" := by
    intro empty
    have blank := checked.interface_not_blank
    rw [empty] at blank
    exact absurd blank (by decide)
  rw [optionsOf, List.forall_mem_append, List.forall_mem_append]
  refine ⟨⟨?_, ?_⟩, ?_⟩
  · simp [Given.value?, written, interface, checked.recordName_ne_empty, checked.apiUrl_ne_empty,
      checked.token_ne_empty]
  · split <;> simp [Given.value?]
  · split <;> simp [Given.value?]

/-- Flags that ask for the settings; those that are left out are dispensable. -/
structure AskFor (given : List Given) (config : Config) (environment : Option String) : Prop where
  sound : ∀ option ∈ given, option ∈ optionsOf config
  complete : ∀ option ∈ optionsOf config, option ∈ given ∨ option.Dispensable environment

namespace AskFor

/-- What is looked for in one flag only is found there, unless the flag is left out. -/
theorem findSome?_eq (asked : AskFor given config environment) {α : Type}
    {pick : Given → Option α} (option : Given) {value : α} (picked : pick option = some value)
    (own : ∀ other, (pick other).isSome = true → other.flag = option.flag := by
      intro other; cases other <;> simp [Given.flag])
    (member : option ∈ optionsOf config := by simp [optionsOf]) :
    given.findSome? pick = some value ∨
      (given.findSome? pick = none ∧ option.Dispensable environment) := by
  cases found : given.findSome? pick with
  | none =>
      refine Or.inr ⟨rfl, (asked.complete option member).resolve_left fun present => ?_⟩
      rw [List.findSome?_eq_none_iff.mp found option present] at picked
      contradiction
  | some other =>
      obtain ⟨chosen, present, pickedOther⟩ := List.exists_of_findSome?_eq_some found
      have same : chosen = option :=
        List.inj_on_of_nodup_map (nodup_map_flag_optionsOf config) (asked.sound chosen present)
          member (own chosen (by rw [pickedOther]; rfl))
      rw [← picked, ← pickedOther, same]
      exact Or.inl rfl

theorem getD_findSome? (asked : AskFor given config environment) {α : Type}
    {pick : Given → Option α} (option : Given) {value default : α}
    (picked : pick option = some value) (left : option.Dispensable environment → default = value)
    (own : ∀ other, (pick other).isSome = true → other.flag = option.flag := by
      intro other; cases other <;> simp [Given.flag])
    (member : option ∈ optionsOf config := by simp [optionsOf]) :
    (given.findSome? pick).getD default = value := by
  rcases asked.findSome?_eq option picked own member with found | ⟨missing, dispensable⟩
  · rw [found, Option.getD_some]
  · rw [missing, Option.getD_none, left dispensable]

theorem has_eq (asked : AskFor given config environment) (option : Given)
    (needed : ¬ option.Dispensable environment) :
    (⟨given⟩ : Arguments).has option = decide (option ∈ optionsOf config) := by
  rw [Arguments.has, List.contains_eq_mem, decide_eq_decide]
  constructor
  · exact asked.sound option
  · intro member
    exact (asked.complete option member).resolve_right needed

theorem forall_required_mem (asked : AskFor given config environment) :
    ∀ flag ∈ Flag.required, flag ∈ given.map Given.flag := by
  have interface : .interface config.interface ∈ given :=
    (asked.complete _ (by simp [optionsOf])).resolve_right nofun
  have recordName : .recordName config.recordName ∈ given :=
    (asked.complete _ (by simp [optionsOf])).resolve_right nofun
  have required_eq : Flag.required = [.interface, .recordName] := by decide
  rw [required_eq, List.forall_mem_cons, List.forall_mem_singleton]
  exact ⟨List.mem_map_of_mem interface, List.mem_map_of_mem recordName⟩

theorem settings_eq (asked : AskFor given config environment) :
    (⟨given⟩ : Arguments).settings config.token = config := by
  have interface : (⟨given⟩ : Arguments).interface?.getD "" = config.interface :=
    asked.getD_findSome? (.interface config.interface) rfl (by rintro ⟨⟩)
  have recordName : (⟨given⟩ : Arguments).recordName?.getD "" = config.recordName :=
    asked.getD_findSome? (.recordName config.recordName) rfl (by rintro ⟨⟩)
  have url : (⟨given⟩ : Arguments).url?.getD Config.defaultApiUrl = config.apiUrl := by
    refine asked.getD_findSome? (.url config.apiUrl) rfl fun dispensable => ?_
    cases dispensable with
    | url usual => exact usual.symm
  have interval : (⟨given⟩ : Arguments).interval?.getD Config.defaultInterval = config.interval := by
    refine asked.getD_findSome? (.interval config.interval) rfl fun dispensable => ?_
    cases dispensable with
    | interval usual => exact usual.symm
  have ttl : (⟨given⟩ : Arguments).ttl?.getD Config.defaultTtl = config.ttl := by
    refine asked.getD_findSome? (.ttl config.ttl) rfl fun dispensable => ?_
    cases dispensable with
    | ttl usual => exact usual.symm
  have commandTimeout : (⟨given⟩ : Arguments).commandTimeout?.getD Config.defaultCommandTimeout =
      config.commandTimeout := by
    refine asked.getD_findSome? (.commandTimeout config.commandTimeout) rfl fun dispensable => ?_
    cases dispensable with
    | commandTimeout usual => exact usual.symm
  have ipv6 : (⟨given⟩ : Arguments).has .ipv6 = config.family.isIPv6 := by
    rw [asked.has_eq .ipv6 (by rintro ⟨⟩)]
    cases newer : config.family.isIPv6 <;> simp [optionsOf, newer]
  have verbose : (⟨given⟩ : Arguments).has .verbose = config.verbose := by
    rw [asked.has_eq .verbose (by rintro ⟨⟩)]
    simp [optionsOf]
  rw [Arguments.settings, interface, recordName, url, interval, ttl, commandTimeout, ipv6, verbose,
    Family.ofSwitch_isIPv6]

theorem tokenOr_eq (asked : AskFor given config environment) (accepted : config.Accepted) :
    (⟨given⟩ : Arguments).tokenOr environment = some config.token := by
  have nonempty := (config.accepted_iff_checked.mp accepted).token_ne_empty
  have given_or : (⟨given⟩ : Arguments).token? = some config.token ∨
      ((⟨given⟩ : Arguments).token? = none ∧
        (Given.token config.token).Dispensable environment) :=
    asked.findSome?_eq (.token config.token) rfl
  rcases given_or with found | ⟨missing, inherited⟩
  · simp [Arguments.tokenOr, found, nonempty]
  · cases inherited with
    | token inherited => simp [Arguments.tokenOr, missing, inherited, nonempty]

end AskFor

/-- Settings that are accepted are what their flags on a command line come to, in any order and in any
of their spellings.  Flags for defaults may be left out, and so may that for the token if the
environment has it. -/
theorem settings_are_read_back (accepted : config.Accepted)
    (complete : (given ++ omitted).Perm (optionsOf config))
    (dispensable : ∀ option ∈ omitted, option.Dispensable environment) {arguments : List String}
    (spelled : Spells given arguments) : configure arguments environment = .ok config := by
  have asked : AskFor given config environment :=
    { sound := fun option present => complete.subset (List.mem_append_left omitted present)
      complete := fun option member =>
        (List.mem_append.mp (complete.mem_iff.mpr member)).imp_right (dispensable option) }
  have distinct : (given.map Given.flag).Nodup := by
    have all := (complete.map Given.flag).nodup_iff.mpr (nodup_map_flag_optionsOf config)
    rw [List.map_append] at all
    exact all.of_append_left
  have nonempty : ∀ option ∈ given, option.value? ≠ some "" := fun option present =>
    value?_ne_empty_of_mem_optionsOf accepted option (asked.sound option present)
  have parsed := parse_of_spells distinct nonempty asked.forall_required_mem spelled
  have settled : (⟨given⟩ : Arguments).config environment = .ok config := by
    rw [Arguments.config_eq_ok_iff]
    refine ⟨config.token, asked.tokenOr_eq accepted, ?_, asked.settings_eq.symm⟩
    rw [asked.settings_eq]
    exact accepted
  simp only [configure, parsed, settled]

def cottageSettings : Config where
  interface := "eth0"
  recordName := "cottage.example.org."
  token := "-secret"
  ttl := 60
  family := .ipv6
  verbose := true

/-- A token that looks like a flag has to be attached. -/
theorem cottage_settings_are_read_back :
    let given : List Given := [.verbose, .token "-secret", .ipv6,
      .recordName "cottage.example.org.", .interface "eth0", .ttl 60]
    let omitted : List Given := [.commandTimeout 10, .url "http://localhost:8080", .interval 30]
    let arguments := ["-v", "--token=-secret", "--ipv6", "-ncottage.example.org.", "-i", "eth0",
      "-T=60"]
    cottageSettings.Accepted ∧ (given ++ omitted).Perm (optionsOf cottageSettings) ∧
    (∀ option ∈ omitted, option.Dispensable (some "other")) ∧ Spells given arguments ∧
    configure arguments (some "other") = .ok cottageSettings := by
  intro given omitted arguments
  have accepted : cottageSettings.Accepted := by decide
  have complete : (given ++ omitted).Perm (optionsOf cottageSettings) := by decide
  have dispensable : ∀ option ∈ omitted, option.Dispensable (some "other") := by
    simp only [omitted, List.forall_mem_cons]
    exact ⟨.commandTimeout rfl, .url rfl, .interval rfl, nofun⟩
  have verbose : Given.verbose.Spelling ["-v"] := @Given.Spelling.shortSwitch _ 'v' rfl rfl
  have token : (Given.token "-secret").Spelling ["--token=-secret"] :=
    @Given.Spelling.attached _ "-secret" rfl
  have ipv6 : Given.ipv6.Spelling ["--ipv6"] := .switch rfl
  have recordName : (Given.recordName "cottage.example.org.").Spelling ["-ncottage.example.org."] :=
    @Given.Spelling.shortJoined _ "cottage.example.org." 'n' rfl (by decide) rfl
  have interface : (Given.interface "eth0").Spelling ["-i", "eth0"] :=
    @Given.Spelling.shortSeparate _ "eth0" 'i' rfl (by decide) rfl
  have ttl : (Given.ttl 60).Spelling ["-T=60"] :=
    @Given.Spelling.shortAttached _ "60" 'T' rfl (by decide) rfl
  have spelled : Spells given arguments :=
    .cons verbose <| .cons token <| .cons ipv6 <| .cons recordName <| .cons interface <|
      .cons ttl .nil
  exact ⟨accepted, complete, dispensable, spelled,
    settings_are_read_back accepted complete dispensable spelled⟩

end AddressWatch.CommandLine
