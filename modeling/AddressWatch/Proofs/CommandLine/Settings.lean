import AddressWatch.CommandLine

/-!
# Which settings are refused

Once the arguments are read, the settings that they ask for are refused for exactly eight reasons.
Everything else is accepted as it is.
-/

namespace AddressWatch.CommandLine.Arguments

/-- Why no watching is possible with the arguments: nobody gives a token, or the settings that are asked
for are not acceptable. -/
inductive Unusable (arguments : Arguments) (environment : Option String) : Prop
  | tokenless (given : ∀ token ∈ arguments.token?, token = "")
      (inherited : ∀ token ∈ environment, token = "")
  | blankInterface
      (blank : ∀ char ∈ (arguments.settings "").interface.toList, Text.isBlank char = true)
  | nameless (empty : (arguments.settings "").recordName = "")
  | unterminated (last : (arguments.settings "").recordName.toList.getLast? ≠ some '.')
  | unknownScheme (insecure : ¬ "http://".toList <+: (arguments.settings "").apiUrl.toList)
      (secure : ¬ "https://".toList <+: (arguments.settings "").apiUrl.toList)
  | zeroInterval (zero : (arguments.settings "").interval = 0)
  | ttlOutOfRange
      (outside : (arguments.settings "").ttl.toNat < 60 ∨ 86400 < (arguments.settings "").ttl.toNat)
  | zeroCommandTimeout (zero : (arguments.settings "").commandTimeout = 0)

variable {arguments : Arguments} {environment : Option String}

theorem tokenOr_eq_none_iff :
    arguments.tokenOr environment = none ↔
      (∀ token ∈ arguments.token?, token = "") ∧ ∀ token ∈ environment, token = "" := by
  simp only [tokenOr, Option.or_eq_none_iff, Option.filter_eq_none_iff, Option.mem_def,
    decide_eq_true_eq, Decidable.not_not]

theorem ne_empty_of_tokenOr {token : String} (found : arguments.tokenOr environment = some token) :
    token ≠ "" := by
  rw [tokenOr, Option.or_eq_some_iff] at found
  rcases found with given | ⟨_, inherited⟩
  · simpa using (Option.filter_eq_some_iff.mp given).2
  · simpa using (Option.filter_eq_some_iff.mp inherited).2

theorem config_eq_ok_iff (config : Config) :
    arguments.config environment = .ok config ↔
      ∃ token, arguments.tokenOr environment = some token ∧ (arguments.settings token).Accepted ∧
        config = arguments.settings token := by
  unfold Arguments.config
  cases found : arguments.tokenOr environment with
  | none => simp
  | some token =>
      cases faulty : (arguments.settings token).fault? with
      | none => simp [Config.Accepted, faulty, eq_comm]
      | some fault => simp [Config.Accepted, faulty]

/-- What is usable comes to settings. -/
theorem exists_config_eq_ok_iff :
    (∃ config, arguments.config environment = .ok config) ↔
      ¬ arguments.Unusable environment := by
  constructor
  · rintro ⟨config, usable⟩ unusable
    obtain ⟨token, found, accepted, _⟩ := (config_eq_ok_iff config).mp usable
    have checked := (Config.accepted_iff_checked _).mp accepted
    cases unusable with
    | tokenless given inherited =>
        rw [tokenOr_eq_none_iff.mpr ⟨given, inherited⟩] at found
        contradiction
    | blankInterface blank =>
        have isBlank : Config.isBlankName (arguments.settings token).interface = true :=
          List.all_eq_true.mpr blank
        rw [checked.interface_not_blank] at isBlank
        contradiction
    | nameless empty => exact checked.recordName_ne_empty empty
    | unterminated last => exact last checked.recordName_terminated
    | unknownScheme insecure secure =>
        rcases (Config.hasKnownScheme_iff _).mp checked.scheme_known with known | known
        · exact insecure known
        · exact secure known
    | zeroInterval zero => exact checked.interval_ne_zero zero
    | ttlOutOfRange outside =>
        have lower : 60 ≤ (arguments.settings token).ttl.toNat := checked.minTtl_le
        have upper : (arguments.settings token).ttl.toNat ≤ 86400 := checked.le_maxTtl
        rcases outside with below | above
        · exact absurd below (Nat.not_lt.mpr lower)
        · exact absurd above (Nat.not_lt.mpr upper)
    | zeroCommandTimeout zero => exact checked.commandTimeout_ne_zero zero
  · intro usable
    obtain ⟨token, found⟩ : ∃ token, arguments.tokenOr environment = some token := by
      rw [← Option.ne_none_iff_exists']
      intro missing
      obtain ⟨given, inherited⟩ := tokenOr_eq_none_iff.mp missing
      exact usable (.tokenless given inherited)
    have known : "http://".toList <+: (arguments.settings token).apiUrl.toList ∨
        "https://".toList <+: (arguments.settings token).apiUrl.toList := by
      rw [← Decidable.not_not (p := _ ∨ _), not_or]
      exact fun unknown => usable (.unknownScheme unknown.1 unknown.2)
    have checked : (arguments.settings token).Checked :=
      { interface_not_blank := by
          rw [← Bool.not_eq_true]
          intro blank
          exact usable (.blankInterface (List.all_eq_true.mp blank))
        recordName_ne_empty := fun empty => usable (.nameless empty)
        recordName_terminated := Decidable.not_not.mp fun last => usable (.unterminated last)
        apiUrl_ne_empty := by
          intro empty
          rw [empty] at known
          exact absurd known (by decide)
        scheme_known := (Config.hasKnownScheme_iff _).mpr known
        token_ne_empty := ne_empty_of_tokenOr found
        interval_ne_zero := fun zero => usable (.zeroInterval zero)
        minTtl_le := Nat.le_of_not_lt fun below => usable (.ttlOutOfRange (Or.inl below))
        le_maxTtl := Nat.le_of_not_lt fun above => usable (.ttlOutOfRange (Or.inr above))
        commandTimeout_ne_zero := fun zero => usable (.zeroCommandTimeout zero) }
    have accepted := (Config.accepted_iff_checked _).mpr checked
    exact ⟨_, (config_eq_ok_iff _).mpr ⟨token, found, accepted, rfl⟩⟩

end AddressWatch.CommandLine.Arguments
