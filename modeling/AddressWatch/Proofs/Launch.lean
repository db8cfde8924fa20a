import AddressWatch.Launch
import AddressWatch.Proofs.CommandLine.Settings
import AddressWatch.Proofs.Watcher.Schedule

/-!
# Which command lines lead to watching

A refused command line ends the program before anything is done.  With an accepted one nothing can go
wrong at the start any more, and the program ends when a signal comes.
-/

namespace AddressWatch

/-- Whatever the error says, the usage follows. -/
theorem CommandLine.usage_isInfix_errors (error : Error) :
    ("Usage: " ++ Refusal.generalUsage).toList <:+:
      (Ending.unusable error).printout.errors.toList := by
  have shown : Text.Terminal.plain ("Usage: " ++ Refusal.generalUsage) =
      "Usage: " ++ Refusal.generalUsage := by
    decide +kernel
  have inside : ("Usage: " ++ Refusal.generalUsage).toList <:+: (unusableText error).toList := by
    rw [unusableText, Refusal.errorText, String.toList_join, List.cons_append, List.cons_append,
      List.cons_append, List.map_cons, List.map_cons, List.map_cons, shown, List.flatMap_cons,
      List.flatMap_cons, List.flatMap_cons, ← List.append_assoc, ← List.append_assoc]
    exact ⟨_, _, rfl⟩
  have ended : (unusableText error).toList <+: (Ending.unusable error).printout.errors.toList :=
    ⟨"\n".toList, String.toList_append.symm⟩
  exact inside.trans ended.isInfix

variable {σ : Type}

/-- A signal ends the service at once, and nothing else ends it. -/
theorem Service.exitCode?_observe (service : Service) (surroundings : Surroundings σ) (state : σ)
    (signal? : Option (Signal × Nat)) (time : Nat) (code : UInt8) :
    (service.observe surroundings state signal? time).exitCode? = some code ↔
      code = 0 ∧ ∃ signal deadline, signal? = some (signal, deadline) ∧ deadline ≤ time := by
  cases signal? with
  | none => simp [observe]
  | some signal =>
      obtain ⟨signal, deadline⟩ := signal
      have ended : (service.run surroundings deadline state).ended = deadline :=
        Watcher.ended_turnsFrom _ deadline 0 _ state (Nat.zero_le deadline)
      simp only [observe, ended]
      split
      next late =>
        constructor
        · intro ending
          exact ⟨(Option.some.inj ending).symm, signal, deadline, rfl, late⟩
        · rintro ⟨rfl, _⟩
          rfl
      next early =>
        constructor
        · intro ending
          contradiction
        · rintro ⟨_, _, _, ⟨⟩, late⟩
          exact absurd late early

/-- Until when a service that is looked at by a time has been watching. -/
def Service.watchedUntil (signal? : Option (Signal × Nat)) (time : Nat) : Nat :=
  match signal? with
  | none => time
  | some (_, deadline) => min deadline time

/-- The polls that are seen of a service are those that its watcher has made by then. -/
theorem Service.turns_observe (service : Service) (surroundings : Surroundings σ) (state : σ)
    (signal? : Option (Signal × Nat)) (time : Nat) :
    (service.observe surroundings state signal? time).turns =
      (service.run surroundings (watchedUntil signal? time) state).turns := by
  cases signal? with
  | none => rfl
  | some signal =>
      obtain ⟨signal, deadline⟩ := signal
      have ended : (service.run surroundings deadline state).ended = deadline :=
        Watcher.ended_turnsFrom _ deadline 0 _ state (Nat.zero_le deadline)
      simp only [observe, watchedUntil, ended]
      by_cases late : deadline ≤ time
      · rw [if_pos late, Nat.min_eq_left late]
      · rw [if_neg late, Nat.min_eq_right (Nat.le_of_not_le late)]

/-- A service that has any time at all polls at once. -/
theorem Service.head?_turns_run (service : Service) (surroundings : Surroundings σ) (state : σ)
    {deadline : Nat} (positive : 0 < deadline) :
    (service.run surroundings deadline state).turns.head?.map Watcher.Turn.start = some 0 := by
  obtain ⟨start, keeps⟩ :=
    service.watcher.run_keeps_schedule (service.world surroundings) deadline state
  have asked := keeps.asked 0
  rwa [keeps.start_zero, if_pos positive, ← List.head?_eq_getElem?] at asked

/-- With acceptable settings nothing fails at the start. -/
theorem Service.exists_ofConfig_eq_ok {config : Config} (accepted : config.Accepted) :
    ∃ client watcher, RecordClient.ofConfig config = .ok client ∧
      Watcher.new config (Resolver.ofConfig config).family = .ok watcher ∧
      ofConfig config = .ok ⟨.ofConfig config, client, watcher.dropListener⟩ := by
  have made : Watcher.new config (Resolver.ofConfig config).family =
      .ok ⟨config, accepted, "", .empty⟩ :=
    (Watcher.new_eq_ok_iff _ _ _).mpr ⟨accepted, rfl, rfl⟩
  have nonempty := (config.accepted_iff_checked.mp accepted).token_ne_empty
  have client : RecordClient.ofConfig config =
      .ok ⟨config.endpoint, config.token, RecordClient.defaultTimeout, nonempty⟩ := by
    rw [RecordClient.ofConfig, RecordClient.new, dif_neg nonempty]
    rfl
  refine ⟨_, _, client, made, ?_⟩
  simp only [ofConfig, client, made]

namespace Launch

variable {arguments : List String} {environment : Option String}

theorem ofArguments_eq_printed {ending : CommandLine.Ending}
    (refused : CommandLine.configure arguments environment = .error ending) :
    ofArguments arguments environment = .printed ending.printout := by
  simp only [ofArguments, refused]

theorem eq_printed_of_stop {stop : CommandLine.Stop}
    (stopped : CommandLine.parse arguments = .error stop) :
    ofArguments arguments environment = .printed (CommandLine.Ending.stop stop).printout :=
  ofArguments_eq_printed (by simp only [CommandLine.configure, stopped])

theorem eq_printed_of_unusable {given : CommandLine.Arguments}
    (parsed : CommandLine.parse arguments = .ok given) (unusable : given.Unusable environment) :
    ∃ error, ofArguments arguments environment =
      .printed (CommandLine.Ending.unusable error).printout := by
  cases settled : given.config environment with
  | error error =>
      exact ⟨error, ofArguments_eq_printed (by simp only [CommandLine.configure, parsed, settled])⟩
  | ok config =>
      exact absurd unusable (CommandLine.Arguments.exists_config_eq_ok_iff.mp ⟨config, settled⟩)

theorem eq_watching_of_usable {given : CommandLine.Arguments}
    (parsed : CommandLine.parse arguments = .ok given) (usable : ¬ given.Unusable environment) :
    ∃ config client watcher,
      CommandLine.configure arguments environment = .ok config ∧
      RecordClient.ofConfig config = .ok client ∧
      Watcher.new config (Resolver.ofConfig config).family = .ok watcher ∧
      ofArguments arguments environment =
        .watching ⟨.ofConfig config, client, watcher.dropListener⟩ := by
  obtain ⟨config, settled⟩ := CommandLine.Arguments.exists_config_eq_ok_iff.mpr usable
  obtain ⟨_, _, accepted, rfl⟩ := (CommandLine.Arguments.config_eq_ok_iff config).mp settled
  obtain ⟨client, watcher, connected, made, started⟩ := Service.exists_ofConfig_eq_ok accepted
  refine ⟨_, client, watcher, ?_, connected, made, ?_⟩
  · simp only [CommandLine.configure, parsed, settled]
  · simp only [ofArguments, CommandLine.configure, parsed, settled, started]

/-- A command line that is refused, or asks for settings that are, ends the program with its exit code
before any poll.  Any other leads to a service: its watcher polls at once and goes on as it does on its own,
and nothing but a signal ends it. -/
theorem unusable_settings_never_watch (arguments : List String) (environment : Option String)
    (surroundings : Surroundings σ) (state : σ) (signal? : Option (Service.Signal × Nat))
    (time : Nat) :
    let launch := ofArguments arguments environment
    let seen := launch.observe surroundings state signal? time
    (∀ failure, launch ≠ .failed failure) ∧
    match CommandLine.parse arguments with
    | .error (.inquiry _) => seen.exitCode? = some 0 ∧ seen.turns = []
    | .error (.refusal _) => seen.exitCode? = some 2 ∧ seen.turns = []
    | .ok given =>
        (given.Unusable environment ↔
          seen.exitCode? = some 1 ∧ seen.turns = [] ∧
            ("Usage: " ++ CommandLine.Refusal.generalUsage).toList <:+: seen.errors.toList) ∧
        (¬ given.Unusable environment →
          ∃ config client watcher,
            CommandLine.configure arguments environment = .ok config ∧
            RecordClient.ofConfig config = .ok client ∧
            Watcher.new config (Resolver.ofConfig config).family = .ok watcher ∧
            launch = .watching ⟨.ofConfig config, client, watcher.dropListener⟩ ∧
            (∀ code, seen.exitCode? = some code ↔
              code = 0 ∧ ∃ signal deadline, signal? = some (signal, deadline) ∧ deadline ≤ time) ∧
            seen.turns = (watcher.dropListener.run
              (Service.world ⟨.ofConfig config, client, watcher.dropListener⟩ surroundings)
              (Service.watchedUntil signal? time) state).turns ∧
            (0 < Service.watchedUntil signal? time →
              seen.turns.head?.map Watcher.Turn.start = some 0)) := by
  cases parsed : CommandLine.parse arguments with
  | error stop =>
      rw [eq_printed_of_stop parsed]
      refine ⟨nofun, ?_⟩
      cases stop <;> exact ⟨rfl, rfl⟩
  | ok given =>
      by_cases unusable : given.Unusable environment
      · obtain ⟨error, printed⟩ := eq_printed_of_unusable parsed unusable
        rw [printed]
        refine ⟨nofun, ⟨fun _ => ⟨rfl, rfl, ?_⟩, fun _ => unusable⟩, absurd unusable⟩
        exact CommandLine.usage_isInfix_errors error
      · obtain ⟨config, client, watcher, configured, connected, made, watching⟩ :=
          eq_watching_of_usable parsed unusable
        let service : Service := ⟨.ofConfig config, client, watcher.dropListener⟩
        have ends := service.exitCode?_observe surroundings state signal? time
        have turns := service.turns_observe surroundings state signal? time
        rw [watching]
        refine ⟨nofun, ⟨fun also => absurd also unusable, ?_⟩, fun _ =>
          ⟨config, client, watcher, configured, connected, made, rfl, ends, turns, ?_⟩⟩
        · rintro ⟨failing, _⟩
          exact absurd ((ends 1).mp failing).1 (by decide)
        · intro positive
          have started := service.head?_turns_run surroundings state positive
          rwa [← turns] at started

/-- A command line that watches a cabin with the given time to live. -/
def cabinArguments (ttl : String) : List String :=
  ["--interface", "eth0", "-n", "cabin.example.org.", "--token=secret", "-T", ttl]

/-- What is seen of it on a bare host, when an interrupt comes after 65 seconds. -/
def cabinSeen (ttl : String) (time : Nat) : Observation :=
  (ofArguments (cabinArguments ttl) none).observe
    (.constant .basic ⟨⟨[], []⟩, none⟩ []) () (some (.interrupt, 65000)) time

/-- A time to live of 59 seconds is refused.  With one of 60 seconds the cabin is watched until the
interrupt. -/
theorem cabin_is_watched_until_interrupt :
    let given (ttl : UInt32) : CommandLine.Arguments :=
      ⟨[.interface "eth0", .recordName "cabin.example.org.", .token "secret", .ttl ttl]⟩
    (given 59).Unusable none ∧ ¬ (given 60).Unusable none ∧
      (cabinSeen "59" 70000).exitCode? = some 1 ∧ (cabinSeen "59" 70000).turns = [] ∧
      (cabinSeen "60" 50000).exitCode? = none ∧ (cabinSeen "60" 70000).exitCode? = some 0 ∧
      (cabinSeen "60" 70000).turns.head?.map Watcher.Turn.start = some 0 := by
  intro given
  have short : CommandLine.parse (cabinArguments "59") = .ok (given 59) := by decide +kernel
  have long : CommandLine.parse (cabinArguments "60") = .ok (given 60) := by decide +kernel
  have unusable : (given 59).Unusable none := .ttlOutOfRange (.inl (by decide))
  have usable : ¬ (given 60).Unusable none :=
    CommandLine.Arguments.exists_config_eq_ok_iff.mp ⟨{
      interface := "eth0"
      recordName := "cabin.example.org."
      token := "secret"
      ttl := 60 }, by decide⟩
  obtain ⟨-, refused⟩ := unusable_settings_never_watch (cabinArguments "59") none
    (.constant .basic ⟨⟨[], []⟩, none⟩ []) () (some (.interrupt, 65000)) 70000
  obtain ⟨-, early⟩ := unusable_settings_never_watch (cabinArguments "60") none
    (.constant .basic ⟨⟨[], []⟩, none⟩ []) () (some (.interrupt, 65000)) 50000
  obtain ⟨-, late⟩ := unusable_settings_never_watch (cabinArguments "60") none
    (.constant .basic ⟨⟨[], []⟩, none⟩ []) () (some (.interrupt, 65000)) 70000
  rw [short] at refused
  rw [long] at early late
  obtain ⟨failing, idle, -⟩ := refused.1.mp unusable
  obtain ⟨_, _, _, -, -, -, -, goesOn, -⟩ := early.2 usable
  obtain ⟨_, _, _, -, -, -, -, ends, -, polls⟩ := late.2 usable
  refine ⟨unusable, usable, failing, idle, ?_, (ends 0).mpr ⟨rfl, _, _, rfl, by decide⟩,
    polls (by decide)⟩
  rw [Option.eq_none_iff_forall_ne_some]
  intro code ended
  obtain ⟨-, _, _, ⟨⟩, past⟩ := (goesOn code).mp ended
  exact absurd past (by decide)

end Launch

end AddressWatch
