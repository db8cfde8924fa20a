import AddressWatch.Proofs.Resolver.Probe
import AddressWatch.Proofs.Resolver.Query
import AddressWatch.Proofs.Watcher.Poll
import AddressWatch.Watcher.Hosts

/-!
# What keeps a resolver from an address

On its way to an address a resolver can be stopped at four places: the choice of a tool, its start, its
end, and the reading of what it has printed.  `Fails` lists what can go wrong there, each with the error
that tells it.  Only the first of the three kinds of error blames the host, and a poll passes that on.
-/

namespace AddressWatch

theorem bind_eq_error_iff {ε α β : Type} (first : Except ε α) (next : α → Except ε β) (error : ε) :
    first.bind next = .error error ↔
      first = .error error ∨ ∃ value, first = .ok value ∧ next value = .error error := by
  cases first <;> simp [Except.bind]

theorem Error.isEnvironment_iff (error : Error) :
    error.isEnvironment = true ↔ ∃ message, error = .environment message := by
  cases error <;> simp [isEnvironment]

namespace Resolver

/-- What goes wrong with a command, and the error that tells it. -/
inductive Command.Fails (machine : Machine) (limit : Duration) (command : Command) : Error → Prop
  /-- The program does not exist, or something does not that it needs in order to start. -/
  | notFound (absent : machine.spawn command.program command.arguments = .error .notFound) :
      Fails machine limit command (.environment ("'" ++ command.program ++ "' not found in PATH"))
  | notStarted {fault : Machine.SpawnFault}
      (refused : machine.spawn command.program command.arguments = .error fault)
      (other : fault ≠ .notFound) :
      Fails machine limit command (.commandFailed command.line fault.message)
  | late {behaviour : Machine.Behaviour}
      (started : machine.spawn command.program command.arguments = .ok behaviour)
      (overrun : limit.nanoseconds ≤ behaviour.duration.nanoseconds) :
      Fails machine limit command (.commandFailed command.line ("timed out after " ++ limit.text))
  | unsuccessful {behaviour : Machine.Behaviour}
      (started : machine.spawn command.program command.arguments = .ok behaviour)
      (inTime : behaviour.duration.nanoseconds < limit.nanoseconds)
      (ending : behaviour.ending ≠ .exited 0) :
      Fails machine limit command
        (.commandFailed command.line (Completion.ofBehaviour behaviour).failure)

/-- What goes wrong when an address is asked for, and the error that tells it. -/
inductive Fails (resolver : Resolver) (machine : Machine) : Error → Prop
  | uninstalled (nothing : ∀ strategy ∈ Strategy.candidates resolver.interface,
        ¬ resolver.Installed machine strategy) :
      Fails resolver machine (.environment (Strategy.missing resolver.interface).message)
  | command {strategy : Strategy} {command : Command} {error : Error}
      (asked : resolver.query machine = .ok (strategy, command))
      (fails : command.Fails machine resolver.limit error) : Fails resolver machine error
  | noAddress {strategy : Strategy} {behaviour : Machine.Behaviour}
      (ran : resolver.ran? machine = some (strategy, behaviour))
      (succeeds : behaviour.Succeeds resolver.limit)
      (nothing : strategy.parse? resolver.family (Completion.decode behaviour.output) = none) :
      Fails resolver machine (.noAddress (strategy.name ++ " reported no " ++
        resolver.family.name ++ " address for " ++ resolver.interface))

/-- No tool for the interface is installed, or the one that is run needs something that does not
exist. -/
def LacksTool (resolver : Resolver) (machine : Machine) : Prop :=
  (∀ strategy ∈ Strategy.candidates resolver.interface, ¬ resolver.Installed machine strategy) ∨
    ∃ strategy command, resolver.query machine = .ok (strategy, command) ∧
      machine.spawn command.program command.arguments = .error .notFound

/-- The tool does not start although it is there, or it does not end by itself and with code zero before
the limit passes. -/
def ToolFails (resolver : Resolver) (machine : Machine) : Prop :=
  ∃ strategy command, resolver.query machine = .ok (strategy, command) ∧
    ((∃ fault, machine.spawn command.program command.arguments = .error fault ∧
        fault ≠ .notFound) ∨
      ∃ behaviour, machine.spawn command.program command.arguments = .ok behaviour ∧
        (resolver.limit.nanoseconds ≤ behaviour.duration.nanoseconds ∨
          behaviour.ending = .killed ∨ ∃ code, behaviour.ending = .exited code ∧ code ≠ 0))

/-- The tool succeeds, and this is what is read in its output. -/
def Reads (resolver : Resolver) (machine : Machine) (address : Option String) : Prop :=
  ∃ strategy behaviour, resolver.ran? machine = some (strategy, behaviour) ∧
    behaviour.Succeeds resolver.limit ∧
    strategy.parse? resolver.family (Completion.decode behaviour.output) = address

namespace Command

variable (machine : Machine) (limit : Duration) (command : Command)

theorem fails_of_result_run {error : Error}
    (failed : (command.run machine limit).result = .error error) :
    command.Fails machine limit error := by
  rw [run] at failed
  split at failed
  next absent =>
    obtain rfl := Except.error.inj failed
    exact .notFound absent
  next fault other refused =>
    obtain rfl := Except.error.inj failed
    exact .notStarted refused other
  next behaviour started =>
    split at failed
    next overrun =>
      obtain rfl := Except.error.inj failed
      exact .late started (by simpa [overruns] using overrun)
    next => contradiction

theorem outputOf_eq_error_iff (completion : Completion) (error : Error) :
    command.outputOf completion = .error error ↔
      completion.isSuccess = false ∧ .commandFailed command.line completion.failure = error := by
  unfold outputOf
  cases completion.isSuccess <;> simp

theorem result_runForOutput_eq_error_iff (error : Error) :
    (command.runForOutput machine limit).result = .error error ↔
      command.Fails machine limit error := by
  rw [runForOutput, Act.result_map, bind_eq_error_iff]
  constructor
  · rintro (failed | ⟨completion, ran, failed⟩)
    · exact command.fails_of_result_run machine limit failed
    · obtain ⟨behaviour, started, inTime, rfl⟩ :=
        (command.result_run_eq_ok_iff machine limit completion).mp ran
      obtain ⟨failure, rfl⟩ := (command.outputOf_eq_error_iff _ error).mp failed
      refine .unsuccessful started inTime fun success => ?_
      rw [(isSuccess_ofBehaviour behaviour).mpr success] at failure
      contradiction
  · intro fails
    cases fails with
    | notFound absent => exact Or.inl (by simp [run, absent])
    | @notStarted fault refused other =>
        left
        cases fault with
        | notFound => contradiction
        | _ => simp [run, refused]
    | late started overrun => exact Or.inl (by simp [run, started, overruns, overrun])
    | @unsuccessful behaviour started inTime ending =>
        have ran := (command.result_run_eq_ok_iff machine limit _).mpr
          ⟨behaviour, started, inTime, rfl⟩
        refine Or.inr ⟨_, ran, (command.outputOf_eq_error_iff _ _).mpr ⟨?_, rfl⟩⟩
        rw [← Bool.not_eq_true, isSuccess_ofBehaviour]
        exact ending

end Command

section

variable (resolver : Resolver) (machine : Machine)

/-- Without a command there is no tool: a tool that is chosen is found once more. -/
theorem query_eq_error_iff (error : Error) :
    resolver.query machine = .error error ↔
      (∀ strategy ∈ Strategy.candidates resolver.interface,
        ¬ resolver.Installed machine strategy) ∧
      error = .environment (Strategy.missing resolver.interface).message := by
  constructor
  · intro failed
    have nothing : ∀ strategy ∈ Strategy.candidates resolver.interface,
        ¬ resolver.Installed machine strategy := by
      intro strategy candidate installed
      obtain ⟨chosen, choice⟩ := resolver.exists_strategy_of_candidate machine candidate installed
      obtain ⟨place, _, query_eq⟩ := resolver.query_of_strategy machine choice
      rw [query_eq] at failed
      contradiction
    rw [query, resolver.strategy_of_none_installed machine nothing] at failed
    exact ⟨nothing, (Except.error.inj failed).symm⟩
  · rintro ⟨nothing, rfl⟩
    rw [query, resolver.strategy_of_none_installed machine nothing]

theorem addressOf_eq_error_iff (strategy : Strategy) (output : String) (error : Error) :
    resolver.addressOf strategy output = .error error ↔
      strategy.parse? resolver.family output = none ∧
        .noAddress (strategy.name ++ " reported no " ++ resolver.family.name ++
          " address for " ++ resolver.interface) = error := by
  unfold addressOf
  cases strategy.parse? resolver.family output <;> simp

theorem result_current_eq_error_iff (error : Error) :
    (resolver.current machine).result = .error error ↔ resolver.Fails machine error := by
  constructor
  · intro failed
    rw [current] at failed
    split at failed
    next missing unasked =>
      obtain rfl := Except.error.inj failed
      obtain ⟨nothing, rfl⟩ := (resolver.query_eq_error_iff machine missing).mp unasked
      exact .uninstalled nothing
    next strategy command asked =>
      rw [Act.result_after, Act.result_map, bind_eq_error_iff] at failed
      rcases failed with failed | ⟨output, printed, unread⟩
      · exact .command asked ((command.result_runForOutput_eq_error_iff machine _ error).mp failed)
      · obtain ⟨behaviour, started, succeeds, rfl⟩ :=
          (command.result_runForOutput_eq_ok_iff machine _ output).mp printed
        obtain ⟨nothing, rfl⟩ := (resolver.addressOf_eq_error_iff strategy _ error).mp unread
        have ran := (resolver.ran?_eq_some_iff machine strategy behaviour).mpr
          ⟨command, asked, started⟩
        exact .noAddress ran succeeds nothing
  · intro fails
    cases fails with
    | uninstalled nothing =>
        have unasked := (resolver.query_eq_error_iff machine _).mpr ⟨nothing, rfl⟩
        rw [current, unasked, Act.result_done]
    | @command strategy command _ asked fails =>
        have failed := (command.result_runForOutput_eq_error_iff machine _ error).mpr fails
        simp only [current, asked, Act.result_after, Act.result_map, bind_eq_error_iff]
        exact Or.inl failed
    | @noAddress strategy behaviour ran succeeds nothing =>
        obtain ⟨command, asked, started⟩ :=
          (resolver.ran?_eq_some_iff machine strategy behaviour).mp ran
        have printed := (command.result_runForOutput_eq_ok_iff machine resolver.limit _).mpr
          ⟨behaviour, started, succeeds, rfl⟩
        have unread := (resolver.addressOf_eq_error_iff strategy _ _).mpr ⟨nothing, rfl⟩
        simp only [current, asked, Act.result_after, Act.result_map, bind_eq_error_iff]
        exact Or.inr ⟨_, printed, unread⟩

variable {resolver machine}

/-- There are three kinds of error. -/
theorem Fails.kind_cases {error : Error} (fails : resolver.Fails machine error) :
    (∃ message, error = .environment message) ∨
      (∃ command reason, error = .commandFailed command reason) ∨
      ∃ message, error = .noAddress message := by
  cases fails with
  | uninstalled => exact Or.inl ⟨_, rfl⟩
  | command asked fails =>
      cases fails with
      | notFound => exact Or.inl ⟨_, rfl⟩
      | notStarted | late | unsuccessful => exact Or.inr (Or.inl ⟨_, _, rfl⟩)
  | noAddress => exact Or.inr (Or.inr ⟨_, rfl⟩)

theorem exists_fails_environment_iff :
    (∃ message, resolver.Fails machine (.environment message)) ↔ resolver.LacksTool machine := by
  constructor
  · rintro ⟨message, fails⟩
    cases fails with
    | uninstalled nothing => exact Or.inl nothing
    | command asked fails =>
        cases fails with
        | notFound absent => exact Or.inr ⟨_, _, asked, absent⟩
  · rintro (nothing | ⟨strategy, command, asked, absent⟩)
    · exact ⟨_, .uninstalled nothing⟩
    · exact ⟨_, .command asked (.notFound absent)⟩

theorem exists_fails_commandFailed_iff :
    (∃ command reason, resolver.Fails machine (.commandFailed command reason)) ↔
      resolver.ToolFails machine := by
  constructor
  · rintro ⟨line, reason, fails⟩
    cases fails with
    | @command strategy command _ asked fails =>
        refine ⟨strategy, command, asked, ?_⟩
        cases fails with
        | notStarted refused other => exact Or.inl ⟨_, refused, other⟩
        | late started overrun => exact Or.inr ⟨_, started, Or.inl overrun⟩
        | @unsuccessful behaviour started inTime ending =>
            refine Or.inr ⟨behaviour, started, Or.inr ?_⟩
            cases ended : behaviour.ending with
            | killed => exact Or.inl rfl
            | exited code => exact Or.inr ⟨code, rfl, fun zero => ending (by rw [ended, zero])⟩
  · rintro ⟨strategy, command, asked, ⟨fault, refused, other⟩ | ⟨behaviour, started, ended⟩⟩
    · exact ⟨_, _, .command asked (.notStarted refused other)⟩
    · rcases Nat.lt_or_ge behaviour.duration.nanoseconds resolver.limit.nanoseconds with
        inTime | overrun
      · refine ⟨_, _, .command asked (.unsuccessful started inTime fun success => ?_)⟩
        rcases ended with overrun | killed | ⟨code, exited, nonzero⟩
        · exact Nat.not_le.mpr inTime overrun
        · rw [killed] at success
          contradiction
        · rw [exited] at success
          exact nonzero (Machine.Ending.exited.inj success)
      · exact ⟨_, _, .command asked (.late started overrun)⟩

theorem exists_fails_noAddress_iff :
    (∃ message, resolver.Fails machine (.noAddress message)) ↔ resolver.Reads machine none := by
  constructor
  · rintro ⟨message, fails⟩
    cases fails with
    | command asked fails => cases fails
    | noAddress ran succeeds nothing => exact ⟨_, _, ran, succeeds, nothing⟩
  · rintro ⟨strategy, behaviour, ran, succeeds, nothing⟩
    exact ⟨_, .noAddress ran succeeds nothing⟩

end

/-- What asking a host for an address can come to, and what a poll makes of it. -/
structure TellsErrors {σ : Type} (resolver : Resolver) (machine : Machine) (watcher : Watcher)
    (poll : Watcher.Poll σ) : Prop where
  error_iff : ∀ error,
    (resolver.current machine).result = .error error ↔ resolver.Fails machine error
  /-- A tool that is lacking is blamed on the host. -/
  environment_iff : (∃ message, (resolver.current machine).result = .error (.environment message)) ↔
    resolver.LacksTool machine
  /-- A tool that does not start, is cut off, is killed or exits with another code than zero has failed,
  whatever it has printed. -/
  commandFailed_iff :
    (∃ command reason, (resolver.current machine).result = .error (.commandFailed command reason)) ↔
      resolver.ToolFails machine
  /-- There may be no address in the output of a tool that succeeds. -/
  noAddress_iff : (∃ message, (resolver.current machine).result = .error (.noAddress message)) ↔
    resolver.Reads machine none
  ok_iff : ∀ address,
    (resolver.current machine).result = .ok address ↔ resolver.Reads machine (some address)
  kind_cases : ∀ error, (resolver.current machine).result = .error error →
    (∃ message, error = .environment message) ∨
      (∃ command reason, error = .commandFailed command reason) ∨
      ∃ message, error = .noAddress message
  blames_host_iff : (∃ reason, poll.event = .addressMissing reason true) ↔
    resolver.LacksTool machine
  /-- A poll reports the error as a missing address and leaves the watcher with what it remembers. -/
  reported : ∀ error, (resolver.current machine).result = .error error →
    poll.event = .addressMissing error.message error.isEnvironment ∧ poll.update? = none ∧
      (watcher.finish poll).lastAccepted = watcher.lastAccepted

/-- Asking for an address comes to the address that is read in the output of a tool that succeeds, or to
an error of one of three kinds, of which one blames the host; and a poll passes that on. -/
theorem errors_tell_what_went_wrong {σ : Type} (resolver : Resolver) (machine : Machine)
    (watcher : Watcher) {world : Watcher.World σ} {state : σ}
    (asks : (world.look state).1 = resolver.current machine) :
    resolver.TellsErrors machine watcher (watcher.poll world state) := by
  have failed (error : Error) :
      (resolver.current machine).result = .error error ↔ resolver.Fails machine error :=
    resolver.result_current_eq_error_iff machine error
  have lacks : (∃ message, (resolver.current machine).result = .error (.environment message)) ↔
      resolver.LacksTool machine := by
    rw [← exists_fails_environment_iff]
    exact exists_congr fun message => failed _
  have reported (reason : String) (environment : Bool) :
      (watcher.poll world state).event = .addressMissing reason environment ↔
        ∃ error, (resolver.current machine).result = .error error ∧ error.message = reason ∧
          error.isEnvironment = environment := by
    rw [watcher.event_poll_eq_addressMissing_iff, asks]
  constructor
  case error_iff => exact failed
  case environment_iff => exact lacks
  case commandFailed_iff =>
    rw [← exists_fails_commandFailed_iff]
    exact exists_congr fun command => exists_congr fun reason => failed _
  case noAddress_iff =>
    rw [← exists_fails_noAddress_iff]
    exact exists_congr fun message => failed _
  case ok_iff => exact resolver.result_current_eq_ok_iff machine
  case kind_cases =>
    intro error isError
    exact ((failed error).mp isError).kind_cases
  case blames_host_iff =>
    rw [← lacks]
    constructor
    · rintro ⟨reason, missing⟩
      obtain ⟨error, isError, _, blames⟩ := (reported reason true).mp missing
      obtain ⟨message, rfl⟩ := error.isEnvironment_iff.mp blames
      exact ⟨message, isError⟩
    · rintro ⟨message, isError⟩
      exact ⟨_, (reported _ true).mpr ⟨_, isError, rfl, rfl⟩⟩
  case reported =>
    intro error isError
    have idle : (watcher.poll world state).IsIdle watcher :=
      Watcher.isIdle_poll_of_error (by rwa [asks])
    exact ⟨(reported _ _).mpr ⟨error, isError, rfl, rfl⟩, idle.update?_eq, idle.lastAccepted_eq⟩

def workshopSettings : Config where
  interface := "eth0"
  recordName := "workshop.example.org."
  token := "secret"

/-- A watcher that remembers an address. -/
def workshopWatcher : Watcher := ⟨workshopSettings, by decide, "192.0.2.1", .empty⟩

/-- The workshop with another file for its tool. -/
def workshopWith (content : Machine.Content) : Machine :=
  { workshop with files := workshop.files.insert ["opt", "ifconfig"] (.file 0o711 content) }

def workshopWorld (content : Machine.Content) : Watcher.World Nat :=
  .ofHosts workshopResolver "rest" (fun _ => workshopWith content) fun _ _ => .done (.applied 200)

/-- The tool of the workshop is installed, but its interpreter does not exist, or the system does not
let this user start it. -/
theorem errors_tell_of_missing_interpreter_and_denied_file :
    (((workshopWorld .missingInterpreter).look 0).1 =
        workshopResolver.current (workshopWith .missingInterpreter) ∧
      (workshopResolver.current (workshopWith .missingInterpreter)).result =
        .error (.environment "'/opt/ifconfig' not found in PATH") ∧
      workshopResolver.LacksTool (workshopWith .missingInterpreter) ∧
      (workshopWatcher.poll (workshopWorld .missingInterpreter) 0).event =
        .addressMissing "Environment error: '/opt/ifconfig' not found in PATH" true) ∧
    let denied : Machine.Content := .refused .permissionDenied
    ((workshopWorld denied).look 0).1 = workshopResolver.current (workshopWith denied) ∧
      workshopResolver.ToolFails (workshopWith denied) ∧
      (workshopWatcher.poll (workshopWorld denied) 0).event = .addressMissing
        "Command `/opt/ifconfig eth0` failed: Permission denied (os error 13)" false ∧
      (workshopWatcher.finish (workshopWatcher.poll (workshopWorld denied) 0)).lastAccepted =
        "192.0.2.1" := by
  have asks (content : Machine.Content) : ((workshopWorld content).look 0).1 =
      workshopResolver.current (workshopWith content) := rfl
  have lacking := errors_tell_what_went_wrong workshopResolver (workshopWith .missingInterpreter)
    workshopWatcher (asks .missingInterpreter)
  have absent : (workshopResolver.current (workshopWith .missingInterpreter)).result =
      .error (.environment "'/opt/ifconfig' not found in PATH") := by
    decide +kernel
  have failing := errors_tell_what_went_wrong workshopResolver
    (workshopWith (.refused .permissionDenied)) workshopWatcher (asks _)
  have failed : (workshopResolver.current (workshopWith (.refused .permissionDenied))).result =
      .error (.commandFailed "/opt/ifconfig eth0" "Permission denied (os error 13)") := by
    decide +kernel
  obtain ⟨missing, _, remembers⟩ := failing.reported _ failed
  exact ⟨⟨asks _, absent, lacking.environment_iff.mp ⟨_, absent⟩, (lacking.reported _ absent).1⟩,
    asks _, failing.commandFailed_iff.mp ⟨_, _, failed⟩, missing, remembers⟩

end Resolver

end AddressWatch
