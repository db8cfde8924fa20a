import AddressWatch.Proofs.Resolver.Report
import AddressWatch.Resolver

/-!
# What an answer is read from

A resolver has an address exactly when the tool that it runs exits with code zero before the limit
passes and has printed a report in which an address is read.  However else the tool ends, and whatever
it writes to its error stream, there is no address.
-/

namespace AddressWatch

/-- The program exits with code zero before the limit passes. -/
structure Machine.Behaviour.Succeeds (behaviour : Machine.Behaviour) (limit : Duration) : Prop where
  ending_eq : behaviour.ending = .exited 0
  duration_lt : behaviour.duration.nanoseconds < limit.nanoseconds

theorem bind_eq_ok_iff {ε α β : Type} (first : Except ε α) (next : α → Except ε β) (result : β) :
    first.bind next = .ok result ↔ ∃ value, first = .ok value ∧ next value = .ok result := by
  cases first <;> simp [Except.bind]

namespace Resolver

namespace Command

variable (machine : Machine) (limit : Duration) (command : Command)

theorem result_run_eq_ok_iff (completion : Completion) :
    (command.run machine limit).result = .ok completion ↔
      ∃ behaviour, machine.spawn command.program command.arguments = .ok behaviour ∧
        behaviour.duration.nanoseconds < limit.nanoseconds ∧
        Completion.ofBehaviour behaviour = completion := by
  rw [run]
  cases machine.spawn command.program command.arguments with
  | error fault => cases fault <;> simp
  | ok behaviour =>
      by_cases late : overruns behaviour.duration limit = true
      · have overrun : ¬ behaviour.duration.nanoseconds < limit.nanoseconds := by
          simpa [overruns] using late
        simp [late, overrun]
      · have inTime : behaviour.duration.nanoseconds < limit.nanoseconds := by
          simpa [overruns] using late
        simp [late, inTime]

theorem outputOf_eq_ok_iff (completion : Completion) (output : String) :
    command.outputOf completion = .ok output ↔
      completion.isSuccess = true ∧ completion.output = output := by
  unfold outputOf
  split <;> simp_all

theorem isSuccess_ofBehaviour (behaviour : Machine.Behaviour) :
    (Completion.ofBehaviour behaviour).isSuccess = true ↔ behaviour.ending = .exited 0 := by
  unfold Completion.isSuccess Completion.ofBehaviour
  cases behaviour.ending with
  | exited code => simp [← UInt8.toNat_inj]
  | killed => simp

theorem result_runForOutput_eq_ok_iff (output : String) :
    (command.runForOutput machine limit).result = .ok output ↔
      ∃ behaviour, machine.spawn command.program command.arguments = .ok behaviour ∧
        behaviour.Succeeds limit ∧ Completion.decode behaviour.output = output := by
  rw [runForOutput, Act.result_map, bind_eq_ok_iff]
  simp only [result_run_eq_ok_iff, outputOf_eq_ok_iff]
  constructor
  · rintro ⟨_, ⟨behaviour, started, inTime, rfl⟩, success, printed⟩
    exact ⟨behaviour, started, ⟨(isSuccess_ofBehaviour behaviour).mp success, inTime⟩, printed⟩
  · rintro ⟨behaviour, started, succeeds, printed⟩
    have success := (isSuccess_ofBehaviour behaviour).mpr succeeds.ending_eq
    exact ⟨_, ⟨behaviour, started, succeeds.duration_lt, rfl⟩, success, printed⟩

end Command

variable (resolver : Resolver) (machine : Machine)

/-- The tool that the resolver runs on a host, and what it does there. -/
def ran? : Option (Strategy × Machine.Behaviour) :=
  match resolver.query machine with
  | .error _ => none
  | .ok (strategy, command) =>
      match machine.spawn command.program command.arguments with
      | .error _ => none
      | .ok behaviour => some (strategy, behaviour)

theorem ran?_eq_some_iff (strategy : Strategy) (behaviour : Machine.Behaviour) :
    resolver.ran? machine = some (strategy, behaviour) ↔
      ∃ command, resolver.query machine = .ok (strategy, command) ∧
        machine.spawn command.program command.arguments = .ok behaviour := by
  rw [ran?]
  cases resolver.query machine with
  | error error => simp
  | ok query =>
      obtain ⟨chosen, command⟩ := query
      cases started : machine.spawn command.program command.arguments <;> grind

theorem addressOf_eq_ok_iff (strategy : Strategy) (output address : String) :
    resolver.addressOf strategy output = .ok address ↔
      strategy.parse? resolver.family output = some address := by
  unfold addressOf
  cases strategy.parse? resolver.family output <;> simp

theorem result_current_eq_ok_iff (address : String) :
    (resolver.current machine).result = .ok address ↔
      ∃ strategy behaviour, resolver.ran? machine = some (strategy, behaviour) ∧
        behaviour.Succeeds resolver.limit ∧
        strategy.parse? resolver.family (Completion.decode behaviour.output) = some address := by
  simp only [ran?_eq_some_iff]
  rw [current]
  cases resolver.query machine with
  | error error => simp
  | ok query =>
      obtain ⟨strategy, command⟩ := query
      simp only [Act.result_after, Act.result_map, bind_eq_ok_iff, addressOf_eq_ok_iff,
        Command.result_runForOutput_eq_ok_iff]
      constructor
      · rintro ⟨_, ⟨behaviour, started, succeeds, rfl⟩, parsed⟩
        exact ⟨strategy, behaviour, ⟨command, rfl, started⟩, succeeds, parsed⟩
      · rintro ⟨_, behaviour, ⟨_, chosen, started⟩, succeeds, parsed⟩
        cases chosen
        exact ⟨_, ⟨behaviour, started, succeeds, rfl⟩, parsed⟩

/-- An address is a contiguous piece of what the tool has printed. -/
theorem isInfix_of_parse?_decode {strategy : Strategy} {family : Family} {output : List UInt8}
    {address : String}
    (parsed : strategy.parse? family (Completion.decode output) = some address) :
    address.toList <:+: Text.Utf8.decode output := by
  have inTrimmed := Strategy.isInfix_of_parse? parsed
  rw [Completion.decode, String.toList_ofList] at inTrimmed
  exact inTrimmed.trans (Text.trim_isInfix _)

end Resolver

end AddressWatch
