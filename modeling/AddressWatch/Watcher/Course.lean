import AddressWatch.Config
import AddressWatch.Watcher.World

/-!
The course that the world gives to a watcher with some settings: which question follows which, what is
sent in between, and how long each of them takes.
-/

namespace AddressWatch.Watcher

variable {σ : Type}

/-- How things stand before the host is asked. -/
structure Situation (σ : Type) where
  state : σ
  /-- The last address that the API has taken; empty if there is none. -/
  lastAccepted : String

namespace Situation

variable (config : Config) (world : World σ) (situation : Situation σ)

def lookTime : Nat := (world.look situation.state).1.elapsed

/-- The record to send, if the host answers with a valid address that is not the last one taken. -/
def due? : Option Record :=
  match (world.look situation.state).1.result with
  | .error _ => none
  | .ok address =>
      if Address.isValid address config.family = true ∧ address ≠ situation.lastAccepted then
        some ⟨config.recordName, config.recordType, config.ttl, address⟩
      else none

theorem due?_eq_some_iff (record : Record) :
    situation.due? config world = some record ↔
      ∃ address, (world.look situation.state).1.result = .ok address ∧
        Address.isValid address config.family = true ∧ address ≠ situation.lastAccepted ∧
        record = ⟨config.recordName, config.recordType, config.ttl, address⟩ := by
  unfold due?
  cases (world.look situation.state).1.result with
  | error error => simp
  | ok answer =>
      simp only [Option.ite_none_right_eq_some, Option.some.injEq, Except.ok.injEq]
      constructor
      · rintro ⟨⟨valid, fresh⟩, rfl⟩
        exact ⟨answer, rfl, valid, fresh, rfl⟩
      · rintro ⟨_, rfl, valid, fresh, rfl⟩
        exact ⟨⟨valid, fresh⟩, rfl⟩

/-- The answer of the API to the record that is due, and the state it leaves. -/
def push? : Option (Act Outcome × σ) :=
  (situation.due? config world).map (world.push (world.look situation.state).2)

/-- Without an update no time is spent on one. -/
def pushTime : Nat := ((situation.push? config world).map (·.1.elapsed)).getD 0

/-- How things stand when the host has answered and the update, if one is due, is over. -/
def next : Situation σ :=
  match situation.due? config world with
  | none => ⟨(world.look situation.state).2, situation.lastAccepted⟩
  | some record =>
      let (answer, state) := world.push (world.look situation.state).2 record
      ⟨state, if answer.result.isApplied then record.value else situation.lastAccepted⟩

/-- How things stand after so many questions. -/
def after (situation : Situation σ) : Nat → Situation σ
  | 0 => situation
  | count + 1 => (situation.next config world).after count

end Situation

end AddressWatch.Watcher
