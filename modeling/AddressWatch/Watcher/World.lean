import AddressWatch.Act
import AddressWatch.Address
import AddressWatch.Record

/-!
What a watcher deals with: a host that it asks for an address and an API that it sends records to.
Their answers may depend on all that has happened before, which is the state `σ`.  A world can also be
laid down beforehand, poll by poll.
-/

namespace AddressWatch.Watcher

structure World (σ : Type) where
  /-- How the host would be asked. -/
  describe : σ → String
  /-- What the API's client is called in messages. -/
  clientName : String
  look : σ → Act (Except Error String) × σ
  push : σ → Record → Act Outcome × σ

/-- What is laid down for one poll: how the host answers, and how the API answers if it is sent
an update. -/
structure Round where
  look : Act (Except Error String)
  push : Act Outcome

/-- The address that the API takes in the round if it is sent: the host gives it, it is valid, and it
would not be refused. -/
def Round.confirmed? (family : Family) (round : Round) : Option String :=
  match round.look.result with
  | .ok address =>
      if Address.isValid address family && round.push.result.isApplied then some address else none
  | .error _ => none

theorem Round.confirmed?_eq_some_iff (family : Family) (round : Round) (address : String) :
    round.confirmed? family = some address ↔
      round.look.result = .ok address ∧ Address.isValid address family = true ∧
        round.push.result.isApplied = true := by
  unfold confirmed?
  cases answer : round.look.result with
  | error error => simp
  | ok candidate =>
      simp only [Option.ite_none_right_eq_some, Bool.and_eq_true, Option.some.injEq,
        Except.ok.injEq]
      constructor
      · rintro ⟨⟨valid, applied⟩, rfl⟩
        exact ⟨rfl, valid, applied⟩
      · rintro ⟨rfl, valid, applied⟩
        exact ⟨⟨valid, applied⟩, rfl⟩

/-- The world that is laid down by rounds.  Its state is the number of polls that were begun. -/
def World.ofRounds (source clientName : String) (rounds : Nat → Round) : World Nat where
  describe _ := source
  clientName := clientName
  look begun := ((rounds begun).look, begun + 1)
  push begun _ := ((rounds (begun - 1)).push, begun)

/-- The state of the world is the number of polls that were begun. -/
structure World.CountsPolls (world : World Nat) : Prop where
  look_eq : ∀ begun, (world.look begun).2 = begun + 1
  push_eq : ∀ begun record, (world.push begun record).2 = begun

theorem World.countsPolls_ofRounds (source clientName : String) (rounds : Nat → Round) :
    (World.ofRounds source clientName rounds).CountsPolls where
  look_eq _ := rfl
  push_eq _ _ := rfl

end AddressWatch.Watcher
