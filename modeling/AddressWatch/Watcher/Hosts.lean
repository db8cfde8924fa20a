import AddressWatch.Resolver
import AddressWatch.Watcher.Session

/-!
A watcher over a resolver that finds another host at each poll: other tools may be installed, and they
may print other things.
-/

namespace AddressWatch.Watcher

/-- The world of a resolver and a host for each poll.  Its state is the number of polls that were
begun. -/
def World.ofHosts (resolver : Resolver) (clientName : String) (hosts : Nat → Machine)
    (answers : Nat → Record → Act Outcome) : World Nat where
  describe begun := resolver.describe (hosts begun)
  clientName := clientName
  look begun := (resolver.current (hosts begun), begun + 1)
  push begun record := (answers (begun - 1) record, begun)

theorem World.countsPolls_ofHosts (resolver : Resolver) (clientName : String)
    (hosts : Nat → Machine) (answers : Nat → Record → Act Outcome) :
    (World.ofHosts resolver clientName hosts answers).CountsPolls where
  look_eq _ := rfl
  push_eq _ _ := rfl

variable {σ : Type}

/-- What each poll that was begun has sent, if anything. -/
def Report.attempts : Report σ → List (Option Update)
  | polled poll _ => [poll.update?]
  | ran run => run.turns.map Turn.update?
  | received _ _ | left => []

theorem Report.filterMap_attempts (report : Report σ) :
    report.attempts.filterMap id = report.updates := by
  cases report with
  | polled poll log =>
      rw [attempts, updates]
      cases poll.update? <;> rfl
  | ran run => rw [attempts, updates, List.filterMap_map, Function.id_comp]
  | received | left => rfl

theorem Report.filterMap_flatMap_attempts (reports : List (Report σ)) :
    (reports.flatMap attempts).filterMap id = reports.flatMap updates := by
  rw [List.filterMap_flatMap]
  exact congrArg (reports.flatMap ·) (funext filterMap_attempts)

end AddressWatch.Watcher
