import AddressWatch.Proofs.Watcher.Poll
import AddressWatch.Watcher.Schedule
import Mathlib.Data.List.Basic

/-!
What polls made one after the other add up to: the memory of the watcher is the last address that the
API has taken, and the changes that the messages report form one chain.
-/

namespace AddressWatch.Watcher

variable {σ : Type}

theorem getLastD_filterMap_cons {α β : Type} (read : α → Option β) (head : α) (rest : List α)
    (default : β) :
    ((head :: rest).filterMap read).getLastD default =
      (rest.filterMap read).getLastD ((read head).getD default) := by
  cases found : read head with
  | none => rw [List.filterMap_cons_none found, Option.getD_none]
  | some value => rw [List.filterMap_cons_some found, Option.getD_some, List.getLastD_cons]

namespace Session

theorem lastAccepted_afterPoll (world : World σ) (session : Session σ) :
    (session.afterPoll world).watcher.lastAccepted =
      (session.nextPoll world).applied?.getD session.watcher.lastAccepted :=
  session.watcher.lastAccepted_poll world session.state

@[simp]
theorem config_afterPolls (world : World σ) (session : Session σ) (count : Nat) :
    (session.afterPolls world count).watcher.config = session.watcher.config := by
  induction count generalizing session with
  | zero => rfl
  | succ count inductionHypothesis => exact inductionHypothesis (session.afterPoll world)

theorem recordFor_afterPolls (world : World σ) (session : Session σ) (count : Nat)
    (address : String) :
    (session.afterPolls world count).watcher.recordFor address =
      session.watcher.recordFor address := by
  simp only [recordFor, config_afterPolls]

theorem lastAccepted_afterPolls (world : World σ) (session : Session σ) (count : Nat) :
    (session.afterPolls world count).watcher.lastAccepted =
      ((session.polls world count).filterMap Poll.applied?).getLastD
        session.watcher.lastAccepted := by
  induction count generalizing session with
  | zero => rfl
  | succ count inductionHypothesis =>
      rw [afterPolls_succ, inductionHypothesis, lastAccepted_afterPoll, polls_succ,
        getLastD_filterMap_cons]

/-- Each change begins where the one before it ended. -/
theorem transitions_polls (world : World σ) (session : Session σ) (count : Nat) :
    (session.polls world count).filterMap Poll.transition? =
      (session.watcher.lastAccepted :: (session.polls world count).filterMap Poll.applied?).zip
        ((session.polls world count).filterMap Poll.applied?) := by
  induction count generalizing session with
  | zero => rfl
  | succ count inductionHypothesis =>
      have reported : (session.nextPoll world).transition? =
          (session.nextPoll world).applied?.map (session.watcher.lastAccepted, ·) :=
        session.watcher.transition?_poll world session.state
      have rest := inductionHypothesis (session.afterPoll world)
      rw [lastAccepted_afterPoll] at rest
      rw [polls_succ]
      cases applied : (session.nextPoll world).applied? with
      | none =>
          rw [applied] at reported rest
          rw [List.filterMap_cons_none reported, List.filterMap_cons_none applied, rest,
            Option.getD_none]
      | some address =>
          rw [applied] at reported rest
          rw [List.filterMap_cons_some reported, List.filterMap_cons_some applied, rest,
            Option.getD_some, List.zip_cons_cons]

theorem updates_map_reportAt (world : World σ) (session : Session σ) (count : Nat) :
    ((List.range count).map (session.reportAt world)).flatMap Report.updates =
      (session.polls world count).filterMap Poll.update? := by
  rw [List.filterMap_eq_flatMap_toList, polls, List.flatMap_map, List.flatMap_map]
  rfl

theorem applied_map_reportAt (world : World σ) (session : Session σ) (count : Nat) :
    Report.applied ((List.range count).map (session.reportAt world)) =
      (session.polls world count).filterMap Poll.applied? := by
  rw [Report.applied, updates_map_reportAt, List.filterMap_filterMap]
  rfl

theorem emitted_map_reportAt (world : World σ) (session : Session σ) (watcher : Watcher)
    (count : Nat) :
    ((List.range count).map (session.reportAt world)).flatMap (Report.emitted watcher) =
      (session.polls world count).map Poll.event := by
  rw [List.flatMap_map, polls, List.map_map]
  exact List.map_eq_flatMap.symm

end Session

namespace World.CountsPolls

variable {world : World Nat} (counts : world.CountsPolls)

include counts

theorem afterLook_poll (watcher : Watcher) (begun : Nat) :
    (watcher.poll world begun).afterLook = begun + 1 := by
  rw [Watcher.afterLook_poll, counts.look_eq]

theorem afterPush_poll (watcher : Watcher) (begun : Nat) :
    (watcher.poll world begun).afterPush = begun + 1 := by
  rw [Watcher.afterPush_poll]
  split
  · rw [counts.push_eq, counts.look_eq]
  · rw [counts.look_eq]

theorem state_afterPoll (session : Session Nat) :
    (session.afterPoll world).state = session.state + 1 :=
  counts.afterPush_poll session.watcher session.state

theorem state_afterPolls (session : Session Nat) (count : Nat) :
    (session.afterPolls world count).state = session.state + count := by
  induction count generalizing session with
  | zero => rfl
  | succ count inductionHypothesis =>
      rw [Session.afterPolls_succ, inductionHypothesis, counts.state_afterPoll]
      omega

end World.CountsPolls

end AddressWatch.Watcher
