import AddressWatch.Proofs.Watcher.Publishing
import AddressWatch.Watcher.Hosts

/-!
# Which poll an update belongs to

In a world that counts the polls, each update carries the answer of the poll that sent it, whatever is
done with the watcher and however its runs are cut short.
-/

namespace AddressWatch.Watcher

namespace World.CountsPolls

variable {world : World Nat} (counts : world.CountsPolls)

include counts

/-- A loop counts the polls that it begins, also the one that is cut short. -/
theorem state_turnsFrom (deadline now : Nat) (watcher : Watcher) (state : Nat) :
    (turnsFrom world deadline now watcher state).state =
      state + (turnsFrom world deadline now watcher state).turns.length := by
  fun_induction turnsFrom world deadline now watcher state with
  | case1 => rfl
  | case2 now watcher state early poll turn unanswered => exact counts.afterLook_poll watcher state
  | case3 now watcher state early poll turn answered unsettled =>
      exact counts.afterPush_poll watcher state
  | case4 now watcher state early poll turn next answered settled late =>
      exact counts.afterPush_poll watcher state
  | case5 now watcher state early poll turn next answered settled paused inductionHypothesis =>
      have once : poll.afterPush = state + 1 := counts.afterPush_poll watcher state
      rw [once] at inductionHypothesis ⊢
      rw [Loop.after, List.length_cons, inductionHypothesis]
      omega

theorem state_perform (session : Session Nat) (operation : Operation) :
    (session.perform world operation).2.state =
      session.state + (session.perform world operation).1.attempts.length := by
  cases operation with
  | poll => exact counts.afterPush_poll session.watcher session.state
  | run deadline =>
      rw [Session.perform, Report.attempts, List.length_map]
      exact counts.state_turnsFrom deadline 0 _ session.state
  | receive | leave => rfl

theorem answered_of_attempts_perform {session : Session Nat} {operation : Operation} {index : Nat}
    {update : Update}
    (sent : (session.perform world operation).1.attempts[index]? = some (some update)) :
    (world.look (session.state + index)).1.result = .ok update.record.value ∧
      Address.isValid update.record.value session.watcher.config.family = true := by
  cases operation with
  | poll =>
      cases index with
      | zero =>
          obtain ⟨answer, valid, _⟩ := answered_of_update? (Option.some.inj sent)
          exact ⟨answer, valid⟩
      | succ index => contradiction
  | run deadline =>
      obtain ⟨begun, completed, follows⟩ :=
        session.watcher.run_follows world deadline session.state
      rw [Session.perform, Report.attempts, List.getElem?_map, Option.map_eq_some_iff] at sent
      obtain ⟨turn, reached, turnSent⟩ := sent
      rw [Watcher.run, follows.getElem?_turns, Option.ite_none_right_eq_some] at reached
      obtain ⟨_, turnEquality⟩ := reached
      rw [← Option.some.inj turnEquality, Session.update?_turnAt,
        Session.pollAt_withChannel] at turnSent
      have pollSent : ∃ known, (session.pollAt world index).update? = some known ∧
          known.record = update.record := by
        split at turnSent
        · exact ⟨update, turnSent, rfl⟩
        · split at turnSent
          · obtain ⟨known, found, rfl⟩ := Option.map_eq_some_iff.mp turnSent
            exact ⟨known, found, rfl⟩
          · contradiction
      obtain ⟨known, found, recordEquality⟩ := pollSent
      obtain ⟨answer, valid, _⟩ := answered_of_update? found
      rw [recordEquality] at answer valid
      rw [counts.state_afterPolls] at answer
      rw [Session.config_afterPolls] at valid
      exact ⟨answer, valid⟩
  | receive | leave => contradiction

/-- What a poll sends is what it was answered, whatever was done before. -/
theorem answered_of_attempts {session : Session Nat} {operations : List Operation} {index : Nat}
    {update : Update}
    (sent : ((session.performAll world operations).1.flatMap Report.attempts)[index]? =
      some (some update)) :
    (world.look (session.state + index)).1.result = .ok update.record.value ∧
      Address.isValid update.record.value session.watcher.config.family = true := by
  induction operations generalizing session index with
  | nil => contradiction
  | cons operation rest inductionHypothesis =>
      rw [Session.performAll, List.flatMap_cons, List.getElem?_append] at sent
      split at sent
      next here => exact counts.answered_of_attempts_perform sent
      next beyond =>
        have later := inductionHypothesis sent
        rw [counts.state_perform, Session.config_perform] at later
        have same : session.state + (session.perform world operation).1.attempts.length +
            (index - (session.perform world operation).1.attempts.length) =
              session.state + index := by
          omega
        rw [same] at later
        exact later

end World.CountsPolls

end AddressWatch.Watcher
