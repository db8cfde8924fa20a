import AddressWatch.Proofs.Watcher.Polls
import AddressWatch.Watcher.Course

/-!
The polls of a session take the course that the world gives them: they ask and send what is due in it,
take the time that it takes, and remember what the API has taken.
-/

namespace AddressWatch.Watcher

variable {σ : Type}

namespace Session

variable (world : World σ) (session : Session σ)

def situation (session : Session σ) : Situation σ := ⟨session.state, session.watcher.lastAccepted⟩

/-- A poll sends the record that is due. -/
theorem record?_nextPoll :
    (session.nextPoll world).record? = session.situation.due? session.watcher.config world := by
  ext record
  exact (record?_poll_eq_some_iff session.watcher world session.state record).trans
    (session.situation.due?_eq_some_iff session.watcher.config world record).symm

theorem elapsed_look_nextPoll :
    (session.nextPoll world).look.elapsed = session.situation.lookTime world := by
  rw [nextPoll, look_poll]
  rfl

/-- A poll sends what is due, and the API answers as the world says. -/
theorem push_nextPoll :
    (session.nextPoll world).push =
      (session.situation.due? session.watcher.config world).map fun record =>
        (record, (world.push (world.look session.state).2 record).1) := by
  rw [← record?_nextPoll]
  rcases session.watcher.poll_cases world session.state with idle | ⟨address, sends⟩
  · rw [Poll.record?, nextPoll, idle.push_eq]
    rfl
  · rw [Poll.record?, nextPoll, sends.push_eq]
    rfl

theorem pushElapsed_nextPoll :
    (session.nextPoll world).pushElapsed =
      session.situation.pushTime session.watcher.config world := by
  rw [Poll.pushElapsed, push_nextPoll, Situation.pushTime, Situation.push?, Option.map_map,
    Option.map_map]
  rfl

/-- A poll leaves things as the world and its answers say. -/
theorem situation_afterPoll :
    (session.afterPoll world).situation =
      session.situation.next session.watcher.config world := by
  have poll_eq : (session.afterPoll world).situation =
      ⟨(session.nextPoll world).afterPush, (session.nextPoll world).lastAccepted⟩ := rfl
  have pushed := session.push_nextPoll world
  have due := session.record?_nextPoll world
  rw [nextPoll, record?_poll] at due
  rw [poll_eq, nextPoll, afterPush_poll, lastAccepted_poll, ← nextPoll, Poll.applied?, Poll.update?,
    pushed, due]
  unfold Situation.next
  cases session.situation.due? session.watcher.config world with
  | none => rfl
  | some record =>
      have taken : (Update.applied? ⟨record, some (world.push (world.look session.state).2 record).1.result⟩).getD
          session.watcher.lastAccepted =
            if (world.push (world.look session.state).2 record).1.result.isApplied = true then
              record.value
            else session.watcher.lastAccepted := by
        simp only [Update.applied?, Option.any_some]
        split <;> rfl
      exact congrArg (Situation.mk _) taken

theorem situation_afterPolls (count : Nat) :
    (session.afterPolls world count).situation =
      session.situation.after session.watcher.config world count := by
  induction count generalizing session with
  | zero => rfl
  | succ count inductionHypothesis =>
      rw [afterPolls_succ, inductionHypothesis, situation_afterPoll, Situation.after]
      rfl

theorem elapsed_look_pollAt (index : Nat) :
    (session.pollAt world index).look.elapsed =
      (session.situation.after session.watcher.config world index).lookTime world := by
  rw [pollAt, elapsed_look_nextPoll, situation_afterPolls]

theorem pushElapsed_pollAt (index : Nat) :
    (session.pollAt world index).pushElapsed =
      (session.situation.after session.watcher.config world index).pushTime session.watcher.config
        world := by
  rw [pollAt, pushElapsed_nextPoll, situation_afterPolls, config_afterPolls]

theorem record?_pollAt (index : Nat) :
    (session.pollAt world index).record? =
      (session.situation.after session.watcher.config world index).due? session.watcher.config
        world := by
  rw [pollAt, record?_nextPoll, situation_afterPolls, config_afterPolls]

end Session

end AddressWatch.Watcher
