import AddressWatch.Watcher.Schedule

/-!
The channel of a watcher only takes messages.  With another channel a watcher makes the same polls at
the same times, and its messages go to that channel.
-/

namespace AddressWatch.Watcher

variable {σ : Type}

namespace Session

/-- The session with another channel. -/
def withChannel (session : Session σ) (channel : Channel Event) : Session σ :=
  { session with watcher := session.watcher.withChannel channel }

variable (world : World σ) (session : Session σ) (channel : Channel Event)

@[simp]
theorem nextPoll_withChannel :
    (session.withChannel channel).nextPoll world = session.nextPoll world := rfl

theorem afterPoll_withChannel :
    (session.withChannel channel).afterPoll world =
      (session.afterPoll world).withChannel (channel.send (session.nextPoll world).event) := rfl

/-- After some polls, their messages have been sent to the channel and nothing else is different. -/
theorem afterPolls_withChannel (count : Nat) :
    (session.withChannel channel).afterPolls world count =
      (session.afterPolls world count).withChannel
        (((session.polls world count).map Poll.event).foldl Channel.send channel) := by
  induction count generalizing session channel with
  | zero => rfl
  | succ count inductionHypothesis =>
      rw [afterPolls_succ, afterPoll_withChannel, inductionHypothesis, polls_succ, List.map_cons,
        List.foldl_cons]
      rfl

@[simp]
theorem pollAt_withChannel (index : Nat) :
    (session.withChannel channel).pollAt world index = session.pollAt world index := by
  rw [pollAt, afterPolls_withChannel, nextPoll_withChannel, pollAt]

@[simp]
theorem polls_withChannel (count : Nat) :
    (session.withChannel channel).polls world count = session.polls world count :=
  List.map_congr_left fun index _ => session.pollAt_withChannel world channel index

@[simp]
theorem begins_withChannel (now index : Nat) :
    (session.withChannel channel).begins world now index = session.begins world now index := by
  induction index with
  | zero => rfl
  | succ index inductionHypothesis =>
      rw [begins, inductionHypothesis, pollAt_withChannel]
      rfl

@[simp]
theorem ends_withChannel (now index : Nat) :
    (session.withChannel channel).ends world now index = session.ends world now index := by
  rw [ends, pollAt_withChannel, begins_withChannel, ends]

end Session

end AddressWatch.Watcher
