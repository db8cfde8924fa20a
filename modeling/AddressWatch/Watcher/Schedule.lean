import AddressWatch.Watcher.Session

/-!
Polls made one after the other, without a loop around them, and the times at which a loop with pauses
would make them.
-/

namespace AddressWatch.Watcher.Session

variable {σ : Type}

def afterPolls (world : World σ) (session : Session σ) : Nat → Session σ
  | 0 => session
  | count + 1 => (session.afterPoll world).afterPolls world count

/-- The poll that is made after `index` others. -/
def pollAt (world : World σ) (session : Session σ) (index : Nat) : Poll σ :=
  (session.afterPolls world index).nextPoll world

def polls (world : World σ) (session : Session σ) (count : Nat) : List (Poll σ) :=
  (List.range count).map (session.pollAt world)

/-- What comes of that poll as an operation. -/
def reportAt (world : World σ) (session : Session σ) (index : Nat) : Report σ :=
  .polled (session.pollAt world index)
    ((session.afterPolls world index).watcher.pollLog (session.pollAt world index))

/-- When the poll after `index` others begins if the first one begins at `now` and there is a pause
after each. -/
def begins (world : World σ) (session : Session σ) (now : Nat) : Nat → Nat
  | 0 => now
  | index + 1 =>
      (session.pollAt world index).settled (session.begins world now index) + session.watcher.pause

def ends (world : World σ) (session : Session σ) (now index : Nat) : Nat :=
  (session.pollAt world index).settled (session.begins world now index)

/-- What that poll comes to before the deadline. -/
def turnAt (world : World σ) (session : Session σ) (deadline now index : Nat) : Turn :=
  (session.afterPolls world index).watcher.turn deadline (session.begins world now index)
    (session.pollAt world index)

@[simp]
theorem pause_afterPoll (world : World σ) (session : Session σ) :
    (session.afterPoll world).watcher.pause = session.watcher.pause := rfl

@[simp]
theorem afterPolls_zero (world : World σ) (session : Session σ) :
    session.afterPolls world 0 = session := rfl

@[simp]
theorem afterPolls_succ (world : World σ) (session : Session σ) (count : Nat) :
    session.afterPolls world (count + 1) = (session.afterPoll world).afterPolls world count := rfl

@[simp]
theorem pollAt_zero (world : World σ) (session : Session σ) :
    session.pollAt world 0 = session.nextPoll world := rfl

@[simp]
theorem pollAt_succ (world : World σ) (session : Session σ) (index : Nat) :
    session.pollAt world (index + 1) = (session.afterPoll world).pollAt world index := rfl

@[simp]
theorem polls_zero (world : World σ) (session : Session σ) : session.polls world 0 = [] := rfl

@[simp]
theorem polls_succ (world : World σ) (session : Session σ) (count : Nat) :
    session.polls world (count + 1) =
      session.nextPoll world :: (session.afterPoll world).polls world count := by
  simp only [polls, List.range_succ_eq_map, List.map_cons, List.map_map, pollAt_zero]
  rfl

/-- Single polls as operations are the polls made one after the other. -/
theorem performAll_replicate_poll (world : World σ) (session : Session σ) (count : Nat) :
    session.performAll world (List.replicate count .poll) =
      ((List.range count).map (session.reportAt world), session.afterPolls world count) := by
  induction count generalizing session with
  | zero => rfl
  | succ count inductionHypothesis =>
      rw [List.replicate_succ, performAll]
      simp only [perform, inductionHypothesis, List.range_succ_eq_map, List.map_cons, List.map_map]
      rfl

@[simp]
theorem begins_zero (world : World σ) (session : Session σ) (now : Nat) :
    session.begins world now 0 = now := rfl

/-- The first poll can be split off the schedule. -/
@[simp]
theorem begins_succ (world : World σ) (session : Session σ) (now index : Nat) :
    session.begins world now (index + 1) =
      (session.afterPoll world).begins world
        ((session.nextPoll world).settled now + session.watcher.pause) index := by
  induction index with
  | zero => rfl
  | succ index inductionHypothesis =>
      rw [begins, inductionHypothesis]
      rfl

@[simp]
theorem ends_zero (world : World σ) (session : Session σ) (now : Nat) :
    session.ends world now 0 = (session.nextPoll world).settled now := rfl

@[simp]
theorem ends_succ (world : World σ) (session : Session σ) (now index : Nat) :
    session.ends world now (index + 1) =
      (session.afterPoll world).ends world
        ((session.nextPoll world).settled now + session.watcher.pause) index := by
  simp only [ends, begins_succ, pollAt_succ]

theorem turnAt_zero (world : World σ) (session : Session σ) (deadline now : Nat) :
    session.turnAt world deadline now 0 =
      session.watcher.turn deadline now (session.nextPoll world) := rfl

theorem turnAt_succ (world : World σ) (session : Session σ) (deadline now index : Nat) :
    session.turnAt world deadline now (index + 1) =
      (session.afterPoll world).turnAt world deadline
        ((session.nextPoll world).settled now + session.watcher.pause) index := by
  simp only [turnAt, begins_succ, pollAt_succ, afterPolls_succ]

end AddressWatch.Watcher.Session
