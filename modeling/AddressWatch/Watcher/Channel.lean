import AddressWatch.Log

/-!
A channel from a watcher to one listener.  It holds a bounded number of messages; a message for which
there is no room is dropped with a warning, and when the listener has gone messages are dropped
without one.
-/

namespace AddressWatch.Watcher

/-- The number of messages that a channel holds. -/
def capacity : Nat := 64

/-- The messages that were sent and not received, oldest first. -/
structure Channel (α : Type) where
  pending : List α
  isOpen : Bool
  bounded : pending.length ≤ capacity

namespace Channel

variable {α : Type}

/-- The warning about a message that was dropped. -/
def droppedEntry : Log.Entry := Log.warn "Event channel full, dropping event"

def empty : Channel α := ⟨[], true, Nat.zero_le _⟩

/-- Whether the channel has no room for another message. -/
def isFull (channel : Channel α) : Bool := channel.pending.length == capacity

/-- Send a message if there is a listener and room. -/
def send (channel : Channel α) (message : α) : Channel α :=
  if room : channel.isOpen = true ∧ channel.isFull = false then
    ⟨channel.pending ++ [message], true, by
      have := channel.bounded
      simp [isFull] at room
      simp only [List.length_append, List.length_singleton]
      omega⟩
  else channel

/-- What is logged when a message is sent. -/
def sendLog (channel : Channel α) : List Log.Entry :=
  if channel.isOpen && channel.isFull then [droppedEntry] else []

/-- The oldest messages, at most `most` of them. -/
def received (channel : Channel α) (most : Nat) : List α := channel.pending.take most

/-- The channel after the listener has received at most `most` messages. -/
def receive (channel : Channel α) (most : Nat) : Channel α :=
  ⟨channel.pending.drop most, channel.isOpen, by
    have := channel.bounded
    simp only [List.length_drop]
    omega⟩

/-- Whether the listener finds the channel empty when it takes at most `most` messages. -/
def runsDry (channel : Channel α) (most : Nat) : Bool :=
  channel.isOpen && channel.pending.length < most

def close (_ : Channel α) : Channel α := ⟨[], false, Nat.zero_le _⟩

@[simp]
theorem pending_empty : (empty : Channel α).pending = [] := rfl

theorem pending_send (channel : Channel α) (message : α) :
    (channel.send message).pending =
      if channel.isOpen && !channel.isFull then channel.pending ++ [message]
      else channel.pending := by
  unfold send
  split <;> simp_all

@[simp]
theorem isOpen_send (channel : Channel α) (message : α) :
    (channel.send message).isOpen = channel.isOpen := by
  unfold send
  split <;> simp_all

@[simp]
theorem received_append_pending_receive (channel : Channel α) (most : Nat) :
    channel.received most ++ (channel.receive most).pending = channel.pending :=
  List.take_append_drop most channel.pending

@[simp]
theorem isOpen_receive (channel : Channel α) (most : Nat) :
    (channel.receive most).isOpen = channel.isOpen := rfl

end Channel

end AddressWatch.Watcher
