import AddressWatch.Watcher.Channel

/-!
The history of a channel: what is done at its two ends, in order.  As long as it is open, what has been
received and what is pending make up what was sent and not dropped, and each message that was dropped
has its warning.
-/

namespace AddressWatch.Watcher.Channel

variable {α β : Type}

inductive Use (α : Type) where
  | send (message : α)
  /-- Receive at most `most` messages. -/
  | receive (most : Nat)
  | close

def Use.message? : Use α → Option α
  | send message => some message
  | receive _ | close => none

def use (channel : Channel α) : Use α → Channel α
  | .send message => channel.send message
  | .receive most => channel.receive most
  | .close => channel.close

def after (channel : Channel α) (history : List (Use α)) : Channel α := history.foldl use channel

/-- What is read off each use and the channel it finds. -/
def trace (read : Channel α → Use α → List β) (channel : Channel α) : List (Use α) → List β
  | [] => []
  | use :: rest => read channel use ++ trace read (channel.use use) rest

/-- Whether a message that is sent now is dropped for lack of room. -/
def isCrowded (channel : Channel α) : Bool := channel.isOpen && channel.isFull

/-- The message of a use, with whether it is dropped for lack of room. -/
def sending (channel : Channel α) (use : Use α) : List (α × Bool) :=
  (use.message?.map (·, channel.isCrowded)).toList

def taking (channel : Channel α) : Use α → List α
  | .receive most => channel.received most
  | .send _ | .close => []

def useLog (channel : Channel α) : Use α → List Log.Entry
  | .send _ => channel.sendLog
  | .receive _ | .close => []

/-- The messages that were not dropped. -/
def kept (sendings : List (α × Bool)) : List α := (sendings.filter fun sent => !sent.2).map Prod.fst

/-- The messages that were dropped. -/
def dropped (sendings : List (α × Bool)) : List α := (sendings.filter Prod.snd).map Prod.fst

theorem length_eq_kept_add_dropped (sendings : List (α × Bool)) :
    sendings.length = (kept sendings).length + (dropped sendings).length := by
  have counted := sendings.length_eq_countP_add_countP Prod.snd
  simp only [List.countP_eq_length_filter, Bool.not_eq_true, Bool.decide_eq_false] at counted
  simp only [kept, dropped, List.length_map]
  omega

theorem kept_append (sendings more : List (α × Bool)) :
    kept (sendings ++ more) = kept sendings ++ kept more := by
  simp [kept]

theorem dropped_append (sendings more : List (α × Bool)) :
    dropped (sendings ++ more) = dropped sendings ++ dropped more := by
  simp [dropped]

@[simp]
theorem after_nil (channel : Channel α) : channel.after [] = channel := rfl

@[simp]
theorem after_cons (channel : Channel α) (use : Use α) (rest : List (Use α)) :
    channel.after (use :: rest) = (channel.use use).after rest := rfl

@[simp]
theorem after_append (channel : Channel α) (past future : List (Use α)) :
    channel.after (past ++ future) = (channel.after past).after future :=
  List.foldl_append

theorem after_map_send (channel : Channel α) (messages : List α) :
    channel.after (messages.map .send) = messages.foldl send channel :=
  List.foldl_map

theorem trace_append (read : Channel α → Use α → List β) (channel : Channel α)
    (past future : List (Use α)) :
    trace read channel (past ++ future) =
      trace read channel past ++ trace read (channel.after past) future := by
  induction past generalizing channel with
  | nil => rfl
  | cons use past inductionHypothesis =>
      rw [List.cons_append, trace, trace, inductionHypothesis, List.append_assoc]
      rfl

/-- Nothing that is done with a closed channel opens it. -/
theorem isOpen_of_isOpen_after {channel : Channel α} {history : List (Use α)}
    (isOpen : (channel.after history).isOpen = true) : channel.isOpen = true := by
  induction history generalizing channel with
  | nil => exact isOpen
  | cons use rest inductionHypothesis =>
      have next := inductionHypothesis isOpen
      cases use with
      | send message => rwa [Channel.use, isOpen_send] at next
      | receive most => exact next
      | close => contradiction

theorem sendLog_after_of_closed {channel : Channel α} (closed : channel.isOpen = false)
    (history : List (Use α)) : (channel.after history).sendLog = [] := by
  have stillClosed : (channel.after history).isOpen = false := by
    rw [Bool.eq_false_iff]
    intro isOpen
    rw [isOpen_of_isOpen_after isOpen] at closed
    contradiction
  rw [sendLog, stillClosed, Bool.false_and]
  rfl

theorem trace_taking_map_send (channel : Channel α) (messages : List α) :
    trace taking channel (messages.map .send) = [] := by
  induction messages generalizing channel with
  | nil => rfl
  | cons message messages inductionHypothesis => exact inductionHypothesis (channel.send message)

/-- A listener who wants as many messages as there are receives the same. -/
theorem received_length_received (channel : Channel α) (most : Nat) :
    channel.received (channel.received most).length = channel.received most := by
  simp [received, List.take_eq_take_iff]

theorem receive_length_received (channel : Channel α) (most : Nat) :
    channel.receive (channel.received most).length = channel.receive most := by
  have pending : channel.pending.drop (channel.received most).length =
      channel.pending.drop most := by
    simp [received, List.drop_eq_drop_iff]
  simp only [receive, pending]

/-- One use of a channel that is open afterwards adds nothing to its messages and takes none away. -/
theorem taking_append_pending_use {channel : Channel α} {use : Use α}
    (isOpen : (channel.use use).isOpen = true) :
    channel.taking use ++ (channel.use use).pending =
      channel.pending ++ kept (channel.sending use) := by
  cases use with
  | send message =>
      rw [Channel.use, isOpen_send] at isOpen
      rw [taking, Channel.use, pending_send, sending, isCrowded]
      cases full : channel.isFull <;> simp [isOpen, kept, Use.message?]
  | receive most => simp [taking, Channel.use, sending, kept, Use.message?]
  | close => contradiction

/-- What has been received, and then what is pending, is what was pending, and then what has been sent
and not dropped. -/
theorem received_append_pending_after {channel : Channel α} {history : List (Use α)}
    (isOpen : (channel.after history).isOpen = true) :
    trace taking channel history ++ (channel.after history).pending =
      channel.pending ++ kept (trace sending channel history) := by
  induction history generalizing channel with
  | nil => simp [trace, kept]
  | cons use rest inductionHypothesis =>
      have step := taking_append_pending_use (isOpen_of_isOpen_after isOpen)
      rw [trace, trace, after_cons, List.append_assoc, inductionHypothesis isOpen,
        ← List.append_assoc, step, kept_append, List.append_assoc]

/-- One warning is logged for each message that is dropped, and nothing else. -/
theorem trace_useLog (channel : Channel α) (history : List (Use α)) :
    trace useLog channel history =
      (dropped (trace sending channel history)).map fun _ => droppedEntry := by
  induction history generalizing channel with
  | nil => rfl
  | cons use rest inductionHypothesis =>
      have step : channel.useLog use = (dropped (channel.sending use)).map fun _ => droppedEntry := by
        cases use with
        | send message =>
            rw [useLog, sendLog, ← isCrowded, sending]
            cases channel.isCrowded <;> rfl
        | receive | close => rfl
      rw [trace, trace, inductionHypothesis, step, dropped_append, List.map_append]

theorem map_fst_trace_sending (channel : Channel α) (history : List (Use α)) :
    (trace sending channel history).map Prod.fst = history.filterMap Use.message? := by
  induction history generalizing channel with
  | nil => rfl
  | cons use rest inductionHypothesis =>
      rw [trace, List.map_append, inductionHypothesis]
      cases use <;> rfl

/-- All that was sent has been received, is pending, or has its warning. -/
theorem length_sent_eq {history : List (Use α)}
    (isOpen : ((empty : Channel α).after history).isOpen = true) :
    (history.filterMap Use.message?).length =
      (trace taking empty history).length + ((empty : Channel α).after history).pending.length +
        (trace useLog (empty : Channel α) history).length := by
  have messages := congrArg List.length (received_append_pending_after isOpen)
  rw [List.length_append, pending_empty, List.nil_append] at messages
  rw [← map_fst_trace_sending empty, List.length_map, length_eq_kept_add_dropped, trace_useLog,
    List.length_map, messages]

end AddressWatch.Watcher.Channel
