import AddressWatch.Proofs.Watcher.ChangeDetection
import AddressWatch.Proofs.Watcher.Publishing
import AddressWatch.Watcher.Channel.History

/-!
# What becomes of the messages of a watcher

The operations on a watcher make up a history of its channel, so that each message is received, pending or
dropped with a warning.  The warnings are found by comparison with a watcher that nobody listens to:
it does the same and logs the same, apart from them.
-/

namespace AddressWatch.Watcher

variable {σ : Type}

/-- What an operation does to the channel. -/
def Report.uses (watcher : Watcher) : Report σ → List (Channel.Use Event)
  | polled poll _ => [.send poll.event]
  | ran run => ((Report.ran run).emitted watcher).map .send
  | received messages _ => [.receive messages.length]
  | left => [.close]

/-- Whether an act on the world logs the entry. -/
def World.Logs (world : World σ) (entry : Log.Entry) : Prop :=
  ∃ state, entry ∈ (world.look state).1.log ∨ ∃ record, entry ∈ (world.push state record).1.log

theorem filterMap_message?_uses (watcher : Watcher) (report : Report σ) :
    (report.uses watcher).filterMap Channel.Use.message? = report.emitted watcher := by
  cases report with
  | ran run => rw [Report.uses, List.filterMap_map]; exact List.filterMap_some
  | polled | received | left => rfl

/-! ## The watcher that nobody listens to -/

@[simp]
theorem channel_emit (watcher : Watcher) (event : Event) :
    (watcher.emit event).channel = watcher.channel.send event := rfl

def Loop.messages (loop : Loop σ) : List Event := loop.turns.filterMap Turn.event

def Loop.entries (loop : Loop σ) : List Log.Entry := (loop.turns.flatMap Turn.log).map Prod.snd

/-- Two loops that differ in nothing but the channel and the warnings. -/
structure Loop.Echoes (loop unheard : Loop σ) (channel : Channel Event) : Prop where
  watcher_eq : unheard.watcher = loop.watcher.dropListener
  state_eq : unheard.state = loop.state
  messages_eq : unheard.messages = loop.messages
  entries_perm : loop.entries.Perm
    (unheard.entries ++ Channel.trace Channel.useLog channel (loop.messages.map .send))

theorem map_stamped (time : Nat) (entries : List Log.Entry) :
    (stamped time entries).map Prod.snd = entries := by
  simp [stamped, Function.comp_def]

/-- The warning is the last thing that a poll logs. -/
theorem entries_turn (watcher : Watcher) (deadline now : Nat) (poll : Poll σ) :
    (watcher.turn deadline now poll).log.map Prod.snd =
      (watcher.dropListener.turn deadline now poll).log.map Prod.snd ++
        if poll.settled now < deadline then watcher.channel.sendLog else [] := by
  have silent : watcher.dropListener.channel.sendLog = [] := rfl
  by_cases settled : poll.settled now < deadline <;>
    simp [turn, settled, silent, map_stamped]

namespace Loop.Echoes

theorem cons {channel : Channel Event} {turn unheardTurn : Turn} {loop unheard : Loop σ}
    {event : Event} (echoes : loop.Echoes unheard (channel.send event))
    (event_eq : turn.event = some event) (unheardEvent_eq : unheardTurn.event = some event)
    (entries_eq : turn.log.map Prod.snd = unheardTurn.log.map Prod.snd ++ channel.sendLog) :
    (loop.after turn).Echoes (unheard.after unheardTurn) channel where
  watcher_eq := echoes.watcher_eq
  state_eq := echoes.state_eq
  messages_eq := by
    have rest := echoes.messages_eq
    unfold Loop.messages at rest ⊢
    rw [Loop.after, Loop.after, List.filterMap_cons_some event_eq,
      List.filterMap_cons_some unheardEvent_eq, rest]
  entries_perm := by
    have messages : (loop.after turn).messages = event :: loop.messages :=
      List.filterMap_cons_some event_eq
    have entries : (loop.after turn).entries = turn.log.map Prod.snd ++ loop.entries := by
      simp [Loop.entries, Loop.after]
    have unheardEntries : (unheard.after unheardTurn).entries =
        unheardTurn.log.map Prod.snd ++ unheard.entries := by
      simp [Loop.entries, Loop.after]
    rw [messages, entries, unheardEntries, entries_eq, List.perm_iff_count]
    intro entry
    have rest := echoes.entries_perm.count_eq entry
    simp only [List.map_cons, Channel.trace, Channel.useLog, Channel.use, List.count_append] at rest ⊢
    omega

/-- A turn that is cut short sends no message. -/
theorem cut {channel : Channel Event} {turn unheardTurn : Turn} {ended : Nat} {watcher : Watcher}
    {state : σ} (event_eq : turn.event = none) (unheardEvent_eq : unheardTurn.event = none)
    (entries_eq : turn.log.map Prod.snd = unheardTurn.log.map Prod.snd) :
    (⟨[turn], ended, watcher, state⟩ : Loop σ).Echoes
      ⟨[unheardTurn], ended, watcher.dropListener, state⟩ channel where
  watcher_eq := rfl
  state_eq := rfl
  messages_eq := by simp [Loop.messages, event_eq, unheardEvent_eq]
  entries_perm := by simp [Loop.messages, Loop.entries, event_eq, entries_eq, Channel.trace]

theorem nothing {channel : Channel Event} {ended : Nat} {watcher : Watcher} {state : σ} :
    (⟨[], ended, watcher, state⟩ : Loop σ).Echoes ⟨[], ended, watcher.dropListener, state⟩
      channel where
  watcher_eq := rfl
  state_eq := rfl
  messages_eq := rfl
  entries_perm := .nil

end Loop.Echoes

theorem turnsFrom_echoes (world : World σ) (deadline now : Nat) (watcher : Watcher) (state : σ) :
    (turnsFrom world deadline now watcher state).Echoes
      (turnsFrom world deadline now watcher.dropListener state) watcher.channel := by
  fun_induction turnsFrom world deadline now watcher state with
  | case1 now watcher state late =>
      rw [turnsFrom_of_le world late]
      exact .nothing
  | case2 now watcher state early poll turn unanswered =>
      have unsettled : ¬ poll.settled now < deadline := fun settled =>
        Nat.not_lt_of_le unanswered ((poll.answered_le_settled now).trans_lt settled)
      have unheard : turnsFrom world deadline now watcher.dropListener state =
          ⟨[watcher.dropListener.turn deadline now poll], deadline, watcher.dropListener,
            poll.afterLook⟩ := by
        rw [turnsFrom, if_neg early]
        exact if_pos unanswered
      have entries := watcher.entries_turn deadline now poll
      rw [if_neg unsettled, List.append_nil] at entries
      rw [unheard]
      exact .cut (if_neg unsettled) (if_neg unsettled) entries
  | case3 now watcher state early poll turn answered unsettled =>
      have unheard : turnsFrom world deadline now watcher.dropListener state =
          ⟨[watcher.dropListener.turn deadline now poll], deadline, watcher.dropListener,
            poll.afterPush⟩ := by
        rw [turnsFrom, if_neg early]
        exact (if_neg answered).trans (if_pos unsettled)
      have late := Nat.not_lt_of_le unsettled
      have entries := watcher.entries_turn deadline now poll
      rw [if_neg late, List.append_nil] at entries
      rw [unheard]
      exact .cut (if_neg late) (if_neg late) entries
  | case4 now watcher state early poll turn next answered settled late =>
      have unheard : turnsFrom world deadline now watcher.dropListener state =
          (⟨[], deadline, (watcher.finish poll).dropListener, poll.afterPush⟩ : Loop σ).after
            (watcher.dropListener.turn deadline now poll) := by
        rw [turnsFrom, if_neg early]
        exact (if_neg answered).trans ((if_neg settled).trans (if_pos late))
      have inTime := Nat.lt_of_not_le settled
      have entries := watcher.entries_turn deadline now poll
      rw [if_pos inTime] at entries
      rw [unheard]
      exact Loop.Echoes.nothing.cons (if_pos inTime) (if_pos inTime) entries
  | case5 now watcher state early poll turn next answered settled paused inductionHypothesis =>
      have unheard : turnsFrom world deadline now watcher.dropListener state =
          (turnsFrom world deadline next (watcher.finish poll).dropListener poll.afterPush).after
            (watcher.dropListener.turn deadline now poll) := by
        rw [turnsFrom, if_neg early]
        exact (if_neg answered).trans ((if_neg settled).trans (if_neg paused))
      have inTime := Nat.lt_of_not_le settled
      have entries := watcher.entries_turn deadline now poll
      rw [if_pos inTime] at entries
      rw [unheard]
      exact inductionHypothesis.cons (if_pos inTime) (if_pos inTime) entries

theorem channel_turnsFrom (world : World σ) (deadline now : Nat) (watcher : Watcher) (state : σ) :
    (turnsFrom world deadline now watcher state).watcher.channel =
      (turnsFrom world deadline now watcher state).messages.foldl Channel.send watcher.channel := by
  obtain ⟨begun, completed, follows⟩ := turnsFrom_follows world deadline now watcher state
  have polled := Session.afterPolls_withChannel world ⟨watcher, state⟩ watcher.channel completed
  rw [Loop.messages, follows.events_eq, follows.watcher_eq]
  exact congrArg (·.watcher.channel) polled

theorem entries_run (watcher : Watcher) (world : World σ) (deadline : Nat) (state : σ) :
    (watcher.run world deadline state).log =
      watcher.startLog (world.describe state) ++ watcher.channel.sendLog ++
        (turnsFrom world deadline 0 (watcher.emit watcher.startEvent) state).entries ++
        stopEntry :: (turnsFrom world deadline 0 (watcher.emit watcher.startEvent)
          state).watcher.channel.sendLog := by
  rw [Run.log, Run.logBeforeEnd, List.map_append, map_stamped]
  rfl

theorem uses_run (watcher : Watcher) (world : World σ) (deadline : Nat) (state : σ) :
    (Report.ran (watcher.run world deadline state)).uses watcher =
      .send watcher.startEvent :: ((turnsFrom world deadline 0 (watcher.emit watcher.startEvent)
        state).messages.map .send ++ [.send stopEvent]) := by
  rw [Report.uses, Report.emitted, List.map_cons, List.map_append]
  rfl

/-- A run logs what it logs when nobody listens, and the warnings. -/
theorem log_run_perm (watcher : Watcher) (world : World σ) (deadline : Nat) (state : σ) :
    (watcher.run world deadline state).log.Perm
      ((watcher.dropListener.run world deadline state).log ++
        Channel.trace Channel.useLog watcher.channel
          ((Report.ran (watcher.run world deadline state)).uses watcher)) := by
  have echoes := turnsFrom_echoes world deadline 0 (watcher.emit watcher.startEvent) state
  have ending := channel_turnsFrom world deadline 0 (watcher.emit watcher.startEvent) state
  have unheardEnding := congrArg (fun last => last.channel.sendLog) echoes.watcher_eq
  have unheard : (watcher.dropListener.run world deadline state).log =
      watcher.startLog (world.describe state) ++ [] ++
        (turnsFrom world deadline 0 (watcher.emit watcher.startEvent).dropListener state).entries ++
        [stopEntry] := by
    rw [entries_run]
    exact congrArg (fun warnings => _ ++ stopEntry :: warnings) unheardEnding
  rw [← Channel.after_map_send, channel_emit] at ending
  rw [entries_run, unheard, ending, uses_run, Channel.trace, Channel.trace_append,
    List.perm_iff_count]
  intro entry
  have counted := echoes.entries_perm.count_eq entry
  rw [channel_emit] at counted
  simp only [Channel.trace, Channel.useLog, Channel.use, List.count_append, List.count_cons,
    List.count_nil] at counted ⊢
  omega

namespace Session

theorem after_uses_perform (world : World σ) (session : Session σ) (operation : Operation) :
    session.watcher.channel.after
        ((session.perform world operation).1.uses session.watcher) =
      (session.perform world operation).2.watcher.channel := by
  cases operation with
  | poll | leave => rfl
  | run deadline =>
      have ending := channel_turnsFrom world deadline 0
        (session.watcher.emit session.watcher.startEvent) session.state
      refine (Channel.after_map_send _ _).trans ?_
      rw [Report.emitted, List.foldl_cons, List.foldl_append]
      exact (congrArg (·.send stopEvent) ending).symm
  | receive most => exact session.watcher.channel.receive_length_received most

theorem trace_taking_uses_perform (world : World σ) (session : Session σ) (operation : Operation) :
    Channel.trace Channel.taking session.watcher.channel
        ((session.perform world operation).1.uses session.watcher) =
      (session.perform world operation).1.messages := by
  cases operation with
  | poll | leave => rfl
  | run deadline => exact Channel.trace_taking_map_send _ _
  | receive most =>
      refine (List.append_nil _).trans ?_
      exact session.watcher.channel.received_length_received most

/-- The session when nobody listens any more. -/
def unheard (session : Session σ) : Session σ :=
  { session with watcher := session.watcher.dropListener }

theorem unheard_perform (world : World σ) (session : Session σ) (operation : Operation) :
    (session.unheard.perform world operation).2 = (session.perform world operation).2.unheard := by
  cases operation with
  | poll | leave => rfl
  | run deadline =>
      have echoes := turnsFrom_echoes world deadline 0
        (session.watcher.emit session.watcher.startEvent) session.state
      have watchers := congrArg (·.emit stopEvent) echoes.watcher_eq
      exact congrArg₂ Session.mk watchers echoes.state_eq
  | receive most =>
      have nothing : Channel.close session.watcher.channel =
          (Channel.close session.watcher.channel).receive most := by
        simp [Channel.close, Channel.receive]
      exact congrArg (fun channel => session.withChannel channel) nothing.symm

theorem log_perform_perm (world : World σ) (session : Session σ) (operation : Operation) :
    (session.perform world operation).1.log.Perm
      ((session.unheard.perform world operation).1.log ++
        Channel.trace Channel.useLog session.watcher.channel
          ((session.perform world operation).1.uses session.watcher)) := by
  cases operation with
  | run deadline => exact session.watcher.log_run_perm world deadline session.state
  | poll =>
      have warned : session.watcher.pollLog (session.nextPoll world) =
          session.watcher.dropListener.pollLog (session.nextPoll world) ++
            (session.watcher.channel.sendLog ++ []) := by
        rw [pollLog, pollLog, List.append_nil]
        exact congrArg (· ++ _) (List.append_nil _).symm
      exact .of_eq warned
  | receive | leave => exact .nil

end Session

/-! ## Who else logs such warnings -/

theorem ne_droppedEntry {entry : Log.Entry} (opening : entry.message.toList.head? ≠ some 'E') :
    entry ≠ Channel.droppedEntry := by
  rintro rfl
  exact opening rfl

theorem findingEntry_ne_droppedEntry (watcher : Watcher) (finding : Finding) :
    watcher.findingEntry finding ≠ Channel.droppedEntry := by
  apply ne_droppedEntry
  cases finding with
  | missing error =>
      rw [findingEntry]
      split <;> simp [Log.error, Log.warn]
  | malformed | same | changed => simp [findingEntry, Log.warn, Log.debug, Log.info]

theorem outcomeEntry_ne_droppedEntry (watcher : Watcher) (clientName value : String)
    (outcome : Outcome) :
    watcher.outcomeEntry clientName value outcome ≠ Channel.droppedEntry := by
  apply ne_droppedEntry
  rw [outcomeEntry]
  split <;> simp [Log.warn, Log.debug]

theorem droppedEntry_not_mem_startLog (watcher : Watcher) (source : String) :
    Channel.droppedEntry ∉ watcher.startLog source := by
  intro membership
  simp only [startLog, List.mem_cons, List.not_mem_nil, or_false] at membership
  rcases membership with same | same
  · exact ne_droppedEntry (by simp [Log.info]) same.symm
  · exact ne_droppedEntry (by simp [Log.info]) same.symm

def Poll.entries (poll : Poll σ) : List Log.Entry :=
  poll.lookLog ++ poll.answerLog ++ poll.outcomeLog

theorem logs_of_mem_entries_poll {watcher : Watcher} {world : World σ} {state : σ}
    (warned : Channel.droppedEntry ∈ (watcher.poll world state).entries) :
    world.Logs Channel.droppedEntry := by
  have notice := (watcher.findingEntry_ne_droppedEntry
    (watcher.judge (world.look state).1.result)).symm
  cases finding : watcher.judge (world.look state).1.result with
  | missing | malformed | same =>
      rw [finding] at notice
      refine ⟨state, Or.inl ?_⟩
      simpa [poll, finding, Poll.entries, Poll.lookLog, Poll.answerLog, Poll.outcomeLog, notice,
        Act.log] using warned
  | changed address =>
      rw [finding] at notice
      have verdict := (watcher.outcomeEntry_ne_droppedEntry world.clientName address
        (world.push (world.look state).2 (watcher.recordFor address)).1.result).symm
      simp only [poll, finding, Poll.entries, Poll.lookLog, Poll.answerLog, Poll.outcomeLog,
        Option.map_some, Option.getD_some, List.mem_append, List.mem_cons, List.not_mem_nil,
        notice, verdict, or_false, false_or] at warned
      rcases warned with (looked | looked | pushed) | pushed
      · exact ⟨state, Or.inl (List.mem_append_left _ looked)⟩
      · exact ⟨state, Or.inl (List.mem_append_right _ looked)⟩
      · exact ⟨_, Or.inr ⟨_, List.mem_append_left _ pushed⟩⟩
      · exact ⟨_, Or.inr ⟨_, List.mem_append_right _ pushed⟩⟩

theorem mem_entries_of_mem_turn {watcher : Watcher} {deadline now : Nat} {poll : Poll σ}
    {entry : Log.Entry} (silent : watcher.channel.sendLog = [])
    (membership : entry ∈ (watcher.turn deadline now poll).log.map Prod.snd) :
    entry ∈ poll.entries := by
  rw [turn, silent, List.append_nil] at membership
  simp only [List.map_append, map_stamped, List.mem_append] at membership
  rw [Poll.entries, List.mem_append, List.mem_append]
  rcases membership with (looked | answered) | settled
  · exact Or.inl (Or.inl looked)
  · split at answered
    · exact Or.inl (Or.inr (by rwa [map_stamped] at answered))
    · contradiction
  · split at settled
    · exact Or.inr (by rwa [map_stamped] at settled)
    · contradiction

theorem logs_of_mem_entries_turnsFrom {world : World σ} {deadline now : Nat} {watcher : Watcher}
    {state : σ} (closed : watcher.channel.isOpen = false)
    (warned : Channel.droppedEntry ∈ (turnsFrom world deadline now watcher state).entries) :
    world.Logs Channel.droppedEntry := by
  obtain ⟨begun, completed, follows⟩ := turnsFrom_follows world deadline now watcher state
  rw [Loop.entries, List.map_flatMap, follows.turns_eq, List.flatMap_map] at warned
  obtain ⟨index, _, membership⟩ := List.mem_flatMap.mp warned
  refine logs_of_mem_entries_poll (mem_entries_of_mem_turn ?_ membership)
  have polled := Session.afterPolls_withChannel world ⟨watcher, state⟩ watcher.channel index
  have channel := congrArg (fun session => session.watcher.channel.sendLog) polled
  refine channel.trans ?_
  change Channel.sendLog (List.foldl _ _ _) = []
  rw [← Channel.after_map_send]
  exact Channel.sendLog_after_of_closed closed _

namespace Session

theorem logs_of_mem_log_perform {world : World σ} {session : Session σ} {operation : Operation}
    (warned : Channel.droppedEntry ∈ (session.unheard.perform world operation).1.log) :
    world.Logs Channel.droppedEntry := by
  have silent : session.unheard.watcher.channel.sendLog = [] := rfl
  cases operation with
  | poll =>
      have polled : Channel.droppedEntry ∈ (session.unheard.nextPoll world).entries ++ [] := warned
      rw [List.append_nil] at polled
      exact logs_of_mem_entries_poll polled
  | run deadline =>
      have closed : (session.unheard.watcher.emit
        session.unheard.watcher.startEvent).channel.isOpen = false := rfl
      have ending := channel_turnsFrom world deadline 0
        (session.unheard.watcher.emit session.unheard.watcher.startEvent) session.state
      rw [← Channel.after_map_send] at ending
      change Channel.droppedEntry ∈ (session.unheard.watcher.run world deadline session.state).log
        at warned
      rw [entries_run, ending, Channel.sendLog_after_of_closed closed, silent] at warned
      simp only [List.append_nil, List.mem_append, List.mem_singleton] at warned
      rcases warned with (starting | looped) | stopping
      · exact absurd starting (droppedEntry_not_mem_startLog _ _)
      · exact logs_of_mem_entries_turnsFrom closed looped
      · contradiction
  | receive | leave => contradiction

end Session

/-! ## Whatever is done with a watcher -/

theorem uses_congr {watcher other : Watcher} (same : watcher.config = other.config)
    (report : Report σ) : report.uses watcher = report.uses other := by
  cases report with
  | ran run => simp only [Report.uses, Report.emitted, startEvent, same]
  | polled | received | left => rfl

namespace Session

variable (world : World σ) (session : Session σ)

/-- The channel, the messages received and the log of operations in sequence. -/
theorem performAll_history (operations : List Operation) :
    let (reports, last) := session.performAll world operations
    let history := reports.flatMap (Report.uses session.watcher)
    session.watcher.channel.after history = last.watcher.channel ∧
    Channel.trace Channel.taking session.watcher.channel history =
      reports.flatMap Report.messages ∧
    (reports.flatMap Report.log).Perm
      ((session.unheard.performAll world operations).1.flatMap Report.log ++
        Channel.trace Channel.useLog session.watcher.channel history) := by
  induction operations generalizing session with
  | nil => exact ⟨rfl, rfl, .nil⟩
  | cons operation rest inductionHypothesis =>
      obtain ⟨channels, messages, entries⟩ :=
        inductionHypothesis (session.perform world operation).2
      have first := session.after_uses_perform world operation
      have uses : Report.uses (σ := σ) (session.perform world operation).2.watcher =
          Report.uses session.watcher :=
        funext (uses_congr (session.config_perform world operation))
      rw [uses, ← first] at channels messages entries
      simp only [performAll, List.flatMap_cons]
      refine ⟨?_, ?_, ?_⟩
      · rw [Channel.after_append, channels]
      · rw [Channel.trace_append, trace_taking_uses_perform, messages]
      · rw [Channel.trace_append, unheard_perform, List.perm_iff_count]
        intro entry
        have now := (session.log_perform_perm world operation).count_eq entry
        have later := entries.count_eq entry
        simp only [List.count_append] at now later ⊢
        omega

theorem logs_of_mem_log_performAll {operations : List Operation}
    (warned : Channel.droppedEntry ∈
      (session.unheard.performAll world operations).1.flatMap Report.log) :
    world.Logs Channel.droppedEntry := by
  induction operations generalizing session with
  | nil => contradiction
  | cons operation rest inductionHypothesis =>
      simp only [performAll, List.flatMap_cons, List.mem_append, unheard_perform] at warned
      rcases warned with now | later
      · exact logs_of_mem_log_perform now
      · exact inductionHypothesis _ later

end Session

/-- Whatever is done with a new watcher, in whatever order: each message that it emits, for a poll the
one that the poll returns, goes to the channel.  As long as the listener stays, at most 64 messages are
pending; the messages received and then those pending are the ones emitted, in order, without those that
were dropped.  A message is dropped when 64 are pending, and each time one warning is logged, so that
all messages are received, pending or warned about.  When the listener has gone there are no warnings.
Apart from these, the log is the one of a watcher that nobody listens to, and in that log such a warning
can only come from the host or the API. -/
theorem messages_are_received_or_pending_or_warned_about {config : Config} {reported : Family}
    {watcher : Watcher} (made : new config reported = .ok watcher) (world : World σ) (state : σ)
    (operations : List Operation) :
    let session : Session σ := ⟨watcher, state⟩
    let (reports, last) := session.performAll world operations
    let unheard := (session.performAll world (.leave :: operations)).1
    let history := reports.flatMap (Report.uses watcher)
    let received := Channel.trace Channel.taking .empty
    let sendings := Channel.trace Channel.sending .empty
    let warnings := Channel.trace Channel.useLog (.empty : Channel Event)
    ((∀ poll log, .polled poll log ∈ reports →
        Report.uses watcher (.polled poll log) = [.send poll.event]) ∧
      history.filterMap Channel.Use.message? = reports.flatMap (Report.emitted watcher) ∧
      Channel.empty.after history = last.watcher.channel ∧
      received history = reports.flatMap Report.messages ∧
      (reports.flatMap Report.log).Perm (unheard.flatMap Report.log ++ warnings history) ∧
      (Channel.droppedEntry ∈ unheard.flatMap Report.log → world.Logs Channel.droppedEntry)) ∧
    ∀ past future, history = past ++ future →
      let now := Channel.empty.after past
      now.pending.length ≤ 64 ∧
      (now.isOpen = true →
        received past ++ now.pending = Channel.kept (sendings past) ∧
        (past.filterMap Channel.Use.message?).length =
          (received past).length + now.pending.length + (warnings past).length) ∧
      ∀ message rest, future = .send message :: rest →
        let isDropped : Bool := now.isOpen && now.pending.length == 64
        sendings (past ++ [.send message]) = sendings past ++ [(message, isDropped)] ∧
        warnings (past ++ [.send message]) =
          warnings past ++ if isDropped then [Channel.droppedEntry] else [] := by
  obtain ⟨accepted, rfl, rfl⟩ := (new_eq_ok_iff _ _ _).mp made
  intro session
  obtain ⟨channels, messages, entries⟩ := session.performAll_history world operations
  refine ⟨⟨fun _ _ _ => rfl, ?_, channels, messages, entries, ?_⟩, ?_⟩
  · rw [List.filterMap_flatMap]
    exact congrArg (List.flatMap · _) (funext (filterMap_message?_uses _))
  · intro warned
    exact session.logs_of_mem_log_performAll world warned
  · intro past future _ now
    refine ⟨now.bounded, ?_, ?_⟩
    · intro isOpen
      exact ⟨Channel.received_append_pending_after isOpen, Channel.length_sent_eq isOpen⟩
    · intro message rest _
      simp only [Channel.trace_append]
      refine ⟨rfl, ?_⟩
      exact congrArg (_ ++ ·) (List.append_nil now.sendLog)

/-- The host never has an address. -/
def addresslessRounds (_ : Nat) : Round :=
  ⟨.done (.error (.noAddress "eth0")), .done (.applied 200)⟩

/-- The listener comes late and takes too little. -/
def lateListening : List Operation := List.replicate 66 .poll ++ [.receive 3, .poll]

theorem messages_of_addressless_host_accounted_for :
    new homeSettings .ipv4 = .ok homeWatcher ∧
      let (reports, last) := (⟨homeWatcher, 0⟩ : Session Nat).performAll
        (World.ofRounds "commands" "rest" addresslessRounds) lateListening
      (reports.flatMap Report.messages).length = 3 ∧
      last.watcher.channel.pending.length = 62 ∧
      (reports.flatMap Report.log).count Channel.droppedEntry = 2 ∧
      (reports.flatMap (Report.emitted homeWatcher)).length = 3 + 62 + 2 := by
  have made : new homeSettings .ipv4 = .ok homeWatcher :=
    (new_eq_ok_iff _ _ _).mpr ⟨by decide, rfl, rfl⟩
  let world := World.ofRounds "commands" "rest" addresslessRounds
  let history := ((⟨homeWatcher, 0⟩ : Session Nat).performAll world lateListening).1.flatMap
    (Report.uses homeWatcher)
  obtain ⟨⟨_, emitted, _⟩, atAnyTime⟩ :=
    messages_are_received_or_pending_or_warned_about made world 0 lateListening
  have counted := ((atAnyTime history [] (List.append_nil _).symm).2.1 (by decide +kernel)).2
  have total : (history.filterMap Channel.Use.message?).length = 3 + 62 + 2 := by
    rw [counted]
    decide +kernel
  refine ⟨made, by decide +kernel, by decide +kernel, by decide +kernel, ?_⟩
  exact (congrArg List.length emitted.symm).trans total

end AddressWatch.Watcher
