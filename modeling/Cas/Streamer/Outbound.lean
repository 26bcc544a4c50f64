import Cas.Lib.Mpsc
import Cas.Streamer.Broadcast
import Cas.Streamer.Contiguous

set_option autoImplicit false

namespace Cas

open SortedSlice

variable {Transaction Entry FeedMessage : Type} [RollupQueueEntry Entry]

inductive BroadcastCause (Transaction : Type) where
  | delivery (transactions : List (List Transaction)) (height : UInt64)
  | retry

-- A call of `try_broadcast_feed_message` in progress. `accepted`, the entries
-- sent so far, is not in the source.
structure BroadcastCall (Transaction Entry : Type) where
  cause : BroadcastCause Transaction
  remaining : List Entry
  accepted : List Entry

-- The streamer with the finalization channel and the retry tasks: `sleeping`
-- counts the spawned tasks that have not sent yet, `signals` what the retry
-- channel holds. The last two fields are not in the source: whether a
-- finalization was handled since the last broadcast, and the events handled so far.
structure Outbound (Transaction Entry FeedMessage : Type) where
  streamer : Streamer Entry FeedMessage
  call : Option (BroadcastCall Transaction Entry)
  channel : Mpsc FeedMessage
  sleeping : Nat
  signals : Nat
  finalizedSince : Bool
  history : List (StreamerEvent Transaction)

def Outbound.new (finalizedIdx : UInt64) (capacity : Nat) : Outbound Transaction Entry FeedMessage :=
  ⟨.new finalizedIdx, none, .new capacity, 0, 0, false, []⟩

def retryChannelCapacity : Nat := 1

def BroadcastCause.start (config : StreamerConfig) (rollup : Rollup Transaction Entry FeedMessage) (st : Streamer Entry FeedMessage) :
    BroadcastCause Transaction → Streamer Entry FeedMessage
  | .delivery transactions height => filterMessages config st (rollup.parseHotshotTransactions transactions height)
  | .retry => { st with retryScheduled := false }

def BroadcastCause.event (send : Nat → TrySend) : BroadcastCause Transaction → StreamerEvent Transaction
  | .delivery transactions height => .hotshotTransactions transactions height send
  | .retry => .broadcastRetry send

def answers (accepted : Nat) (answer : TrySend) (attempt : Nat) : TrySend := if attempt < accepted then .accepted else answer

def Outbound.begin (config : StreamerConfig) (rollup : Rollup Transaction Entry FeedMessage) (cause : BroadcastCause Transaction)
    (st : Outbound Transaction Entry FeedMessage) : Outbound Transaction Entry FeedMessage :=
  let streamer := cause.start config rollup st.streamer
  { st with
    streamer := streamer
    call := some ⟨cause, findContiguousEntriesAfter streamer.queue streamer.lastBroadcastPosition, []⟩
    finalizedSince := false }

def Outbound.finish (call : BroadcastCall Transaction Entry) (answer : TrySend) (st : Outbound Transaction Entry FeedMessage) :
    Outbound Transaction Entry FeedMessage :=
  { st with call := none, history := st.history ++ [call.cause.event (answers call.accepted.length answer)] }

def Outbound.schedule (st : Outbound Transaction Entry FeedMessage) : Outbound Transaction Entry FeedMessage :=
  if st.streamer.retryScheduled then st
  else { st with streamer := { st.streamer with retryScheduled := true }, sleeping := st.sleeping + 1 }

def Outbound.finalize (config : StreamerConfig) (rollup : Rollup Transaction Entry FeedMessage) (newFinalizedIdx : UInt64)
    (reader : Reader Transaction) (st : Outbound Transaction Entry FeedMessage) : Outbound Transaction Entry FeedMessage :=
  { st with
    streamer := handleFinalization config rollup reader newFinalizedIdx st.streamer
    finalizedSince := true
    history := st.history ++ [.finalization newFinalizedIdx reader] }

-- The streamer's own steps and those of its retry tasks. Every `try_send` is a
-- step of its own, so the receiver may act between two of them.
inductive BroadcastStep (config : StreamerConfig) (rollup : Rollup Transaction Entry FeedMessage) :
    Outbound Transaction Entry FeedMessage → Outbound Transaction Entry FeedMessage → Prop where
  | deliver (st : Outbound Transaction Entry FeedMessage) (transactions : List (List Transaction)) (height : UInt64)
      (idle : st.call = none) : BroadcastStep config rollup st (st.begin config rollup (.delivery transactions height))
  | retry (st : Outbound Transaction Entry FeedMessage) (signals : Nat) (idle : st.call = none) (signalled : st.signals = signals + 1) :
      BroadcastStep config rollup st ({ st with signals := signals }.begin config rollup .retry)
  | sendAccepted (st : Outbound Transaction Entry FeedMessage) (call : BroadcastCall Transaction Entry) (entry : Entry) (rest : List Entry)
      (channel : Mpsc FeedMessage) (sends : st.call = some call) (first : call.remaining = entry :: rest)
      (accepted : st.channel.trySend (rollup.convertEntryToFeedMessage entry) = .ok channel) :
      BroadcastStep config rollup st
        { st with
          streamer := { st.streamer with
            lastBroadcastPosition := sequenceNumber entry
            broadcast := st.streamer.broadcast ++ [rollup.convertEntryToFeedMessage entry] }
          call := some { call with remaining := rest, accepted := call.accepted ++ [entry] }
          channel := channel }
  | sendFull (st : Outbound Transaction Entry FeedMessage) (call : BroadcastCall Transaction Entry) (entry : Entry) (rest : List Entry)
      (sends : st.call = some call) (first : call.remaining = entry :: rest)
      (full : st.channel.trySend (rollup.convertEntryToFeedMessage entry) = .error .full) :
      BroadcastStep config rollup st (st.schedule.finish call .full)
  | sendClosed (st : Outbound Transaction Entry FeedMessage) (call : BroadcastCall Transaction Entry) (entry : Entry) (rest : List Entry)
      (sends : st.call = some call) (first : call.remaining = entry :: rest)
      (closed : st.channel.trySend (rollup.convertEntryToFeedMessage entry) = .error .closed) :
      BroadcastStep config rollup st (st.finish call .closed)
  | sentAll (st : Outbound Transaction Entry FeedMessage) (call : BroadcastCall Transaction Entry) (sends : st.call = some call)
      (done : call.remaining = []) : BroadcastStep config rollup st (st.finish call .accepted)
  | wake (st : Outbound Transaction Entry FeedMessage) (sleeping : Nat) (asleep : st.sleeping = sleeping + 1)
      (room : st.signals < retryChannelCapacity) :
      BroadcastStep config rollup st { st with sleeping := sleeping, signals := st.signals + 1 }

inductive OutboundStep (config : StreamerConfig) (rollup : Rollup Transaction Entry FeedMessage) :
    Outbound Transaction Entry FeedMessage → Outbound Transaction Entry FeedMessage → Prop where
  | own (st next : Outbound Transaction Entry FeedMessage) (step : BroadcastStep config rollup st next) : OutboundStep config rollup st next
  | finalize (st : Outbound Transaction Entry FeedMessage) (newFinalizedIdx : UInt64) (reader : Reader Transaction) (idle : st.call = none) :
      OutboundStep config rollup st (st.finalize config rollup newFinalizedIdx reader)
  | receive (st : Outbound Transaction Entry FeedMessage) (message : FeedMessage) (channel : Mpsc FeedMessage)
      (received : st.channel.recv = some (message, channel)) : OutboundStep config rollup st { st with channel := channel }
  | close (st : Outbound Transaction Entry FeedMessage) : OutboundStep config rollup st { st with channel := st.channel.close }

section Calls

variable (config : StreamerConfig) (rollup : Rollup Transaction Entry FeedMessage)

theorem step_of_cause (cause : BroadcastCause Transaction) (send : Nat → TrySend) (st : Streamer Entry FeedMessage) :
    stepStreamer config rollup st (cause.event send) = tryBroadcastFeedMessage rollup send (cause.start config rollup st) := by
  cases cause <;> rfl

theorem broadcast_loop_append (send : Nat → TrySend) (first second : List Entry) (attempt other : Nat) (st : Streamer Entry FeedMessage)
    (accepted : ∀ offset < first.length, send (attempt + offset) = .accepted) :
    broadcastLoop rollup send (first ++ second) attempt st =
      broadcastLoop rollup send second (attempt + first.length) (broadcastLoop rollup (fun _ => .accepted) first other st) := by
  induction first generalizing attempt other st with
  | nil => rfl
  | cons entry tail ih =>
      have here : send attempt = .accepted := accepted 0 (by simp)
      have later : ∀ offset < tail.length, send (attempt + 1 + offset) = .accepted := by
        intro offset below
        have next := accepted (offset + 1) (by simpa using below)
        rwa [show attempt + (offset + 1) = attempt + 1 + offset by omega] at next
      simp only [List.cons_append, broadcastLoop, here]
      rw [ih (attempt + 1) (other + 1) _ later, List.length_cons, show attempt + 1 + tail.length = attempt + (tail.length + 1) by omega]

theorem contiguous_from_shift (lastPos idx : UInt64) (slice : List Entry) :
    contiguousFrom lastPos (idx + 1) slice = contiguousFrom (lastPos + 1) idx slice := by
  induction slice generalizing idx with
  | nil => rfl
  | cons entry tail ih =>
      have same : lastPos + (idx + 1) + 1 = lastPos + 1 + idx + 1 := by
        rw [UInt64.add_comm idx 1, ← UInt64.add_assoc]
      rw [contiguousFrom, contiguousFrom, same, ih (idx + 1)]

theorem find_contiguous_tail (queue : List Entry) (lastPos : UInt64) (entry : Entry) (rest : List Entry)
    (sorted : Increasing sequenceNumber queue) (found : findContiguousEntriesAfter queue lastPos = entry :: rest) :
    findContiguousEntriesAfter queue (sequenceNumber entry) = rest := by
  have above : ∀ bound, queue.drop (partitionPoint (fun e => sequenceNumber e ≤ bound) queue) =
      queue.filter fun e => bound < sequenceNumber e := by
    intro bound
    rw [drop_partition_point sequenceNumber _ queue (at_most_downward sequenceNumber bound) sorted]
    simp only [← decide_not, not_le]
  simp only [findContiguousEntriesAfter, above] at found ⊢
  have suffix := sorted.sublist (List.filter_sublist (p := fun e => decide (lastPos < sequenceNumber e)) (l := queue))
  cases slice : queue.filter fun e => decide (lastPos < sequenceNumber e) with
  | nil => rw [slice] at found; cases found
  | cons head tail =>
      rw [slice] at found suffix
      obtain ⟨least, -⟩ := List.pairwise_cons.mp suffix
      have beyond : lastPos < sequenceNumber head := by
        have member : head ∈ queue.filter fun e => decide (lastPos < sequenceNumber e) := by rw [slice]; simp
        exact of_decide_eq_true (List.mem_filter.mp member).2
      by_cases next : sequenceNumber head = lastPos + 0 + 1
      · rw [contiguousFrom, if_pos next, contiguous_from_shift] at found
        obtain ⟨rfl, rfl⟩ := List.cons.inj found
        have later : queue.filter (fun e => decide (sequenceNumber head < sequenceNumber e)) = tail := by
          have twice : queue.filter (fun e => decide (sequenceNumber head < sequenceNumber e)) =
              (queue.filter fun e => decide (lastPos < sequenceNumber e)).filter fun e => decide (sequenceNumber head < sequenceNumber e) := by
            rw [List.filter_filter]
            refine List.filter_congr fun e _ => ?_
            by_cases above : sequenceNumber head < sequenceNumber e
            · simp [above, lt_trans beyond above]
            · simp [above]
          rw [twice, slice, List.filter_cons_of_neg (by simp)]
          exact List.filter_eq_self.mpr fun e member => decide_eq_true (least e member)
        rw [later, show sequenceNumber head = lastPos + 1 by simpa using next]
      · rw [contiguousFrom, if_neg next] at found
        cases found

theorem finalization_sends_nothing (reader : Reader Transaction) (newFinalizedIdx : UInt64) (st : Streamer Entry FeedMessage)
    (inv : StreamerInv config st) :
    (handleFinalization config rollup reader newFinalizedIdx st).broadcast = st.broadcast ∧
      (handleFinalization config rollup reader newFinalizedIdx st).retryScheduled = st.retryScheduled := by
  have same := finalization_same_broadcast config rollup reader newFinalizedIdx st inv
  rw [same.broadcast, same.retryScheduled, skipFinalized]
  split <;> exact ⟨rfl, rfl⟩

-- What holds between any two steps. A call in progress has sent the first part of the run it found, and the rest of it
-- is the run from where the streamer stands now.
structure OutboundInv (finalizedIdx : UInt64) (st : Outbound Transaction Entry FeedMessage) : Prop where
  settled : st.call = none → st.streamer = runStreamer config rollup finalizedIdx st.history
  calling : ∀ call, st.call = some call → ∃ base, base = call.cause.start config rollup (runStreamer config rollup finalizedIdx st.history) ∧
    st.streamer = broadcastLoop rollup (fun _ => .accepted) call.accepted 0 base ∧
    findContiguousEntriesAfter base.queue base.lastBroadcastPosition = call.accepted ++ call.remaining
  remaining : ∀ call, st.call = some call →
    findContiguousEntriesAfter st.streamer.queue st.streamer.lastBroadcastPosition = call.remaining
  sound : StreamerInv config st.streamer
  broadcast : st.streamer.broadcast = st.channel.sent
  outstanding : st.sleeping + st.signals = if st.streamer.retryScheduled then 1 else 0
  due : st.call = none → st.channel.closed = false → st.finalizedSince = false →
    findContiguousEntriesAfter st.streamer.queue st.streamer.lastBroadcastPosition ≠ [] → st.streamer.retryScheduled = true

section Steps

variable (finalizedIdx : UInt64)

theorem new_outbound_invariant (capacity : Nat) : OutboundInv config rollup finalizedIdx (.new finalizedIdx capacity) where
  settled := fun _ => rfl
  calling := fun call calls => by cases calls
  remaining := fun call calls => by cases calls
  sound := new_streamer_invariant config finalizedIdx
  broadcast := rfl
  outstanding := rfl
  due := fun _ _ _ found => absurd rfl found

theorem cause_start_invariant (cause : BroadcastCause Transaction) (st : Streamer Entry FeedMessage) (inv : StreamerInv config st) :
    StreamerInv config (cause.start config rollup st) ∧ (cause.start config rollup st).broadcast = st.broadcast := by
  cases cause with
  | delivery transactions height =>
      exact ⟨filter_messages_invariant config st _ inv, (filter_messages_same_broadcast config st _ inv).broadcast⟩
  | retry => exact ⟨same_tracked_invariant config st _ ⟨rfl, rfl⟩ inv, rfl⟩

theorem begin_invariant (cause : BroadcastCause Transaction) (st : Outbound Transaction Entry FeedMessage)
    (inv : OutboundInv config rollup finalizedIdx st) (idle : st.call = none) (signals : Nat)
    (outstanding : st.sleeping + signals = if (cause.start config rollup st.streamer).retryScheduled then 1 else 0) :
    OutboundInv config rollup finalizedIdx ({ st with signals := signals }.begin config rollup cause) where
  settled := fun none => by cases none
  calling := fun call calls => by
    obtain rfl := Option.some.inj calls
    exact ⟨_, congrArg (fun streamer => cause.start config rollup streamer) (inv.settled idle), rfl, rfl⟩
  remaining := fun call calls => by
    obtain rfl := Option.some.inj calls
    rfl
  sound := (cause_start_invariant config rollup cause st.streamer inv.sound).1
  broadcast := (cause_start_invariant config rollup cause st.streamer inv.sound).2.trans inv.broadcast
  outstanding := outstanding
  due := fun none => by cases none

theorem finish_history (st : Outbound Transaction Entry FeedMessage) (call : BroadcastCall Transaction Entry) (answer : TrySend)
    (inv : OutboundInv config rollup finalizedIdx st) (calls : st.call = some call) :
    runStreamer config rollup finalizedIdx (st.history ++ [call.cause.event (answers call.accepted.length answer)]) =
      broadcastLoop rollup (answers call.accepted.length answer) call.remaining call.accepted.length st.streamer := by
  obtain ⟨base, rfl, current, found⟩ := inv.calling call calls
  rw [runStreamer, History.run_append, ← runStreamer]
  change stepStreamer config rollup _ _ = _
  rw [step_of_cause, tryBroadcastFeedMessage, found, broadcast_loop_append rollup _ call.accepted call.remaining 0 0, ← current,
    Nat.zero_add]
  intro offset below
  rw [Nat.zero_add, answers, if_pos below]

omit [RollupQueueEntry Entry] in
theorem schedule_outcome (st : Outbound Transaction Entry FeedMessage)
    (outstanding : st.sleeping + st.signals = if st.streamer.retryScheduled then 1 else 0) :
    ∃ sleeping, st.schedule = { st with streamer := { st.streamer with retryScheduled := true }, sleeping := sleeping } ∧
      sleeping + st.signals = 1 := by
  cases scheduled : st.streamer.retryScheduled with
  | true =>
      rw [scheduled, if_pos rfl] at outstanding
      refine ⟨st.sleeping, ?_, outstanding⟩
      rw [Outbound.schedule, if_pos scheduled, ← scheduled]
  | false =>
      rw [scheduled, if_neg Bool.false_ne_true] at outstanding
      refine ⟨st.sleeping + 1, ?_, by omega⟩
      rw [Outbound.schedule, if_neg (by rw [scheduled]; exact Bool.false_ne_true)]

theorem broadcast_step_invariant (st next : Outbound Transaction Entry FeedMessage) (inv : OutboundInv config rollup finalizedIdx st)
    (step : BroadcastStep config rollup st next) : OutboundInv config rollup finalizedIdx next := by
  cases step with
  | deliver transactions height idle =>
      refine begin_invariant config rollup finalizedIdx (.delivery transactions height) st inv idle st.signals ?_
      rw [inv.outstanding]
      exact congrArg (fun scheduled => if scheduled = true then 1 else 0)
        (filter_messages_same_broadcast config st.streamer _ inv.sound).retryScheduled.symm
  | retry signals idle signalled =>
      refine begin_invariant config rollup finalizedIdx .retry st inv idle signals ?_
      have outstanding := inv.outstanding
      rw [signalled] at outstanding
      have none_left : st.sleeping + signals = 0 := by
        split at outstanding <;> omega
      rw [none_left]
      rfl
  | sendAccepted call entry rest channel sends first accepted =>
      have taken := Mpsc.try_send_accepted st.channel channel _ accepted
      have here := inv.remaining call sends
      rw [first] at here
      exact {
        settled := fun none => by cases none
        calling := fun other calls => by
          obtain rfl := Option.some.inj calls
          obtain ⟨base, start, current, found⟩ := inv.calling call sends
          refine ⟨base, start, ?_, ?_⟩
          · have more := broadcast_loop_append rollup (fun _ => .accepted) call.accepted [entry] 0 0 base (fun _ _ => rfl)
            rw [← current] at more
            exact more.symm
          · rw [found, first, List.append_assoc, List.singleton_append]
        remaining := fun other calls => by
          obtain rfl := Option.some.inj calls
          exact find_contiguous_tail st.streamer.queue _ entry rest inv.sound.sorted here
        sound := same_tracked_invariant config st.streamer _ ⟨rfl, rfl⟩ inv.sound
        broadcast := by rw [taken.sent, ← inv.broadcast]
        outstanding := inv.outstanding
        due := fun none => by cases none }
  | sendFull call entry rest sends first full =>
      have ends := finish_history config rollup finalizedIdx st call .full inv sends
      rw [first, broadcastLoop, answers, if_neg (lt_irrefl _)] at ends
      obtain ⟨sleeping, scheduled, one⟩ := schedule_outcome st inv.outstanding
      rw [scheduled]
      exact {
        settled := fun _ => ends.symm
        calling := fun other calls => by cases calls
        remaining := fun other calls => by cases calls
        sound := same_tracked_invariant config st.streamer _ ⟨rfl, rfl⟩ inv.sound
        broadcast := inv.broadcast
        outstanding := one
        due := fun _ _ _ _ => rfl }
  | sendClosed call entry rest sends first closed =>
      have ends := finish_history config rollup finalizedIdx st call .closed inv sends
      rw [first, broadcastLoop, answers, if_neg (lt_irrefl _)] at ends
      have gone := Mpsc.try_send_closed st.channel _ closed
      exact {
        settled := fun _ => ends.symm
        calling := fun other calls => by cases calls
        remaining := fun other calls => by cases calls
        sound := inv.sound
        broadcast := inv.broadcast
        outstanding := inv.outstanding
        due := fun _ isOpen => absurd (gone.symm.trans isOpen) (by decide) }
  | sentAll call sends done =>
      have ends := finish_history config rollup finalizedIdx st call .accepted inv sends
      rw [done, broadcastLoop] at ends
      exact {
        settled := fun _ => ends.symm
        calling := fun other calls => by cases calls
        remaining := fun other calls => by cases calls
        sound := inv.sound
        broadcast := inv.broadcast
        outstanding := inv.outstanding
        due := fun _ _ _ found => absurd ((inv.remaining call sends).trans done) found }
  | wake sleeping asleep room =>
      obtain ⟨settled, calling, remaining, sound, broadcast, outstanding, due⟩ := inv
      exact ⟨settled, calling, remaining, sound, broadcast, by simp only; omega, due⟩

theorem finalize_invariant (newFinalizedIdx : UInt64) (reader : Reader Transaction) (st : Outbound Transaction Entry FeedMessage)
    (inv : OutboundInv config rollup finalizedIdx st) (idle : st.call = none) :
    OutboundInv config rollup finalizedIdx (st.finalize config rollup newFinalizedIdx reader) := by
  obtain ⟨broadcast, retryScheduled⟩ := finalization_sends_nothing config rollup reader newFinalizedIdx st.streamer inv.sound
  exact {
    settled := fun _ => by
      change handleFinalization config rollup reader newFinalizedIdx st.streamer = runStreamer config rollup finalizedIdx (_ ++ _)
      rw [runStreamer, History.run_append, ← runStreamer, ← inv.settled idle]
      rfl
    calling := fun call calls => by rw [show st.call = some call from calls] at idle; cases idle
    remaining := fun call calls => by rw [show st.call = some call from calls] at idle; cases idle
    sound := handle_finalization_invariant config rollup reader newFinalizedIdx st.streamer inv.sound
    broadcast := broadcast.trans inv.broadcast
    outstanding := by
      change st.sleeping + st.signals = if (handleFinalization config rollup reader newFinalizedIdx st.streamer).retryScheduled then 1 else 0
      rw [retryScheduled, inv.outstanding]
    due := fun _ _ since => by cases since }

theorem channel_invariant (st : Outbound Transaction Entry FeedMessage) (channel : Mpsc FeedMessage)
    (inv : OutboundInv config rollup finalizedIdx st) (sent : channel.sent = st.channel.sent)
    (closed : channel.closed = false → st.channel.closed = false) :
    OutboundInv config rollup finalizedIdx { st with channel := channel } :=
  ⟨inv.settled, inv.calling, inv.remaining, inv.sound, inv.broadcast.trans sent.symm, inv.outstanding,
    fun idle isOpen => inv.due idle (closed isOpen)⟩

theorem outbound_step_invariant (st next : Outbound Transaction Entry FeedMessage) (inv : OutboundInv config rollup finalizedIdx st)
    (step : OutboundStep config rollup st next) : OutboundInv config rollup finalizedIdx next := by
  cases step with
  | own _ step => exact broadcast_step_invariant config rollup finalizedIdx st next inv step
  | finalize newFinalizedIdx reader idle => exact finalize_invariant config rollup finalizedIdx newFinalizedIdx reader st inv idle
  | receive message channel received =>
      have taken := Mpsc.recv_taken st.channel channel message received
      exact channel_invariant config rollup finalizedIdx st channel inv taken.sent fun isOpen => taken.closed.symm.trans isOpen
  | close => exact channel_invariant config rollup finalizedIdx st _ inv rfl fun isOpen => by cases isOpen

theorem outbound_streamer_run (st : Outbound Transaction Entry FeedMessage) (inv : OutboundInv config rollup finalizedIdx st) :
    ∃ last, st.streamer = runStreamer config rollup finalizedIdx (st.history ++ last) ∧
      ∀ idx reader, StreamerEvent.finalization idx reader ∉ last := by
  cases calls : st.call with
  | none => exact ⟨[], by rw [List.append_nil, inv.settled calls], fun _ _ => List.not_mem_nil⟩
  | some call =>
      refine ⟨[call.cause.event (answers call.accepted.length .closed)], ?_, fun idx reader member => ?_⟩
      · rw [finish_history config rollup finalizedIdx st call .closed inv calls]
        cases call.remaining with
        | nil => rfl
        | cons entry rest => rw [broadcastLoop, answers, if_neg (lt_irrefl _)]
      · cases cause : call.cause <;> simp [cause, BroadcastCause.event] at member

end Steps

structure Sourced (good : Entry → Prop) (st : Streamer Entry FeedMessage) : Prop where
  inv : StreamerInv config st
  queue : ∀ e ∈ st.queue, good e
  broadcast : ∀ message ∈ st.broadcast, ∃ e, good e ∧ rollup.convertEntryToFeedMessage e = message

section Sources

variable (good : Entry → Prop)

theorem filter_message_sourced (st : Streamer Entry FeedMessage) (parsed : Entry) (fine : good parsed)
    (sourced : Sourced config rollup good st) : Sourced config rollup good (filterMessage config st parsed) := by
  have inv := filter_message_invariant config st parsed sourced.inv
  have outcome := filter_message_outcome config st parsed sourced.inv.sorted
  have inserted : ∀ e ∈ insertEntry parsed st.queue, good e := by
    intro e member
    rcases (mem_insert_entry parsed e st.queue).mp member with rfl | old
    · exact fine
    · exact sourced.queue e old
  generalize filterMessage config st parsed = next at inv outcome ⊢
  cases outcome with
  | skipped known => exact sourced
  | kept started fresh room => exact ⟨inv, inserted, sourced.broadcast⟩
  | evicted started fresh full rest last split =>
      exact ⟨inv, fun e member => inserted e (by rw [split]; exact List.mem_append_left _ member), sourced.broadcast⟩

theorem broadcast_loop_sourced (send : Nat → TrySend) (entries : List Entry) (fine : ∀ e ∈ entries, good e) (attempt : Nat)
    (st : Streamer Entry FeedMessage) (sourced : Sourced config rollup good st) :
    Sourced config rollup good (broadcastLoop rollup send entries attempt st) := by
  induction entries generalizing attempt st with
  | nil => exact sourced
  | cons entry tail ih =>
      rw [broadcastLoop]
      cases send attempt with
      | accepted =>
          refine ih (fun e member => fine e (by simp [member])) _ _
            ⟨same_tracked_invariant config st _ ⟨rfl, rfl⟩ sourced.inv, sourced.queue, fun message member => ?_⟩
          rcases List.mem_append.mp member with old | new
          · exact sourced.broadcast message old
          · exact ⟨entry, fine entry (by simp), (List.mem_singleton.mp new).symm⟩
      | full => exact ⟨same_tracked_invariant config st _ ⟨rfl, rfl⟩ sourced.inv, sourced.queue, sourced.broadcast⟩
      | closed => exact sourced

theorem try_broadcast_sourced (send : Nat → TrySend) (st : Streamer Entry FeedMessage) (sourced : Sourced config rollup good st) :
    Sourced config rollup good (tryBroadcastFeedMessage rollup send st) :=
  broadcast_loop_sourced config rollup good send _ (fun e member => sourced.queue e (find_contiguous_subset _ _ e member)) 0 st sourced

theorem finalization_sourced (parses : ∀ txns height, ∀ e ∈ rollup.parseHotshotTransactions txns height, good e)
    (newFinalizedIdx : UInt64) (reader : Reader Transaction) (st : Streamer Entry FeedMessage) (sourced : Sourced config rollup good st) :
    Sourced config rollup good (handleFinalization config rollup reader newFinalizedIdx st) := by
  have same := skip_finalized_tracked newFinalizedIdx st
  have sent : (skipFinalized newFinalizedIdx st).broadcast = st.broadcast := by
    unfold skipFinalized
    split <;> rfl
  have skipped : Sourced config rollup good (skipFinalized newFinalizedIdx st) :=
    ⟨same_tracked_invariant config st _ same sourced.inv, same.queue ▸ sourced.queue, sent ▸ sourced.broadcast⟩
  simp only [handleFinalization]
  split
  · exact skipped
  · have pruned := prune_invariant config newFinalizedIdx _ skipped.inv
    refine promote_stubs_sourced_rule config rollup reader good (Sourced config rollup good)
      (fun start stop txns _ => parses txns start) (fun state entry fine before stub room => ?_) _ pruned.bounded
      ⟨pruned, fun e member => skipped.queue e (List.mem_of_mem_drop member), skipped.broadcast⟩
    refine ⟨promote_entry_invariant config state entry before.inv stub room, fun e member => ?_, before.broadcast⟩
    rcases (mem_insert_entry entry e state.queue).mp member with rfl | old
    · exact fine
    · exact before.queue e old

theorem run_streamer_sourced (parses : ∀ txns height, ∀ e ∈ rollup.parseHotshotTransactions txns height, good e) (finalizedIdx : UInt64)
    (events : List (StreamerEvent Transaction)) : Sourced config rollup good (runStreamer config rollup finalizedIdx events) := by
  refine History.run_invariant _ (Sourced config rollup good) (fun _ => True) (fun st event _ sourced => ?_) _ events
    (fun _ _ => trivial) ⟨new_streamer_invariant config finalizedIdx, fun e member => absurd member List.not_mem_nil,
      fun message member => absurd member List.not_mem_nil⟩
  cases event with
  | hotshotTransactions transactions height send =>
      refine try_broadcast_sourced config rollup good send _ ?_
      exact History.run_invariant _ (Sourced config rollup good) good (filter_message_sourced config rollup good) st _
        (parses transactions height) sourced
  | finalization newFinalizedIdx reader => exact finalization_sourced config rollup good parses newFinalizedIdx reader st sourced
  | broadcastRetry send =>
      exact try_broadcast_sourced config rollup good send { st with retryScheduled := false }
        ⟨same_tracked_invariant config st _ ⟨rfl, rfl⟩ sourced.inv, sourced.queue, sourced.broadcast⟩

end Sources

end Calls

def twoMessages : BroadcastCause (List UInt8) := .delivery [[makeMockEspressoTransaction 1, makeMockEspressoTransaction 2]] 1

def twoDelivered : Outbound (List UInt8) MockEntry MockEntry := (Outbound.new 0 1).begin ⟨1, 4⟩ mockRollup.toRollup twoMessages

def oneSent : Outbound (List UInt8) MockEntry MockEntry :=
  { twoDelivered with
    streamer := { twoDelivered.streamer with lastBroadcastPosition := 1, broadcast := twoDelivered.streamer.broadcast ++ [⟨1, 1⟩] }
    call := some ⟨twoMessages, [⟨2, 1⟩], [⟨1, 1⟩]⟩
    channel := ⟨1, [⟨1, 1⟩], false, [⟨1, 1⟩], [], le_refl 1, rfl⟩ }

def backpressured : Outbound (List UInt8) MockEntry MockEntry := oneSent.schedule.finish ⟨twoMessages, [⟨2, 1⟩], [⟨1, 1⟩]⟩ .full

theorem backpressured_reached :
    Relation.ReflTransGen (OutboundStep ⟨1, 4⟩ mockRollup.toRollup) (.new 0 1) backpressured := by
  have found : findContiguousEntriesAfter twoDelivered.streamer.queue twoDelivered.streamer.lastBroadcastPosition = [⟨1, 1⟩, ⟨2, 1⟩] := by
    decide +kernel
  have first : BroadcastStep ⟨1, 4⟩ mockRollup.toRollup (.new 0 1) twoDelivered := .deliver _ _ _ rfl
  have second : BroadcastStep ⟨1, 4⟩ mockRollup.toRollup twoDelivered oneSent :=
    .sendAccepted twoDelivered ⟨twoMessages, _, []⟩ ⟨1, 1⟩ [⟨2, 1⟩] oneSent.channel rfl found rfl
  have third : BroadcastStep ⟨1, 4⟩ mockRollup.toRollup oneSent backpressured :=
    .sendFull oneSent ⟨twoMessages, [⟨2, 1⟩], [⟨1, 1⟩]⟩ ⟨2, 1⟩ [] rfl rfl rfl
  exact .head (.own _ _ first) <| .head (.own _ _ second) <| .head (.own _ _ third) .refl

/-- The streamer with its bounded channel, a receiver and the retry tasks, in any interleaving, does what the streamer
does that handles one event after the other: between two calls it is in the state the events lead to, and the channel has
taken in what that streamer has broadcast. -/
theorem interleaved_broadcast_refines (config : StreamerConfig) (rollup : Rollup Transaction Entry FeedMessage) (finalizedIdx : UInt64)
    (capacity : Nat) (st : Outbound Transaction Entry FeedMessage)
    (reached : Relation.ReflTransGen (OutboundStep config rollup) (.new finalizedIdx capacity) st) (idle : st.call = none) :
    st.streamer = runStreamer config rollup finalizedIdx st.history ∧
      st.channel.received ++ st.channel.buffer = (runStreamer config rollup finalizedIdx st.history).broadcast := by
  have inv := History.reachable_invariant _ (OutboundInv config rollup finalizedIdx) (outbound_step_invariant config rollup finalizedIdx)
    _ st reached (new_outbound_invariant config rollup finalizedIdx capacity)
  refine ⟨inv.settled idle, ?_⟩
  rw [← inv.settled idle, inv.broadcast, st.channel.accounted]

theorem backpressured_refines :
    backpressured.streamer = runStreamer ⟨1, 4⟩ mockRollup.toRollup 0 backpressured.history ∧
      [⟨1, 1⟩] = (runStreamer ⟨1, 4⟩ mockRollup.toRollup 0 backpressured.history).broadcast :=
  interleaved_broadcast_refines ⟨1, 4⟩ mockRollup.toRollup 0 1 backpressured backpressured_reached rfl

/-- No wake-up is lost: a retry is scheduled exactly while one task or one signal is outstanding, never more, and whenever
messages that could be sent are left while the channel is open, a retry is outstanding or a finalization came after the
last broadcast. -/
theorem no_lost_wakeup (config : StreamerConfig) (rollup : Rollup Transaction Entry FeedMessage) (finalizedIdx : UInt64)
    (capacity : Nat) (st : Outbound Transaction Entry FeedMessage)
    (reached : Relation.ReflTransGen (OutboundStep config rollup) (.new finalizedIdx capacity) st) :
    st.sleeping + st.signals = (if st.streamer.retryScheduled then 1 else 0) ∧
      (st.call = none → st.channel.closed = false →
        findContiguousEntriesAfter st.streamer.queue st.streamer.lastBroadcastPosition ≠ [] →
        st.sleeping + st.signals = 1 ∨ st.finalizedSince = true) := by
  have inv := History.reachable_invariant _ (OutboundInv config rollup finalizedIdx) (outbound_step_invariant config rollup finalizedIdx)
    _ st reached (new_outbound_invariant config rollup finalizedIdx capacity)
  refine ⟨inv.outstanding, fun idle isOpen left => ?_⟩
  cases since : st.finalizedSince with
  | true => exact .inr rfl
  | false =>
      have scheduled := inv.due idle isOpen since left
      rw [inv.outstanding, if_pos scheduled]
      exact .inl rfl

theorem backpressured_retried : backpressured.sleeping + backpressured.signals = 1 := by
  have left : findContiguousEntriesAfter backpressured.streamer.queue backpressured.streamer.lastBroadcastPosition ≠ [] := by
    decide +kernel
  exact ((no_lost_wakeup ⟨1, 4⟩ mockRollup.toRollup 0 1 backpressured backpressured_reached).2 rfl rfl left).resolve_right
    Bool.false_ne_true

end Cas
