import Cas.Lib.History
import Cas.Lib.SortedSlice
import Cas.Nitro.Types

set_option autoImplicit false

namespace Cas

open SortedSlice

def feedMessages (bm : BroadcastMessage) : List BroadcastFeedMessage := bm.messages.reduceOption

-- The backlog is locked for the whole of each of these.
def backlogAppend (bm : BroadcastMessage) (backlog : List BroadcastFeedMessage) : List BroadcastFeedMessage :=
  (feedMessages bm).foldl (fun msgs m =>
    match msgs.getLast? with
    | some tail => if m.sequenceNumber ≤ tail.sequenceNumber then msgs else msgs ++ [m]
    | none => msgs ++ [m]) backlog

def backlogConfirm (confirmed : UInt64) (backlog : List BroadcastFeedMessage) : List BroadcastFeedMessage :=
  backlog.filter fun m => confirmed < m.sequenceNumber

def getSince (fromSeq : UInt64) (backlog : List BroadcastFeedMessage) : List BroadcastFeedMessage :=
  backlog.filter fun m => fromSeq ≤ m.sequenceNumber

def shouldSend (bm : BroadcastMessage) (lastSentSeq : Option UInt64) : Bool :=
  if bm.confirmedSequenceNumberMessage.isSome then true
  else
    match lastSentSeq with
    | none => !bm.messages.isEmpty
    | some last => bm.messages.any fun m => m.any fun msg => last < msg.sequenceNumber

def updateLastSent (bm : BroadcastMessage) (lastSentSeq : Option UInt64) : Option UInt64 :=
  (feedMessages bm).foldl (fun lastSent msg =>
    if lastSent.getD 0 ≤ msg.sequenceNumber then some msg.sequenceNumber else lastSent) lastSentSeq

-- The two ways in which the relay calls `broadcast`.
inductive RelayCall where
  | broadcastFeedMessages (messages : List BroadcastFeedMessage)
  | confirm (msgIdx : UInt64)
deriving DecidableEq, Repr

def RelayCall.broadcastMessage : RelayCall → BroadcastMessage
  | .broadcastFeedMessages messages => ⟨1, messages.map some, none⟩
  | .confirm msgIdx => ⟨1, [], some ⟨msgIdx⟩⟩

def RelayCall.messages : RelayCall → List BroadcastFeedMessage
  | .broadcastFeedMessages messages => messages
  | .confirm _ => []

-- `broadcast` confirms, then appends, then sends. The relay makes its calls one after the other.
inductive BroadcastPoint where
  | idle
  | appending (bm : BroadcastMessage)
  | sending (bm : BroadcastMessage)
deriving DecidableEq, Repr

inductive ClientPhase where
  | connecting
  | subscribed
  | writingBacklog (backlog : List BroadcastFeedMessage)
  | running
  | disconnected
deriving DecidableEq, Repr

def ClientPhase.beforeSnapshot : ClientPhase → Bool
  | .connecting => true
  | .subscribed => true
  | _ => false

-- The receiver of the broadcast channel lives from the subscription to the disconnection.
def ClientPhase.listening : ClientPhase → Bool
  | .connecting => false
  | .disconnected => false
  | _ => true

-- The server with one of its clients; clients do not act on each other. `rx`
-- is what the client's receiver holds. The last five fields are not in the
-- source: the messages written to the client, those appended to the backlog so
-- far, those sent since the client subscribed, the client's snapshot, and the
-- numbers confirmed before it.
structure FeedServer where
  calls : List BroadcastMessage
  point : BroadcastPoint
  backlog : List BroadcastFeedMessage
  phase : ClientPhase
  rx : List BroadcastMessage
  lagged : Bool
  linkUp : Bool
  lastSentSeq : Option UInt64
  written : List BroadcastFeedMessage
  appended : List BroadcastFeedMessage
  broadcasted : List BroadcastFeedMessage
  snapshot : List BroadcastFeedMessage
  confirmed : List UInt64
deriving DecidableEq, Repr

def FeedServer.new (calls : List BroadcastMessage) : FeedServer :=
  ⟨calls, .idle, [], .connecting, [], false, true, none, [], [], [], [], []⟩

-- A full receiver loses its oldest message, and its next `recv` answers `Lagged`.
def channelSend (capacity : Nat) (bm : BroadcastMessage) (st : FeedServer) : FeedServer :=
  if st.phase.listening then
    if st.rx.length < capacity then { st with rx := st.rx ++ [bm], broadcasted := st.broadcasted ++ feedMessages bm }
    else { st with rx := st.rx.tail ++ [bm], lagged := true, broadcasted := st.broadcasted ++ feedMessages bm }
  else st

-- One call is three steps, and a client's steps fall anywhere between them. A
-- write that returns an error ends the connection, except that of the backlog:
-- there `run_ws_client` goes on, over a link to which nothing more can be written.
inductive FeedStep (capacity : Nat) (fromSeq : UInt64) : FeedServer → FeedServer → Prop where
  | confirm (st : FeedServer) (bm : BroadcastMessage) (rest : List BroadcastMessage) (idle : st.point = .idle)
      (next : st.calls = bm :: rest) :
      FeedStep capacity fromSeq st
        { st with
          calls := rest
          point := .appending bm
          backlog := match bm.confirmedSequenceNumberMessage with
            | none => st.backlog
            | some confirmed => backlogConfirm confirmed.sequenceNumber st.backlog
          confirmed := match bm.confirmedSequenceNumberMessage with
            | none => st.confirmed
            | some confirmed => if st.phase.beforeSnapshot then st.confirmed ++ [confirmed.sequenceNumber] else st.confirmed }
  | append (st : FeedServer) (bm : BroadcastMessage) (appends : st.point = .appending bm) :
      FeedStep capacity fromSeq st
        { st with point := .sending bm, backlog := backlogAppend bm st.backlog, appended := st.appended ++ feedMessages bm }
  | send (st : FeedServer) (bm : BroadcastMessage) (sends : st.point = .sending bm) :
      FeedStep capacity fromSeq st (channelSend capacity bm { st with point := .idle })
  | subscribe (st : FeedServer) (connects : st.phase = .connecting) :
      FeedStep capacity fromSeq st { st with phase := .subscribed, rx := [] }
  | takeSnapshot (st : FeedServer) (subscribed : st.phase = .subscribed) :
      FeedStep capacity fromSeq st
        { st with
          phase := if getSince fromSeq st.backlog = [] then .running else .writingBacklog (getSince fromSeq st.backlog)
          lastSentSeq := (getSince fromSeq st.backlog).getLast?.map BroadcastFeedMessage.sequenceNumber
          snapshot := getSince fromSeq st.backlog }
  | backlogWritten (st : FeedServer) (backlog : List BroadcastFeedMessage) (writes : st.phase = .writingBacklog backlog) :
      FeedStep capacity fromSeq st { st with phase := .running, written := st.written ++ backlog }
  | backlogError (st : FeedServer) (backlog : List BroadcastFeedMessage) (writes : st.phase = .writingBacklog backlog) :
      FeedStep capacity fromSeq st { st with phase := .running, linkUp := false }
  | receiveWritten (st : FeedServer) (bm : BroadcastMessage) (rest : List BroadcastMessage) (runs : st.phase = .running)
      (current : st.lagged = false) (next : st.rx = bm :: rest) (due : shouldSend bm st.lastSentSeq = true) (up : st.linkUp = true) :
      FeedStep capacity fromSeq st
        { st with rx := rest, lastSentSeq := updateLastSent bm st.lastSentSeq, written := st.written ++ feedMessages bm }
  | receiveSkipped (st : FeedServer) (bm : BroadcastMessage) (rest : List BroadcastMessage) (runs : st.phase = .running)
      (current : st.lagged = false) (next : st.rx = bm :: rest) (notDue : shouldSend bm st.lastSentSeq = false) :
      FeedStep capacity fromSeq st { st with rx := rest }
  -- lag, timeouts, failed writes, cancellation, and the client's end of the stream
  | disconnect (st : FeedServer) : FeedStep capacity fromSeq st { st with phase := .disconnected }

def FromRelay (bm : BroadcastMessage) : Prop := ∃ call : RelayCall, call.broadcastMessage = bm

theorem feed_messages_relay (call : RelayCall) : feedMessages call.broadcastMessage = call.messages := by
  cases call with
  | broadcastFeedMessages messages =>
      simp [feedMessages, RelayCall.broadcastMessage, RelayCall.messages, List.reduceOption, List.filterMap_map]
  | confirm msgIdx => rfl

def groupMessages (bms : List BroadcastMessage) : List BroadcastFeedMessage := bms.flatMap feedMessages

def BroadcastPoint.pending : BroadcastPoint → List BroadcastMessage
  | .appending bm => [bm]
  | _ => []

def BroadcastPoint.inFlight : BroadcastPoint → List BroadcastMessage
  | .sending bm => [bm]
  | _ => []

theorem backlog_append_increasing (bm : BroadcastMessage) (backlog : List BroadcastFeedMessage)
    (increasing : Increasing BroadcastFeedMessage.sequenceNumber (backlog ++ feedMessages bm)) :
    backlogAppend bm backlog = backlog ++ feedMessages bm := by
  rw [backlogAppend]
  generalize feedMessages bm = messages at increasing ⊢
  induction messages generalizing backlog with
  | nil => simp
  | cons m tail ih =>
      have pushed : (match backlog.getLast? with
          | some tail => if m.sequenceNumber ≤ tail.sequenceNumber then backlog else backlog ++ [m]
          | none => backlog ++ [m]) = backlog ++ [m] := by
        cases final : backlog.getLast? with
        | none => rfl
        | some last =>
            have less := (List.pairwise_append.mp increasing).2.2 last (List.mem_of_getLast? final) m (by simp)
            exact if_neg (not_le.mpr less)
      rw [List.foldl_cons, pushed, ih, List.append_assoc, List.singleton_append]
      rwa [List.append_assoc, List.singleton_append]

structure RelayInv (st : FeedServer) : Prop where
  fromRelay : ∀ bm ∈ st.calls ++ st.point.pending ++ st.point.inFlight ++ st.rx, FromRelay bm
  ordered : Increasing BroadcastFeedMessage.sequenceNumber (st.appended ++ groupMessages (st.point.pending ++ st.calls))
  backlog : st.backlog <:+ st.appended
  channel : (groupMessages (st.rx ++ st.point.inFlight)).Sublist st.appended
  broadcasted : (st.broadcasted ++ groupMessages st.point.inFlight).Sublist st.appended

theorem RelayInv.appended_increasing {st : FeedServer} (inv : RelayInv st) :
    Increasing BroadcastFeedMessage.sequenceNumber st.appended :=
  (List.pairwise_append.mp inv.ordered).1

theorem group_messages_append (first second : List BroadcastMessage) :
    groupMessages (first ++ second) = groupMessages first ++ groupMessages second := List.flatMap_append

theorem group_messages_singleton (bm : BroadcastMessage) : groupMessages [bm] = feedMessages bm := by
  simp [groupMessages]

theorem new_relay_invariant (calls : List RelayCall)
    (ordered : Increasing BroadcastFeedMessage.sequenceNumber (calls.flatMap RelayCall.messages)) :
    RelayInv (.new (calls.map RelayCall.broadcastMessage)) := by
  refine ⟨?_, ?_, List.suffix_refl _, List.Sublist.refl _, List.Sublist.refl _⟩
  · intro bm listed
    obtain ⟨call, -, same⟩ : ∃ call ∈ calls, call.broadcastMessage = bm := by
      simpa [FeedServer.new, BroadcastPoint.pending, BroadcastPoint.inFlight] using listed
    exact ⟨call, same⟩
  · have same : groupMessages (calls.map RelayCall.broadcastMessage) = calls.flatMap RelayCall.messages := by
      rw [groupMessages, List.flatMap_map]
      exact List.flatMap_congr fun call _ => feed_messages_relay call
    change Increasing BroadcastFeedMessage.sequenceNumber ([] ++ groupMessages ([] ++ calls.map RelayCall.broadcastMessage))
    rwa [List.nil_append, List.nil_append, same]

theorem delivered_relay_invariant (bm : BroadcastMessage) (st : FeedServer) (kept : List BroadcastMessage) (lagged : Bool)
    (sends : st.point = .sending bm) (inv : RelayInv st) (held : kept <:+ st.rx) :
    RelayInv { st with point := .idle, rx := kept ++ [bm], lagged := lagged, broadcasted := st.broadcasted ++ feedMessages bm } := by
  obtain ⟨fromRelay, ordered, backlog, channel, broadcasted⟩ := inv
  simp only [sends, BroadcastPoint.pending, BroadcastPoint.inFlight, List.append_nil] at fromRelay ordered channel broadcasted
  refine ⟨fun other listed => ?_, ordered, backlog, ?_, ?_⟩
  · simp only [BroadcastPoint.pending, BroadcastPoint.inFlight, List.append_nil, List.mem_append, List.mem_singleton] at listed
    rcases listed with call | waiting | rfl
    · exact fromRelay other (by simp [call])
    · exact fromRelay other (by simp [held.subset waiting])
    · exact fromRelay other (by simp)
  · simp only [BroadcastPoint.inFlight, List.append_nil]
    have shorter : (groupMessages (kept ++ [bm])).Sublist (groupMessages (st.rx ++ [bm])) :=
      (held.sublist.append (List.Sublist.refl _)).flatMap feedMessages
    exact shorter.trans channel
  · rw [group_messages_singleton] at broadcasted
    simpa only [BroadcastPoint.inFlight, groupMessages, List.flatMap_nil, List.append_nil] using broadcasted

theorem channel_send_relay_invariant (capacity : Nat) (bm : BroadcastMessage) (st : FeedServer) (sends : st.point = .sending bm)
    (inv : RelayInv st) : RelayInv (channelSend capacity bm { st with point := .idle }) := by
  rw [channelSend]
  split
  · split
    · exact delivered_relay_invariant bm st st.rx st.lagged sends inv (List.suffix_refl _)
    · exact delivered_relay_invariant bm st st.rx.tail true sends inv (List.tail_suffix _)
  · -- nobody listens, and the group is gone
    obtain ⟨fromRelay, ordered, backlog, channel, broadcasted⟩ := inv
    simp only [sends, BroadcastPoint.pending, BroadcastPoint.inFlight, List.append_nil] at fromRelay ordered channel broadcasted
    rw [group_messages_append] at channel
    refine ⟨fun other listed => ?_, ordered, backlog, ?_, ?_⟩
    · simp only [BroadcastPoint.pending, BroadcastPoint.inFlight, List.append_nil, List.mem_append] at listed
      rcases listed with call | held
      · exact fromRelay other (by simp [call])
      · exact fromRelay other (by simp [held])
    · simp only [BroadcastPoint.inFlight, List.append_nil]
      exact (List.sublist_append_left _ _).trans channel
    · simp only [BroadcastPoint.inFlight, groupMessages, List.flatMap_nil, List.append_nil]
      exact (List.sublist_append_left _ _).trans broadcasted

theorem client_step_relay_invariant (st next : FeedServer) (inv : RelayInv st) (calls : next.calls = st.calls)
    (point : next.point = st.point) (backlog : next.backlog = st.backlog) (appended : next.appended = st.appended)
    (broadcasted : next.broadcasted = st.broadcasted) (rx : next.rx <:+ st.rx) : RelayInv next := by
  refine ⟨?_, ?_, ?_, ?_, ?_⟩
  · intro bm listed
    apply inv.fromRelay bm
    rw [calls, point] at listed
    rcases List.mem_append.mp listed with early | held
    · exact List.mem_append_left _ early
    · exact List.mem_append_right _ (rx.subset held)
  · rw [appended, point, calls]
    exact inv.ordered
  · rw [backlog, appended]
    exact inv.backlog
  · rw [appended, point]
    have shorter : (groupMessages (next.rx ++ st.point.inFlight)).Sublist (groupMessages (st.rx ++ st.point.inFlight)) :=
      (rx.sublist.append (List.Sublist.refl _)).flatMap feedMessages
    exact shorter.trans inv.channel
  · rw [broadcasted, point, appended]
    exact inv.broadcasted

theorem feed_step_relay_invariant (capacity : Nat) (fromSeq : UInt64) (st next : FeedServer) (inv : RelayInv st)
    (step : FeedStep capacity fromSeq st next) : RelayInv next := by
  have whole := inv.appended_increasing
  have backlogIncreasing := whole.sublist inv.backlog.sublist
  cases step with
  | confirm bm rest idle first =>
      obtain ⟨fromRelay, ordered, backlog, channel, broadcasted⟩ := inv
      simp only [idle, first, BroadcastPoint.pending, BroadcastPoint.inFlight, List.append_nil, List.nil_append]
        at fromRelay ordered channel broadcasted
      refine ⟨?_, ordered, ?_, ?_, ?_⟩
      · simpa [BroadcastPoint.pending, BroadcastPoint.inFlight, or_assoc, or_left_comm, or_comm] using fromRelay
      · change (match bm.confirmedSequenceNumberMessage with
          | none => st.backlog
          | some confirmed => backlogConfirm confirmed.sequenceNumber st.backlog) <:+ st.appended
        split
        · exact backlog
        · exact (filter_above_suffix BroadcastFeedMessage.sequenceNumber _ st.backlog backlogIncreasing).trans backlog
      · simpa only [BroadcastPoint.inFlight, List.append_nil] using channel
      · exact broadcasted
  | append bm appends =>
      obtain ⟨fromRelay, ordered, backlog, channel, broadcasted⟩ := inv
      simp only [appends, BroadcastPoint.pending, BroadcastPoint.inFlight, List.append_nil, List.singleton_append]
        at fromRelay ordered channel broadcasted
      have grown : (st.appended ++ feedMessages bm) ++ groupMessages st.calls =
          st.appended ++ groupMessages (bm :: st.calls) := by
        rw [groupMessages, groupMessages, List.flatMap_cons, List.append_assoc]
      refine ⟨?_, ?_, ?_, ?_, ?_⟩
      · simpa [BroadcastPoint.pending, BroadcastPoint.inFlight] using fromRelay
      · change Increasing BroadcastFeedMessage.sequenceNumber ((st.appended ++ feedMessages bm) ++ groupMessages ([] ++ st.calls))
        rwa [List.nil_append, grown]
      · have longer : Increasing BroadcastFeedMessage.sequenceNumber (st.backlog ++ feedMessages bm) := by
          rw [← grown] at ordered
          exact (List.pairwise_append.mp ordered).1.sublist (backlog.sublist.append (List.Sublist.refl _))
        change backlogAppend bm st.backlog <:+ st.appended ++ feedMessages bm
        rw [backlog_append_increasing bm st.backlog longer]
        obtain ⟨front, same⟩ := backlog
        exact ⟨front, by rw [← same, List.append_assoc]⟩
      · simp only [BroadcastPoint.inFlight, group_messages_append, group_messages_singleton]
        exact channel.append (List.Sublist.refl _)
      · simp only [groupMessages, List.flatMap_nil, List.append_nil] at broadcasted
        simp only [BroadcastPoint.inFlight, group_messages_singleton]
        exact broadcasted.append (List.Sublist.refl _)
  | send bm sends => exact channel_send_relay_invariant capacity bm st sends inv
  | subscribe connects => exact client_step_relay_invariant st _ inv rfl rfl rfl rfl rfl List.nil_suffix
  | takeSnapshot subscribed => exact client_step_relay_invariant st _ inv rfl rfl rfl rfl rfl (List.suffix_refl _)
  | backlogWritten backlog writes => exact client_step_relay_invariant st _ inv rfl rfl rfl rfl rfl (List.suffix_refl _)
  | backlogError backlog writes => exact client_step_relay_invariant st _ inv rfl rfl rfl rfl rfl (List.suffix_refl _)
  | receiveWritten bm rest runs current received due up =>
      exact client_step_relay_invariant st _ inv rfl rfl rfl rfl rfl (received ▸ List.suffix_cons bm rest)
  | receiveSkipped bm rest runs current received notDue =>
      exact client_step_relay_invariant st _ inv rfl rfl rfl rfl rfl (received ▸ List.suffix_cons bm rest)
  | disconnect => exact client_step_relay_invariant st _ inv rfl rfl rfl rfl rfl (List.suffix_refl _)

end Cas
