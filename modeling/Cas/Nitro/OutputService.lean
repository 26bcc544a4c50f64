import Cas.Nitro.Authenticity
import Cas.Nitro.FeedRelay
import Cas.Nitro.Finality
import Cas.Nitro.Payload
import Cas.Streamer.Outbound
import Cas.Streamer.Recovery

set_option autoImplicit false

namespace Cas

open SortedSlice

-- The tasks between Espresso and the subscribers: the L1 monitor, the streamer,
-- the relay and the feed server, with the channels that `run` lays between them.
-- `finalized` is the finalized height of L1 itself. `calls`, the calls that the
-- relay has made, is not in the source.
structure OutputService where
  finalized : UInt64
  monitor : FinalityMonitor
  outbound : Outbound Bytes NitroRollupQueueEntry BroadcastFeedMessage
  streamerSeen : Nat
  relay : RelayPoint
  relaySeen : Nat
  hub : FeedHub
  calls : List RelayCall

def OutputService.new (finalized : UInt64) (finalizedMessageChannelCapacity broadcastChannelCapacity : Nat) : OutputService :=
  ⟨finalized, .new, .new 0 finalizedMessageChannelCapacity, 0, .selecting, 0, .new broadcastChannelCapacity [], []⟩

def OutputService.call (st : OutputService) (call : RelayCall) : OutputService :=
  { st with hub := st.hub.call call, calls := st.calls ++ [call] }

def OutputService.withChannel (st : OutputService) (channel : Mpsc BroadcastFeedMessage) : OutputService :=
  { st with outbound := { st.outbound with channel := channel } }

section Service

variable (config : StreamerConfig) (external : External) (nitroConfig : NitroConfig) (inbox : SequencerInbox)

inductive ServiceStep : OutputService → OutputService → Prop where
  | finality (st : OutputService) (finalized : UInt64) (later : st.finalized ≤ finalized) :
      ServiceStep st { st with finalized := finalized }
  | poll (st : OutputService) (poll : FinalizedPoll) (truthful : Truthful inbox st.finalized poll) :
      ServiceStep st { st with monitor := pollFinalized st.monitor poll }
  | streamer (st : OutputService) (outbound : Outbound Bytes NitroRollupQueueEntry BroadcastFeedMessage)
      (step : BroadcastStep config (nitroRollup external nitroConfig).toRollup st.outbound outbound) :
      ServiceStep st { st with outbound := outbound }
  | finalization (st : OutputService) (mark : Nat) (reader : Reader Bytes) (idle : st.outbound.call = none)
      (changed : st.monitor.l1FinalizedMsgIdx.Changed st.streamerSeen mark) :
      ServiceStep st
        { st with
          outbound := st.outbound.finalize config (nitroRollup external nitroConfig).toRollup st.monitor.l1FinalizedMsgIdx.borrow reader
          streamerSeen := mark }
  | confirm (st : OutputService) (mark : Nat) (selects : st.relay = .selecting) (quiet : st.hub.shared.quiet)
      (changed : st.monitor.l1FinalizedMsgIdx.Changed st.relaySeen mark) :
      ServiceStep st ({ st with relaySeen := mark }.call (.confirm st.monitor.l1FinalizedMsgIdx.borrow))
  | receiveFirst (st : OutputService) (message : BroadcastFeedMessage) (channel : Mpsc BroadcastFeedMessage)
      (selects : st.relay = .selecting) (quiet : st.hub.shared.quiet) (received : st.outbound.channel.recv = some (message, channel)) :
      ServiceStep st ({ st with relay := .draining [message] }.withChannel channel)
  | receiveMore (st : OutputService) (pendingMessages : List BroadcastFeedMessage) (message : BroadcastFeedMessage)
      (channel : Mpsc BroadcastFeedMessage) (drains : st.relay = .draining pendingMessages)
      (received : st.outbound.channel.recv = some (message, channel)) :
      ServiceStep st ({ st with relay := .draining (pendingMessages ++ [message]) }.withChannel channel)
  | broadcast (st : OutputService) (pendingMessages : List BroadcastFeedMessage) (drains : st.relay = .draining pendingMessages)
      (drained : st.outbound.channel.recv = none) :
      ServiceStep st ({ st with relay := .selecting }.call (.broadcastFeedMessages pendingMessages))
  -- the upstream client has ended, or a sender is gone
  | returns (st : OutputService) (selects : st.relay = .selecting) :
      ServiceStep st ({ st with relay := .returned }.withChannel st.outbound.channel.close)
  | serve (st : OutputService) (hub : FeedHub) (step : HubStep st.hub hub) : ServiceStep st { st with hub := hub }

structure ServiceInv (st : OutputService) : Prop where
  monitor : MonitorInv inbox st.finalized st.monitor
  outbound : OutboundInv config (nitroRollup external nitroConfig).toRollup 0 st.outbound
  hub : HubInv (st.calls.map RelayCall.broadcastMessage) st.hub
  ledger : HubLedger (st.calls.map RelayCall.broadcastMessage) st.hub
  groups : st.calls.flatMap RelayCall.messages ++ st.relay.pendingMessages = st.outbound.channel.received
  finalizations : ∀ idx reader, .finalization idx reader ∈ st.outbound.history → Settled inbox st.finalized idx
  confirmations : ∀ idx, .confirm idx ∈ st.calls → Settled inbox st.finalized idx

theorem new_service_invariant (finalized : UInt64) (finalizedMessageChannelCapacity broadcastChannelCapacity : Nat) :
    ServiceInv config external nitroConfig inbox (.new finalized finalizedMessageChannelCapacity broadcastChannelCapacity) where
  monitor := new_monitor_invariant inbox finalized
  outbound := new_outbound_invariant config _ 0 finalizedMessageChannelCapacity
  hub := new_hub_invariant broadcastChannelCapacity []
  ledger := new_hub_ledger broadcastChannelCapacity
  groups := rfl
  finalizations := fun _ _ member => absurd member List.not_mem_nil
  confirmations := fun _ member => absurd member List.not_mem_nil

theorem broadcast_step_frame (rollup : Rollup Bytes NitroRollupQueueEntry BroadcastFeedMessage)
    (st next : Outbound Bytes NitroRollupQueueEntry BroadcastFeedMessage) (step : BroadcastStep config rollup st next) :
    next.channel.received = st.channel.received ∧
      ∀ idx reader, .finalization idx reader ∈ next.history → .finalization idx reader ∈ st.history := by
  have same : ∀ (call : BroadcastCall Bytes NitroRollupQueueEntry) (send : Nat → TrySend) (idx : UInt64) (reader : Reader Bytes),
      .finalization idx reader ∈ st.history ++ [call.cause.event send] → .finalization idx reader ∈ st.history := by
    intro call send idx reader member
    rcases List.mem_append.mp member with old | new
    · exact old
    · cases cause : call.cause <;> simp [cause, BroadcastCause.event] at new
  cases step with
  | deliver transactions height idle => exact ⟨rfl, fun _ _ member => member⟩
  | retry signals idle signalled => exact ⟨rfl, fun _ _ member => member⟩
  | sendAccepted call entry rest channel sends first accepted =>
      exact ⟨(Mpsc.try_send_accepted st.channel channel _ accepted).received, fun _ _ member => member⟩
  | sendFull call entry rest sends first full =>
      unfold Outbound.schedule
      split
      · exact ⟨rfl, same call _⟩
      · exact ⟨rfl, same call _⟩
  | sendClosed call entry rest sends first closed => exact ⟨rfl, same call _⟩
  | sentAll call sends done => exact ⟨rfl, same call _⟩
  | wake sleeping asleep room => exact ⟨rfl, fun _ _ member => member⟩

theorem call_service_invariant (st : OutputService) (call : RelayCall) (relay : RelayPoint) (relaySeen : Nat)
    (inv : ServiceInv config external nitroConfig inbox st)
    (groups : call.messages ++ relay.pendingMessages = st.relay.pendingMessages)
    (confirmation : ∀ idx, call = .confirm idx → Settled inbox st.finalized idx) :
    ServiceInv config external nitroConfig inbox ({ st with relay := relay, relaySeen := relaySeen }.call call) where
  monitor := inv.monitor
  outbound := inv.outbound
  hub := by
    simp only [OutputService.call, List.map_append, List.map_cons, List.map_nil]
    exact call_hub_invariant _ st.hub call inv.hub
  ledger := by
    simp only [OutputService.call, List.map_append, List.map_cons, List.map_nil]
    exact call_hub_ledger _ st.hub call inv.ledger
  groups := by
    simp only [OutputService.call, List.flatMap_append, List.flatMap_cons, List.flatMap_nil, List.append_nil, List.append_assoc, groups]
    exact inv.groups
  finalizations := inv.finalizations
  confirmations := fun idx member => by
    rcases List.mem_append.mp member with old | new
    · exact inv.confirmations idx old
    · exact confirmation idx (List.mem_singleton.mp new).symm

theorem receive_service_invariant (st : OutputService) (message : BroadcastFeedMessage) (channel : Mpsc BroadcastFeedMessage)
    (inv : ServiceInv config external nitroConfig inbox st) (received : st.outbound.channel.recv = some (message, channel)) :
    ServiceInv config external nitroConfig inbox
      ({ st with relay := .draining (st.relay.pendingMessages ++ [message]) }.withChannel channel) := by
  have taken := Mpsc.recv_taken st.outbound.channel channel message received
  exact {
    monitor := inv.monitor
    outbound := channel_invariant config _ 0 st.outbound channel inv.outbound taken.sent fun isOpen => taken.closed.symm.trans isOpen
    hub := inv.hub
    ledger := inv.ledger
    groups := by
      change st.calls.flatMap RelayCall.messages ++ (st.relay.pendingMessages ++ [message]) = channel.received
      rw [taken.received, ← inv.groups, List.append_assoc]
    finalizations := inv.finalizations
    confirmations := inv.confirmations }

theorem service_step_invariant (st next : OutputService) (inv : ServiceInv config external nitroConfig inbox st)
    (step : ServiceStep config external nitroConfig inbox st next) : ServiceInv config external nitroConfig inbox next := by
  cases step with
  | finality finalized later =>
      exact { inv with
        monitor := monitor_invariant_later inbox st.finalized finalized st.monitor later inv.monitor
        finalizations := fun idx reader member => settled_grows inbox _ _ idx later (inv.finalizations idx reader member)
        confirmations := fun idx member => settled_grows inbox _ _ idx later (inv.confirmations idx member) }
  | poll poll truthful => exact { inv with monitor := poll_monitor_invariant inbox st.finalized st.monitor poll truthful inv.monitor }
  | streamer outbound step =>
      obtain ⟨received, finalizations⟩ := broadcast_step_frame config _ st.outbound outbound step
      exact { inv with
        outbound := broadcast_step_invariant config _ 0 st.outbound outbound inv.outbound step
        groups := inv.groups.trans received.symm
        finalizations := fun idx reader member => inv.finalizations idx reader (finalizations idx reader member) }
  | finalization mark reader idle changed =>
      exact { inv with
        outbound := finalize_invariant config _ 0 _ reader st.outbound inv.outbound idle
        finalizations := fun idx other member => by
          rcases List.mem_append.mp member with old | new
          · exact inv.finalizations idx other old
          · obtain ⟨rfl, -⟩ := StreamerEvent.finalization.inj (List.mem_singleton.mp new)
            exact borrow_settled inbox st.finalized st.monitor inv.monitor }
  | confirm mark selects quiet changed =>
      refine call_service_invariant config external nitroConfig inbox st (.confirm _) st.relay mark inv rfl fun idx same => ?_
      obtain rfl := RelayCall.confirm.inj same
      exact borrow_settled inbox st.finalized st.monitor inv.monitor
  | receiveFirst message channel selects quiet received =>
      have next := receive_service_invariant config external nitroConfig inbox st message channel inv received
      rw [selects] at next
      exact next
  | receiveMore pendingMessages message channel drains received =>
      have next := receive_service_invariant config external nitroConfig inbox st message channel inv received
      rw [drains] at next
      exact next
  | broadcast pendingMessages drains drained =>
      refine call_service_invariant config external nitroConfig inbox st (.broadcastFeedMessages pendingMessages) .selecting
        st.relaySeen inv ?_ ?_
      · rw [drains]
        exact List.append_nil _
      · exact fun idx same => by cases same
  | returns selects =>
      exact { inv with
        outbound := channel_invariant config _ 0 st.outbound _ inv.outbound rfl fun isOpen => by cases isOpen
        groups := by
          have groups := inv.groups
          rw [selects] at groups
          exact groups }
  | serve hub step =>
      exact { inv with
        hub := hub_step_invariant _ st.hub hub inv.hub step
        ledger := hub_step_ledger _ st.hub hub inv.ledger step }

theorem reached_service_invariant (finalized : UInt64) (finalizedMessageChannelCapacity broadcastChannelCapacity : Nat) (st : OutputService)
    (reached : Relation.ReflTransGen (ServiceStep config external nitroConfig inbox)
      (.new finalized finalizedMessageChannelCapacity broadcastChannelCapacity) st) : ServiceInv config external nitroConfig inbox st :=
  History.reachable_invariant _ (ServiceInv config external nitroConfig inbox) (service_step_invariant config external nitroConfig inbox)
    _ st reached
    (new_service_invariant config external nitroConfig inbox finalized finalizedMessageChannelCapacity broadcastChannelCapacity)

def OutputService.inTransit (st : OutputService) (client : Connection) : List BroadcastFeedMessage :=
  groupMessages (st.hub.shared.ring.window client.position ++ st.hub.shared.point.inFlight) ++
    groupMessages (st.hub.shared.point.pending ++ st.hub.shared.calls) ++ st.relay.pendingMessages ++ st.outbound.channel.buffer

theorem group_messages_calls (calls : List RelayCall) :
    groupMessages (calls.map RelayCall.broadcastMessage) = calls.flatMap RelayCall.messages := by
  rw [groupMessages, List.flatMap_map]
  simp only [feed_messages_relay]

theorem broadcast_increasing (st : Outbound Bytes NitroRollupQueueEntry BroadcastFeedMessage)
    (inv : OutboundInv config (nitroRollup external nitroConfig).toRollup 0 st) :
    Increasing BroadcastFeedMessage.sequenceNumber st.streamer.broadcast ∧ ∀ m ∈ st.streamer.broadcast, 0 < m.sequenceNumber := by
  obtain ⟨last, run, -⟩ := outbound_streamer_run config _ 0 st inv
  have recounts := run_streamer_recounts config (nitroRollup external nitroConfig).toRollup (.new 0) (st.history ++ last)
    (new_streamer_invariant config 0)
  obtain ⟨above, increasing⟩ := follows_position_above _ _ recounts.follows
  have sent := recounts.broadcast
  rw [run, runStreamer, sent]
  refine ⟨List.pairwise_map.mpr increasing, fun m member => ?_⟩
  obtain ⟨entry, listed, rfl⟩ := List.mem_map.mp member
  exact above entry listed

section Delivered

variable (st : OutputService) (inv : ServiceInv config external nitroConfig inbox st)

include inv

theorem broadcast_split :
    st.outbound.streamer.broadcast =
      st.hub.shared.appended ++ groupMessages (st.hub.shared.point.pending ++ st.hub.shared.calls) ++ st.relay.pendingMessages ++
        st.outbound.channel.buffer := by
  rw [inv.outbound.broadcast, st.outbound.channel.accounted, ← inv.groups, inv.ledger.appended, group_messages_calls]

theorem calls_increasing : Increasing BroadcastFeedMessage.sequenceNumber (st.calls.flatMap RelayCall.messages) := by
  refine (broadcast_increasing config external nitroConfig st.outbound inv.outbound).1.sublist ?_
  rw [broadcast_split config external nitroConfig inbox st inv, inv.ledger.appended, group_messages_calls, List.append_assoc]
  exact List.sublist_append_left _ _

theorem confirmed_settled (number : UInt64) (confirmed : number ∈ st.hub.shared.confirmed) : Settled inbox st.finalized number := by
  obtain ⟨bm, listed, confirms⟩ := inv.ledger.confirmed number confirmed
  obtain ⟨call, made, rfl⟩ := List.mem_map.mp listed
  cases call with
  | broadcastFeedMessages messages => cases confirms
  | confirm msgIdx =>
      obtain rfl : msgIdx = number := by simpa [RelayCall.broadcastMessage] using confirms
      exact inv.confirmations msgIdx made

end Delivered

theorem settled_below (finalized number seq : UInt64) (settled : Settled inbox finalized number) (below : seq ≤ number)
    (positive : 0 < seq) : seq < inbox.messageCount finalized := by
  rcases settled with rfl | counted
  · exact absurd positive (not_lt.mpr below)
  · exact lt_of_le_of_lt below counted

/-- In every interleaving of the monitor, the streamer, the relay, the server and its clients, a client is sent messages of the
streamer only, in increasing order; and while it is connected and keeps up, every message of the streamer that it asked
for has been sent to it, is on its way to it, or stands in a batch that is final on L1. -/
theorem subscribers_get_broadcasts (finalized : UInt64) (finalizedMessageChannelCapacity broadcastChannelCapacity : Nat)
    (st : OutputService)
    (reached : Relation.ReflTransGen (ServiceStep config external nitroConfig inbox)
      (.new finalized finalizedMessageChannelCapacity broadcastChannelCapacity) st)
    (client : Connection) (connected : client ∈ st.hub.clients) :
    (client.written.Pairwise fun a b => a.sequenceNumber < b.sequenceNumber) ∧
    (∀ m ∈ client.written, m ∈ st.outbound.streamer.broadcast) ∧
    (client.phase = .running → client.linkUp = true → st.hub.shared.ring.lagged client.position = false →
      ∀ m ∈ st.outbound.streamer.broadcast, client.requested ≤ m.sequenceNumber →
        m ∈ client.written ∨ m ∈ st.inTransit client ∨ m.sequenceNumber < inbox.messageCount st.finalized) := by
  have inv := reached_service_invariant config external nitroConfig inbox finalized _ _ st reached
  have ordered := calls_increasing config external nitroConfig inbox st inv
  have split := broadcast_split config external nitroConfig inbox st inv
  have positive := (broadcast_increasing config external nitroConfig st.outbound inv.outbound).2
  have delivery := simulated_delivery st.calls ordered st.hub.shared client (inv.hub.connected client connected)
  refine ⟨delivery.increasing, fun m member => ?_, fun runs up current m member low => ?_⟩
  · rw [split]
    simp only [List.append_assoc]
    exact List.mem_append_left _ (delivery.appended m member)
  · have later := positive m member
    rw [split] at member
    simp only [OutputService.inTransit, List.mem_append] at member ⊢
    rcases member with ((appended | waiting) | relayed) | buffered
    · rcases delivery.complete runs up current m appended low with written | ⟨confirmed, known, below⟩ | sent
      · exact .inl written
      · have settled := confirmed_settled config external nitroConfig inbox st inv confirmed
          (inv.ledger.remembered client connected confirmed known)
        exact .inr (.inr (settled_below inbox _ confirmed _ settled below later))
      · exact .inr (.inl (.inl (.inl (.inl sent))))
    · exact .inr (.inl (.inl (.inl (.inr waiting))))
    · exact .inr (.inl (.inl (.inr relayed)))
    · exact .inr (.inl (.inr buffered))

def AuthenticMessage (message : BroadcastFeedMessage) : Prop :=
  verifyBroadcastFeedMessageSignature external nitroConfig.chainId nitroConfig.trustedSequencerAddresses message = .ok () ∨
    ∃ txPayload entry, LegacySigned external nitroConfig txPayload entry ∧ entry.feedMessage = message

theorem parsed_authentic (txns : List (List Bytes)) (height : UInt64) (entry : NitroRollupQueueEntry)
    (member : entry ∈ (nitroRollup external nitroConfig).parseHotshotTransactions txns height) :
    AuthenticMessage external nitroConfig entry.feedMessage := by
  rw [parse_numbered] at member
  obtain ⟨⟨block, index⟩, -, inside⟩ := List.mem_flatMap.mp member
  obtain ⟨txPayload, -, parsed⟩ := List.mem_flatMap.mp inside
  rw [← parse_transaction_height external nitroConfig txPayload _ entry parsed] at parsed
  exact (parse_transaction_authentic external nitroConfig txPayload entry parsed).imp_right fun signed => ⟨txPayload, entry, signed, rfl⟩

/-- Whatever the Espresso node delivers and re-fetches and however the tasks interleave, no client is ever sent a message that
is neither signed by a trusted sequencer nor part of a payload signed by a legacy signer. -/
theorem only_authentic_sent (finalized : UInt64) (finalizedMessageChannelCapacity broadcastChannelCapacity : Nat)
    (st : OutputService)
    (reached : Relation.ReflTransGen (ServiceStep config external nitroConfig inbox)
      (.new finalized finalizedMessageChannelCapacity broadcastChannelCapacity) st)
    (client : Connection) (connected : client ∈ st.hub.clients) (message : BroadcastFeedMessage) (sent : message ∈ client.written) :
    AuthenticMessage external nitroConfig message := by
  have inv := reached_service_invariant config external nitroConfig inbox finalized _ _ st reached
  have delivery := simulated_delivery st.calls (calls_increasing config external nitroConfig inbox st inv) st.hub.shared client
    (inv.hub.connected client connected)
  have broadcast : message ∈ st.outbound.streamer.broadcast := by
    rw [broadcast_split config external nitroConfig inbox st inv]
    simp only [List.append_assoc]
    exact List.mem_append_left _ (delivery.appended message sent)
  obtain ⟨last, run, -⟩ := outbound_streamer_run config _ 0 st.outbound inv.outbound
  rw [run] at broadcast
  obtain ⟨entry, authentic, rfl⟩ := (run_streamer_sourced config (nitroRollup external nitroConfig).toRollup
    (fun entry => AuthenticMessage external nitroConfig entry.feedMessage) (parsed_authentic external nitroConfig) 0 _).broadcast message broadcast
  exact authentic

/-- In every interleaving, what the service drops is final on L1: a message tracked at any time is still tracked at the same
height, and a message in the server's history is still in its backlog, unless it stands in a final batch. -/
theorem nothing_unfinalized_pruned (finalized : UInt64) (finalizedMessageChannelCapacity broadcastChannelCapacity : Nat)
    (st : OutputService)
    (reached : Relation.ReflTransGen (ServiceStep config external nitroConfig inbox)
      (.new finalized finalizedMessageChannelCapacity broadcastChannelCapacity) st) :
    (∀ earlier, earlier <+: st.outbound.history → ∀ seq height, inbox.messageCount st.finalized ≤ seq →
      TrackedAt (runStreamer config (nitroRollup external nitroConfig).toRollup 0 earlier) seq height →
        TrackedAt st.outbound.streamer seq height) ∧
    ∀ m ∈ st.hub.shared.appended, inbox.messageCount st.finalized ≤ m.sequenceNumber → m ∈ st.hub.shared.backlog := by
  have inv := reached_service_invariant config external nitroConfig inbox finalized _ _ st reached
  have unsettled : ∀ number seq : UInt64, inbox.messageCount st.finalized ≤ seq → Settled inbox st.finalized number →
      number = 0 ∨ number < seq :=
    fun number seq open' settled => settled.imp_right fun below => lt_of_lt_of_le below open'
  constructor
  · intro earlier early seq height open' tracked
    obtain ⟨rest, history⟩ := early
    obtain ⟨last, run, silent⟩ := outbound_streamer_run config _ 0 st.outbound inv.outbound
    rw [run, ← history, List.append_assoc]
    refine run_keeps_tracked_at config (nitroRollup external nitroConfig) 0 earlier (rest ++ last) seq height
      (fun idx reader member => ?_) tracked
    rcases List.mem_append.mp member with handled | pending
    · exact unsettled idx seq open' (inv.finalizations idx reader (history ▸ List.mem_append_right _ handled))
    · exact absurd pending (silent idx reader)
  · intro m member open'
    have split := broadcast_split config external nitroConfig inbox st inv
    have positive : 0 < m.sequenceNumber := by
      refine (broadcast_increasing config external nitroConfig st.outbound inv.outbound).2 m ?_
      rw [split]
      simp only [List.append_assoc]
      exact List.mem_append_left _ member
    have ordered := calls_increasing config external nitroConfig inbox st inv
    rcases backlog_complete st.calls ordered st.hub inv.hub m member with kept | ⟨number, confirmed, below⟩
    · exact kept
    · have settled := confirmed_settled config external nitroConfig inbox st inv number confirmed
      exact absurd (settled_below inbox _ number _ settled below positive) (not_lt.mpr open')

end Service

-- Batches up to message 12344 are final at block 7. Message 12345 is read from Espresso, relayed, and found in the backlog
-- by a client that asks for it.
def countedInbox : SequencerInbox := ⟨fun _ => 12345, fun _ _ _ => le_rfl⟩

def pollSeven : FinalizedPoll := ⟨.ok (some 7), fun _ => .ok 12345⟩

def upstreamCause : BroadcastCause Bytes := .delivery [[v1Payload [defaultJson]]] 1

def finalizedOutbound : Outbound Bytes NitroRollupQueueEntry BroadcastFeedMessage :=
  (Outbound.new 0 4).finalize ⟨12345, 2⟩ defaultRollup.toRollup 12344 fun _ _ => none

def deliveredOutbound : Outbound Bytes NitroRollupQueueEntry BroadcastFeedMessage :=
  finalizedOutbound.begin ⟨12345, 2⟩ defaultRollup.toRollup upstreamCause

def sentOutbound : Outbound Bytes NitroRollupQueueEntry BroadcastFeedMessage :=
  { deliveredOutbound with
    streamer := { deliveredOutbound.streamer with
      lastBroadcastPosition := 12345
      broadcast := deliveredOutbound.streamer.broadcast ++ [defaultFeedMessage] }
    call := some ⟨upstreamCause, [], [⟨defaultFeedMessage, 1⟩]⟩
    channel := ⟨4, [defaultFeedMessage], false, [defaultFeedMessage], [], by decide, rfl⟩ }

def finishedOutbound : Outbound Bytes NitroRollupQueueEntry BroadcastFeedMessage :=
  sentOutbound.finish ⟨upstreamCause, [], [⟨defaultFeedMessage, 1⟩]⟩ .accepted

def upstreamClient : Connection := ⟨12345, .running, 1, true, some 12345, [defaultFeedMessage], [defaultFeedMessage], [], 1⟩

def servedService : OutputService where
  finalized := 7
  monitor := ⟨7, ⟨0, [12344]⟩⟩
  outbound := { finishedOutbound with channel := ⟨4, [], false, [defaultFeedMessage], [defaultFeedMessage], by decide, rfl⟩ }
  streamerSeen := 1
  relay := .selecting
  relaySeen := 0
  hub :=
    { shared := ⟨[], .idle, [defaultFeedMessage],
        (FeedHub.new 2 []).shared.ring.push (RelayCall.broadcastFeedMessages [defaultFeedMessage]).broadcastMessage, [defaultFeedMessage], []⟩
      clients := [upstreamClient]
      clientCount := 1
      abandoned := 0 }
  calls := [.broadcastFeedMessages [defaultFeedMessage]]

theorem served_service_reached :
    Relation.ReflTransGen (ServiceStep ⟨12345, 2⟩ defaultExternal ⟨[], 0xa4b1, [upstreamSigner]⟩ countedInbox)
      (.new 7 4 2) servedService := by
  have found : findContiguousEntriesAfter deliveredOutbound.streamer.queue deliveredOutbound.streamer.lastBroadcastPosition =
      [⟨defaultFeedMessage, 1⟩] := by decide +kernel
  have sends : deliveredOutbound.call = some ⟨upstreamCause, [⟨defaultFeedMessage, 1⟩], []⟩ := by
    rw [← found]
    rfl
  have truthful : Truthful countedInbox 7 pollSeven := by
    refine ⟨fun block answer => ?_, fun block count _ answer => (Except.ok.inj answer).symm⟩
    exact le_of_eq (Option.some.inj (Except.ok.inj answer)).symm
  refine .head (.poll _ pollSeven truthful) <| .head (.finalization _ 1 (fun _ _ => none) rfl ⟨by decide, by decide⟩) <|
    .head (.streamer _ deliveredOutbound (.deliver _ _ _ rfl)) <|
    .head (.streamer _ sentOutbound (.sendAccepted deliveredOutbound _ ⟨defaultFeedMessage, 1⟩ [] sentOutbound.channel sends rfl rfl)) <|
    .head (.streamer _ finishedOutbound (.sentAll sentOutbound _ rfl rfl)) <|
    .head (.receiveFirst _ defaultFeedMessage _ rfl ⟨rfl, rfl⟩ rfl) <| .head (.broadcast _ _ rfl rfl) <|
    .head (.serve _ _ (.relay _ _ (.confirm _ _ _ rfl rfl))) <| .head (.serve _ _ (.relay _ _ (.append _ _ rfl))) <|
    .head (.serve _ _ (.relay _ _ (.send _ _ rfl))) <| .head (.serve _ _ (.accept _ 12345)) <|
    .head (.serve _ _ (.serve _ 0 _ _ rfl (.subscribe _ rfl))) <| .head (.serve _ _ (.serve _ 0 _ _ rfl (.takeSnapshot _ rfl))) <|
    .head (.serve _ _ (.serve _ 0 _ _ rfl (.backlogWritten _ _ rfl))) ?_
  exact .refl

theorem client_got_upstream :
    defaultFeedMessage ∈ servedService.outbound.streamer.broadcast ∧
      (defaultFeedMessage ∈ upstreamClient.written ∨ defaultFeedMessage ∈ servedService.inTransit upstreamClient ∨ (12345 : UInt64) < 12345) := by
  have member : defaultFeedMessage ∈ servedService.outbound.streamer.broadcast := List.mem_append_right _ (List.mem_singleton.mpr rfl)
  have current : servedService.hub.shared.ring.lagged 1 = false := by
    have none_lost : servedService.hub.shared.ring.oldest = 0 := Nat.sub_eq_zero_of_le (FeedHub.new 2 []).shared.ring.positive
    rw [BroadcastRing.lagged, none_lost]
    rfl
  exact ⟨member, (subscribers_get_broadcasts ⟨12345, 2⟩ defaultExternal ⟨[], 0xa4b1, [upstreamSigner]⟩ countedInbox 7 4 2 servedService
    served_service_reached upstreamClient (List.mem_singleton.mpr rfl)).2.2 rfl rfl current defaultFeedMessage member le_rfl⟩

theorem served_upstream_authentic : AuthenticMessage defaultExternal ⟨[], 0xa4b1, [upstreamSigner]⟩ defaultFeedMessage :=
  only_authentic_sent ⟨12345, 2⟩ defaultExternal ⟨[], 0xa4b1, [upstreamSigner]⟩ countedInbox 7 4 2 servedService
    served_service_reached upstreamClient (List.mem_singleton.mpr rfl) defaultFeedMessage (List.mem_singleton.mpr rfl)

theorem upstream_not_pruned :
    TrackedAt servedService.outbound.streamer 12345 1 ∧ defaultFeedMessage ∈ servedService.hub.shared.backlog := by
  have kept := nothing_unfinalized_pruned ⟨12345, 2⟩ defaultExternal ⟨[], 0xa4b1, [upstreamSigner]⟩ countedInbox 7 4 2 servedService
    served_service_reached
  have queue : (runStreamer ⟨12345, 2⟩ defaultRollup.toRollup 0 servedService.outbound.history).queue = [⟨defaultFeedMessage, 1⟩] := by
    decide +kernel
  refine ⟨kept.1 _ (List.prefix_refl _) 12345 1 le_rfl (.inl ⟨⟨defaultFeedMessage, 1⟩, ?_, rfl, rfl⟩),
    kept.2 defaultFeedMessage (List.mem_singleton.mpr rfl) le_rfl⟩
  exact queue ▸ List.mem_singleton.mpr rfl

end Cas
