import Cas.Streamer.Outbound
import Cas.Streamer.Recovery

set_option autoImplicit false

namespace Cas

variable {Transaction Entry FeedMessage : Type} [RollupQueueEntry Entry]

-- One pass of the polling loop up to its send.
def fetchRange (fromBlock : UInt64) (round : PollRound Transaction) : Option (Delivery Transaction) :=
  match round.blockHeight with
  | .error _ => none
  | .ok latestBlockHeight =>
      if latestBlockHeight ≤ fromBlock then none
      else
        match round.namespaceTransactionsInRange fromBlock (pollEnd fromBlock latestBlockHeight) with
        | .error _ => none
        | .ok transactions => some ⟨transactions, fromBlock, pollEnd fromBlock latestBlockHeight, latestBlockHeight⟩

def Delivery.message (delivery : Delivery Transaction) : List (List Transaction) × UInt64 := (delivery.transactions, delivery.fromBlock)

def Poller.advance (st : Poller Transaction) (delivery : Delivery Transaction) : Poller Transaction :=
  { st with fromBlock := delivery.toBlock, sent := st.sent ++ [delivery] }

-- `Streamer::run` with the poller it spawns. `fetched` is the range the poller waits to send, with the answers that gave it.
-- `rounds` is not in the source: the answers of the passes the poller has completed.
structure Inbound (Transaction Entry FeedMessage : Type) where
  poller : Poller Transaction
  fetched : Option (PollRound Transaction × Delivery Transaction)
  channel : Mpsc (List (List Transaction) × UInt64)
  outbound : Outbound Transaction Entry FeedMessage
  rounds : List (PollRound Transaction)

def Inbound.new (startingHotshotHeight finalizedIdx : UInt64) (hotshotTransactionChannelCapacity finalizedMessageChannelCapacity : Nat) :
    Inbound Transaction Entry FeedMessage :=
  ⟨.init startingHotshotHeight, none, .new hotshotTransactionChannelCapacity, .new finalizedIdx finalizedMessageChannelCapacity, []⟩

-- The poller and the streamer in any interleaving. A verification changes neither. The poller awaits room in the
-- channel; its receiver goes only when the service drops the streamer, since `run` returns no earlier than the poller.
inductive InboundStep (config : StreamerConfig) (rollup : Rollup Transaction Entry FeedMessage) :
    Inbound Transaction Entry FeedMessage → Inbound Transaction Entry FeedMessage → Prop where
  | pollNothing (st : Inbound Transaction Entry FeedMessage) (round : PollRound Transaction) (running : st.poller.stopped = false)
      (idle : st.fetched = none) (nothing : fetchRange st.poller.fromBlock round = none) :
      InboundStep config rollup st { st with rounds := st.rounds ++ [round] }
  | pollFetched (st : Inbound Transaction Entry FeedMessage) (round : PollRound Transaction) (delivery : Delivery Transaction)
      (running : st.poller.stopped = false) (idle : st.fetched = none) (found : fetchRange st.poller.fromBlock round = some delivery) :
      InboundStep config rollup st { st with fetched := some (round, delivery) }
  | send (st : Inbound Transaction Entry FeedMessage) (round : PollRound Transaction) (delivery : Delivery Transaction)
      (channel : Mpsc (List (List Transaction) × UInt64)) (waits : st.fetched = some (round, delivery))
      (accepted : st.channel.trySend delivery.message = .ok channel) :
      InboundStep config rollup st
        { st with
          poller := st.poller.advance delivery
          fetched := none
          channel := channel
          rounds := st.rounds ++ [{ round with channelOpen := true }] }
  | sendRefused (st : Inbound Transaction Entry FeedMessage) (round : PollRound Transaction) (delivery : Delivery Transaction)
      (waits : st.fetched = some (round, delivery)) (refused : st.channel.trySend delivery.message = .error .closed) :
      InboundStep config rollup st
        { st with
          poller := { st.poller with stopped := true }
          fetched := none
          rounds := st.rounds ++ [{ round with channelOpen := false }] }
  | receive (st : Inbound Transaction Entry FeedMessage) (delivered : List (List Transaction) × UInt64)
      (channel : Mpsc (List (List Transaction) × UInt64)) (alive : st.channel.closed = false) (idle : st.outbound.call = none)
      (received : st.channel.recv = some (delivered, channel)) :
      InboundStep config rollup st
        { st with channel := channel, outbound := st.outbound.begin config rollup (.delivery delivered.1 delivered.2) }
  | streamer (st : Inbound Transaction Entry FeedMessage) (next : Outbound Transaction Entry FeedMessage)
      (alive : st.channel.closed = false) (step : OutboundStep config rollup st.outbound next)
      (other : ∀ transactions height, next ≠ st.outbound.begin config rollup (.delivery transactions height)) :
      InboundStep config rollup st { st with outbound := next }
  | dropped (st : Inbound Transaction Entry FeedMessage) : InboundStep config rollup st { st with channel := st.channel.close }

theorem poll_fetched (st : Poller Transaction) (round : PollRound Transaction) (running : st.stopped = false) :
    pollHotshotBlocks st round =
      match fetchRange st.fromBlock round with
      | none => st
      | some delivery => if round.channelOpen then st.advance delivery else { st with stopped := true } := by
  unfold pollHotshotBlocks fetchRange
  rw [running, if_neg Bool.false_ne_true]
  cases height : round.blockHeight with
  | error reason => rfl
  | ok latestBlockHeight =>
      simp only
      by_cases current : latestBlockHeight ≤ st.fromBlock
      · rw [if_pos current, if_pos current]
      · rw [if_neg current, if_neg current]
        cases answered : round.namespaceTransactionsInRange st.fromBlock (pollEnd st.fromBlock latestBlockHeight) with
        | error reason => cases reason <;> rfl
        | ok transactions => simp only [Poller.advance, running]

theorem fetch_range_channel (fromBlock : UInt64) (round : PollRound Transaction) (channelOpen : Bool) :
    fetchRange fromBlock { round with channelOpen := channelOpen } = fetchRange fromBlock round := rfl

def BroadcastCause.delivered : BroadcastCause Transaction → Option (List (List Transaction) × UInt64)
  | .delivery transactions height => some (transactions, height)
  | .retry => none

-- What the streamer has taken from the poller: with a call in progress, that of the call as well.
def Outbound.deliveries (st : Outbound Transaction Entry FeedMessage) : List (List (List Transaction) × UInt64) :=
  st.history.filterMap StreamerEvent.delivered ++ (st.call.bind fun call => call.cause.delivered).toList

theorem cause_event_delivered (cause : BroadcastCause Transaction) (send : Nat → TrySend) :
    (cause.event send).delivered = cause.delivered := by
  cases cause <;> rfl

theorem begin_deliveries (config : StreamerConfig) (rollup : Rollup Transaction Entry FeedMessage) (cause : BroadcastCause Transaction)
    (st : Outbound Transaction Entry FeedMessage) (idle : st.call = none) :
    (st.begin config rollup cause).deliveries = st.deliveries ++ cause.delivered.toList := by
  rw [Outbound.deliveries, Outbound.deliveries, idle, Option.bind_none, Option.toList_none, List.append_nil]
  rfl

omit [RollupQueueEntry Entry] in
theorem finish_deliveries (st : Outbound Transaction Entry FeedMessage) (call : BroadcastCall Transaction Entry) (answer : TrySend)
    (calling : st.call = some call) : (st.finish call answer).deliveries = st.deliveries := by
  rw [Outbound.deliveries, Outbound.deliveries, calling, Outbound.finish, List.filterMap_append, List.filterMap_cons,
    cause_event_delivered, Option.bind_none, Option.bind_some, Option.toList_none, List.append_nil]
  cases call.cause.delivered <;> rfl

omit [RollupQueueEntry Entry] in
theorem schedule_deliveries (st : Outbound Transaction Entry FeedMessage) : st.schedule.deliveries = st.deliveries := by
  unfold Outbound.schedule
  split <;> rfl

omit [RollupQueueEntry Entry] in
theorem schedule_call (st : Outbound Transaction Entry FeedMessage) : st.schedule.call = st.call := by
  unfold Outbound.schedule
  split <;> rfl

theorem outbound_step_deliveries (config : StreamerConfig) (rollup : Rollup Transaction Entry FeedMessage)
    (st next : Outbound Transaction Entry FeedMessage) (step : OutboundStep config rollup st next)
    (other : ∀ transactions height, next ≠ st.begin config rollup (.delivery transactions height)) : next.deliveries = st.deliveries := by
  cases step with
  | own _ step =>
      cases step with
      | deliver transactions height idle => exact absurd rfl (other transactions height)
      | retry signals idle signalled =>
          exact (begin_deliveries config rollup .retry { st with signals := signals } idle).trans (List.append_nil _)
      | sendAccepted call entry rest channel sends first accepted =>
          rw [Outbound.deliveries, Outbound.deliveries, sends]
          rfl
      | sendFull call entry rest sends first full =>
          rw [finish_deliveries _ call .full ((schedule_call st).trans sends), schedule_deliveries]
      | sendClosed call entry rest sends first closed => exact finish_deliveries st call .closed sends
      | sentAll call sends done => exact finish_deliveries st call .accepted sends
      | wake sleeping asleep room => rfl
  | finalize newFinalizedIdx reader idle =>
      rw [Outbound.deliveries, Outbound.deliveries, Outbound.finalize, List.filterMap_append]
      exact congrArg (· ++ _) (List.append_nil _)
  | receive message channel received => rfl
  | close => rfl

section Inbound

variable (config : StreamerConfig) (rollup : Rollup Transaction Entry FeedMessage) (start finalizedIdx : UInt64) (capacity : Nat)

structure InboundInv (st : Inbound Transaction Entry FeedMessage) : Prop where
  outbound : OutboundInv config rollup finalizedIdx st.outbound
  poller : st.poller = polled start st.rounds
  fetched : ∀ round delivery, st.fetched = some (round, delivery) →
    st.poller.stopped = false ∧ fetchRange st.poller.fromBlock round = some delivery
  sent : st.channel.sent = st.poller.sent.map Delivery.message
  received : st.outbound.deliveries = st.channel.received
  stopped : st.poller.stopped = true → st.channel.closed = true
  capacity : st.channel.capacity = capacity

theorem polled_further (rounds : List (PollRound Transaction)) (round : PollRound Transaction) :
    polled start (rounds ++ [round]) = pollHotshotBlocks (polled start rounds) round := History.run_append _ _ _ _

theorem poller_step (st : Inbound Transaction Entry FeedMessage) (inv : InboundInv config rollup start finalizedIdx capacity st)
    (round : PollRound Transaction) (running : st.poller.stopped = false) :
    polled start (st.rounds ++ [round]) =
      match fetchRange st.poller.fromBlock round with
      | none => st.poller
      | some delivery => if round.channelOpen then st.poller.advance delivery else { st.poller with stopped := true } := by
  rw [polled_further, ← inv.poller, poll_fetched st.poller round running]

theorem inbound_step_invariant (st next : Inbound Transaction Entry FeedMessage)
    (inv : InboundInv config rollup start finalizedIdx capacity st) (step : InboundStep config rollup st next) :
    InboundInv config rollup start finalizedIdx capacity next := by
  have pass := poller_step config rollup start finalizedIdx capacity st inv
  cases step with
  | pollNothing round running idle nothing =>
      refine ⟨inv.outbound, ?_, inv.fetched, inv.sent, inv.received, inv.stopped, inv.capacity⟩
      rw [pass round running, nothing]
  | pollFetched round delivery running idle found =>
      refine ⟨inv.outbound, inv.poller, fun fetchedIn range same => ?_, inv.sent, inv.received, inv.stopped, inv.capacity⟩
      obtain ⟨rfl, rfl⟩ := Prod.mk.inj (Option.some.inj same)
      exact ⟨running, found⟩
  | send round delivery channel waits accepted =>
      obtain ⟨running, found⟩ := inv.fetched round delivery waits
      have taken := Mpsc.try_send_accepted st.channel channel delivery.message accepted
      refine ⟨inv.outbound, ?_, (fun _ _ same => nomatch same), ?_, ?_, fun stopped => ?_, taken.capacity.trans inv.capacity⟩
      · rw [pass _ running, fetch_range_channel, found]
        rfl
      · rw [taken.sent, inv.sent, Poller.advance, List.map_append]
        rfl
      · rw [taken.received]
        exact inv.received
      · rw [Poller.advance, running] at stopped
        cases stopped
  | sendRefused round delivery waits refused =>
      obtain ⟨running, found⟩ := inv.fetched round delivery waits
      refine ⟨inv.outbound, ?_, (fun _ _ same => nomatch same), inv.sent, inv.received,
        fun _ => Mpsc.try_send_closed st.channel delivery.message refused, inv.capacity⟩
      rw [pass _ running, fetch_range_channel, found]
      rfl
  | receive delivered channel alive idle received =>
      have taken := Mpsc.recv_taken st.channel channel delivered received
      have begun := outbound_step_invariant config rollup finalizedIdx _ _ inv.outbound (.own _ _ (.deliver _ delivered.1 delivered.2 idle))
      refine ⟨begun, inv.poller, inv.fetched, taken.sent.trans inv.sent, ?_, fun stopped => ?_, taken.capacity.trans inv.capacity⟩
      · rw [begin_deliveries config rollup _ st.outbound idle, inv.received, taken.received]
        rfl
      · rw [taken.closed]
        exact inv.stopped stopped
  | streamer outbound alive step other =>
      refine ⟨outbound_step_invariant config rollup finalizedIdx _ _ inv.outbound step, inv.poller, inv.fetched, inv.sent, ?_, inv.stopped,
        inv.capacity⟩
      rw [outbound_step_deliveries config rollup _ _ step other]
      exact inv.received
  | dropped => exact ⟨inv.outbound, inv.poller, inv.fetched, inv.sent, inv.received, fun _ => rfl, inv.capacity⟩

theorem reached_inbound_invariant (finalizedMessageChannelCapacity : Nat) (st : Inbound Transaction Entry FeedMessage)
    (reached : Relation.ReflTransGen (InboundStep config rollup) (.new start finalizedIdx capacity finalizedMessageChannelCapacity) st) :
    InboundInv config rollup start finalizedIdx capacity st :=
  History.reachable_invariant _ _ (inbound_step_invariant config rollup start finalizedIdx capacity) _ st reached
    ⟨new_outbound_invariant config rollup finalizedIdx finalizedMessageChannelCapacity, rfl, (fun _ _ same => nomatch same), rfl, rfl,
      (fun stopped => nomatch stopped), rfl⟩

end Inbound

section Ranges

theorem polled_sent_grows (start : UInt64) (earlier rounds : List (PollRound Transaction)) (fewer : earlier <+: rounds) :
    (polled start earlier).sent <+: (polled start rounds).sent := by
  obtain ⟨more, rfl⟩ := fewer
  rw [polled, polled, History.run_append]
  refine History.run_invariant pollHotshotBlocks (fun st => _ <+: st.sent) (fun _ => True) (fun st round _ grown => ?_) _ more
    (fun _ _ => trivial) (List.prefix_refl _)
  rcases poll_answered st round with same | ⟨delivery, -, one⟩
  · rw [same]
    exact grown
  · rw [one]
    exact grown.trans (List.prefix_append _ _)

theorem consecutive_rest (start middle stop : UInt64) (first rest : List (Delivery Transaction)) (handled : Consecutive start first middle)
    (covered : Consecutive start (first ++ rest) stop) : Consecutive middle rest stop := by
  induction first generalizing start with
  | nil =>
      rw [show middle = start from handled]
      exact covered
  | cons delivery later ih => exact ih delivery.toBlock handled.2.2 covered.2.2

theorem consecutive_bounded (start stop : UInt64) (sent : List (Delivery Transaction)) (covered : Consecutive start sent stop) :
    stop.toNat ≤ start.toNat + sent.length * hotshotRangeLimit.toNat := by
  induction sent generalizing start with
  | nil =>
      rw [show stop = start from covered]
      exact Nat.le_add_right _ _
  | cons delivery later ih =>
      obtain ⟨rfl, proper, rest⟩ := covered
      have short := proper.short
      have tail := ih delivery.toBlock rest
      rw [List.length_cons, Nat.succ_mul]
      omega

theorem consecutive_chain (chain : Chain Transaction) (start stop : UInt64) (sent : List (Delivery Transaction))
    (covered : Consecutive start sent stop)
    (blocks : ∀ delivery ∈ sent, delivery.transactions = blocksFrom chain delivery.fromBlock delivery.transactions.length) :
    sent.flatMap Delivery.transactions = (heightsBetween start stop).map chain := by
  induction sent generalizing start with
  | nil =>
      rw [show stop = start from covered, heightsBetween, Nat.sub_self]
      rfl
  | cons delivery later ih =>
      obtain ⟨rfl, proper, rest⟩ := covered
      have tail := ih delivery.toBlock rest fun other member => blocks other (List.mem_cons_of_mem _ member)
      have here := blocks delivery List.mem_cons_self
      rw [proper.blocks] at here
      rw [heights_between_split _ delivery.toBlock _ (le_of_lt proper.nonempty) (consecutive_ordered _ _ _ rest), List.map_append,
        List.flatMap_cons, tail, here]
      rfl

end Ranges

structure FollowsChain (config : StreamerConfig) (rollup : PositionalRollup Transaction Entry FeedMessage) (chain : Chain Transaction)
    (start stop : UInt64) (capacity : Nat) (st : Inbound Transaction Entry FeedMessage) : Prop where
  ordered : start ≤ stop ∧ stop ≤ st.poller.fromBlock
  ahead : st.poller.fromBlock.toNat ≤ stop.toNat + capacity * hotshotRangeLimit.toNat
  blocks : (st.outbound.history.filterMap StreamerEvent.delivered).flatMap Prod.fst = (heightsBetween start stop).map chain
  tracked : ∀ seq height, st.outbound.streamer.finalizedIdx < seq →
    (TrackedAt st.outbound.streamer seq height ↔
      config.startingPos ≤ seq ∧ firstBlock rollup chain seq (heightsBetween start stop) = some height)

/-- However the poller, its channel and the streamer interleave, and whatever the reader fails to answer: the streamer has handled
each block from the starting height up to some height once and in order, and above the finalized index it tracks exactly the numbers
from the starting position on that these blocks carry, each at the first block that carries it. The poller is never more than the
capacity of the channel ahead, and it stops only once the service has dropped the streamer. -/
theorem streamer_follows_chain (config : StreamerConfig) (rollup : PositionalRollup Transaction Entry FeedMessage)
    (chain : Chain Transaction) (start finalizedIdx : UInt64) (capacity finalizedMessageChannelCapacity : Nat)
    (st : Inbound Transaction Entry FeedMessage)
    (reached : Relation.ReflTransGen (InboundStep config rollup.toRollup)
      (.new start finalizedIdx capacity finalizedMessageChannelCapacity) st)
    (reads : ∀ round ∈ st.rounds, RoundReads chain round) :
    (st.poller.stopped = true → st.channel.closed = true) ∧
      (st.outbound.call = none → ∃ stop, FollowsChain config rollup chain start stop capacity st) := by
  have inv := reached_inbound_invariant config rollup.toRollup start finalizedIdx capacity finalizedMessageChannelCapacity st reached
  refine ⟨inv.stopped, fun idle => ?_⟩
  have handled : st.outbound.history.filterMap StreamerEvent.delivered = st.channel.received := by
    have received := inv.received
    rw [Outbound.deliveries, idle] at received
    exact (List.append_nil _).symm.trans received
  have sent := inv.sent
  rw [st.channel.accounted, ← handled, inv.poller] at sent
  obtain ⟨earlier, fewer, fed⟩ := fed_received chain start st.rounds st.outbound.history reads ⟨_, sent⟩
  obtain ⟨first, blocks⟩ := polled_from_chain chain start earlier fed.reads
  have whole := (polled_from_chain chain start st.rounds reads).consecutive
  obtain ⟨rest, split⟩ := polled_sent_grows start earlier st.rounds fewer
  rw [← split] at whole sent
  have waiting := consecutive_rest start _ _ _ rest first whole
  have buffered : rest.length ≤ capacity := by
    have fits := st.channel.fits
    have lengths := congrArg List.length sent
    rw [fed.delivered, List.map_append, List.length_append, List.length_append, List.length_map, List.length_map,
      List.length_map] at lengths
    rw [inv.capacity] at fits
    omega
  rw [← inv.poller] at waiting
  refine ⟨(polled start earlier).fromBlock, ⟨consecutive_ordered _ _ _ first, consecutive_ordered _ _ _ waiting⟩, ?_, ?_,
    fun seq height above => ?_⟩
  · have bounded := consecutive_bounded _ _ rest waiting
    have limit := Nat.mul_le_mul_right hotshotRangeLimit.toNat buffered
    omega
  · rw [fed.delivered, List.flatMap_map]
    exact consecutive_chain chain start _ _ first blocks
  · have state := inv.outbound.settled idle
    rw [state] at above ⊢
    exact fed_tracked_at config rollup chain start finalizedIdx earlier st.outbound.history fed seq height above

-- The block of `twoMessages` on its way from the chain through the poller.
def twoMessagesChain : Chain (List UInt8) := fun height =>
  if height = 1 then [makeMockEspressoTransaction 1, makeMockEspressoTransaction 2] else []

def twoMessagesRound : PollRound (List UInt8) :=
  ⟨.ok 2, fun start stop => .ok (blocksFrom twoMessagesChain start (stop.toNat - start.toNat)), true⟩

def twoMessagesRange : Delivery (List UInt8) := ⟨[[makeMockEspressoTransaction 1, makeMockEspressoTransaction 2]], 1, 2, 2⟩

def handledChannel : Mpsc (List (List (List UInt8)) × UInt64) :=
  ⟨1, [], false, [twoMessagesRange.message], [twoMessagesRange.message], Nat.zero_le _, rfl⟩

def backpressuredInbound : Inbound (List UInt8) MockEntry MockEntry :=
  ⟨⟨2, [twoMessagesRange], false⟩, none, handledChannel, backpressured, [twoMessagesRound]⟩

theorem backpressured_inbound_reached :
    Relation.ReflTransGen (InboundStep ⟨1, 4⟩ mockRollup.toRollup) (.new 1 0 1 1) backpressuredInbound := by
  have found : findContiguousEntriesAfter twoDelivered.streamer.queue twoDelivered.streamer.lastBroadcastPosition =
      [⟨1, 1⟩, ⟨2, 1⟩] := by decide +kernel
  have sends : twoDelivered.call = some ⟨twoMessages, [⟨1, 1⟩, ⟨2, 1⟩], []⟩ := by
    rw [← found]
    rfl
  refine .head (.pollFetched _ twoMessagesRound twoMessagesRange rfl rfl rfl) <|
    .head (.send _ twoMessagesRound twoMessagesRange _ rfl rfl) <| .head (.receive _ twoMessagesRange.message _ rfl rfl rfl) <|
    .head (.streamer _ oneSent rfl (.own _ _ (.sendAccepted twoDelivered _ ⟨1, 1⟩ [⟨2, 1⟩] oneSent.channel sends rfl rfl)) ?_) <|
    .head (.streamer _ backpressured rfl (.own _ _ (.sendFull oneSent _ ⟨2, 1⟩ [] rfl rfl rfl)) ?_) .refl
  · intro transactions height same
    have accepted : some 1 = some 0 := congrArg (fun st => st.call.map fun call => call.accepted.length) same
    cases accepted
  · intro transactions height same
    have calls : none = some true := congrArg (fun st => st.call.map fun _ => true) same
    cases calls

theorem backpressured_inbound_follows :
    ∃ stop, FollowsChain ⟨1, 4⟩ mockRollup twoMessagesChain 1 stop 1 backpressuredInbound := by
  refine (streamer_follows_chain ⟨1, 4⟩ mockRollup twoMessagesChain 1 0 1 1 backpressuredInbound backpressured_inbound_reached ?_).2 rfl
  intro round member start stop transactions answered
  rw [List.mem_singleton.mp member] at answered
  exact (Except.ok.inj answered).symm

end Cas
