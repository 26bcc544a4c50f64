import Cas.Lib.BroadcastRing
import Cas.Nitro.FeedDelivery

set_option autoImplicit false

namespace Cas

open SortedSlice

-- What all clients share: the calls of the relay, the backlog and the broadcast
-- channel. The last two fields are not in the source: the messages appended to
-- the backlog and the numbers confirmed so far.
structure SharedFeed where
  calls : List BroadcastMessage
  point : BroadcastPoint
  backlog : List BroadcastFeedMessage
  ring : BroadcastRing BroadcastMessage
  appended : List BroadcastFeedMessage
  confirmed : List UInt64
deriving DecidableEq

-- One call of `broadcast`, step by step. A group sent without a receiver is
-- lost in the source; here it only moves the end of the log, where later receivers start.
inductive SharedStep : SharedFeed → SharedFeed → Prop where
  | confirm (shared : SharedFeed) (bm : BroadcastMessage) (rest : List BroadcastMessage) (idle : shared.point = .idle)
      (next : shared.calls = bm :: rest) :
      SharedStep shared
        { shared with
          calls := rest
          point := .appending bm
          backlog := match bm.confirmedSequenceNumberMessage with
            | none => shared.backlog
            | some confirmed => backlogConfirm confirmed.sequenceNumber shared.backlog
          confirmed := match bm.confirmedSequenceNumberMessage with
            | none => shared.confirmed
            | some confirmed => shared.confirmed ++ [confirmed.sequenceNumber] }
  | append (shared : SharedFeed) (bm : BroadcastMessage) (appends : shared.point = .appending bm) :
      SharedStep shared
        { shared with
          point := .sending bm
          backlog := backlogAppend bm shared.backlog
          appended := shared.appended ++ feedMessages bm }
  | send (shared : SharedFeed) (bm : BroadcastMessage) (sends : shared.point = .sending bm) :
      SharedStep shared { shared with point := .idle, ring := shared.ring.push bm }

-- One task of `run_ws_client`. `position` is its receiver. The last four fields
-- are not in the source: the messages written to the client, its snapshot, the
-- numbers confirmed before that, and where in the log the receiver started.
structure Connection where
  requested : UInt64
  phase : ClientPhase
  position : Nat
  linkUp : Bool
  lastSentSeq : Option UInt64
  written : List BroadcastFeedMessage
  snapshot : List BroadcastFeedMessage
  confirmed : List UInt64
  subscribedAt : Nat
deriving DecidableEq, Repr

def Connection.new (requested : UInt64) : Connection := ⟨requested, .connecting, 0, true, none, [], [], [], 0⟩

inductive ConnectionStep (shared : SharedFeed) : Connection → Connection → Prop where
  | subscribe (client : Connection) (connects : client.phase = .connecting) :
      ConnectionStep shared client
        { client with phase := .subscribed, position := shared.ring.log.length, subscribedAt := shared.ring.log.length }
  | takeSnapshot (client : Connection) (subscribed : client.phase = .subscribed) :
      ConnectionStep shared client
        { client with
          phase := if getSince client.requested shared.backlog = [] then .running
            else .writingBacklog (getSince client.requested shared.backlog)
          lastSentSeq := (getSince client.requested shared.backlog).getLast?.map BroadcastFeedMessage.sequenceNumber
          snapshot := getSince client.requested shared.backlog
          confirmed := shared.confirmed }
  | backlogWritten (client : Connection) (backlog : List BroadcastFeedMessage) (writes : client.phase = .writingBacklog backlog) :
      ConnectionStep shared client { client with phase := .running, written := client.written ++ backlog }
  | backlogError (client : Connection) (backlog : List BroadcastFeedMessage) (writes : client.phase = .writingBacklog backlog) :
      ConnectionStep shared client { client with phase := .running, linkUp := false }
  | receiveWritten (client : Connection) (bm : BroadcastMessage) (rest : List BroadcastMessage) (runs : client.phase = .running)
      (current : shared.ring.lagged client.position = false) (next : shared.ring.window client.position = bm :: rest)
      (due : shouldSend bm client.lastSentSeq = true) (up : client.linkUp = true) :
      ConnectionStep shared client
        { client with
          position := client.position + 1
          lastSentSeq := updateLastSent bm client.lastSentSeq
          written := client.written ++ feedMessages bm }
  | receiveSkipped (client : Connection) (bm : BroadcastMessage) (rest : List BroadcastMessage) (runs : client.phase = .running)
      (current : shared.ring.lagged client.position = false) (next : shared.ring.window client.position = bm :: rest)
      (notDue : shouldSend bm client.lastSentSeq = false) :
      ConnectionStep shared client { client with position := client.position + 1 }

-- `clientCount` is the atomic counter of the source. `abandoned`, which the
-- source does not keep, counts the clients that a serialization error has ended.
structure FeedHub where
  shared : SharedFeed
  clients : List Connection
  clientCount : Int32
  abandoned : Nat
deriving DecidableEq

-- The channel rounds its capacity up to a power of two.
def FeedHub.new (broadcastChannelCapacity : Nat) (calls : List BroadcastMessage) : FeedHub where
  shared := ⟨calls, .idle, [], .new broadcastChannelCapacity.nextPowerOfTwo
    (Nat.pos_of_isPowerOfTwo (Nat.isPowerOfTwo_nextPowerOfTwo broadcastChannelCapacity)), [], []⟩
  clients := []
  clientCount := 0
  abandoned := 0

inductive HubStep : FeedHub → FeedHub → Prop where
  | relay (hub : FeedHub) (shared : SharedFeed) (step : SharedStep hub.shared shared) : HubStep hub { hub with shared := shared }
  | accept (hub : FeedHub) (requested : UInt64) :
      HubStep hub { hub with clients := hub.clients ++ [.new requested], clientCount := hub.clientCount + 1 }
  | serve (hub : FeedHub) (index : Nat) (client next : Connection) (held : hub.clients[index]? = some client)
      (step : ConnectionStep hub.shared client next) : HubStep hub { hub with clients := hub.clients.set index next }
  -- a timeout of the backlog, or any of the reasons for which the loop of the client breaks
  | leave (hub : FeedHub) (index : Nat) (client : Connection) (held : hub.clients[index]? = some client)
      (serving : client.phase.serving = true) :
      HubStep hub
        { hub with
          clients := hub.clients.set index { client with phase := .disconnected }
          clientCount := hub.clientCount - 1 }
  -- the `?` behind `serde_json::to_string` returns past the decrement
  | abandon (hub : FeedHub) (index : Nat) (client : Connection) (held : hub.clients[index]? = some client)
      (serving : client.phase.serving = true) :
      HubStep hub
        { hub with
          clients := hub.clients.set index { client with phase := .disconnected }
          abandoned := hub.abandoned + 1 }

structure Seen (shared : SharedFeed) (client : Connection) (st : FeedServer) : Prop where
  calls : st.calls = shared.calls
  point : st.point = shared.point
  backlog : st.backlog = shared.backlog
  appended : st.appended = shared.appended
  phase : st.phase = client.phase
  linkUp : st.linkUp = client.linkUp
  lastSentSeq : st.lastSentSeq = client.lastSentSeq
  written : st.written = client.written
  snapshot : st.snapshot = client.snapshot
  confirmed : st.confirmed = if client.phase.beforeSnapshot then shared.confirmed else client.confirmed
  fresh : client.phase = .connecting → st.lagged = false ∧ st.broadcasted = []
  placed : client.phase.listening = true → client.position ≤ shared.ring.log.length ∧ client.subscribedAt ≤ shared.ring.log.length
  rx : client.phase.listening = true → st.rx = shared.ring.window client.position
  lagged : client.phase.listening = true → st.lagged = shared.ring.lagged client.position
  broadcasted : client.phase.listening = true → st.broadcasted = groupMessages (shared.ring.log.drop client.subscribedAt)

def Simulated (calls : List BroadcastMessage) (shared : SharedFeed) (client : Connection) : Prop :=
  ∃ st, Relation.ReflTransGen (FeedStep shared.ring.capacity client.requested) (.new calls) st ∧ Seen shared client st

theorem new_hub_simulated (broadcastChannelCapacity : Nat) (calls : List BroadcastMessage) (requested : UInt64) :
    Simulated calls (FeedHub.new broadcastChannelCapacity calls).shared (.new requested) := by
  refine ⟨.new calls, .refl, ?_⟩
  exact {
    calls := rfl, point := rfl, backlog := rfl, appended := rfl, phase := rfl, linkUp := rfl, lastSentSeq := rfl, written := rfl,
    snapshot := rfl, confirmed := rfl
    fresh := fun _ => ⟨rfl, rfl⟩
    placed := fun listening => by cases listening
    rx := fun listening => by cases listening
    lagged := fun listening => by cases listening
    broadcasted := fun listening => by cases listening }

theorem shared_step_capacity (shared next : SharedFeed) (step : SharedStep shared next) : next.ring.capacity = shared.ring.capacity := by
  cases step <;> rfl

theorem send_seen (shared : SharedFeed) (client : Connection) (st : FeedServer) (bm : BroadcastMessage) (seen : Seen shared client st) :
    Seen { shared with point := .idle, ring := shared.ring.push bm } client
      (channelSend shared.ring.capacity bm { st with point := .idle }) := by
  obtain ⟨calls, point, backlog, appended, phase, linkUp, lastSentSeq, written, snapshot, confirmed, fresh, placed, rx, lagged,
    broadcasted⟩ := seen
  rw [channelSend]
  by_cases listening : client.phase.listening = true
  · have here : st.phase.listening = true := by rw [phase, listening]
    have queue := shared.ring.window_push bm client.position (placed listening).1
    have lost := shared.ring.lagged_push bm client.position
    have log : groupMessages ((shared.ring.push bm).log.drop client.subscribedAt) = st.broadcasted ++ feedMessages bm := by
      rw [BroadcastRing.push, List.drop_append_of_le_length (placed listening).2, group_messages_append, group_messages_singleton,
        broadcasted listening]
    have still : client.position ≤ (shared.ring.push bm).log.length ∧ client.subscribedAt ≤ (shared.ring.push bm).log.length := by
      have both := placed listening
      simp only [BroadcastRing.push, List.length_append, List.length_singleton]
      omega
    have late : ¬ client.phase = .connecting := by
      intro connecting
      rw [connecting] at listening
      cases listening
    rw [if_pos here]
    rw [← rx listening] at queue lost
    split
    · rename_i room
      rw [if_pos room] at queue lost
      exact {
        calls := calls, point := rfl, backlog := backlog, appended := appended, phase := phase, linkUp := linkUp
        lastSentSeq := lastSentSeq, written := written, snapshot := snapshot, confirmed := confirmed
        fresh := fun connecting => absurd connecting late
        placed := fun _ => still
        rx := fun _ => queue.symm
        lagged := fun _ => (lagged listening).trans lost.symm
        broadcasted := fun _ => log.symm }
    · rename_i full
      rw [if_neg full] at queue lost
      exact {
        calls := calls, point := rfl, backlog := backlog, appended := appended, phase := phase, linkUp := linkUp
        lastSentSeq := lastSentSeq, written := written, snapshot := snapshot, confirmed := confirmed
        fresh := fun connecting => absurd connecting late
        placed := fun _ => still
        rx := fun _ => queue.symm
        lagged := fun _ => lost.symm
        broadcasted := fun _ => log.symm }
  · have deaf : ¬ st.phase.listening = true := by rw [phase]; exact listening
    rw [if_neg deaf]
    exact {
      calls := calls, point := rfl, backlog := backlog, appended := appended, phase := phase, linkUp := linkUp
      lastSentSeq := lastSentSeq, written := written, snapshot := snapshot, confirmed := confirmed
      fresh := fresh
      placed := fun hears => absurd hears listening
      rx := fun hears => absurd hears listening
      lagged := fun hears => absurd hears listening
      broadcasted := fun hears => absurd hears listening }

theorem shared_step_simulated (calls : List BroadcastMessage) (shared next : SharedFeed) (client : Connection)
    (step : SharedStep shared next) (simulated : Simulated calls shared client) : Simulated calls next client := by
  obtain ⟨st, reached, seen⟩ := simulated
  rw [← shared_step_capacity shared next step] at reached
  cases step with
  | confirm bm rest idle first =>
      refine ⟨_, reached.tail (.confirm st bm rest (seen.point.trans idle) (seen.calls.trans first)), ?_⟩
      obtain ⟨-, -, backlog, appended, phase, linkUp, lastSentSeq, written, snapshot, confirmed, fresh, placed, rx, lagged,
        broadcasted⟩ := seen
      refine ⟨rfl, rfl, ?_, appended, phase, linkUp, lastSentSeq, written, snapshot, ?_, fresh, placed, rx, lagged, broadcasted⟩
      · cases bm.confirmedSequenceNumberMessage with
        | none => exact backlog
        | some number => exact congrArg (backlogConfirm number.sequenceNumber) backlog
      · cases bm.confirmedSequenceNumberMessage with
        | none => exact confirmed
        | some number =>
            simp only [phase, confirmed]
            split <;> rfl
  | append bm appends =>
      refine ⟨_, reached.tail (.append st bm (seen.point.trans appends)), ?_⟩
      obtain ⟨called, -, backlog, appended, phase, linkUp, lastSentSeq, written, snapshot, confirmed, fresh, placed, rx, lagged,
        broadcasted⟩ := seen
      exact ⟨called, rfl, congrArg (backlogAppend bm) backlog, congrArg (· ++ feedMessages bm) appended, phase, linkUp, lastSentSeq,
        written, snapshot, confirmed, fresh, placed, rx, lagged, broadcasted⟩
  | send bm sends =>
      exact ⟨_, reached.tail (.send st bm (seen.point.trans sends)), send_seen shared client st bm seen⟩

theorem connection_step_requested (shared : SharedFeed) (client next : Connection) (step : ConnectionStep shared client next) :
    next.requested = client.requested := by
  cases step <;> rfl

theorem connection_step_simulated (calls : List BroadcastMessage) (shared : SharedFeed) (client next : Connection)
    (step : ConnectionStep shared client next) (simulated : Simulated calls shared client) : Simulated calls shared next := by
  obtain ⟨st, reached, seen⟩ := simulated
  have requested := connection_step_requested shared client next step
  rw [← requested] at reached
  cases step with
  | subscribe connects =>
      refine ⟨_, reached.tail (.subscribe st (seen.phase.trans connects)), ?_⟩
      obtain ⟨unlagged, nothing⟩ := seen.fresh connects
      have confirmed := seen.confirmed
      rw [connects] at confirmed
      exact { seen with
        phase := rfl
        confirmed := confirmed
        fresh := fun connecting => by cases connecting
        placed := fun _ => ⟨le_refl _, le_refl _⟩
        rx := fun _ => shared.ring.window_end.symm
        lagged := fun _ => unlagged.trans shared.ring.lagged_end.symm
        broadcasted := fun _ => by simp [nothing, groupMessages] }
  | takeSnapshot subscribed =>
      refine ⟨_, reached.tail (.takeSnapshot st (seen.phase.trans subscribed)), ?_⟩
      have listening : client.phase.listening = true := by rw [subscribed]; rfl
      have confirmed := seen.confirmed
      rw [subscribed] at confirmed
      exact { seen with
        phase := by rw [seen.backlog]
        lastSentSeq := by rw [seen.backlog]
        snapshot := by rw [seen.backlog]
        confirmed := Eq.trans confirmed (ite_self _).symm
        fresh := fun connecting => by simp only at connecting; split at connecting <;> cases connecting
        placed := fun _ => seen.placed listening
        rx := fun _ => seen.rx listening
        lagged := fun _ => seen.lagged listening
        broadcasted := fun _ => seen.broadcasted listening }
  | backlogWritten backlog writes =>
      refine ⟨_, reached.tail (.backlogWritten st backlog (seen.phase.trans writes)), ?_⟩
      have listening : client.phase.listening = true := by rw [writes]; rfl
      have confirmed := seen.confirmed
      rw [writes] at confirmed
      exact { seen with
        phase := rfl
        written := congrArg (· ++ backlog) seen.written
        confirmed := confirmed
        fresh := fun connecting => by cases connecting
        placed := fun _ => seen.placed listening
        rx := fun _ => seen.rx listening
        lagged := fun _ => seen.lagged listening
        broadcasted := fun _ => seen.broadcasted listening }
  | backlogError backlog writes =>
      refine ⟨_, reached.tail (.backlogError st backlog (seen.phase.trans writes)), ?_⟩
      have listening : client.phase.listening = true := by rw [writes]; rfl
      have confirmed := seen.confirmed
      rw [writes] at confirmed
      exact { seen with
        phase := rfl
        linkUp := rfl
        confirmed := confirmed
        fresh := fun connecting => by cases connecting
        placed := fun _ => seen.placed listening
        rx := fun _ => seen.rx listening
        lagged := fun _ => seen.lagged listening
        broadcasted := fun _ => seen.broadcasted listening }
  | receiveWritten bm rest runs current first due up =>
      have listening : client.phase.listening = true := by rw [runs]; rfl
      obtain ⟨inside, remaining, unlagged⟩ := shared.ring.window_read client.position bm rest current first
      refine ⟨_, reached.tail (.receiveWritten st bm rest (seen.phase.trans runs) ((seen.lagged listening).trans current)
        ((seen.rx listening).trans first) (seen.lastSentSeq ▸ due) (seen.linkUp.trans up)), ?_⟩
      exact { seen with
        lastSentSeq := congrArg (updateLastSent bm) seen.lastSentSeq
        written := congrArg (· ++ feedMessages bm) seen.written
        placed := fun _ => ⟨inside, (seen.placed listening).2⟩
        rx := fun _ => remaining.symm
        lagged := fun _ => ((seen.lagged listening).trans current).trans unlagged.symm }
  | receiveSkipped bm rest runs current first notDue =>
      have listening : client.phase.listening = true := by rw [runs]; rfl
      obtain ⟨inside, remaining, unlagged⟩ := shared.ring.window_read client.position bm rest current first
      refine ⟨_, reached.tail (.receiveSkipped st bm rest (seen.phase.trans runs) ((seen.lagged listening).trans current)
        ((seen.rx listening).trans first) (seen.lastSentSeq ▸ notDue)), ?_⟩
      exact { seen with
        placed := fun _ => ⟨inside, (seen.placed listening).2⟩
        rx := fun _ => remaining.symm
        lagged := fun _ => ((seen.lagged listening).trans current).trans unlagged.symm }

theorem disconnect_simulated (calls : List BroadcastMessage) (shared : SharedFeed) (client : Connection)
    (serving : client.phase.serving = true) (simulated : Simulated calls shared client) :
    Simulated calls shared { client with phase := .disconnected } := by
  obtain ⟨st, reached, seen⟩ := simulated
  have late : client.phase.beforeSnapshot = false := by
    by_contra early
    exact before_snapshot_unserved client.phase (by simpa using early) serving
  have confirmed := seen.confirmed
  rw [late] at confirmed
  refine ⟨_, reached.tail (.disconnect st), ?_⟩
  exact { seen with
    phase := rfl
    confirmed := confirmed
    fresh := fun connecting => by cases connecting
    placed := fun listening => by cases listening
    rx := fun listening => by cases listening
    lagged := fun listening => by cases listening
    broadcasted := fun listening => by cases listening }

def Connection.present (client : Connection) : Bool := client.phase ≠ .disconnected

structure HubInv (calls : List BroadcastMessage) (hub : FeedHub) : Prop where
  arriving : ∀ requested, Simulated calls hub.shared (.new requested)
  connected : ∀ client ∈ hub.clients, Simulated calls hub.shared client
  counted : hub.clientCount = Int32.ofNat (hub.clients.countP Connection.present + hub.abandoned)

theorem set_connected (calls : List BroadcastMessage) (shared : SharedFeed) (clients : List Connection) (index : Nat) (next : Connection)
    (connected : ∀ client ∈ clients, Simulated calls shared client) (simulated : Simulated calls shared next) :
    ∀ client ∈ clients.set index next, Simulated calls shared client := by
  intro client member
  rcases List.mem_or_eq_of_mem_set member with old | rfl
  · exact connected client old
  · exact simulated

theorem count_set (clients : List Connection) (index : Nat) (client next : Connection) (held : clients[index]? = some client)
    (present : client.present = true) :
    clients.countP Connection.present = (clients.set index next).countP Connection.present + if next.present then 0 else 1 := by
  obtain ⟨within, rfl⟩ := List.getElem?_eq_some_iff.mp held
  have positive : 0 < clients.countP Connection.present := List.countP_pos_iff.mpr ⟨clients[index], List.getElem_mem within, present⟩
  rw [List.countP_set within, present]
  cases next.present with
  | true => simp only [if_true, Nat.add_zero]; omega
  | false => simp only [if_true, Bool.false_eq_true, if_false, Nat.add_zero]; omega

theorem connection_step_present (shared : SharedFeed) (client next : Connection) (step : ConnectionStep shared client next) :
    client.present = true ∧ next.present = true := by
  cases step with
  | subscribe connects => simp [Connection.present, connects]
  | takeSnapshot subscribed =>
      refine ⟨by simp [Connection.present, subscribed], ?_⟩
      simp only [Connection.present]
      split <;> rfl
  | backlogWritten backlog writes => simp [Connection.present, writes]
  | backlogError backlog writes => simp [Connection.present, writes]
  | receiveWritten bm rest runs current first due up => simp [Connection.present, runs]
  | receiveSkipped bm rest runs current first notDue => simp [Connection.present, runs]

theorem serving_present (client : Connection) (serving : client.phase.serving = true) : client.present = true := by
  apply decide_eq_true
  intro gone
  rw [gone] at serving
  cases serving

theorem count_succ (present abandoned : Nat) : Int32.ofNat (present + 1 + abandoned) = Int32.ofNat (present + abandoned) + 1 := by
  rw [Nat.add_right_comm, Int32.ofNat_add]
  rfl

theorem hub_step_invariant (calls : List BroadcastMessage) (hub next : FeedHub) (inv : HubInv calls hub) (step : HubStep hub next) :
    HubInv calls next := by
  obtain ⟨arriving, connected, counted⟩ := inv
  cases step with
  | relay shared step =>
      exact ⟨fun requested => shared_step_simulated calls hub.shared shared _ step (arriving requested),
        fun client member => shared_step_simulated calls hub.shared shared client step (connected client member), counted⟩
  | accept requested =>
      refine ⟨arriving, fun client member => ?_, ?_⟩
      · rcases List.mem_append.mp member with old | new
        · exact connected client old
        · rw [List.mem_singleton.mp new]
          exact arriving requested
      · rw [counted, List.countP_append, List.countP_singleton, if_pos (by rfl), count_succ]
  | serve index client next held step =>
      obtain ⟨present, still⟩ := connection_step_present hub.shared client next step
      refine ⟨arriving, set_connected calls hub.shared hub.clients index next connected ?_, ?_⟩
      · exact connection_step_simulated calls hub.shared client next step (connected client (List.mem_of_getElem? held))
      · have same := count_set hub.clients index client next held present
        rw [if_pos still, Nat.add_zero] at same
        rw [counted, same]
  | leave index client held serving =>
      refine ⟨arriving, set_connected calls hub.shared hub.clients index _ connected ?_, ?_⟩
      · exact disconnect_simulated calls hub.shared client serving (connected client (List.mem_of_getElem? held))
      · have fewer := count_set hub.clients index client { client with phase := .disconnected } held (serving_present client serving)
        rw [if_neg (by simp [Connection.present])] at fewer
        rw [counted, fewer, count_succ, Int32.add_sub_cancel]
  | abandon index client held serving =>
      refine ⟨arriving, set_connected calls hub.shared hub.clients index _ connected ?_, ?_⟩
      · exact disconnect_simulated calls hub.shared client serving (connected client (List.mem_of_getElem? held))
      · have fewer := count_set hub.clients index client { client with phase := .disconnected } held (serving_present client serving)
        rw [if_neg (by simp [Connection.present])] at fewer
        rw [counted, fewer, Nat.add_assoc, Nat.add_comm 1]

theorem new_hub_invariant (broadcastChannelCapacity : Nat) (calls : List BroadcastMessage) :
    HubInv calls (.new broadcastChannelCapacity calls) :=
  ⟨new_hub_simulated broadcastChannelCapacity calls, by simp [FeedHub.new], rfl⟩

theorem feed_step_outgoing_appended (capacity : Nat) (fromSeq : UInt64) (st next : FeedServer) (relay : RelayInv st)
    (known : ∀ m ∈ st.outgoing, m ∈ st.appended) (step : FeedStep capacity fromSeq st next) : ∀ m ∈ next.outgoing, m ∈ next.appended := by
  have before : ∀ m ∈ st.written, m ∈ st.appended := fun m member => known m ((written_sublist_outgoing st).subset member)
  cases step with
  | confirm bm rest idle first => exact known
  | append bm appends => exact fun m member => List.mem_append_left _ (known m member)
  | send bm sends =>
      rw [channelSend]
      split
      · split <;> exact known
      · exact known
  | subscribe connects => exact before
  | takeSnapshot subscribed =>
      intro m member
      have either : m ∈ st.written ∨ m ∈ getSince fromSeq st.backlog := by
        unfold FeedServer.outgoing at member
        simp only at member
        split at member
        · rename_i backlog phase
          split at phase
          · cases phase
          · obtain rfl := ClientPhase.writingBacklog.inj phase
            exact List.mem_append.mp member
        · exact .inl member
      cases either with
      | inl old => exact before m old
      | inr snapshot => exact relay.backlog.subset (List.mem_of_mem_filter snapshot)
  | backlogWritten backlog writes =>
      have out : st.outgoing = st.written ++ backlog := by simp only [FeedServer.outgoing, writes]
      rw [out] at known
      exact known
  | backlogError backlog writes => exact before
  | receiveWritten bm rest runs current received due up =>
      intro m member
      simp only [FeedServer.outgoing, runs] at member
      rcases List.mem_append.mp member with old | new
      · exact before m old
      · apply relay.channel.subset
        rw [received, List.cons_append, groupMessages, List.flatMap_cons]
        exact List.mem_append_left _ new
  | receiveSkipped bm rest runs current received notDue => exact known
  | disconnect => exact before

structure ClientDelivery (shared : SharedFeed) (client : Connection) : Prop where
  increasing : client.written.Pairwise fun a b => a.sequenceNumber < b.sequenceNumber
  appended : ∀ m ∈ client.written, m ∈ shared.appended
  complete : client.phase = .running → client.linkUp = true → shared.ring.lagged client.position = false →
    ∀ m ∈ shared.appended, client.requested ≤ m.sequenceNumber →
      m ∈ client.written ∨ (∃ confirmed ∈ client.confirmed, m.sequenceNumber ≤ confirmed) ∨
        m ∈ groupMessages (shared.ring.window client.position ++ shared.point.inFlight)

theorem simulated_state (calls : List RelayCall)
    (ordered : Increasing BroadcastFeedMessage.sequenceNumber (calls.flatMap RelayCall.messages)) (shared : SharedFeed)
    (client : Connection) (simulated : Simulated (calls.map RelayCall.broadcastMessage) shared client) :
    ∃ st, Seen shared client st ∧ ClientInv client.requested st ∧ ∀ m ∈ st.outgoing, m ∈ st.appended := by
  obtain ⟨st, reached, seen⟩ := simulated
  obtain ⟨-, inv, known⟩ := History.reachable_invariant _
    (fun st => RelayInv st ∧ ClientInv client.requested st ∧ ∀ m ∈ st.outgoing, m ∈ st.appended)
    (fun st next all step => ⟨feed_step_relay_invariant _ client.requested st next all.1 step,
      feed_step_client_invariant _ client.requested st next all.1 all.2.1 step,
      feed_step_outgoing_appended _ client.requested st next all.1 all.2.2 step⟩)
    _ st reached
    ⟨new_relay_invariant calls ordered, new_client_invariant client.requested _, by simp [FeedServer.new, FeedServer.outgoing]⟩
  exact ⟨st, seen, inv, known⟩

theorem simulated_delivery (calls : List RelayCall)
    (ordered : Increasing BroadcastFeedMessage.sequenceNumber (calls.flatMap RelayCall.messages)) (shared : SharedFeed)
    (client : Connection) (simulated : Simulated (calls.map RelayCall.broadcastMessage) shared client) : ClientDelivery shared client := by
  obtain ⟨st, seen, inv, known⟩ := simulated_state calls ordered shared client simulated
  refine ⟨?_, fun m member => ?_, fun runs up current m member low => ?_⟩
  · rw [← seen.written]
    exact inv.increasing.sublist (written_sublist_outgoing st)
  · rw [← seen.appended]
    exact known m ((written_sublist_outgoing st).subset (seen.written.symm ▸ member))
  · have listening : client.phase.listening = true := by rw [runs]; rfl
    have running : st.phase = .running := seen.phase.trans runs
    have out : st.outgoing = client.written := by simp only [FeedServer.outgoing, running, seen.written]
    have confirmed : st.confirmed = client.confirmed := by rw [seen.confirmed, runs]; rfl
    have covered := inv.covered (by rw [running]; rfl) ((seen.lagged listening).trans current) (seen.linkUp.trans up) m
      (seen.appended.symm ▸ member) low
    rwa [out, Confirmed, confirmed, seen.rx listening, seen.point] at covered

theorem backlog_complete (calls : List RelayCall)
    (ordered : Increasing BroadcastFeedMessage.sequenceNumber (calls.flatMap RelayCall.messages)) (hub : FeedHub)
    (inv : HubInv (calls.map RelayCall.broadcastMessage) hub) (m : BroadcastFeedMessage) (member : m ∈ hub.shared.appended) :
    m ∈ hub.shared.backlog ∨ ∃ confirmed ∈ hub.shared.confirmed, m.sequenceNumber ≤ confirmed := by
  obtain ⟨st, seen, client, -⟩ := simulated_state calls ordered hub.shared _ (inv.arriving 0)
  have confirmed : st.confirmed = hub.shared.confirmed := seen.confirmed
  have early := (client.early (by rw [seen.phase]; rfl)).2.2 m (seen.appended.symm ▸ member)
  rwa [seen.backlog, Confirmed, confirmed] at early

/-- However many clients connect and whatever the order of all tasks, each of them is delivered what it is owed, and the counter
of the server is the number of those present and of those that a serialization error has ended. -/
theorem hub_serves_every_client (broadcastChannelCapacity : Nat) (calls : List RelayCall)
    (ordered : (calls.flatMap RelayCall.messages).Pairwise fun a b => a.sequenceNumber < b.sequenceNumber) (hub : FeedHub)
    (reached : Relation.ReflTransGen HubStep (.new broadcastChannelCapacity (calls.map RelayCall.broadcastMessage)) hub) :
    (∀ client ∈ hub.clients, ClientDelivery hub.shared client) ∧
      hub.clientCount = Int32.ofNat (hub.clients.countP Connection.present + hub.abandoned) := by
  have inv := History.reachable_invariant HubStep (HubInv (calls.map RelayCall.broadcastMessage)) (hub_step_invariant _)
    _ hub reached (new_hub_invariant broadcastChannelCapacity _)
  exact ⟨fun client member => simulated_delivery calls ordered hub.shared client (inv.connected client member), inv.counted⟩

-- One client waits for message 5, another connects between its two writes and finds it in the backlog.
def servedHub : FeedHub where
  shared := ⟨[], .idle, [numberedMessage 5],
    (FeedHub.new 2 []).shared.ring.push (RelayCall.broadcastFeedMessages [numberedMessage 5]).broadcastMessage, [numberedMessage 5], []⟩
  clients := [⟨5, .running, 1, true, some 5, [numberedMessage 5], [], [], 0⟩,
    ⟨5, .running, 1, true, some 5, [numberedMessage 5], [numberedMessage 5], [], 0⟩]
  clientCount := 2
  abandoned := 0

theorem two_clients_served :
    (∀ client ∈ servedHub.clients, ClientDelivery servedHub.shared client) ∧ servedHub.clientCount = Int32.ofNat (2 + 0) := by
  have unread : ∀ bm : BroadcastMessage, ((FeedHub.new 2 []).shared.ring.push bm).lagged 0 = false ∧
      ((FeedHub.new 2 []).shared.ring.push bm).window 0 = [bm] := by
    intro bm
    have none_lost : ((FeedHub.new 2 []).shared.ring.push bm).oldest = 0 := Nat.sub_eq_zero_of_le (FeedHub.new 2 []).shared.ring.positive
    simp only [BroadcastRing.lagged, BroadcastRing.window, none_lost]
    exact ⟨rfl, rfl⟩
  have reached : Relation.ReflTransGen HubStep
      (.new 2 ([.broadcastFeedMessages [numberedMessage 5]].map RelayCall.broadcastMessage)) servedHub :=
    .head (.accept _ 5) <| .head (.serve _ 0 _ _ rfl (.subscribe _ rfl)) <| .head (.serve _ 0 _ _ rfl (.takeSnapshot _ rfl)) <|
      .head (.relay _ _ (.confirm _ _ _ rfl rfl)) <| .head (.relay _ _ (.append _ _ rfl)) <| .head (.accept _ 5) <|
      .head (.serve _ 1 _ _ rfl (.subscribe _ rfl)) <| .head (.serve _ 1 _ _ rfl (.takeSnapshot _ rfl)) <|
      .head (.relay _ _ (.send _ _ rfl)) <| .head (.serve _ 0 _ _ rfl (.receiveWritten _ _ _ rfl (unread _).1 (unread _).2 rfl rfl)) <|
      .head (.serve _ 1 _ _ rfl (.backlogWritten _ _ rfl)) <|
      .head (.serve _ 1 _ _ rfl (.receiveSkipped _ _ _ rfl (unread _).1 (unread _).2 rfl)) .refl
  exact hub_serves_every_client 2 [.broadcastFeedMessages [numberedMessage 5]] (by decide) servedHub reached

end Cas
