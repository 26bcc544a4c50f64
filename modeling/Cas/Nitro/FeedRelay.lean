import Cas.Nitro.FeedHub

set_option autoImplicit false

namespace Cas

-- The loop of `FeedRelay::start`: it waits, or has a first message in hand and drains the channel behind it, or has returned.
inductive RelayPoint where
  | selecting
  | draining (pendingMessages : List BroadcastFeedMessage)
  | returned
deriving DecidableEq, Repr

def RelayPoint.pendingMessages : RelayPoint → List BroadcastFeedMessage
  | .draining pendingMessages => pendingMessages
  | _ => []

-- The relay is inside `broadcast` until the server is through with the call.
def SharedFeed.quiet (shared : SharedFeed) : Prop := shared.calls = [] ∧ shared.point = .idle

def FeedHub.call (hub : FeedHub) (call : RelayCall) : FeedHub :=
  { hub with shared := { hub.shared with calls := hub.shared.calls ++ [call.broadcastMessage] } }

section Frame

variable (capacity : Nat) (fromSeq : UInt64) (more : List BroadcastMessage)

theorem channel_send_frame (bm : BroadcastMessage) (st : FeedServer) :
    channelSend capacity bm { st with calls := st.calls ++ more } =
      { channelSend capacity bm st with calls := (channelSend capacity bm st).calls ++ more } := by
  unfold channelSend
  split
  · split <;> rfl
  · rfl

theorem feed_step_frame (st next : FeedServer) (step : FeedStep capacity fromSeq st next) :
    FeedStep capacity fromSeq { st with calls := st.calls ++ more } { next with calls := next.calls ++ more } := by
  cases step with
  | confirm bm rest idle first => exact .confirm { st with calls := st.calls ++ more } bm (rest ++ more) idle (by simp [first])
  | append bm appends => exact .append { st with calls := st.calls ++ more } bm appends
  | send bm sends =>
      have same := channel_send_frame capacity more bm { st with point := .idle }
      exact same ▸ .send { st with calls := st.calls ++ more } bm sends
  | subscribe connects => exact .subscribe { st with calls := st.calls ++ more } connects
  | takeSnapshot subscribed => exact .takeSnapshot { st with calls := st.calls ++ more } subscribed
  | backlogWritten backlog writes => exact .backlogWritten { st with calls := st.calls ++ more } backlog writes
  | backlogError backlog writes => exact .backlogError { st with calls := st.calls ++ more } backlog writes
  | receiveWritten bm rest runs current received due up =>
      exact .receiveWritten { st with calls := st.calls ++ more } bm rest runs current received due up
  | receiveSkipped bm rest runs current received notDue =>
      exact .receiveSkipped { st with calls := st.calls ++ more } bm rest runs current received notDue
  | disconnect => exact .disconnect { st with calls := st.calls ++ more }

theorem reachable_frame (calls : List BroadcastMessage) (st : FeedServer)
    (reached : Relation.ReflTransGen (FeedStep capacity fromSeq) (.new calls) st) :
    Relation.ReflTransGen (FeedStep capacity fromSeq) (.new (calls ++ more)) { st with calls := st.calls ++ more } := by
  induction reached with
  | refl => exact .refl
  | tail _ step ih => exact ih.tail (feed_step_frame capacity fromSeq more _ _ step)

end Frame

theorem call_simulated (calls : List BroadcastMessage) (hub : FeedHub) (client : Connection) (call : RelayCall)
    (simulated : Simulated calls hub.shared client) :
    Simulated (calls ++ [call.broadcastMessage]) (hub.call call).shared client := by
  obtain ⟨st, reached, seen⟩ := simulated
  refine ⟨_, reachable_frame _ _ [call.broadcastMessage] calls st reached, ?_⟩
  exact { seen with calls := congrArg (· ++ [call.broadcastMessage]) seen.calls }

theorem call_hub_invariant (calls : List BroadcastMessage) (hub : FeedHub) (call : RelayCall) (inv : HubInv calls hub) :
    HubInv (calls ++ [call.broadcastMessage]) (hub.call call) :=
  ⟨fun requested => call_simulated calls hub _ call (inv.arriving requested),
    fun client member => call_simulated calls hub client call (inv.connected client member), inv.counted⟩

structure HubLedger (calls : List BroadcastMessage) (hub : FeedHub) : Prop where
  appended : hub.shared.appended ++ groupMessages (hub.shared.point.pending ++ hub.shared.calls) = groupMessages calls
  pending : ∀ bm ∈ hub.shared.point.pending ++ hub.shared.calls, bm ∈ calls
  confirmed : ∀ number ∈ hub.shared.confirmed, ∃ bm ∈ calls, bm.confirmedSequenceNumberMessage = some ⟨number⟩
  remembered : ∀ client ∈ hub.clients, ∀ number ∈ client.confirmed, number ∈ hub.shared.confirmed

theorem new_hub_ledger (broadcastChannelCapacity : Nat) : HubLedger [] (.new broadcastChannelCapacity []) :=
  ⟨rfl, fun _ member => absurd member List.not_mem_nil, fun _ member => absurd member List.not_mem_nil,
    fun _ member => absurd member List.not_mem_nil⟩

theorem call_hub_ledger (calls : List BroadcastMessage) (hub : FeedHub) (call : RelayCall) (ledger : HubLedger calls hub) :
    HubLedger (calls ++ [call.broadcastMessage]) (hub.call call) := by
  refine ⟨?_, fun bm member => ?_, fun number member => ?_, ledger.remembered⟩
  · simp only [FeedHub.call]
    rw [group_messages_append calls, ← ledger.appended]
    simp only [group_messages_append, List.append_assoc]
  · simp only [FeedHub.call, ← List.append_assoc] at member
    rcases List.mem_append.mp member with old | new
    · exact List.mem_append_left _ (ledger.pending bm old)
    · exact List.mem_append_right _ new
  · obtain ⟨bm, listed, confirms⟩ := ledger.confirmed number member
    exact ⟨bm, List.mem_append_left _ listed, confirms⟩

theorem shared_step_ledger (calls : List BroadcastMessage) (hub : FeedHub) (shared : SharedFeed) (step : SharedStep hub.shared shared)
    (ledger : HubLedger calls hub) : HubLedger calls { hub with shared := shared } := by
  obtain ⟨appended, pending, confirmed, remembered⟩ := ledger
  generalize hub.shared = before at step appended pending confirmed remembered
  cases step with
  | confirm bm rest idle first =>
      simp only [idle, first, BroadcastPoint.pending, List.nil_append] at appended pending
      refine ⟨appended, pending, ?_, ?_⟩
      · cases confirmation : bm.confirmedSequenceNumberMessage with
        | none => exact confirmed
        | some number =>
            intro other member
            rcases List.mem_append.mp member with old | new
            · exact confirmed other old
            · obtain rfl := List.mem_singleton.mp new
              exact ⟨bm, pending bm (by simp), confirmation⟩
      · intro client member number known
        have old := remembered client member number known
        cases bm.confirmedSequenceNumberMessage with
        | none => exact old
        | some _ => exact List.mem_append_left _ old
  | append bm appends =>
      simp only [appends, BroadcastPoint.pending] at appended pending
      refine ⟨?_, fun other member => pending other (List.mem_append_right _ member), confirmed, remembered⟩
      rw [group_messages_append, group_messages_singleton, ← List.append_assoc] at appended
      exact appended
  | send bm sends =>
      simp only [sends, BroadcastPoint.pending] at appended pending
      exact ⟨appended, pending, confirmed, remembered⟩

theorem set_remembered (clients : List Connection) (confirmed : List UInt64) (index : Nat) (next : Connection)
    (remembered : ∀ client ∈ clients, ∀ number ∈ client.confirmed, number ∈ confirmed)
    (fresh : ∀ number ∈ next.confirmed, number ∈ confirmed) :
    ∀ client ∈ clients.set index next, ∀ number ∈ client.confirmed, number ∈ confirmed := by
  intro client member
  rcases List.mem_or_eq_of_mem_set member with old | rfl
  · exact remembered client old
  · exact fresh

theorem hub_step_ledger (calls : List BroadcastMessage) (hub next : FeedHub) (ledger : HubLedger calls hub) (step : HubStep hub next) :
    HubLedger calls next := by
  cases step with
  | relay shared step => exact shared_step_ledger calls hub shared step ledger
  | accept requested =>
      refine ⟨ledger.appended, ledger.pending, ledger.confirmed, fun client member => ?_⟩
      rcases List.mem_append.mp member with old | new
      · exact ledger.remembered client old
      · rw [List.mem_singleton.mp new]
        exact fun number known => absurd known List.not_mem_nil
  | serve index client next held step =>
      refine ⟨ledger.appended, ledger.pending, ledger.confirmed, set_remembered _ _ index next ledger.remembered ?_⟩
      have before := ledger.remembered client (List.mem_of_getElem? held)
      cases step with
      | takeSnapshot subscribed => exact fun number known => known
      | _ => exact before
  | leave index client held serving =>
      exact ⟨ledger.appended, ledger.pending, ledger.confirmed,
        set_remembered _ _ index _ ledger.remembered (ledger.remembered client (List.mem_of_getElem? held))⟩
  | abandon index client held serving =>
      exact ⟨ledger.appended, ledger.pending, ledger.confirmed,
        set_remembered _ _ index _ ledger.remembered (ledger.remembered client (List.mem_of_getElem? held))⟩

end Cas
