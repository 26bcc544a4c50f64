import Cas.Streamer.Contiguous
import Cas.Streamer.Refinement

set_option autoImplicit false

namespace Cas

open SortedSlice
open Std (ExtTreeMap ExtTreeSet)

variable {Transaction Entry FeedMessage : Type} [RollupQueueEntry Entry]

def Chained (pos : UInt64) : List Entry → Prop
  | [] => True
  | entry :: tail => (sequenceNumber entry).toNat = pos.toNat + 1 ∧ Chained (sequenceNumber entry) tail

theorem contiguous_from_chained (lastPos idx : UInt64) (slice : List Entry) (scanning : Scanning lastPos idx slice) :
    Chained (lastPos + idx) (contiguousFrom lastPos idx slice) := by
  induction slice generalizing idx with
  | nil => trivial
  | cons entry tail ih =>
      obtain ⟨sum, step, -⟩ := scanning_sum lastPos idx entry tail scanning
      by_cases next : sequenceNumber entry = lastPos + idx + 1
      · have tailChained := ih (idx + 1) (scanning_next lastPos idx entry tail scanning next)
        rw [contiguousFrom, if_pos next]
        refine ⟨by rw [next, step, sum], ?_⟩
        rw [next, UInt64.add_assoc]
        exact tailChained
      · rw [contiguousFrom, if_neg next]
        trivial

theorem find_contiguous_chained (queue : List Entry) (lastPos : UInt64) (sorted : Increasing sequenceNumber queue) :
    Chained lastPos (findContiguousEntriesAfter queue lastPos) := by
  have suffix := drop_partition_point sequenceNumber _ queue (at_most_downward sequenceNumber lastPos) sorted
  have chained := contiguous_from_chained lastPos 0 _ (scanning_after queue lastPos sorted)
  rw [findContiguousEntriesAfter, suffix]
  rwa [UInt64.add_zero] at chained

theorem broadcast_loop_position (rollup : Rollup Transaction Entry FeedMessage) (send : Nat → TrySend) (entries : List Entry)
    (attempt : Nat) (st : Streamer Entry FeedMessage) (chained : Chained st.lastBroadcastPosition entries) :
    st.lastBroadcastPosition ≤ (broadcastLoop rollup send entries attempt st).lastBroadcastPosition ∧
      ∀ seq, st.lastBroadcastPosition < seq → seq ≤ (broadcastLoop rollup send entries attempt st).lastBroadcastPosition →
        ∃ entry ∈ entries, sequenceNumber entry = seq := by
  induction entries generalizing attempt st with
  | nil => exact ⟨le_refl _, fun seq low high => absurd low (not_lt.mpr high)⟩
  | cons entry tail ih =>
      rw [broadcastLoop]
      cases send attempt with
      | full => exact ⟨le_refl _, fun seq low high => absurd low (not_lt.mpr high)⟩
      | closed => exact ⟨le_refl _, fun seq low high => absurd low (not_lt.mpr high)⟩
      | accepted =>
          obtain ⟨advanced, covered⟩ := ih (attempt + 1) { st with
            lastBroadcastPosition := sequenceNumber entry
            broadcast := st.broadcast ++ [rollup.convertEntryToFeedMessage entry] } chained.2
          have step := chained.1
          refine ⟨le_trans ?_ advanced, fun seq low high => ?_⟩
          · rw [UInt64.le_iff_toNat_le]
            change st.lastBroadcastPosition.toNat ≤ (sequenceNumber entry).toNat
            omega
          · by_cases same : sequenceNumber entry = seq
            · exact ⟨entry, by simp, same⟩
            · have beyond : sequenceNumber entry < seq := by
                have lowNat := UInt64.lt_iff_toNat_lt.mp low
                have differs : (sequenceNumber entry).toNat ≠ seq.toNat := fun equal => same (UInt64.toNat_inj.mp equal)
                rw [UInt64.lt_iff_toNat_lt]
                omega
              obtain ⟨later, member, found⟩ := covered seq beyond high
              exact ⟨later, by simp [member], found⟩

theorem try_broadcast_position (rollup : Rollup Transaction Entry FeedMessage) (send : Nat → TrySend)
    (st : Streamer Entry FeedMessage) (sorted : Increasing sequenceNumber st.queue) :
    st.lastBroadcastPosition ≤ (tryBroadcastFeedMessage rollup send st).lastBroadcastPosition ∧
      ∀ seq, st.lastBroadcastPosition < seq → seq ≤ (tryBroadcastFeedMessage rollup send st).lastBroadcastPosition →
        InQueue st seq := by
  obtain ⟨advanced, covered⟩ := broadcast_loop_position rollup send _ 0 st (find_contiguous_chained st.queue _ sorted)
  refine ⟨advanced, fun seq low high => ?_⟩
  obtain ⟨entry, member, found⟩ := covered seq low high
  exact ⟨entry, find_contiguous_subset st.queue _ entry member, found⟩

def LivePresent (present : Streamer Entry FeedMessage → UInt64 → Prop) (st : Streamer Entry FeedMessage) : Prop :=
  ∀ seq, st.finalizedIdx < seq → seq ≤ st.lastBroadcastPosition → present st seq

structure Lasting (present : Streamer Entry FeedMessage → UInt64 → Prop) : Prop where
  same : ∀ before after seq, SameTracked before after → present before seq → present after seq
  queued : ∀ st seq, InQueue st seq → present st seq
  pruned : ∀ newFinalizedIdx st seq, Increasing sequenceNumber st.queue → newFinalizedIdx < seq → present st seq →
    present (prune newFinalizedIdx st) seq
  promoted : ∀ st entry seq, present st seq → present (promoteEntry st entry) seq

theorem in_queue_promoted (st : Streamer Entry FeedMessage) (entry : Entry) (seq : UInt64) (queued : InQueue st seq) :
    InQueue (promoteEntry st entry) seq := by
  obtain ⟨e, member, same⟩ := queued
  exact ⟨e, (mem_insert_entry entry e st.queue).mpr (.inr member), same⟩

theorem in_queue_lasting : Lasting (InQueue : Streamer Entry FeedMessage → UInt64 → Prop) where
  same before after seq same queued := by simpa only [InQueue, same.queue] using queued
  queued _ _ queued := queued
  pruned newFinalizedIdx st seq sorted above queued := (prune_in_queue newFinalizedIdx st seq sorted).mpr ⟨above, queued⟩
  promoted := in_queue_promoted

theorem tracked_lasting : Lasting (Tracked : Streamer Entry FeedMessage → UInt64 → Prop) where
  same before after seq same tracked := by simpa only [Tracked, InQueue, same.queue, same.stubs] using tracked
  queued _ _ queued := .inl queued
  pruned newFinalizedIdx st seq sorted above tracked := tracked.imp
    (fun queued => (prune_in_queue newFinalizedIdx st seq sorted).mpr ⟨above, queued⟩)
    (fun stubbed => (prune_stubbed newFinalizedIdx st seq).mpr ⟨above, stubbed⟩)
  promoted st entry seq tracked := by
    cases tracked with
    | inl queued => exact .inl (in_queue_promoted st entry seq queued)
    | inr stubbed =>
        by_cases same : sequenceNumber entry = seq
        · exact .inl ⟨entry, (mem_insert_entry entry entry st.queue).mpr (.inl rfl), same⟩
        · exact .inr (ExtTreeMap.mem_erase.mpr ⟨fun equal => same (Std.LawfulEqCmp.eq_of_compare equal), stubbed⟩)

section Live

variable {present : Streamer Entry FeedMessage → UInt64 → Prop}

theorem live_present_broadcast (lasting : Lasting present) (rollup : Rollup Transaction Entry FeedMessage) (send : Nat → TrySend)
    (st : Streamer Entry FeedMessage) (sorted : Increasing sequenceNumber st.queue) (live : LivePresent present st) :
    LivePresent present (tryBroadcastFeedMessage rollup send st) := by
  intro seq unfinalized reached
  apply lasting.same st _ seq (broadcast_loop_tracked rollup send _ 0 st)
  by_cases old : seq ≤ st.lastBroadcastPosition
  · exact live seq (broadcast_loop_finalized rollup send _ 0 st ▸ unfinalized) old
  · exact lasting.queued st seq ((try_broadcast_position rollup send st sorted).2 seq (not_le.mp old) reached)

-- Skipping moves the position over finalized messages only, which the prune that follows drops from the range.
theorem live_present_finalization (lasting : Lasting present) (config : StreamerConfig)
    (rollup : Rollup Transaction Entry FeedMessage) (reader : Reader Transaction) (newFinalizedIdx : UInt64)
    (st : Streamer Entry FeedMessage) (inv : StreamerInv config st) (live : LivePresent present st) :
    LivePresent present (handleFinalization config rollup reader newFinalizedIdx st) := by
  have tracked := skip_finalized_tracked newFinalizedIdx st
  have skipped : ∀ seq, st.finalizedIdx < seq → newFinalizedIdx < seq →
      seq ≤ (skipFinalized newFinalizedIdx st).lastBroadcastPosition → present (skipFinalized newFinalizedIdx st) seq := by
    intro seq unfinalized beyond reached
    apply lasting.same st _ seq tracked (live seq unfinalized ?_)
    unfold skipFinalized at reached
    split at reached
    · exact absurd beyond (not_lt.mpr reached)
    · exact reached
  have idx := skip_finalized_idx newFinalizedIdx st
  have sound := same_tracked_invariant config st _ tracked inv
  simp only [handleFinalization]
  generalize skipFinalized newFinalizedIdx st = moved at skipped idx sound ⊢
  by_cases stale : newFinalizedIdx ≤ moved.finalizedIdx
  · rw [if_pos stale]
    intro seq unfinalized reached
    rw [idx] at stale unfinalized
    exact skipped seq unfinalized (lt_of_le_of_lt stale unfinalized) reached
  · rw [if_neg stale]
    refine promote_stubs_rule config rollup reader (LivePresent present) ?_ _ (prune_invariant config newFinalizedIdx moved sound).bounded ?_
    · intro state entry before _ _ seq unfinalized reached
      exact lasting.promoted state entry seq (before seq unfinalized reached)
    · intro seq unfinalized reached
      have earlier : st.finalizedIdx < seq := lt_trans (idx ▸ not_le.mp stale) unfinalized
      exact lasting.pruned newFinalizedIdx moved seq sound.sorted unfinalized (skipped seq earlier unfinalized reached)

end Live

theorem filter_message_tracked (config : StreamerConfig) (st : Streamer Entry FeedMessage) (parsed : Entry)
    (inv : StreamerInv config st) (seq : UInt64) :
    Tracked (filterMessage config st parsed) seq ↔
      Tracked st seq ∨ (config.startingPos ≤ seq ∧ sequenceNumber parsed = seq) := by
  rw [tracked_iff_at]
  simp only [filter_message_tracked_at config st parsed inv.sorted inv.separate, exists_or, ← tracked_iff_at]
  by_cases known : Tracked st seq
  · simp only [known, true_or]
  · simp only [known, false_or]
    exact ⟨fun ⟨_, accepted, same, _⟩ => ⟨same ▸ accepted.1, same⟩,
      fun ⟨started, same⟩ => ⟨hotshotHeight parsed, ⟨same ▸ started, same ▸ known⟩, same, rfl⟩⟩

theorem filter_messages_tracked (config : StreamerConfig) (st : Streamer Entry FeedMessage) (entries : List Entry)
    (inv : StreamerInv config st) (seq : UInt64) :
    Tracked (filterMessages config st entries) seq ↔
      Tracked st seq ∨ (config.startingPos ≤ seq ∧ ∃ parsed ∈ entries, sequenceNumber parsed = seq) := by
  induction entries generalizing st with
  | nil => simp [filterMessages, History.run]
  | cons parsed tail ih =>
      have rest := ih (filterMessage config st parsed) (filter_message_invariant config st parsed inv)
      rw [filterMessages, History.run_cons, ← filterMessages, rest, filter_message_tracked config st parsed inv]
      simp only [List.mem_cons, or_and_right, exists_or, exists_eq_left, and_or_left, or_assoc]

-- A message finalized already takes the room of a live one: the queue is full
-- and its last entry is broadcast and not finalized.
def Displaces (config : StreamerConfig) (st : Streamer Entry FeedMessage) (parsed : Entry) : Prop :=
  config.startingPos ≤ sequenceNumber parsed ∧ sequenceNumber parsed ≤ st.finalizedIdx ∧
    ¬ Tracked st (sequenceNumber parsed) ∧ config.maxFullQueueEntries ≤ st.queue.length ∧
    ∃ last, st.queue.getLast? = some last ∧ st.finalizedIdx < sequenceNumber last ∧ sequenceNumber last ≤ st.lastBroadcastPosition

theorem displaced_iff_evicted (config : StreamerConfig) (st : Streamer Entry FeedMessage) (parsed : Entry)
    (inv : StreamerInv config st) (held : LivePresent InQueue st) (started : config.startingPos ≤ sequenceNumber parsed)
    (fresh : ¬ Tracked st (sequenceNumber parsed)) (full : config.maxFullQueueEntries ≤ st.queue.length) (rest : List Entry)
    (last : Entry) (split : insertEntry parsed st.queue = rest ++ [last]) :
    Displaces config st parsed ↔ st.finalizedIdx < sequenceNumber last ∧ sequenceNumber last ≤ st.lastBroadcastPosition := by
  have sorted := insert_entry_increasing parsed st.queue inv.sorted fun queued => fresh (.inl queued)
  have ending : (insertEntry parsed st.queue).getLast? = some last := by rw [split, List.getLast?_concat]
  obtain ⟨member, greatest⟩ := (last_iff sequenceNumber _ last sorted).mp ending
  constructor
  · intro given
    obtain ⟨-, finalized, -, -, queueLast, queueEnding, unfinalized, reached⟩ := given
    obtain ⟨queueMember, queueGreatest⟩ := (last_iff sequenceNumber st.queue queueLast inv.sorted).mp queueEnding
    have atEnd : (insertEntry parsed st.queue).getLast? = some queueLast := by
      refine (last_iff sequenceNumber _ queueLast sorted).mpr ⟨(mem_insert_entry parsed queueLast st.queue).mpr (.inr queueMember), ?_⟩
      intro e inserted
      cases (mem_insert_entry parsed e st.queue).mp inserted with
      | inl same => exact same ▸ le_of_lt (lt_of_le_of_lt finalized unfinalized)
      | inr queued => exact queueGreatest e queued
    rw [ending] at atEnd
    obtain rfl := Option.some.inj atEnd
    exact ⟨unfinalized, reached⟩
  · intro given
    obtain ⟨unfinalized, reached⟩ := given
    have queued : last ∈ st.queue := by
      cases (mem_insert_entry parsed last st.queue).mp member with
      | inl same => exact absurd (.inl (held _ (same ▸ unfinalized) (same ▸ reached))) fresh
      | inr queued => exact queued
    have below := greatest parsed ((mem_insert_entry parsed parsed st.queue).mpr (.inl rfl))
    have finalized : sequenceNumber parsed ≤ st.finalizedIdx := by
      apply not_lt.mp
      intro live
      exact fresh (.inl (held _ live (le_trans below reached)))
    refine ⟨started, finalized, fresh, full, last, ?_, unfinalized, reached⟩
    exact (last_iff sequenceNumber st.queue last inv.sorted).mpr
      ⟨queued, fun e old => greatest e ((mem_insert_entry parsed e st.queue).mpr (.inr old))⟩

theorem filter_message_held_iff (config : StreamerConfig) (st : Streamer Entry FeedMessage) (parsed : Entry)
    (inv : StreamerInv config st) (held : LivePresent InQueue st) :
    LivePresent InQueue (filterMessage config st parsed) ↔ ¬ Displaces config st parsed := by
  have outcome := filter_message_outcome config st parsed inv.sorted
  generalize filterMessage config st parsed = next at outcome ⊢
  cases outcome with
  | skipped known =>
      refine iff_of_true held ?_
      intro given
      obtain ⟨started, -, fresh, -⟩ := given
      exact known.elim (not_lt.mpr started) fresh
  | kept started fresh room =>
      refine iff_of_true ?_ ?_
      · intro seq unfinalized reached
        obtain ⟨e, member, same⟩ := held seq unfinalized reached
        exact ⟨e, (mem_insert_entry parsed e st.queue).mpr (.inr member), same⟩
      · intro given
        obtain ⟨-, -, -, full, -⟩ := given
        omega
  | evicted started fresh full rest last split =>
      have sorted := insert_entry_increasing parsed st.queue inv.sorted fun queued => fresh (.inl queued)
      rw [split] at sorted
      obtain ⟨-, -, below⟩ := List.pairwise_append.mp sorted
      rw [displaced_iff_evicted config st parsed inv held started fresh full rest last split]
      constructor
      · intro kept given
        obtain ⟨unfinalized, reached⟩ := given
        obtain ⟨e, member, same⟩ := kept (sequenceNumber last) unfinalized reached
        exact ne_of_lt (below e member last (by simp)) same
      · intro spared seq unfinalized reached
        obtain ⟨e, member, rfl⟩ := held seq unfinalized reached
        have inserted := (mem_insert_entry parsed e st.queue).mpr (.inr member)
        rw [split, List.mem_append, List.mem_singleton] at inserted
        cases inserted with
        | inl remaining => exact ⟨e, remaining, rfl⟩
        | inr same => exact absurd ⟨same ▸ unfinalized, same ▸ reached⟩ spared

theorem filter_message_live_tracked (config : StreamerConfig) (st : Streamer Entry FeedMessage) (parsed : Entry)
    (inv : StreamerInv config st) (live : LivePresent Tracked st) : LivePresent Tracked (filterMessage config st parsed) := by
  obtain ⟨finalized, position⟩ := filter_message_indices config st parsed inv.sorted
  intro seq unfinalized reached
  rw [finalized] at unfinalized
  rw [position] at reached
  exact (filter_message_tracked config st parsed inv seq).mpr (.inl (live seq unfinalized reached))

theorem filter_message_keeps_stub (config : StreamerConfig) (st : Streamer Entry FeedMessage) (parsed : Entry)
    (sorted : Increasing sequenceNumber st.queue) (seq : UInt64) (stubbed : seq ∈ st.stubs) :
    seq ∈ (filterMessage config st parsed).stubs := by
  have outcome := filter_message_outcome config st parsed sorted
  generalize filterMessage config st parsed = next at outcome ⊢
  cases outcome with
  | skipped known => exact stubbed
  | kept started fresh room => exact stubbed
  | evicted started fresh full rest last split => exact ExtTreeMap.mem_insert.mpr (.inr stubbed)

-- Within a delivery a displaced message cannot come back: it is a stub, and only promotion takes a stub back.
theorem filter_message_stays_lost (config : StreamerConfig) (st : Streamer Entry FeedMessage) (parsed : Entry)
    (inv : StreamerInv config st) (live : LivePresent Tracked st) (lost : ¬ LivePresent InQueue st) :
    ¬ LivePresent InQueue (filterMessage config st parsed) := by
  obtain ⟨finalized, position⟩ := filter_message_indices config st parsed inv.sorted
  intro held
  apply lost
  intro seq unfinalized reached
  cases live seq unfinalized reached with
  | inl queued => exact queued
  | inr stubbed =>
      have back := held seq (finalized ▸ unfinalized) (position ▸ reached)
      exact absurd (filter_message_keeps_stub config st parsed inv.sorted seq stubbed)
        ((filter_message_invariant config st parsed inv).separate seq back)

structure LiveInv (config : StreamerConfig) (st : Streamer Entry FeedMessage) : Prop where
  inv : StreamerInv config st
  live : LivePresent Tracked st

theorem filter_message_live_invariant (config : StreamerConfig) (st : Streamer Entry FeedMessage) (parsed : Entry)
    (sound : LiveInv config st) : LiveInv config (filterMessage config st parsed) :=
  ⟨filter_message_invariant config st parsed sound.inv, filter_message_live_tracked config st parsed sound.inv sound.live⟩

theorem filter_messages_live_invariant (config : StreamerConfig) (st : Streamer Entry FeedMessage) (entries : List Entry)
    (sound : LiveInv config st) : LiveInv config (filterMessages config st entries) :=
  History.run_invariant _ (LiveInv config) (fun _ => True)
    (fun state parsed _ => filter_message_live_invariant config state parsed) st entries (fun _ _ => trivial) sound

theorem filter_messages_held_iff (config : StreamerConfig) (st : Streamer Entry FeedMessage) (entries : List Entry)
    (sound : LiveInv config st) (held : LivePresent InQueue st) :
    LivePresent InQueue (filterMessages config st entries) ↔
      History.Taken (filterMessage config) st entries fun state parsed => ¬ Displaces config state parsed :=
  History.final_iff_taken _ (LiveInv config) (LivePresent InQueue) (fun _ => True) _
    (fun state parsed _ => filter_message_live_invariant config state parsed)
    (fun state parsed _ before => filter_message_held_iff config state parsed before.inv)
    (fun state parsed _ before => filter_message_stays_lost config state parsed before.inv before.live)
    st entries (fun _ _ => trivial) sound held

theorem step_streamer_live_invariant (config : StreamerConfig) (rollup : Rollup Transaction Entry FeedMessage)
    (st : Streamer Entry FeedMessage) (event : StreamerEvent Transaction) (sound : LiveInv config st) :
    LiveInv config (stepStreamer config rollup st event) := by
  refine ⟨step_streamer_invariant config rollup st event sound.inv, ?_⟩
  cases event with
  | hotshotTransactions transactions height send =>
      have filtered := filter_messages_live_invariant config st (rollup.parseHotshotTransactions transactions height) sound
      exact live_present_broadcast tracked_lasting rollup send _ filtered.inv.sorted filtered.live
  | finalization newFinalizedIdx reader =>
      exact live_present_finalization tracked_lasting config rollup reader newFinalizedIdx st sound.inv sound.live
  | broadcastRetry send =>
      exact live_present_broadcast tracked_lasting rollup send { st with retryScheduled := false } sound.inv.sorted sound.live

theorem live_present_before_broadcast (rollup : Rollup Transaction Entry FeedMessage) (send : Nat → TrySend)
    (st : Streamer Entry FeedMessage) (sorted : Increasing sequenceNumber st.queue)
    (held : LivePresent InQueue (tryBroadcastFeedMessage rollup send st)) : LivePresent InQueue st := by
  intro seq unfinalized reached
  have same := broadcast_loop_tracked rollup send (findContiguousEntriesAfter st.queue st.lastBroadcastPosition) 0 st
  have queued := held seq ((broadcast_loop_finalized rollup send _ 0 st).symm ▸ unfinalized)
    (le_trans reached (try_broadcast_position rollup send st sorted).1)
  exact in_queue_lasting.same _ st seq ⟨same.queue.symm, same.stubs.symm⟩ queued

def SparesLive (config : StreamerConfig) (rollup : Rollup Transaction Entry FeedMessage) (st : Streamer Entry FeedMessage) :
    StreamerEvent Transaction → Prop
  | .hotshotTransactions transactions height _ =>
      History.Taken (filterMessage config) st (rollup.parseHotshotTransactions transactions height)
        fun state parsed => ¬ Displaces config state parsed
  | .finalization _ _ => True
  | .broadcastRetry _ => True

theorem step_streamer_held_iff (config : StreamerConfig) (rollup : Rollup Transaction Entry FeedMessage)
    (st : Streamer Entry FeedMessage) (event : StreamerEvent Transaction) (sound : LiveInv config st)
    (held : LivePresent InQueue st) :
    LivePresent InQueue (stepStreamer config rollup st event) ↔ SparesLive config rollup st event := by
  cases event with
  | hotshotTransactions transactions height send =>
      have filtered := filter_messages_live_invariant config st (rollup.parseHotshotTransactions transactions height) sound
      rw [SparesLive, ← filter_messages_held_iff config st _ sound held]
      exact ⟨live_present_before_broadcast rollup send _ filtered.inv.sorted,
        live_present_broadcast in_queue_lasting rollup send _ filtered.inv.sorted⟩
  | finalization newFinalizedIdx reader =>
      exact iff_of_true (live_present_finalization in_queue_lasting config rollup reader newFinalizedIdx st sound.inv held) trivial
  | broadcastRetry send =>
      exact iff_of_true
        (live_present_broadcast in_queue_lasting rollup send { st with retryScheduled := false } sound.inv.sorted held) trivial

omit [RollupQueueEntry Entry] in
theorem new_streamer_live (present : Streamer Entry FeedMessage → UInt64 → Prop) (finalizedIdx : UInt64) :
    LivePresent present (.new finalizedIdx) := by
  intro seq unfinalized reached
  exact absurd (lt_of_lt_of_le unfinalized reached) (not_lt.mpr UInt64.zero_le)

/-- Every state of a run holds in full each message broadcast and not yet finalized exactly when no delivery brings an
untracked finalized message into a full queue whose last entry is such a message. -/
theorem broadcast_messages_held_iff (config : StreamerConfig) (rollup : Rollup Transaction Entry FeedMessage) (finalizedIdx : UInt64)
    (events : List (StreamerEvent Transaction)) :
    History.Reached (stepStreamer config rollup) (.new finalizedIdx) events
        (fun st => ∀ seq, st.finalizedIdx < seq → seq ≤ st.lastBroadcastPosition → ∃ e ∈ st.queue, sequenceNumber e = seq) ↔
      History.Taken (stepStreamer config rollup) (.new finalizedIdx) events (SparesLive config rollup) :=
  History.reached_iff_taken _ (LiveInv config) (LivePresent InQueue) (fun _ => True) _
    (fun st event _ => step_streamer_live_invariant config rollup st event)
    (fun st event _ => step_streamer_held_iff config rollup st event)
    _ events (fun _ _ => trivial) ⟨new_streamer_invariant config finalizedIdx, new_streamer_live Tracked finalizedIdx⟩
    (new_streamer_live InQueue finalizedIdx)

-- One slot: message 1 is finalized, message 2 is broadcast, and message 1 is posted again.
def replayedFinalizedRun : List (StreamerEvent (List UInt8)) :=
  [.hotshotTransactions [[makeMockEspressoTransaction 1]] 1 (fun _ => .accepted), .finalization 1 (fun _ _ => some []),
    .hotshotTransactions [[makeMockEspressoTransaction 2]] 2 (fun _ => .accepted),
    .hotshotTransactions [[makeMockEspressoTransaction 1]] 3 (fun _ => .accepted)]

theorem replay_displaces_broadcast :
    (runStreamer ⟨1, 1⟩ mockRollup.toRollup 0 replayedFinalizedRun).finalizedIdx < 2 ∧
      2 ≤ (runStreamer ⟨1, 1⟩ mockRollup.toRollup 0 replayedFinalizedRun).lastBroadcastPosition ∧
      ¬ ∃ e ∈ (runStreamer ⟨1, 1⟩ mockRollup.toRollup 0 replayedFinalizedRun).queue, sequenceNumber e = 2 := by
  decide +kernel

def NoneFinalized (st : Streamer Entry FeedMessage) : Prop := ∀ seq, Tracked st seq → st.finalizedIdx < seq

def BringsUnfinalized (config : StreamerConfig) (rollup : Rollup Transaction Entry FeedMessage) (st : Streamer Entry FeedMessage) :
    StreamerEvent Transaction → Prop
  | .hotshotTransactions transactions height _ => ∀ parsed ∈ rollup.parseHotshotTransactions transactions height,
      config.startingPos ≤ sequenceNumber parsed → st.finalizedIdx < sequenceNumber parsed
  | .finalization _ _ => True
  | .broadcastRetry _ => True

theorem filter_messages_finalized (config : StreamerConfig) (st : Streamer Entry FeedMessage) (entries : List Entry)
    (inv : StreamerInv config st) : (filterMessages config st entries).finalizedIdx = st.finalizedIdx := by
  induction entries generalizing st with
  | nil => rfl
  | cons parsed tail ih =>
      have rest := ih (filterMessage config st parsed) (filter_message_invariant config st parsed inv)
      rw [filterMessages, History.run_cons, ← filterMessages, rest]
      exact (filter_message_indices config st parsed inv.sorted).1

theorem same_tracked_none_finalized (before after : Streamer Entry FeedMessage) (same : SameTracked before after)
    (finalized : after.finalizedIdx = before.finalizedIdx) : NoneFinalized after ↔ NoneFinalized before := by
  simp only [NoneFinalized, Tracked, InQueue, same.queue, same.stubs, finalized]

theorem filter_messages_none_finalized_iff (config : StreamerConfig) (st : Streamer Entry FeedMessage) (entries : List Entry)
    (inv : StreamerInv config st) (clean : NoneFinalized st) :
    NoneFinalized (filterMessages config st entries) ↔
      ∀ parsed ∈ entries, config.startingPos ≤ sequenceNumber parsed → st.finalizedIdx < sequenceNumber parsed := by
  simp only [NoneFinalized, filter_messages_tracked config st entries inv, filter_messages_finalized config st entries inv]
  constructor
  · intro after parsed member started
    exact after _ (.inr ⟨started, parsed, member, rfl⟩)
  · intro fine seq tracked
    cases tracked with
    | inl old => exact clean seq old
    | inr new =>
        obtain ⟨started, parsed, member, rfl⟩ := new
        exact fine parsed member started

theorem advance_none_finalized (config : StreamerConfig) (rollup : Rollup Transaction Entry FeedMessage) (reader : Reader Transaction)
    (newFinalizedIdx : UInt64) (st : Streamer Entry FeedMessage) (inv : StreamerInv config st)
    (advanced : st.finalizedIdx < newFinalizedIdx) :
    NoneFinalized (handleFinalization config rollup reader newFinalizedIdx st) := by
  have sound := same_tracked_invariant config st _ (skip_finalized_tracked newFinalizedIdx st) inv
  have idx := skip_finalized_idx newFinalizedIdx st
  simp only [handleFinalization]
  generalize skipFinalized newFinalizedIdx st = moved at idx sound ⊢
  rw [if_neg (idx ▸ not_le.mpr advanced)]
  refine promote_stubs_rule config rollup reader NoneFinalized ?_ _ (prune_invariant config newFinalizedIdx moved sound).bounded ?_
  · intro state entry clean stub _ seq tracked
    apply clean seq
    rw [tracked_iff_at] at tracked ⊢
    simpa only [promote_entry_tracked_at state entry stub] using tracked
  · intro seq tracked
    cases tracked with
    | inl queued => exact ((prune_in_queue newFinalizedIdx moved seq sound.sorted).mp queued).1
    | inr stubbed => exact ((prune_stubbed newFinalizedIdx moved seq).mp stubbed).1

theorem stale_finalization (config : StreamerConfig) (rollup : Rollup Transaction Entry FeedMessage) (reader : Reader Transaction)
    (newFinalizedIdx : UInt64) (st : Streamer Entry FeedMessage) (stale : newFinalizedIdx ≤ st.finalizedIdx) :
    handleFinalization config rollup reader newFinalizedIdx st = skipFinalized newFinalizedIdx st := by
  simp only [handleFinalization]
  rw [if_pos (skip_finalized_idx newFinalizedIdx st ▸ stale)]

theorem step_streamer_none_finalized_iff (config : StreamerConfig) (rollup : Rollup Transaction Entry FeedMessage)
    (st : Streamer Entry FeedMessage) (event : StreamerEvent Transaction) (inv : StreamerInv config st) (clean : NoneFinalized st) :
    NoneFinalized (stepStreamer config rollup st event) ↔ BringsUnfinalized config rollup st event := by
  cases event with
  | hotshotTransactions transactions height send =>
      rw [BringsUnfinalized, ← filter_messages_none_finalized_iff config st _ inv clean]
      exact same_tracked_none_finalized _ _ (broadcast_loop_tracked rollup send _ 0 _) (broadcast_loop_finalized rollup send _ 0 _)
  | finalization newFinalizedIdx reader =>
      refine iff_of_true ?_ trivial
      by_cases advanced : st.finalizedIdx < newFinalizedIdx
      · exact advance_none_finalized config rollup reader newFinalizedIdx st inv advanced
      · rw [stepStreamer, stale_finalization config rollup reader newFinalizedIdx st (not_lt.mp advanced)]
        exact (same_tracked_none_finalized st _ (skip_finalized_tracked newFinalizedIdx st) (skip_finalized_idx newFinalizedIdx st)).mpr clean
  | broadcastRetry send =>
      refine iff_of_true ?_ trivial
      exact (same_tracked_none_finalized { st with retryScheduled := false } _ (broadcast_loop_tracked rollup send _ 0 _)
        (broadcast_loop_finalized rollup send _ 0 _)).mpr clean

/-- After a finalization has advanced the index, no finalized message is tracked in any later state exactly when no later
delivery brings a message at or below the finalized index of its moment. -/
theorem none_finalized_after_advance_iff (config : StreamerConfig) (rollup : Rollup Transaction Entry FeedMessage)
    (finalizedIdx newFinalizedIdx : UInt64) (reader : Reader Transaction) (before after : List (StreamerEvent Transaction))
    (advanced : (runStreamer config rollup finalizedIdx before).finalizedIdx < newFinalizedIdx) :
    History.Reached (stepStreamer config rollup)
        (runStreamer config rollup finalizedIdx (before ++ [.finalization newFinalizedIdx reader])) after
        (fun st => ∀ seq, seq ≤ st.finalizedIdx → (¬ ∃ e ∈ st.queue, sequenceNumber e = seq) ∧ seq ∉ st.stubs) ↔
      History.Taken (stepStreamer config rollup)
        (runStreamer config rollup finalizedIdx (before ++ [.finalization newFinalizedIdx reader])) after
        (BringsUnfinalized config rollup) := by
  have start : runStreamer config rollup finalizedIdx (before ++ [.finalization newFinalizedIdx reader]) =
      handleFinalization config rollup reader newFinalizedIdx (runStreamer config rollup finalizedIdx before) :=
    History.run_append _ _ before _
  have clean := advance_none_finalized config rollup reader newFinalizedIdx _
    (run_streamer_invariant config rollup finalizedIdx before) advanced
  rw [← start] at clean
  have sense : ∀ st : Streamer Entry FeedMessage,
      (∀ seq, seq ≤ st.finalizedIdx → (¬ ∃ e ∈ st.queue, sequenceNumber e = seq) ∧ seq ∉ st.stubs) ↔ NoneFinalized st := by
    intro st
    refine forall_congr' fun seq => ?_
    rw [← not_or, ← not_lt, not_imp_not]
    rfl
  simp only [History.Reached, sense]
  exact History.reached_iff_taken _ (StreamerInv config) NoneFinalized (fun _ => True) _
    (fun st event _ => step_streamer_invariant config rollup st event)
    (fun st event _ => step_streamer_none_finalized_iff config rollup st event)
    _ after (fun _ _ => trivial) (run_streamer_invariant config rollup finalizedIdx _) clean

theorem none_finalized_while_fresh :
    History.Reached (stepStreamer ⟨1, 1⟩ mockRollup.toRollup)
      (runStreamer ⟨1, 1⟩ mockRollup.toRollup 0
        ([.hotshotTransactions [[makeMockEspressoTransaction 1]] 1 (fun _ => .accepted)] ++ [.finalization 1 fun _ _ => some []]))
      [.hotshotTransactions [[makeMockEspressoTransaction 2]] 2 (fun _ => .accepted)]
      (fun st => ∀ seq, seq ≤ st.finalizedIdx → (¬ ∃ e ∈ st.queue, sequenceNumber e = seq) ∧ seq ∉ st.stubs) := by
  apply (none_finalized_after_advance_iff _ _ _ _ _ _ _ (by decide +kernel)).mpr
  rw [History.taken_cons]
  refine ⟨?_, History.taken_nil _ _ _⟩
  change ∀ parsed ∈ _, _
  decide +kernel

theorem replay_tracks_finalized :
    (runStreamer ⟨1, 1⟩ mockRollup.toRollup 0 replayedFinalizedRun).finalizedIdx = 1 ∧
      ∃ e ∈ (runStreamer ⟨1, 1⟩ mockRollup.toRollup 0 replayedFinalizedRun).queue, sequenceNumber e = 1 := by
  decide +kernel

end Cas
