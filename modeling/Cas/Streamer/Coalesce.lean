import Cas.Streamer.Arrival

set_option autoImplicit false

namespace Cas

open RollupQueueEntry SortedSlice
open Std (ExtTreeMap)

variable {Transaction Entry FeedMessage : Type} [RollupQueueEntry Entry]

def OccursOnce (rollup : PositionalRollup Transaction Entry FeedMessage) (chain : Chain Transaction) (seq : UInt64) : Prop :=
  ∃ height, (named seq (entriesAt rollup chain height)).length = 1 ∧
    ∀ other, other ≠ height → named seq (entriesAt rollup chain other) = []

section Chain

variable (rollup : PositionalRollup Transaction Entry FeedMessage) (chain : Chain Transaction) (seq : UInt64)
  (once : OccursOnce rollup chain seq)

include once

theorem occurs_once_height (height other : UInt64) (here : named seq (entriesAt rollup chain height) ≠ [])
    (there : named seq (entriesAt rollup chain other) ≠ []) : height = other := by
  obtain ⟨only, -, elsewhere⟩ := once
  have first : height = only := by
    by_contra different
    exact here (elsewhere height different)
  have second : other = only := by
    by_contra different
    exact there (elsewhere other different)
  rw [first, second]

theorem occurs_once_apart (e other : Entry) (named : sequenceNumber e = seq) (otherNamed : sequenceNumber other = seq)
    (listed : e ∈ entriesAt rollup chain (hotshotHeight e)) (otherListed : other ∈ entriesAt rollup chain (hotshotHeight other)) :
    e = other := by
  have same := occurs_once_height rollup chain seq once _ _ ((named_ne_nil seq _).mpr ⟨e, listed, named⟩)
    ((named_ne_nil seq _).mpr ⟨other, otherListed, otherNamed⟩)
  rw [← same] at otherListed
  obtain ⟨only, single, elsewhere⟩ := once
  have here : hotshotHeight e = only := by
    by_contra different
    exact (named_ne_nil seq _).mpr ⟨e, listed, named⟩ (elsewhere _ different)
  rw [here] at listed otherListed
  obtain ⟨held, alone⟩ := List.length_eq_one_iff.mp single
  have eHeld : e ∈ Cas.named seq (entriesAt rollup chain only) := List.mem_filter.mpr ⟨listed, decide_eq_true named⟩
  have otherHeld : other ∈ Cas.named seq (entriesAt rollup chain only) := List.mem_filter.mpr ⟨otherListed, decide_eq_true otherNamed⟩
  rw [alone, List.mem_singleton] at eHeld otherHeld
  rw [eHeld, otherHeld]

end Chain

section Promotion

variable (config : StreamerConfig) (st after : Streamer Entry FeedMessage) (lowest : PromotesLowest config st after)

include lowest

theorem promotes_lowest_tracked_at (seq height : UInt64) : TrackedAt after seq height ↔ TrackedAt st seq height := by
  rw [TrackedAt, TrackedAt, lowest.moved, lowest.left, or_assoc]
  apply or_congr_right
  constructor
  · intro given
    cases given with
    | inl selected => exact stubs_to_promote_present config st (seq, height) selected
    | inr left => exact left.1
  · intro stubbed
    by_cases selected : (seq, height) ∈ stubsToPromote config st
    · exact .inl selected
    · exact .inr ⟨stubbed, selected⟩

theorem promotes_lowest_positions (sorted : Increasing sequenceNumber st.queue) (afterSorted : Increasing sequenceNumber after.queue)
    (above : StubsAbove st) : after.queue.map position = st.queue.map position ++ stubsToPromote config st := by
  refine increasing_unique Prod.fst _ _ (List.pairwise_map.mpr afterSorted)
    (List.pairwise_append.mpr ⟨List.pairwise_map.mpr sorted, stubs_to_promote_ordered config st, ?_⟩) ?_
  · intro queued member stub selected
    obtain ⟨e, inQueue, rfl⟩ := List.mem_map.mp member
    have present := stubs_to_promote_present config st stub selected
    exact above stub.1 (ExtTreeMap.mem_iff_isSome_getElem?.mpr (by rw [present]; rfl)) e inQueue
  · intro place
    obtain ⟨seq, height⟩ := place
    rw [mem_queue_positions, lowest.moved, List.mem_append, mem_queue_positions]

theorem promotes_lowest_left (seq : UInt64) (left : seq ∈ after.stubs) :
    (∃ height, st.stubs[seq]? = some height) ∧ (∀ stub ∈ stubsToPromote config st, stub.1 < seq) ∧
      config.maxFullQueueEntries ≤ st.queue.length + (stubsToPromote config st).length := by
  obtain ⟨height, lookup⟩ := Option.isSome_iff_exists.mp (ExtTreeMap.mem_iff_isSome_getElem?.mp left)
  obtain ⟨stubbed, unselected⟩ := (lowest.left seq height).mp lookup
  have listed := ExtTreeMap.mem_toList_iff_getElem?_eq_some.mpr stubbed
  have ordered := stubs_ordered st.stubs
  rw [stubsToPromote] at unselected ⊢
  generalize count : min (config.maxFullQueueEntries - st.queue.length) st.stubs.size = promoted at unselected ⊢
  rw [← List.take_append_drop promoted st.stubs.toList] at listed ordered
  have rest : (seq, height) ∈ st.stubs.toList.drop promoted := (List.mem_append.mp listed).resolve_left unselected
  refine ⟨⟨height, stubbed⟩, fun stub selected => (List.pairwise_append.mp ordered).2.2 stub selected _ rest, ?_⟩
  have more := List.length_pos_of_mem rest
  rw [List.length_drop, ExtTreeMap.length_toList] at more
  rw [List.length_take, ExtTreeMap.length_toList]
  omega

theorem promotes_lowest_packed (sorted : Increasing sequenceNumber st.queue) (inv : StreamerInv config after) (above : StubsAbove st) :
    Packed config after := by
  have positions := promotes_lowest_positions config st after lowest sorted inv.sorted above
  refine ⟨inv.sorted, inv.bounded, fun seq left e member => ?_, fun seq left => ?_⟩
  · obtain ⟨⟨height, stubbed⟩, higher, -⟩ := promotes_lowest_left config st after lowest seq left
    have listed := List.mem_map_of_mem (f := position) member
    rw [positions] at listed
    cases List.mem_append.mp listed with
    | inl queued =>
        obtain ⟨old, inQueue, same⟩ := List.mem_map.mp queued
        have less := above seq (ExtTreeMap.mem_iff_isSome_getElem?.mpr (by rw [stubbed]; rfl)) old inQueue
        have number : sequenceNumber old = sequenceNumber e := congrArg Prod.fst same
        rwa [number] at less
    | inr selected => exact higher (position e) selected
  · obtain ⟨-, -, filled⟩ := promotes_lowest_left config st after lowest seq left
    have size := congrArg List.length positions
    rw [List.length_append, List.length_map, List.length_map] at size
    omega

end Promotion

structure Refetches (config : StreamerConfig) (chain : Chain Transaction) (reader : Reader Transaction) (newFinalizedIdx : UInt64)
    (st : Streamer Entry FeedMessage) : Prop where
  reads : ReadsChain chain reader
  answered : st.finalizedIdx < newFinalizedIdx → Answered config reader (prune newFinalizedIdx (skipFinalized newFinalizedIdx st))

structure PackedFrom (config : StreamerConfig) (rollup : PositionalRollup Transaction Entry FeedMessage) (chain : Chain Transaction)
    (st : Streamer Entry FeedMessage) : Prop where
  sound : ChainInv config rollup chain st
  packed : Packed config st
  once : ∀ seq, Tracked st seq → OccursOnce rollup chain seq

section Finalization

variable (config : StreamerConfig) (rollup : PositionalRollup Transaction Entry FeedMessage) (chain : Chain Transaction)

omit [RollupQueueEntry Entry] in
theorem skip_finalized_position (newFinalizedIdx : UInt64) (st : Streamer Entry FeedMessage) :
    (skipFinalized newFinalizedIdx st).lastBroadcastPosition = max st.lastBroadcastPosition newFinalizedIdx := by
  unfold skipFinalized
  split
  · rename_i beyond
    exact (max_eq_right (le_of_lt beyond)).symm
  · rename_i within
    exact (max_eq_left (not_lt.mp within)).symm

theorem advancing_finalization (reader : Reader Transaction) (newFinalizedIdx : UInt64) (st : Streamer Entry FeedMessage)
    (advances : st.finalizedIdx < newFinalizedIdx) :
    handleFinalization config rollup.toRollup reader newFinalizedIdx st =
      promoteStubs config rollup.toRollup reader (prune newFinalizedIdx (skipFinalized newFinalizedIdx st)) := by
  simp only [handleFinalization]
  rw [if_neg (skip_finalized_idx newFinalizedIdx st ▸ not_le.mpr advances)]

structure Finalized (newFinalizedIdx : UInt64) (st after : Streamer Entry FeedMessage) : Prop where
  next : PackedFrom config rollup chain after
  tracked : ∀ seq height, TrackedAt after seq height ↔ (st.finalizedIdx < newFinalizedIdx → newFinalizedIdx < seq) ∧ TrackedAt st seq height
  finalizedIdx : after.finalizedIdx = max st.finalizedIdx newFinalizedIdx
  lastBroadcastPosition : after.lastBroadcastPosition = max st.lastBroadcastPosition newFinalizedIdx

theorem once_not_shadowed (st : Streamer Entry FeedMessage) (sound : ChainInv config rollup chain st)
    (once : ∀ seq, Tracked st seq → OccursOnce rollup chain seq) (stub : UInt64 × UInt64) (selected : stub ∈ stubsToPromote config st) :
    ¬ Shadowed config rollup chain st stub := by
  intro shadowed
  obtain ⟨later, above, -, occurs⟩ := shadowed
  have present := stubs_to_promote_present config st stub selected
  have tracked : Tracked st stub.1 := .inr (ExtTreeMap.mem_iff_isSome_getElem?.mpr (by rw [present]; rfl))
  have same := occurs_once_height rollup chain stub.1 (once stub.1 tracked) stub.2 later
    (selected_occurs config rollup chain st sound stub selected) ((named_ne_nil _ _).mpr occurs)
  exact ne_of_lt above same

theorem advanced_outcome (reader : Reader Transaction) (newFinalizedIdx : UInt64) (st : Streamer Entry FeedMessage)
    (state : PackedFrom config rollup chain st) (refetches : Refetches config chain reader newFinalizedIdx st)
    (advances : st.finalizedIdx < newFinalizedIdx) :
    Finalized config rollup chain newFinalizedIdx st
      (promoteStubs config rollup.toRollup reader (prune newFinalizedIdx (skipFinalized newFinalizedIdx st))) := by
  have same := skip_finalized_tracked newFinalizedIdx st
  have sorted := (same_tracked_invariant config st _ same state.sound.inv).sorted
  have sound := advanced_chain_invariant config rollup chain newFinalizedIdx st state.sound
  have above := prune_stubs_above newFinalizedIdx _ sorted ((same_tracked_above st _ same).mpr state.packed.above)
  have tracked : ∀ seq height, TrackedAt (prune newFinalizedIdx (skipFinalized newFinalizedIdx st)) seq height ↔
      (st.finalizedIdx < newFinalizedIdx → newFinalizedIdx < seq) ∧ TrackedAt st seq height := by
    intro seq height
    rw [prune_tracked_at newFinalizedIdx _ sorted, same_tracked_at st _ same]
    simp only [advances, true_imp_iff]
  have once : ∀ seq, Tracked (prune newFinalizedIdx (skipFinalized newFinalizedIdx st)) seq → OccursOnce rollup chain seq := by
    intro seq held
    obtain ⟨height, here⟩ := (tracked_iff_at _ seq).mp held
    exact state.once seq ((tracked_iff_at st seq).mpr ⟨height, ((tracked seq height).mp here).2⟩)
  have lowest := unshadowed_stubs_moved config rollup chain _ _ sound (once_not_shadowed config rollup chain _ sound once)
    (promote_stubs_outcome config rollup chain reader refetches.reads _ sound (refetches.answered advances))
  have after := promote_stubs_chain_invariant config rollup chain reader refetches.reads _ sound
  have kept := promotes_lowest_tracked_at config _ _ lowest
  have indices := promote_stubs_rule config rollup.toRollup reader
    (fun next => next.finalizedIdx = newFinalizedIdx ∧ next.lastBroadcastPosition = max st.lastBroadcastPosition newFinalizedIdx)
    (fun _ _ unchanged _ _ => unchanged) _ sound.inv.bounded ⟨rfl, skip_finalized_position newFinalizedIdx st⟩
  refine ⟨⟨after, promotes_lowest_packed config _ _ lowest sound.inv.sorted after.inv above, fun seq held => ?_⟩,
    fun seq height => (kept seq height).trans (tracked seq height), ?_, indices.2⟩
  · obtain ⟨height, here⟩ := (tracked_iff_at _ seq).mp held
    exact once seq ((tracked_iff_at _ seq).mpr ⟨height, (kept seq height).mp here⟩)
  · rw [indices.1, max_eq_right (le_of_lt advances)]

theorem stale_outcome (newFinalizedIdx : UInt64) (st : Streamer Entry FeedMessage) (state : PackedFrom config rollup chain st)
    (stale : newFinalizedIdx ≤ st.finalizedIdx) : Finalized config rollup chain newFinalizedIdx st (skipFinalized newFinalizedIdx st) := by
  have same := skip_finalized_tracked newFinalizedIdx st
  refine ⟨⟨same_tracked_chain_invariant config rollup chain st _ same state.sound, ?_, ?_⟩, fun seq height => ?_, ?_,
    skip_finalized_position newFinalizedIdx st⟩
  · obtain ⟨sorted, bounded, above, full⟩ := state.packed
    exact ⟨same.queue ▸ sorted, same.queue ▸ bounded, (same_tracked_above st _ same).mpr above, by simpa only [same.queue, same.stubs] using full⟩
  · simpa only [Tracked, InQueue, same.queue, same.stubs] using state.once
  · rw [same_tracked_at st _ same]
    exact ⟨fun held => ⟨fun advances => absurd advances (not_lt.mpr stale), held⟩, And.right⟩
  · rw [skip_finalized_idx, max_eq_left stale]

theorem finalization_outcome (reader : Reader Transaction) (newFinalizedIdx : UInt64) (st : Streamer Entry FeedMessage)
    (state : PackedFrom config rollup chain st) (refetches : Refetches config chain reader newFinalizedIdx st) :
    Finalized config rollup chain newFinalizedIdx st (handleFinalization config rollup.toRollup reader newFinalizedIdx st) := by
  by_cases advances : st.finalizedIdx < newFinalizedIdx
  · rw [advancing_finalization config rollup reader newFinalizedIdx st advances]
    exact advanced_outcome config rollup chain reader newFinalizedIdx st state refetches advances
  · rw [stale_finalization config rollup.toRollup reader newFinalizedIdx st (not_lt.mp advances)]
    exact stale_outcome config rollup chain newFinalizedIdx st state (not_lt.mp advances)

theorem finalized_trans (first second : UInt64) (st between after : Streamer Entry FeedMessage)
    (former : Finalized config rollup chain first st between) (latter : Finalized config rollup chain second between after) :
    Finalized config rollup chain (max first second) st after := by
  refine ⟨latter.next, fun seq height => ?_, ?_, ?_⟩
  · have bound : ((max st.finalizedIdx first < second → second < seq) ∧ (st.finalizedIdx < first → first < seq)) ↔
        (st.finalizedIdx < max first second → max first second < seq) := by
      simp only [UInt64.lt_iff_toNat_lt, Word64.toNat_max]
      omega
    rw [latter.tracked, former.tracked, former.finalizedIdx, ← and_assoc, bound]
  · rw [latter.finalizedIdx, former.finalizedIdx, max_assoc]
  · rw [latter.lastBroadcastPosition, former.lastBroadcastPosition, max_assoc]

end Finalization

structure Agree (first second : Streamer Entry FeedMessage) : Prop where
  queue : first.queue = second.queue
  stubs : first.stubs = second.stubs
  finalizedIdx : first.finalizedIdx = second.finalizedIdx
  lastBroadcastPosition : first.lastBroadcastPosition = second.lastBroadcastPosition

theorem finalized_unique (config : StreamerConfig) (rollup : PositionalRollup Transaction Entry FeedMessage) (chain : Chain Transaction)
    (newFinalizedIdx : UInt64) (st first second : Streamer Entry FeedMessage)
    (once : ∀ seq, Tracked st seq → OccursOnce rollup chain seq) (one : Finalized config rollup chain newFinalizedIdx st first)
    (other : Finalized config rollup chain newFinalizedIdx st second) : Agree first second := by
  have source : ∀ after, Finalized config rollup chain newFinalizedIdx st after → ∀ e ∈ after.queue,
      e ∈ entriesAt rollup chain (hotshotHeight e) ∧ Tracked st (sequenceNumber e) := by
    intro after finalized e queued
    refine ⟨finalized.next.sound.origin.queued e queued, (tracked_iff_at st _).mpr ⟨hotshotHeight e, ?_⟩⟩
    exact ((finalized.tracked _ _).mp (.inl ⟨e, queued, rfl, rfl⟩)).2
  obtain ⟨queue, stubs⟩ := packed_unique config first second one.next.packed other.next.packed
    (fun seq height => (one.tracked seq height).trans (other.tracked seq height).symm)
    (fun e => e ∈ entriesAt rollup chain (hotshotHeight e) ∧ Tracked st (sequenceNumber e))
    (fun e twin known twinKnown same => occurs_once_apart rollup chain _ (once _ known.2) e twin rfl same.symm known.1 twinKnown.1)
    (source first one) (source second other)
  exact ⟨queue, stubs, one.finalizedIdx.trans other.finalizedIdx.symm, one.lastBroadcastPosition.trans other.lastBroadcastPosition.symm⟩

/-- Finalization updates coalesce: two calls leave the queue, the stubs and the positions that one call with the larger index
leaves, so that the watch channel may drop a value in between. -/
theorem finalizations_coalesce (config : StreamerConfig) (rollup : PositionalRollup Transaction Entry FeedMessage)
    (chain : Chain Transaction) (finalizedIdx : UInt64) (events : List (StreamerEvent Transaction))
    (fromChain : ∀ event ∈ events, FromChain chain event) (st : Streamer Entry FeedMessage)
    (reachable : st = runStreamer config rollup.toRollup finalizedIdx events) (above : StubsAbove st)
    (full : ∀ stub ∈ st.stubs, config.maxFullQueueEntries ≤ st.queue.length)
    (once : ∀ seq, Tracked st seq → OccursOnce rollup chain seq) (a b : UInt64) (firstReader secondReader singleReader : Reader Transaction)
    (first : Refetches config chain firstReader a st)
    (second : Refetches config chain secondReader b (handleFinalization config rollup.toRollup firstReader a st))
    (single : Refetches config chain singleReader (max a b) st) :
    Agree (handleFinalization config rollup.toRollup secondReader b (handleFinalization config rollup.toRollup firstReader a st))
      (handleFinalization config rollup.toRollup singleReader (max a b) st) := by
  have sound := run_streamer_provenance config rollup chain finalizedIdx events fromChain
  rw [← reachable] at sound
  have state : PackedFrom config rollup chain st := ⟨sound, ⟨sound.inv.sorted, sound.inv.bounded, above, full⟩, once⟩
  have between := finalization_outcome config rollup chain firstReader a st state first
  have last := finalization_outcome config rollup chain secondReader b _ between.next second
  have jointly := finalization_outcome config rollup chain singleReader (max a b) st state single
  exact finalized_unique config rollup chain (max a b) st _ _ once (finalized_trans config rollup chain a b st _ _ between last) jointly

theorem mock_occurs_once (block : List Nat) (seq : UInt64)
    (single : (named seq (mockParseBlock (block.map makeMockEspressoTransaction) 1)).length = 1) :
    OccursOnce mockRollup (mockChain [[], block]) seq := by
  refine ⟨1, single, fun other different => ?_⟩
  have nothing : [[], block].getD other.toNat [] = [] := by
    match index : other.toNat with
    | 0 => rfl
    | 1 => exact absurd (UInt64.toNat_inj.mp index) different
    | _ + 2 => rfl
  rw [entriesAt, mockChain, nothing]
  rfl

-- Five messages in one block, and two slots.
def fiveChain : Chain (List UInt8) := mockChain [[], [1, 2, 3, 4, 5]]

def fiveReader : Reader (List UInt8) := fun start stop => some (slice fiveChain start stop)

def fiveDelivered : Streamer MockEntry MockEntry := mockDelivered [[], [1, 2, 3, 4, 5]] 2

theorem five_refetches (newFinalizedIdx : UInt64) (st : Streamer MockEntry MockEntry) :
    Refetches ⟨1, 2⟩ fiveChain fiveReader newFinalizedIdx st :=
  ⟨fun _ _ _ answer => (Option.some.inj answer).symm, fun _ _ _ _ => Option.some_ne_none _⟩

theorem five_stubbed (seq : UInt64) (stubbed : seq ∈ fiveDelivered.stubs) : seq ∈ [3, 4, 5] := by
  have stubs : fiveDelivered.stubs.toList = [(3, 1), (4, 1), (5, 1)] := by decide +kernel
  obtain ⟨height, lookup⟩ := Option.isSome_iff_exists.mp (ExtTreeMap.mem_iff_isSome_getElem?.mp stubbed)
  have listed := List.mem_map_of_mem (f := Prod.fst) (ExtTreeMap.mem_toList_iff_getElem?_eq_some.mpr lookup)
  rwa [stubs] at listed

-- The first call promotes message 3, which the second drops again.
theorem five_finalizations_coalesce :
    (handleFinalization ⟨1, 2⟩ mockRollup.toRollup fiveReader 1 fiveDelivered).queue = [⟨2, 1⟩, ⟨3, 1⟩] ∧
      Agree (handleFinalization ⟨1, 2⟩ mockRollup.toRollup fiveReader 3
          (handleFinalization ⟨1, 2⟩ mockRollup.toRollup fiveReader 1 fiveDelivered))
        (handleFinalization ⟨1, 2⟩ mockRollup.toRollup fiveReader 3 fiveDelivered) := by
  have queue : fiveDelivered.queue = [⟨1, 1⟩, ⟨2, 1⟩] := by decide +kernel
  have low : ∀ e ∈ fiveDelivered.queue, sequenceNumber e ∈ [1, 2] := by
    rw [queue]
    decide
  have apart : ∀ number ∈ ([1, 2] : List UInt64), ∀ stub ∈ ([3, 4, 5] : List UInt64), number < stub := by simp
  have parsed : mockParseBlock ([1, 2, 3, 4, 5].map makeMockEspressoTransaction) 1 = [⟨1, 1⟩, ⟨2, 1⟩, ⟨3, 1⟩, ⟨4, 1⟩, ⟨5, 1⟩] := by
    decide +kernel
  have single : ∀ seq ∈ ([1, 2, 3, 4, 5] : List UInt64),
      (named seq (mockParseBlock ([1, 2, 3, 4, 5].map makeMockEspressoTransaction) 1)).length = 1 := by
    rw [parsed]
    simp [named, sequenceNumber]
  have larger : max (1 : UInt64) 3 = 3 := by decide
  have agree := finalizations_coalesce ⟨1, 2⟩ mockRollup fiveChain 0 [.hotshotTransactions (slice fiveChain 1 2) 1 fun _ => .accepted] ?_
    fiveDelivered (by rw [fiveDelivered, mockDelivered, fiveChain]) ?_ ?_ ?_ 1 3 fiveReader fiveReader fiveReader (five_refetches _ _)
    (five_refetches _ _) (five_refetches _ _)
  · rw [larger] at agree
    exact ⟨by decide +kernel, agree⟩
  · simp only [List.mem_singleton, forall_eq]
    rfl
  · exact fun stub stubbed e member => apart _ (low e member) stub (five_stubbed stub stubbed)
  · intro stub _
    rw [queue]
    exact le_refl 2
  · intro seq tracked
    apply mock_occurs_once
    cases tracked with
    | inl held =>
        obtain ⟨e, member, rfl⟩ := held
        exact single _ (List.mem_append_left [3, 4, 5] (low e member))
    | inr stubbed => exact single seq (List.mem_append_right [1, 2] (five_stubbed seq stubbed))

end Cas
