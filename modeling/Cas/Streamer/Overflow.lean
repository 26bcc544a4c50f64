import Cas.Streamer.Retention
import Cas.Streamer.Promotion

set_option autoImplicit false

namespace Cas

open RollupQueueEntry SortedSlice
open Std (ExtTreeMap ExtTreeSet)

variable {Transaction Entry FeedMessage : Type} [RollupQueueEntry Entry]

-- `stubs` is documented as the overflow of `queue`: what did not fit stands above what did.
def StubsAbove (st : Streamer Entry FeedMessage) : Prop := ∀ stub ∈ st.stubs, ∀ e ∈ st.queue, sequenceNumber e < stub

def BelowStubs (st : Streamer Entry FeedMessage) (seq : UInt64) : Prop := ∀ stub ∈ st.stubs, seq < stub

def Fresh (config : StreamerConfig) (st : Streamer Entry FeedMessage) (entries : List Entry) (seq : UInt64) : Prop :=
  (config.startingPos ≤ seq ∧ ∃ parsed ∈ entries, sequenceNumber parsed = seq) ∧ ¬ Tracked st seq

-- A delivery keeps the order when all that it adds lies below the stubs,
-- or when what it adds below them fills the queue by itself.
def DeliversInOrder (config : StreamerConfig) (st : Streamer Entry FeedMessage) (entries : List Entry) : Prop :=
  (∀ seq, Fresh config st entries seq → BelowStubs st seq) ∨
    ∃ numbers : List UInt64, numbers.Nodup ∧ (∀ seq ∈ numbers, Fresh config st entries seq ∧ BelowStubs st seq) ∧
      config.maxFullQueueEntries ≤ st.queue.length + numbers.length

-- A re-fetch keeps the order unless it finds nothing for one selected stub and the right entry for a later one.
def PromotesInOrder (config : StreamerConfig) (rollup : Rollup Transaction Entry FeedMessage) (reader : Reader Transaction)
    (st : Streamer Entry FeedMessage) : Prop :=
  Answered config reader st → ¬ ∃ missing ∈ stubsToPromote config st, ∃ stub ∈ stubsToPromote config st,
    missing.1 < stub.1 ∧ rereadEntry config rollup reader st missing.1 = none ∧
      Promoted (rereadEntry config rollup reader st) (stubsToPromote config st) stub

def KeepsStubsAbove (config : StreamerConfig) (rollup : Rollup Transaction Entry FeedMessage) (st : Streamer Entry FeedMessage) :
    StreamerEvent Transaction → Prop
  | .hotshotTransactions transactions height _ => DeliversInOrder config st (rollup.parseHotshotTransactions transactions height)
  | .finalization newFinalizedIdx reader => st.finalizedIdx < newFinalizedIdx →
      PromotesInOrder config rollup reader (prune newFinalizedIdx (skipFinalized newFinalizedIdx st))
  | .broadcastRetry _ => True

structure Spilled (config : StreamerConfig) (before after : Streamer Entry FeedMessage) : Prop where
  kept : ∀ stub ∈ before.stubs, stub ∈ after.stubs
  above : ∀ stub ∈ after.stubs, stub ∉ before.stubs → ∀ e ∈ after.queue, sequenceNumber e < stub
  full : ∀ stub ∈ after.stubs, stub ∉ before.stubs → config.maxFullQueueEntries ≤ after.queue.length

theorem filter_message_spilled (config : StreamerConfig) (before st : Streamer Entry FeedMessage) (parsed : Entry)
    (sorted : Increasing sequenceNumber st.queue) (spilled : Spilled config before st) : Spilled config before (filterMessage config st parsed) := by
  have outcome := filter_message_outcome config st parsed sorted
  generalize filterMessage config st parsed = next at outcome ⊢
  cases outcome with
  | skipped known => exact spilled
  | kept started fresh room =>
      -- with room in the queue nothing has been evicted yet
      refine ⟨spilled.kept, fun stub here new => ?_, fun stub here new => ?_⟩
      · exact absurd (spilled.full stub here new) (not_le.mpr room)
      · exact absurd (spilled.full stub here new) (not_le.mpr room)
  | evicted started fresh full rest last split =>
      have sorted := insert_entry_increasing parsed st.queue sorted fun held => fresh (.inl held)
      rw [split] at sorted
      have below : ∀ e ∈ rest, sequenceNumber e < sequenceNumber last :=
        fun e member => (List.pairwise_append.mp sorted).2.2 e member last (by simp)
      have origin : ∀ e ∈ rest ++ [last], e = parsed ∨ e ∈ st.queue := by
        intro e member
        rw [← split] at member
        exact (mem_insert_entry parsed e st.queue).mp member
      have same : rest.length = st.queue.length := by
        have sizes := congrArg List.length split
        simp only [length_insert_entry, List.length_append, List.length_singleton] at sizes
        omega
      refine ⟨fun stub here => ?_, fun stub here new e member => ?_, fun stub here new => ?_⟩
      · exact ExtTreeMap.mem_insert.mpr (.inr (spilled.kept stub here))
      · rcases ExtTreeMap.mem_insert.mp here with evicted | old
        · exact Std.LawfulEqCmp.eq_of_compare evicted ▸ below e member
        · rcases origin e (by simp [member]) with rfl | queued
          · -- the parsed entry stays, so the evicted one was queued below the earlier stub
            rcases origin last (by simp) with rfl | lastQueued
            · exact absurd (below last member) (lt_irrefl _)
            · exact lt_trans (below e member) (spilled.above stub old new last lastQueued)
          · exact spilled.above stub old new e queued
      · change config.maxFullQueueEntries ≤ rest.length
        omega

theorem filter_messages_spilled (config : StreamerConfig) (st : Streamer Entry FeedMessage) (entries : List Entry)
    (inv : StreamerInv config st) : Spilled config st (filterMessages config st entries) := by
  have both := History.run_invariant (filterMessage config) (fun state => StreamerInv config state ∧ Spilled config st state)
    (fun _ => True)
    (fun state parsed _ sound => ⟨filter_message_invariant config state parsed sound.1,
      filter_message_spilled config st state parsed sound.1.sorted sound.2⟩)
    st entries (fun _ _ => trivial)
    ⟨inv, fun _ here => here, fun _ here new => absurd here new, fun _ here new => absurd here new⟩
  exact both.2

section Delivery

variable (config : StreamerConfig) (st : Streamer Entry FeedMessage) (entries : List Entry) (inv : StreamerInv config st)
  (ordered : StubsAbove st)

include inv

theorem queue_numbers_nodup : (st.queue.map sequenceNumber).Nodup :=
  (List.pairwise_map.mpr inv.sorted).imp ne_of_lt

theorem filtered_stubs_above_iff : StubsAbove (filterMessages config st entries) ↔
    ∀ e ∈ (filterMessages config st entries).queue, BelowStubs st (sequenceNumber e) := by
  have spilled := filter_messages_spilled config st entries inv
  constructor
  · intro above e member stub here
    exact above stub (spilled.kept stub here) e member
  · intro below stub here e member
    by_cases old : stub ∈ st.stubs
    · exact below e member stub old
    · exact spilled.above stub here old e member

theorem filtered_origin (seq : UInt64) (queued : InQueue (filterMessages config st entries) seq) :
    InQueue st seq ∨ Fresh config st entries seq := by
  have separate := (filter_messages_invariant config st entries inv).separate seq queued
  by_cases old : Tracked st seq
  · cases old with
    | inl held => exact .inl held
    | inr stubbed => exact absurd ((filter_messages_spilled config st entries inv).kept seq stubbed) separate
  · cases (filter_messages_tracked config st entries inv seq).mp (.inl queued) with
    | inl tracked => exact absurd tracked old
    | inr brought => exact .inr ⟨brought, old⟩

theorem filtered_fresh (seq : UInt64) (fresh : Fresh config st entries seq) : Tracked (filterMessages config st entries) seq :=
  (filter_messages_tracked config st entries inv seq).mpr (.inr fresh.1)

theorem high_number_keeps_low (high low : UInt64) (highQueued : InQueue (filterMessages config st entries) high)
    (beyond : ¬ BelowStubs st high) (below : BelowStubs st low) (tracked : Tracked (filterMessages config st entries) low) :
    InQueue (filterMessages config st entries) low := by
  cases tracked with
  | inl queued => exact queued
  | inr stubbed =>
      obtain ⟨e, member, rfl⟩ := highQueued
      have new : low ∉ st.stubs := fun here => lt_irrefl low (below low here)
      have less := (filter_messages_spilled config st entries inv).above low stubbed new e member
      exact absurd (fun stub here => lt_trans less (below stub here)) beyond

include ordered

theorem filled_from_below (numbers : List UInt64) (distinct : numbers.Nodup)
    (fresh : ∀ seq ∈ numbers, Fresh config st entries seq ∧ BelowStubs st seq)
    (filled : config.maxFullQueueEntries ≤ st.queue.length + numbers.length) : StubsAbove (filterMessages config st entries) := by
  rw [filtered_stubs_above_iff config st entries inv]
  intro e member
  by_contra beyond
  have after := filter_messages_invariant config st entries inv
  have keepsLow := fun low => high_number_keeps_low config st entries inv _ low ⟨e, member, rfl⟩ beyond
  have separated : (st.queue.map sequenceNumber).Disjoint numbers := by
    intro seq queued listed
    obtain ⟨held, here, rfl⟩ := List.mem_map.mp queued
    exact (fresh _ listed).1.2 (.inl ⟨held, here, rfl⟩)
  have lows : (sequenceNumber e :: (st.queue.map sequenceNumber ++ numbers)).Nodup := by
    refine List.nodup_cons.mpr ⟨fun listed => beyond ?_, (queue_numbers_nodup config st inv).append distinct separated⟩
    rcases List.mem_append.mp listed with queued | listed
    · obtain ⟨held, here, same⟩ := List.mem_map.mp queued
      exact same ▸ fun stub stubbed => ordered stub stubbed held here
    · exact (fresh _ listed).2
  have held : (sequenceNumber e :: (st.queue.map sequenceNumber ++ numbers)) ⊆
      (filterMessages config st entries).queue.map sequenceNumber := by
    intro seq listed
    have queued : InQueue (filterMessages config st entries) seq := by
      rcases List.mem_cons.mp listed with rfl | listed
      · exact ⟨e, member, rfl⟩
      · rcases List.mem_append.mp listed with queued | listed
        · obtain ⟨old, here, rfl⟩ := List.mem_map.mp queued
          exact keepsLow _ (fun stub stubbed => ordered stub stubbed old here)
            ((filter_messages_tracked config st entries inv _).mpr (.inl (.inl ⟨old, here, rfl⟩)))
        · exact keepsLow seq (fresh seq listed).2 (filtered_fresh config st entries inv seq (fresh seq listed).1)
    obtain ⟨found, here, same⟩ := queued
    exact List.mem_map.mpr ⟨found, here, same⟩
  have size := (List.subperm_of_subset lows held).length_le
  have bounded := after.bounded
  simp only [List.length_cons, List.length_append, List.length_map] at size
  omega

theorem filter_messages_above_iff :
    StubsAbove (filterMessages config st entries) ↔ DeliversInOrder config st entries := by
  constructor
  · intro above
    by_cases low : ∀ seq, Fresh config st entries seq → BelowStubs st seq
    · exact .inl low
    · -- a fresh number beyond some stub was evicted, so the queue is full of numbers below the stubs
      obtain ⟨seq, refusal⟩ := not_forall.mp low
      obtain ⟨fresh, beyond⟩ := Classical.not_imp.mp refusal
      have below := (filtered_stubs_above_iff config st entries inv).mp above
      have evicted : seq ∈ (filterMessages config st entries).stubs := by
        cases filtered_fresh config st entries inv seq fresh with
        | inl queued =>
            obtain ⟨e, member, rfl⟩ := queued
            exact absurd (below e member) beyond
        | inr stubbed => exact stubbed
      have full := (filter_messages_spilled config st entries inv).full seq evicted fun old => fresh.2 (.inr old)
      have nodup := queue_numbers_nodup config _ (filter_messages_invariant config st entries inv)
      refine .inr ⟨((filterMessages config st entries).queue.map sequenceNumber).filter
        fun seq => seq ∉ st.queue.map sequenceNumber, nodup.filter _, fun seq listed => ?_, ?_⟩
      · obtain ⟨queued, new⟩ := List.mem_filter.mp listed
        obtain ⟨e, member, rfl⟩ := List.mem_map.mp queued
        refine ⟨?_, below e member⟩
        cases filtered_origin config st entries inv _ ⟨e, member, rfl⟩ with
        | inl old =>
            obtain ⟨held, here, same⟩ := old
            exact absurd (List.mem_map.mpr ⟨held, here, same⟩) (of_decide_eq_true new)
        | inr fresh => exact fresh
      · have covered : (filterMessages config st entries).queue.map sequenceNumber ⊆ st.queue.map sequenceNumber ++
            ((filterMessages config st entries).queue.map sequenceNumber).filter fun seq => seq ∉ st.queue.map sequenceNumber := by
          intro seq listed
          by_cases old : seq ∈ st.queue.map sequenceNumber
          · exact List.mem_append_left _ old
          · exact List.mem_append_right _ (List.mem_filter.mpr ⟨listed, decide_eq_true old⟩)
        have size := (List.subperm_of_subset nodup covered).length_le
        simp only [List.length_append, List.length_map] at size ⊢
        omega
  · rintro (low | ⟨numbers, distinct, fresh, filled⟩)
    · rw [filtered_stubs_above_iff config st entries inv]
      intro e member
      cases filtered_origin config st entries inv _ ⟨e, member, rfl⟩ with
      | inl old =>
          obtain ⟨held, here, same⟩ := old
          exact same ▸ fun stub stubbed => ordered stub stubbed held here
      | inr fresh => exact low _ fresh
    · exact filled_from_below config st entries inv ordered numbers distinct fresh filled

end Delivery

omit [RollupQueueEntry Entry] in
theorem lower_stub_selected (config : StreamerConfig) (st : Streamer Entry FeedMessage) (seq : UInt64) (stubbed : seq ∈ st.stubs)
    (stub : UInt64 × UInt64) (selected : stub ∈ stubsToPromote config st) (low : seq < stub.1) :
    ∃ lower ∈ stubsToPromote config st, lower.1 = seq := by
  obtain ⟨height, here⟩ := ExtTreeMap.mem_iff_isSome_getElem?.mp stubbed |> Option.isSome_iff_exists.mp
  have listed : (seq, height) ∈ st.stubs.toList := ExtTreeMap.mem_toList_iff_getElem?_eq_some.mpr here
  have sorted := stubs_ordered st.stubs
  rw [← List.take_append_drop (min (config.maxFullQueueEntries - st.queue.length) st.stubs.size) st.stubs.toList] at listed sorted
  rcases List.mem_append.mp listed with taken | dropped
  · exact ⟨(seq, height), taken, rfl⟩
  · have less := (List.pairwise_append.mp sorted).2.2 stub selected (seq, height) dropped
    exact absurd low (not_lt.mpr (le_of_lt less))

theorem promote_stubs_above_iff (config : StreamerConfig) (rollup : Rollup Transaction Entry FeedMessage) (reader : Reader Transaction)
    (st : Streamer Entry FeedMessage) (ordered : StubsAbove st) :
    StubsAbove (promoteStubs config rollup reader st) ↔ PromotesInOrder config rollup reader st := by
  by_cases answered : Answered config reader st
  · have outcome := promote_stubs_promoted config rollup reader st answered
    have number := reread_entry_number config rollup reader st
    constructor
    · intro above _ given
      obtain ⟨missing, missingSelected, stub, selected, less, none, promoted⟩ := given
      obtain ⟨e, found⟩ := promoted.found
      have left : missing.1 ∈ (promoteStubs config rollup reader st).stubs := by
        refine ExtTreeMap.mem_iff_isSome_getElem?.mpr (Option.isSome_iff_exists.mpr ⟨missing.2, (outcome.stubs _ _).mpr
          ⟨stubs_to_promote_present config st missing missingSelected, fun moved => ?_⟩⟩)
        obtain ⟨other, -, otherPromoted, same⟩ := moved
        obtain ⟨held, hit⟩ := otherPromoted.found
        rw [same, none] at hit
        cases hit
      have moved := (outcome.queue e).mpr (.inr ⟨stub, selected, promoted, found⟩)
      have higher := above missing.1 left e moved
      rw [number stub.1 e found] at higher
      exact lt_asymm less higher
    · intro inOrder seq left e moved
      obtain ⟨height, remains⟩ := Option.isSome_iff_exists.mp (ExtTreeMap.mem_iff_isSome_getElem?.mp left)
      obtain ⟨here, unpromoted⟩ := (outcome.stubs seq height).mp remains
      have stubbed : seq ∈ st.stubs := ExtTreeMap.mem_iff_isSome_getElem?.mpr (Option.isSome_iff_exists.mpr ⟨height, here⟩)
      rcases (outcome.queue e).mp moved with old | ⟨stub, selected, promoted, found⟩
      · exact ordered seq stubbed e old
      · rw [number stub.1 e found]
        by_contra notLess
        have different : seq ≠ stub.1 := fun same => unpromoted ⟨stub, selected, promoted, same.symm⟩
        have low : seq < stub.1 := lt_of_le_of_ne (not_lt.mp notLess) different
        obtain ⟨lower, lowerSelected, rfl⟩ := lower_stub_selected config st seq stubbed stub selected low
        refine inOrder answered ⟨lower, lowerSelected, stub, selected, low, ?_, promoted⟩
        by_contra present
        refine unpromoted ⟨lower, lowerSelected, ⟨Option.ne_none_iff_exists'.mp present, ?_⟩, rfl⟩
        exact fun other listed below => promoted.dated other listed (le_trans below (le_of_lt low))
  · rw [promote_stubs_refused config rollup reader st answered]
    exact iff_of_true ordered fun given => absurd given answered

theorem prune_stubs_above (newFinalizedIdx : UInt64) (st : Streamer Entry FeedMessage) (sorted : Increasing sequenceNumber st.queue)
    (ordered : StubsAbove st) : StubsAbove (prune newFinalizedIdx st) := by
  intro stub stubbed e member
  rw [prune_queue newFinalizedIdx st sorted, List.mem_filter] at member
  exact ordered stub ((prune_stubbed newFinalizedIdx st stub).mp stubbed).2 e member.1

theorem same_tracked_above (before after : Streamer Entry FeedMessage) (same : SameTracked before after) :
    StubsAbove after ↔ StubsAbove before := by
  simp only [StubsAbove, same.queue, same.stubs]

theorem step_streamer_above_iff (config : StreamerConfig) (rollup : Rollup Transaction Entry FeedMessage)
    (st : Streamer Entry FeedMessage) (event : StreamerEvent Transaction) (inv : StreamerInv config st) (ordered : StubsAbove st) :
    StubsAbove (stepStreamer config rollup st event) ↔ KeepsStubsAbove config rollup st event := by
  cases event with
  | hotshotTransactions transactions height send =>
      rw [KeepsStubsAbove, ← filter_messages_above_iff config st _ inv ordered]
      exact same_tracked_above _ _ (broadcast_loop_tracked rollup send _ 0 _)
  | finalization newFinalizedIdx reader =>
      have skipped := (same_tracked_above _ _ (skip_finalized_tracked newFinalizedIdx st)).mpr ordered
      by_cases advances : st.finalizedIdx < newFinalizedIdx
      · have sorted := (same_tracked_invariant config _ _ (skip_finalized_tracked newFinalizedIdx st) inv).sorted
        have pruned := prune_stubs_above newFinalizedIdx _ sorted skipped
        simp only [KeepsStubsAbove, advances, true_imp_iff]
        rw [← promote_stubs_above_iff config rollup reader _ pruned, stepStreamer, handleFinalization, skip_finalized_idx,
          if_neg (not_le.mpr advances)]
      · rw [stepStreamer, stale_finalization config rollup reader newFinalizedIdx st (not_lt.mp advances)]
        exact iff_of_true skipped fun given => absurd given advances
  | broadcastRetry send =>
      refine iff_of_true ?_ trivial
      exact (same_tracked_above _ _ (broadcast_loop_tracked rollup send _ 0 _)).mpr ordered

/-- The stubs stand above the whole queue in every state of a run exactly when no delivery brings a number beyond a stub
without filling the queue from below the stubs, and no answered re-fetch promotes a stub past one it finds nothing for. -/
theorem stubs_above_queue_iff (config : StreamerConfig) (rollup : Rollup Transaction Entry FeedMessage) (finalizedIdx : UInt64)
    (events : List (StreamerEvent Transaction)) :
    History.Reached (stepStreamer config rollup) (.new finalizedIdx) events
        (fun st => ∀ stub ∈ st.stubs, ∀ e ∈ st.queue, sequenceNumber e < stub) ↔
      History.Taken (stepStreamer config rollup) (.new finalizedIdx) events (KeepsStubsAbove config rollup) :=
  History.reached_iff_taken _ (StreamerInv config) StubsAbove (fun _ => True) _
    (fun st event _ => step_streamer_invariant config rollup st event)
    (fun st event _ => step_streamer_above_iff config rollup st event)
    _ events (fun _ _ => trivial) (new_streamer_invariant config finalizedIdx) (fun stub stubbed => by simp [Streamer.new] at stubbed)

-- Two slots, and a re-fetch that fails after message 1 is finalized. Message 4 then takes the free slot above stub 3.
def failedRefetchRun : List (StreamerEvent (List UInt8)) :=
  [.hotshotTransactions [[makeMockEspressoTransaction 1, makeMockEspressoTransaction 2, makeMockEspressoTransaction 3]] 1
      (fun _ => .accepted),
    .finalization 1 (fun _ _ => none), .hotshotTransactions [[makeMockEspressoTransaction 4]] 2 (fun _ => .accepted)]

theorem failed_refetch_inverts_overflow :
    3 ∈ (runStreamer ⟨1, 2⟩ mockRollup.toRollup 0 failedRefetchRun).stubs ∧
      ∃ e ∈ (runStreamer ⟨1, 2⟩ mockRollup.toRollup 0 failedRefetchRun).queue, sequenceNumber e = 4 := by
  decide +kernel

end Cas
