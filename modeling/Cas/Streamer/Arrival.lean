import Cas.Streamer.Overflow

set_option autoImplicit false

namespace Cas

open RollupQueueEntry SortedSlice
open Std (ExtTreeMap)

variable {Transaction Entry FeedMessage : Type} [RollupQueueEntry Entry]

def position (e : Entry) : UInt64 × UInt64 := (sequenceNumber e, hotshotHeight e)

-- The stubs are the overflow of the queue: they stand above it, and there are none before it is full.
structure Packed (config : StreamerConfig) (st : Streamer Entry FeedMessage) : Prop where
  sorted : Increasing sequenceNumber st.queue
  bounded : st.queue.length ≤ config.maxFullQueueEntries
  above : StubsAbove st
  full : ∀ stub ∈ st.stubs, config.maxFullQueueEntries ≤ st.queue.length

theorem packed_separate (config : StreamerConfig) (st : Streamer Entry FeedMessage) (packed : Packed config st) (seq : UInt64)
    (queued : InQueue st seq) : seq ∉ st.stubs := by
  obtain ⟨e, member, rfl⟩ := queued
  intro stub
  exact lt_irrefl _ (packed.above _ stub e member)

theorem packed_iff_spilled (config : StreamerConfig) (empty st : Streamer Entry FeedMessage) (none : empty.stubs = ∅) :
    Packed config st ↔ Increasing sequenceNumber st.queue ∧ st.queue.length ≤ config.maxFullQueueEntries ∧ Spilled config empty st := by
  have outside : ∀ stub, stub ∉ empty.stubs := fun stub => by
    rw [none]
    exact ExtTreeMap.not_mem_empty
  constructor
  · intro packed
    exact ⟨packed.sorted, packed.bounded, fun stub here => absurd here (outside stub), fun stub here _ => packed.above stub here,
      fun stub here _ => packed.full stub here⟩
  · intro given
    obtain ⟨sorted, bounded, spilled⟩ := given
    exact ⟨sorted, bounded, fun stub here => spilled.above stub here (outside stub), fun stub here => spilled.full stub here (outside stub)⟩

theorem filter_message_packed (config : StreamerConfig) (st : Streamer Entry FeedMessage) (parsed : Entry) (packed : Packed config st) :
    Packed config (filterMessage config st parsed) := by
  have spilled := ((packed_iff_spilled config (.new 0) st rfl).mp packed).2.2
  have still := filter_message_spilled config (.new 0) st parsed packed.sorted spilled
  have outcome := filter_message_outcome config st parsed packed.sorted
  rw [packed_iff_spilled config (.new 0) _ rfl]
  generalize filterMessage config st parsed = next at outcome still ⊢
  cases outcome with
  | skipped known => exact ⟨packed.sorted, packed.bounded, still⟩
  | kept started fresh room =>
      refine ⟨insert_entry_increasing parsed st.queue packed.sorted fun held => fresh (.inl held), ?_, still⟩
      rw [length_insert_entry]
      exact room
  | evicted started fresh full rest last split =>
      have sorted := insert_entry_increasing parsed st.queue packed.sorted fun held => fresh (.inl held)
      have sizes := congrArg List.length split
      have bounded := packed.bounded
      rw [split] at sorted
      rw [length_insert_entry, List.length_append, List.length_singleton] at sizes
      refine ⟨(List.pairwise_append.mp sorted).1, ?_, still⟩
      change rest.length ≤ config.maxFullQueueEntries
      omega

theorem filter_messages_packed (config : StreamerConfig) (st : Streamer Entry FeedMessage) (entries : List Entry)
    (packed : Packed config st) : Packed config (filterMessages config st entries) :=
  History.run_invariant _ (Packed config) (fun _ => True) (fun state parsed _ => filter_message_packed config state parsed) st entries
    (fun _ _ => trivial) packed

theorem mem_queue_positions (queue : List Entry) (seq height : UInt64) :
    (seq, height) ∈ queue.map position ↔ ∃ e ∈ queue, sequenceNumber e = seq ∧ hotshotHeight e = height := by
  simp only [List.mem_map, position, Prod.mk.injEq]

theorem mem_tracked_heights (config : StreamerConfig) (st : Streamer Entry FeedMessage) (packed : Packed config st)
    (seq height : UInt64) : (seq, height) ∈ (trackedHeights st).toList ↔ TrackedAt st seq height := by
  rw [ExtTreeMap.mem_toList_iff_getElem?_eq_some, trackedHeights, queued_heights_lookup st.queue st.stubs seq height packed.sorted]
  · rfl
  · exact fun e member => packed_separate config st packed _ ⟨e, member, rfl⟩

theorem packed_positions (config : StreamerConfig) (st : Streamer Entry FeedMessage) (packed : Packed config st) :
    st.queue.map position ++ st.stubs.toList = (trackedHeights st).toList := by
  refine increasing_unique Prod.fst _ _ (List.pairwise_append.mpr ⟨List.pairwise_map.mpr packed.sorted, stubs_ordered st.stubs, ?_⟩)
    (stubs_ordered (trackedHeights st)) ?_
  · intro queued member stub here
    obtain ⟨e, inQueue, rfl⟩ := List.mem_map.mp member
    have lookup := ExtTreeMap.mem_toList_iff_getElem?_eq_some.mp here
    exact packed.above stub.1 (ExtTreeMap.mem_iff_isSome_getElem?.mpr (by rw [lookup]; rfl)) e inQueue
  · intro tracked
    obtain ⟨seq, height⟩ := tracked
    rw [mem_tracked_heights config st packed, List.mem_append, mem_queue_positions, ExtTreeMap.mem_toList_iff_getElem?_eq_some]
    rfl

theorem packed_cut (config : StreamerConfig) (st : Streamer Entry FeedMessage) (packed : Packed config st) :
    st.queue.map position = (trackedHeights st).toList.take config.maxFullQueueEntries ∧
      st.stubs.toList = (trackedHeights st).toList.drop config.maxFullQueueEntries := by
  have bounded := packed.bounded
  rw [← packed_positions config st packed]
  by_cases empty : st.stubs.toList = []
  · rw [empty, List.append_nil, List.take_of_length_le, List.drop_eq_nil_of_le]
    · exact ⟨rfl, rfl⟩
    · rwa [List.length_map]
    · rwa [List.length_map]
  · obtain ⟨⟨seq, height⟩, member⟩ := List.exists_mem_of_ne_nil _ empty
    have lookup := ExtTreeMap.mem_toList_iff_getElem?_eq_some.mp member
    have full := packed.full seq (ExtTreeMap.mem_iff_isSome_getElem?.mpr (by rw [lookup]; rfl))
    have width : (st.queue.map position).length = config.maxFullQueueEntries := by
      rw [List.length_map]
      omega
    rw [← width, List.take_left, List.drop_left]
    exact ⟨rfl, rfl⟩

theorem packed_unique (config : StreamerConfig) (first second : Streamer Entry FeedMessage) (firstPacked : Packed config first)
    (secondPacked : Packed config second) (same : ∀ seq height, TrackedAt first seq height ↔ TrackedAt second seq height)
    (source : Entry → Prop) (apart : ∀ e other, source e → source other → sequenceNumber e = sequenceNumber other → e = other)
    (firstSource : ∀ e ∈ first.queue, source e) (secondSource : ∀ e ∈ second.queue, source e) :
    first.queue = second.queue ∧ first.stubs = second.stubs := by
  have tracked : (trackedHeights first).toList = (trackedHeights second).toList := by
    refine increasing_unique Prod.fst _ _ (stubs_ordered _) (stubs_ordered _) ?_
    intro tracked
    obtain ⟨seq, height⟩ := tracked
    rw [mem_tracked_heights config first firstPacked, mem_tracked_heights config second secondPacked, same]
  obtain ⟨firstQueue, firstStubs⟩ := packed_cut config first firstPacked
  obtain ⟨secondQueue, secondStubs⟩ := packed_cut config second secondPacked
  have positions : first.queue.map position = second.queue.map position := by rw [firstQueue, secondQueue, tracked]
  have inside : ∀ (a b : List Entry), (∀ e ∈ a, source e) → (∀ e ∈ b, source e) → a.map position = b.map position →
      ∀ e ∈ a, e ∈ b := by
    intro a b aSource bSource equal e member
    have listed := List.mem_map_of_mem (f := position) member
    rw [equal] at listed
    obtain ⟨other, otherMember, samePosition⟩ := List.mem_map.mp listed
    rw [apart e other (aSource e member) (bSource other otherMember) (congrArg Prod.fst samePosition).symm]
    exact otherMember
  refine ⟨increasing_unique sequenceNumber _ _ firstPacked.sorted secondPacked.sorted fun e => ⟨?_, ?_⟩, ?_⟩
  · exact inside _ _ firstSource secondSource positions e
  · exact inside _ _ secondSource firstSource positions.symm e
  · rw [← ExtTreeMap.toList_inj, firstStubs, secondStubs, tracked]

def Accepted (config : StreamerConfig) (st : Streamer Entry FeedMessage) (e : Entry) : Prop :=
  config.startingPos ≤ sequenceNumber e ∧ ¬ Tracked st (sequenceNumber e)

section Delivery

variable (config : StreamerConfig) (st : Streamer Entry FeedMessage)

theorem filter_message_other (parsed : Entry) (packed : Packed config st) (seq : UInt64) (other : sequenceNumber parsed ≠ seq) :
    Tracked (filterMessage config st parsed) seq ↔ Tracked st seq := by
  rw [tracked_iff_at, tracked_iff_at]
  simp only [filter_message_tracked_at config st parsed packed.sorted (packed_separate config st packed), other, false_and, and_false,
    or_false]

theorem filter_messages_tracked_at (entries : List Entry) (packed : Packed config st)
    (distinct : (entries.map sequenceNumber).Nodup) (seq height : UInt64) :
    TrackedAt (filterMessages config st entries) seq height ↔
      TrackedAt st seq height ∨ ∃ e ∈ entries, Accepted config st e ∧ sequenceNumber e = seq ∧ hotshotHeight e = height := by
  induction entries generalizing st with
  | nil => simp [filterMessages, History.run]
  | cons parsed tail ih =>
      obtain ⟨new, tailDistinct⟩ := List.nodup_cons.mp distinct
      have later : ∀ e ∈ tail, (Accepted config (filterMessage config st parsed) e ↔ Accepted config st e) := by
        intro e member
        have other : sequenceNumber parsed ≠ sequenceNumber e := by
          intro equal
          exact new (equal ▸ List.mem_map_of_mem member)
        rw [Accepted, Accepted, filter_message_other config st parsed packed _ other]
      rw [filterMessages, History.run_cons, ← filterMessages, ih _ (filter_message_packed config st parsed packed) tailDistinct,
        filter_message_tracked_at config st parsed packed.sorted (packed_separate config st packed), or_assoc]
      simp only [List.mem_cons, or_and_right, exists_or, exists_eq_left]
      apply or_congr_right
      apply or_congr_right
      exact exists_congr fun e => and_congr_right fun member => and_congr_left fun _ => later e member

theorem filter_message_source (parsed e : Entry) (sorted : Increasing sequenceNumber st.queue)
    (queued : e ∈ (filterMessage config st parsed).queue) : e ∈ st.queue ∨ (e = parsed ∧ Accepted config st e) := by
  have outcome := filter_message_outcome config st parsed sorted
  generalize filterMessage config st parsed = next at outcome queued
  cases outcome with
  | skipped known => exact .inl queued
  | kept started fresh room =>
      rcases (mem_insert_entry parsed e st.queue).mp queued with rfl | old
      · exact .inr ⟨rfl, started, fresh⟩
      · exact .inl old
  | evicted started fresh full rest last split =>
      have inserted : e ∈ insertEntry parsed st.queue := by
        rw [split]
        exact List.mem_append_left _ queued
      rcases (mem_insert_entry parsed e st.queue).mp inserted with rfl | old
      · exact .inr ⟨rfl, started, fresh⟩
      · exact .inl old

theorem filter_messages_source (entries : List Entry) (packed : Packed config st) (e : Entry)
    (queued : e ∈ (filterMessages config st entries).queue) : e ∈ st.queue ∨ (e ∈ entries ∧ Accepted config st e) := by
  induction entries generalizing st with
  | nil => exact .inl queued
  | cons parsed tail ih =>
      rcases ih _ (filter_message_packed config st parsed packed) queued with old | ⟨member, started, fresh⟩
      · rcases filter_message_source config st parsed e packed.sorted old with there | ⟨rfl, accepted⟩
        · exact .inl there
        · exact .inr ⟨List.mem_cons_self, accepted⟩
      · refine .inr ⟨List.mem_cons_of_mem _ member, started, fun tracked => fresh ?_⟩
        obtain ⟨height, known⟩ := (tracked_iff_at st _).mp tracked
        exact (tracked_iff_at _ _).mpr ⟨height,
          (filter_message_tracked_at config st parsed packed.sorted (packed_separate config st packed) _ _).mpr (.inl known)⟩

end Delivery

theorem filter_messages_calls (config : StreamerConfig) (st : Streamer Entry FeedMessage) (calls : List (List Entry)) :
    History.run (filterMessages config) st calls = filterMessages config st calls.flatten := by
  induction calls generalizing st with
  | nil => rfl
  | cons entries tail ih =>
      rw [History.run_cons, ih, List.flatten_cons]
      exact (History.run_append (filterMessage config) st entries tail.flatten).symm

structure Delivered (config : StreamerConfig) (st : Streamer Entry FeedMessage) (entries : List Entry)
    (final : Streamer Entry FeedMessage) : Prop where
  tracked : ∀ seq height, TrackedAt final seq height ↔
    TrackedAt st seq height ∨ ∃ e ∈ entries, Accepted config st e ∧ sequenceNumber e = seq ∧ hotshotHeight e = height
  lowest : final.queue.map position = (trackedHeights final).toList.take config.maxFullQueueEntries
  others : final.stubs.toList = (trackedHeights final).toList.drop config.maxFullQueueEntries

theorem filter_messages_delivered (config : StreamerConfig) (st : Streamer Entry FeedMessage) (packed : Packed config st)
    (entries : List Entry) (distinct : (entries.map sequenceNumber).Nodup) :
    Delivered config st entries (filterMessages config st entries) := by
  obtain ⟨lowest, others⟩ := packed_cut config _ (filter_messages_packed config st entries packed)
  exact ⟨filter_messages_tracked_at config st entries packed distinct, lowest, others⟩

theorem delivery_apart (config : StreamerConfig) (st : Streamer Entry FeedMessage) (packed : Packed config st) (entries : List Entry)
    (distinct : (entries.map sequenceNumber).Nodup) (e other : Entry) (source : e ∈ st.queue ∨ (e ∈ entries ∧ Accepted config st e))
    (otherSource : other ∈ st.queue ∨ (other ∈ entries ∧ Accepted config st other)) (same : sequenceNumber e = sequenceNumber other) :
    e = other := by
  have queueDistinct : (st.queue.map sequenceNumber).Nodup := (List.pairwise_map.mpr packed.sorted).imp ne_of_lt
  cases source with
  | inl queued =>
      cases otherSource with
      | inl otherQueued => exact List.inj_on_of_nodup_map queueDistinct queued otherQueued same
      | inr new => exact absurd (.inl ⟨e, queued, same⟩) new.2.2
  | inr new =>
      cases otherSource with
      | inl otherQueued => exact absurd (.inl ⟨other, otherQueued, same.symm⟩) new.2.2
      | inr otherNew => exact List.inj_on_of_nodup_map distinct new.1 otherNew.1 same

/-- The order of arrival does not matter: entries with distinct numbers, delivered in any order and in any number of calls, leave
the same queue and stubs, the lowest tracked positions as full entries and all others as stubs. -/
theorem arrival_order_irrelevant (config : StreamerConfig) (st : Streamer Entry FeedMessage) (packed : Packed config st)
    (entries : List Entry) (distinct : (entries.map sequenceNumber).Nodup) (calls : List (List Entry))
    (reordered : calls.flatten.Perm entries) :
    (History.run (filterMessages config) st calls).queue = (filterMessages config st entries).queue ∧
      (History.run (filterMessages config) st calls).stubs = (filterMessages config st entries).stubs ∧
      Delivered config st entries (History.run (filterMessages config) st calls) := by
  have callsDistinct : (calls.flatten.map sequenceNumber).Nodup := (reordered.map sequenceNumber).nodup_iff.mpr distinct
  have once := filter_messages_delivered config st packed entries distinct
  have split := filter_messages_delivered config st packed calls.flatten callsDistinct
  have tracked : ∀ seq height, TrackedAt (filterMessages config st calls.flatten) seq height ↔
      TrackedAt (filterMessages config st entries) seq height := by
    intro seq height
    rw [split.tracked, once.tracked]
    simp only [reordered.mem_iff]
  rw [filter_messages_calls]
  obtain ⟨queue, stubs⟩ := packed_unique config _ _ (filter_messages_packed config st calls.flatten packed)
    (filter_messages_packed config st entries packed) tracked (fun e => e ∈ st.queue ∨ (e ∈ entries ∧ Accepted config st e))
    (delivery_apart config st packed entries distinct)
    (fun e queued => (filter_messages_source config st calls.flatten packed e queued).imp_right fun new =>
      ⟨reordered.mem_iff.mp new.1, new.2⟩)
    (filter_messages_source config st entries packed)
  exact ⟨queue, stubs, fun seq height => (tracked seq height).trans (once.tracked seq height), split.lowest, split.others⟩

theorem new_streamer_packed (config : StreamerConfig) (finalizedIdx : UInt64) :
    Packed config (.new finalizedIdx : Streamer Entry FeedMessage) :=
  (packed_iff_spilled config (.new 0) _ rfl).mpr ⟨.nil, Nat.zero_le _, fun _ here => here, fun _ here new => absurd here new,
    fun _ here new => absurd here new⟩

-- A full queue with one stub, as three entries leave it.
def fullStreamer : Streamer MockEntry MockEntry := filterMessages ⟨1, 2⟩ (.new 0) [⟨2, 10⟩, ⟨5, 11⟩, ⟨7, 12⟩]

theorem full_streamer_arrivals :
    (History.run (filterMessages ⟨1, 2⟩) fullStreamer [[⟨9, 14⟩], [⟨1, 13⟩, ⟨3, 13⟩]]).queue = [⟨1, 13⟩, ⟨2, 10⟩] ∧
      (History.run (filterMessages ⟨1, 2⟩) fullStreamer [[⟨9, 14⟩], [⟨1, 13⟩, ⟨3, 13⟩]]).queue =
        (filterMessages ⟨1, 2⟩ fullStreamer [⟨1, 13⟩, ⟨3, 13⟩, ⟨9, 14⟩]).queue ∧
      (History.run (filterMessages ⟨1, 2⟩) fullStreamer [[⟨9, 14⟩], [⟨1, 13⟩, ⟨3, 13⟩]]).stubs.toList = [(3, 13), (5, 11), (7, 12), (9, 14)] := by
  have packed : Packed ⟨1, 2⟩ fullStreamer := filter_messages_packed _ _ _ (new_streamer_packed _ 0)
  obtain ⟨queue, -, -⟩ := arrival_order_irrelevant ⟨1, 2⟩ fullStreamer packed [⟨1, 13⟩, ⟨3, 13⟩, ⟨9, 14⟩] (by decide)
    [[⟨9, 14⟩], [⟨1, 13⟩, ⟨3, 13⟩]] (by decide)
  exact ⟨by decide +kernel, queue, by decide +kernel⟩

end Cas
