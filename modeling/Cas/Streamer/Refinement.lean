import Cas.Streamer.Invariant

set_option autoImplicit false

namespace Cas

open SortedSlice
open Std (ExtTreeMap ExtTreeSet)

variable {Transaction Entry FeedMessage Value : Type} [RollupQueueEntry Entry]

-- The streamer without a capacity: one map from sequence numbers to what is
-- recorded of the entry first accepted under them.
structure Reference (Value : Type) where
  values : ExtTreeMap UInt64 Value
  finalizedIdx : UInt64

def recordEntry (config : StreamerConfig) (record : Entry → Value) (reference : Reference Value) (entry : Entry) : Reference Value :=
  if config.startingPos ≤ sequenceNumber entry ∧ sequenceNumber entry ∉ reference.values then
    { reference with values := reference.values.insert (sequenceNumber entry) (record entry) }
  else reference

def stepReference (config : StreamerConfig) (rollup : Rollup Transaction Entry FeedMessage) (record : Entry → Value)
    (reference : Reference Value) : StreamerEvent Transaction → Reference Value
  | .hotshotTransactions transactions height _ =>
      History.run (recordEntry config record) reference (rollup.parseHotshotTransactions transactions height)
  | .finalization newFinalizedIdx _ =>
      if reference.finalizedIdx < newFinalizedIdx then
        ⟨reference.values.filter fun seq _ => newFinalizedIdx < seq, newFinalizedIdx⟩
      else reference
  | .broadcastRetry _ => reference

def runReference (config : StreamerConfig) (rollup : Rollup Transaction Entry FeedMessage) (record : Entry → Value)
    (finalizedIdx : UInt64) (events : List (StreamerEvent Transaction)) : Reference Value :=
  History.run (stepReference config rollup record) ⟨∅, finalizedIdx⟩ events

def trackedHeights (st : Streamer Entry FeedMessage) : ExtTreeMap UInt64 UInt64 :=
  st.queue.foldl (fun heights e => heights.insert (sequenceNumber e) (hotshotHeight e)) st.stubs

structure Refines (config : StreamerConfig) (date : Value → UInt64) (st : Streamer Entry FeedMessage) (reference : Reference Value) :
    Prop where
  inv : StreamerInv config st
  finalized : st.finalizedIdx = reference.finalizedIdx
  heights : ∀ seq height, TrackedAt st seq height ↔ ∃ value, reference.values[seq]? = some value ∧ date value = height

theorem same_tracked_at (before after : Streamer Entry FeedMessage) (same : SameTracked before after) (seq height : UInt64) :
    TrackedAt after seq height ↔ TrackedAt before seq height := by
  simp only [TrackedAt, same.queue, same.stubs]

theorem insert_lookup (map : ExtTreeMap UInt64 Value) (key : UInt64) (value : Value) (seq : UInt64) (found : Value)
    (absent : key ∉ map) : (map.insert key value)[seq]? = some found ↔ (key = seq ∧ value = found) ∨ map[seq]? = some found := by
  simp only [ExtTreeMap.getElem?_insert, Std.LawfulEqCmp.compare_eq_iff_eq]
  by_cases same : key = seq
  · subst seq
    simp [ExtTreeMap.getElem?_eq_none absent]
  · simp [same]

theorem filter_message_tracked_at (config : StreamerConfig) (st : Streamer Entry FeedMessage) (parsed : Entry)
    (sorted : Increasing sequenceNumber st.queue) (separate : ∀ seq, InQueue st seq → seq ∉ st.stubs) (seq height : UInt64) :
    TrackedAt (filterMessage config st parsed) seq height ↔
      TrackedAt st seq height ∨ ((config.startingPos ≤ sequenceNumber parsed ∧ ¬ Tracked st (sequenceNumber parsed)) ∧
        sequenceNumber parsed = seq ∧ hotshotHeight parsed = height) := by
  have outcome := filter_message_outcome config st parsed sorted
  generalize filterMessage config st parsed = next at outcome ⊢
  cases outcome with
  | skipped known =>
      have rejected : ¬ (config.startingPos ≤ sequenceNumber parsed ∧ ¬ Tracked st (sequenceNumber parsed)) := by
        intro given
        obtain ⟨started, fresh⟩ := given
        exact known.elim (not_lt.mpr started) fresh
      simp [rejected]
  | kept started fresh room =>
      simp only [TrackedAt, mem_insert_entry, started, fresh, not_false_eq_true, and_self, true_and, or_and_right, exists_or,
        exists_eq_left]
      rw [or_assoc]
      exact or_comm
  | evicted started fresh full rest last split =>
      have origin : ∀ e, e = parsed ∨ e ∈ st.queue ↔ e ∈ rest ∨ e = last := by
        intro e
        rw [← mem_insert_entry, split]
        simp
      have unstubbed : sequenceNumber last ∉ st.stubs := by
        rcases (origin last).mpr (.inr rfl) with rfl | old
        · exact fun stub => fresh (.inr stub)
        · exact separate _ ⟨last, old, rfl⟩
      have moved : (∃ e ∈ rest, sequenceNumber e = seq ∧ hotshotHeight e = height) ∨
          (sequenceNumber last = seq ∧ hotshotHeight last = height) ↔
          (sequenceNumber parsed = seq ∧ hotshotHeight parsed = height) ∨
            ∃ e ∈ st.queue, sequenceNumber e = seq ∧ hotshotHeight e = height := by
        have members := exists_congr fun e => and_congr_left (c := sequenceNumber e = seq ∧ hotshotHeight e = height) fun _ => origin e
        simp only [or_and_right, exists_or, exists_eq_left] at members
        exact members.symm
      simp only [TrackedAt, insert_lookup st.stubs (sequenceNumber last) (hotshotHeight last) seq height unstubbed, ← or_assoc, moved]
      simp only [started, fresh, not_false_eq_true, and_self, true_and]
      rw [or_assoc]
      exact or_comm

theorem promote_entry_tracked_at (st : Streamer Entry FeedMessage) (entry : Entry)
    (stub : st.stubs[sequenceNumber entry]? = some (hotshotHeight entry)) (seq height : UInt64) :
    TrackedAt (promoteEntry st entry) seq height ↔ TrackedAt st seq height := by
  simp only [TrackedAt, promoteEntry, mem_insert_entry, or_and_right, exists_or, exists_eq_left, ExtTreeMap.getElem?_erase,
    Std.LawfulEqCmp.compare_eq_iff_eq]
  by_cases same : sequenceNumber entry = seq
  · subst seq
    simp only [if_true, stub, reduceCtorEq, or_false, Option.some.injEq, true_and]
    exact or_comm
  · simp [same]

theorem prune_tracked_at (newFinalizedIdx : UInt64) (st : Streamer Entry FeedMessage) (sorted : Increasing sequenceNumber st.queue)
    (seq height : UInt64) :
    TrackedAt (prune newFinalizedIdx st) seq height ↔ newFinalizedIdx < seq ∧ TrackedAt st seq height := by
  simp only [TrackedAt, prune_queue newFinalizedIdx st sorted, prune_stubs, List.mem_filter, decide_eq_true_eq, and_or_left]
  apply or_congr
  · constructor
    · intro given
      obtain ⟨e, member, same, dated⟩ := given
      exact ⟨same ▸ member.2, e, member.1, same, dated⟩
    · intro given
      obtain ⟨above, e, member, same, dated⟩ := given
      exact ⟨e, ⟨member, same ▸ above⟩, same, dated⟩
  · by_cases above : newFinalizedIdx < seq <;> simp [above]

section Simulation

variable (config : StreamerConfig) (record : Entry → Value) (date : Value → UInt64)

theorem refines_tracked (st : Streamer Entry FeedMessage) (reference : Reference Value) (refines : Refines config date st reference)
    (seq : UInt64) : Tracked st seq ↔ seq ∈ reference.values := by
  rw [tracked_iff_at, ExtTreeMap.mem_iff_isSome_getElem?, Option.isSome_iff_exists]
  simp only [refines.heights]
  constructor
  · intro given
    obtain ⟨-, value, found, -⟩ := given
    exact ⟨value, found⟩
  · intro given
    obtain ⟨value, found⟩ := given
    exact ⟨date value, value, found, rfl⟩

theorem record_entry_refines (dated : ∀ entry, date (record entry) = hotshotHeight entry) (st : Streamer Entry FeedMessage)
    (reference : Reference Value) (parsed : Entry) (refines : Refines config date st reference) :
    Refines config date (filterMessage config st parsed) (recordEntry config record reference parsed) := by
  refine ⟨filter_message_invariant config st parsed refines.inv, ?_, fun seq height => ?_⟩
  · rw [(filter_message_indices config st parsed refines.inv.sorted).1, refines.finalized]
    unfold recordEntry
    split <;> rfl
  · rw [filter_message_tracked_at config st parsed refines.inv.sorted refines.inv.separate, refines.heights, refines_tracked config date st reference refines]
    unfold recordEntry
    by_cases accepted : config.startingPos ≤ sequenceNumber parsed ∧ sequenceNumber parsed ∉ reference.values
    · rw [if_pos accepted]
      simp only [insert_lookup _ _ _ seq _ accepted.2, or_and_right, exists_or, and_assoc, exists_and_left, exists_eq_left', dated]
      simp only [accepted, not_false_eq_true, true_and]
      exact or_comm
    · rw [if_neg accepted]
      simp only [accepted, false_and, or_false]

theorem same_tracked_refines (before after : Streamer Entry FeedMessage) (reference : Reference Value)
    (same : SameTracked before after) (finalized : after.finalizedIdx = before.finalizedIdx)
    (refines : Refines config date before reference) : Refines config date after reference :=
  ⟨same_tracked_invariant config before after same refines.inv, finalized.trans refines.finalized,
    fun seq height => (same_tracked_at before after same seq height).trans (refines.heights seq height)⟩

theorem skip_finalized_refines (newFinalizedIdx : UInt64) (st : Streamer Entry FeedMessage) (reference : Reference Value)
    (refines : Refines config date st reference) : Refines config date (skipFinalized newFinalizedIdx st) reference :=
  same_tracked_refines config date st _ reference (skip_finalized_tracked newFinalizedIdx st) (skip_finalized_idx newFinalizedIdx st) refines

theorem prune_refines (newFinalizedIdx : UInt64) (st : Streamer Entry FeedMessage) (reference : Reference Value)
    (refines : Refines config date st reference) :
    Refines config date (prune newFinalizedIdx st) ⟨reference.values.filter fun seq _ => newFinalizedIdx < seq, newFinalizedIdx⟩ := by
  refine ⟨prune_invariant config newFinalizedIdx st refines.inv, rfl, fun seq height => ?_⟩
  rw [prune_tracked_at newFinalizedIdx st refines.inv.sorted, refines.heights]
  simp only [ExtTreeMap.getElem?_filter']
  by_cases above : newFinalizedIdx < seq <;> simp [above]

theorem handle_finalization_refines (rollup : Rollup Transaction Entry FeedMessage) (reader : Reader Transaction)
    (newFinalizedIdx : UInt64) (st : Streamer Entry FeedMessage) (reference : Reference Value)
    (refines : Refines config date st reference) :
    Refines config date (handleFinalization config rollup reader newFinalizedIdx st)
      (stepReference config rollup record reference (.finalization newFinalizedIdx reader)) := by
  have skipped := skip_finalized_refines config date newFinalizedIdx st reference refines
  simp only [handleFinalization, stepReference]
  generalize skipFinalized newFinalizedIdx st = moved at skipped ⊢
  by_cases stale : newFinalizedIdx ≤ moved.finalizedIdx
  · rw [if_pos stale, if_neg (skipped.finalized ▸ not_lt.mpr stale)]
    exact skipped
  · rw [if_neg stale, if_pos (skipped.finalized ▸ not_le.mp stale)]
    have pruned := prune_refines config date newFinalizedIdx moved reference skipped
    refine promote_stubs_rule config rollup reader (Refines config date · _) ?_ _ pruned.inv.bounded pruned
    intro state entry before stub room
    exact ⟨promote_entry_invariant config state entry before.inv stub room, before.finalized,
      fun seq height => (promote_entry_tracked_at state entry stub seq height).trans (before.heights seq height)⟩

theorem step_streamer_refines (rollup : Rollup Transaction Entry FeedMessage)
    (dated : ∀ entry, date (record entry) = hotshotHeight entry) (st : Streamer Entry FeedMessage) (reference : Reference Value)
    (event : StreamerEvent Transaction) (refines : Refines config date st reference) :
    Refines config date (stepStreamer config rollup st event) (stepReference config rollup record reference event) := by
  cases event with
  | hotshotTransactions transactions height send =>
      refine same_tracked_refines config date _ _ _ (broadcast_loop_tracked rollup send _ 0 _)
        (broadcast_loop_finalized rollup send _ 0 _) ?_
      exact History.run_simulates _ _ (Refines config date) (record_entry_refines config record date dated) st reference _ refines
  | finalization newFinalizedIdx reader =>
      exact handle_finalization_refines config record date rollup reader newFinalizedIdx st reference refines
  | broadcastRetry send =>
      refine same_tracked_refines config date _ _ _ (broadcast_loop_tracked rollup send _ 0 _)
        (broadcast_loop_finalized rollup send _ 0 _) ?_
      exact same_tracked_refines config date st { st with retryScheduled := false } reference ⟨rfl, rfl⟩ rfl refines

theorem run_streamer_refines (rollup : Rollup Transaction Entry FeedMessage)
    (dated : ∀ entry, date (record entry) = hotshotHeight entry) (finalizedIdx : UInt64)
    (events : List (StreamerEvent Transaction)) :
    Refines config date (runStreamer config rollup finalizedIdx events) (runReference config rollup record finalizedIdx events) := by
  refine History.run_simulates _ _ (Refines config date) (step_streamer_refines config record date rollup dated) _ _ events
    ⟨new_streamer_invariant config finalizedIdx, rfl, fun seq height => ?_⟩
  simp [TrackedAt, Streamer.new]

end Simulation

theorem queued_heights_lookup (queue : List Entry) (stubs : ExtTreeMap UInt64 UInt64) (seq height : UInt64)
    (sorted : Increasing sequenceNumber queue) (separate : ∀ e ∈ queue, sequenceNumber e ∉ stubs) :
    (queue.foldl (fun heights e => heights.insert (sequenceNumber e) (hotshotHeight e)) stubs)[seq]? = some height ↔
      (∃ e ∈ queue, sequenceNumber e = seq ∧ hotshotHeight e = height) ∨ stubs[seq]? = some height := by
  induction queue generalizing stubs with
  | nil => simp
  | cons e tail ih =>
      obtain ⟨above, rest⟩ := List.pairwise_cons.mp sorted
      have tailSeparate : ∀ other ∈ tail, sequenceNumber other ∉ stubs.insert (sequenceNumber e) (hotshotHeight e) := by
        intro other member stub
        rcases ExtTreeMap.mem_insert.mp stub with same | old
        · exact ne_of_lt (above other member) (Std.LawfulEqCmp.eq_of_compare same)
        · exact separate other (by simp [member]) old
      rw [List.foldl_cons, ih _ rest tailSeparate, insert_lookup stubs (sequenceNumber e) (hotshotHeight e) seq height (separate e (by simp))]
      simp only [List.mem_cons, or_and_right, exists_or, exists_eq_left]
      rw [or_left_comm, or_assoc]

/-- The full entries and the stubs together are exactly what a streamer of unbounded capacity would track: neither the
capacity nor a promotion that stops halfway loses, adds or re-dates a message. -/
theorem capped_tracks_uncapped (config : StreamerConfig) (rollup : Rollup Transaction Entry FeedMessage) (finalizedIdx : UInt64)
    (events : List (StreamerEvent Transaction)) :
    trackedHeights (runStreamer config rollup finalizedIdx events) =
      (runReference config rollup hotshotHeight finalizedIdx events).values := by
  have refines := run_streamer_refines config hotshotHeight (fun height => height) rollup (fun _ => rfl) finalizedIdx events
  apply ExtTreeMap.ext_getElem?
  intro seq
  apply Option.ext
  intro height
  have heights := refines.heights seq height
  simp only [exists_eq_right] at heights
  rw [← heights, trackedHeights, queued_heights_lookup _ _ seq height refines.inv.sorted]
  · rfl
  · exact fun e member => refines.inv.separate _ ⟨e, member, rfl⟩

end Cas
