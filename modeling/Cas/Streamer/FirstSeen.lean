import Cas.Nitro.Payload
import Cas.Streamer.Promotion
import Cas.Streamer.Refinement

set_option autoImplicit false

namespace Cas

open SortedSlice
open Std (ExtTreeMap ExtTreeSet)

variable {Transaction Entry FeedMessage : Type} [RollupQueueEntry Entry]

section Accepted

variable (config : StreamerConfig) (rollup : PositionalRollup Transaction Entry FeedMessage) (chain : Chain Transaction)

def firstInBlock (stub : UInt64 × UInt64) : Option Entry := (named stub.1 (entriesAt rollup chain stub.2)).head?

def RecordsFirst (reference : Reference Entry) : Prop :=
  ∀ seq entry, reference.values[seq]? = some entry →
    sequenceNumber entry = seq ∧ firstInBlock rollup chain (seq, hotshotHeight entry) = some entry

theorem record_entry_known (reference : Reference Entry) (parsed : Entry) (seq : UInt64) :
    seq ∈ (recordEntry config (fun e => e) reference parsed).values ↔
      seq ∈ reference.values ∨ (config.startingPos ≤ seq ∧ sequenceNumber parsed = seq) := by
  unfold recordEntry
  split
  · rename_i accepted
    simp only [ExtTreeMap.mem_insert, Std.LawfulEqCmp.compare_eq_iff_eq]
    exact ⟨fun known => known.elim (fun same => .inr ⟨same ▸ accepted.1, same⟩) .inl,
      fun known => known.elim .inr fun new => .inl new.2⟩
  · rename_i refused
    refine ⟨.inl, fun known => known.elim id fun ⟨started, same⟩ => ?_⟩
    by_contra absent
    exact refused ⟨same ▸ started, same ▸ absent⟩

theorem record_entry_first (reference : Reference Entry) (height : UInt64) (done tail : List Entry) (parsed : Entry)
    (block : entriesAt rollup chain height = done ++ parsed :: tail)
    (seen : ∀ e ∈ done, config.startingPos ≤ sequenceNumber e → sequenceNumber e ∈ reference.values)
    (before : RecordsFirst rollup chain reference) :
    RecordsFirst rollup chain (recordEntry config (fun e => e) reference parsed) := by
  unfold recordEntry
  split
  · rename_i accepted
    intro seq entry lookup
    cases (insert_lookup _ _ _ _ _ accepted.2).mp lookup with
    | inr old => exact before seq entry old
    | inl new =>
        obtain ⟨rfl, rfl⟩ := new
        have dated := entries_at_height rollup chain height parsed (by rw [block]; simp)
        have unseen : named (sequenceNumber parsed) done = [] := by
          by_contra occurs
          obtain ⟨e, member, same⟩ := (named_ne_nil _ _).mp occurs
          exact accepted.2 (same ▸ seen e member (same ▸ accepted.1))
        refine ⟨rfl, ?_⟩
        rw [firstInBlock, dated, block, named_append, unseen]
        simp [named]
  · exact before

theorem record_block_first (height : UInt64) (done rest : List Entry) (block : entriesAt rollup chain height = done ++ rest)
    (reference : Reference Entry)
    (seen : ∀ e ∈ done, config.startingPos ≤ sequenceNumber e → sequenceNumber e ∈ reference.values)
    (before : RecordsFirst rollup chain reference) :
    RecordsFirst rollup chain (History.run (recordEntry config fun e => e) reference rest) := by
  induction rest generalizing done reference with
  | nil => exact before
  | cons parsed tail ih =>
      refine ih (done ++ [parsed]) (by rw [block, List.append_assoc]; rfl) _ ?_
        (record_entry_first config rollup chain reference height done tail parsed block seen before)
      intro e member started
      rw [record_entry_known]
      cases List.mem_append.mp member with
      | inl earlier => exact .inl (seen e earlier started)
      | inr now => exact .inr ⟨started, by rw [List.mem_singleton.mp now]⟩

theorem record_blocks_first (heights : List UInt64) (reference : Reference Entry) (before : RecordsFirst rollup chain reference) :
    RecordsFirst rollup chain (History.run (recordEntry config fun e => e) reference (heights.flatMap (entriesAt rollup chain))) := by
  induction heights generalizing reference with
  | nil => exact before
  | cons height tail ih =>
      rw [List.flatMap_cons, History.run_append]
      exact ih _ (record_block_first config rollup chain height [] _ rfl reference (by simp) before)

theorem step_reference_first (reference : Reference Entry) (event : StreamerEvent Transaction) (fromChain : FromChain chain event)
    (before : RecordsFirst rollup chain reference) :
    RecordsFirst rollup chain (stepReference config rollup.toRollup (fun e => e) reference event) := by
  cases event with
  | hotshotTransactions transactions height send =>
      rw [stepReference, show transactions = blocksFrom chain height transactions.length from fromChain, parse_blocks_from]
      exact record_blocks_first config rollup chain _ reference before
  | finalization newFinalizedIdx reader =>
      simp only [stepReference]
      split
      · intro seq entry lookup
        rw [ExtTreeMap.getElem?_filter'] at lookup
        exact before seq entry (Option.eq_some_of_filter_eq_some lookup)
      · exact before
  | broadcastRetry send => exact before

end Accepted

def HoldsFirst (st : Streamer Entry FeedMessage) (reference : Reference Entry) : Prop :=
  ∀ e ∈ st.queue, reference.values[sequenceNumber e]? = some e

theorem record_entry_holds_first (config : StreamerConfig) (st : Streamer Entry FeedMessage) (reference : Reference Entry)
    (parsed : Entry) (refines : Refines config hotshotHeight st reference) (before : HoldsFirst st reference) :
    HoldsFirst (filterMessage config st parsed) (recordEntry config (fun e => e) reference parsed) := by
  have known := refines_tracked config hotshotHeight st reference refines (sequenceNumber parsed)
  have inserted : config.startingPos ≤ sequenceNumber parsed → ¬ Tracked st (sequenceNumber parsed) →
      ∀ e ∈ insertEntry parsed st.queue, (recordEntry config (fun e => e) reference parsed).values[sequenceNumber e]? = some e := by
    intro started fresh e member
    have accepted : config.startingPos ≤ sequenceNumber parsed ∧ sequenceNumber parsed ∉ reference.values :=
      ⟨started, fun present => fresh (known.mpr present)⟩
    rw [recordEntry, if_pos accepted, insert_lookup _ _ _ _ _ accepted.2]
    exact ((mem_insert_entry parsed e st.queue).mp member).imp (fun same => ⟨by rw [same], same.symm⟩) (before e)
  have outcome := filter_message_outcome config st parsed refines.inv.sorted
  generalize filterMessage config st parsed = next at outcome ⊢
  cases outcome with
  | skipped skip =>
      have refused : ¬ (config.startingPos ≤ sequenceNumber parsed ∧ sequenceNumber parsed ∉ reference.values) := by
        intro given
        obtain ⟨started, absent⟩ := given
        exact skip.elim (not_lt.mpr started) fun tracked => absent (known.mp tracked)
      rw [recordEntry, if_neg refused]
      exact before
  | kept started fresh room => exact inserted started fresh
  | evicted started fresh full rest last split =>
      intro e member
      exact inserted started fresh e (by rw [split]; simp [show e ∈ rest from member])

theorem prune_holds_first (newFinalizedIdx : UInt64) (st : Streamer Entry FeedMessage) (reference : Reference Entry)
    (sorted : Increasing sequenceNumber st.queue) (before : HoldsFirst st reference) :
    HoldsFirst (prune newFinalizedIdx st) ⟨reference.values.filter fun seq _ => newFinalizedIdx < seq, newFinalizedIdx⟩ := by
  intro e member
  rw [prune_queue newFinalizedIdx st sorted, List.mem_filter, decide_eq_true_eq] at member
  simp only [ExtTreeMap.getElem?_filter', before e member.1, member.2, decide_true, Option.filter_some, if_true]

theorem filter_messages_hold_first (config : StreamerConfig) (st : Streamer Entry FeedMessage) (reference : Reference Entry)
    (entries : List Entry) (refines : Refines config hotshotHeight st reference) (before : HoldsFirst st reference) :
    HoldsFirst (filterMessages config st entries) (History.run (recordEntry config fun e => e) reference entries) :=
  (History.run_simulates (filterMessage config) (recordEntry config fun e => e)
    (fun state shadow => Refines config hotshotHeight state shadow ∧ HoldsFirst state shadow)
    (fun state shadow parsed both => ⟨record_entry_refines config (fun e => e) hotshotHeight (fun _ => rfl) state shadow parsed both.1,
      record_entry_holds_first config state shadow parsed both.1 both.2⟩) st reference entries ⟨refines, before⟩).2

section FirstSeen

variable (config : StreamerConfig) (rollup : PositionalRollup Transaction Entry FeedMessage) (chain : Chain Transaction)

-- Promotion takes the last message of a number in its block, the uncapped streamer the first.
def PromotesFirst (reader : Reader Transaction) (st : Streamer Entry FeedMessage) : Prop :=
  Answered config reader st → ∀ stub ∈ stubsToPromote config st,
    (∀ other ∈ stubsToPromote config st, other.1 ≤ stub.1 → ¬ Shadowed config rollup chain st other) →
      firstInBlock rollup chain stub = lastInBlock rollup chain stub

theorem recorded_stub (st : Streamer Entry FeedMessage) (reference : Reference Entry)
    (refines : Refines config hotshotHeight st reference) (first : RecordsFirst rollup chain reference) (stub : UInt64 × UInt64)
    (selected : stub ∈ stubsToPromote config st) : reference.values[stub.1]? = firstInBlock rollup chain stub := by
  have tracked : TrackedAt st stub.1 stub.2 := .inr (stubs_to_promote_present config st stub selected)
  obtain ⟨entry, recorded, dated⟩ := (refines.heights stub.1 stub.2).mp tracked
  have accepted := (first stub.1 entry recorded).2
  rw [dated] at accepted
  exact recorded.trans accepted.symm

theorem promote_stubs_hold_first_iff (reader : Reader Transaction) (reads : ReadsChain chain reader) (st : Streamer Entry FeedMessage)
    (reference : Reference Entry) (sound : ChainInv config rollup chain st) (refines : Refines config hotshotHeight st reference)
    (first : RecordsFirst rollup chain reference) (before : HoldsFirst st reference) :
    HoldsFirst (promoteStubs config rollup.toRollup reader st) reference ↔ PromotesFirst config rollup chain reader st := by
  by_cases answered : Answered config reader st
  · have outcome := promote_stubs_outcome config rollup chain reader reads st sound answered
    have recorded := recorded_stub config rollup chain st reference refines first
    constructor
    · intro holds _ stub selected unblocked
      obtain ⟨e, last, -⟩ := last_in_block_exists config rollup chain st sound stub selected
      have kept := holds e ((outcome.queue e).mpr (.inr ⟨stub, selected, unblocked, last⟩))
      rw [last_in_block_number rollup chain stub e last, recorded stub selected] at kept
      exact kept.trans last.symm
    · intro promotes e member
      cases (outcome.queue e).mp member with
      | inl old => exact before e old
      | inr new =>
          obtain ⟨stub, selected, unblocked, last⟩ := new
          rw [last_in_block_number rollup chain stub e last, recorded stub selected, promotes answered stub selected unblocked]
          exact last
  · rw [promote_stubs_refused config rollup.toRollup reader st answered]
    exact iff_of_true before fun given => absurd given answered

def KeepsFirst (st : Streamer Entry FeedMessage) : StreamerEvent Transaction → Prop
  | .hotshotTransactions _ _ _ => True
  | .finalization newFinalizedIdx reader => st.finalizedIdx < newFinalizedIdx →
      PromotesFirst config rollup chain reader (prune newFinalizedIdx (skipFinalized newFinalizedIdx st))
  | .broadcastRetry _ => True

structure FirstSeenInv (both : Streamer Entry FeedMessage × Reference Entry) : Prop where
  sound : ChainInv config rollup chain both.1
  refines : Refines config hotshotHeight both.1 both.2
  first : RecordsFirst rollup chain both.2

theorem step_first_seen_invariant (both : Streamer Entry FeedMessage × Reference Entry) (event : StreamerEvent Transaction)
    (fromChain : FromChain chain event) (inv : FirstSeenInv config rollup chain both) :
    FirstSeenInv config rollup chain (stepStreamer config rollup.toRollup both.1 event,
      stepReference config rollup.toRollup (fun e => e) both.2 event) :=
  ⟨step_streamer_chain_invariant config rollup chain both.1 event fromChain inv.sound,
    step_streamer_refines config (fun e => e) hotshotHeight rollup.toRollup (fun _ => rfl) both.1 both.2 event inv.refines,
    step_reference_first config rollup chain both.2 event fromChain inv.first⟩

theorem finalization_hold_first_iff (newFinalizedIdx : UInt64) (reader : Reader Transaction) (reads : ReadsChain chain reader)
    (st : Streamer Entry FeedMessage) (reference : Reference Entry) (inv : FirstSeenInv config rollup chain (st, reference))
    (before : HoldsFirst st reference) :
    HoldsFirst (handleFinalization config rollup.toRollup reader newFinalizedIdx st)
        (stepReference config rollup.toRollup (fun e => e) reference (.finalization newFinalizedIdx reader)) ↔
      (st.finalizedIdx < newFinalizedIdx →
        PromotesFirst config rollup chain reader (prune newFinalizedIdx (skipFinalized newFinalizedIdx st))) := by
  have skipped := skip_finalized_refines config hotshotHeight newFinalizedIdx st reference inv.refines
  have idx := skip_finalized_idx newFinalizedIdx st
  have heldSkipped : HoldsFirst (skipFinalized newFinalizedIdx st) reference := by
    intro e member
    rw [(skip_finalized_tracked newFinalizedIdx st).queue] at member
    exact before e member
  by_cases advanced : st.finalizedIdx < newFinalizedIdx
  · have pruned := prune_refines config hotshotHeight newFinalizedIdx _ reference skipped
    have recorded := step_reference_first config rollup chain reference (.finalization newFinalizedIdx reader) reads inv.first
    have referenceAdvanced : reference.finalizedIdx < newFinalizedIdx := inv.refines.finalized ▸ advanced
    simp only [stepReference, if_pos referenceAdvanced] at recorded
    simp only [handleFinalization, stepReference, if_pos referenceAdvanced]
    rw [if_neg (idx ▸ not_le.mpr advanced), promote_stubs_hold_first_iff config rollup chain reader reads _ _
      (advanced_chain_invariant config rollup chain newFinalizedIdx st inv.sound) pruned recorded
      (prune_holds_first newFinalizedIdx _ reference skipped.inv.sorted heldSkipped)]
    exact ⟨fun promotes _ => promotes, fun promotes => promotes advanced⟩
  · have referenceStale : ¬ reference.finalizedIdx < newFinalizedIdx := inv.refines.finalized ▸ advanced
    simp only [handleFinalization, stepReference, if_neg referenceStale]
    rw [if_pos (idx ▸ not_lt.mp advanced)]
    exact iff_of_true heldSkipped fun moved => absurd moved advanced

theorem step_hold_first_iff (both : Streamer Entry FeedMessage × Reference Entry) (event : StreamerEvent Transaction)
    (fromChain : FromChain chain event) (inv : FirstSeenInv config rollup chain both) (before : HoldsFirst both.1 both.2) :
    HoldsFirst (stepStreamer config rollup.toRollup both.1 event) (stepReference config rollup.toRollup (fun e => e) both.2 event) ↔
      KeepsFirst config rollup chain both.1 event := by
  obtain ⟨st, reference⟩ := both
  have sameQueue : ∀ {before after : Streamer Entry FeedMessage}, SameTracked before after → HoldsFirst before reference →
      HoldsFirst after reference := fun same holds e member => holds e (same.queue ▸ member)
  cases event with
  | hotshotTransactions transactions height send =>
      refine iff_of_true (fun e member => ?_) trivial
      rw [stepStreamer, handleHotshotTransactions, tryBroadcastFeedMessage, (broadcast_loop_tracked rollup.toRollup send _ 0 _).queue] at member
      exact filter_messages_hold_first config st reference _ inv.refines before e member
  | finalization newFinalizedIdx reader =>
      exact finalization_hold_first_iff config rollup chain newFinalizedIdx reader fromChain st reference inv before
  | broadcastRetry send =>
      exact iff_of_true (sameQueue (broadcast_loop_tracked rollup.toRollup send _ 0 { st with retryScheduled := false }) before) trivial

/-- With deliveries and re-fetches from one chain, every full entry is in every state the one first accepted under its number
exactly when each finalization promotes only stubs for which the first and the last message in their block are the same. -/
theorem first_seen_kept_iff (finalizedIdx : UInt64) (events : List (StreamerEvent Transaction))
    (fromChain : ∀ event ∈ events, FromChain chain event) :
    (∀ seen, seen <+: events → ∀ e ∈ (runStreamer config rollup.toRollup finalizedIdx seen).queue,
        (runReference config rollup.toRollup (fun e => e) finalizedIdx seen).values[sequenceNumber e]? = some e) ↔
      History.Taken (stepStreamer config rollup.toRollup) (.new finalizedIdx) events (KeepsFirst config rollup chain) := by
  have criterion := History.reached_iff_taken
    (fun (both : Streamer Entry FeedMessage × Reference Entry) event =>
      (stepStreamer config rollup.toRollup both.1 event, stepReference config rollup.toRollup (fun e => e) both.2 event))
    (FirstSeenInv config rollup chain) (fun both => HoldsFirst both.1 both.2) (FromChain chain)
    (fun both event => KeepsFirst config rollup chain both.1 event) (step_first_seen_invariant config rollup chain)
    (step_hold_first_iff config rollup chain) (.new finalizedIdx, ⟨∅, finalizedIdx⟩) events fromChain
    ⟨new_streamer_chain_invariant config rollup chain finalizedIdx,
      run_streamer_refines config (fun e => e) hotshotHeight rollup.toRollup (fun _ => rfl) finalizedIdx [], by
        intro seq entry lookup
        simp at lookup⟩
    (by intro e member; cases member)
  simp only [History.Reached, History.Taken, History.run_pair] at criterion
  exact criterion

end FirstSeen

-- Message 3 stands twice in its block, becomes a stub and is promoted.
def repeatedRun : List (StreamerEvent (List UInt8)) :=
  [.hotshotTransactions (slice (mockChain [[], [1, 2, 3, 3]]) 1 2) 1 (fun _ => .accepted),
    .finalization 2 fun start stop => some (slice (mockChain [[], [1, 2, 3, 3]]) start stop)]

theorem first_seen_kept_repeated :
    (runStreamer ⟨1, 2⟩ mockRollup.toRollup 0 repeatedRun).queue = [⟨3, 1⟩] ∧
      ∀ e ∈ (runStreamer ⟨1, 2⟩ mockRollup.toRollup 0 repeatedRun).queue,
        (runReference ⟨1, 2⟩ mockRollup.toRollup (fun e => e) 0 repeatedRun).values[sequenceNumber e]? = some e := by
  refine ⟨by decide +kernel, (first_seen_kept_iff ⟨1, 2⟩ mockRollup (mockChain [[], [1, 2, 3, 3]]) 0 repeatedRun ?_).mpr ?_
    repeatedRun (List.prefix_refl _)⟩
  · intro event member
    rw [repeatedRun, List.mem_cons, List.mem_singleton] at member
    cases member with
    | inl delivered =>
        rw [delivered]
        rfl
    | inr finalized =>
        rw [finalized]
        exact fun _ _ _ answer => (Option.some.inj answer).symm
  · rw [repeatedRun, History.taken_cons, History.taken_cons]
    have selection : stubsToPromote ⟨1, 2⟩ (prune 2 (skipFinalized 2 (mockDelivered [[], [1, 2, 3, 3]] 2))) = [(3, 1)] := by
      decide +kernel
    refine ⟨trivial, fun _ _ stub selected _ => ?_, History.taken_nil _ _ _⟩
    obtain rfl := List.mem_singleton.mp (selection ▸ selected)
    decide +kernel

-- One block with the message before, the message and the message forged from it. One slot.
def equivocatedChain : Chain Bytes := fun height =>
  if height = 1 then [v1Payload [precedingJson, upstreamJson, forgedJson]] else []

def equivocatedRun : List (StreamerEvent Bytes) :=
  [.hotshotTransactions (slice equivocatedChain 1 2) 1 (fun _ => .accepted),
    .finalization 12344 fun start stop => some (slice equivocatedChain start stop)]

theorem promotion_replaces_first_seen :
    (runStreamer ⟨12344, 1⟩ sequencerRollup.toRollup 0 equivocatedRun).queue = [⟨forgedFeedMessage, 1⟩] ∧
      (runReference ⟨12344, 1⟩ sequencerRollup.toRollup (fun e => e) 0 equivocatedRun).values[(12345 : UInt64)]? =
        some ⟨upstreamFeedMessage, 1⟩ ∧
      upstreamFeedMessage ≠ forgedFeedMessage := by
  decide +kernel

end Cas
