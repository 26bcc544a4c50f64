import Cas.Streamer.Invariant

set_option autoImplicit false

namespace Cas

open SortedSlice
open Std (ExtTreeMap ExtTreeSet)

-- The namespace transactions of one fixed Espresso chain, by block height.
abbrev Chain (Transaction : Type) := UInt64 → List Transaction

def heightsFrom (start : UInt64) : Nat → List UInt64
  | 0 => []
  | count + 1 => start :: heightsFrom (start + 1) count

variable {Transaction Entry FeedMessage : Type} [RollupQueueEntry Entry]

def blocksFrom (chain : Chain Transaction) (start : UInt64) (count : Nat) : List (List Transaction) := (heightsFrom start count).map chain

theorem length_heights_from (start : UInt64) (count : Nat) : (heightsFrom start count).length = count := by
  induction count generalizing start with
  | zero => rfl
  | succ count ih => rw [heightsFrom, List.length_cons, ih]

theorem length_blocks_from (chain : Chain Transaction) (start : UInt64) (count : Nat) : (blocksFrom chain start count).length = count := by
  rw [blocksFrom, List.length_map, length_heights_from]

def slice (chain : Chain Transaction) (start stop : UInt64) : List (List Transaction) := blocksFrom chain start (stop - start).toNat

def ReadsChain (chain : Chain Transaction) (reader : Reader Transaction) : Prop :=
  ∀ start stop txns, reader start stop = some txns → txns = slice chain start stop

-- Deliveries and re-fetches return slices of the chain; a re-fetch may also fail.
def FromChain (chain : Chain Transaction) : StreamerEvent Transaction → Prop
  | .hotshotTransactions transactions height _ => transactions = blocksFrom chain height transactions.length
  | .finalization _ reader => ReadsChain chain reader
  | .broadcastRetry _ => True

def entriesAt (rollup : PositionalRollup Transaction Entry FeedMessage) (chain : Chain Transaction) (height : UInt64) : List Entry :=
  rollup.parseBlock (chain height) height

structure Provenance (rollup : PositionalRollup Transaction Entry FeedMessage) (chain : Chain Transaction)
    (st : Streamer Entry FeedMessage) : Prop where
  queued : ∀ e ∈ st.queue, e ∈ entriesAt rollup chain (hotshotHeight e)
  stubbed : ∀ seq height, st.stubs[seq]? = some height → ∃ e ∈ entriesAt rollup chain height, sequenceNumber e = seq

section Origin

variable (config : StreamerConfig) (rollup : PositionalRollup Transaction Entry FeedMessage) (chain : Chain Transaction)

theorem parse_blocks_from (start : UInt64) (count : Nat) :
    rollup.parseHotshotTransactions (blocksFrom chain start count) start = (heightsFrom start count).flatMap (entriesAt rollup chain) := by
  induction count generalizing start with
  | zero => exact rollup.parse_nil start
  | succ count ih =>
      rw [blocksFrom, heightsFrom, List.map_cons, rollup.parse_cons, ← blocksFrom, ih (start + 1)]
      rfl

theorem entries_at_height (height : UInt64) (entry : Entry) (member : entry ∈ entriesAt rollup chain height) :
    hotshotHeight entry = height :=
  rollup.parse_height (chain height) height entry member

theorem parsed_origin (start : UInt64) (count : Nat) (entry : Entry)
    (member : entry ∈ rollup.parseHotshotTransactions (blocksFrom chain start count) start) :
    entry ∈ entriesAt rollup chain (hotshotHeight entry) := by
  rw [parse_blocks_from] at member
  obtain ⟨height, -, inside⟩ := List.mem_flatMap.mp member
  rw [entries_at_height rollup chain height entry inside]
  exact inside

theorem filter_message_provenance (st : Streamer Entry FeedMessage) (parsed : Entry) (sorted : Increasing sequenceNumber st.queue)
    (origin : parsed ∈ entriesAt rollup chain (hotshotHeight parsed)) (before : Provenance rollup chain st) :
    Provenance rollup chain (filterMessage config st parsed) := by
  have outcome := filter_message_outcome config st parsed sorted
  generalize filterMessage config st parsed = next at outcome ⊢
  have inserted : ∀ e ∈ insertEntry parsed st.queue, e ∈ entriesAt rollup chain (hotshotHeight e) := by
    intro e member
    cases (mem_insert_entry parsed e st.queue).mp member with
    | inl same => exact same ▸ origin
    | inr queued => exact before.queued e queued
  cases outcome with
  | skipped known => exact before
  | kept started fresh room => exact ⟨inserted, before.stubbed⟩
  | evicted started fresh full rest last split =>
      rw [split] at inserted
      refine ⟨fun e member => inserted e (by simp [member]), fun seq height lookup => ?_⟩
      simp only [ExtTreeMap.getElem?_insert, Std.LawfulEqCmp.compare_eq_iff_eq] at lookup
      split at lookup
      · obtain rfl := Option.some.inj lookup
        exact ⟨last, inserted last (by simp), by assumption⟩
      · exact before.stubbed seq height lookup

theorem promote_entry_provenance (st : Streamer Entry FeedMessage) (entry : Entry)
    (origin : entry ∈ entriesAt rollup chain (hotshotHeight entry)) (before : Provenance rollup chain st) :
    Provenance rollup chain (promoteEntry st entry) := by
  refine ⟨fun e member => ?_, fun seq height lookup => ?_⟩
  · cases (mem_insert_entry entry e st.queue).mp member with
    | inl same => exact same ▸ origin
    | inr queued => exact before.queued e queued
  · simp only [promoteEntry, ExtTreeMap.getElem?_erase] at lookup
    split at lookup
    · cases lookup
    · exact before.stubbed seq height lookup

theorem prune_provenance (newFinalizedIdx : UInt64) (st : Streamer Entry FeedMessage) (before : Provenance rollup chain st) :
    Provenance rollup chain (prune newFinalizedIdx st) := by
  refine ⟨fun e member => before.queued e (List.mem_of_mem_drop member), fun seq height lookup => ?_⟩
  rw [prune_stubs] at lookup
  split at lookup
  · exact before.stubbed seq height lookup
  · cases lookup

theorem same_tracked_provenance (before after : Streamer Entry FeedMessage) (same : SameTracked before after)
    (origin : Provenance rollup chain before) : Provenance rollup chain after :=
  ⟨same.queue ▸ origin.queued, same.stubs ▸ origin.stubbed⟩

structure ChainInv (st : Streamer Entry FeedMessage) : Prop where
  inv : StreamerInv config st
  origin : Provenance rollup chain st

theorem read_origin (reader : Reader Transaction) (reads : ReadsChain chain reader) (start stop : UInt64)
    (txns : List (List Transaction)) (answer : reader start stop = some txns) (entry : Entry)
    (member : entry ∈ rollup.parseHotshotTransactions txns start) : entry ∈ entriesAt rollup chain (hotshotHeight entry) := by
  rw [reads start stop txns answer] at member
  exact parsed_origin rollup chain start _ entry member

theorem advanced_chain_invariant (newFinalizedIdx : UInt64) (st : Streamer Entry FeedMessage) (sound : ChainInv config rollup chain st) :
    ChainInv config rollup chain (prune newFinalizedIdx (skipFinalized newFinalizedIdx st)) := by
  have same := skip_finalized_tracked newFinalizedIdx st
  exact ⟨prune_invariant config newFinalizedIdx _ (same_tracked_invariant config st _ same sound.inv),
    prune_provenance rollup chain newFinalizedIdx _ (same_tracked_provenance rollup chain st _ same sound.origin)⟩

theorem promote_stubs_chain_invariant (reader : Reader Transaction) (reads : ReadsChain chain reader)
    (st : Streamer Entry FeedMessage) (sound : ChainInv config rollup chain st) :
    ChainInv config rollup chain (promoteStubs config rollup.toRollup reader st) :=
  promote_stubs_sourced_rule config rollup.toRollup reader (fun entry => entry ∈ entriesAt rollup chain (hotshotHeight entry))
    (ChainInv config rollup chain) (read_origin rollup chain reader reads)
    (fun state entry source before stub room => ⟨promote_entry_invariant config state entry before.inv stub room,
      promote_entry_provenance rollup chain state entry source before.origin⟩)
    st sound.inv.bounded sound

theorem filter_messages_chain_invariant (entries : List Entry)
    (parsed : ∀ entry ∈ entries, entry ∈ entriesAt rollup chain (hotshotHeight entry)) (st : Streamer Entry FeedMessage)
    (sound : ChainInv config rollup chain st) : ChainInv config rollup chain (filterMessages config st entries) :=
  History.run_invariant _ (ChainInv config rollup chain) (fun entry => entry ∈ entriesAt rollup chain (hotshotHeight entry))
    (fun state entry origin before => ⟨filter_message_invariant config state entry before.inv,
      filter_message_provenance config rollup chain state entry before.inv.sorted origin before.origin⟩)
    st entries parsed sound

theorem same_tracked_chain_invariant (before after : Streamer Entry FeedMessage) (same : SameTracked before after)
    (sound : ChainInv config rollup chain before) : ChainInv config rollup chain after :=
  ⟨same_tracked_invariant config before after same sound.inv, same_tracked_provenance rollup chain before after same sound.origin⟩

theorem step_streamer_chain_invariant (st : Streamer Entry FeedMessage) (event : StreamerEvent Transaction)
    (fromChain : FromChain chain event) (sound : ChainInv config rollup chain st) :
    ChainInv config rollup chain (stepStreamer config rollup.toRollup st event) := by
  cases event with
  | hotshotTransactions transactions height send =>
      refine same_tracked_chain_invariant config rollup chain _ _ (broadcast_loop_tracked rollup.toRollup send _ 0 _) ?_
      apply filter_messages_chain_invariant config rollup chain _ _ st sound
      rw [show transactions = blocksFrom chain height transactions.length from fromChain]
      exact parsed_origin rollup chain height _
  | finalization newFinalizedIdx reader =>
      simp only [stepStreamer, handleFinalization]
      split
      · exact same_tracked_chain_invariant config rollup chain st _ (skip_finalized_tracked newFinalizedIdx st) sound
      · exact promote_stubs_chain_invariant config rollup chain reader fromChain _
          (advanced_chain_invariant config rollup chain newFinalizedIdx st sound)
  | broadcastRetry send =>
      refine same_tracked_chain_invariant config rollup chain { st with retryScheduled := false } _
        (broadcast_loop_tracked rollup.toRollup send _ 0 _) ?_
      exact same_tracked_chain_invariant config rollup chain st _ ⟨rfl, rfl⟩ sound

theorem new_streamer_chain_invariant (finalizedIdx : UInt64) : ChainInv config rollup chain (.new finalizedIdx) := by
  refine ⟨new_streamer_invariant config finalizedIdx, fun e member => ?_, fun seq height lookup => ?_⟩
  · cases member
  · simp [Streamer.new] at lookup

/-- Every tracked message stands in the block it is dated to, whatever the chain holds and whichever re-fetches fail. -/
theorem run_streamer_provenance (finalizedIdx : UInt64) (events : List (StreamerEvent Transaction))
    (fromChain : ∀ event ∈ events, FromChain chain event) :
    ChainInv config rollup chain (runStreamer config rollup.toRollup finalizedIdx events) :=
  History.run_invariant _ (ChainInv config rollup chain) (FromChain chain) (step_streamer_chain_invariant config rollup chain)
    _ events fromChain (new_streamer_chain_invariant config rollup chain finalizedIdx)

end Origin

end Cas
