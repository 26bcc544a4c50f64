import Cas.Streamer.Poller
import Cas.Streamer.Refinement
import Cas.Streamer.Windows

set_option autoImplicit false

namespace Cas

open Word64
open Std (ExtTreeMap)

variable {Transaction Entry FeedMessage : Type} [RollupQueueEntry Entry]

def RoundReads (chain : Chain Transaction) (round : PollRound Transaction) : Prop :=
  ∀ start stop transactions, round.namespaceTransactionsInRange start stop = .ok transactions →
    transactions = blocksFrom chain start (stop.toNat - start.toNat)

def polled (start : UInt64) (rounds : List (PollRound Transaction)) : Poller Transaction :=
  History.run pollHotshotBlocks (Poller.init start) rounds

def StreamerEvent.delivered : StreamerEvent Transaction → Option (List (List Transaction) × UInt64)
  | .hotshotTransactions transactions height _ => some (transactions, height)
  | .finalization _ _ => none
  | .broadcastRetry _ => none

-- The streamer behind its poller: what it was delivered, between finalizations and retries at any time,
-- is what the poller has sent.
structure Fed (chain : Chain Transaction) (start : UInt64) (rounds : List (PollRound Transaction))
    (events : List (StreamerEvent Transaction)) : Prop where
  reads : ∀ round ∈ rounds, RoundReads chain round
  delivered : events.filterMap StreamerEvent.delivered =
    (polled start rounds).sent.map fun delivery => (delivery.transactions, delivery.fromBlock)

def heightsBetween (start stop : UInt64) : List UInt64 := heightsFrom start (stop.toNat - start.toNat)

def firstBlock (rollup : PositionalRollup Transaction Entry FeedMessage) (chain : Chain Transaction) (seq : UInt64)
    (heights : List UInt64) : Option UInt64 :=
  heights.find? fun height => (entriesAt rollup chain height).any fun e => sequenceNumber e = seq

theorem first_block_append (rollup : PositionalRollup Transaction Entry FeedMessage) (chain : Chain Transaction) (seq : UInt64)
    (first second : List UInt64) :
    firstBlock rollup chain seq (first ++ second) = (firstBlock rollup chain seq first).or (firstBlock rollup chain seq second) :=
  List.find?_append

theorem heights_from_add (start : UInt64) (first second : Nat) :
    heightsFrom start (first + second) = heightsFrom start first ++ heightsFrom (start + UInt64.ofNat first) second := by
  induction first generalizing start with
  | zero => simp [heightsFrom]
  | succ first ih =>
      have next : start + 1 + UInt64.ofNat first = start + UInt64.ofNat (first + 1) := by
        rw [UInt64.ofNat_add, UInt64.add_assoc, UInt64.add_comm 1]
        rfl
      rw [Nat.succ_add_eq_add_succ, Nat.add_succ, heightsFrom, ih, next]
      rfl

theorem heights_between_split (start middle stop : UInt64) (first : start ≤ middle) (second : middle ≤ stop) :
    heightsBetween start stop = heightsBetween start middle ++ heightsBetween middle stop := by
  have firstNat := UInt64.le_iff_toNat_le.mp first
  have secondNat := UInt64.le_iff_toNat_le.mp second
  have reached : start + UInt64.ofNat (middle.toNat - start.toNat) = middle := by
    rw [← UInt64.toNat_sub_of_le middle start first, UInt64.ofNat_toNat, UInt64.add_comm, UInt64.sub_add_cancel]
  rw [heightsBetween, show stop.toNat - start.toNat = (middle.toNat - start.toNat) + (stop.toNat - middle.toNat) by omega,
    heights_from_add, reached]
  rfl

theorem mem_heights_between (start stop height : UInt64) : height ∈ heightsBetween start stop ↔ start ≤ height ∧ height < stop := by
  have below := stop.toNat_lt
  have fits : start.toNat + (stop.toNat - start.toNat) ≤ 2 ^ 64 := by
    have startBelow := start.toNat_lt
    omega
  rw [heightsBetween, mem_heights_from _ _ fits, UInt64.le_iff_toNat_le, UInt64.lt_iff_toNat_lt]
  omega

theorem round_reads_exact (chain : Chain Transaction) (round : PollRound Transaction) (reads : RoundReads chain round) :
    ExactReads round := by
  intro start stop transactions answered
  rw [reads start stop transactions answered, length_blocks_from]

section Recovery

variable (config : StreamerConfig) (rollup : PositionalRollup Transaction Entry FeedMessage) (chain : Chain Transaction)

theorem record_entry_lookup (reference : Reference UInt64) (entry : Entry) (seq : UInt64) :
    (recordEntry config hotshotHeight reference entry).values[seq]? =
      reference.values[seq]?.or (if config.startingPos ≤ seq ∧ sequenceNumber entry = seq then some (hotshotHeight entry) else none) := by
  unfold recordEntry
  by_cases same : sequenceNumber entry = seq
  · subst seq
    by_cases started : config.startingPos ≤ sequenceNumber entry
    · by_cases known : sequenceNumber entry ∈ reference.values
      · rw [if_neg (fun accepted => accepted.2 known), ExtTreeMap.getElem?_eq_some_getElem known]
        rfl
      · rw [if_pos ⟨started, known⟩, ExtTreeMap.getElem?_insert_self, ExtTreeMap.getElem?_eq_none known, if_pos ⟨started, rfl⟩]
        rfl
    · rw [if_neg (fun accepted => started accepted.1), if_neg (fun accepted => started accepted.1), Option.or_none]
  · have other : ¬(config.startingPos ≤ seq ∧ sequenceNumber entry = seq) := fun accepted => same accepted.2
    rw [if_neg other, Option.or_none]
    split
    · rw [ExtTreeMap.getElem?_insert, if_neg (fun equal => same (Std.LawfulEqCmp.eq_of_compare equal))]
    · rfl

theorem record_block_lookup (height : UInt64) (entries : List Entry) (dated : ∀ e ∈ entries, hotshotHeight e = height)
    (reference : Reference UInt64) (seq : UInt64) :
    (History.run (recordEntry config hotshotHeight) reference entries).values[seq]? =
      reference.values[seq]?.or
        (if config.startingPos ≤ seq ∧ entries.any (fun e => sequenceNumber e = seq) then some height else none) := by
  induction entries generalizing reference with
  | nil => simp [History.run]
  | cons entry later ih =>
      rw [History.run_cons, ih (fun e member => dated e (by simp [member])), record_entry_lookup, dated entry (by simp), Option.or_assoc]
      congr 1
      by_cases started : config.startingPos ≤ seq <;> by_cases same : sequenceNumber entry = seq <;> simp [started, same]

theorem record_blocks_lookup (heights : List UInt64) (reference : Reference UInt64) (seq : UInt64) :
    (History.run (recordEntry config hotshotHeight) reference (heights.flatMap (entriesAt rollup chain))).values[seq]? =
      reference.values[seq]?.or (if config.startingPos ≤ seq then firstBlock rollup chain seq heights else none) := by
  induction heights generalizing reference with
  | nil => simp [History.run, firstBlock]
  | cons height later ih =>
      rw [List.flatMap_cons, History.run_append, ih, record_block_lookup config height _ (entries_at_height rollup chain height),
        Option.or_assoc]
      congr 1
      by_cases started : config.startingPos ≤ seq
      · cases occurs : (entriesAt rollup chain height).any fun e => sequenceNumber e = seq <;> simp [started, firstBlock, occurs]
      · simp [started]

theorem step_reference_finalized (reference : Reference UInt64) (event : StreamerEvent Transaction) :
    reference.finalizedIdx ≤ (stepReference config rollup.toRollup hotshotHeight reference event).finalizedIdx := by
  cases event with
  | hotshotTransactions transactions height send =>
      refine History.run_invariant _ (fun next => reference.finalizedIdx ≤ next.finalizedIdx) (fun _ => True) (fun next entry _ grown => ?_)
        reference _ (fun _ _ => trivial) le_rfl
      unfold recordEntry
      split
      · exact grown
      · exact grown
  | finalization newFinalizedIdx reader =>
      simp only [stepReference]
      split
      · rename_i advanced
        exact le_of_lt advanced
      · exact le_rfl
  | broadcastRetry send => exact le_rfl

theorem run_reference_finalized (reference : Reference UInt64) (events : List (StreamerEvent Transaction)) :
    reference.finalizedIdx ≤ (History.run (stepReference config rollup.toRollup hotshotHeight) reference events).finalizedIdx :=
  History.run_invariant _ (fun next => reference.finalizedIdx ≤ next.finalizedIdx) (fun _ => True)
    (fun next event _ grown => le_trans grown (step_reference_finalized config rollup next event)) reference events
    (fun _ _ => trivial) le_rfl

theorem finalization_finalized (newFinalizedIdx : UInt64) (reader : Reader Transaction) (reference : Reference UInt64) :
    newFinalizedIdx ≤ (stepReference config rollup.toRollup hotshotHeight reference (.finalization newFinalizedIdx reader)).finalizedIdx := by
  simp only [stepReference]
  split
  · exact le_rfl
  · rename_i stale
    exact not_lt.mp stale

theorem finalization_lookup (newFinalizedIdx : UInt64) (reader : Reader Transaction) (reference : Reference UInt64) (seq : UInt64)
    (above : newFinalizedIdx < seq) :
    (stepReference config rollup.toRollup hotshotHeight reference (.finalization newFinalizedIdx reader)).values[seq]? =
      reference.values[seq]? := by
  simp only [stepReference]
  split
  · rw [ExtTreeMap.getElem?_filter']
    cases reference.values[seq]? <;> simp [above]
  · rfl

theorem consecutive_ordered (start stop : UInt64) (sent : List (Delivery Transaction)) (covered : Consecutive start sent stop) :
    start ≤ stop := by
  have total := consecutive_blocks start stop sent covered
  rw [UInt64.le_iff_toNat_le]
  omega

theorem fed_reference_lookup (start stop : UInt64) (sent : List (Delivery Transaction)) (events : List (StreamerEvent Transaction))
    (covered : Consecutive start sent stop)
    (blocks : ∀ delivery ∈ sent, delivery.transactions = blocksFrom chain delivery.fromBlock delivery.transactions.length)
    (delivered : events.filterMap StreamerEvent.delivered = sent.map fun delivery => (delivery.transactions, delivery.fromBlock))
    (reference : Reference UInt64) (seq : UInt64)
    (above : (History.run (stepReference config rollup.toRollup hotshotHeight) reference events).finalizedIdx < seq) :
    (History.run (stepReference config rollup.toRollup hotshotHeight) reference events).values[seq]? =
      reference.values[seq]?.or (if config.startingPos ≤ seq then firstBlock rollup chain seq (heightsBetween start stop) else none) := by
  induction events generalizing start sent reference with
  | nil =>
      obtain rfl := List.map_eq_nil_iff.mp delivered.symm
      obtain rfl : stop = start := covered
      simp [History.run, heightsBetween, heightsFrom, firstBlock]
  | cons event later ih =>
      cases event with
      | hotshotTransactions transactions height send =>
          cases sent with
          | nil => cases delivered
          | cons delivery rest =>
              obtain ⟨same, remaining⟩ := List.cons.inj delivered
              obtain ⟨rfl, rfl⟩ := Prod.mk.inj same
              obtain ⟨rfl, proper, further⟩ := covered
              rw [History.run_cons, ih delivery.toBlock rest further (fun other member => blocks other (by simp [member])) remaining _ above,
                stepReference, blocks delivery (by simp), parse_blocks_from, record_blocks_lookup, Option.or_assoc,
                heights_between_split _ _ _ (le_of_lt proper.nonempty) (consecutive_ordered _ _ _ further), proper.blocks]
              congr 1
              by_cases started : config.startingPos ≤ seq
              · simp only [started, if_true, first_block_append]
                rfl
              · simp [started]
      | finalization newFinalizedIdx reader =>
          have passed : newFinalizedIdx < seq :=
            lt_of_le_of_lt (le_trans (finalization_finalized config rollup newFinalizedIdx reader reference)
              (run_reference_finalized config rollup _ later)) above
          rw [History.run_cons, ih start sent covered blocks delivered _ above, finalization_lookup config rollup _ reader _ seq passed]
      | broadcastRetry send => exact ih start sent covered blocks delivered reference above

theorem fed_reference_heights (start stop : UInt64) (sent : List (Delivery Transaction)) (events : List (StreamerEvent Transaction))
    (covered : Consecutive start sent stop)
    (blocks : ∀ delivery ∈ sent, delivery.transactions = blocksFrom chain delivery.fromBlock delivery.transactions.length)
    (delivered : events.filterMap StreamerEvent.delivered = sent.map fun delivery => (delivery.transactions, delivery.fromBlock))
    (reference : Reference UInt64) (seq height : UInt64)
    (recorded : (History.run (stepReference config rollup.toRollup hotshotHeight) reference events).values[seq]? = some height) :
    reference.values[seq]? = some height ∨ height ∈ heightsBetween start stop := by
  induction events generalizing start sent reference with
  | nil => exact .inl recorded
  | cons event later ih =>
      cases event with
      | hotshotTransactions transactions block send =>
          cases sent with
          | nil => cases delivered
          | cons delivery rest =>
              obtain ⟨same, remaining⟩ := List.cons.inj delivered
              obtain ⟨rfl, rfl⟩ := Prod.mk.inj same
              obtain ⟨rfl, proper, further⟩ := covered
              rw [heights_between_split _ _ _ (le_of_lt proper.nonempty) (consecutive_ordered _ _ _ further), List.mem_append]
              rcases ih _ rest further (fun other member => blocks other (by simp [member])) remaining _ recorded with now | afterwards
              · rw [stepReference, blocks delivery (by simp), parse_blocks_from, record_blocks_lookup, Option.or_eq_some_iff,
                  proper.blocks] at now
                refine now.imp_right fun fresh => .inl ?_
                have found := fresh.2
                split at found
                · exact List.mem_of_find?_eq_some found
                · cases found
              · exact .inr (.inr afterwards)
      | finalization newFinalizedIdx reader =>
          refine (ih start sent covered blocks delivered _ recorded).imp_left fun kept => ?_
          simp only [stepReference] at kept
          split at kept
          · rw [ExtTreeMap.getElem?_filter'] at kept
            exact Option.eq_some_of_filter_eq_some kept
          · exact kept
      | broadcastRetry send => exact ih start sent covered blocks delivered reference recorded

structure Polled (start : UInt64) (st : Poller Transaction) : Prop where
  consecutive : Consecutive start st.sent st.fromBlock
  blocks : ∀ delivery ∈ st.sent, delivery.transactions = blocksFrom chain delivery.fromBlock delivery.transactions.length

theorem polled_from_chain (start : UInt64) (rounds : List (PollRound Transaction)) (reads : ∀ round ∈ rounds, RoundReads chain round) :
    Polled chain start (polled start rounds) where
  consecutive := History.run_invariant pollHotshotBlocks (fun st => Consecutive start st.sent st.fromBlock) (RoundReads chain)
    (fun st round exactly => poll_consecutive start st round (round_reads_exact chain round exactly)) (Poller.init start) rounds reads rfl
  blocks delivery member := by
    obtain ⟨round, asked, own⟩ := delivery_answered start rounds delivery member
    rw [reads round asked _ _ _ own.range, length_blocks_from]

theorem fed_tracked_at (start finalizedIdx : UInt64) (rounds : List (PollRound Transaction)) (events : List (StreamerEvent Transaction))
    (fed : Fed chain start rounds events) (seq height : UInt64)
    (above : (runStreamer config rollup.toRollup finalizedIdx events).finalizedIdx < seq) :
    TrackedAt (runStreamer config rollup.toRollup finalizedIdx events) seq height ↔
      config.startingPos ≤ seq ∧ firstBlock rollup chain seq (heightsBetween start (polled start rounds).fromBlock) = some height := by
  have inv := polled_from_chain chain start rounds fed.reads
  have refines := run_streamer_refines config hotshotHeight (fun height => height) rollup.toRollup (fun _ => rfl) finalizedIdx events
  rw [refines.finalized] at above
  have lookup := fed_reference_lookup config rollup chain start _ _ events inv.consecutive inv.blocks fed.delivered _ seq above
  rw [refines.heights]
  simp only [exists_eq_right]
  rw [runReference, lookup]
  by_cases started : config.startingPos ≤ seq <;> simp [started]

theorem fed_heights (start finalizedIdx : UInt64) (rounds : List (PollRound Transaction)) (events : List (StreamerEvent Transaction))
    (fed : Fed chain start rounds events) (seq height : UInt64)
    (tracked : TrackedAt (runStreamer config rollup.toRollup finalizedIdx events) seq height) :
    start ≤ height ∧ height < (polled start rounds).fromBlock := by
  have inv := polled_from_chain chain start rounds fed.reads
  have refines := run_streamer_refines config hotshotHeight (fun height => height) rollup.toRollup (fun _ => rfl) finalizedIdx events
  rw [refines.heights] at tracked
  simp only [exists_eq_right] at tracked
  rcases fed_reference_heights config rollup chain start _ _ events inv.consecutive inv.blocks fed.delivered _ seq height tracked with
    initial | polledThere
  · rw [ExtTreeMap.getElem?_empty] at initial
    cases initial
  · exact (mem_heights_between start _ height).mp polledThere

theorem run_streamer_finalized_grows (finalizedIdx : UInt64) (earlier later : List (StreamerEvent Transaction)) :
    (runStreamer config rollup.toRollup finalizedIdx earlier).finalizedIdx ≤
      (runStreamer config rollup.toRollup finalizedIdx (earlier ++ later)).finalizedIdx := by
  have refines := run_streamer_refines config hotshotHeight (fun height => height) rollup.toRollup (fun _ => rfl) finalizedIdx
  rw [(refines earlier).finalized, (refines (earlier ++ later)).finalized, runReference, runReference, History.run_append]
  exact run_reference_finalized config rollup _ later

theorem poll_grows (st : Poller Transaction) (round : PollRound Transaction) : st.fromBlock ≤ (pollHotshotBlocks st round).fromBlock := by
  unfold pollHotshotBlocks
  split
  · exact le_rfl
  · split
    · exact le_rfl
    · split
      · exact le_rfl
      · rename_i behind
        split
        · exact le_rfl
        · exact le_rfl
        · split
          · refine le_min ?_ (le_of_lt (not_le.mp behind))
            have below := st.fromBlock.toNat_lt
            rw [UInt64.le_iff_toNat_le, toNat_saturating_add]
            omega
          · exact le_rfl

theorem polled_grows (start : UInt64) (rounds further : List (PollRound Transaction)) :
    (polled start rounds).fromBlock ≤ (polled start (rounds ++ further)).fromBlock := by
  rw [polled, polled, History.run_append]
  exact History.run_invariant pollHotshotBlocks (fun st => _ ≤ st.fromBlock) (fun _ => True)
    (fun st round _ grown => le_trans grown (poll_grows st round)) _ further (fun _ _ => trivial) le_rfl

theorem fed_continued (start finalizedIdx : UInt64) (rounds further : List (PollRound Transaction))
    (events later : List (StreamerEvent Transaction)) (fed : Fed chain start rounds events)
    (continued : Fed chain start (rounds ++ further) (events ++ later)) (seq height : UInt64)
    (above : (runStreamer config rollup.toRollup finalizedIdx (events ++ later)).finalizedIdx < seq) :
    (TrackedAt (runStreamer config rollup.toRollup finalizedIdx events) seq height →
      TrackedAt (runStreamer config rollup.toRollup finalizedIdx (events ++ later)) seq height) ∧
    (TrackedAt (runStreamer config rollup.toRollup finalizedIdx (events ++ later)) seq height →
      TrackedAt (runStreamer config rollup.toRollup finalizedIdx events) seq height ∨ (polled start rounds).fromBlock ≤ height) := by
  have earlier := lt_of_le_of_lt (run_streamer_finalized_grows config rollup finalizedIdx events later) above
  have ordered := consecutive_ordered _ _ _ (polled_from_chain chain start rounds fed.reads).consecutive
  rw [fed_tracked_at config rollup chain start finalizedIdx _ _ continued seq height above,
    fed_tracked_at config rollup chain start finalizedIdx _ _ fed seq height earlier,
    heights_between_split start _ _ ordered (polled_grows start rounds further), first_block_append]
  constructor
  · intro known
    exact ⟨known.1, by rw [known.2]; rfl⟩
  · intro found
    obtain ⟨started, first⟩ := found
    rcases Option.or_eq_some_iff.mp first with old | new
    · exact .inl ⟨started, old⟩
    · exact .inr ((mem_heights_between _ _ height).mp (List.mem_of_find?_eq_some new.2)).1

theorem reference_keeps (events : List (StreamerEvent Transaction)) (seq height : UInt64)
    (lower : ∀ newFinalizedIdx reader, .finalization newFinalizedIdx reader ∈ events → newFinalizedIdx = 0 ∨ newFinalizedIdx < seq)
    (reference : Reference UInt64) (recorded : reference.values[seq]? = some height) :
    (History.run (stepReference config rollup.toRollup hotshotHeight) reference events).values[seq]? = some height := by
  induction events generalizing reference with
  | nil => exact recorded
  | cons event later ih =>
      refine ih (fun idx reader member => lower idx reader (by simp [member])) _ ?_
      cases event with
      | hotshotTransactions transactions block send =>
          refine History.run_invariant _ (fun next : Reference UInt64 => next.values[seq]? = some height) (fun _ => True)
            (fun next entry _ kept => ?_) reference _ (fun _ _ => trivial) recorded
          rw [record_entry_lookup, kept]
          rfl
      | finalization newFinalizedIdx reader =>
          rcases lower newFinalizedIdx reader (by simp) with rfl | below
          · rw [stepReference, if_neg (not_lt.mpr UInt64.zero_le)]
            exact recorded
          · rw [finalization_lookup config rollup newFinalizedIdx reader reference seq below]
            exact recorded
      | broadcastRetry send => exact recorded

theorem run_keeps_tracked_at (finalizedIdx : UInt64) (earlier later : List (StreamerEvent Transaction)) (seq height : UInt64)
    (lower : ∀ newFinalizedIdx reader, .finalization newFinalizedIdx reader ∈ later → newFinalizedIdx = 0 ∨ newFinalizedIdx < seq)
    (tracked : TrackedAt (runStreamer config rollup.toRollup finalizedIdx earlier) seq height) :
    TrackedAt (runStreamer config rollup.toRollup finalizedIdx (earlier ++ later)) seq height := by
  have refines := run_streamer_refines config hotshotHeight (fun height => height) rollup.toRollup (fun _ => rfl) finalizedIdx
  rw [(refines earlier).heights] at tracked
  rw [(refines (earlier ++ later)).heights]
  simp only [exists_eq_right, runReference, History.run_append] at tracked ⊢
  exact reference_keeps config rollup later seq height lower _ tracked

end Recovery

theorem polled_part (start : UInt64) (rounds : List (PollRound Transaction)) (sent : List (Delivery Transaction))
    (part : sent <+: (polled start rounds).sent) : ∃ earlier, earlier <+: rounds ∧ (polled start earlier).sent = sent := by
  induction rounds using List.reverseRecOn with
  | nil => exact ⟨[], List.prefix_refl _, (List.prefix_nil.mp part).symm⟩
  | append_singleton rounds round ih =>
      have further : polled start (rounds ++ [round]) = pollHotshotBlocks (polled start rounds) round := History.run_append _ _ _ _
      have shorter : sent <+: (polled start rounds).sent →
          ∃ earlier, earlier <+: rounds ++ [round] ∧ (polled start earlier).sent = sent := by
        intro before
        obtain ⟨earlier, prior, same⟩ := ih before
        exact ⟨earlier, prior.trans (List.prefix_append _ _), same⟩
      rcases poll_answered (polled start rounds) round with none | ⟨delivery, -, one⟩
      · rw [further, none] at part
        exact shorter part
      · rw [further, one, List.prefix_concat_iff] at part
        rcases part with all | before
        · exact ⟨rounds ++ [round], List.prefix_refl _, by rw [further, one, all]⟩
        · exact shorter before

theorem fed_received (chain : Chain Transaction) (start : UInt64) (rounds : List (PollRound Transaction))
    (events : List (StreamerEvent Transaction)) (reads : ∀ round ∈ rounds, RoundReads chain round)
    (part : events.filterMap StreamerEvent.delivered <+:
      (polled start rounds).sent.map fun delivery => (delivery.transactions, delivery.fromBlock)) :
    ∃ earlier, earlier <+: rounds ∧ Fed chain start earlier events := by
  obtain ⟨sent, prior, same⟩ := List.prefix_map_iff.mp part
  obtain ⟨earlier, fewer, rfl⟩ := polled_part start rounds sent prior
  exact ⟨earlier, fewer, fun round member => reads round (fewer.subset member), same⟩

theorem fed_earlier (chain : Chain Transaction) (start : UInt64) (rounds : List (PollRound Transaction))
    (events seen : List (StreamerEvent Transaction)) (fed : Fed chain start rounds events) (before : seen <+: events) :
    ∃ earlier, Fed chain start earlier seen := by
  have part := before.filterMap StreamerEvent.delivered
  rw [fed.delivered] at part
  obtain ⟨earlier, -, fedEarlier⟩ := fed_received chain start rounds seen fed.reads part
  exact ⟨earlier, fedEarlier⟩

def SameFrom (position : UInt64) (before after : Streamer Entry FeedMessage) : Prop :=
  ∀ seq height, position ≤ seq → before.finalizedIdx < seq → after.finalizedIdx < seq →
    (TrackedAt after seq height ↔ TrackedAt before seq height)

theorem restart_recovers (config restarted : StreamerConfig) (rollup : PositionalRollup Transaction Entry FeedMessage)
    (chain : Chain Transaction) (start resumed finalizedIdx restartedIdx : UInt64) (rounds later : List (PollRound Transaction))
    (events restartedEvents : List (StreamerEvent Transaction)) (fed : Fed chain start rounds events)
    (refed : Fed chain resumed later restartedEvents) (ordered : start ≤ resumed)
    (caughtUp : (polled resumed later).fromBlock = (polled start rounds).fromBlock)
    (positions : config.startingPos ≤ restarted.startingPos)
    (before after : Streamer Entry FeedMessage) (first : before = runStreamer config rollup.toRollup finalizedIdx events)
    (second : after = runStreamer restarted rollup.toRollup restartedIdx restartedEvents) :
    SameFrom restarted.startingPos before after ↔
      ∀ seq height, restarted.startingPos ≤ seq → before.finalizedIdx < seq → after.finalizedIdx < seq →
        TrackedAt before seq height → resumed ≤ height := by
  have reached : resumed ≤ (polled start rounds).fromBlock :=
    caughtUp ▸ consecutive_ordered _ _ _ (polled_from_chain chain resumed later refed.reads).consecutive
  have tracked : ∀ seq height, restarted.startingPos ≤ seq → before.finalizedIdx < seq →
      (TrackedAt before seq height ↔ (firstBlock rollup chain seq (heightsBetween start resumed)).or
        (firstBlock rollup chain seq (heightsBetween resumed (polled start rounds).fromBlock)) = some height) := by
    intro seq height from' above
    subst first
    rw [fed_tracked_at config rollup chain start finalizedIdx rounds events fed seq height above,
      heights_between_split start resumed _ ordered reached, first_block_append]
    exact and_iff_right (le_trans positions from')
  have retracked : ∀ seq height, restarted.startingPos ≤ seq → after.finalizedIdx < seq →
      (TrackedAt after seq height ↔
        firstBlock rollup chain seq (heightsBetween resumed (polled start rounds).fromBlock) = some height) := by
    intro seq height from' above
    subst second
    rw [fed_tracked_at restarted rollup chain resumed restartedIdx later restartedEvents refed seq height above, caughtUp]
    exact and_iff_right from'
  constructor
  · intro same seq height from' above aboveAfter held
    have found := (retracked seq height from' aboveAfter).mp ((same seq height from' above aboveAfter).mpr held)
    exact ((mem_heights_between resumed _ height).mp (List.mem_of_find?_eq_some found)).1
  · intro late seq height from' above aboveAfter
    rw [retracked seq height from' aboveAfter, tracked seq height from' above]
    cases earlier : firstBlock rollup chain seq (heightsBetween start resumed) with
    | none => rfl
    | some missed =>
        -- the number stands in a block before the resumed one, so the first run holds it there
        have low := ((mem_heights_between start resumed missed).mp (List.mem_of_find?_eq_some earlier)).2
        have held := (tracked seq missed from' above).mpr (by rw [earlier]; rfl)
        exact absurd (late seq missed from' above aboveAfter held) (not_le.mpr low)

theorem restart_rereads (config restarted : StreamerConfig) (rollup : PositionalRollup Transaction Entry FeedMessage)
    (chain : Chain Transaction) (start resumed finalizedIdx restartedIdx : UInt64) (rounds later : List (PollRound Transaction))
    (events restartedEvents : List (StreamerEvent Transaction)) (fed : Fed chain start rounds events)
    (refed : Fed chain resumed later restartedEvents) (ordered : resumed ≤ start)
    (caughtUp : (polled resumed later).fromBlock = (polled start rounds).fromBlock)
    (positions : config.startingPos ≤ restarted.startingPos)
    (before after : Streamer Entry FeedMessage) (first : before = runStreamer config rollup.toRollup finalizedIdx events)
    (second : after = runStreamer restarted rollup.toRollup restartedIdx restartedEvents) :
    SameFrom restarted.startingPos before after ↔
      ∀ seq, restarted.startingPos ≤ seq → before.finalizedIdx < seq → after.finalizedIdx < seq →
        firstBlock rollup chain seq (heightsBetween resumed start) = none := by
  have reached : start ≤ (polled start rounds).fromBlock :=
    consecutive_ordered _ _ _ (polled_from_chain chain start rounds fed.reads).consecutive
  have tracked : ∀ seq height, restarted.startingPos ≤ seq → before.finalizedIdx < seq →
      (TrackedAt before seq height ↔ firstBlock rollup chain seq (heightsBetween start (polled start rounds).fromBlock) = some height) := by
    intro seq height from' above
    subst first
    rw [fed_tracked_at config rollup chain start finalizedIdx rounds events fed seq height above]
    exact and_iff_right (le_trans positions from')
  have retracked : ∀ seq height, restarted.startingPos ≤ seq → after.finalizedIdx < seq →
      (TrackedAt after seq height ↔ (firstBlock rollup chain seq (heightsBetween resumed start)).or
        (firstBlock rollup chain seq (heightsBetween start (polled start rounds).fromBlock)) = some height) := by
    intro seq height from' above
    subst second
    rw [fed_tracked_at restarted rollup chain resumed restartedIdx later restartedEvents refed seq height above, caughtUp,
      heights_between_split resumed start _ ordered reached, first_block_append]
    exact and_iff_right from'
  constructor
  · intro same seq from' above aboveAfter
    cases earlier : firstBlock rollup chain seq (heightsBetween resumed start) with
    | none => rfl
    | some missed =>
        have held := (same seq missed from' above aboveAfter).mp ((retracked seq missed from' aboveAfter).mpr (by rw [earlier]; rfl))
        have low := ((mem_heights_between resumed start missed).mp (List.mem_of_find?_eq_some earlier)).2
        have high := ((mem_heights_between start _ missed).mp (List.mem_of_find?_eq_some ((tracked seq missed from' above).mp held))).1
        exact absurd high (not_le.mpr low)
  · intro absent seq height from' above aboveAfter
    rw [retracked seq height from' aboveAfter, tracked seq height from' above, absent seq from' above aboveAfter, Option.none_or]

end Cas
