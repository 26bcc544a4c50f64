import Cas.Lib.History
import Cas.Lib.Word64
import Cas.MockRollup
import Cas.Rollup
import Cas.Streamer.Model

set_option autoImplicit false

namespace Cas

open Word64

variable {Transaction Entry FeedMessage : Type} [RollupQueueEntry Entry]

-- A range that is not there yet ends in a 404 and is asked for again soon, any other error after a longer pause.
inductive RangeError where
  | notFound
  | other (reason : String)
deriving DecidableEq, Repr

-- What one pass of the polling loop is answered: the number of blocks, the fetched range, and whether the
-- receiver of the channel is still there.
structure PollRound (Transaction : Type) where
  blockHeight : Except String UInt64
  namespaceTransactionsInRange : UInt64 → UInt64 → Except RangeError (List (List Transaction))
  channelOpen : Bool

-- What is sent is `transactions` with `fromBlock`. The end of the range and the reported number of blocks are kept beside it.
structure Delivery (Transaction : Type) where
  transactions : List (List Transaction)
  fromBlock : UInt64
  toBlock : UInt64
  latestBlockHeight : UInt64

structure Poller (Transaction : Type) where
  fromBlock : UInt64
  sent : List (Delivery Transaction)
  stopped : Bool

def Poller.init (nextHotshotBlockNum : UInt64) : Poller Transaction := ⟨nextHotshotBlockNum, [], false⟩

def pollEnd (fromBlock latestBlockHeight : UInt64) : UInt64 := min (saturatingAdd fromBlock hotshotRangeLimit) latestBlockHeight

def pollHotshotBlocks (st : Poller Transaction) (round : PollRound Transaction) : Poller Transaction :=
  if st.stopped then st
  else
    match round.blockHeight with
    | .error _ => st
    | .ok latestBlockHeight =>
        if latestBlockHeight ≤ st.fromBlock then st
        else
          match round.namespaceTransactionsInRange st.fromBlock (pollEnd st.fromBlock latestBlockHeight) with
          | .error .notFound => st
          | .error (.other _) => st
          | .ok transactions =>
              if round.channelOpen then
                { st with
                  fromBlock := pollEnd st.fromBlock latestBlockHeight
                  sent := st.sent ++ [⟨transactions, st.fromBlock, pollEnd st.fromBlock latestBlockHeight, latestBlockHeight⟩] }
              else { st with stopped := true }

def ExactReads (round : PollRound Transaction) : Prop :=
  ∀ start stop transactions, round.namespaceTransactionsInRange start stop = .ok transactions →
    transactions.length = stop.toNat - start.toNat

structure Delivery.Proper (delivery : Delivery Transaction) : Prop where
  nonempty : delivery.fromBlock < delivery.toBlock
  short : delivery.toBlock.toNat ≤ delivery.fromBlock.toNat + hotshotRangeLimit.toNat
  reported : delivery.toBlock ≤ delivery.latestBlockHeight
  blocks : delivery.transactions.length = delivery.toBlock.toNat - delivery.fromBlock.toNat

structure Delivery.AnsweredBy (delivery : Delivery Transaction) (round : PollRound Transaction) : Prop where
  height : round.blockHeight = .ok delivery.latestBlockHeight
  range : round.namespaceTransactionsInRange delivery.fromBlock delivery.toBlock = .ok delivery.transactions
  accepted : round.channelOpen = true

def Consecutive (start : UInt64) : List (Delivery Transaction) → UInt64 → Prop
  | [], stop => stop = start
  | delivery :: later, stop => delivery.fromBlock = start ∧ delivery.Proper ∧ Consecutive delivery.toBlock later stop

theorem consecutive_snoc (start : UInt64) (sent : List (Delivery Transaction)) (delivery : Delivery Transaction) (proper : delivery.Proper)
    (covered : Consecutive start sent delivery.fromBlock) : Consecutive start (sent ++ [delivery]) delivery.toBlock := by
  induction sent generalizing start with
  | nil => exact ⟨covered, proper, rfl⟩
  | cons first later ih => exact ⟨covered.1, covered.2.1, ih first.toBlock covered.2.2⟩

theorem poll_end_proper (fromBlock latestBlockHeight : UInt64) (behind : ¬latestBlockHeight ≤ fromBlock)
    (transactions : List (List Transaction))
    (blocks : transactions.length = (pollEnd fromBlock latestBlockHeight).toNat - fromBlock.toNat) :
    Delivery.Proper ⟨transactions, fromBlock, pollEnd fromBlock latestBlockHeight, latestBlockHeight⟩ := by
  have value : (pollEnd fromBlock latestBlockHeight).toNat =
      min (min (fromBlock.toNat + hotshotRangeLimit.toNat) (2 ^ 64 - 1)) latestBlockHeight.toNat := by
    rw [pollEnd, toNat_min, toNat_saturating_add]
  have limit : hotshotRangeLimit.toNat = 100 := rfl
  have below := latestBlockHeight.toNat_lt
  rw [UInt64.le_iff_toNat_le] at behind
  exact {
    nonempty := UInt64.lt_iff_toNat_lt.mpr (show fromBlock.toNat < (pollEnd fromBlock latestBlockHeight).toNat by omega)
    short := show (pollEnd fromBlock latestBlockHeight).toNat ≤ fromBlock.toNat + hotshotRangeLimit.toNat by omega
    reported := min_le_right _ _
    blocks := blocks }

theorem poll_consecutive (start : UInt64) (st : Poller Transaction) (round : PollRound Transaction) (reads : ExactReads round)
    (covered : Consecutive start st.sent st.fromBlock) :
    Consecutive start (pollHotshotBlocks st round).sent (pollHotshotBlocks st round).fromBlock := by
  unfold pollHotshotBlocks
  split
  · exact covered
  · split
    · exact covered
    · rename_i latestBlockHeight _
      split
      · exact covered
      · rename_i behind
        split
        · exact covered
        · exact covered
        · rename_i transactions answered
          split
          · exact consecutive_snoc start st.sent _ (poll_end_proper _ _ behind transactions (reads _ _ _ answered)) covered
          · exact covered

theorem poll_answered (st : Poller Transaction) (round : PollRound Transaction) :
    (pollHotshotBlocks st round).sent = st.sent ∨
      ∃ delivery : Delivery Transaction, delivery.AnsweredBy round ∧ (pollHotshotBlocks st round).sent = st.sent ++ [delivery] := by
  unfold pollHotshotBlocks
  split
  · exact .inl rfl
  · split
    · exact .inl rfl
    · rename_i reported
      split
      · exact .inl rfl
      · split
        · exact .inl rfl
        · exact .inl rfl
        · rename_i answered
          split
          · rename_i accepted
            exact .inr ⟨_, ⟨reported, answered, accepted⟩, rfl⟩
          · exact .inl rfl

theorem polled_answered (start : UInt64) (rounds : List (PollRound Transaction)) :
    ∃ answering, answering.Sublist rounds ∧
      List.Forall₂ Delivery.AnsweredBy (History.run pollHotshotBlocks (Poller.init start) rounds).sent answering := by
  induction rounds using List.reverseRecOn with
  | nil => exact ⟨[], List.Sublist.refl [], List.Forall₂.nil⟩
  | append_singleton rounds round ih =>
      obtain ⟨answering, among, answered⟩ := ih
      rw [History.run_append]
      rcases poll_answered (History.run pollHotshotBlocks (Poller.init start) rounds) round with none | ⟨delivery, own, one⟩
      · exact ⟨answering, among.trans (List.sublist_append_left rounds [round]), none.symm ▸ answered⟩
      · exact ⟨answering ++ [round], among.append (List.Sublist.refl [round]),
          one.symm ▸ List.rel_append answered (List.Forall₂.cons own List.Forall₂.nil)⟩

theorem delivery_answered (start : UInt64) (rounds : List (PollRound Transaction)) (delivery : Delivery Transaction)
    (member : delivery ∈ (History.run pollHotshotBlocks (Poller.init start) rounds).sent) : ∃ round ∈ rounds, delivery.AnsweredBy round := by
  obtain ⟨answering, among, answered⟩ := polled_answered start rounds
  obtain ⟨same, each⟩ := List.forall₂_iff_get.mp answered
  obtain ⟨⟨i, inside⟩, rfl⟩ := List.get_of_mem member
  exact ⟨_, among.subset (List.get_mem answering ⟨i, same ▸ inside⟩), each i inside (same ▸ inside)⟩

theorem consecutive_blocks (start stop : UInt64) (sent : List (Delivery Transaction)) (covered : Consecutive start sent stop) :
    start.toNat + (sent.flatMap Delivery.transactions).length = stop.toNat := by
  induction sent generalizing start with
  | nil =>
      rw [show stop = start from covered]
      rfl
  | cons first later ih =>
      obtain ⟨rfl, proper, rest⟩ := covered
      have tail := ih first.toBlock rest
      have inside := UInt64.lt_iff_toNat_lt.mp proper.nonempty
      rw [List.flatMap_cons, List.length_append, proper.blocks]
      omega

section Parsing

variable (rollup : PositionalRollup Transaction Entry FeedMessage)

-- Every block with its own height, counted from the start.
def parseNumbered (start : UInt64) (blocks : List (List Transaction)) : List Entry :=
  blocks.zipIdx.flatMap fun numbered => rollup.parseBlock numbered.1 (start + UInt64.ofNat numbered.2)

theorem parse_numbered_append (start : UInt64) (first second : List (List Transaction)) :
    parseNumbered rollup start (first ++ second) =
      parseNumbered rollup start first ++ parseNumbered rollup (start + UInt64.ofNat first.length) second := by
  have shifted : second.zipIdx first.length = second.zipIdx.map fun numbered => (numbered.1, first.length + numbered.2) := by
    exact List.zipIdx_eq_map_add
  unfold parseNumbered
  rw [List.zipIdx_append, List.flatMap_append, Nat.zero_add, shifted, List.flatMap_map]
  simp only [UInt64.ofNat_add, UInt64.add_assoc]

theorem parse_numbered (start : UInt64) (blocks : List (List Transaction)) :
    rollup.parseHotshotTransactions blocks start = parseNumbered rollup start blocks := by
  induction blocks generalizing start with
  | nil => exact rollup.parse_nil start
  | cons block later ih =>
      have split := parse_numbered_append rollup start [block] later
      have single : parseNumbered rollup start [block] = rollup.parseBlock block start := by simp [parseNumbered]
      rw [List.singleton_append, single] at split
      rw [split, rollup.parse_cons, ih (start + 1)]
      rfl

theorem parse_deliveries (start stop : UInt64) (sent : List (Delivery Transaction)) (covered : Consecutive start sent stop) :
    (sent.flatMap fun delivery => rollup.parseHotshotTransactions delivery.transactions delivery.fromBlock) =
      parseNumbered rollup start (sent.flatMap Delivery.transactions) := by
  induction sent generalizing start with
  | nil => rfl
  | cons first later ih =>
      obtain ⟨rfl, proper, rest⟩ := covered
      have next : first.fromBlock + UInt64.ofNat first.transactions.length = first.toBlock := by
        have inside := UInt64.lt_iff_toNat_lt.mp proper.nonempty
        have below := first.toBlock.toNat_lt
        apply UInt64.toNat_inj.mp
        have fits : (UInt64.ofNat first.transactions.length).toNat = first.transactions.length :=
          UInt64.toNat_ofNat_of_lt' (by have size : UInt64.size = 2 ^ 64 := rfl; rw [proper.blocks]; omega)
        rw [toNat_add_of_fits _ _ (by rw [fits, proper.blocks]; omega), fits, proper.blocks]
        omega
      rw [List.flatMap_cons, List.flatMap_cons, parse_numbered_append, next, ih first.toBlock rest, parse_numbered]

/-- Whatever the reader answers, the ranges sent follow each other without gap or overlap, each with the blocks that the reader
returned for it in a pass of its own, after the block count of that pass; and their parsing is that of every block between the
start and the next range, once, in order and at its own height. -/
theorem polled_ranges_consecutive (start : UInt64) (rounds : List (PollRound Transaction)) (reads : ∀ round ∈ rounds, ExactReads round) :
    Consecutive start (History.run pollHotshotBlocks (Poller.init start) rounds).sent
      (History.run pollHotshotBlocks (Poller.init start) rounds).fromBlock ∧
    (∃ answering, answering.Sublist rounds ∧
      List.Forall₂ Delivery.AnsweredBy (History.run pollHotshotBlocks (Poller.init start) rounds).sent answering) ∧
    start.toNat + ((History.run pollHotshotBlocks (Poller.init start) rounds).sent.flatMap Delivery.transactions).length =
      (History.run pollHotshotBlocks (Poller.init start) rounds).fromBlock.toNat ∧
    ((History.run pollHotshotBlocks (Poller.init start) rounds).sent.flatMap fun delivery =>
        rollup.parseHotshotTransactions delivery.transactions delivery.fromBlock) =
      parseNumbered rollup start
        ((History.run pollHotshotBlocks (Poller.init start) rounds).sent.flatMap Delivery.transactions) := by
  have covered : Consecutive start (History.run pollHotshotBlocks (Poller.init start) rounds).sent
      (History.run pollHotshotBlocks (Poller.init start) rounds).fromBlock :=
    History.run_invariant pollHotshotBlocks (fun st => Consecutive start st.sent st.fromBlock) ExactReads
      (fun st round => poll_consecutive start st round) (Poller.init start) rounds reads rfl
  exact ⟨covered, polled_answered start rounds, consecutive_blocks start _ _ covered, parse_deliveries rollup start _ _ covered⟩

end Parsing

def mockRange (start stop : UInt64) : Except RangeError (List (List (List UInt8))) :=
  .ok ((List.range' start.toNat (stop.toNat - start.toNat)).map fun height => [makeMockEspressoTransaction height])

-- The reader first fails, then reports three blocks, goes back to one, does not find the range, and has four in the end.
def unsteadyRounds : List (PollRound (List UInt8)) :=
  [⟨.error "unreachable", mockRange, true⟩, ⟨.ok 3, mockRange, true⟩, ⟨.ok 1, mockRange, true⟩,
    ⟨.ok 4, fun _ _ => .error .notFound, true⟩, ⟨.ok 4, mockRange, true⟩]

theorem polled_ranges_consecutive_unsteady :
    Consecutive 1 (History.run pollHotshotBlocks (Poller.init 1) unsteadyRounds).sent 4 ∧
    ((History.run pollHotshotBlocks (Poller.init 1) unsteadyRounds).sent.flatMap fun delivery =>
      mockRollup.parseHotshotTransactions delivery.transactions delivery.fromBlock) = [⟨1, 1⟩, ⟨2, 2⟩, ⟨3, 3⟩] := by
  have exactly : ∀ start stop transactions, mockRange start stop = .ok transactions →
      transactions.length = stop.toNat - start.toNat := by
    intro start stop transactions answered
    obtain rfl := Except.ok.inj answered
    simp
  have reads : ∀ round ∈ unsteadyRounds, ExactReads round := by
    intro round member
    simp only [unsteadyRounds, List.mem_cons, List.not_mem_nil, or_false] at member
    rcases member with rfl | rfl | rfl | rfl | rfl
    · exact exactly
    · exact exactly
    · exact exactly
    · intro start stop transactions answered
      cases answered
    · exact exactly
  have polled := polled_ranges_consecutive mockRollup 1 unsteadyRounds reads
  have stop : (History.run pollHotshotBlocks (Poller.init 1) unsteadyRounds).fromBlock = 4 := by decide +kernel
  rw [stop] at polled
  exact ⟨polled.1, polled.2.2.2.trans (by decide +kernel)⟩

end Cas
