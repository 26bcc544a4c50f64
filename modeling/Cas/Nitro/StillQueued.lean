import Cas.Nitro.Payload
import Cas.Nitro.VerifyBatch
import Cas.Streamer.Provenance

set_option autoImplicit false

namespace Cas

open SortedSlice
open Std (ExtTreeMap)

abbrev NitroStreamer := Streamer NitroRollupQueueEntry BroadcastFeedMessage

def entriesFrom (queue : List NitroRollupQueueEntry) (context : BatchCursor) : List NitroRollupQueueEntry :=
  queue.filter fun e => context.nextBatchStartPos ≤ sequenceNumber e

def matchedEntries (batch : List BatchMessage) (queue : List NitroRollupQueueEntry) (context : BatchCursor) : List NitroRollupQueueEntry :=
  (entriesFrom queue context).take batch.length

def entriesBehind (batch : List BatchMessage) (queue : List NitroRollupQueueEntry) (context : BatchCursor) : List NitroRollupQueueEntry :=
  (entriesFrom queue context).drop batch.length

def Pending (st : NitroStreamer) (position height : UInt64) : Prop := ∃ seq, position < seq ∧ TrackedAt st seq height

structure ReportsLeast (st : NitroStreamer) (position reported : UInt64) : Prop where
  zero : reported = 0 ↔ ¬ ∃ height, Pending st position height
  least : reported ≠ 0 → Pending st position reported ∧ ∀ height, Pending st position height → reported ≤ height

-- What the verifier leaves out: stubs beyond the batch, and entries it has
-- compared with a message although their position lies beyond the batch.
def Overlooked (batch : List BatchMessage) (st : NitroStreamer) (context : BatchCursor) (height : UInt64) : Prop :=
  ∃ seq, context.nextBatchStartPos.toNat + batch.length ≤ seq.toNat ∧
    (st.stubs[seq]? = some height ∨ ∃ e ∈ matchedEntries batch st.queue context, sequenceNumber e = seq ∧ hotshotHeight e = height)

theorem entries_from_located (queue : List NitroRollupQueueEntry) (context : BatchCursor) (pos : Nat) (entry : NitroRollupQueueEntry)
    (sorted : Increasing sequenceNumber queue) (access : queue[pos]? = some entry)
    (first : sequenceNumber entry = context.nextBatchStartPos) : entriesFrom queue context = queue.drop pos := by
  have split := List.take_append_drop pos queue
  rw [located_suffix queue pos entry access] at split
  rw [← split] at sorted
  obtain ⟨-, suffix, below⟩ := List.pairwise_append.mp sorted
  have early : (queue.take pos).filter (fun e => context.nextBatchStartPos ≤ sequenceNumber e) = [] := by
    rw [List.filter_eq_nil_iff]
    intro e member late
    exact absurd (below e member entry (by simp)) (not_lt.mpr (first ▸ of_decide_eq_true late))
  have late : ∀ e ∈ entry :: queue.drop (pos + 1), decide (context.nextBatchStartPos ≤ sequenceNumber e) = true := by
    intro e member
    rw [decide_eq_true_eq, ← first]
    exact head_least sequenceNumber entry _ suffix e member
  rw [entriesFrom, located_suffix queue pos entry access]
  conv_lhs => rw [← split]
  rw [List.filter_append, early, List.filter_eq_self.mpr late, List.nil_append]

-- Positions grow by at least one an entry, so the range of an accepted batch does not overflow.
theorem entries_from_growth (queue : List NitroRollupQueueEntry) (context : BatchCursor) (pos index : Nat)
    (entry found : NitroRollupQueueEntry) (sorted : Increasing sequenceNumber queue) (access : queue[pos]? = some entry)
    (first : sequenceNumber entry = context.nextBatchStartPos) (at' : (entriesFrom queue context)[index]? = some found) :
    context.nextBatchStartPos.toNat + index ≤ (sequenceNumber found).toNat := by
  rw [entries_from_located queue context pos entry sorted access first, located_suffix queue pos entry access] at at'
  have words := (increasing_words queue sorted).sublist (List.drop_sublist pos queue)
  rw [located_suffix queue pos entry access] at words
  rw [← first]
  exact increasing_growth _ entry found _ index words at'

theorem mem_entries_from (queue : List NitroRollupQueueEntry) (context : BatchCursor) (e : NitroRollupQueueEntry) :
    e ∈ entriesFrom queue context ↔ e ∈ queue ∧ context.nextBatchStartPos ≤ sequenceNumber e := by
  rw [entriesFrom, List.mem_filter, decide_eq_true_eq]

theorem matched_or_behind (batch : List BatchMessage) (queue : List NitroRollupQueueEntry) (context : BatchCursor)
    (e : NitroRollupQueueEntry) :
    e ∈ entriesFrom queue context ↔ e ∈ matchedEntries batch queue context ∨ e ∈ entriesBehind batch queue context := by
  rw [matchedEntries, entriesBehind, ← List.mem_append, List.take_append_drop]

section Verified

variable (batch : List BatchMessage) (st : NitroStreamer) (context : BatchCursor) (pos : Nat)
  (sorted : Increasing sequenceNumber st.queue) (matched : MatchesAt batch st.queue context pos)

include sorted matched

theorem verified_end :
    (context.nextBatchStartPos + UInt64.ofNat batch.length - 1).toNat + 1 = context.nextBatchStartPos.toNat + batch.length := by
  obtain ⟨entry, access, first⟩ := matched.located
  have enough := matched.enough
  have positive : 0 < batch.length := List.length_pos_iff.mpr matched.nonempty
  have found : (entriesFrom st.queue context)[batch.length - 1]? = some (st.queue.get ⟨pos + (batch.length - 1), by omega⟩) := by
    rw [entries_from_located st.queue context pos entry sorted access first, List.getElem?_drop]
    exact List.getElem?_eq_getElem _
  have growth := entries_from_growth st.queue context pos _ entry _ sorted access first found
  have top := UInt64.toNat_lt (sequenceNumber (st.queue.get ⟨pos + (batch.length - 1), by omega⟩))
  have word : (UInt64.ofNat (context.nextBatchStartPos.toNat + (batch.length - 1))).toNat =
      context.nextBatchStartPos.toNat + (batch.length - 1) := UInt64.toNat_ofNat_of_lt (by change _ < 2 ^ 64; omega)
  rw [last_position context.nextBatchStartPos batch.length _ positive word, word]
  omega

theorem behind_beyond (e : NitroRollupQueueEntry) (behind : e ∈ entriesBehind batch st.queue context) :
    context.nextBatchStartPos.toNat + batch.length ≤ (sequenceNumber e).toNat := by
  obtain ⟨entry, access, first⟩ := matched.located
  obtain ⟨index, found⟩ := List.mem_iff_getElem?.mp behind
  rw [entriesBehind, List.getElem?_drop] at found
  have growth := entries_from_growth st.queue context pos _ entry e sorted access first found
  omega

theorem pending_iff (height : UInt64) :
    Pending st (context.nextBatchStartPos + UInt64.ofNat batch.length - 1) height ↔
      (∃ e ∈ entriesBehind batch st.queue context, hotshotHeight e = height) ∨ Overlooked batch st context height := by
  have range := verified_end batch st context pos sorted matched
  have beyond : ∀ seq : UInt64, context.nextBatchStartPos + UInt64.ofNat batch.length - 1 < seq ↔
      context.nextBatchStartPos.toNat + batch.length ≤ seq.toNat := by
    intro seq
    rw [UInt64.lt_iff_toNat_lt]
    omega
  simp only [Pending, beyond]
  constructor
  · rintro ⟨seq, after, ⟨e, member, rfl, dated⟩ | stub⟩
    · have late : context.nextBatchStartPos ≤ sequenceNumber e := UInt64.le_iff_toNat_le.mpr (by omega)
      cases (matched_or_behind batch st.queue context e).mp ((mem_entries_from st.queue context e).mpr ⟨member, late⟩) with
      | inl compared => exact .inr ⟨sequenceNumber e, after, .inr ⟨e, compared, rfl, dated⟩⟩
      | inr behind => exact .inl ⟨e, behind, dated⟩
    · exact .inr ⟨seq, after, .inl stub⟩
  · rintro (⟨e, behind, dated⟩ | ⟨seq, after, stub | ⟨e, compared, same, dated⟩⟩)
    · have member := (mem_entries_from st.queue context e).mp ((matched_or_behind batch st.queue context e).mpr (.inr behind))
      exact ⟨sequenceNumber e, behind_beyond batch st context pos sorted matched e behind, .inl ⟨e, member.1, rfl, dated⟩⟩
    · exact ⟨seq, after, .inr stub⟩
    · have member := (mem_entries_from st.queue context e).mp ((matched_or_behind batch st.queue context e).mpr (.inl compared))
      exact ⟨seq, after, .inl ⟨e, member.1, same, dated⟩⟩

end Verified

theorem reports_least_iff (st : NitroStreamer) (position : UInt64) (behind : List NitroRollupQueueEntry) (overlooked : UInt64 → Prop)
    (pending : ∀ height, Pending st position height ↔ (∃ e ∈ behind, hotshotHeight e = height) ∨ overlooked height)
    (positive : ∀ height, Pending st position height → 0 < height) :
    ReportsLeast st position (minHeight behind) ↔ ∀ height, overlooked height → ∃ e ∈ behind, hotshotHeight e ≤ height := by
  by_cases empty : behind = []
  · subst empty
    have zero : minHeight [] = 0 := rfl
    constructor
    · intro reports height left
      exact absurd ⟨height, (pending height).mpr (.inr left)⟩ (reports.zero.mp zero)
    · intro covered
      refine ⟨iff_of_true zero ?_, fun nonzero => absurd zero nonzero⟩
      intro given
      obtain ⟨height, still⟩ := given
      cases (pending height).mp still with
      | inl listed => simp at listed
      | inr left =>
          obtain ⟨e, member, -⟩ := covered height left
          cases member
  · obtain ⟨attained, lower⟩ := min_height_least behind empty
    have still := (pending (minHeight behind)).mpr (.inl attained)
    have nonzero : minHeight behind ≠ 0 := (ne_of_lt (positive _ still)).symm
    constructor
    · intro reports height left
      obtain ⟨e, member, dated⟩ := attained
      exact ⟨e, member, dated ▸ (reports.least nonzero).2 height ((pending height).mpr (.inr left))⟩
    · intro covered
      refine ⟨iff_of_false nonzero (not_not.mpr ⟨_, still⟩), fun _ => ⟨still, fun height other => ?_⟩⟩
      cases (pending height).mp other with
      | inl listed =>
          obtain ⟨e, member, dated⟩ := listed
          exact dated ▸ lower e member
      | inr left =>
          obtain ⟨e, member, low⟩ := covered height left
          exact le_trans (lower e member) low

/-- The certified height is the least over everything still tracked beyond the batch exactly when each stub beyond it, and
each compared entry beyond it, has a full entry behind the batch that is no higher. -/
theorem still_queued_reported_iff {Transaction : Type} (config : StreamerConfig)
    (rollup : Rollup Transaction NitroRollupQueueEntry BroadcastFeedMessage) (finalizedIdx : UInt64)
    (events : List (StreamerEvent Transaction)) (batch : List BatchMessage) (context : BatchCursor) (st : NitroStreamer)
    (reachable : st = runStreamer config rollup finalizedIdx events)
    (positive : ∀ seq height, TrackedAt st seq height → 0 < height)
    (accepted : (verifyBatchMessages batch st.queue context).success = true) :
    ReportsLeast st (verifyBatchMessages batch st.queue context).endMessagePosition
        (verifyBatchMessages batch st.queue context).minEspressoBlockStillInQueue ↔
      ∀ height, Overlooked batch st context height → ∃ e ∈ entriesBehind batch st.queue context, hotshotHeight e ≤ height := by
  have sorted : Increasing sequenceNumber st.queue :=
    reachable ▸ (run_streamer_invariant config rollup finalizedIdx events).sorted
  have outcome := verify_batch_outcome batch st.queue context sorted
  generalize verifyBatchMessages batch st.queue context = result at outcome accepted ⊢
  cases outcome with
  | refused unmatched => cases accepted
  | accepted pos matched =>
      obtain ⟨entry, access, first⟩ := matched.located
      have behind : (st.queue.drop pos).drop batch.length = entriesBehind batch st.queue context := by
        rw [entriesBehind, entries_from_located st.queue context pos entry sorted access first]
      simp only [behind]
      exact reports_least_iff st _ _ _ (pending_iff batch st context pos sorted matched)
        fun height ⟨seq, _, tracked⟩ => positive seq height tracked

-- Block 1 holds the later message and block 2 the one before it.
def reversedChain : Chain Bytes := fun height =>
  if height = 1 then [v1Payload [upstreamJson]] else if height = 2 then [v1Payload [precedingJson]] else []

def reversedRun (slots : Nat) : NitroStreamer :=
  runStreamer ⟨12344, slots⟩ sequencerRollup.toRollup 0 [.hotshotTransactions (slice reversedChain 1 3) 1 fun _ => .accepted]

theorem reversed_run_filtered (slots : Nat) :
    reversedRun slots = tryBroadcastFeedMessage sequencerRollup.toRollup (fun _ => .accepted)
      (filterMessages ⟨12344, slots⟩ (.new 0) [⟨upstreamFeedMessage, 1⟩, ⟨precedingFeedMessage, 2⟩]) := by
  have parsed : sequencerRollup.parseHotshotTransactions (slice reversedChain 1 3) 1 =
      [⟨upstreamFeedMessage, 1⟩, ⟨precedingFeedMessage, 2⟩] := by decide +kernel
  rw [reversedRun, runStreamer, History.run, List.foldl_cons, List.foldl_nil, stepStreamer, handleHotshotTransactions, parsed]

theorem still_queued_two_slots : ReportsLeast (reversedRun 2) 12344 1 := by
  have queue : (reversedRun 2).queue = [⟨precedingFeedMessage, 2⟩, ⟨upstreamFeedMessage, 1⟩] := by
    rw [reversed_run_filtered]
    decide +kernel
  have empty : (reversedRun 2).stubs = ∅ := by
    rw [reversed_run_filtered, ← ExtTreeMap.isEmpty_iff]
    decide +kernel
  have answer : verifyBatchMessages [.l2Msg [0xde, 0xad, 0xbe, 0xef]] (reversedRun 2).queue ⟨3333, 12344⟩ =
      ⟨true, 12344, 12344, 2, 3333, 1⟩ := by
    rw [queue]
    decide +kernel
  have reports := (still_queued_reported_iff ⟨12344, 2⟩ sequencerRollup.toRollup 0 _
    [.l2Msg [0xde, 0xad, 0xbe, 0xef]] ⟨3333, 12344⟩ (reversedRun 2) rfl ?_ (by rw [answer])).mpr ?_
  · rw [answer] at reports
    exact reports
  · rintro seq height (⟨e, member, -, dated⟩ | stub)
    · have heights : ∀ e ∈ [(⟨precedingFeedMessage, 2⟩ : NitroRollupQueueEntry), ⟨upstreamFeedMessage, 1⟩], 0 < hotshotHeight e := by
        decide
      exact dated ▸ heights e (queue ▸ member)
    · rw [empty, ExtTreeMap.getElem?_empty] at stub
      cases stub
  · rintro height ⟨seq, beyond, stub | ⟨e, member, same, -⟩⟩
    · rw [empty, ExtTreeMap.getElem?_empty] at stub
      cases stub
    · have inside : ∀ e ∈ matchedEntries [.l2Msg [0xde, 0xad, 0xbe, 0xef]]
          [(⟨precedingFeedMessage, 2⟩ : NitroRollupQueueEntry), ⟨upstreamFeedMessage, 1⟩] ⟨3333, 12344⟩,
          (sequenceNumber e).toNat = 12344 := by decide +kernel
      have low := inside e (queue ▸ member)
      rw [← same, low] at beyond
      exact absurd beyond (by decide)

-- With one slot the later message is a stub, and the certificate says that nothing is left.
theorem stub_not_reported :
    (verifyBatchMessages [.l2Msg [0xde, 0xad, 0xbe, 0xef]] (reversedRun 1).queue ⟨3333, 12344⟩).success = true ∧
      (verifyBatchMessages [.l2Msg [0xde, 0xad, 0xbe, 0xef]] (reversedRun 1).queue ⟨3333, 12344⟩).endMessagePosition = 12344 ∧
      (verifyBatchMessages [.l2Msg [0xde, 0xad, 0xbe, 0xef]] (reversedRun 1).queue ⟨3333, 12344⟩).minEspressoBlockStillInQueue = 0 ∧
      (reversedRun 1).stubs[(12345 : UInt64)]? = some 1 := by
  have queue : (reversedRun 1).queue = [⟨precedingFeedMessage, 2⟩] := by
    rw [reversed_run_filtered]
    decide +kernel
  have stub : (reversedRun 1).stubs[(12345 : UInt64)]? = some 1 := by
    rw [reversed_run_filtered]
    decide +kernel
  have answer : verifyBatchMessages [.l2Msg [0xde, 0xad, 0xbe, 0xef]] (reversedRun 1).queue ⟨3333, 12344⟩ =
      ⟨true, 12344, 12344, 2, 3333, 0⟩ := by
    rw [queue]
    decide +kernel
  rw [answer]
  exact ⟨rfl, rfl, rfl, stub⟩

end Cas
