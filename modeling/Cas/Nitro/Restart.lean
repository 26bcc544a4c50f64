import Cas.Nitro.L1Monitor
import Cas.Nitro.StillQueued
import Cas.Streamer.Recovery

set_option autoImplicit false

namespace Cas

open SortedSlice
open Std (ExtTreeMap)

-- The part of the configuration that is settled before the tasks start.
structure ServiceConfig where
  isFreshDeployment : Bool
  startingHotshotHeight : UInt64
  streamer : StreamerConfig
  currentMessageCount : UInt64
deriving DecidableEq, Repr

def resolveConfigWithCheckpoint (config : ServiceConfig) (batchCursor : BatchCursor) (startingHotshotHeight : Option UInt64) :
    ServiceConfig :=
  { config with
    startingHotshotHeight := startingHotshotHeight.getD config.startingHotshotHeight
    currentMessageCount := batchCursor.nextBatchStartPos
    streamer := { config.streamer with startingPos := batchCursor.nextBatchStartPos } }

-- How `run` begins. Only the answer that is asked for counts.
def startupConfig (config : ServiceConfig) (fetchLatestCheckpointOnStartup : Except L1Failure CasCheckpoint)
    (fetchLatestBatchCursorOnFreshDeployment : Except L1Failure BatchCursor) : Except L1Failure ServiceConfig :=
  if !config.isFreshDeployment then
    fetchLatestCheckpointOnStartup.map fun checkpoint =>
      resolveConfigWithCheckpoint config checkpoint.batchCursor (some checkpoint.hotshotHeight)
  else fetchLatestBatchCursorOnFreshDeployment.map fun batchCursor => resolveConfigWithCheckpoint config batchCursor none

structure CertifiedBatch (batch : List BatchMessage) (st : NitroStreamer) (context : BatchCursor) (result : VerificationResult) : Prop where
  start : context.nextBatchStartPos ≤ result.endMessagePosition
  located : ∃ e ∈ st.queue, sequenceNumber e = context.nextBatchStartPos
  reported : result.minEspressoBlockStillInQueue = minHeight (entriesBehind batch st.queue context)

theorem certified_batch (batch : List BatchMessage) (st : NitroStreamer) (context : BatchCursor) (result : VerificationResult)
    (sorted : Increasing sequenceNumber st.queue) (verified : verifyBatchMessages batch st.queue context = result)
    (accepted : result.success = true) : CertifiedBatch batch st context result := by
  have outcome := verify_batch_outcome batch st.queue context sorted
  rw [verified] at outcome
  cases outcome with
  | refused unmatched => cases accepted
  | accepted pos matched =>
      obtain ⟨entry, access, first⟩ := matched.located
      have behind : (st.queue.drop pos).drop batch.length = entriesBehind batch st.queue context := by
        rw [entriesBehind, entries_from_located st.queue context pos entry sorted access first]
      have range := verified_end batch st context pos sorted matched
      have positive : 0 < batch.length := List.length_pos_iff.mpr matched.nonempty
      refine ⟨?_, ⟨entry, List.mem_of_getElem? access, first⟩, congrArg minHeight behind⟩
      rw [UInt64.le_iff_toNat_le]
      change _ ≤ (context.nextBatchStartPos + UInt64.ofNat batch.length - 1).toNat
      omega

theorem reported_block_queued (batch : List BatchMessage) (st : NitroStreamer) (context : BatchCursor) (result : VerificationResult)
    (certified : CertifiedBatch batch st context result) (left : result.minEspressoBlockStillInQueue ≠ 0) :
    (∃ e ∈ st.queue, hotshotHeight e = result.minEspressoBlockStillInQueue) ∧
      ∀ e ∈ entriesBehind batch st.queue context, result.minEspressoBlockStillInQueue ≤ hotshotHeight e := by
  have some : entriesBehind batch st.queue context ≠ [] := by
    intro none
    rw [certified.reported, none] at left
    exact left rfl
  obtain ⟨⟨lowest, behind, dated⟩, least⟩ := min_height_least _ some
  rw [← certified.reported] at dated least
  have inside := (matched_or_behind batch st.queue context lowest).mpr (.inr behind)
  exact ⟨⟨lowest, ((mem_entries_from st.queue context lowest).mp inside).1, dated⟩, least⟩

structure Runs (rollup : PositionalRollup Bytes NitroRollupQueueEntry BroadcastFeedMessage) (chain : Chain Bytes) (config : ServiceConfig)
    (rounds : List (PollRound Bytes)) (events : List (StreamerEvent Bytes)) (st : NitroStreamer) : Prop where
  fed : Fed chain config.startingHotshotHeight rounds events
  state : st = runStreamer config.streamer rollup.toRollup 0 events

theorem startup_resumes (file restarted : ServiceConfig) (checkpoint : CasCheckpoint) (latest : Except L1Failure BatchCursor)
    (deployed : file.isFreshDeployment = false) (resolved : startupConfig file (.ok checkpoint) latest = .ok restarted) :
    restarted.startingHotshotHeight = checkpoint.hotshotHeight ∧
      restarted.streamer.startingPos = checkpoint.batchCursor.nextBatchStartPos := by
  rw [startupConfig, deployed] at resolved
  obtain rfl := Except.ok.inj resolved
  exact ⟨rfl, rfl⟩

section Restarted

variable (external : External) (nitroConfig : NitroConfig) (chain : Chain Bytes) (config file restarted : ServiceConfig)
  (rounds further later : List (PollRound Bytes)) (events furtherEvents restartedEvents : List (StreamerEvent Bytes))
  (st before after : NitroStreamer) (issuing : Runs (nitroRollup external nitroConfig) chain config rounds events st)
  (continuing : Runs (nitroRollup external nitroConfig) chain config (rounds ++ further) (events ++ furtherEvents) before)
  (restarting : Runs (nitroRollup external nitroConfig) chain restarted later restartedEvents after)
  (batch : List BatchMessage) (context cursor : BatchCursor) (result : VerificationResult)
  (verified : verifyBatchMessages batch st.queue context = result) (accepted : result.success = true)
  (landed : cursor.nextBatchStartPos.toNat = result.endMessagePosition.toNat + 1)
  (resumed : restarted.startingHotshotHeight = result.minEspressoBlockStillInQueue)
  (positioned : restarted.streamer.startingPos = cursor.nextBatchStartPos)
  (caughtUp : (polled restarted.startingHotshotHeight later).fromBlock =
    (polled config.startingHotshotHeight (rounds ++ further)).fromBlock)

include issuing verified accepted landed positioned in
theorem restart_position : config.streamer.startingPos ≤ restarted.streamer.startingPos := by
  obtain ⟨-, rfl⟩ := issuing
  have inv := run_streamer_invariant config.streamer (nitroRollup external nitroConfig).toRollup 0 events
  have certified := certified_batch batch _ context result inv.sorted verified accepted
  have within := le_trans (inv.started context.nextBatchStartPos (.inl certified.located)) certified.start
  rw [UInt64.le_iff_toNat_le] at within
  rw [positioned, UInt64.le_iff_toNat_le, landed]
  omega

include issuing continuing restarting verified accepted landed resumed positioned caughtUp in
theorem restart_from_named_block (left : result.minEspressoBlockStillInQueue ≠ 0) :
    SameFrom cursor.nextBatchStartPos before after ↔
      ∀ seq height, cursor.nextBatchStartPos ≤ seq → before.finalizedIdx < seq → after.finalizedIdx < seq →
        (st.stubs[seq]? = some height ∨
          ∃ e ∈ matchedEntries batch st.queue context, sequenceNumber e = seq ∧ hotshotHeight e = height) →
        result.minEspressoBlockStillInQueue ≤ height := by
  have positions := restart_position external nitroConfig chain config restarted rounds events st issuing batch context cursor result
    verified accepted landed positioned
  obtain ⟨fed, rfl⟩ := issuing
  obtain ⟨continued, rfl⟩ := continuing
  obtain ⟨refed, rfl⟩ := restarting
  have inv := run_streamer_invariant config.streamer (nitroRollup external nitroConfig).toRollup 0 events
  have continues := fed_continued config.streamer (nitroRollup external nitroConfig) chain _ 0 rounds further events furtherEvents fed continued
  have heights := fed_heights config.streamer (nitroRollup external nitroConfig) chain _ 0 rounds events fed
  generalize runStreamer config.streamer (nitroRollup external nitroConfig).toRollup 0 events = st at *
  have certified := certified_batch batch st context result inv.sorted verified accepted
  obtain ⟨⟨lowest, queued, dated⟩, least⟩ := reported_block_queued batch st context result certified left
  obtain ⟨low, high⟩ := heights (sequenceNumber lowest) _ (.inl ⟨lowest, queued, rfl, dated⟩)
  rw [resumed] at refed caughtUp
  have recovers := restart_recovers config.streamer restarted.streamer (nitroRollup external nitroConfig) chain
    config.startingHotshotHeight result.minEspressoBlockStillInQueue 0 0 (rounds ++ further) later (events ++ furtherEvents) restartedEvents
    continued refed low caughtUp positions _ _ rfl rfl
  rw [positioned] at recovers
  rw [recovers]
  constructor
  · intro late seq height from' above aboveAfter overlooked
    refine late seq height from' above aboveAfter ((continues seq height above).1 ?_)
    rcases overlooked with stub | ⟨e, compared, same, at'⟩
    · exact .inr stub
    · exact .inl ⟨e, ((mem_entries_from _ _ e).mp ((matched_or_behind batch _ _ e).mpr (.inl compared))).1, same, at'⟩
  · intro covered seq height from' above aboveAfter tracked
    rcases (continues seq height above).2 tracked with (⟨e, member, rfl, rfl⟩ | stub) | polledSince
    · -- a full entry is behind the batch or was compared with one of its messages
      have inside : e ∈ entriesFrom st.queue context := by
        refine (mem_entries_from st.queue context e).mpr ⟨member, le_trans certified.start ?_⟩
        have beyond : cursor.nextBatchStartPos ≤ sequenceNumber e := from'
        rw [UInt64.le_iff_toNat_le] at beyond ⊢
        omega
      rcases (matched_or_behind batch st.queue context e).mp inside with compared | after
      · exact covered _ _ from' above aboveAfter (.inr ⟨e, compared, rfl, rfl⟩)
      · exact least e after
    · exact covered seq height from' above aboveAfter (.inl stub)
    · exact le_of_lt (lt_of_lt_of_le high polledSince)

include issuing continuing restarting verified accepted landed resumed positioned caughtUp in
theorem restart_from_genesis (nothing : result.minEspressoBlockStillInQueue = 0) :
    SameFrom cursor.nextBatchStartPos before after ↔
      ∀ seq, cursor.nextBatchStartPos ≤ seq → before.finalizedIdx < seq → after.finalizedIdx < seq →
        ∀ height < config.startingHotshotHeight, ∀ e ∈ entriesAt (nitroRollup external nitroConfig) chain height, sequenceNumber e ≠ seq := by
  have positions := restart_position external nitroConfig chain config restarted rounds events st issuing batch context cursor result
    verified accepted landed positioned
  obtain ⟨continued, rfl⟩ := continuing
  obtain ⟨refed, rfl⟩ := restarting
  rw [resumed, nothing] at refed caughtUp
  have rereads := restart_rereads config.streamer restarted.streamer (nitroRollup external nitroConfig) chain
    config.startingHotshotHeight 0 0 0 (rounds ++ further) later (events ++ furtherEvents) restartedEvents continued refed
    (UInt64.le_iff_toNat_le.mpr (Nat.zero_le _)) caughtUp positions _ _ rfl rfl
  rw [positioned] at rereads
  rw [rereads]
  refine forall_congr' fun seq => forall_congr' fun _ => forall_congr' fun _ => forall_congr' fun _ => ?_
  simp only [firstBlock, List.find?_eq_none, mem_heights_between, List.any_eq_true, decide_eq_true_eq, not_exists, not_and]
  exact ⟨fun absent height low => absent height ⟨UInt64.le_iff_toNat_le.mpr (Nat.zero_le _), low⟩,
    fun absent height inside => absent height inside.2⟩

include issuing continuing restarting verified accepted landed caughtUp in
/-- A service restarted from the checkpoint of a certificate, once it has caught up, tracks everything behind the batch as the
first one does: where the certificate names a block, exactly when that is no higher than each stub, and each entry compared
although it lies beyond the batch, when the certificate was issued; where it names none, exactly when no block from before the
first service started carries such a message. -/
theorem restart_from_certificate_iff (latest : Except L1Failure BatchCursor) (deployed : file.isFreshDeployment = false)
    (resolved : startupConfig file (.ok ⟨cursor, result.minEspressoBlockStillInQueue⟩) latest = .ok restarted) :
    (result.minEspressoBlockStillInQueue ≠ 0 →
      (SameFrom cursor.nextBatchStartPos before after ↔
        ∀ seq height, cursor.nextBatchStartPos ≤ seq → before.finalizedIdx < seq → after.finalizedIdx < seq →
          (st.stubs[seq]? = some height ∨
            ∃ e ∈ matchedEntries batch st.queue context, sequenceNumber e = seq ∧ hotshotHeight e = height) →
          result.minEspressoBlockStillInQueue ≤ height)) ∧
    (result.minEspressoBlockStillInQueue = 0 →
      (SameFrom cursor.nextBatchStartPos before after ↔
        ∀ seq, cursor.nextBatchStartPos ≤ seq → before.finalizedIdx < seq → after.finalizedIdx < seq →
          ∀ height < config.startingHotshotHeight, ∀ e ∈ entriesAt (nitroRollup external nitroConfig) chain height,
            sequenceNumber e ≠ seq)) := by
  obtain ⟨resumed, positioned⟩ := startup_resumes file restarted _ latest deployed resolved
  exact ⟨restart_from_named_block external nitroConfig chain config restarted rounds further later events furtherEvents restartedEvents
      st before after issuing continuing restarting batch context cursor result verified accepted landed resumed positioned caughtUp,
    restart_from_genesis external nitroConfig chain config restarted rounds further later events furtherEvents restartedEvents
      st before after issuing continuing restarting batch context cursor result verified accepted landed resumed positioned caughtUp⟩

end Restarted

-- Block 1 holds one message and block 2 the next. The batch is the first of them.
def orderlyChain : Chain Bytes := fun height =>
  if height = 1 then [v1Payload [precedingJson]] else if height = 2 then [v1Payload [upstreamJson]] else []

def orderlyRound : PollRound Bytes :=
  ⟨.ok 3, fun start stop => .ok (blocksFrom orderlyChain start (stop.toNat - start.toNat)), true⟩

def orderlyEvents (start : UInt64) (count : Nat) : List (StreamerEvent Bytes) :=
  [.hotshotTransactions (blocksFrom orderlyChain start count) start fun _ => .accepted]

theorem orderly_round_reads : ∀ round ∈ [orderlyRound], RoundReads orderlyChain round := by
  intro round member start stop transactions answered
  rw [List.mem_singleton.mp member] at answered
  exact (Except.ok.inj answered).symm

def orderlyRun : NitroStreamer := runStreamer ⟨12344, 2⟩ sequencerRollup.toRollup 0 (orderlyEvents 1 2)

theorem orderly_run_queue : orderlyRun.queue = [⟨precedingFeedMessage, 1⟩, ⟨upstreamFeedMessage, 2⟩] := by decide +kernel

-- The service that starts again at block 2 holds the second message as the first service does; the one that starts after both
-- messages reads from block 0, where there is nothing else.
theorem restart_from_orderly :
    SameFrom 12345 orderlyRun (runStreamer ⟨12345, 2⟩ sequencerRollup.toRollup 0 (orderlyEvents 2 1)) ∧
      SameFrom 12346 orderlyRun (runStreamer ⟨12346, 2⟩ sequencerRollup.toRollup 0 (orderlyEvents 0 3)) := by
  have answer : verifyBatchMessages [.l2Msg [0xde, 0xad, 0xbe, 0xef]] orderlyRun.queue ⟨3333, 12344⟩ = ⟨true, 12344, 12344, 1, 3333, 2⟩ := by
    rw [orderly_run_queue]
    decide +kernel
  have answerBoth : verifyBatchMessages [.l2Msg [0xde, 0xad, 0xbe, 0xef], .l2Msg [0xde, 0xad, 0xbe, 0xef]] orderlyRun.queue ⟨3333, 12344⟩ =
      ⟨true, 12344, 12345, 1, 3333, 0⟩ := by
    rw [orderly_run_queue]
    decide +kernel
  have empty : orderlyRun.stubs = ∅ := by
    rw [← ExtTreeMap.isEmpty_iff]
    decide +kernel
  have named := (restart_from_certificate_iff sequencerExternal ⟨[], 0xa4b1, [upstreamSigner]⟩ orderlyChain ⟨false, 1, ⟨12344, 2⟩, 12344⟩
    ⟨false, 0, ⟨0, 2⟩, 0⟩ ⟨false, 2, ⟨12345, 2⟩, 12345⟩ [orderlyRound] [] [orderlyRound] (orderlyEvents 1 2) [] (orderlyEvents 2 1)
    orderlyRun orderlyRun _ ⟨⟨orderly_round_reads, by decide +kernel⟩, rfl⟩ ⟨⟨orderly_round_reads, by decide +kernel⟩, rfl⟩
    ⟨⟨orderly_round_reads, by decide +kernel⟩, rfl⟩ [.l2Msg [0xde, 0xad, 0xbe, 0xef]] ⟨3333, 12344⟩ ⟨3333, 12345⟩ _ answer rfl
    rfl (by decide +kernel) (.ok .default) rfl rfl).1 (by decide)
  have genesis := (restart_from_certificate_iff sequencerExternal ⟨[], 0xa4b1, [upstreamSigner]⟩ orderlyChain ⟨false, 1, ⟨12344, 2⟩, 12344⟩
    ⟨false, 0, ⟨0, 2⟩, 0⟩ ⟨false, 0, ⟨12346, 2⟩, 12346⟩ [orderlyRound] [] [orderlyRound] (orderlyEvents 1 2) [] (orderlyEvents 0 3)
    orderlyRun orderlyRun _ ⟨⟨orderly_round_reads, by decide +kernel⟩, rfl⟩ ⟨⟨orderly_round_reads, by decide +kernel⟩, rfl⟩
    ⟨⟨orderly_round_reads, by decide +kernel⟩, rfl⟩ [.l2Msg [0xde, 0xad, 0xbe, 0xef], .l2Msg [0xde, 0xad, 0xbe, 0xef]] ⟨3333, 12344⟩
    ⟨3333, 12346⟩ _ answerBoth rfl rfl (by decide +kernel) (.ok .default) rfl rfl).2 rfl
  refine ⟨named.mpr ?_, genesis.mpr ?_⟩
  · rintro seq height beyond - - (stub | ⟨e, member, same, -⟩)
    · rw [empty, ExtTreeMap.getElem?_empty] at stub
      cases stub
    · have inside : ∀ e ∈ matchedEntries [.l2Msg [0xde, 0xad, 0xbe, 0xef]]
          [(⟨precedingFeedMessage, 1⟩ : NitroRollupQueueEntry), ⟨upstreamFeedMessage, 2⟩] ⟨3333, 12344⟩, sequenceNumber e = 12344 := by
        decide +kernel
      rw [← same, inside e (orderly_run_queue ▸ member), UInt64.le_iff_toNat_le] at beyond
      exact absurd beyond (by decide)
  · intro seq _ _ _ height low e member
    have zero : height = 0 := UInt64.toNat_inj.mp (Nat.lt_one_iff.mp (UInt64.lt_iff_toNat_lt.mp low))
    have bare : entriesAt (nitroRollup sequencerExternal ⟨[], 0xa4b1, [upstreamSigner]⟩) orderlyChain 0 = [] := rfl
    rw [zero, bare] at member
    cases member

end Cas
