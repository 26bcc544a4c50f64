import Cas.Nitro.BuildPayload
import Cas.Nitro.Intake
import Cas.Nitro.Restart

set_option autoImplicit false

namespace Cas

-- The parser reads the chain id and the sequencers from the configuration of the feed client.
def FeedConnectionConfig.nitro (config : FeedConnectionConfig) (legacySignerAddresses : List Address) : NitroConfig :=
  ⟨legacySignerAddresses, config.chainId, config.trustedSequencerAddresses⟩

-- `build_tx_fn` as the submitter calls it. The loop needs no more rounds than there are messages when each fits alone.
def nitroTxCtor (encoder : PayloadEncoder) (namespaceId : UInt64) (msgs : List BroadcastFeedMessage) : List EspressoTransaction :=
  (buildTxFn (buildEspressoTxPayload encoder) namespaceId msgs.length msgs).getD []

section Packing

variable (external : External) (config : NitroConfig)

def messagesOf (tx : EspressoTransaction) : List BroadcastFeedMessage :=
  (parseNitroHotshotPayload external config tx.payload (verifyBroadcastFeedMessageSignature external)).toOption.getD []

theorem messages_of_parsed (tx : EspressoTransaction) (message : BroadcastFeedMessage) (member : message ∈ messagesOf external config tx)
    (height : UInt64) : ⟨message, height⟩ ∈ parseTransaction external config tx.payload height := by
  unfold messagesOf at member
  unfold parseTransaction
  cases parsed : parseNitroHotshotPayload external config tx.payload (verifyBroadcastFeedMessageSignature external) with
  | error reason =>
      rw [parsed] at member
      exact absurd member List.not_mem_nil
  | ok messages =>
      rw [parsed] at member
      exact List.mem_map.mpr ⟨message, member, rfl⟩

variable (encoder : PayloadEncoder) (encodedHeader : Bytes)

structure Carried (message : BroadcastFeedMessage) : Prop where
  fits : FitsAlone encoder encodedHeader message
  decodes : ∃ encodedMsg, encoder.message message = .ok encodedMsg ∧ external.jsonMessage encodedMsg = .ok message
  accepted : accepts config (verifyBroadcastFeedMessageSignature external) message = true

theorem carried_part_parses (header : encoder.header = .ok encodedHeader) (headerDecodes : external.jsonHeader encodedHeader = .ok .v1)
    (part : List BroadcastFeedMessage) (carried : ∀ message ∈ part, Carried external config encoder encodedHeader message)
    (some : part ≠ [])
    (bounded : encodedMessages encoder part = [] ∨
      (frame encodedHeader ++ (encodedMessages encoder part).flatMap frame).length ≤ hotshotTxPayloadMaxSize) :
    parseNitroHotshotPayload external config (frame encodedHeader ++ (encodedMessages encoder part).flatMap frame)
      (verifyBroadcastFeedMessageSignature external) = .ok part := by
  have lossless : JsonLossless external encoder encodedHeader part :=
    ⟨header, headerDecodes, fun message member => (carried message member).decodes⟩
  have decodes := encoded_messages_decode external encoder encodedHeader part lossless part fun _ member => member
  have fits := (packed_part_parses external config encoder encodedHeader part lossless part (fun _ member => member) some bounded).1
  have limit : hotshotTxPayloadMaxSize < 2 ^ 64 := by decide
  obtain ⟨headerSmall, small⟩ := framed_pieces_small encodedHeader _ _ (Nat.lt_of_le_of_lt fits limit)
  rw [parse_payload_frames external config _ encodedHeader _ part headerSmall headerDecodes small decodes]
  exact congrArg Except.ok (List.filter_eq_self.mpr fun message member => (carried message member).accepted)

theorem nitro_txs_pack (header : encoder.header = .ok encodedHeader) (headerDecodes : external.jsonHeader encodedHeader = .ok .v1)
    (namespaceId : UInt64) (msgs : List BroadcastFeedMessage)
    (carried : ∀ message ∈ msgs, Carried external config encoder encodedHeader message) :
    (nitroTxCtor encoder namespaceId msgs).flatMap (messagesOf external config) = msgs := by
  obtain ⟨txes, parts, returned, packed, whole⟩ := build_tx_loop_packs (buildEspressoTxPayload encoder) namespaceId
    (fun list => ∀ message ∈ list, Carried external config encoder encodedHeader message)
    (fun payload part => parseNitroHotshotPayload external config payload (verifyBroadcastFeedMessageSignature external) = .ok part)
    (fun list more fine => by
      obtain ⟨-, taken, packs⟩ := build_payload_packs encoder encodedHeader header list more
        fun message member => (fine message member).fits
      obtain ⟨written, bounded, inside⟩ := packs.packed
      rw [written] at bounded
      have parses := carried_part_parses external config encoder encodedHeader header headerDecodes taken
        (fun message member => fine message (inside message member)) packs.progress bounded
      refine ⟨fun message member => fine message ?_, taken, packs.split, packs.progress, packs.written, written ▸ parses⟩
      rw [packs.split]
      exact List.mem_append_right _ member)
    msgs.length msgs [] carried (Nat.le_refl _)
  rw [nitroTxCtor, buildTxFn, returned, Option.getD_some, List.nil_append, ← whole]
  clear returned whole
  induction packed with
  | nil => rfl
  | cons first _ ih =>
      rw [List.flatMap_cons, List.flatten_cons, ih, messagesOf, first.2]
      rfl

end Packing

section Ingest

variable (external : External) (encoder : PayloadEncoder) (encodedHeader : Bytes) (legacySignerAddresses : List Address)
  (debug : Bytes → String) (jsonBroadcast : Bytes → Except String BroadcastMessage) (feed : FeedConnectionConfig)
  (submitterInputChannelCapacity : Nat) (submitterConfig : SubmitterConfig) (namespaceId currentMessageCount : UInt64)

theorem carried_number_tracked (config : StreamerConfig) (nitro : NitroConfig) (chain : Chain Bytes) (start finalizedIdx : UInt64)
    (rounds : List (PollRound Bytes)) (events : List (StreamerEvent Bytes)) (fed : Fed chain start rounds events) (tx : EspressoTransaction)
    (message : BroadcastFeedMessage) (member : message ∈ messagesOf external nitro tx) (height : UInt64) (low : start ≤ height)
    (high : height < (polled start rounds).fromBlock) (included : tx.payload ∈ chain height)
    (started : config.startingPos ≤ message.sequenceNumber)
    (above : (runStreamer config (nitroRollup external nitro).toRollup finalizedIdx events).finalizedIdx < message.sequenceNumber) :
    ∃ first ≤ height,
      TrackedAt (runStreamer config (nitroRollup external nitro).toRollup finalizedIdx events) message.sequenceNumber first := by
  have next : (height + 1).toNat = height.toNat + 1 := Word64.toNat_succ height _ high
  have upTo : start ≤ height + 1 := by
    rw [UInt64.le_iff_toNat_le] at low ⊢
    omega
  have within : height + 1 ≤ (polled start rounds).fromBlock := by
    rw [UInt64.lt_iff_toNat_lt] at high
    rw [UInt64.le_iff_toNat_le]
    omega
  have carries : (entriesAt (nitroRollup external nitro) chain height).any (fun e => sequenceNumber e = message.sequenceNumber) = true :=
    List.any_eq_true.mpr ⟨⟨message, height⟩,
      List.mem_flatMap.mpr ⟨tx.payload, included, messages_of_parsed external nitro tx message member height⟩, decide_eq_true rfl⟩
  cases found : firstBlock (nitroRollup external nitro) chain message.sequenceNumber (heightsBetween start (height + 1)) with
  | none =>
      have missing := List.find?_eq_none.mp found height ((mem_heights_between _ _ _).mpr ⟨low, by rw [UInt64.lt_iff_toNat_lt]; omega⟩)
      exact absurd carries missing
  | some first =>
      have listed := (mem_heights_between _ _ _).mp (List.mem_of_find?_eq_some found)
      refine ⟨first, ?_, (fed_tracked_at config _ chain start finalizedIdx rounds events fed _ first above).mpr ⟨started, ?_⟩⟩
      · have below := UInt64.lt_iff_toNat_lt.mp listed.2
        rw [UInt64.le_iff_toNat_le]
        omega
      · rw [heights_between_split start (height + 1) _ upTo within, first_block_append, found, Option.some_or]

/-- Nothing is lost between the feed and the streamer. However the client, the submitter, the inclusion of its transactions in
blocks, the poller and the streamer interleave, each message the client has handed over is still in memory, or in a transaction that
no polled block holds, or below the starting position, or finalized on L1, or tracked by the streamer. -/
theorem submitted_messages_tracked (header : encoder.header = .ok encodedHeader)
    (headerDecodes : external.jsonHeader encodedHeader = .ok .v1)
    (st : Intake EspressoTransaction)
    (reached : Relation.ReflTransGen
      (IntakeStep debug ⟨jsonBroadcast, verifyBroadcastFeedMessageSignature external⟩ feed submitterInputChannelCapacity submitterConfig
        namespaceId (nitroTxCtor encoder)) (.new feed submitterConfig currentMessageCount) st)
    (fits : ∀ message ∈ st.client.submitted, FitsAlone encoder encodedHeader message)
    (decodes : ∀ message ∈ st.client.submitted,
      ∃ encodedMsg, encoder.message message = .ok encodedMsg ∧ external.jsonMessage encodedMsg = .ok message)
    (config : StreamerConfig) (chain : Chain Bytes) (start finalizedIdx : UInt64) (rounds : List (PollRound Bytes))
    (events : List (StreamerEvent Bytes)) (fed : Fed chain start rounds events) (message : BroadcastFeedMessage)
    (member : message ∈ st.client.submitted) :
    message ∈ st.submitter.point.pendingMsgs ++ st.submitter.unsubmittedMsgs ∨
      (∃ tx ∈ st.submitter.spawned ++ (st.submitter.point.waitingTx ++ st.submitter.unsubmittedTxs),
        message ∈ messagesOf external (feed.nitro legacySignerAddresses) tx ∧
          ∀ height, start ≤ height → height < (polled start rounds).fromBlock → tx.payload ∉ chain height) ∨
      message.sequenceNumber < config.startingPos ∨
      message.sequenceNumber ≤
        (runStreamer config (nitroRollup external (feed.nitro legacySignerAddresses)).toRollup finalizedIdx events).finalizedIdx ∨
      ∃ height, TrackedAt (runStreamer config (nitroRollup external (feed.nitro legacySignerAddresses)).toRollup finalizedIdx events)
        message.sequenceNumber height := by
  have carries : ∀ msgs : List BroadcastFeedMessage, msgs ≠ [] →
      (∀ msg ∈ msgs, Carried external (feed.nitro legacySignerAddresses) encoder encodedHeader msg) →
      (nitroTxCtor encoder namespaceId msgs).flatMap (messagesOf external (feed.nitro legacySignerAddresses)) = msgs := fun msgs _ =>
    nitro_txs_pack external _ encoder encodedHeader header headerDecodes namespaceId msgs
  have inv := reached_intake_invariant debug _ feed submitterInputChannelCapacity submitterConfig namespaceId (nitroTxCtor encoder) _ _
    currentMessageCount carries st reached
  have carried : ∀ msg ∈ st.client.submitted, Carried external (feed.nitro legacySignerAddresses) encoder encodedHeader msg :=
    fun msg listed => ⟨fits msg listed, decodes msg listed, inv.verified msg listed⟩
  rw [← intake_holds_submitted _ feed submitterInputChannelCapacity submitterConfig _ _ currentMessageCount st inv carried,
    Submitter.holds, Submitter.accounted, List.append_assoc] at member
  rcases List.mem_append.mp member with packed | waiting
  · obtain ⟨tx, sent, inside⟩ := List.mem_flatMap.mp packed
    by_cases included : ∃ height, start ≤ height ∧ height < (polled start rounds).fromBlock ∧ tx.payload ∈ chain height
    · obtain ⟨height, low, high, block⟩ := included
      by_cases started : config.startingPos ≤ message.sequenceNumber
      · by_cases above : (runStreamer config (nitroRollup external (feed.nitro legacySignerAddresses)).toRollup finalizedIdx
            events).finalizedIdx < message.sequenceNumber
        · obtain ⟨first, -, tracked⟩ := carried_number_tracked external config (feed.nitro legacySignerAddresses) chain start finalizedIdx rounds
            events fed tx message inside height low high block started above
          exact .inr (.inr (.inr (.inr ⟨first, tracked⟩)))
        · exact .inr (.inr (.inr (.inl (UInt64.not_lt.mp above))))
      · exact .inr (.inr (.inl (UInt64.not_le.mp started)))
    · refine .inr (.inl ⟨tx, sent, inside, fun height low high block => included ⟨height, low, high, block⟩⟩)
  · exact .inl waiting

end Ingest

def upstreamEncoder : PayloadEncoder := singleEncoder upstreamFeedMessage upstreamJson

def upstreamTx : EspressoTransaction := ⟨42161, v1Payload [upstreamJson]⟩

theorem upstream_tx_built : nitroTxCtor upstreamEncoder 42161 [upstreamFeedMessage] = [upstreamTx] := by
  decide +kernel

-- The upstream message, taken from the feed and submitted.
def submittedIntake : Intake EspressoTransaction where
  client := ⟨12345, [upstreamFeedMessage], [12345]⟩
  firstReconnectAttempt := true
  point := .sending [] [] 1 (some 12346)
  submitter := ⟨[], false, [], .top, 2, [⟨upstreamTx, .submitting⟩], [upstreamFeedMessage], [upstreamFeedMessage], [upstreamTx]⟩
  receiverGone := false
  connections := 1
  slept := []
  history := [.reconnect]
  wire := [.opened 12345, .frame [upstreamFeedMessage]]

theorem submitted_intake_reached :
    Relation.ReflTransGen
      (IntakeStep (fun _ => "") ⟨fun _ => .ok upstreamFrame, verifyBroadcastFeedMessageSignature sequencerExternal⟩ sequencerFeedConfig 1
        ⟨3, 2⟩ 42161 (nitroTxCtor upstreamEncoder)) (.new sequencerFeedConfig ⟨3, 2⟩ 12345) submittedIntake := by
  have verified : verifiedMessages ⟨fun _ => .ok upstreamFrame, verifyBroadcastFeedMessageSignature sequencerExternal⟩
      sequencerFeedConfig.toBroadcasterClientConfig upstreamFrame = [upstreamFeedMessage] := by
    decide +kernel
  refine .head (.connected _ 1000 connectedAnswers rfl rfl) <| .head (.frame _ 1000 [] upstreamFrame rfl rfl rfl) <|
    .head (.send _ [] upstreamFeedMessage [] 0 (some 12346) ?_ rfl ?_ rfl) <|
    .head (.submit _ _ (.recv _ upstreamFeedMessage [] rfl rfl rfl) rfl rfl rfl) <|
    .head (.submit _ _ (.construct _ [upstreamFeedMessage] rfl rfl) rfl rfl rfl) <|
    .head (.submit _ _ (.popFront _ upstreamTx [] rfl ?_) rfl rfl rfl) <|
    .head (.submit _ _ (.spawn _ upstreamTx 2 rfl rfl) rfl rfl rfl) ?_
  · simp only [verified]
    rfl
  · exact Nat.zero_lt_one
  · simp only [reduceCtorEq, if_false, upstream_tx_built]
    rfl
  · exact .refl

-- The chain holds its transaction in block 2, and the streamer has polled that block.
theorem submitted_upstream_tracked :
    ∃ height, TrackedAt (runStreamer ⟨12345, 2⟩ (nitroRollup sequencerExternal (sequencerFeedConfig.nitro [])).toRollup 0 (orderlyEvents 2 1))
      12345 height := by
  have only : ∀ message ∈ submittedIntake.client.submitted, message = upstreamFeedMessage :=
    fun message member => List.mem_singleton.mp member
  have encoding : upstreamEncoder.message upstreamFeedMessage = .ok upstreamJson := single_encoder_message upstreamFeedMessage upstreamJson
  have decoding : sequencerExternal.jsonMessage upstreamJson = .ok upstreamFeedMessage := by
    simp only [sequencerExternal, if_true]
  have sizes : (frame (ascii "\"V1\"")).length + lenSize + upstreamJson.length ≤ hotshotTxPayloadMaxSize := by decide +kernel
  have fits : FitsAlone upstreamEncoder (ascii "\"V1\"") upstreamFeedMessage := by
    intro encodedMsg encoded
    obtain rfl := Except.ok.inj (encoding.symm.trans encoded)
    exact sizes
  rcases submitted_messages_tracked sequencerExternal upstreamEncoder (ascii "\"V1\"") [] (fun _ => "") (fun _ => .ok upstreamFrame)
      sequencerFeedConfig 1 ⟨3, 2⟩ 42161 12345 rfl (by simp only [sequencerExternal, if_true]) submittedIntake submitted_intake_reached
      (fun message member => by rw [only message member]; exact fits)
      (fun message member => by rw [only message member]; exact ⟨upstreamJson, encoding, decoding⟩)
      ⟨12345, 2⟩ orderlyChain 2 0 [orderlyRound] (orderlyEvents 2 1) ⟨orderly_round_reads, by decide +kernel⟩ upstreamFeedMessage
      (List.mem_singleton.mpr rfl) with waiting | ⟨tx, sent, -, unpolled⟩ | early | final | tracked
  · exact absurd waiting List.not_mem_nil
  · obtain rfl := List.mem_singleton.mp sent
    exact absurd (List.mem_singleton.mpr rfl) (unpolled 2 le_rfl (by decide +kernel))
  · exact absurd early (by decide)
  · exact absurd final (by decide +kernel)
  · exact tracked

end Cas
