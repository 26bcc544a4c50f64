import Cas.Streamer.Provenance
import Cas.Nitro.PayloadGrammar

set_option autoImplicit false

namespace Cas

structure LegacySigned (external : External) (config : NitroConfig) (txPayload : Bytes) (entry : NitroRollupQueueEntry) : Prop where
  signed : ∃ signature frames signer indices messages, txPayload = beBytes 65 ++ (signature ++ frames) ∧ signature.length = 65 ∧
    recoverSignerAddress external (external.keccak256 frames) signature = .ok signer ∧ signer ∈ config.legacySignerAddresses ∧
    parseLegacyFrames [] [] frames = .ok (indices, messages) ∧
    entry ∈ legacyEntries external indices messages entry.hotshotHeight

theorem recover_signer_length (external : External) (hash : B256) (signature : Bytes) (signer : Address)
    (recovered : recoverSignerAddress external hash signature = .ok signer) : signature.length = 65 := by
  obtain ⟨parity, found⟩ := (recover_signer_iff external hash signature signer).mp recovered
  exact found.width

theorem legacy_parse_signed (external : External) (config : NitroConfig) (txPayload : Bytes) (entry : NitroRollupQueueEntry)
    (member : entry ∈ legacyParseNitroHotshotPayload external config txPayload entry.hotshotHeight) :
    LegacySigned external config txPayload entry := by
  simp only [legacyParseNitroHotshotPayload] at member
  cases accepted : parseLegacyPayloadBytes external txPayload with
  | error reason => simp [accepted] at member
  | ok parsed =>
      obtain ⟨frames, layout, hashed, framed⟩ := parse_legacy_payload_layout external txPayload parsed accepted
      simp only [accepted] at member
      cases recovered : recoverSignerAddress external parsed.messagesHash parsed.signature with
      | error reason => simp [recovered] at member
      | ok signer =>
          have width := recover_signer_length external _ _ signer recovered
          simp only [recovered] at member
          split at member
          · cases member
          · rename_i listed
            split at member
            · cases member
            · rw [frame, width, List.append_assoc] at layout
              rw [hashed] at recovered
              exact ⟨parsed.signature, frames, signer, parsed.indices, parsed.messages, layout, width, recovered,
                List.contains_iff_mem.mp (not_not.mp listed), framed, member⟩

theorem parse_messages_verified (external : External) (config : NitroConfig) (verifySignature : FeedMessageVerifier)
    (messages : List BroadcastFeedMessage) (remaining : Bytes) (parsed : List BroadcastFeedMessage)
    (accepted : parseMessages external config verifySignature messages remaining = .ok parsed) :
    ∀ message ∈ parsed, message ∈ messages ∨ verifySignature config.chainId config.trustedSequencerAddresses message = .ok () := by
  fun_induction parseMessages external config verifySignature messages remaining with
  | case1 messages =>
      obtain rfl := Except.ok.inj accepted
      exact fun message member => .inl member
  | case2 messages remaining more short => cases accepted
  | case3 messages remaining more enough messageSize body truncated => cases accepted
  | case4 messages remaining more enough messageSize body whole reason refused => cases accepted
  | case5 messages remaining more enough messageSize body whole message decoded verified ih =>
      intro other member
      rcases ih accepted other member with old | ok
      · rcases List.mem_append.mp old with earlier | new
        · exact .inl earlier
        · obtain rfl := List.mem_singleton.mp new
          exact .inr verified
      · exact .inr ok
  | case6 messages remaining more enough messageSize body whole message decoded reason refused ih => exact ih accepted

theorem parse_nitro_payload_verified (external : External) (config : NitroConfig) (txPayload : Bytes)
    (verifySignature : FeedMessageVerifier) (parsed : List BroadcastFeedMessage)
    (accepted : parseNitroHotshotPayload external config txPayload verifySignature = .ok parsed) :
    ∀ message ∈ parsed, verifySignature config.chainId config.trustedSequencerAddresses message = .ok () := by
  simp only [parseNitroHotshotPayload] at accepted
  split at accepted
  · cases accepted
  · split at accepted
    · cases accepted
    · split at accepted
      · cases accepted
      · split at accepted
        · cases accepted
        · intro message member
          exact (parse_messages_verified external config verifySignature [] _ parsed accepted message member).resolve_left (by simp)

theorem parse_transaction_authentic (external : External) (config : NitroConfig) (txPayload : Bytes) (entry : NitroRollupQueueEntry)
    (member : entry ∈ parseTransaction external config txPayload entry.hotshotHeight) :
    verifyBroadcastFeedMessageSignature external config.chainId config.trustedSequencerAddresses entry.feedMessage = .ok () ∨
      LegacySigned external config txPayload entry := by
  cases v1 : parseNitroHotshotPayload external config txPayload (verifyBroadcastFeedMessageSignature external) with
  | ok messages =>
      simp only [parseTransaction, v1] at member
      obtain ⟨message, listed, built⟩ := List.mem_map.mp member
      have verified := parse_nitro_payload_verified external config txPayload _ messages v1 message listed
      rw [← built]
      exact .inl verified
  | error reason =>
      simp only [parseTransaction, v1] at member
      exact .inr (legacy_parse_signed external config txPayload entry member)

/-- Whatever transactions the chain holds, every full entry of a run comes from the block at its recorded height and is
either signed itself by a trusted sequencer or part of a payload signed by a legacy signer. -/
theorem queued_entries_authentic (config : StreamerConfig) (external : External) (nitroConfig : NitroConfig) (chain : Chain Bytes)
    (finalizedIdx : UInt64) (events : List (StreamerEvent Bytes)) (fromChain : ∀ event ∈ events, FromChain chain event)
    (entry : NitroRollupQueueEntry)
    (queued : entry ∈ (runStreamer config (nitroRollup external nitroConfig).toRollup finalizedIdx events).queue) :
    ∃ txPayload ∈ chain entry.hotshotHeight, entry ∈ parseTransaction external nitroConfig txPayload entry.hotshotHeight ∧
      (verifyBroadcastFeedMessageSignature external nitroConfig.chainId nitroConfig.trustedSequencerAddresses entry.feedMessage = .ok () ∨
        LegacySigned external nitroConfig txPayload entry) := by
  have provenance := run_streamer_provenance config (nitroRollup external nitroConfig) chain finalizedIdx events fromChain
  obtain ⟨txPayload, posted, parsed⟩ := List.mem_flatMap.mp (provenance.origin.queued entry queued)
  exact ⟨txPayload, posted, parsed, parse_transaction_authentic external nitroConfig txPayload entry parsed⟩

-- A block with one V1 payload, between empty ones.
def singleChain (json : Bytes) : Chain Bytes := fun height => if height = 1 then [v1Payload [json]] else []

def singleRun (json : Bytes) : List (StreamerEvent Bytes) := [.hotshotTransactions (slice (singleChain json) 0 3) 0 fun _ => .accepted]

theorem single_run_from_chain (json : Bytes) : ∀ event ∈ singleRun json, FromChain (singleChain json) event := by
  intro event member
  obtain rfl := List.mem_singleton.mp member
  exact (congrArg (blocksFrom _ 0) (length_blocks_from _ 0 _)).symm

-- The upstream message, signed for a build without the feature nitro-v3_9_9 and for one with it.
theorem upstream_entry_authentic :
    (∃ txPayload ∈ singleChain upstreamJson 1,
      ⟨upstreamFeedMessage, 1⟩ ∈ parseTransaction sequencerExternal ⟨[], 0xa4b1, [upstreamSigner]⟩ txPayload 1 ∧
        (verifyBroadcastFeedMessageSignature sequencerExternal 0xa4b1 [upstreamSigner] upstreamFeedMessage = .ok () ∨
          LegacySigned sequencerExternal ⟨[], 0xa4b1, [upstreamSigner]⟩ txPayload ⟨upstreamFeedMessage, 1⟩)) ∧
    ∃ txPayload ∈ singleChain defaultJson 1,
      ⟨defaultFeedMessage, 1⟩ ∈ parseTransaction defaultExternal ⟨[], 0xa4b1, [upstreamSigner]⟩ txPayload 1 ∧
        (verifyBroadcastFeedMessageSignature defaultExternal 0xa4b1 [upstreamSigner] defaultFeedMessage = .ok () ∨
          LegacySigned defaultExternal ⟨[], 0xa4b1, [upstreamSigner]⟩ txPayload ⟨defaultFeedMessage, 1⟩) := by
  have queued : ⟨upstreamFeedMessage, 1⟩ ∈ (runStreamer ⟨12345, 1⟩ (nitroRollup sequencerExternal ⟨[], 0xa4b1, [upstreamSigner]⟩).toRollup 0
      (singleRun upstreamJson)).queue := by
    decide +kernel
  have queuedByDefault : ⟨defaultFeedMessage, 1⟩ ∈ (runStreamer ⟨12345, 1⟩
      (nitroRollup defaultExternal ⟨[], 0xa4b1, [upstreamSigner]⟩).toRollup 0 (singleRun defaultJson)).queue := by
    decide +kernel
  exact ⟨queued_entries_authentic ⟨12345, 1⟩ sequencerExternal _ _ 0 _ (single_run_from_chain upstreamJson) _ queued,
    queued_entries_authentic ⟨12345, 1⟩ defaultExternal _ _ 0 _ (single_run_from_chain defaultJson) _ queuedByDefault⟩

end Cas
