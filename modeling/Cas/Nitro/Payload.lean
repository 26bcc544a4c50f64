import Cas.Nitro.Signature

set_option autoImplicit false

namespace Cas

def lenSize : Nat := 8
def indexSize : Nat := 8

-- The loop of `parse_nitro_hotshot_payload` over the bytes from `current_pos`
-- on. Each turn takes a length field off, so it ends.
def parseMessages (external : External) (config : NitroConfig) (verifySignature : FeedMessageVerifier)
    (messages : List BroadcastFeedMessage) (remaining : Bytes) : Except String (List BroadcastFeedMessage) :=
  if remaining = [] then .ok messages
  else if _short : remaining.length < lenSize then .error "payload too short to parse message size"
  else
    let messageSize := (fromBeBytes (remaining.take lenSize)).toNat
    let body := remaining.drop lenSize
    if body.length < messageSize then .error "payload too short to parse message"
    else
      match external.jsonMessage (body.take messageSize) with
      | .error reason => .error s!"failed to parse nitro hotshot message: {reason}"
      | .ok message =>
          match verifySignature config.chainId config.trustedSequencerAddresses message with
          | .ok () => parseMessages external config verifySignature (messages ++ [message]) (body.drop messageSize)
          | .error _ => parseMessages external config verifySignature messages (body.drop messageSize)
termination_by remaining.length
decreasing_by all_goals simp only [List.length_drop, lenSize] at *; omega

def parseNitroHotshotPayload (external : External) (config : NitroConfig) (txPayload : Bytes) (verifySignature : FeedMessageVerifier) :
    Except String (List BroadcastFeedMessage) :=
  if txPayload.length < lenSize then .error "payload too short to parse header size"
  else
    let headerLen := (fromBeBytes (txPayload.take lenSize)).toNat
    let body := txPayload.drop lenSize
    if body.length < headerLen then .error "payload too short to parse header"
    else
      match external.jsonHeader (body.take headerLen) with
      | .error reason => .error s!"failed to parse nitro hotshot header: {reason}"
      | .ok header =>
          if header ≠ .v1 then .error "unsupported nitro hotshot header version"
          else parseMessages external config verifySignature [] (body.drop headerLen)

structure LegacyParsedNitroEspressoTransaction where
  signature : Bytes
  messagesHash : B256
  indices : List UInt64
  messages : List Bytes
deriving DecidableEq

-- The loop of `parse_legacy_payload_bytes`, which skips empty messages.
def parseLegacyFrames (indices : List UInt64) (messages : List Bytes) (remaining : Bytes) : Except String (List UInt64 × List Bytes) :=
  if remaining = [] then .ok (indices, messages)
  else if _short : remaining.length < lenSize + indexSize then .error "payload too short to index size"
  else
    let index := fromBeBytes (remaining.take indexSize)
    let messageSize := (fromBeBytes ((remaining.drop indexSize).take lenSize)).toNat
    let body := (remaining.drop indexSize).drop lenSize
    if body.length < messageSize then .error "payload too short to message size"
    else if body.take messageSize = [] then parseLegacyFrames indices messages (body.drop messageSize)
    else parseLegacyFrames (indices ++ [index]) (messages ++ [body.take messageSize]) (body.drop messageSize)
termination_by remaining.length
decreasing_by all_goals simp only [List.length_drop, lenSize, indexSize] at *; omega

def parseLegacyPayloadBytes (external : External) (txPayload : Bytes) : Except String LegacyParsedNitroEspressoTransaction :=
  if txPayload.length < lenSize then .error "payload too short to parse signature size"
  else
    let signatureLen := (fromBeBytes (txPayload.take lenSize)).toNat
    let body := txPayload.drop lenSize
    if body.length < signatureLen then .error "payload too short to parse signature"
    else
      match parseLegacyFrames [] [] (body.drop signatureLen) with
      | .error reason => .error reason
      | .ok (indices, messages) => .ok ⟨body.take signatureLen, external.keccak256 (body.drop signatureLen), indices, messages⟩

-- The two lists have one length where their elements are paired.
def legacyEntries (external : External) (indices : List UInt64) (messages : List Bytes) (hotshotHeight : UInt64) :
    List NitroRollupQueueEntry :=
  (indices.zip messages).filterMap fun (index, msg) =>
    match external.rlpMessage msg with
    | .ok messageWithMeta => some ⟨⟨index, messageWithMeta, [], [], 0, none⟩, hotshotHeight⟩
    | .error _ => none

def legacyParseNitroHotshotPayload (external : External) (config : NitroConfig) (txPayload : Bytes) (hotshotHeight : UInt64) :
    List NitroRollupQueueEntry :=
  match parseLegacyPayloadBytes external txPayload with
  | .error _ => []
  | .ok parsed =>
      match recoverSignerAddress external parsed.messagesHash parsed.signature with
      | .error _ => []
      | .ok signer =>
          if ¬ config.legacySignerAddresses.contains signer then []
          else if parsed.indices.length ≠ parsed.messages.length then []
          else legacyEntries external parsed.indices parsed.messages hotshotHeight

-- The V1 format first, the legacy format where that fails.
def parseTransaction (external : External) (config : NitroConfig) (txPayload : Bytes) (hotshotHeight : UInt64) : List NitroRollupQueueEntry :=
  match parseNitroHotshotPayload external config txPayload (verifyBroadcastFeedMessageSignature external) with
  | .ok messages => messages.map fun message => ⟨message, hotshotHeight⟩
  | .error _ => legacyParseNitroHotshotPayload external config txPayload hotshotHeight

def nitroParseBlock (external : External) (config : NitroConfig) (block : List Bytes) (hotshotHeight : UInt64) : List NitroRollupQueueEntry :=
  block.flatMap fun txPayload => parseTransaction external config txPayload hotshotHeight

def parseHotshotTransactions (external : External) (config : NitroConfig) : List (List Bytes) → UInt64 → List NitroRollupQueueEntry
  | [], _ => []
  | block :: blocks, hotshotHeight =>
      nitroParseBlock external config block hotshotHeight ++ parseHotshotTransactions external config blocks (hotshotHeight + 1)

theorem legacy_entries_height (external : External) (indices : List UInt64) (messages : List Bytes) (height : UInt64)
    (entry : NitroRollupQueueEntry) (member : entry ∈ legacyEntries external indices messages height) : entry.hotshotHeight = height := by
  obtain ⟨⟨index, msg⟩, -, built⟩ := List.mem_filterMap.mp member
  cases decoded : external.rlpMessage msg with
  | error reason => simp [decoded] at built
  | ok messageWithMeta =>
      simp only [decoded, Option.some.injEq] at built
      rw [← built]

theorem legacy_parse_height (external : External) (config : NitroConfig) (txPayload : Bytes) (height : UInt64)
    (entry : NitroRollupQueueEntry) (member : entry ∈ legacyParseNitroHotshotPayload external config txPayload height) :
    entry.hotshotHeight = height := by
  unfold legacyParseNitroHotshotPayload at member
  repeat' split at member
  all_goals first | exact legacy_entries_height external _ _ height entry member | cases member

theorem parse_transaction_height (external : External) (config : NitroConfig) (txPayload : Bytes) (height : UInt64)
    (entry : NitroRollupQueueEntry) (member : entry ∈ parseTransaction external config txPayload height) : entry.hotshotHeight = height := by
  unfold parseTransaction at member
  split at member
  · obtain ⟨message, -, rfl⟩ := List.mem_map.mp member
    rfl
  · exact legacy_parse_height external config txPayload height entry member

def nitroRollup (external : External) (config : NitroConfig) : PositionalRollup Bytes NitroRollupQueueEntry BroadcastFeedMessage where
  parseHotshotTransactions := parseHotshotTransactions external config
  convertEntryToFeedMessage entry := entry.feedMessage
  parseBlock := nitroParseBlock external config
  parse_nil _ := rfl
  parse_cons _ _ _ := rfl
  parse_height block height entry member := by
    obtain ⟨txPayload, -, inside⟩ := List.mem_flatMap.mp member
    exact parse_transaction_height external config txPayload height entry inside

def ascii (text : String) : Bytes := text.toList.map fun char => UInt8.ofNat char.toNat

-- The JSON of a feed message with a zero header, as `serde_json` writes it. The feature renames the member of the signature.
def feedJson (nitroV399 : Bool) (sequenceNumber requestId baseFee l2Msg delayedMessagesRead signature blockMetadata : String) : Bytes :=
  ascii "\x7b\"sequenceNumber\":" ++ ascii sequenceNumber ++
    ascii ",\"message\":\x7b\"message\":\x7b\"header\":\x7b\"kind\":0,\"sender\":\"0x" ++ List.replicate 40 48 ++
    ascii "\",\"blockNumber\":0,\"timestamp\":0,\"requestId\":" ++ ascii requestId ++ ascii ",\"baseFeeL1\":" ++
    ascii baseFee ++ ascii "\x7d,\"l2Msg\":\"" ++ ascii l2Msg ++ ascii "\"\x7d,\"delayedMessagesRead\":" ++
    ascii delayedMessagesRead ++ ascii "\x7d,\"" ++ ascii (if nitroV399 then "signature" else "signatureV2") ++ ascii "\":\"" ++
    ascii signature ++ ascii "\",\"blockMetadata\":\"" ++ ascii blockMetadata ++ ascii "\"\x7d"

def upstreamJson : Bytes := feedJson false "12345" "\"0x0000000000000000000000000000000000000000000000000000000000000000\"" "0" "3q2+7w==" "3333"
  "k3fDEhRaWvuRG/nowGe89glMUzYDaHhQ31ArYSkLv14RZ/5oduFuS6OFeLl3PXZwrruSxiRABFecJaYEoYSUOBs=" "3q2+rw=="

def forgedJson : Bytes := feedJson false "12345" "null" "null" "AAAAAAAAAAAAAAAAAAAAAAAAAAAAAAAA3q2+7w==" "0"
  "k3fDEhRaWvuRG/nowGe89glMUzYDaHhQ31ArYSkLv14RZ/5oduFuS6OFeLl3PXZwrruSxiRABFecJaYEoYSUOBs=" "3q2+rwAAAAAAAA0F"

-- The message before the upstream one, signed by the same key.
def precedingFeedMessage : BroadcastFeedMessage :=
  { upstreamFeedMessage with
    sequenceNumber := 12344
    signature := BigEndian.encode 32 0x4dcefd784255412d621e854b784bd29b9001d1a62c842a6af3651e60d08eefd4 ++
      (BigEndian.encode 32 0x22cd0c03a48a260675cedb67bf55b7560ced96c45e02154a680846af16eb4837 ++ [27]) }

def precedingJson : Bytes := feedJson false "12344" "\"0x0000000000000000000000000000000000000000000000000000000000000000\"" "0" "3q2+7w==" "3333"
  "Tc79eEJVQS1iHoVLeEvSm5AB0aYshCpq82UeYNCO79QizQwDpIomBnXO22e/VbdWDO2WxF4CFUpoCEavFutINxs=" "3q2+rw=="

def precedingHash : B256 := b256 0xbb1c9bacb11580a061f5c9883408207309ae16b43e74287d90b50b482742d758

-- The codecs, the hash and the recovery on the bytes of these three messages.
def sequencerExternal : External :=
  { upstreamExternal with
    jsonHeader := fun bytes => if bytes = ascii "\"V1\"" then .ok .v1 else .error "expected value"
    jsonMessage := fun bytes =>
      if bytes = upstreamJson then .ok upstreamFeedMessage
      else if bytes = forgedJson then .ok forgedFeedMessage
      else if bytes = precedingJson then .ok precedingFeedMessage
      else .error "expected value"
    keccak256 := fun bytes =>
      if bytes = (signaturePreimage precedingFeedMessage 0xa4b1).toOption.getD [] then precedingHash else upstreamExternal.keccak256 bytes
    recoverAddressFromPrehash := fun hash r s parity =>
      if hash = precedingHash ∧ r = 0x4dcefd784255412d621e854b784bd29b9001d1a62c842a6af3651e60d08eefd4#256 ∧
        s = 0x22cd0c03a48a260675cedb67bf55b7560ced96c45e02154a680846af16eb4837#256 ∧ parity = false then some upstreamSigner
      else upstreamExternal.recoverAddressFromPrehash hash r s parity }

def sequencerRollup : PositionalRollup Bytes NitroRollupQueueEntry BroadcastFeedMessage :=
  nitroRollup sequencerExternal ⟨[], 0xa4b1, [upstreamSigner]⟩

-- The upstream message as the sequencer of a nitro-v3_9_9 chain signs it, and what the default build finds in it.
def defaultFeedMessage : BroadcastFeedMessage :=
  { upstreamFeedMessage with
    signature := BigEndian.encode 32 0x9a1fe8dc8d8e3624da0e41ff9b34fd6192c75acc0288afcbfb48a97b4025a0a0 ++
      (BigEndian.encode 32 0x3fc1bec918e92ff43a4b4158ba7ab31718c5621366a2d98bc2950efa7fdd1d24 ++ [28]) }

def defaultJson : Bytes := feedJson true "12345" "\"0x0000000000000000000000000000000000000000000000000000000000000000\"" "0" "3q2+7w==" "3333"
  "mh/o3I2ONiTaDkH/mzT9YZLHWswCiK/L+0ipe0AloKA/wb7JGOkv9DpLQVi6erMXGMViE2ai2YvClQ76f90dJBw=" "3q2+rw=="

def defaultHash : B256 := b256 0x6bccf040573bbb2ecfd39a804cdfc6149e7639165354b09fe52c56097166c4f2

def defaultExternal : External :=
  { sequencerExternal with
    nitroV399 := true
    jsonMessage := fun bytes => if bytes = defaultJson then .ok defaultFeedMessage else sequencerExternal.jsonMessage bytes
    keccak256 := fun bytes =>
      if bytes = (signaturePreimageV399 alloyRlp defaultFeedMessage 0xa4b1).toOption.getD [] then defaultHash
      else sequencerExternal.keccak256 bytes
    recoverAddressFromPrehash := fun hash r s parity =>
      if hash = defaultHash ∧ r = 0x9a1fe8dc8d8e3624da0e41ff9b34fd6192c75acc0288afcbfb48a97b4025a0a0#256 ∧
        s = 0x3fc1bec918e92ff43a4b4158ba7ab31718c5621366a2d98bc2950efa7fdd1d24#256 ∧ parity = true then some upstreamSigner
      else sequencerExternal.recoverAddressFromPrehash hash r s parity }

def defaultRollup : PositionalRollup Bytes NitroRollupQueueEntry BroadcastFeedMessage :=
  nitroRollup defaultExternal ⟨[], 0xa4b1, [upstreamSigner]⟩

def frame (bytes : Bytes) : Bytes := beBytes (UInt64.ofNat bytes.length) ++ bytes

def v1Payload (messages : List Bytes) : Bytes := frame (ascii "\"V1\"") ++ messages.flatMap frame

end Cas
