import Cas.Nitro.MessageRlp

set_option autoImplicit false

namespace Cas

-- What the parser and the verifier take from outside: the feature `nitro-v3_9_9`, which Cargo.toml turns on by default, the JSON and
-- RLP codecs, the hash, and public-key recovery.
structure External where
  nitroV399 : Bool
  rlp : AlloyRlp
  jsonHeader : Bytes → Except String NitroHeader
  jsonMessage : Bytes → Except String BroadcastFeedMessage
  rlpMessage : Bytes → Except String MessageWithMetadata
  keccak256 : Bytes → B256
  recoverAddressFromPrehash : B256 → U256 → U256 → Bool → Option Address
  debugAddress : Address → String

def secp256k1HalfOrder : U256 := 0x7FFFFFFFFFFFFFFFFFFFFFFFFFFFFFFF5D576E7357A4501DDFE92F46681B20A0#256

def u256FromBytes (bytes : Bytes) : U256 := BitVec.ofNat 256 (BigEndian.decode bytes)

def parityOf (byte : UInt8) : Option Bool :=
  if byte = 0 ∨ byte = 27 then some false else if byte = 1 ∨ byte = 28 then some true else none

def recoverSignerAddress (external : External) (messageHash : B256) (signature : Bytes) : Except String Address :=
  if signature.length ≠ 65 then .error "invalid signature length"
  else
    match parityOf (signature.getD 64 0) with
    | none => .error "invalid signature value"
    | some parity =>
        let r := u256FromBytes (signature.take 32)
        let s := u256FromBytes ((signature.drop 32).take 32)
        if r = 0 ∨ s = 0 then .error "invalid signature"
        else if secp256k1HalfOrder < s then .error "non-canonical high-S signature"
        else
          match external.recoverAddressFromPrehash messageHash r s parity with
          | none => .error "failed to recover signer"
          | some signer => .ok signer

structure Recovered (external : External) (messageHash : B256) (signature : Bytes) (signer : Address) (parity : Bool) : Prop where
  width : signature.length = 65
  flagged : parityOf (signature.getD 64 0) = some parity
  nonzero : u256FromBytes (signature.take 32) ≠ 0 ∧ u256FromBytes ((signature.drop 32).take 32) ≠ 0
  canonical : ¬ secp256k1HalfOrder < u256FromBytes ((signature.drop 32).take 32)
  recovers : external.recoverAddressFromPrehash messageHash (u256FromBytes (signature.take 32))
    (u256FromBytes ((signature.drop 32).take 32)) parity = some signer

theorem recover_signer_iff (external : External) (messageHash : B256) (signature : Bytes) (signer : Address) :
    recoverSignerAddress external messageHash signature = .ok signer ↔ ∃ parity, Recovered external messageHash signature signer parity := by
  constructor
  · intro accepted
    simp only [recoverSignerAddress] at accepted
    split at accepted
    · cases accepted
    · rename_i width
      split at accepted
      · cases accepted
      · rename_i parity known
        split at accepted
        · cases accepted
        · rename_i nonzero
          split at accepted
          · cases accepted
          · rename_i low
            split at accepted
            · cases accepted
            · rename_i recovered found
              obtain rfl := Except.ok.inj accepted
              exact ⟨parity, not_not.mp width, known, not_or.mp nonzero, low, found⟩
  · intro given
    obtain ⟨parity, width, known, nonzero, canonical, recovers⟩ := given
    simp only [recoverSignerAddress, width, ne_eq, not_true_eq_false, if_false, known, if_neg (not_or.mpr nonzero),
      if_neg canonical, recovers]

def feedTag : Bytes := "Arbitrum Nitro Feed:".toList.map fun char => UInt8.ofNat char.toNat

def optionalBytes (value : Option B256) : Bytes := match value with
  | none => []
  | some bytes => bytes.toList

def baseFeeBytes (fee : Option U256) : Bytes := match fee with
  | none => []
  | some fee => BigEndian.trim (BigEndian.encode 32 fee.toNat)

-- The bytes given to Keccak by the builds other than nitro-v3_9_9, in order.
def signaturePreimage (msg : BroadcastFeedMessage) (chainId : UInt64) : Except String Bytes :=
  match msg.message.message with
  | none => .error "BroadcastFeedMessage missing L1IncomingMessage"
  | some l1Msg =>
      match l1Msg.header with
      | none => .error "BroadcastFeedMessage missing L1IncomingMessageHeader"
      | some header => .ok (feedTag ++ (beBytes chainId ++ (beBytes msg.sequenceNumber ++
          (optionalBytes msg.blockHash ++ (msg.blockMetadata ++ (beBytes msg.message.delayedMessagesRead ++
          ([header.kind] ++ (header.poster.toList ++ (beBytes header.blockNumber ++ (beBytes header.timestamp ++
          (optionalBytes header.requestId ++ (baseFeeBytes header.l1BaseFee ++ l1Msg.l2msg))))))))))))

-- The bytes given to Keccak by the nitro-v3_9_9 build, in order.
def signaturePreimageV399 (rlp : AlloyRlp) (msg : BroadcastFeedMessage) (chainId : UInt64) : Except String Bytes :=
  match msg.message.message with
  | none => .error "BroadcastFeedMessage missing L1IncomingMessage"
  | some l1Msg => .ok (feedTag ++ (beBytes msg.sequenceNumber ++ (beBytes chainId ++ (beBytes msg.message.delayedMessagesRead ++
      l1Msg.encode rlp))))

-- The feature decides which of the two functions of this name is compiled.
def signatureHash (external : External) (msg : BroadcastFeedMessage) (chainId : UInt64) : Except String B256 :=
  if external.nitroV399 then (signaturePreimageV399 external.rlp msg chainId).map external.keccak256
  else (signaturePreimage msg chainId).map external.keccak256

def verifyBroadcastFeedMessageSignature (external : External) : FeedMessageVerifier := fun chainId sequencerAddresses msg =>
  match signatureHash external msg chainId with
  | .error reason => .error reason
  | .ok hash =>
      match recoverSignerAddress external hash msg.signature with
      | .error reason => .error reason
      | .ok signer =>
          if sequencerAddresses.contains signer then .ok () else .error s!"signer is not valid: {external.debugAddress signer}"

-- What a signature is meant to fix. An absent base fee counts as zero.
structure SignedEnvelope where
  blockHash : Option B256
  blockMetadata : Bytes
  delayedMessagesRead : UInt64
  kind : UInt8
  poster : Address
  blockNumber : UInt64
  timestamp : UInt64
deriving DecidableEq, Repr

structure SignedBody where
  requestId : Option B256
  l1BaseFee : U256
  l2msg : Bytes
deriving DecidableEq, Repr

structure SignedFields where
  sequenceNumber : UInt64
  envelope : SignedEnvelope
  body : SignedBody
deriving DecidableEq, Repr

def signedFields (msg : BroadcastFeedMessage) : Option SignedFields :=
  match msg.message.message with
  | none => none
  | some l1Msg =>
      match l1Msg.header with
      | none => none
      | some header => some
          { sequenceNumber := msg.sequenceNumber
            envelope := ⟨msg.blockHash, msg.blockMetadata, msg.message.delayedMessagesRead, header.kind, header.poster,
              header.blockNumber, header.timestamp⟩
            body := ⟨header.requestId, header.l1BaseFee.getD 0, l1Msg.l2msg⟩ }

def SignedBody.bytes (body : SignedBody) : Bytes :=
  optionalBytes body.requestId ++ (baseFeeBytes (some body.l1BaseFee) ++ body.l2msg)

def SignedEnvelope.bytes (envelope : SignedEnvelope) (rest : Bytes) : Bytes :=
  optionalBytes envelope.blockHash ++ (envelope.blockMetadata ++ (beBytes envelope.delayedMessagesRead ++
    ([envelope.kind] ++ (envelope.poster.toList ++ (beBytes envelope.blockNumber ++ (beBytes envelope.timestamp ++ rest))))))

def SignedFields.preimage (fields : SignedFields) (chainId : UInt64) : Bytes :=
  feedTag ++ (beBytes chainId ++ (beBytes fields.sequenceNumber ++ fields.envelope.bytes fields.body.bytes))

-- The preimage records neither which optional hashes are present nor how long
-- the two fields of variable length before the message are.
def SignedEnvelope.shape (envelope : SignedEnvelope) : Bool × Nat := (envelope.blockHash.isSome, envelope.blockMetadata.length)

def SignedBody.shape (body : SignedBody) : Bool × Nat := (body.requestId.isSome, (baseFeeBytes (some body.l1BaseFee)).length)

def SignedFields.SameShape (fields other : SignedFields) : Prop :=
  fields.envelope.shape = other.envelope.shape ∧ fields.body.shape = other.body.shape

theorem base_fee_default (fee : Option U256) : baseFeeBytes (some (fee.getD 0)) = baseFeeBytes fee := by
  cases fee with
  | none => decide +kernel
  | some value => rfl

theorem signature_preimage_fields (msg : BroadcastFeedMessage) (chainId : UInt64) (fields : SignedFields)
    (present : signedFields msg = some fields) : signaturePreimage msg chainId = .ok (fields.preimage chainId) := by
  unfold signedFields at present
  unfold signaturePreimage
  cases l1Msg : msg.message.message with
  | none => simp [l1Msg] at present
  | some incoming =>
      cases header : incoming.header with
      | none => simp [l1Msg, header] at present
      | some fixed =>
          simp only [l1Msg, header, Option.some.injEq] at present
          subst fields
          simp only [header, SignedFields.preimage, SignedEnvelope.bytes, SignedBody.bytes, base_fee_default]

theorem optional_bytes_split (a b : Option B256) (left right : Bytes) (present : a.isSome = b.isSome)
    (same : optionalBytes a ++ left = optionalBytes b ++ right) : a = b ∧ left = right := by
  cases a with
  | none =>
      cases b with
      | none => exact ⟨rfl, same⟩
      | some second => cases present
  | some first =>
      cases b with
      | none => cases present
      | some second =>
          obtain ⟨head, tail⟩ := List.append_inj same (by simp [optionalBytes])
          exact ⟨congrArg some (Vector.toList_inj.mp head), tail⟩

theorem base_fee_injective (a b : U256) (same : baseFeeBytes (some a) = baseFeeBytes (some b)) : a = b := by
  apply BitVec.eq_of_toNat_eq
  exact BigEndian.trim_encode_injective 32 a.toNat b.toNat a.isLt b.isLt same

theorem signed_body_injective (body other : SignedBody) (shape : body.shape = other.shape) (same : body.bytes = other.bytes) :
    body = other := by
  obtain ⟨request, feeLength⟩ := Prod.mk.inj shape
  obtain ⟨requestEq, rest⟩ := optional_bytes_split _ _ _ _ request same
  obtain ⟨fee, message⟩ := List.append_inj rest feeLength
  have feeEq := base_fee_injective _ _ fee
  cases body
  cases other
  simp_all only

theorem signed_envelope_injective (envelope other : SignedEnvelope) (rest otherRest : Bytes) (shape : envelope.shape = other.shape)
    (same : envelope.bytes rest = other.bytes otherRest) : envelope = other ∧ rest = otherRest := by
  obtain ⟨hashed, metadataLength⟩ := Prod.mk.inj shape
  obtain ⟨hashEq, afterHash⟩ := optional_bytes_split _ _ _ _ hashed same
  obtain ⟨metadataEq, afterMetadata⟩ := List.append_inj afterHash metadataLength
  obtain ⟨delayedEq, afterDelayed⟩ := be_bytes_split _ _ _ _ afterMetadata
  obtain ⟨kindEq, afterKind⟩ := List.append_inj afterDelayed rfl
  obtain ⟨posterEq, afterPoster⟩ := List.append_inj afterKind (by simp)
  obtain ⟨numberEq, afterNumber⟩ := be_bytes_split _ _ _ _ afterPoster
  obtain ⟨timestampEq, restEq⟩ := be_bytes_split _ _ _ _ afterNumber
  have kind := List.head_eq_of_cons_eq kindEq
  have poster := Vector.toList_inj.mp posterEq
  refine ⟨?_, restEq⟩
  cases envelope
  cases other
  simp_all only

theorem signed_preimage_split (fields other : SignedFields) (chainId : UInt64)
    (same : fields.preimage chainId = other.preimage chainId) :
    fields.sequenceNumber = other.sequenceNumber ∧ fields.envelope.bytes fields.body.bytes = other.envelope.bytes other.body.bytes := by
  have afterTag := List.append_cancel_left same
  exact be_bytes_split _ _ _ _ (List.append_cancel_left afterTag)

theorem signed_fields_injective (fields other : SignedFields) (chainId : UInt64) (shape : fields.SameShape other)
    (same : fields.preimage chainId = other.preimage chainId) : fields = other := by
  obtain ⟨numberEq, rest⟩ := signed_preimage_split fields other chainId same
  obtain ⟨envelopeEq, bodyBytes⟩ := signed_envelope_injective _ _ _ _ shape.1 rest
  have bodyEq := signed_body_injective _ _ shape.2 bodyBytes
  cases fields
  cases other
  simp_all only

theorem verified_hash (external : External) (chainId : UInt64) (trusted : List Address) (msg : BroadcastFeedMessage) (fields : SignedFields)
    (built : external.nitroV399 = false) (present : signedFields msg = some fields)
    (verified : verifyBroadcastFeedMessageSignature external chainId trusted msg = .ok ()) :
    ∃ signer ∈ trusted, recoverSignerAddress external (external.keccak256 (fields.preimage chainId)) msg.signature = .ok signer := by
  simp only [verifyBroadcastFeedMessageSignature, signatureHash, built, Bool.false_eq_true, if_false,
    signature_preimage_fields msg chainId fields present, Except.map] at verified
  cases recovered : recoverSignerAddress external (external.keccak256 (fields.preimage chainId)) msg.signature with
  | error reason => simp [recovered] at verified
  | ok signer =>
      by_cases known : trusted.contains signer = true
      · exact ⟨signer, List.contains_iff_mem.mp known, rfl⟩
      · simp only [recovered, if_neg known] at verified
        cases verified

/-- What a feed signature binds. The sequence number is always bound; every other field is bound between messages of the
same shape, and only between those. -/
theorem feed_signature_binding (external : External) (chainId : UInt64) (trusted : List Address) (msg other : BroadcastFeedMessage)
    (fields otherFields : SignedFields) (present : signedFields msg = some fields) (otherPresent : signedFields other = some otherFields) :
    (signaturePreimage msg chainId = signaturePreimage other chainId →
      fields.sequenceNumber = otherFields.sequenceNumber ∧
      (fields.envelope.shape = otherFields.envelope.shape → fields.envelope = otherFields.envelope) ∧
      (fields = otherFields ↔ fields.SameShape otherFields)) ∧
    (external.nitroV399 = false →
      (external.keccak256 (fields.preimage chainId) = external.keccak256 (otherFields.preimage chainId) →
        fields.preimage chainId = otherFields.preimage chainId) →
      (∀ hash, ∀ signer ∈ trusted, recoverSignerAddress external hash msg.signature = .ok signer →
        hash = external.keccak256 (fields.preimage chainId)) →
      other.signature = msg.signature → verifyBroadcastFeedMessageSignature external chainId trusted other = .ok () →
      fields.SameShape otherFields → fields = otherFields) := by
  refine ⟨fun same => ?_, fun built collisionFree unforged signature verified shape => ?_⟩
  · rw [signature_preimage_fields msg chainId fields present, signature_preimage_fields other chainId otherFields otherPresent] at same
    have bytes := Except.ok.inj same
    obtain ⟨numberEq, rest⟩ := signed_preimage_split fields otherFields chainId bytes
    refine ⟨numberEq, fun shape => (signed_envelope_injective _ _ _ _ shape rest).1, ?_, ?_⟩
    · intro equal
      rw [equal]
      exact ⟨rfl, rfl⟩
    · intro shape
      exact signed_fields_injective fields otherFields chainId shape bytes
  · obtain ⟨signer, member, recovered⟩ := verified_hash external chainId trusted other otherFields built otherPresent verified
    rw [signature] at recovered
    have hash := unforged _ signer member recovered
    exact signed_fields_injective fields otherFields chainId shape (collisionFree hash.symm)

-- The upstream test message of the source, signed by the key of 32 one bytes.
def upstreamFeedMessage : BroadcastFeedMessage :=
  { sequenceNumber := 12345
    message := ⟨some ⟨some ⟨0, .replicate 20 0, 0, 0, some (b256 0), some 0⟩, [0xde, 0xad, 0xbe, 0xef], none, none⟩, 3333⟩
    signature := BigEndian.encode 32 0x9377c312145a5afb911bf9e8c067bcf6094c533603687850df502b61290bbf5e ++
      (BigEndian.encode 32 0x1167fe6876e16e4ba38578b9773d7670aebb92c6244004579c25a604a1849438 ++ [27])
    blockMetadata := [0xde, 0xad, 0xbe, 0xaf]
    cumulativeSumMsgSize := 0
    blockHash := none }

def upstreamSigner : Address :=
  ⟨(BigEndian.encode 20 0x1a642f0e3c3af545e7acbd38b07251b3990914f1).toArray, by simp [BigEndian.length_encode]⟩

def upstreamHash : B256 := b256 0x3d79853de5f9e4354e5d6c6d4cad19dcd969f9646f0cab21e5bdfee4902dfa2e

-- The hash and the recovery at the one point where they are needed.
def upstreamExternal : External where
  nitroV399 := false
  rlp := alloyRlp
  jsonHeader _ := .error ""
  jsonMessage _ := .error ""
  rlpMessage _ := .error ""
  keccak256 bytes := if bytes = (signaturePreimage upstreamFeedMessage 0xa4b1).toOption.getD [] then upstreamHash else b256 0
  recoverAddressFromPrehash hash r s parity :=
    if hash = upstreamHash ∧ r = 0x9377c312145a5afb911bf9e8c067bcf6094c533603687850df502b61290bbf5e#256 ∧
      s = 0x1167fe6876e16e4ba38578b9773d7670aebb92c6244004579c25a604a1849438#256 ∧ parity = false then some upstreamSigner else none
  debugAddress _ := ""

theorem upstream_recovers_one_hash (hash : B256) (signature : Bytes) (signer : Address)
    (recovered : recoverSignerAddress upstreamExternal hash signature = .ok signer) : hash = upstreamHash := by
  obtain ⟨parity, found⟩ := (recover_signer_iff upstreamExternal hash signature signer).mp recovered
  by_contra different
  have refused : upstreamExternal.recoverAddressFromPrehash hash (u256FromBytes (signature.take 32))
      (u256FromBytes ((signature.drop 32).take 32)) parity = none := if_neg fun both => different both.1
  rw [found.recovers] at refused
  cases refused

-- The relay rewrites the size counter, which is not signed.
def relayedFeedMessage : BroadcastFeedMessage := { upstreamFeedMessage with cumulativeSumMsgSize := 9 }

theorem relayed_feed_message_bound :
    verifyBroadcastFeedMessageSignature upstreamExternal 0xa4b1 [upstreamSigner] relayedFeedMessage = .ok () ∧
      signedFields upstreamFeedMessage = signedFields relayedFeedMessage := by
  have verified : verifyBroadcastFeedMessageSignature upstreamExternal 0xa4b1 [upstreamSigner] relayedFeedMessage = .ok () := by
    decide +kernel
  have hashed : ∀ fields, signedFields upstreamFeedMessage = some fields →
      upstreamExternal.keccak256 (fields.preimage 0xa4b1) = upstreamHash := by
    intro fields present
    have bytes := signature_preimage_fields upstreamFeedMessage 0xa4b1 fields present
    simp only [upstreamExternal, bytes, Except.toOption, Option.getD_some, if_true]
  cases present : signedFields upstreamFeedMessage with
  | none => cases present
  | some fields =>
      cases otherPresent : signedFields relayedFeedMessage with
      | none => cases otherPresent
      | some otherFields =>
          have same : fields = otherFields := Option.some.inj (present.symm.trans otherPresent)
          have binding := (feed_signature_binding upstreamExternal 0xa4b1 [upstreamSigner] upstreamFeedMessage relayedFeedMessage
            fields otherFields present otherPresent).2 rfl (fun _ => by rw [same])
            (fun hash signer _ recovered => (upstream_recovers_one_hash hash _ signer recovered).trans (hashed fields present).symm)
            rfl verified (by rw [same]; exact ⟨rfl, rfl⟩)
          exact ⟨verified, congrArg some binding⟩

-- The same bytes under the same signature, read as another message: the
-- metadata takes in the delayed count and the message takes in part of the request id.
def forgedFeedMessage : BroadcastFeedMessage :=
  { upstreamFeedMessage with
    message := ⟨some ⟨some ⟨0, .replicate 20 0, 0, 0, none, none⟩, .replicate 24 0 ++ [0xde, 0xad, 0xbe, 0xef], none, none⟩, 0⟩
    blockMetadata := [0xde, 0xad, 0xbe, 0xaf, 0, 0, 0, 0, 0, 0, 0x0d, 0x05] }

theorem forged_feed_message_verifies :
    signaturePreimage upstreamFeedMessage 0xa4b1 = signaturePreimage forgedFeedMessage 0xa4b1 ∧
      verifyBroadcastFeedMessageSignature upstreamExternal 0xa4b1 [upstreamSigner] upstreamFeedMessage = .ok () ∧
      verifyBroadcastFeedMessageSignature upstreamExternal 0xa4b1 [upstreamSigner] forgedFeedMessage = .ok () ∧
      upstreamFeedMessage.signature = forgedFeedMessage.signature ∧
      upstreamFeedMessage.message.delayedMessagesRead ≠ forgedFeedMessage.message.delayedMessagesRead ∧
      upstreamFeedMessage.message.message.map L1IncomingMessage.l2msg ≠ forgedFeedMessage.message.message.map L1IncomingMessage.l2msg := by
  decide +kernel

/-- What a signature of the nitro-v3_9_9 build binds: everything that is hashed, up to a zero number and an absent one. -/
theorem v399_signature_binding (rlp : AlloyRlp) (msg other : BroadcastFeedMessage) (chainId otherChainId : UInt64)
    (l1Msg otherL1Msg : L1IncomingMessage)
    (present : msg.message.message = some l1Msg) (otherPresent : other.message.message = some otherL1Msg)
    (fits : l1Msg.l2msg.length < 2 ^ 63) (otherFits : otherL1Msg.l2msg.length < 2 ^ 63)
    (same : signaturePreimageV399 rlp msg chainId = signaturePreimageV399 rlp other otherChainId) :
    chainId = otherChainId ∧ msg.sequenceNumber = other.sequenceNumber ∧
    msg.message.delayedMessagesRead = other.message.delayedMessagesRead ∧ l1Msg.normalized = otherL1Msg.normalized := by
  simp only [signaturePreimageV399, present, otherPresent] at same
  have bytes := List.append_cancel_left (Except.ok.inj same)
  obtain ⟨sequenceNumber, bytes⟩ := be_bytes_split _ _ _ _ bytes
  obtain ⟨chain, bytes⟩ := be_bytes_split _ _ _ _ bytes
  obtain ⟨delayed, bytes⟩ := be_bytes_split _ _ _ _ bytes
  exact ⟨chain, sequenceNumber, delayed, message_encode_injective rlp l1Msg otherL1Msg fits otherFits bytes⟩

def feelessFeedMessage : BroadcastFeedMessage :=
  { upstreamFeedMessage with
    message := ⟨some ⟨some ⟨0, .replicate 20 0, 0, 0, some (b256 0), none⟩, [0xde, 0xad, 0xbe, 0xef], none, none⟩, 3333⟩ }

theorem v399_signature_binding_feeless :
    (0xa4b1 : UInt64) = 0xa4b1 ∧ upstreamFeedMessage.sequenceNumber = feelessFeedMessage.sequenceNumber ∧
    upstreamFeedMessage.message.delayedMessagesRead = feelessFeedMessage.message.delayedMessagesRead ∧
    upstreamL1Message.normalized = (⟨some ⟨0, .replicate 20 0, 0, 0, some (b256 0), none⟩, [0xde, 0xad, 0xbe, 0xef], none, none⟩ :
      L1IncomingMessage).normalized :=
  v399_signature_binding alloyRlp upstreamFeedMessage feelessFeedMessage 0xa4b1 0xa4b1 upstreamL1Message _ rfl rfl (by decide) (by decide)
    (by decide +kernel)

end Cas
