import Cas.Nitro.Authenticity
import Cas.Nitro.MessageRlp

set_option autoImplicit false

namespace Cas

def jsonWhitespace : Bytes := [0x20, 0x09, 0x0a, 0x0d]

def jsonValueEnd : Bytes := ascii "\"\x7d]0123456789el"

-- What is relied on of the JSON reader: trailing bytes are refused.
def RejectsTrailing (external : External) : Prop :=
  ∀ header last, header.getLast? = some last → last ∉ jsonWhitespace → last ∉ jsonValueEnd →
    ∃ reason, external.jsonHeader header = .error reason

theorem parity_of_some (byte : UInt8) (parity : Bool) (known : parityOf byte = some parity) : byte ∈ ([0, 27, 1, 28] : Bytes) := by
  by_contra other
  simp only [List.mem_cons, List.not_mem_nil, or_false, not_or] at other
  obtain ⟨zero, twentySeven, one, twentyEight⟩ := other
  simp [parityOf, zero, twentySeven, one, twentyEight] at known

theorem recover_signer_last (external : External) (hash : B256) (signature : Bytes) (signer : Address)
    (recovered : recoverSignerAddress external hash signature = .ok signer) :
    ∃ last ∈ ([0, 27, 1, 28] : Bytes), signature.getLast? = some last := by
  obtain ⟨parity, found⟩ := (recover_signer_iff external hash signature signer).mp recovered
  refine ⟨signature.getD 64 0, parity_of_some _ parity found.flagged, ?_⟩
  have inside : 64 < signature.length := by
    rw [found.width]
    omega
  rw [List.getLast?_eq_getElem?, found.width, List.getD_eq_getElem?_getD, List.getElem?_eq_getElem inside]
  rfl

-- A parity byte is a control character, and JSON ends with none.
theorem signature_not_json (external : External) (rejects : RejectsTrailing external) (hash : B256) (signature : Bytes) (signer : Address)
    (recovered : recoverSignerAddress external hash signature = .ok signer) : ∃ reason, external.jsonHeader signature = .error reason := by
  obtain ⟨last, parity, ends⟩ := recover_signer_last external hash signature signer recovered
  have foreign : ∀ byte ∈ ([0, 27, 1, 28] : Bytes), byte ∉ jsonWhitespace ∧ byte ∉ jsonValueEnd := by decide +kernel
  exact rejects signature last ends (foreign last parity).1 (foreign last parity).2

theorem parse_nitro_payload_header_error (external : External) (config : NitroConfig) (verifySignature : FeedMessageVerifier)
    (headerLen : UInt64) (header rest : Bytes) (reason : String) (width : header.length = headerLen.toNat)
    (refused : external.jsonHeader header = .error reason) :
    parseNitroHotshotPayload external config (beBytes headerLen ++ (header ++ rest)) verifySignature =
      .error s!"failed to parse nitro hotshot header: {reason}" := by
  have size : lenSize = (beBytes headerLen).length := (length_be_bytes headerLen).symm
  have long : ¬ (beBytes headerLen ++ (header ++ rest)).length < lenSize := by
    rw [List.length_append, ← size]
    omega
  have whole : ¬ (header ++ rest).length < headerLen.toNat := by
    rw [List.length_append, width]
    omega
  rw [size] at long
  simp only [parseNitroHotshotPayload, size, if_neg long, List.take_left, List.drop_left, from_be_bytes_be_bytes, if_neg whole]
  rw [← width, List.take_left, refused]

/-- A payload with an authenticated legacy entry is no V1 payload, so that trying V1 first leaves its entries as they are. -/
theorem legacy_payload_not_v1 (external : External) (rejects : RejectsTrailing external) (config : NitroConfig) (txPayload : Bytes)
    (hotshotHeight : UInt64) (yields : legacyParseNitroHotshotPayload external config txPayload hotshotHeight ≠ []) :
    (∀ verifySignature, ∃ reason, parseNitroHotshotPayload external config txPayload verifySignature = .error reason) ∧
      parseTransaction external config txPayload hotshotHeight =
        legacyParseNitroHotshotPayload external config txPayload hotshotHeight := by
  obtain ⟨entry, member⟩ := List.exists_mem_of_ne_nil _ yields
  have height := legacy_parse_height external config txPayload hotshotHeight entry member
  rw [← height] at member
  obtain ⟨signature, frames, signer, _, _, layout, width, recovered, _⟩ := (legacy_parse_signed external config txPayload entry member).signed
  -- Both formats take the same first blob: the signature is where V1 looks for its header.
  obtain ⟨reason, refused⟩ := signature_not_json external rejects _ signature signer recovered
  have v1 : ∀ verifySignature, parseNitroHotshotPayload external config txPayload verifySignature =
      .error s!"failed to parse nitro hotshot header: {reason}" := by
    intro verifySignature
    rw [layout]
    exact parse_nitro_payload_header_error external config verifySignature 65 signature frames reason width refused
  refine ⟨fun verifySignature => ⟨_, v1 verifySignature⟩, ?_⟩
  rw [parseTransaction, v1]

structure LegacyMessage where
  index : UInt64
  message : L1IncomingMessage
  delayedMessagesRead : UInt64
deriving DecidableEq

def LegacyMessage.bytes (rlp : AlloyRlp) (written : LegacyMessage) : Bytes :=
  rlp.items.encodeList [written.message.encode rlp, rlp.u64.encode written.delayedMessagesRead]

def LegacyMessage.entry (hotshotHeight : UInt64) (written : LegacyMessage) : NitroRollupQueueEntry :=
  ⟨⟨written.index, ⟨some written.message.normalized, written.delayedMessagesRead⟩, [], [], 0, none⟩, hotshotHeight⟩

-- The upstream message in a legacy payload signed by the same key.
def upstreamLegacyMessage : LegacyMessage := ⟨12345, upstreamL1Message, 3333⟩

def legacyFrames : Bytes := beBytes upstreamLegacyMessage.index ++ frame (upstreamLegacyMessage.bytes alloyRlp)

def legacySignature : Bytes :=
  BigEndian.encode 32 0x52da39db615be76e0ed57e57c39c53ad1d99a33b0752a36f01ca554e53de2aa6 ++
    (BigEndian.encode 32 0x27f213f7f4736e93cb89633ecfc993ecc72bed27cd53ba727dffb86efc55a36b ++ [0])

def legacyHash : B256 := b256 0xf7c8ad25a1b4bd1237b13c560e06db3788752795d59a302a923aa86701861f09

def legacyExternal : External :=
  { sequencerExternal with
    rlpMessage := decodeLegacyMessage alloyRlp fun _ => "unexpected length"
    keccak256 := fun bytes => if bytes = legacyFrames then legacyHash else sequencerExternal.keccak256 bytes
    recoverAddressFromPrehash := fun hash r s parity =>
      if hash = legacyHash ∧ r = 0x52da39db615be76e0ed57e57c39c53ad1d99a33b0752a36f01ca554e53de2aa6#256 ∧
        s = 0x27f213f7f4736e93cb89633ecfc993ecc72bed27cd53ba727dffb86efc55a36b#256 ∧ parity = false then some upstreamSigner
      else sequencerExternal.recoverAddressFromPrehash hash r s parity }

theorem legacy_external_rejects : RejectsTrailing legacyExternal := by
  intro header last ends _ foreign
  refine ⟨"expected value", if_neg ?_⟩
  intro v1
  rw [v1] at ends
  obtain rfl := Option.some.inj ends
  exact foreign (by decide)

theorem legacy_payload_not_v1_upstream :
    parseTransaction legacyExternal ⟨[upstreamSigner], 0xa4b1, []⟩ (frame legacySignature ++ legacyFrames) 7 =
      [upstreamLegacyMessage.entry 7] := by
  have entries : legacyParseNitroHotshotPayload legacyExternal ⟨[upstreamSigner], 0xa4b1, []⟩ (frame legacySignature ++ legacyFrames) 7 =
      [upstreamLegacyMessage.entry 7] := by
    decide +kernel
  have unread := legacy_payload_not_v1 legacyExternal legacy_external_rejects ⟨[upstreamSigner], 0xa4b1, []⟩
    (frame legacySignature ++ legacyFrames) 7 (by rw [entries]; exact List.cons_ne_nil _ _)
  exact unread.2.trans entries

end Cas
