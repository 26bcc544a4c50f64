import Cas.Nitro.Signature

set_option autoImplicit false

namespace Cas

def messagePosSize : Nat := 8
def hotshotBlockSize : Nat := 8
def afterDelayedSize : Nat := 8
def casSigSize : Nat := 65
def certHeaderSizeV0 : Nat := 32
def contextFieldsSize : Nat := messagePosSize + messagePosSize + hotshotBlockSize + afterDelayedSize + hotshotBlockSize
def espressoCertSize : Nat := certHeaderSizeV0 + contextFieldsSize + casSigSize

inductive DaApiError where
  | certificateSerializationFailed (reason : String)
  | invalidParams (reason : String)
  | certificateValidation (reason : String)
  | invalidHeaderByte (byte : UInt8)
  | invalidCertificateLength (length : Nat)
  | invalidSequencerMessageLength (minimum length : Nat)
  | channelError (reason : String)
  | invalidCasSignature
  | decoderError (reason : String)
  | downstreamDa (reason : String)
  | signing (reason : String)
  | serialization (reason : String)
  | configuration (reason : String)
  | parsingError (reason : String)
  | dynamicBatchingResize
  | fallbackRequested (reason : String)
deriving DecidableEq, Repr

inductive CASCertificateVersion where
  | v0
deriving DecidableEq, Repr

def CASCertificateVersion.byte : CASCertificateVersion → UInt8
  | .v0 => 0x70

def CASCertificateVersion.tryFrom (value : UInt8) : Except DaApiError CASCertificateVersion :=
  if value = 0x70 then .ok .v0 else .error (.serialization s!"unknown version: {value}")

def CASCertificateVersion.headerSize : CASCertificateVersion → Nat
  | .v0 => certHeaderSizeV0

structure CasCertificate where
  header : Bytes
  startMessagePos : UInt64
  endMessagePos : UInt64
  startHotshotBlock : UInt64
  afterDelayedMessagesRead : UInt64
  minHotshotBlockStillInStreamerQueue : UInt64
  casSignature : Vector UInt8 65
  downstreamCertificate : Bytes
deriving DecidableEq, Repr

structure Decoder where
  data : Bytes
  position : Nat
deriving DecidableEq, Repr

def Decoder.new (data : Bytes) : Decoder := ⟨data, 0⟩

def Decoder.remaining (dec : Decoder) : Nat := dec.data.length - dec.position

def Decoder.readBytes (dec : Decoder) (len : Nat) : Except DaApiError (Bytes × Decoder) :=
  if dec.remaining < len then .error (.invalidCertificateLength dec.data.length)
  else .ok ((dec.data.drop dec.position).take len, { dec with position := dec.position + len })

def Decoder.readU64 (dec : Decoder) : Except DaApiError (UInt64 × Decoder) := do
  let (bytes, next) ← dec.readBytes 8
  if bytes.length = 8 then return (fromBeBytes bytes, next)
  else throw (.decoderError "Invalid u64:could not convert slice to array")

def Decoder.readFixed (dec : Decoder) (size : Nat) : Except DaApiError (Vector UInt8 size × Decoder) := do
  let (bytes, next) ← dec.readBytes size
  if exact' : bytes.length = size then return (⟨bytes.toArray, by simpa using exact'⟩, next)
  else throw (.decoderError "Invalid fixed:could not convert slice to array")

def Decoder.readRest (dec : Decoder) : Bytes × Decoder := (dec.data.drop dec.position, { dec with position := dec.data.length })

def CasCertificate.certificateMinimumSize (headerSize : Nat) : Nat := headerSize + hotshotBlockSize + casSigSize

def CasCertificate.wire (cert : CasCertificate) : Bytes :=
  cert.header ++ (beBytes cert.startMessagePos ++ (beBytes cert.endMessagePos ++ (beBytes cert.startHotshotBlock ++
    (beBytes cert.afterDelayedMessagesRead ++ (beBytes cert.minHotshotBlockStillInStreamerQueue ++
      (cert.casSignature.toList ++ cert.downstreamCertificate))))))

def CasCertificate.toBytes (cert : CasCertificate) : Except DaApiError Bytes :=
  match cert.header with
  | [] => .error (.certificateSerializationFailed "empty header")
  | casVersion :: _ =>
      if casVersion = CASCertificateVersion.v0.byte then
        if cert.header.length = certHeaderSizeV0 then .ok cert.wire
        else .error (.certificateSerializationFailed
          s!"invalid header length, expected: {certHeaderSizeV0}, got: {cert.header.length}")
      else .error (.certificateSerializationFailed
        s!"invalid header version, expected: {CASCertificateVersion.v0.byte}, got: {casVersion}")

def CasCertificate.decodeFields (headerSize : Nat) (dec : Decoder) : Except DaApiError CasCertificate := do
  let (header, dec) ← dec.readBytes headerSize
  let (startMessagePos, dec) ← dec.readU64
  let (endMessagePos, dec) ← dec.readU64
  let (startHotshotBlock, dec) ← dec.readU64
  let (afterDelayedMessagesRead, dec) ← dec.readU64
  let (minHotshotBlockStillInStreamerQueue, dec) ← dec.readU64
  let (casSignature, dec) ← dec.readFixed 65
  let (downstreamCertificate, _) := dec.readRest
  return ⟨header, startMessagePos, endMessagePos, startHotshotBlock, afterDelayedMessagesRead,
    minHotshotBlockStillInStreamerQueue, casSignature, downstreamCertificate⟩

def CasCertificate.fromBytes (data : Bytes) : Except DaApiError CasCertificate :=
  match data with
  | [] => .error (.invalidCertificateLength 0)
  | first :: _ => do
      let version ← CASCertificateVersion.tryFrom first
      if data.length < certificateMinimumSize version.headerSize then throw (.invalidCertificateLength data.length)
      decodeFields version.headerSize (Decoder.new data)

theorem ok_bind {α β : Type} (value : α) (next : α → Except DaApiError β) : (Except.ok value >>= next) = next value := rfl

theorem bind_ok {α β : Type} {first : Except DaApiError α} {next : α → Except DaApiError β} {result : β}
    (bound : first >>= next = .ok result) : ∃ value, first = .ok value ∧ next value = .ok result := by
  cases first with
  | error reason => cases bound
  | ok value => exact ⟨value, rfl, bound⟩

def Decoder.between (front rest : Bytes) : Decoder := ⟨front ++ rest, front.length⟩

theorem read_bytes_between (front bytes rest : Bytes) (len : Nat) (size : bytes.length = len) :
    (Decoder.between front (bytes ++ rest)).readBytes len = .ok (bytes, .between (front ++ bytes) rest) := by
  subst size
  have enough : ¬(Decoder.between front (bytes ++ rest)).remaining < bytes.length := by
    simp [Decoder.remaining, Decoder.between]
  rw [Decoder.readBytes, if_neg enough]
  simp [Decoder.between]

theorem read_u64_between (front rest : Bytes) (value : UInt64) :
    (Decoder.between front (beBytes value ++ rest)).readU64 = .ok (value, .between (front ++ beBytes value) rest) := by
  rw [Decoder.readU64, read_bytes_between front (beBytes value) rest 8 (length_be_bytes value), ok_bind]
  simp only [if_pos (length_be_bytes value), from_be_bytes_be_bytes]
  rfl

theorem read_fixed_between (front rest : Bytes) (size : Nat) (value : Vector UInt8 size) :
    (Decoder.between front (value.toList ++ rest)).readFixed size = .ok (value, .between (front ++ value.toList) rest) := by
  have width : value.toList.length = size := Vector.length_toList
  rw [Decoder.readFixed, read_bytes_between front value.toList rest size width, ok_bind]
  simp only [dif_pos width]
  rfl

theorem read_rest_between (front rest : Bytes) : (Decoder.between front rest).readRest = (rest, .between (front ++ rest) []) := by
  simp [Decoder.readRest, Decoder.between]

theorem decode_fields_wire (cert : CasCertificate) :
    CasCertificate.decodeFields cert.header.length (Decoder.new cert.wire) = .ok cert := by
  have start : Decoder.new cert.wire = .between [] cert.wire := rfl
  rw [CasCertificate.decodeFields, start, CasCertificate.wire, read_bytes_between [] cert.header _ _ rfl]
  simp only [ok_bind, read_u64_between, read_fixed_between, read_rest_between]
  rfl

theorem read_bytes_remaining (dec next : Decoder) (len : Nat) (bytes : Bytes) (read : dec.readBytes len = .ok (bytes, next)) :
    dec.remaining = len + next.remaining := by
  unfold Decoder.readBytes at read
  split at read
  · cases read
  · rename_i enough
    obtain ⟨-, rfl⟩ := Prod.mk.inj (Except.ok.inj read)
    simp only [Decoder.remaining] at enough ⊢
    omega

theorem read_u64_remaining (dec next : Decoder) (value : UInt64) (read : dec.readU64 = .ok (value, next)) :
    dec.remaining = 8 + next.remaining := by
  obtain ⟨⟨bytes, after⟩, first, rest⟩ := bind_ok read
  have remaining := read_bytes_remaining dec after 8 bytes first
  simp only at rest
  split at rest
  · obtain ⟨-, rfl⟩ := Prod.mk.inj (Except.ok.inj rest)
    exact remaining
  · cases rest

theorem read_fixed_remaining (dec next : Decoder) (size : Nat) (value : Vector UInt8 size) (read : dec.readFixed size = .ok (value, next)) :
    dec.remaining = size + next.remaining := by
  obtain ⟨⟨bytes, after⟩, first, rest⟩ := bind_ok read
  have remaining := read_bytes_remaining dec after size bytes first
  simp only at rest
  split at rest
  · obtain ⟨-, rfl⟩ := Prod.mk.inj (Except.ok.inj rest)
    exact remaining
  · cases rest

theorem decode_fields_remaining (headerSize : Nat) (dec : Decoder) (cert : CasCertificate)
    (decoded : CasCertificate.decodeFields headerSize dec = .ok cert) : headerSize + contextFieldsSize + casSigSize ≤ dec.remaining := by
  obtain ⟨⟨header, first⟩, headerRead, decoded⟩ := bind_ok decoded
  obtain ⟨⟨startPos, second⟩, startRead, decoded⟩ := bind_ok decoded
  obtain ⟨⟨endPos, third⟩, endRead, decoded⟩ := bind_ok decoded
  obtain ⟨⟨startBlock, fourth⟩, blockRead, decoded⟩ := bind_ok decoded
  obtain ⟨⟨delayed, fifth⟩, delayedRead, decoded⟩ := bind_ok decoded
  obtain ⟨⟨minBlock, sixth⟩, minRead, decoded⟩ := bind_ok decoded
  obtain ⟨⟨signature, seventh⟩, signatureRead, decoded⟩ := bind_ok decoded
  have sizes : contextFieldsSize + casSigSize = 8 + 8 + 8 + 8 + 8 + 65 := rfl
  rw [Nat.add_assoc, sizes, read_bytes_remaining _ _ _ _ headerRead, read_u64_remaining _ _ _ startRead, read_u64_remaining _ _ _ endRead,
    read_u64_remaining _ _ _ blockRead, read_u64_remaining _ _ _ delayedRead, read_u64_remaining _ _ _ minRead,
    read_fixed_remaining _ _ _ _ signatureRead]
  omega

theorem to_bytes_iff (cert : CasCertificate) (bytes : Bytes) :
    cert.toBytes = .ok bytes ↔ cert.header.head? = some 0x70 ∧ cert.header.length = 32 ∧ cert.wire = bytes := by
  unfold CasCertificate.toBytes
  cases header : cert.header with
  | nil => simp
  | cons first rest =>
      simp only [List.head?_cons, Option.some.injEq]
      split
      · rename_i version
        split
        · rename_i size
          constructor
          · intro given
            exact ⟨version, size, Except.ok.inj given⟩
          · intro given
            rw [given.2.2]
        · rename_i size
          constructor
          · intro given
            cases given
          · intro given
            exact absurd given.2.1 size
      · rename_i version
        constructor
        · intro given
          cases given
        · intro given
          exact absurd given.1 version

theorem length_wire (cert : CasCertificate) : cert.wire.length = cert.header.length + 105 + cert.downstreamCertificate.length := by
  simp only [CasCertificate.wire, List.length_append, length_be_bytes, Vector.length_toList]
  omega

theorem from_bytes_cons (first : UInt8) (rest : Bytes) (version : first = 0x70) (size : 105 ≤ (first :: rest).length) :
    CasCertificate.fromBytes (first :: rest) = CasCertificate.decodeFields 32 (Decoder.new (first :: rest)) := by
  have known : CASCertificateVersion.tryFrom first = .ok .v0 := if_pos version
  have enough : ¬(first :: rest).length < CasCertificate.certificateMinimumSize CASCertificateVersion.v0.headerSize := Nat.not_lt.mpr size
  rw [CasCertificate.fromBytes, known, ok_bind, if_neg enough]
  rfl

theorem from_bytes_to_bytes (cert : CasCertificate) (bytes : Bytes) (encoded : cert.toBytes = .ok bytes) :
    CasCertificate.fromBytes bytes = .ok cert := by
  obtain ⟨version, size, rfl⟩ := (to_bytes_iff cert bytes).mp encoded
  have length := length_wire cert
  cases wire : cert.wire with
  | nil =>
      rw [wire, List.length_nil] at length
      omega
  | cons first rest =>
      have same : first = 0x70 := by
        have head : cert.wire.head? = some 0x70 := by
          rw [CasCertificate.wire, List.head?_append, version]
          rfl
        rw [wire] at head
        exact Option.some.inj head
      rw [from_bytes_cons first rest same (by rw [← wire]; omega), ← wire, ← size]
      exact decode_fields_wire cert

theorem be_bytes_take (rest : Bytes) (enough : 8 ≤ rest.length) : beBytes (fromBeBytes (rest.take 8)) ++ rest.drop 8 = rest := by
  rw [be_bytes_from_be_bytes _ (List.length_take_of_le enough), List.take_append_drop]

theorem to_bytes_exists (data : Bytes) (version : data.head? = some 0x70) (size : espressoCertSize ≤ data.length) :
    ∃ cert : CasCertificate, cert.toBytes = .ok data := by
  have total : espressoCertSize = 137 := rfl
  rw [total] at size
  have width : ((data.drop 72).take 65).toArray.size = 65 := by simp; omega
  let cert : CasCertificate := ⟨data.take 32, fromBeBytes ((data.drop 32).take 8), fromBeBytes ((data.drop 40).take 8),
    fromBeBytes ((data.drop 48).take 8), fromBeBytes ((data.drop 56).take 8), fromBeBytes ((data.drop 64).take 8),
    ⟨((data.drop 72).take 65).toArray, width⟩, data.drop 137⟩
  have piece (offset : Nat) (inside : offset + 8 ≤ data.length) :
      beBytes (fromBeBytes ((data.drop offset).take 8)) ++ data.drop (offset + 8) = data.drop offset := by
    rw [← List.drop_drop]
    exact be_bytes_take (data.drop offset) (by rw [List.length_drop]; omega)
  have signature : cert.casSignature.toList ++ data.drop 137 = data.drop 72 := by
    change (data.drop 72).take 65 ++ data.drop (72 + 65) = data.drop 72
    rw [← List.drop_drop, List.take_append_drop]
  refine ⟨cert, (to_bytes_iff cert data).mpr ⟨?_, List.length_take_of_le (by omega), ?_⟩⟩
  · change (data.take 32).head? = some 0x70
    rw [List.head?_take, version]
    rfl
  · change data.take 32 ++ (_ ++ (_ ++ (_ ++ (_ ++ (_ ++ (cert.casSignature.toList ++ data.drop 137)))))) = data
    rw [signature, piece 64 (by omega), piece 56 (by omega), piece 48 (by omega), piece 40 (by omega), piece 32 (by omega),
      List.take_append_drop]

theorem from_bytes_accepts_only (data : Bytes) (cert : CasCertificate) (decoded : CasCertificate.fromBytes data = .ok cert) :
    espressoCertSize ≤ data.length ∧ data.head? = some 0x70 := by
  cases data with
  | nil => cases decoded
  | cons first rest =>
      obtain ⟨version, known, fields⟩ := bind_ok decoded
      have byte : first = 0x70 := by
        by_contra other
        rw [CASCertificateVersion.tryFrom, if_neg other] at known
        cases known
      cases version with
      | v0 =>
          split at fields
          · cases fields
          · exact ⟨decode_fields_remaining _ _ cert fields, congrArg some byte⟩

/-- The two directions of the codec, and the byte strings it accepts. -/
theorem certificate_codec :
    (∀ (cert : CasCertificate) (bytes : Bytes), cert.toBytes = .ok bytes → CasCertificate.fromBytes bytes = .ok cert) ∧
    (∀ (bytes : Bytes) (cert : CasCertificate), CasCertificate.fromBytes bytes = .ok cert → cert.toBytes = .ok bytes) ∧
    (∀ bytes : Bytes, (∃ cert, CasCertificate.fromBytes bytes = .ok cert) ↔
      espressoCertSize ≤ bytes.length ∧ bytes.head? = some CASCertificateVersion.v0.byte) := by
  have decodes (bytes : Bytes) (size : espressoCertSize ≤ bytes.length) (version : bytes.head? = some 0x70) :
      ∃ cert : CasCertificate, CasCertificate.fromBytes bytes = .ok cert ∧ cert.toBytes = .ok bytes := by
    obtain ⟨cert, encoded⟩ := to_bytes_exists bytes version size
    exact ⟨cert, from_bytes_to_bytes cert bytes encoded, encoded⟩
  refine ⟨from_bytes_to_bytes, fun bytes cert decoded => ?_, fun bytes => ?_⟩
  · obtain ⟨size, version⟩ := from_bytes_accepts_only bytes cert decoded
    obtain ⟨other, same, encoded⟩ := decodes bytes size version
    obtain rfl := Except.ok.inj (decoded.symm.trans same)
    exact encoded
  · constructor
    · rintro ⟨cert, decoded⟩
      exact from_bytes_accepts_only bytes cert decoded
    · rintro ⟨size, version⟩
      obtain ⟨cert, decoded, -⟩ := decodes bytes size version
      exact ⟨cert, decoded⟩

structure Eip712Domain where
  name : String
  version : String
  chainId : U256
  verifyingContract : Address
deriving DecidableEq, Repr

structure Signature where
  r : U256
  s : U256
  yParity : Bool
deriving DecidableEq, Repr

-- The hash, the typed-data hash, and the parsing, writing and public-key recovery of signatures are called outside
-- the repository.
structure CasCrypto where
  keccak256 : Bytes → B256
  eip712SigningHash : Eip712Domain → B256 → B256
  signatureTryFrom : Vector UInt8 65 → Except String Signature
  signatureAsBytes : Signature → Vector UInt8 65
  recoverAddressFromPrehash : Signature → B256 → Option Address

-- `signHashSync` is the signer's own call.
structure KeyManager where
  signer : Address
  signHashSync : B256 → Except String Signature
  parentChainId : UInt64
  teeVerifierAddress : Address

def computeCasSigningHash (crypto : CasCrypto) (message : Bytes) (parentChainId : UInt64) (verifierAddress : Address) : B256 :=
  crypto.eip712SigningHash ⟨"EspressoTEEVerifier", "1", BitVec.ofNat 256 parentChainId.toNat, verifierAddress⟩ (crypto.keccak256 message)

def KeyManager.signMessage (crypto : CasCrypto) (keyManager : KeyManager) (message : Bytes) : Except String (Vector UInt8 65) :=
  (keyManager.signHashSync (computeCasSigningHash crypto message keyManager.parentChainId keyManager.teeVerifierAddress)).map
    crypto.signatureAsBytes

structure CertificateArguments where
  startMessagePos : UInt64
  endMessagePos : UInt64
  startHotshotBlock : UInt64
  afterDelayedMessagesRead : UInt64
  minHotshotBlockStillInStreamerQueue : UInt64
  downstreamCert : Bytes
deriving DecidableEq, Repr

def buildPayload (arguments : CertificateArguments) : Bytes :=
  beBytes arguments.startMessagePos ++ (beBytes (arguments.endMessagePos + 1) ++ (beBytes arguments.startHotshotBlock ++
    (beBytes arguments.afterDelayedMessagesRead ++ (beBytes arguments.minHotshotBlockStillInStreamerQueue ++
      arguments.downstreamCert))))

def CasCertificate.arguments (cert : CasCertificate) : CertificateArguments :=
  ⟨cert.startMessagePos, cert.endMessagePos, cert.startHotshotBlock, cert.afterDelayedMessagesRead,
    cert.minHotshotBlockStillInStreamerQueue, cert.downstreamCertificate⟩

def v0Header : Bytes := CASCertificateVersion.v0.byte :: List.replicate 31 0

def buildEspressoCertificate (crypto : CasCrypto) (keyManager : KeyManager) (arguments : CertificateArguments) :
    Except DaApiError CasCertificate :=
  if arguments.downstreamCert.length < 2 then .error (.invalidCertificateLength arguments.downstreamCert.length)
  else
    match keyManager.signMessage crypto (buildPayload arguments) with
    | .error reason => .error (.signing reason)
    | .ok casSignature =>
        .ok ⟨v0Header, arguments.startMessagePos, arguments.endMessagePos, arguments.startHotshotBlock,
          arguments.afterDelayedMessagesRead, arguments.minHotshotBlockStillInStreamerQueue, casSignature, arguments.downstreamCert⟩

def CasCertificate.validateStructure (cert : CasCertificate) : Except DaApiError Unit :=
  match cert.header with
  | [] => .error (.certificateValidation "empty header")
  | versionByte :: _ =>
      match CASCertificateVersion.tryFrom versionByte with
      | .error _ => .error (.invalidHeaderByte versionByte)
      | .ok version =>
          if cert.header.length ≠ version.headerSize then
            .error (.certificateValidation s!"invalid header length, expected: {version.headerSize}, got: {cert.header.length}")
          else if cert.downstreamCertificate.length < 2 then .error (.invalidCertificateLength cert.downstreamCertificate.length)
          else .ok ()

def CasCertificate.validate (crypto : CasCrypto) (cert : CasCertificate) (expectedSigner : Address) (parentChainId : UInt64)
    (teeVerifierAddress : Address) : Except DaApiError Unit :=
  match cert.validateStructure with
  | .error reason => .error reason
  | .ok () =>
      match crypto.signatureTryFrom cert.casSignature with
      | .error reason => .error (.certificateValidation s!"invalid CAS signature: {reason}")
      | .ok sig =>
          match crypto.recoverAddressFromPrehash sig
              (computeCasSigningHash crypto (buildPayload cert.arguments) parentChainId teeVerifierAddress) with
          | none => .error .invalidCasSignature
          | some recovered => if recovered ≠ expectedSigner then .error .invalidCasSignature else .ok ()

def sequencerHeaderLen : Nat := 40

def tryExtractDaSequencerMsgFromEspressoDaCert (crypto : CasCrypto) (sequencerMsg : Bytes) (expectedSigner : Address)
    (parentChainId : UInt64) (teeVerifierAddress : Address) : Except DaApiError Bytes :=
  if sequencerMsg.length ≤ sequencerHeaderLen then
    .error (.invalidSequencerMessageLength sequencerHeaderLen sequencerMsg.length)
  else
    match CasCertificate.fromBytes (sequencerMsg.drop sequencerHeaderLen) with
    | .error reason => .error reason
    | .ok casCert =>
        match casCert.validate crypto expectedSigner parentChainId teeVerifierAddress with
        | .error reason => .error reason
        | .ok () => .ok (sequencerMsg.take sequencerHeaderLen ++ casCert.downstreamCertificate)

theorem build_payload_injective (a b : CertificateArguments) (same : buildPayload a = buildPayload b) : a = b := by
  obtain ⟨startPos, rest⟩ := be_bytes_split _ _ _ _ same
  obtain ⟨endPos, rest⟩ := be_bytes_split _ _ _ _ rest
  obtain ⟨startBlock, rest⟩ := be_bytes_split _ _ _ _ rest
  obtain ⟨delayed, rest⟩ := be_bytes_split _ _ _ _ rest
  obtain ⟨minBlock, downstream⟩ := be_bytes_split _ _ _ _ rest
  have shifted : a.endMessagePos = b.endMessagePos := by simpa using endPos
  cases a
  cases b
  simp_all only

theorem validate_ok (crypto : CasCrypto) (cert : CasCertificate) (signer : Address) (chainId : UInt64) (verifier : Address)
    (valid : cert.validate crypto signer chainId verifier = .ok ()) :
    ∃ sig, crypto.signatureTryFrom cert.casSignature = .ok sig ∧
      crypto.recoverAddressFromPrehash sig (computeCasSigningHash crypto (buildPayload cert.arguments) chainId verifier) = some signer := by
  unfold CasCertificate.validate at valid
  split at valid
  · cases valid
  · split at valid
    · cases valid
    · rename_i sig parsed
      split at valid
      · cases valid
      · rename_i recovered found
        split at valid
        · cases valid
        · rename_i same
          exact ⟨sig, parsed, found.trans (congrArg some (not_ne_iff.mp same))⟩

theorem extract_ok (crypto : CasCrypto) (sequencerMsg extracted : Bytes) (signer : Address) (chainId : UInt64) (verifier : Address)
    (accepted : tryExtractDaSequencerMsgFromEspressoDaCert crypto sequencerMsg signer chainId verifier = .ok extracted) :
    sequencerHeaderLen < sequencerMsg.length ∧
    ∃ cert, CasCertificate.fromBytes (sequencerMsg.drop sequencerHeaderLen) = .ok cert ∧
      cert.validate crypto signer chainId verifier = .ok () ∧
      extracted = sequencerMsg.take sequencerHeaderLen ++ cert.downstreamCertificate := by
  unfold tryExtractDaSequencerMsgFromEspressoDaCert at accepted
  split at accepted
  · cases accepted
  · rename_i long
    split at accepted
    · cases accepted
    · rename_i cert decoded
      split at accepted
      · cases accepted
      · rename_i valid
        exact ⟨Nat.not_le.mp long, cert, decoded, valid, (Except.ok.inj accepted).symm⟩

-- A signature of the key manager, written and parsed again, recovers to its own address.
def SignsForItself (crypto : CasCrypto) (keyManager : KeyManager) : Prop :=
  ∀ hash sig, keyManager.signHashSync hash = .ok sig →
    ∃ parsed, crypto.signatureTryFrom (crypto.signatureAsBytes sig) = .ok parsed ∧
      crypto.recoverAddressFromPrehash parsed hash = some keyManager.signer

theorem build_ok (crypto : CasCrypto) (keyManager : KeyManager) (arguments : CertificateArguments) (cert : CasCertificate)
    (built : buildEspressoCertificate crypto keyManager arguments = .ok cert) :
    2 ≤ arguments.downstreamCert.length ∧ cert.header = v0Header ∧ cert.arguments = arguments ∧
    ∃ sig, keyManager.signHashSync (computeCasSigningHash crypto (buildPayload arguments) keyManager.parentChainId
      keyManager.teeVerifierAddress) = .ok sig ∧ cert.casSignature = crypto.signatureAsBytes sig := by
  unfold buildEspressoCertificate at built
  split at built
  · cases built
  · rename_i long
    split at built
    · cases built
    · rename_i casSignature signed
      obtain rfl := Except.ok.inj built
      unfold KeyManager.signMessage at signed
      cases produced : keyManager.signHashSync (computeCasSigningHash crypto (buildPayload arguments) keyManager.parentChainId
          keyManager.teeVerifierAddress) with
      | error reason =>
          rw [produced] at signed
          cases signed
      | ok sig =>
          rw [produced] at signed
          exact ⟨Nat.not_lt.mp long, rfl, rfl, sig, rfl, (Except.ok.inj signed).symm⟩

theorem build_exists (crypto : CasCrypto) (keyManager : KeyManager) (arguments : CertificateArguments)
    (long : 2 ≤ arguments.downstreamCert.length) (willing : ∀ hash, ∃ sig, keyManager.signHashSync hash = .ok sig) :
    ∃ cert, buildEspressoCertificate crypto keyManager arguments = .ok cert := by
  obtain ⟨sig, signed⟩ := willing (computeCasSigningHash crypto (buildPayload arguments) keyManager.parentChainId
    keyManager.teeVerifierAddress)
  rw [buildEspressoCertificate, if_neg (Nat.not_lt.mpr long), KeyManager.signMessage, signed]
  exact ⟨_, rfl⟩

theorem built_valid (crypto : CasCrypto) (keyManager : KeyManager) (signs : SignsForItself crypto keyManager)
    (arguments : CertificateArguments) (cert : CasCertificate) (built : buildEspressoCertificate crypto keyManager arguments = .ok cert) :
    cert.validate crypto keyManager.signer keyManager.parentChainId keyManager.teeVerifierAddress = .ok () := by
  obtain ⟨long, header, same, sig, signed, signature⟩ := build_ok crypto keyManager arguments cert built
  obtain ⟨parsed, parses, recovered⟩ := signs _ sig signed
  have structured : cert.validateStructure = .ok () := by
    have downstream : ¬cert.downstreamCertificate.length < 2 := by
      rw [show cert.downstreamCertificate = arguments.downstreamCert from congrArg CertificateArguments.downstreamCert same]
      exact Nat.not_lt.mpr long
    rw [CasCertificate.validateStructure, header]
    change (if v0Header.length ≠ certHeaderSizeV0 then _ else if _ then _ else _) = _
    rw [if_neg (by decide), if_neg downstream]
  simp only [CasCertificate.validate, structured, signature, parses, same, recovered, ne_eq, not_true_eq_false, if_false]

theorem built_to_bytes (crypto : CasCrypto) (keyManager : KeyManager) (arguments : CertificateArguments) (cert : CasCertificate)
    (built : buildEspressoCertificate crypto keyManager arguments = .ok cert) : cert.toBytes = .ok cert.wire := by
  obtain ⟨-, header, -⟩ := build_ok crypto keyManager arguments cert built
  exact (to_bytes_iff cert cert.wire).mpr ⟨by rw [header]; rfl, by rw [header]; rfl, rfl⟩

theorem extract_built (crypto : CasCrypto) (keyManager : KeyManager) (signs : SignsForItself crypto keyManager)
    (arguments : CertificateArguments) (cert : CasCertificate) (built : buildEspressoCertificate crypto keyManager arguments = .ok cert)
    (seqHeader : Bytes) (size : seqHeader.length = sequencerHeaderLen) :
    tryExtractDaSequencerMsgFromEspressoDaCert crypto (seqHeader ++ cert.wire) keyManager.signer keyManager.parentChainId
      keyManager.teeVerifierAddress = .ok (seqHeader ++ cert.downstreamCertificate) := by
  have long : ¬(seqHeader ++ cert.wire).length ≤ sequencerHeaderLen := by
    rw [List.length_append, length_wire, size]
    omega
  have decoded := from_bytes_to_bytes cert cert.wire (built_to_bytes crypto keyManager arguments cert built)
  have valid := built_valid crypto keyManager signs arguments cert built
  rw [tryExtractDaSequencerMsgFromEspressoDaCert, if_neg long, ← size, List.drop_left, List.take_left]
  simp only [decoded, valid]

-- What the key manager has signed after a series of calls: `build_espresso_certificate` is the only caller of `sign_message`.
def signedHashes (crypto : CasCrypto) (keyManager : KeyManager) (calls : List CertificateArguments) : List B256 :=
  (calls.filter fun call => (buildEspressoCertificate crypto keyManager call).toBool).map fun call =>
    computeCasSigningHash crypto (buildPayload call) keyManager.parentChainId keyManager.teeVerifierAddress

/-- Everything in an accepted message comes from one earlier call, when recovery gives the signer for signed hashes only and the
signing hash has no collision among the payloads in question. -/
theorem extracted_certificate_authentic (crypto : CasCrypto) (keyManager : KeyManager) (calls : List CertificateArguments)
    (payloads : Set Bytes)
    (injective : Set.InjOn
      (fun payload => computeCasSigningHash crypto payload keyManager.parentChainId keyManager.teeVerifierAddress) payloads)
    (built : ∀ call ∈ calls, buildPayload call ∈ payloads)
    (unforged : ∀ sig hash, crypto.recoverAddressFromPrehash sig hash = some keyManager.signer →
      hash ∈ signedHashes crypto keyManager calls)
    (sequencerMsg extracted : Bytes)
    (contained : ∀ cert, CasCertificate.fromBytes (sequencerMsg.drop sequencerHeaderLen) = .ok cert →
      buildPayload cert.arguments ∈ payloads)
    (accepted : tryExtractDaSequencerMsgFromEspressoDaCert crypto sequencerMsg keyManager.signer keyManager.parentChainId
      keyManager.teeVerifierAddress = .ok extracted) :
    ∃ call ∈ calls, ∃ cert, CasCertificate.fromBytes (sequencerMsg.drop sequencerHeaderLen) = .ok cert ∧ cert.arguments = call ∧
      (sequencerMsg.take sequencerHeaderLen).length = sequencerHeaderLen ∧
      extracted = sequencerMsg.take sequencerHeaderLen ++ call.downstreamCert := by
  obtain ⟨long, cert, decoded, valid, result⟩ := extract_ok crypto sequencerMsg extracted _ _ _ accepted
  obtain ⟨sig, -, recovered⟩ := validate_ok crypto cert _ _ _ valid
  obtain ⟨call, member, sameHash⟩ := List.mem_map.mp (unforged sig _ recovered)
  have called : call ∈ calls := (List.mem_filter.mp member).1
  have samePayload := injective (built call called) (contained cert decoded) sameHash
  have same : cert.arguments = call := (build_payload_injective call cert.arguments samePayload).symm
  refine ⟨call, called, cert, decoded, same, List.length_take_of_le long.le, ?_⟩
  rw [result, ← same]
  rfl

-- A certificate for one batch, signed by the key of 32 one bytes for chain 42161.
def firstArguments : CertificateArguments := ⟨1, 1, 1, 1, 0, [0, 0x50, 0, 0x10, 0x85, 0, 0xde, 0xad, 0xbe, 0xef, 0x03]⟩

def firstSignature : Signature :=
  ⟨0xb8e4b3eae046b5d2ce10c0b81334ddcc58c9d3ff78c029da263870cd76dd146d#256,
    0x1e62fe00e911eca937379d9ea3f02e0bb59ca8c2b5a6bedc79cb1331df4cd152#256, false⟩

def firstCommitment : B256 := b256 0x47bb8828d10fdd07a808dde24f1d0e05b43a6f80c13783b5d02c32718fabbeea

def firstSigningHash : B256 := b256 0xc75b659ffe4711129819fe9377c5fd16d4027da26d51603e705fd8c99209bede

def testVerifierAddress : Address := Vector.replicate 20 0xab

def firstCrypto : CasCrypto where
  keccak256 bytes := if bytes = buildPayload firstArguments then firstCommitment else b256 0
  eip712SigningHash domain commitment :=
    if domain = ⟨"EspressoTEEVerifier", "1", 42161, testVerifierAddress⟩ ∧ commitment = firstCommitment then firstSigningHash else b256 0
  signatureTryFrom bytes :=
    match parityOf (bytes.toList.getD 64 0) with
    | none => .error "invalid parity"
    | some yParity => .ok ⟨u256FromBytes (bytes.toList.take 32), u256FromBytes ((bytes.toList.drop 32).take 32), yParity⟩
  signatureAsBytes sig :=
    ⟨(BigEndian.encode 32 sig.r.toNat ++ (BigEndian.encode 32 sig.s.toNat ++ [if sig.yParity then 28 else 27])).toArray,
      by simp [BigEndian.length_encode]⟩
  recoverAddressFromPrehash sig hash := if sig = firstSignature ∧ hash = firstSigningHash then some upstreamSigner else none

def firstKeyManager : KeyManager where
  signer := upstreamSigner
  signHashSync hash := if hash = firstSigningHash then .ok firstSignature else .error "unavailable"
  parentChainId := 42161
  teeVerifierAddress := testVerifierAddress

def firstCertificate : CasCertificate :=
  ⟨v0Header, 1, 1, 1, 1, 0, firstCrypto.signatureAsBytes firstSignature, firstArguments.downstreamCert⟩

theorem extracted_certificate_authentic_first :
    ∃ call ∈ [firstArguments], ∃ cert, CasCertificate.fromBytes ((List.replicate 40 0 ++ firstCertificate.wire).drop sequencerHeaderLen) = .ok cert ∧
      cert.arguments = call ∧ ((List.replicate 40 0 ++ firstCertificate.wire).take sequencerHeaderLen).length = sequencerHeaderLen ∧
      List.replicate 40 0 ++ firstArguments.downstreamCert =
        (List.replicate 40 0 ++ firstCertificate.wire).take sequencerHeaderLen ++ call.downstreamCert := by
  have decoded : CasCertificate.fromBytes ((List.replicate 40 0 ++ firstCertificate.wire).drop sequencerHeaderLen) = .ok firstCertificate := by
    decide +kernel
  refine extracted_certificate_authentic firstCrypto firstKeyManager [firstArguments] {buildPayload firstArguments}
    (Set.injOn_singleton _ _) ?_ ?_ (List.replicate 40 0 ++ firstCertificate.wire) _ ?_ (by decide +kernel)
  · intro call member
    rw [List.mem_singleton.mp member]
    exact Set.mem_singleton _
  · intro sig hash recovered
    have both : sig = firstSignature ∧ hash = firstSigningHash := by
      by_contra different
      have refused : firstCrypto.recoverAddressFromPrehash sig hash = none := if_neg different
      rw [refused] at recovered
      cases recovered
    rw [both.2]
    decide +kernel
  · intro cert other
    obtain rfl := Except.ok.inj (decoded.symm.trans other)
    exact Set.mem_singleton _

end Cas
