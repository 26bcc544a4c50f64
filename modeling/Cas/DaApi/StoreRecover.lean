import Cas.DaApi.Server

set_option autoImplicit false

namespace Cas

section Routes

variable (providers : List DaProviderConfig) (keyManager : KeyManager) (calldataMaxSize : UInt64) (routes : List ServerState)

structure Mounted (state : ServerState) : Prop where
  signer : state.keyManager = keyManager
  limit : state.calldataMaxSize = calldataMaxSize
  sized : state.maxMessageSize = if state.daConfig.name = "calldata" then some calldataMaxSize else none

theorem build_app_routes (app : buildApp providers keyManager calldataMaxSize = .ok routes) :
    routes = (providers ++ [DaProviderConfig.calldata]).map (serverState keyManager calldataMaxSize) := by
  unfold buildApp at app
  split at app
  · cases app
  · exact (Except.ok.inj app).symm

theorem build_app_mounted (app : buildApp providers keyManager calldataMaxSize = .ok routes) (state : ServerState)
    (member : state ∈ routes) : Mounted keyManager calldataMaxSize state := by
  rw [build_app_routes providers keyManager calldataMaxSize routes app] at member
  obtain ⟨provider, -, rfl⟩ := List.mem_map.mp member
  exact ⟨rfl, rfl, rfl⟩

theorem build_app_reserved (app : buildApp providers keyManager calldataMaxSize = .ok routes)
    (reserved : ∀ provider ∈ providers, provider.name ≠ "calldata") (state : ServerState) (member : state ∈ routes)
    (named : state.daConfig.name = "calldata") : state.daConfig.endpointUrl = "" := by
  rw [build_app_routes providers keyManager calldataMaxSize routes app] at member
  obtain ⟨provider, listed, rfl⟩ := List.mem_map.mp member
  rcases List.mem_append.mp listed with configured | own
  · exact absurd named (reserved provider configured)
  · rw [List.mem_singleton.mp own]
    rfl

end Routes

section Resolution

variable (downstream : Downstream) (state : ServerState) (data : Bytes) (timeout : UInt64)

structure RequestsFallback : Prop where
  configured : state.daConfig.endpointUrl ≠ ""
  primary : ∃ reason, storeVia downstream state.daConfig.endpointUrl data timeout = .ok (.fallback reason)
  anytrust : ∀ url, state.daConfig.anytrustFallbackUrl.filter (· ≠ "") = some url →
    ∃ reason, storeVia downstream url data timeout = .ok (.fallback reason)

inductive Resolved : CertOrigin → Bytes → Prop where
  | unconfigured (empty : state.daConfig.endpointUrl = "") : Resolved .rawData data
  | primary (configured : state.daConfig.endpointUrl ≠ "") (cert : Bytes)
      (answer : storeVia downstream state.daConfig.endpointUrl data timeout = .ok (.cert cert)) : Resolved .primary cert
  | anytrust (configured : state.daConfig.endpointUrl ≠ "") (url : String)
      (fallback : state.daConfig.anytrustFallbackUrl.filter (· ≠ "") = some url) (cert : Bytes)
      (answer : storeVia downstream url data timeout = .ok (.cert cert)) : Resolved .anytrust cert
  | calldata (requested : RequestsFallback downstream state data timeout)
      (room : espressoCertSize + data.length ≤ state.calldataMaxSize.toNat) : Resolved .rawData data

theorem calldata_fallback_iff (origin : CertOrigin) (bytes : Bytes) :
    calldataFallback state data = .ok (.cert origin bytes) ↔
      espressoCertSize + data.length ≤ state.calldataMaxSize.toNat ∧ origin = .rawData ∧ bytes = data := by
  unfold calldataFallback
  split
  · rename_i large
    constructor
    · intro given
      cases given
    · rintro ⟨room, -, -⟩
      exact absurd room (Nat.not_le.mpr large)
  · rename_i room
    constructor
    · intro given
      cases given
      exact ⟨Nat.not_lt.mp room, rfl, rfl⟩
    · rintro ⟨-, rfl, rfl⟩
      rfl

theorem resolve_requested (requested : RequestsFallback downstream state data timeout) :
    resolveDownstreamCert downstream state data timeout = calldataFallback state data := by
  obtain ⟨reason, primary⟩ := requested.primary
  simp only [resolveDownstreamCert, if_neg requested.configured, primary]
  cases fallback : state.daConfig.anytrustFallbackUrl.filter (· ≠ "") with
  | none => rfl
  | some url =>
      obtain ⟨other, second⟩ := requested.anytrust url fallback
      simp only [second]

theorem resolve_resolved (origin : CertOrigin) (bytes : Bytes)
    (resolved : resolveDownstreamCert downstream state data timeout = .ok (.cert origin bytes)) :
    Resolved downstream state data timeout origin bytes := by
  by_cases empty : state.daConfig.endpointUrl = ""
  · rw [resolveDownstreamCert, if_pos empty] at resolved
    cases resolved
    exact .unconfigured empty
  · by_cases requested : RequestsFallback downstream state data timeout
    · rw [resolve_requested downstream state data timeout requested] at resolved
      obtain ⟨room, rfl, rfl⟩ := (calldata_fallback_iff state data origin bytes).mp resolved
      exact .calldata requested room
    · rw [resolveDownstreamCert, if_neg empty] at resolved
      split at resolved
      · cases resolved
      · rename_i cert answer
        cases resolved
        exact .primary empty bytes answer
      · cases resolved
      · rename_i reason first
        split at resolved
        · rename_i absent
          exact absurd ⟨empty, ⟨reason, first⟩, fun url other => by rw [absent] at other; cases other⟩ requested
        · rename_i url fallback
          split at resolved
          · cases resolved
          · rename_i cert answer
            cases resolved
            exact .anytrust empty url fallback bytes answer
          · cases resolved
          · rename_i again second
            refine absurd ⟨empty, ⟨reason, first⟩, fun other same => ?_⟩ requested
            obtain rfl := Option.some.inj (fallback.symm.trans same)
            exact ⟨again, second⟩

theorem resolved_raw (cert : Bytes) (resolved : Resolved downstream state data timeout .rawData cert) : cert = data := by
  cases resolved with
  | unconfigured empty => rfl
  | calldata requested room => rfl

end Resolution

section Store

variable {Json : Type} (crypto : CasCrypto) (downstream : Downstream) (reader : JsonReader Json)
  (verify : Bytes → Except String VerificationResult) (state : ServerState)

structure StoredAs (data : Bytes) (timeout : UInt64) (origin : CertOrigin) (certificate : Bytes) (result : VerificationResult)
    (downstreamCert : Bytes) (cert : CasCertificate) : Prop where
  small : tooLarge state.maxMessageSize data = false
  verified : verify data = .ok result
  success : result.success = true
  resolved : resolveDownstreamCert downstream state data timeout = .ok (.cert origin downstreamCert)
  built : buildEspressoCertificate crypto state.keyManager (certificateArguments result downstreamCert) = .ok cert
  encoded : cert.wire = certificate

theorem handle_store_stored_iff (body : RpcParams Json) (data : Bytes) (timeout : UInt64)
    (request : storeParams reader body = .ok (data, timeout)) (origin : CertOrigin) (certificate : Bytes) :
    handleStore crypto downstream reader verify state body = .ok (.stored origin certificate) ↔
      ∃ result downstreamCert cert, StoredAs crypto downstream verify state data timeout origin certificate result downstreamCert cert := by
  constructor
  · intro stored
    simp only [handleStore, request] at stored
    split at stored
    · cases stored
    · rename_i small
      split at stored
      · cases stored
      · rename_i result verified
        split at stored
        · cases stored
        · rename_i success
          split at stored
          · cases stored
          · cases stored
          · rename_i origin' downstreamCert resolved
            split at stored
            · cases stored
            · rename_i cert built
              rw [built_to_bytes crypto state.keyManager _ cert built] at stored
              cases stored
              exact ⟨result, downstreamCert, cert, by simpa using small, verified, not_not.mp success, resolved, built, rfl⟩
  · rintro ⟨result, downstreamCert, cert, stored⟩
    have bytes := built_to_bytes crypto state.keyManager _ cert stored.built
    simp only [handleStore, request, stored.small, stored.verified, stored.success, stored.resolved, stored.built, bytes, stored.encoded,
      Bool.false_eq_true, not_true_eq_false, if_false]
    rfl

theorem verified_head (rlp : Rlp.StringCodec) (brotli : Brotli) (fetched : Option (Except String BatchCursor)) (data : Bytes)
    (queue : List NitroRollupQueueEntry) (success : (handleVerification rlp brotli fetched data queue).success = true) :
    data.head? = some calldataHeaderByte := by
  cases data with
  | nil => cases success
  | cons first rest =>
      by_contra different
      have other : first ≠ brotliHeaderByte := fun same => different (congrArg some same)
      simp only [handleVerification, parseBatch, if_neg other] at success
      cases success

end Store

section Recover

variable {Json : Type} (crypto : CasCrypto) (downstream : Downstream) (reader : JsonReader Json) (state : ServerState)

theorem handle_recover_routed (method : String) (body : RpcParams Json) (batchNum : UInt64) (batchBlockHash : B256)
    (sequencerMsg cert : Bytes) (request : recoverParams reader body = .ok (batchNum, batchBlockHash, sequencerMsg))
    (unwrapped : daCertificate crypto state sequencerMsg = .ok cert) :
    handleRecoverInner crypto downstream reader state method body =
      executeRoute downstream method batchNum batchBlockHash (recoverRoute state.daConfig cert) := by
  simp only [handleRecoverInner, request, unwrapped]

theorem handle_recover_refused (method : String) (body : RpcParams Json) (batchNum : UInt64) (batchBlockHash : B256)
    (sequencerMsg : Bytes) (reason : DaApiError) (request : recoverParams reader body = .ok (batchNum, batchBlockHash, sequencerMsg))
    (refused : daCertificate crypto state sequencerMsg = .error reason) :
    handleRecoverInner crypto downstream reader state method body = ⟨none, .error reason⟩ := by
  simp only [handleRecoverInner, request, refused]

theorem byte_after_header (seqHeader rest : Bytes) (size : seqHeader.length = sequencerHeaderLen) :
    (seqHeader ++ rest)[sequencerHeaderLen]? = rest.head? := by
  rw [← size, List.getElem?_append_right (Nat.le_refl _), Nat.sub_self, List.head?_eq_getElem?]

theorem da_certificate_wrapped (signs : SignsForItself crypto state.keyManager) (arguments : CertificateArguments) (cert : CasCertificate)
    (built : buildEspressoCertificate crypto state.keyManager arguments = .ok cert) (seqHeader : Bytes)
    (size : seqHeader.length = sequencerHeaderLen) :
    daCertificate crypto state (seqHeader ++ cert.wire) = .ok (seqHeader ++ cert.downstreamCertificate) := by
  obtain ⟨-, header, -⟩ := build_ok crypto state.keyManager arguments cert built
  have long : ¬(seqHeader ++ cert.wire).length ≤ sequencerHeaderLen := by
    rw [List.length_append, length_wire, size]
    omega
  have marked : (seqHeader ++ cert.wire)[sequencerHeaderLen]? = some espressoHeaderByte := by
    rw [byte_after_header seqHeader cert.wire size, CasCertificate.wire, header]
    rfl
  rw [daCertificate, if_neg long, if_pos marked]
  exact extract_built crypto state.keyManager signs arguments cert built seqHeader size

theorem da_certificate_plain (seqHeader rest : Bytes) (size : seqHeader.length = sequencerHeaderLen) (nonempty : rest ≠ [])
    (unmarked : rest.head? ≠ some espressoHeaderByte) : daCertificate crypto state (seqHeader ++ rest) = .ok (seqHeader ++ rest) := by
  have long : ¬(seqHeader ++ rest).length ≤ sequencerHeaderLen := by
    have positive := List.length_pos_iff.mpr nonempty
    rw [List.length_append, size]
    omega
  rw [daCertificate, if_neg long, if_neg (by rw [byte_after_header seqHeader rest size]; exact unmarked)]

theorem da_certificate_invalid (sequencerMsg : Bytes) (marked : sequencerMsg[sequencerHeaderLen]? = some espressoHeaderByte)
    (invalid : ∀ cert, CasCertificate.fromBytes (sequencerMsg.drop sequencerHeaderLen) = .ok cert →
      cert.validate crypto state.keyManager.signer state.keyManager.parentChainId state.keyManager.teeVerifierAddress ≠ .ok ()) :
    ∃ reason, daCertificate crypto state sequencerMsg = .error reason := by
  have long : ¬sequencerMsg.length ≤ sequencerHeaderLen := Nat.not_le.mpr (List.getElem?_eq_some_iff.mp marked).1
  rw [daCertificate, if_neg long, if_pos marked]
  cases extracted : tryExtractDaSequencerMsgFromEspressoDaCert crypto sequencerMsg state.keyManager.signer state.keyManager.parentChainId
      state.keyManager.teeVerifierAddress with
  | error reason => exact ⟨reason, rfl⟩
  | ok message =>
      obtain ⟨-, cert, decoded, valid, -⟩ := extract_ok crypto sequencerMsg message _ _ _ extracted
      exact absurd valid (invalid cert decoded)

variable (seqHeader rest : Bytes) (size : seqHeader.length = sequencerHeaderLen)

include size

theorem recover_route_payload (config : DaProviderConfig) (own : config.name = "calldata" ∨ rest.head? = some calldataHeaderByte) :
    recoverRoute config (seqHeader ++ rest) = .payload rest := by
  rw [recoverRoute, byte_after_header seqHeader rest size, if_pos own, ← size, List.drop_left]

theorem recover_route_forward (config : DaProviderConfig) (other : config.name ≠ "calldata")
    (remote : rest.head? ≠ some calldataHeaderByte) :
    recoverRoute config (seqHeader ++ rest) = .forward (recoverEndpoint config rest.head?) (seqHeader ++ rest) := by
  rw [recoverRoute, byte_after_header seqHeader rest size, if_neg]
  rintro (named | plain)
  · exact other named
  · exact remote plain

end Recover

theorem recover_endpoint_anytrust (config : DaProviderConfig) (url : String) (innerHeader : Option UInt8)
    (configured : config.anytrustFallbackUrl.filter (· ≠ "") = some url) (header : innerHeader.any isAnytrustHeader = true) :
    recoverEndpoint config innerHeader = url := by
  obtain ⟨present, filled⟩ := Option.filter_eq_some_iff.mp configured
  rw [recoverEndpoint, present]
  exact if_pos ⟨by simpa using filled, header⟩

theorem recover_endpoint_primary (config : DaProviderConfig) (innerHeader : Option UInt8)
    (header : innerHeader.any isAnytrustHeader = false) : recoverEndpoint config innerHeader = config.endpointUrl := by
  rw [recoverEndpoint]
  split
  · exact if_neg fun both => Bool.false_ne_true (header.symm.trans both.2)
  · rfl

theorem resolved_route (downstream : Downstream) (state : ServerState)
    (reserved : state.daConfig.name = "calldata" → state.daConfig.endpointUrl = "") (data : Bytes) (timeout : UInt64) (origin : CertOrigin) (cert : Bytes)
    (resolved : Resolved downstream state data timeout origin cert) (first : data.head? = some calldataHeaderByte)
    (primary : ∀ cert, storeVia downstream state.daConfig.endpointUrl data timeout = .ok (.cert cert) →
      ∀ byte ∈ [0x00, 0x70, 0x80, 0x88], cert.head? ≠ some byte)
    (anytrust : ∀ url, state.daConfig.anytrustFallbackUrl = some url → ∀ cert, storeVia downstream url data timeout = .ok (.cert cert) →
      cert.head? = some 0x80 ∨ cert.head? = some 0x88)
    (seqHeader : Bytes) (size : seqHeader.length = sequencerHeaderLen) :
    cert.head? ≠ some espressoHeaderByte ∧
    match origin with
    | .rawData => cert = data ∧ recoverRoute state.daConfig (seqHeader ++ cert) = .payload data
    | .anytrust => ∃ url, state.daConfig.anytrustFallbackUrl = some url ∧ storeVia downstream url data timeout = .ok (.cert cert) ∧
        recoverRoute state.daConfig (seqHeader ++ cert) = .forward url (seqHeader ++ cert)
    | .primary => storeVia downstream state.daConfig.endpointUrl data timeout = .ok (.cert cert) ∧
        recoverRoute state.daConfig (seqHeader ++ cert) = .forward state.daConfig.endpointUrl (seqHeader ++ cert) := by
  have named (configured : state.daConfig.endpointUrl ≠ "") : state.daConfig.name ≠ "calldata" :=
    fun same => configured (reserved same)
  have raw : data.head? ≠ some espressoHeaderByte := by
    rw [first]
    decide
  cases resolved with
  | unconfigured empty => exact ⟨raw, rfl, recover_route_payload seqHeader data size state.daConfig (Or.inr first)⟩
  | calldata requested room => exact ⟨raw, rfl, recover_route_payload seqHeader data size state.daConfig (Or.inr first)⟩
  | anytrust configured url fallback cert answer =>
      have present := (Option.filter_eq_some_iff.mp fallback).1
      have header := anytrust url present cert answer
      have marked : cert.head?.any isAnytrustHeader = true := by
        rcases header with tree | flat
        · rw [tree]
          rfl
        · rw [flat]
          rfl
      have remote : cert.head? ≠ some calldataHeaderByte ∧ cert.head? ≠ some espressoHeaderByte := by
        rcases header with tree | flat
        · rw [tree]
          decide
        · rw [flat]
          decide
      have routed := recover_route_forward seqHeader cert size state.daConfig (named configured) remote.1
      rw [recover_endpoint_anytrust state.daConfig url cert.head? fallback marked] at routed
      exact ⟨remote.2, url, present, answer, routed⟩
  | primary configured cert answer =>
      have bytes := primary cert answer
      have unmarked : cert.head?.any isAnytrustHeader = false := by
        cases head : cert.head? with
        | none => rfl
        | some byte =>
            have apart (known : UInt8) (listed : known ∈ [0x00, 0x70, 0x80, 0x88]) : byte ≠ known :=
              fun same => bytes known listed (head.trans (congrArg some same))
            simp [isAnytrustHeader, anytrustDasHeaderByte, anytrustDasTreeHeaderByte, apart 0x80, apart 0x88]
      have routed := recover_route_forward seqHeader cert size state.daConfig (named configured) (bytes calldataHeaderByte (by simp [calldataHeaderByte]))
      rw [recover_endpoint_primary state.daConfig cert.head? unmarked] at routed
      exact ⟨bytes espressoHeaderByte (by simp [espressoHeaderByte]), answer, routed⟩

/-- A stored batch is recovered from where it was stored, in both forms of the message, and a message that claims a certificate
without a valid one is refused. -/
theorem store_then_recover {Json : Type} (crypto : CasCrypto) (downstream : Downstream) (reader : JsonReader Json)
    (verify : Bytes → Except String VerificationResult) (providers : List DaProviderConfig) (keyManager : KeyManager)
    (calldataMaxSize : UInt64) (routes : List ServerState) (state : ServerState)
    (app : buildApp providers keyManager calldataMaxSize = .ok routes)
    (reserved : ∀ provider ∈ providers, provider.name ≠ "calldata") (mounted : state ∈ routes)
    (signs : SignsForItself crypto keyManager) (body : RpcParams Json) (data : Bytes) (timeout : UInt64)
    (request : storeParams reader body = .ok (data, timeout))
    (verifier : ∀ result, verify data = .ok result →
      ∃ rlp brotli fetched queue, result = handleVerification rlp brotli fetched data queue)
    (primary : ∀ cert, storeVia downstream state.daConfig.endpointUrl data timeout = .ok (.cert cert) →
      ∀ byte ∈ [0x00, 0x70, 0x80, 0x88], cert.head? ≠ some byte)
    (anytrust : ∀ url, state.daConfig.anytrustFallbackUrl = some url → ∀ cert, storeVia downstream url data timeout = .ok (.cert cert) →
      cert.head? = some 0x80 ∨ cert.head? = some 0x88)
    (origin : CertOrigin) (certificate : Bytes)
    (stored : handleStore crypto downstream reader verify state body = .ok (.stored origin certificate)) :
    (∃ cert, CasCertificate.fromBytes certificate = .ok cert ∧
      ∀ seqHeader : Bytes, seqHeader.length = sequencerHeaderLen → ∀ method wrapped plain batchNum batchBlockHash,
        recoverParams reader wrapped = .ok (batchNum, batchBlockHash, seqHeader ++ certificate) →
        recoverParams reader plain = .ok (batchNum, batchBlockHash, seqHeader ++ cert.downstreamCertificate) →
        handleRecoverInner crypto downstream reader state method wrapped = handleRecoverInner crypto downstream reader state method plain ∧
        match origin with
        | .rawData => cert.downstreamCertificate = data ∧
            handleRecoverInner crypto downstream reader state method plain = ⟨none, .ok (.payload data)⟩
        | .anytrust => ∃ url, state.daConfig.anytrustFallbackUrl = some url ∧
            storeVia downstream url data timeout = .ok (.cert cert.downstreamCertificate) ∧
            handleRecoverInner crypto downstream reader state method plain =
              forwardRecover downstream url ⟨method, batchNum, batchBlockHash, seqHeader ++ cert.downstreamCertificate⟩
        | .primary => storeVia downstream state.daConfig.endpointUrl data timeout = .ok (.cert cert.downstreamCertificate) ∧
            handleRecoverInner crypto downstream reader state method plain =
              forwardRecover downstream state.daConfig.endpointUrl
                ⟨method, batchNum, batchBlockHash, seqHeader ++ cert.downstreamCertificate⟩) ∧
    (∀ method claiming batchNum batchBlockHash sequencerMsg,
      recoverParams reader claiming = .ok (batchNum, batchBlockHash, sequencerMsg) →
      sequencerMsg[sequencerHeaderLen]? = some espressoHeaderByte →
      (∀ cert, CasCertificate.fromBytes (sequencerMsg.drop sequencerHeaderLen) = .ok cert →
        cert.validate crypto keyManager.signer keyManager.parentChainId keyManager.teeVerifierAddress ≠ .ok ()) →
      ∃ reason, handleRecoverInner crypto downstream reader state method claiming = ⟨none, .error reason⟩) := by
  have unnamed := build_app_reserved providers keyManager calldataMaxSize routes app reserved state mounted
  obtain rfl := (build_app_mounted providers keyManager calldataMaxSize routes app state mounted).signer
  constructor
  · obtain ⟨result, downstreamCert, cert, kept⟩ := (handle_store_stored_iff crypto downstream reader verify state body data timeout
      request origin certificate).mp stored
    obtain ⟨rlp, brotli, fetched, queue, checked⟩ := verifier result kept.verified
    have first : data.head? = some calldataHeaderByte := verified_head rlp brotli fetched data queue (checked ▸ kept.success)
    have encoded := built_to_bytes crypto state.keyManager _ cert kept.built
    obtain ⟨long, -, same, -⟩ := build_ok crypto state.keyManager _ cert kept.built
    obtain rfl : cert.downstreamCertificate = downstreamCert := congrArg CertificateArguments.downstreamCert same
    obtain rfl := kept.encoded
    have nonempty : cert.downstreamCertificate ≠ [] := by
      intro empty
      change 2 ≤ cert.downstreamCertificate.length at long
      rw [empty] at long
      exact absurd long (by decide)
    refine ⟨cert, from_bytes_to_bytes cert cert.wire encoded, fun seqHeader size method wrapped plain batchNum batchBlockHash ask bare => ?_⟩
    have unwrapped := da_certificate_wrapped crypto state signs _ cert kept.built seqHeader size
    have resolved := resolve_resolved downstream state data timeout origin _ kept.resolved
    obtain ⟨unmarked, from'⟩ := resolved_route downstream state unnamed data timeout origin _ resolved first primary anytrust seqHeader size
    have untouched := da_certificate_plain crypto state seqHeader _ size nonempty unmarked
    rw [handle_recover_routed crypto downstream reader state method wrapped batchNum batchBlockHash _ _ ask unwrapped,
      handle_recover_routed crypto downstream reader state method plain batchNum batchBlockHash _ _ bare untouched]
    refine ⟨rfl, ?_⟩
    cases origin with
    | rawData => exact ⟨from'.1, by rw [from'.2]; rfl⟩
    | anytrust =>
        obtain ⟨url, present, answer, routed⟩ := from'
        exact ⟨url, present, answer, by rw [routed]; rfl⟩
    | primary => exact ⟨from'.1, by rw [from'.2]; rfl⟩
  · intro method claiming batchNum batchBlockHash sequencerMsg ask marked invalid
    obtain ⟨reason, refused⟩ := da_certificate_invalid crypto state sequencerMsg marked invalid
    exact ⟨reason, handle_recover_refused crypto downstream reader state method claiming batchNum batchBlockHash sequencerMsg reason ask refused⟩

-- A provider whose endpoints both ask for the fallback.
def sidecarConfig : DaProviderConfig := ⟨"celestia", "http://celestia:9876", some "http://anytrust:9876"⟩

def fallbackBody : Bytes :=
  ascii "\x7b\"jsonrpc\":\"2.0\",\"id\":1,\"error\":\x7b\"code\":-32000,\"message\":\"DA provider requests fallback to next writer\"\x7d\x7d"

def fallbackDownstream : Downstream where
  store _ _ _ := .ok ⟨200, .ok fallbackBody⟩
  recover _ _ := .error "error sending request"
  parseStoreBody bytes :=
    if bytes = fallbackBody then
      .ok ⟨some (some ⟨-32000, nitroErrFallbackRequested⟩, "the error member"), .error "invalid type: null, expected struct DAStoreResponse"⟩
    else .error "expected value at line 1 column 1"

def bytesReader : JsonReader Bytes where
  bytes value := .ok value
  u64 value := .ok (fromBeBytes value)
  hash value := if width : value.length = 32 then .ok ⟨value.toArray, by simpa using width⟩ else .error "invalid string length"

def firstVerify (data : Bytes) : Except String VerificationResult :=
  .ok (handleVerification Rlp.stringCodec firstBrotli (some (.ok ⟨1, 1⟩)) data [⟨firstFeedMessage, 1⟩])

def firstStoreBody : RpcParams Bytes := some [firstArguments.downstreamCert, beBytes 5]

def sidecarRoutes (keyManager : KeyManager) (calldataMaxSize : UInt64) : List ServerState :=
  [sidecarConfig, DaProviderConfig.calldata].map (serverState keyManager calldataMaxSize)

theorem first_signs_for_itself : SignsForItself firstCrypto firstKeyManager := by
  intro hash sig signed
  by_cases same : hash = firstSigningHash
  · have produced : firstKeyManager.signHashSync hash = .ok firstSignature := if_pos same
    obtain rfl := Except.ok.inj (produced.symm.trans signed)
    exact ⟨firstSignature, by decide +kernel, by rw [same]; decide +kernel⟩
  · have refused : firstKeyManager.signHashSync hash = .error "unavailable" := if_neg same
    cases refused.symm.trans signed

theorem sidecar_requests_fallback (keyManager : KeyManager) (calldataMaxSize : UInt64) :
    RequestsFallback fallbackDownstream (serverState keyManager calldataMaxSize sidecarConfig) firstArguments.downstreamCert 5 := by
  have answer (url : String) : storeVia fallbackDownstream url firstArguments.downstreamCert 5 = .ok (.fallback nitroErrFallbackRequested) := by
    have same : storeVia fallbackDownstream url firstArguments.downstreamCert 5 =
        storeVia fallbackDownstream "" firstArguments.downstreamCert 5 := rfl
    rw [same]
    decide +kernel
  have configured : sidecarConfig.endpointUrl ≠ "" := by decide
  exact ⟨configured, ⟨_, answer _⟩, fun url _ => ⟨_, answer url⟩⟩

def recoverBody (sequencerMsg : Bytes) : RpcParams Bytes := some [beBytes 3, List.replicate 32 0, List.replicate 40 0 ++ sequencerMsg]

theorem store_then_recover_first :
    handleStore firstCrypto fallbackDownstream bytesReader firstVerify (serverState firstKeyManager 1000 sidecarConfig) firstStoreBody =
      .ok (.stored .rawData firstCertificate.wire) ∧
    handleRecoverInner firstCrypto fallbackDownstream bytesReader (serverState firstKeyManager 1000 sidecarConfig)
        "daprovider_recoverPayload" (recoverBody firstCertificate.wire) = ⟨none, .ok (.payload firstArguments.downstreamCert)⟩ ∧
    handleRecoverInner firstCrypto fallbackDownstream bytesReader (serverState firstKeyManager 1000 sidecarConfig)
        "daprovider_recoverPayload" (recoverBody firstArguments.downstreamCert) = ⟨none, .ok (.payload firstArguments.downstreamCert)⟩ := by
  have stored : handleStore firstCrypto fallbackDownstream bytesReader firstVerify (serverState firstKeyManager 1000 sidecarConfig)
      firstStoreBody = .ok (.stored .rawData firstCertificate.wire) := by decide +kernel
  have requested := sidecar_requests_fallback firstKeyManager 1000
  have refused : ∀ url cert, storeVia fallbackDownstream url firstArguments.downstreamCert 5 ≠ .ok (.cert cert) := by
    intro url cert given
    obtain ⟨reason, primary⟩ := requested.primary
    cases primary.symm.trans given
  obtain ⟨cert, decoded, recovers⟩ := (store_then_recover firstCrypto fallbackDownstream bytesReader firstVerify [sidecarConfig] firstKeyManager
    1000 (sidecarRoutes firstKeyManager 1000) (serverState firstKeyManager 1000 sidecarConfig) (by rfl)
    (fun provider member => by rw [List.mem_singleton.mp member]; decide) (by simp [sidecarRoutes]) first_signs_for_itself
    firstStoreBody firstArguments.downstreamCert 5 (by decide +kernel)
    (fun result verified => ⟨_, _, _, _, (Except.ok.inj verified).symm⟩)
    (fun cert given => absurd given (refused _ cert)) (fun url _ cert given => absurd given (refused url cert))
    .rawData firstCertificate.wire stored).1
  have own : CasCertificate.fromBytes firstCertificate.wire = .ok firstCertificate := by decide +kernel
  obtain rfl := Except.ok.inj (own.symm.trans decoded)
  obtain ⟨same, -, payload⟩ := recovers (List.replicate 40 0) rfl "daprovider_recoverPayload" (recoverBody firstCertificate.wire)
    (recoverBody firstArguments.downstreamCert) 3 (Vector.replicate 32 0) (by decide +kernel) (by decide +kernel)
  exact ⟨stored, same.trans payload, payload⟩

section Limit

variable {Json : Type} (crypto : CasCrypto) (downstream : Downstream) (reader : JsonReader Json)
  (verify : Bytes → Except String VerificationResult)

theorem raw_stored (state : ServerState) (body : RpcParams Json) (data : Bytes) (timeout : UInt64)
    (request : storeParams reader body = .ok (data, timeout)) (certificate : Bytes)
    (stored : handleStore crypto downstream reader verify state body = .ok (.stored .rawData certificate)) :
    certificate.length = espressoCertSize + data.length ∧ tooLarge state.maxMessageSize data = false ∧ 2 ≤ data.length ∧
    resolveDownstreamCert downstream state data timeout = .ok (.cert .rawData data) := by
  obtain ⟨result, downstreamCert, cert, kept⟩ :=
    (handle_store_stored_iff crypto downstream reader verify state body data timeout request .rawData certificate).mp stored
  obtain ⟨long, header, same, -⟩ := build_ok crypto state.keyManager _ cert kept.built
  have raw := resolved_raw downstream state data timeout downstreamCert
    (resolve_resolved downstream state data timeout .rawData downstreamCert kept.resolved)
  have tail : cert.downstreamCertificate = downstreamCert := congrArg CertificateArguments.downstreamCert same
  have length : certificate.length = espressoCertSize + downstreamCert.length := by
    rw [← kept.encoded, length_wire, header, tail]
    rfl
  exact ⟨raw ▸ length, kept.small, raw ▸ long, raw ▸ kept.resolved⟩

theorem raw_stored_iff (state : ServerState) (body : RpcParams Json) (data : Bytes) (timeout : UInt64)
    (request : storeParams reader body = .ok (data, timeout)) (willing : ∀ hash, ∃ sig, state.keyManager.signHashSync hash = .ok sig)
    (accepted : ∃ result, verify data = .ok result ∧ result.success = true) :
    (∃ certificate, handleStore crypto downstream reader verify state body = .ok (.stored .rawData certificate)) ↔
      tooLarge state.maxMessageSize data = false ∧ 2 ≤ data.length ∧
      resolveDownstreamCert downstream state data timeout = .ok (.cert .rawData data) := by
  constructor
  · intro given
    obtain ⟨certificate, stored⟩ := given
    exact (raw_stored crypto downstream reader verify state body data timeout request certificate stored).2
  · intro given
    obtain ⟨small, long, resolved⟩ := given
    obtain ⟨result, verified, success⟩ := accepted
    obtain ⟨cert, built⟩ := build_exists crypto state.keyManager (certificateArguments result data) long willing
    exact ⟨cert.wire, (handle_store_stored_iff crypto downstream reader verify state body data timeout request .rawData cert.wire).mpr
      ⟨result, data, cert, small, verified, success, resolved, built, rfl⟩⟩

theorem too_large_iff (maxSize : UInt64) (data : Bytes) : tooLarge (some maxSize) data = false ↔ data.length ≤ maxSize.toNat := by
  rw [tooLarge, decide_eq_false_iff_not, Nat.not_lt]

theorem direct_stored_iff (keyManager : KeyManager) (calldataMaxSize : UInt64) (body : RpcParams Json) (data : Bytes) (timeout : UInt64)
    (request : storeParams reader body = .ok (data, timeout)) (willing : ∀ hash, ∃ sig, keyManager.signHashSync hash = .ok sig)
    (accepted : ∃ result, verify data = .ok result ∧ result.success = true) :
    (∃ certificate, handleStore crypto downstream reader verify (serverState keyManager calldataMaxSize .calldata) body =
        .ok (.stored .rawData certificate)) ↔
      2 ≤ data.length ∧ data.length ≤ calldataMaxSize.toNat := by
  have straight : resolveDownstreamCert downstream (serverState keyManager calldataMaxSize .calldata) data timeout =
      .ok (.cert .rawData data) := if_pos rfl
  have limit : tooLarge (serverState keyManager calldataMaxSize .calldata).maxMessageSize data = false ↔
      data.length ≤ calldataMaxSize.toNat := too_large_iff calldataMaxSize data
  rw [raw_stored_iff crypto downstream reader verify _ body data timeout request willing accepted, limit]
  simp only [straight, and_true]
  exact And.comm

theorem fallback_stored_iff (keyManager : KeyManager) (calldataMaxSize : UInt64) (state : ServerState)
    (route : Mounted keyManager calldataMaxSize state) (body : RpcParams Json) (data : Bytes) (timeout : UInt64)
    (request : storeParams reader body = .ok (data, timeout)) (requested : RequestsFallback downstream state data timeout)
    (willing : ∀ hash, ∃ sig, keyManager.signHashSync hash = .ok sig)
    (accepted : ∃ result, verify data = .ok result ∧ result.success = true) :
    (∃ certificate, handleStore crypto downstream reader verify state body = .ok (.stored .rawData certificate)) ↔
      2 ≤ data.length ∧ espressoCertSize + data.length ≤ calldataMaxSize.toNat := by
  have fallback : resolveDownstreamCert downstream state data timeout = .ok (.cert .rawData data) ↔
      espressoCertSize + data.length ≤ calldataMaxSize.toNat := by
    rw [resolve_requested downstream state data timeout requested, calldata_fallback_iff, route.limit]
    simp
  rw [raw_stored_iff crypto downstream reader verify state body data timeout request (route.signer ▸ willing) accepted, fallback]
  constructor
  · intro given
    exact given.2
  · intro given
    refine ⟨?_, given⟩
    -- A limit of the route itself is met by whatever leaves room for the wrapper.
    rw [route.sized]
    split
    · exact (too_large_iff calldataMaxSize data).mpr ((Nat.le_add_left _ _).trans given.2)
    · rfl

/-- A certificate with raw data keeps the calldata limit when the route has an endpoint, and otherwise only when the data leave room
for the wrapper. The direct path and the fallback path differ exactly on the sizes in between. -/
theorem calldata_limit_iff (providers : List DaProviderConfig) (keyManager : KeyManager) (calldataMaxSize : UInt64)
    (routes : List ServerState) (app : buildApp providers keyManager calldataMaxSize = .ok routes) (body : RpcParams Json) (data : Bytes)
    (timeout : UInt64) (request : storeParams reader body = .ok (data, timeout)) :
    (∀ state ∈ routes, ∀ certificate, handleStore crypto downstream reader verify state body = .ok (.stored .rawData certificate) →
      (certificate.length ≤ calldataMaxSize.toNat ↔
        state.daConfig.endpointUrl ≠ "" ∨ espressoCertSize + data.length ≤ calldataMaxSize.toNat)) ∧
    (∀ other ∈ routes, RequestsFallback downstream other data timeout →
      (∀ hash, ∃ sig, keyManager.signHashSync hash = .ok sig) → (∃ result, verify data = .ok result ∧ result.success = true) →
      (((∃ certificate, handleStore crypto downstream reader verify (serverState keyManager calldataMaxSize .calldata) body =
          .ok (.stored .rawData certificate)) ↔
          ∃ certificate, handleStore crypto downstream reader verify other body = .ok (.stored .rawData certificate)) ↔
        data.length < 2 ∨ calldataMaxSize.toNat < data.length ∨ espressoCertSize + data.length ≤ calldataMaxSize.toNat)) := by
  have mounted := build_app_mounted providers keyManager calldataMaxSize routes app
  constructor
  · intro state member certificate stored
    obtain ⟨length, -, -, resolved⟩ := raw_stored crypto downstream reader verify state body data timeout request certificate stored
    have route := mounted state member
    rw [length]
    constructor
    · intro room
      exact Or.inr room
    · intro given
      cases given with
      | inr room => exact room
      | inl configured =>
          -- With an endpoint the raw data can only come from the checked fallback.
          cases resolve_resolved downstream state data timeout .rawData data resolved with
          | unconfigured empty => exact absurd empty configured
          | calldata requested room => exact route.limit ▸ room
  · intro other member requested willing accepted
    rw [direct_stored_iff crypto downstream reader verify keyManager calldataMaxSize body data timeout request willing accepted,
      fallback_stored_iff crypto downstream reader verify keyManager calldataMaxSize other (mounted other member) body data timeout
        request requested willing accepted]
    have wrapper : espressoCertSize = 137 := rfl
    omega

end Limit

-- The direct path accepts what the fallback path refuses: with a limit of 100 bytes, 11 bytes of data in a certificate of 148.
theorem calldata_limit_exceeded :
    handleStore firstCrypto fallbackDownstream bytesReader firstVerify (serverState firstKeyManager 100 .calldata) firstStoreBody =
      .ok (.stored .rawData firstCertificate.wire) ∧
    firstCertificate.wire.length = 148 ∧
    handleStore firstCrypto fallbackDownstream bytesReader firstVerify (serverState firstKeyManager 100 sidecarConfig) firstStoreBody =
      .error .dynamicBatchingResize := by
  decide +kernel

def willingKeyManager : KeyManager := { firstKeyManager with signHashSync := fun _ => .ok firstSignature }

theorem calldata_limit_iff_roomy :
    firstCertificate.wire.length ≤ 1000 ∧
    ((∃ certificate, handleStore firstCrypto fallbackDownstream bytesReader firstVerify (serverState willingKeyManager 1000 .calldata)
        firstStoreBody = .ok (.stored .rawData certificate)) ↔
      ∃ certificate, handleStore firstCrypto fallbackDownstream bytesReader firstVerify (serverState willingKeyManager 1000 sidecarConfig)
        firstStoreBody = .ok (.stored .rawData certificate)) := by
  have limit := calldata_limit_iff firstCrypto fallbackDownstream bytesReader firstVerify [sidecarConfig] willingKeyManager 1000
    (sidecarRoutes willingKeyManager 1000) (by rfl) firstStoreBody firstArguments.downstreamCert 5 (by decide +kernel)
  have stored : handleStore firstCrypto fallbackDownstream bytesReader firstVerify (serverState willingKeyManager 1000 .calldata)
      firstStoreBody = .ok (.stored .rawData firstCertificate.wire) := by decide +kernel
  have room : espressoCertSize + firstArguments.downstreamCert.length ≤ (1000 : UInt64).toNat := by decide
  have accepted : ∃ result, firstVerify firstArguments.downstreamCert = .ok result ∧ result.success = true :=
    ⟨⟨true, 1, 1, 1, 1, 0⟩, by decide +kernel, rfl⟩
  exact ⟨(limit.1 _ (by simp [sidecarRoutes]) _ stored).mpr (Or.inr room),
    (limit.2 _ (by simp [sidecarRoutes]) (sidecar_requests_fallback willingKeyManager 1000)
      (fun _ => ⟨firstSignature, rfl⟩) accepted).mpr (Or.inr (Or.inr room))⟩

end Cas
