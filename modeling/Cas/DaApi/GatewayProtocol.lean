import Cas.DaApi.Gateway

set_option autoImplicit false

namespace Cas

section Protocol

structure Asks (library : RpcLibrary) (body : Bytes) (parsed : Value) (method : Bytes) : Prop where
  reads : library.fromSlice body = .ok parsed
  names : (parsed.index (ascii "method")).asStr = some method

def recoveries : List String := [Method.recoverPayload, Method.collectPreimages, Method.recoverPayloadAndPreimages]

-- The methods that are never handed on as they came.
def intercepted : List Bytes := (Method.store :: recoveries ++ [Method.getSupportedHeaderBytes]).map ascii

variable (crypto : CasCrypto) (library : RpcLibrary) (nitroV399 : Bool) (state : RpcState) (body : Bytes)

def RequestsStore (data : Bytes) (timeout : UInt64) (id : Value) : Prop :=
  ∃ parsed, Asks library body parsed (ascii Method.store) ∧
    storeParams library.toJsonReader (parsed.index (ascii "params")).asArray = .ok (data, timeout) ∧ id = parsed.index (ascii "id")

def RequestsRecovery (method : String) (batchNum : UInt64) (batchBlockHash : B256) (sequencerMsg : Bytes) (id : Value) : Prop :=
  method ∈ recoveries ∧ ∃ parsed, Asks library body parsed (ascii method) ∧
    recoverParams library.toJsonReader (parsed.index (ascii "params")).asArray = .ok (batchNum, batchBlockHash, sequencerMsg) ∧
    id = parsed.index (ascii "id")

def HttpReply.succeeded (reply : HttpReply) : Prop := 200 ≤ reply.status ∧ reply.status < 300

-- The reply is a success whose error member has the text by which a provider asks for the next writer.
def AsksForFallback (reply : HttpReply) : Prop :=
  reply.succeeded ∧ ∃ bytes stored err text, reply.body = .ok bytes ∧ library.parseStoreBody bytes = .ok stored ∧
    stored.error = some (some err, text) ∧ containsText err.message nitroErrFallbackRequested ∧
    ¬containsText err.message nitroErrMessageTooLarge

def GivesCert (reply : HttpReply) (cert : Bytes) : Prop :=
  reply.succeeded ∧ ∃ bytes stored, reply.body = .ok bytes ∧ library.parseStoreBody bytes = .ok stored ∧ stored.error = none ∧
    stored.result = .ok cert

-- What is recovered from: a message that carries no certificate of the service, or the message that a valid one wraps.
def Unwraps (sequencerMsg inner : Bytes) : Prop :=
  sequencerMsg[40]? ≠ some espressoHeaderByte ∧ inner = sequencerMsg ∨
    sequencerMsg[40]? = some espressoHeaderByte ∧ ∃ cert, CasCertificate.fromBytes (sequencerMsg.drop 40) = .ok cert ∧
      cert.validate crypto state.keyManager.signer state.keyManager.parentChainId state.keyManager.teeVerifierAddress = .ok () ∧
      inner = sequencerMsg.take 40 ++ cert.downstreamCertificate

def HoldsContent (inner : Bytes) : Prop := state.daConfig.name = "calldata" ∨ inner[40]? = some calldataHeaderByte

def OfAnytrust (inner : Bytes) : Prop := inner[40]? = some anytrustDasHeaderByte ∨ inner[40]? = some anytrustDasTreeHeaderByte

def RecoversFrom (inner : Bytes) (endpoint : String) : Prop :=
  OfAnytrust inner ∧ state.daConfig.anytrustFallbackUrl = some endpoint ∧ endpoint ≠ "" ∨
    endpoint = state.daConfig.endpointUrl ∧ (OfAnytrust inner → ∀ url, state.daConfig.anytrustFallbackUrl = some url → url = "")

-- When a request may ask what, by what it has asked and was answered before.
def Permitted (past : List (Sigma GatewayCall.Answer)) : GatewayCall → Prop
  | .verify data => ∃ timeout id, RequestsStore library body data timeout id
  | .store endpoint data timeout id => RequestsStore library body data timeout id ∧ endpoint ≠ "" ∧
      (∃ result, ⟨.verify data, .ok result⟩ ∈ past ∧ result.success = true) ∧
      (endpoint = state.daConfig.endpointUrl ∨ state.daConfig.anytrustFallbackUrl = some endpoint ∧
        ∃ reply, ⟨.store state.daConfig.endpointUrl data timeout id, .ok reply⟩ ∈ past ∧ AsksForFallback library reply)
  | .recover endpoint call id => ∃ sequencerMsg,
      RequestsRecovery library body call.method call.batchNum call.batchBlockHash sequencerMsg id ∧
      Unwraps crypto state sequencerMsg call.daCertificate ∧ ¬HoldsContent state call.daCertificate ∧
      RecoversFrom state call.daCertificate endpoint
  | .json endpoint value => endpoint = state.daConfig.endpointUrl ∧ Asks library body value (ascii Method.getSupportedHeaderBytes)
  | .raw endpoint bytes => endpoint = state.daConfig.endpointUrl ∧ bytes = body ∧
      ∃ parsed method, Asks library body parsed method ∧ method ∉ intercepted

def httpReply : Sigma GatewayCall.Answer → Option (Except String HttpReply)
  | ⟨.verify _, _⟩ => none
  | ⟨.store _ _ _ _, answer⟩ => some answer
  | ⟨.recover _ _ _, answer⟩ => some answer
  | ⟨.json _ _, answer⟩ => some answer
  | ⟨.raw _ _, answer⟩ => some answer

def RelayedFrom (past : List (Sigma GatewayCall.Answer)) (status : Nat) (bytes : Bytes) : Prop :=
  ∃ exchange ∈ past, ∃ reply, httpReply exchange = some (.ok reply) ∧ reply.body = .ok bytes ∧
    (reply.status = status ∨ status = 200 ∧ reply.succeeded)

def Gave (past : List (Sigma GatewayCall.Answer)) (url : String) (data cert : Bytes) : Prop :=
  ∃ timeout id reply, ⟨.store url data timeout id, .ok reply⟩ ∈ past ∧ GivesCert library reply cert

def Declined (past : List (Sigma GatewayCall.Answer)) (url : String) (data : Bytes) : Prop :=
  ∃ timeout id reply, ⟨.store url data timeout id, .ok reply⟩ ∈ past ∧ AsksForFallback library reply

-- The batch itself is the certificate only without an endpoint, or when every configured one has declined it and it fits.
def DownstreamCert (past : List (Sigma GatewayCall.Answer)) (data : Bytes) : CertOrigin → Bytes → Prop
  | .rawData, cert => cert = data ∧ (state.daConfig.endpointUrl = "" ∨
      Declined library past state.daConfig.endpointUrl data ∧
        (∀ url, state.daConfig.anytrustFallbackUrl = some url → url ≠ "" → Declined library past url data) ∧
        espressoCertSize + data.length ≤ state.calldataMaxSize.toNat)
  | .primary, cert => Gave library past state.daConfig.endpointUrl data cert
  | .anytrust, cert => Declined library past state.daConfig.endpointUrl data ∧
      ∃ url, state.daConfig.anytrustFallbackUrl = some url ∧ Gave library past url data cert

def Resolution (past : List (Sigma GatewayCall.Answer)) (data : Bytes) : DownstreamCertOutcome → Prop
  | .cert origin cert => DownstreamCert library state past data origin cert
  | .forward status bytes => RelayedFrom past status bytes

def OwnHeaders (others : Bytes) : Prop :=
  state.daConfig.name = "calldata" ∧ others = [] ∨
    state.daConfig.name ≠ "calldata" ∧ state.isAnytrust = true ∧
      others = if nitroV399 then [anytrustDasHeaderByte, anytrustDasTreeHeaderByte] else []

def Announced (past : List (Sigma GatewayCall.Answer)) (others : Bytes) : Prop :=
  ∃ value reply raw parsed hexStr, ⟨.json state.daConfig.endpointUrl value, .ok reply⟩ ∈ past ∧ reply.succeeded ∧ reply.body = .ok raw ∧
    library.fromSlice raw = .ok parsed ∧ parsed.get (ascii "error") = none ∧
    ((parsed.index (ascii "result")).index (ascii "headerBytes")).asStr = some hexStr ∧ Hex.decode (strip0x hexStr) = .ok others

def Justified (past : List (Sigma GatewayCall.Answer)) : RpcResponse → Prop
  | .relayed status bytes => RelayedFrom past status bytes
  | .stored _ origin certificate => ∃ data result downstreamCert cert, ⟨.verify data, .ok result⟩ ∈ past ∧ result.success = true ∧
      DownstreamCert library state past data origin downstreamCert ∧
      buildEspressoCertificate crypto state.keyManager (certificateArguments result downstreamCert) = .ok cert ∧ cert.wire = certificate
  | .payload _ bytes => ∃ method batchNum batchBlockHash sequencerMsg id inner,
      RequestsRecovery library body method batchNum batchBlockHash sequencerMsg id ∧ Unwraps crypto state sequencerMsg inner ∧
      HoldsContent state inner ∧ bytes = inner.drop 40
  | .headerBytes _ text => ∃ others, Hex.decode (strip0x text) = .ok (espressoHeaderByte :: others) ∧
      (OwnHeaders nitroV399 state others ∨ Announced library state past others)
  | .maxMessageSize _ size => state.maxMessageSize = some size

def ReadAs (reply : HttpReply) : StoreOutcome → Prop
  | .cert cert => GivesCert library reply cert
  | .fallback _ => AsksForFallback library reply
  | .forward status bytes => reply.body = .ok bytes ∧ (reply.status = status ∨ status = 200 ∧ reply.succeeded)

theorem fallback_error_text (err : JsonRpcError) (reason : String) (asks : DaApiError.ofJsonRpcError err = .fallbackRequested reason) :
    containsText err.message nitroErrFallbackRequested ∧ ¬containsText err.message nitroErrMessageTooLarge := by
  rw [DaApiError.ofJsonRpcError] at asks
  by_cases large : containsText err.message nitroErrMessageTooLarge
  · rw [if_pos large] at asks
    cases asks
  · rw [if_neg large] at asks
    by_cases next : containsText err.message nitroErrFallbackRequested
    · exact ⟨next, large⟩
    · rw [if_neg next] at asks
      cases asks

theorem store_answer_read (answer : Except String HttpReply) (outcome : StoreOutcome) (same : storeAnswer library answer = .ok outcome) :
    ∃ reply, answer = .ok reply ∧ ReadAs library reply outcome := by
  cases answer with
  | error reason => cases same
  | ok reply =>
      refine ⟨reply, rfl, ?_⟩
      cases read : reply.body with
      | error reason => simp [storeAnswer, storeVia, read] at same
      | ok raw =>
          by_cases success : 200 ≤ reply.status ∧ reply.status < 300
          · cases parsed : library.parseStoreBody raw with
            | error reason => simp [storeAnswer, storeVia, read, success, parsed] at same
            | ok stored =>
                cases member : stored.error with
                | none =>
                    cases found : stored.result with
                    | error reason => simp [storeAnswer, storeVia, read, success, parsed, member, found] at same
                    | ok cert =>
                        simp only [storeAnswer, storeVia, read, success, parsed, member, found, and_self, not_true, if_false,
                          Except.ok.injEq] at same
                        subst outcome
                        exact ⟨success, raw, stored, read, parsed, member, found⟩
                | some both =>
                    obtain ⟨err, text⟩ := both
                    simp only [storeAnswer, storeVia, read, success, parsed, member, and_self, not_true, if_false] at same
                    split at same
                    · rename_i reason named
                      obtain rfl := Except.ok.inj same
                      cases err with
                      | none => cases named
                      | some err => exact ⟨success, raw, stored, err, text, read, parsed, member, fallback_error_text err reason named⟩
                    · obtain rfl := Except.ok.inj same
                      exact ⟨read, .inr ⟨rfl, success⟩⟩
          · simp only [storeAnswer, storeVia, read, success, not_false_eq_true, if_true, Except.ok.injEq] at same
            subst outcome
            exact ⟨read, .inl rfl⟩

theorem pass_on_ok (answer : Except String HttpReply) (response : Response) (passed : passOn answer = .ok response) :
    ∃ reply bytes, answer = .ok reply ∧ reply.body = .ok bytes ∧ response = .forwarded reply.status bytes := by
  cases answer with
  | error reason => cases passed
  | ok reply =>
      cases read : reply.body with
      | error reason => simp [passOn, read] at passed
      | ok bytes =>
          simp only [passOn, read, Except.ok.injEq] at passed
          exact ⟨reply, bytes, rfl, read, passed.symm⟩

theorem calldata_fallback_raw (server : ServerState) (data : Bytes) (found : DownstreamCertOutcome)
    (fallback : calldataFallback server data = .ok found) :
    found = .cert .rawData data ∧ espressoCertSize + data.length ≤ server.calldataMaxSize.toNat := by
  rw [calldataFallback] at fallback
  split at fallback
  · cases fallback
  · rename_i room
    exact ⟨(Except.ok.inj fallback).symm, Nat.not_lt.mp room⟩

theorem after_anytrust_resolved (past : List (Sigma GatewayCall.Answer)) (url : String) (data : Bytes) (timeout : UInt64) (id : Value)
    (answer : Except String HttpReply) (configured : state.daConfig.anytrustFallbackUrl = some url)
    (declined : Declined library past state.daConfig.endpointUrl data) (asked : ⟨.store url data timeout id, answer⟩ ∈ past)
    (found : DownstreamCertOutcome) (same : afterAnytrust library state.toServerState data answer = .ok found) :
    Resolution library state past data found := by
  cases given : storeAnswer library answer with
  | error reason => simp [afterAnytrust, given] at same
  | ok outcome =>
      obtain ⟨reply, rfl, read⟩ := store_answer_read library answer outcome given
      cases outcome with
      | cert cert =>
          simp only [afterAnytrust, given, Except.ok.injEq] at same
          subst found
          exact ⟨declined, url, configured, timeout, id, reply, asked, read⟩
      | forward status bytes =>
          simp only [afterAnytrust, given, Except.ok.injEq] at same
          subst found
          exact ⟨_, asked, reply, rfl, read⟩
      | fallback reason =>
          simp only [afterAnytrust, given] at same
          obtain ⟨rfl, room⟩ := calldata_fallback_raw _ data found same
          refine ⟨rfl, .inr ⟨declined, fun other present _ => ?_, room⟩⟩
          obtain rfl := Option.some.inj (configured.symm.trans present)
          exact ⟨timeout, id, reply, asked, read⟩

def Resolving (data : Bytes) (result : VerificationResult) (past : List (Sigma GatewayCall.Answer))
    (outcome : Except DaApiError DownstreamCertOutcome) : Prop :=
  ⟨.verify data, .ok result⟩ ∈ past ∧ ∀ found, outcome = .ok found → Resolution library state past data found

theorem after_primary_keeps (past : List (Sigma GatewayCall.Answer)) (id : Value) (data : Bytes) (timeout : UInt64)
    (requested : RequestsStore library body data timeout id) (result : VerificationResult)
    (verified : ⟨.verify data, .ok result⟩ ∈ past) (success : result.success = true) (answer : Except String HttpReply)
    (asked : ⟨.store state.daConfig.endpointUrl data timeout id, answer⟩ ∈ past) :
    Exchange.Keeps (Permitted crypto library state body) (Resolving library state data result) past
      (afterPrimary library state.toServerState id data timeout answer) := by
  rw [afterPrimary]
  cases given : storeAnswer library answer with
  | error reason => exact ⟨verified, fun found same => by cases same⟩
  | ok outcome =>
      obtain ⟨reply, rfl, read⟩ := store_answer_read library answer outcome given
      cases outcome with
      | cert cert =>
          refine ⟨verified, fun found same => ?_⟩
          obtain rfl := Except.ok.inj same
          exact ⟨timeout, id, reply, asked, read⟩
      | forward status bytes =>
          refine ⟨verified, fun found same => ?_⟩
          obtain rfl := Except.ok.inj same
          exact ⟨_, asked, reply, rfl, read⟩
      | fallback reason =>
          cases configured : state.daConfig.anytrustFallbackUrl.filter (· ≠ "") with
          | none =>
              refine ⟨verified, fun found same => ?_⟩
              obtain ⟨rfl, room⟩ := calldata_fallback_raw _ data found same
              refine ⟨rfl, .inr ⟨⟨timeout, id, reply, asked, read⟩, fun url present set => ?_, room⟩⟩
              rw [present, Option.filter_some_pos (by simpa using set)] at configured
              cases configured
          | some url =>
              obtain ⟨present, set⟩ := Option.filter_eq_some_iff.mp configured
              refine ⟨⟨requested, by simpa using set, ⟨result, verified, success⟩, .inr ⟨present, reply, asked, read⟩⟩, fun later => ?_⟩
              refine ⟨List.mem_append_left _ verified, fun found same => ?_⟩
              exact after_anytrust_resolved library state _ url data timeout id later present
                ⟨timeout, id, reply, List.mem_append_left _ asked, read⟩ (by simp) found same

theorem resolve_cert_keeps (past : List (Sigma GatewayCall.Answer)) (id : Value) (data : Bytes) (timeout : UInt64)
    (requested : RequestsStore library body data timeout id) (result : VerificationResult)
    (verified : ⟨.verify data, .ok result⟩ ∈ past) (success : result.success = true) :
    Exchange.Keeps (Permitted crypto library state body) (Resolving library state data result) past
      (resolveCert library state.toServerState id data timeout) := by
  rw [resolveCert]
  by_cases unset : state.daConfig.endpointUrl = ""
  · rw [if_pos unset]
    refine ⟨verified, fun found same => ?_⟩
    obtain rfl := Except.ok.inj same
    exact ⟨rfl, .inl unset⟩
  · rw [if_neg unset]
    refine ⟨⟨requested, unset, ⟨result, verified, success⟩, .inl rfl⟩, fun answer => ?_⟩
    exact after_primary_keeps crypto library state body _ id data timeout requested result (List.mem_append_left _ verified) success answer
      (by simp)

theorem certify_justified (past : List (Sigma GatewayCall.Answer)) (id : Value) (data : Bytes) (result : VerificationResult)
    (success : result.success = true) (outcome : Except DaApiError DownstreamCertOutcome)
    (resolving : Resolving library state data result past outcome) (response : Response)
    (same : certify crypto state.toServerState result outcome = .ok response) :
    Justified crypto library nitroV399 state body past (response.withId id) := by
  obtain ⟨verified, resolved⟩ := resolving
  cases outcome with
  | error reason => cases same
  | ok found =>
      cases found with
      | forward status bytes =>
          obtain rfl := Except.ok.inj same
          exact resolved _ rfl
      | cert origin downstreamCert =>
          cases built : buildEspressoCertificate crypto state.keyManager (certificateArguments result downstreamCert) with
          | error reason => simp [certify, built] at same
          | ok cert =>
              have encoded := built_to_bytes crypto state.keyManager _ cert built
              simp only [certify, built, encoded, Except.map, Except.ok.injEq] at same
              subst response
              exact ⟨data, result, downstreamCert, cert, verified, success, resolved _ rfl, built, rfl⟩

def JustifiedAs {Error Result : Type} (turn : Result → RpcResponse) (past : List (Sigma GatewayCall.Answer))
    (result : Except Error Result) : Prop :=
  ∀ found, result = .ok found → Justified crypto library nitroV399 state body past (turn found)

theorem error_justified {Error Result : Type} (turn : Result → RpcResponse) (past : List (Sigma GatewayCall.Answer)) (reason : Error) :
    JustifiedAs crypto library nitroV399 state body turn past (.error reason) := by
  intro found same
  cases same

theorem answered_keeps (past : List (Sigma GatewayCall.Answer)) (id : Value) (handler : Handler Response)
    (kept : Exchange.Keeps (Permitted crypto library state body)
      (JustifiedAs crypto library nitroV399 state body (Response.withId id)) past handler) :
    Exchange.Keeps (Permitted crypto library state body) (JustifiedAs crypto library nitroV399 state body fun response => response) past
      (handler.map (Except.map (Response.withId id))) := by
  refine Exchange.keeps_bind _ _ _ handler _ past kept fun later result given response same => ?_
  cases result with
  | error reason => cases same
  | ok found =>
      obtain rfl := Except.ok.inj same
      exact given found rfl

theorem store_handler_keeps (parsed : Value) (asks : Asks library body parsed (ascii Method.store)) (id : Value) :
    Exchange.Keeps (Permitted crypto library state body) (JustifiedAs crypto library nitroV399 state body (Response.withId id)) []
      (storeHandler crypto library state.toServerState parsed) := by
  rw [storeHandler]
  cases params : storeParams library.toJsonReader (parsed.index (ascii "params")).asArray with
  | error reason => exact error_justified crypto library nitroV399 state body _ _ _
  | ok request =>
      obtain ⟨data, timeout⟩ := request
      by_cases large : tooLarge state.maxMessageSize data = true
      · simp only [large, if_true]
        exact error_justified crypto library nitroV399 state body _ _ _
      · simp only [large, Bool.false_eq_true, if_false]
        have requested : RequestsStore library body data timeout (parsed.index (ascii "id")) := ⟨parsed, asks, params, rfl⟩
        refine ⟨⟨timeout, _, requested⟩, fun answer => ?_⟩
        cases answer with
        | error reason => exact error_justified crypto library nitroV399 state body _ _ _
        | ok result =>
            rw [afterVerification]
            by_cases success : result.success = true
            · rw [if_neg (not_not.mpr success)]
              have resolving := resolve_cert_keeps crypto library state body [⟨.verify data, .ok result⟩] (parsed.index (ascii "id")) data
                timeout requested result (List.mem_singleton.mpr rfl) success
              refine Exchange.keeps_bind _ _ _ _ _ _ resolving fun past outcome given => ?_
              exact certify_justified crypto library nitroV399 state body past id data result success outcome given
            · rw [if_pos success]
              exact error_justified crypto library nitroV399 state body _ _ _

theorem da_certificate_unwraps (sequencerMsg inner : Bytes) (extracted : daCertificate crypto state.toServerState sequencerMsg = .ok inner) :
    Unwraps crypto state sequencerMsg inner := by
  rw [daCertificate] at extracted
  split at extracted
  · cases extracted
  · by_cases marked : sequencerMsg[sequencerHeaderLen]? = some espressoHeaderByte
    · rw [if_pos marked] at extracted
      exact .inr ⟨marked, (extract_ok crypto sequencerMsg inner _ _ _ extracted).2⟩
    · rw [if_neg marked] at extracted
      exact .inl ⟨marked, (Except.ok.inj extracted).symm⟩

theorem of_anytrust_iff (inner : Bytes) : inner[sequencerHeaderLen]?.any isAnytrustHeader = true ↔ OfAnytrust inner := by
  have length : sequencerHeaderLen = 40 := rfl
  rw [length, OfAnytrust]
  cases inner[40]? with
  | none => simp
  | some byte => simp [isAnytrustHeader]

theorem recover_endpoint_from (inner : Bytes) : RecoversFrom state inner (recoverEndpoint state.daConfig inner[sequencerHeaderLen]?) := by
  rw [recoverEndpoint]
  cases configured : state.daConfig.anytrustFallbackUrl with
  | none => exact .inr ⟨rfl, fun _ url present => by cases configured.symm.trans present⟩
  | some url =>
      by_cases anytrust : url ≠ "" ∧ inner[sequencerHeaderLen]?.any isAnytrustHeader = true
      · simp only [if_pos anytrust]
        exact .inl ⟨(of_anytrust_iff inner).mp anytrust.2, configured, anytrust.1⟩
      · simp only [if_neg anytrust]
        refine .inr ⟨rfl, fun tree other present => ?_⟩
        obtain rfl := Option.some.inj (configured.symm.trans present)
        by_contra set
        exact anytrust ⟨set, (of_anytrust_iff inner).mpr tree⟩

theorem recover_route_cases (inner : Bytes) :
    HoldsContent state inner ∧ recoverRoute state.daConfig inner = .payload (inner.drop 40) ∨
      ¬HoldsContent state inner ∧ ∃ endpoint, recoverRoute state.daConfig inner = .forward endpoint inner ∧ RecoversFrom state inner endpoint := by
  rw [recoverRoute]
  by_cases own : state.daConfig.name = "calldata" ∨ inner[sequencerHeaderLen]? = some calldataHeaderByte
  · exact .inl ⟨own, if_pos own⟩
  · exact .inr ⟨own, _, if_neg own, recover_endpoint_from state inner⟩

theorem recover_handler_keeps (parsed : Value) (method : String) (known : method ∈ recoveries) (asks : Asks library body parsed (ascii method))
    (id : Value) :
    Exchange.Keeps (Permitted crypto library state body) (JustifiedAs crypto library nitroV399 state body (Response.withId id)) []
      (recoverHandler crypto library state.toServerState parsed method) := by
  rw [recoverHandler]
  cases params : recoverParams library.toJsonReader (parsed.index (ascii "params")).asArray with
  | error reason => exact error_justified crypto library nitroV399 state body _ _ _
  | ok request =>
      obtain ⟨batchNum, batchBlockHash, sequencerMsg⟩ := request
      have requested : RequestsRecovery library body method batchNum batchBlockHash sequencerMsg (parsed.index (ascii "id")) :=
        ⟨known, parsed, asks, params, rfl⟩
      cases extracted : daCertificate crypto state.toServerState sequencerMsg with
      | error reason =>
          simp only [extracted]
          exact error_justified crypto library nitroV399 state body _ _ _
      | ok inner =>
          have unwraps := da_certificate_unwraps crypto state sequencerMsg inner extracted
          rcases recover_route_cases state inner with ⟨holds, own⟩ | ⟨lacks, endpoint, remote, recovers⟩
          · simp only [extracted, own]
            intro response same
            obtain rfl := Except.ok.inj same
            exact ⟨method, batchNum, batchBlockHash, sequencerMsg, _, inner, requested, unwraps, holds, rfl⟩
          · simp only [extracted, remote]
            refine ⟨⟨sequencerMsg, requested, unwraps, lacks, recovers⟩, fun answer response same => ?_⟩
            obtain ⟨reply, bytes, rfl, read, rfl⟩ := pass_on_ok answer response same
            exact ⟨_, List.mem_singleton.mpr rfl, reply, rfl, read, .inl rfl⟩

theorem forward_raw_keeps (parsed : Value) (method : Bytes) (asks : Asks library body parsed method) (other : method ∉ intercepted)
    (id : Value) :
    Exchange.Keeps (Permitted crypto library state body) (JustifiedAs crypto library nitroV399 state body (Response.withId id)) []
      (forwardRaw state body) := by
  refine ⟨⟨rfl, rfl, parsed, method, asks, other⟩, fun answer response same => ?_⟩
  obtain ⟨reply, bytes, rfl, read, rfl⟩ := pass_on_ok answer response same
  exact ⟨_, List.mem_singleton.mpr rfl, reply, rfl, read, .inl rfl⟩

theorem header_bytes_read_back (bytes : Bytes) : Hex.decode (strip0x (ascii "0x" ++ Hex.encode bytes)) = .ok bytes := by
  have length : (ascii "0x").length = 2 := rfl
  rw [strip0x, if_pos (List.prefix_append _ _), ← length, List.drop_left, Hex.decode_encode]

theorem own_header_bytes_espresso (bytes : Bytes) (own : ownHeaderBytes nitroV399 state = some bytes) :
    ∃ others, bytes = espressoHeaderByte :: others ∧ OwnHeaders nitroV399 state others := by
  rw [ownHeaderBytes] at own
  split_ifs at own with calldata anytrust newer
  · exact ⟨[], (Option.some.inj own).symm, .inl ⟨calldata, rfl⟩⟩
  · exact ⟨_, (Option.some.inj own).symm, .inr ⟨calldata, anytrust, (if_pos newer).symm⟩⟩
  · exact ⟨_, (Option.some.inj own).symm, .inr ⟨calldata, anytrust, (if_neg newer).symm⟩⟩

theorem combined_header_bytes (id parsed : Value) (response : RpcResponse) (same : combineHeaderBytes library id parsed = .ok response) :
    ∃ hexStr others, ((parsed.index (ascii "result")).index (ascii "headerBytes")).asStr = some hexStr ∧
      Hex.decode (strip0x hexStr) = .ok others ∧ response = respondHeaderBytes id (espressoHeaderByte :: others) := by
  rw [combineHeaderBytes] at same
  cases written : ((parsed.index (ascii "result")).index (ascii "headerBytes")).asStr with
  | none => simp [written] at same
  | some hexStr =>
      cases decoded : Hex.decode (strip0x hexStr) with
      | error reason => simp [written, decoded] at same
      | ok others =>
          simp only [written, decoded, Except.ok.injEq] at same
          exact ⟨hexStr, others, rfl, decoded, same.symm⟩

theorem header_bytes_forwarded_keeps (parsed : Value) (asks : Asks library body parsed (ascii Method.getSupportedHeaderBytes)) :
    Exchange.Keeps (Permitted crypto library state body) (JustifiedAs crypto library nitroV399 state body fun response => response) []
      (handleSupportedHeaderBytesForwarded library state parsed) := by
  refine ⟨⟨rfl, asks⟩, fun answer response same => ?_⟩
  cases answer with
  | error reason => cases same
  | ok reply =>
      cases read : reply.body with
      | error reason => simp [read] at same
      | ok raw =>
          by_cases success : 200 ≤ reply.status ∧ reply.status < 300
          · cases answered : library.fromSlice raw with
            | error reason => simp [read, success, answered] at same
            | ok value =>
                by_cases refused : (value.get (ascii "error")).isSome = true
                · simp only [read, success, answered, refused, not_true, and_self, if_false, if_true, Except.ok.injEq] at same
                  subst response
                  exact ⟨_, List.mem_singleton.mpr rfl, reply, rfl, read, .inl rfl⟩
                · simp only [read, success, answered, refused, not_true, and_self, if_false, Bool.false_eq_true] at same
                  obtain ⟨hexStr, others, written, decoded, rfl⟩ := combined_header_bytes library _ value response same
                  exact ⟨others, header_bytes_read_back _, .inr ⟨parsed, reply, raw, value, hexStr, List.mem_singleton.mpr rfl, success, read,
                    answered, Option.not_isSome_iff_eq_none.mp refused, written, decoded⟩⟩
          · simp only [read, success, not_false_eq_true, if_true, Except.ok.injEq] at same
            subst response
            exact ⟨_, List.mem_singleton.mpr rfl, reply, rfl, read, .inl rfl⟩

theorem dispatch_keeps (parsed : Value) (method : Bytes) (asks : Asks library body parsed method) :
    Exchange.Keeps (Permitted crypto library state body) (JustifiedAs crypto library nitroV399 state body fun response => response) []
      (dispatch crypto library nitroV399 state body parsed method) := by
  have recovery (name : String) (known : name ∈ recoveries) (same : method = ascii name) :=
    answered_keeps crypto library nitroV399 state body [] (parsed.index (ascii "id")) _
      (recover_handler_keeps crypto library nitroV399 state body parsed name known (same ▸ asks) (parsed.index (ascii "id")))
  have raw (other : method ∉ intercepted) :=
    answered_keeps crypto library nitroV399 state body [] (parsed.index (ascii "id")) _
      (forward_raw_keeps crypto library nitroV399 state body parsed method asks other (parsed.index (ascii "id")))
  unfold dispatch
  dsimp only
  split_ifs with isStore isRecover isCollect isBoth isHeader isSize
  · exact answered_keeps crypto library nitroV399 state body [] _ _
      (store_handler_keeps crypto library nitroV399 state body parsed (isStore ▸ asks) _)
  · exact recovery _ (by decide) isRecover
  · exact recovery _ (by decide) isCollect
  · exact recovery _ (by decide) isBoth
  · cases own : ownHeaderBytes nitroV399 state with
    | none => exact header_bytes_forwarded_keeps crypto library nitroV399 state body parsed (isHeader ▸ asks)
    | some bytes =>
        intro response same
        obtain rfl := Except.ok.inj same
        obtain ⟨others, rfl, headers⟩ := own_header_bytes_espresso nitroV399 state bytes own
        exact ⟨others, header_bytes_read_back _, .inl headers⟩
  · have other : method ∉ intercepted := by simp [intercepted, recoveries, isStore, isRecover, isCollect, isBoth, isHeader]
    cases limit : state.maxMessageSize with
    | none => exact raw other
    | some maxSize =>
        intro response same
        obtain rfl := Except.ok.inj same
        exact limit
  · exact raw (by simp [intercepted, recoveries, isStore, isRecover, isCollect, isBoth, isHeader])

theorem handle_rpc_keeps :
    Exchange.Keeps (Permitted crypto library state body) (JustifiedAs crypto library nitroV399 state body fun response => response) []
      (handleRpc crypto library nitroV399 state body) := by
  rw [handleRpc]
  cases reads : library.fromSlice body with
  | error reason => exact error_justified crypto library nitroV399 state body _ _ _
  | ok parsed =>
      cases names : (parsed.index (ascii "method")).asStr with
      | none =>
          simp only [names]
          exact error_justified crypto library nitroV399 state body _ _ _
      | some method =>
          simp only [names]
          refine Exchange.keeps_bind _ _ _ _ _ _
            (dispatch_keeps crypto library nitroV399 state body parsed method ⟨reads, names⟩) fun past result given response same => ?_
          cases result with
          | error reason => cases same
          | ok found =>
              obtain rfl := Except.ok.inj same
              exact given found rfl

/-- However any number of requests interleave, on any routes and whatever the streamer and the endpoints answer: a batch leaves the
service only after its own request has had it verified successfully, and goes to the fallback only after the primary endpoint has
answered it with an error that asks for that. A recovery leaves only with a message whose byte 40 is not the service's, or with what
was taken out of a certificate that decodes and validates, and only if the service does not have the content itself. Only a
request of a method that is not intercepted is handed on as it came. Each successful response rests on the answers its own request
got: a certificate on a successful verification and on what the endpoints gave or declined, a relayed response on one that an
endpoint gave, and the announced header bytes start with the service's own. -/
theorem gateway_follows_protocol
    (session : Exchange.Session (RpcState × Bytes) GatewayCall GatewayCall.Answer (Except RpcError RpcResponse))
    (reached : Relation.ReflTransGen (Exchange.SessionStep fun input => handleRpc crypto library nitroV399 input.1 input.2) .new session) :
    (∀ before index call answer, before ++ [(index, ⟨call, answer⟩)] <+: session.log →
      ∃ state body rest, session.running[index]? = some ((state, body), rest) ∧
        Permitted crypto library state body (Exchange.pastOf index before) call) ∧
    ∀ index state body response, session.running[index]? = some ((state, body), .done (.ok response)) →
      Justified crypto library nitroV399 state body (Exchange.pastOf index session.log) response := by
  have inv := Exchange.session_invariant _ (fun input => Permitted crypto library input.1 input.2)
    (fun input => JustifiedAs crypto library nitroV399 input.1 input.2 fun response => response)
    (fun input => handle_rpc_keeps crypto library nitroV399 input.1 input.2) session reached
  refine ⟨fun before index call answer logged => ?_, fun index state body response found => ?_⟩
  · obtain ⟨⟨state, body⟩, rest, found, permitted⟩ := inv.calls before index call answer logged
    exact ⟨state, body, rest, found, permitted⟩
  · exact inv.programs index (state, body) _ found response rfl

end Protocol

-- The primary endpoint asks for the fallback, whose certificate the service signs. Meanwhile that certificate comes back for a recovery,
-- and a request of another method passes through.
def anytrustCert : Bytes := anytrustDasTreeHeaderByte :: List.replicate 32 7

def anytrustArguments : CertificateArguments := ⟨1, 1, 1, 1, 0, anytrustCert⟩

def anytrustSignature : Signature :=
  ⟨0xeef124c9c156f8c9fcddb659729a01c0b9ba6b3542b6afbe879d12110da913e7#256,
    0x0b938c484f4b803aaa94c455f3f0a6992df2cf717158ceaa8f6db0bceb2a6ca1#256, false⟩

def anytrustCommitment : B256 := b256 0x5c24a47b60e5a1f3b2eb8fb4541bfa34ebb74cb420a9c5839d0d2472f937de08

def anytrustSigningHash : B256 := b256 0xc759e30a124613e9de6fd455df726c898e85c5ef2505707405493bdd1d0bd3ce

def anytrustCrypto : CasCrypto :=
  { firstCrypto with
    keccak256 := fun bytes => if bytes = buildPayload anytrustArguments then anytrustCommitment else firstCrypto.keccak256 bytes
    eip712SigningHash := fun domain commitment =>
      if domain = ⟨"EspressoTEEVerifier", "1", 42161, testVerifierAddress⟩ ∧ commitment = anytrustCommitment then anytrustSigningHash
      else firstCrypto.eip712SigningHash domain commitment
    recoverAddressFromPrehash := fun sig hash =>
      if sig = anytrustSignature ∧ hash = anytrustSigningHash then some upstreamSigner else firstCrypto.recoverAddressFromPrehash sig hash }

def anytrustKeyManager : KeyManager :=
  { firstKeyManager with
    signHashSync := fun hash => if hash = anytrustSigningHash then .ok anytrustSignature else firstKeyManager.signHashSync hash }

def anytrustCertificate : CasCertificate :=
  ⟨v0Header, 1, 1, 1, 1, 0, firstCrypto.signatureAsBytes anytrustSignature, anytrustCert⟩

def storedBody : Bytes :=
  ascii "\x7b\"jsonrpc\":\"2.0\",\"id\":1,\"result\":\x7b\"serialized-da-cert\":\"0x" ++ (Hex.encode anytrustCert ++ ascii "\"\x7d\x7d")

def hexText (bytes : Bytes) : Value := .string (ascii "0x" ++ Hex.encode bytes)

def storeRequest : Bytes := ascii "\x7b\"method\":\"daprovider_store\",\"params\":[\"0x" ++
  (Hex.encode firstArguments.downstreamCert ++ ascii "\",5]\x7d")

def recoverRequest : Bytes := ascii "\x7b\"method\":\"daprovider_recoverPayload\",\"params\":[3,\"0x" ++
  (Hex.encode (List.replicate 32 0) ++ (ascii "\",\"0x" ++
    (Hex.encode (List.replicate 40 0 ++ anytrustCertificate.wire) ++ ascii "\"]\x7d")))

def proofRequest : Bytes := ascii "\x7b\"method\":\"daprovider_generateReadPreimageProof\"\x7d"

def request (method : String) (params : List Value) : Value :=
  .object [(ascii "method", .string (ascii method)), (ascii "params", .array params)]

def storeValue : Value := request Method.store [hexText firstArguments.downstreamCert, .number (ascii "5")]

def recoverValue : Value := request Method.recoverPayload
  [.number (ascii "3"), hexText (List.replicate 32 0), hexText (List.replicate 40 0 ++ anytrustCertificate.wire)]

def readRequest (bytes : Bytes) : Except String Value :=
  if bytes = storeRequest then .ok storeValue
  else if bytes = recoverRequest then .ok recoverValue
  else if bytes = proofRequest then .ok (.object [(ascii "method", .string (ascii "daprovider_generateReadPreimageProof"))])
  else .error "expected value at line 1 column 1"

def readDigit : Value → Except String UInt64
  | .number [digit] => .ok (digit.toUInt64 - 48)
  | _ => .error "invalid type"

def readBytes (value : Value) : Except String Bytes :=
  (Hex.decode (strip0x (value.asStr.getD []))).mapError fun _ => "invalid type"

def gatewayLibrary : RpcLibrary where
  bytes := readBytes
  u64 := readDigit
  hash value := (readBytes value).bind bytesReader.hash
  fromSlice := readRequest
  parseStoreBody bytes := if bytes = storedBody then .ok ⟨none, .ok anytrustCert⟩ else fallbackDownstream.parseStoreBody bytes
  hexError _ := "Odd number of digits"

def sidecarRoute : RpcState := ⟨serverState anytrustKeyManager 1000 sidecarConfig, false⟩

def storeVerified : VerificationResult := ⟨true, 1, 1, 1, 1, 0⟩

def wrappedRecovery : RecoverCall :=
  ⟨Method.recoverPayload, 3, Vector.replicate 32 0, List.replicate 40 0 ++ anytrustCert⟩

def passedOn (answer : Except String HttpReply) : Except RpcError RpcResponse :=
  ((passOn answer).map (Response.withId .null)).mapError .api

theorem gateway_reads : gatewayLibrary.fromSlice = readRequest := rfl

theorem store_request_begins :
    handleRpc anytrustCrypto gatewayLibrary true sidecarRoute storeRequest =
      .ask (.verify firstArguments.downstreamCert) fun answer =>
        ((afterVerification anytrustCrypto gatewayLibrary sidecarRoute.toServerState .null firstArguments.downstreamCert 5 answer).map
          (Except.map (Response.withId .null))).map (Except.mapError .api) := by
  have reads : gatewayLibrary.fromSlice storeRequest = .ok storeValue := by
    rw [gateway_reads, readRequest, if_pos rfl]
  have params : storeParams gatewayLibrary.toJsonReader (storeValue.index (ascii "params")).asArray =
      .ok (firstArguments.downstreamCert, 5) := by decide +kernel
  have handled : storeHandler anytrustCrypto gatewayLibrary sidecarRoute.toServerState storeValue =
      .ask (.verify firstArguments.downstreamCert)
        (afterVerification anytrustCrypto gatewayLibrary sidecarRoute.toServerState .null firstArguments.downstreamCert 5) := by
    rw [storeHandler, params]
    rfl
  have names : (storeValue.index (ascii "method")).asStr = some (ascii Method.store) := rfl
  rw [handleRpc, reads]
  simp only [names]
  rw [dispatch, if_pos rfl, handled]
  rfl

theorem recover_request_begins :
    handleRpc anytrustCrypto gatewayLibrary true sidecarRoute recoverRequest =
      .ask (.recover "http://anytrust:9876" wrappedRecovery .null) fun answer => .done (passedOn answer) := by
  have reads : gatewayLibrary.fromSlice recoverRequest = .ok recoverValue := by
    have other : recoverRequest ≠ storeRequest := by decide +kernel
    rw [gateway_reads, readRequest, if_neg other, if_pos rfl]
  have params : recoverParams gatewayLibrary.toJsonReader (recoverValue.index (ascii "params")).asArray =
      .ok (3, Vector.replicate 32 0, List.replicate 40 0 ++ anytrustCertificate.wire) := by decide +kernel
  have unwrapped : daCertificate anytrustCrypto sidecarRoute.toServerState (List.replicate 40 0 ++ anytrustCertificate.wire) =
      .ok wrappedRecovery.daCertificate := by decide +kernel
  have route : recoverRoute sidecarRoute.daConfig wrappedRecovery.daCertificate =
      .forward "http://anytrust:9876" wrappedRecovery.daCertificate := by decide +kernel
  have handled : recoverHandler anytrustCrypto gatewayLibrary sidecarRoute.toServerState recoverValue Method.recoverPayload =
      .ask (.recover "http://anytrust:9876" wrappedRecovery .null) fun answer => .done (passOn answer) := by
    rw [recoverHandler, params]
    simp only [unwrapped, route]
    rfl
  have names : (recoverValue.index (ascii "method")).asStr = some (ascii Method.recoverPayload) := rfl
  rw [handleRpc, reads]
  simp only [names]
  rw [dispatch, if_neg (by decide +kernel), if_pos rfl, handled]
  rfl

theorem proof_request_begins :
    handleRpc anytrustCrypto gatewayLibrary true sidecarRoute proofRequest =
      .ask (.raw "http://celestia:9876" proofRequest) fun answer => .done (passedOn answer) := by
  have reads : gatewayLibrary.fromSlice proofRequest =
      .ok (.object [(ascii "method", .string (ascii "daprovider_generateReadPreimageProof"))]) := by
    have notStore : proofRequest ≠ storeRequest := by decide +kernel
    have notRecover : proofRequest ≠ recoverRequest := by decide +kernel
    rw [gateway_reads, readRequest, if_neg notStore, if_neg notRecover, if_pos rfl]
  rw [handleRpc, reads]
  rfl

def settle (resolving : Handler DownstreamCertOutcome) : Exchange GatewayCall GatewayCall.Answer (Except RpcError RpcResponse) :=
  ((resolving.map (certify anytrustCrypto sidecarRoute.toServerState storeVerified)).map (Except.map (Response.withId .null))).map
    (Except.mapError .api)

theorem primary_declines :
    afterPrimary gatewayLibrary sidecarRoute.toServerState .null firstArguments.downstreamCert 5 (.ok ⟨200, .ok fallbackBody⟩) =
      .ask (.store "http://anytrust:9876" firstArguments.downstreamCert 5 .null) fun answer =>
        .done (afterAnytrust gatewayLibrary sidecarRoute.toServerState firstArguments.downstreamCert answer) := by
  have read : storeAnswer gatewayLibrary (.ok ⟨200, .ok fallbackBody⟩) = .ok (.fallback nitroErrFallbackRequested) := by decide +kernel
  rw [afterPrimary, read]
  rfl

theorem fallback_settles :
    settle (.done (afterAnytrust gatewayLibrary sidecarRoute.toServerState firstArguments.downstreamCert (.ok ⟨200, .ok storedBody⟩))) =
      .done (.ok (.stored .null .anytrust anytrustCertificate.wire)) := by
  have given : afterAnytrust gatewayLibrary sidecarRoute.toServerState firstArguments.downstreamCert (.ok ⟨200, .ok storedBody⟩) =
      .ok (.cert .anytrust anytrustCert) := by decide +kernel
  have certified : certify anytrustCrypto sidecarRoute.toServerState storeVerified (.ok (.cert .anytrust anytrustCert)) =
      .ok (.stored .anytrust anytrustCertificate.wire) := by decide +kernel
  simp only [settle, Exchange.map, Exchange.bind, given, certified]
  rfl

-- Three programs side by side. The first asks three times, the others once each in between.
theorem interleaved {Input Call Result : Type} {Answer : Call → Type} (program : Input → Exchange Call Answer Result)
    (one two three : Input) (first second third other last : Call) (begin : Answer first → Exchange Call Answer Result)
    (further : Answer second → Exchange Call Answer Result) (finish : Answer third → Exchange Call Answer Result)
    (otherwise : Answer other → Result) (lastly : Answer last → Result) (x : Answer first) (y : Answer second) (z : Answer third)
    (v : Answer other) (w : Answer last) (result : Result)
    (starts : program one = .ask first begin) (goes : begin x = .ask second further) (turns : further y = .ask third finish)
    (ends : finish z = .done result) (startsTwo : program two = .ask other fun answer => .done (otherwise answer))
    (startsThree : program three = .ask last fun answer => .done (lastly answer)) :
    Relation.ReflTransGen (Exchange.SessionStep program) .new
      ⟨[(one, .done result), (two, .done (otherwise v)), (three, .done (lastly w))],
        [(0, ⟨first, x⟩), (2, ⟨last, w⟩), (0, ⟨second, y⟩), (1, ⟨other, v⟩), (0, ⟨third, z⟩)]⟩ := by
  refine .head (.start _ one) <| .head (.start _ two) <| .head (.start _ three) ?_
  rw [starts, startsTwo, startsThree]
  refine .head (.answer _ 0 _ first begin x rfl) ?_
  rw [goes]
  refine .head (.answer _ 2 _ last _ w rfl) <| .head (.answer _ 0 _ second further y rfl) ?_
  rw [turns]
  refine .head (.answer _ 1 _ other _ v rfl) <| .head (.answer _ 0 _ third finish z rfl) ?_
  rw [ends]
  exact .refl

def gatewayLog : List (Nat × Sigma GatewayCall.Answer) :=
  [(0, ⟨.verify firstArguments.downstreamCert, .ok storeVerified⟩),
    (2, ⟨.raw "http://celestia:9876" proofRequest, .ok ⟨404, .ok []⟩⟩),
    (0, ⟨.store "http://celestia:9876" firstArguments.downstreamCert 5 .null, .ok ⟨200, .ok fallbackBody⟩⟩),
    (1, ⟨.recover "http://anytrust:9876" wrappedRecovery .null, .ok ⟨200, .ok [0]⟩⟩),
    (0, ⟨.store "http://anytrust:9876" firstArguments.downstreamCert 5 .null, .ok ⟨200, .ok storedBody⟩⟩)]

def gatewaySession : Exchange.Session (RpcState × Bytes) GatewayCall GatewayCall.Answer (Except RpcError RpcResponse) :=
  ⟨[((sidecarRoute, storeRequest), .done (.ok (.stored .null .anytrust anytrustCertificate.wire))),
      ((sidecarRoute, recoverRequest), .done (.ok (.relayed 200 [0]))), ((sidecarRoute, proofRequest), .done (.ok (.relayed 404 [])))],
    gatewayLog⟩

theorem gateway_session_reached :
    Relation.ReflTransGen (Exchange.SessionStep fun input => handleRpc anytrustCrypto gatewayLibrary true input.1 input.2) .new
      gatewaySession := by
  refine @interleaved (RpcState × Bytes) GatewayCall _ GatewayCall.Answer _ (sidecarRoute, storeRequest) (sidecarRoute, recoverRequest)
    (sidecarRoute, proofRequest) (.verify firstArguments.downstreamCert)
    (.store "http://celestia:9876" firstArguments.downstreamCert 5 .null)
    (.store "http://anytrust:9876" firstArguments.downstreamCert 5 .null) (.recover "http://anytrust:9876" wrappedRecovery .null)
    (.raw "http://celestia:9876" proofRequest) _
    (fun answer => settle (afterPrimary gatewayLibrary sidecarRoute.toServerState .null firstArguments.downstreamCert 5 answer))
    (fun answer => settle (.done (afterAnytrust gatewayLibrary sidecarRoute.toServerState firstArguments.downstreamCert answer)))
    passedOn passedOn (Except.ok storeVerified) (Except.ok ⟨200, .ok fallbackBody⟩) (Except.ok ⟨200, .ok storedBody⟩)
    (Except.ok ⟨200, .ok [0]⟩) (Except.ok ⟨404, .ok []⟩) _ store_request_begins rfl ?_ fallback_settles recover_request_begins
    proof_request_begins
  rw [primary_declines]
  rfl

theorem gateway_session_protocol :
    (∃ state body rest, gatewaySession.running[0]? = some ((state, body), rest) ∧
      Permitted anytrustCrypto gatewayLibrary state body
        [⟨.verify firstArguments.downstreamCert, .ok storeVerified⟩,
          ⟨.store "http://celestia:9876" firstArguments.downstreamCert 5 .null, .ok ⟨200, .ok fallbackBody⟩⟩]
        (.store "http://anytrust:9876" firstArguments.downstreamCert 5 .null)) ∧
    (∃ state body rest, gatewaySession.running[1]? = some ((state, body), rest) ∧
      Permitted anytrustCrypto gatewayLibrary state body [] (.recover "http://anytrust:9876" wrappedRecovery .null)) ∧
    Justified anytrustCrypto gatewayLibrary true sidecarRoute storeRequest (Exchange.pastOf 0 gatewayLog)
      (.stored .null .anytrust anytrustCertificate.wire) ∧
    Justified anytrustCrypto gatewayLibrary true sidecarRoute recoverRequest (Exchange.pastOf 1 gatewayLog) (.relayed 200 [0]) := by
  obtain ⟨calls, responses⟩ := gateway_follows_protocol anytrustCrypto gatewayLibrary true gatewaySession gateway_session_reached
  exact ⟨calls (gatewayLog.take 4) 0 _ (.ok ⟨200, .ok storedBody⟩) ⟨[], rfl⟩,
    calls (gatewayLog.take 3) 1 _ (.ok ⟨200, .ok [0]⟩) ⟨gatewayLog.drop 4, rfl⟩, responses 0 sidecarRoute storeRequest _ rfl,
    responses 1 sidecarRoute recoverRequest _ rfl⟩

end Cas
