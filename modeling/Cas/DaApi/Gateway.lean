import Cas.Lib.Exchange
import Cas.Lib.Hex
import Cas.DaApi.StoreRecover

set_option autoImplicit false

namespace Cas

-- `serde_json::Value`. A string is its UTF-8 bytes, a number its text.
inductive Value where
  | null
  | bool (value : Bool)
  | number (text : Bytes)
  | string (utf8 : Bytes)
  | array (items : List Value)
  | object (members : List (Bytes × Value))

def Value.get (key : Bytes) : Value → Option Value
  | .object members => members.lookup key
  | _ => none

-- Indexing by a key gives `Null` where there is nothing.
def Value.index (key : Bytes) (value : Value) : Value := (value.get key).getD .null

def Value.asStr : Value → Option Bytes
  | .string utf8 => some utf8
  | _ => none

def Value.asArray : Value → Option (List Value)
  | .array items => some items
  | _ => none

def Method.store : String := "daprovider_store"
def Method.getMaxMessageSize : String := "daprovider_getMaxMessageSize"
def Method.recoverPayload : String := "daprovider_recoverPayload"
def Method.collectPreimages : String := "daprovider_collectPreimages"
def Method.recoverPayloadAndPreimages : String := "daprovider_recoverPayloadAndPreimages"
def Method.getSupportedHeaderBytes : String := "daprovider_getSupportedHeaderBytes"

-- The state of a route with `is_anytrust` of its provider, which only the dispatch reads.
structure RpcState extends ServerState where
  isAnytrust : Bool

-- The JSON library, and how the errors of the hex library are written.
structure RpcLibrary extends JsonReader Value where
  fromSlice : Bytes → Except String Value
  parseStoreBody : Bytes → Except String StoreBody
  hexError : Hex.Error → String

-- What a handler waits for: the verification channel, or a request to an endpoint.
inductive GatewayCall where
  | verify (data : Bytes)
  | store (endpoint : String) (data : Bytes) (timeout : UInt64) (id : Value)
  | recover (endpoint : String) (call : RecoverCall) (id : Value)
  | json (endpoint : String) (body : Value)
  | raw (endpoint : String) (body : Bytes)

abbrev GatewayCall.Answer : GatewayCall → Type
  | .verify _ => Except String VerificationResult
  | _ => Except String HttpReply

abbrev Handler (Result : Type) := Exchange GatewayCall GatewayCall.Answer (Except DaApiError Result)

inductive RpcError where
  | invalidRequest (reason : String)
  | api (error : DaApiError)
deriving DecidableEq, Repr

inductive RpcResponse where
  | relayed (status : Nat) (body : Bytes)
  | stored (id : Value) (origin : CertOrigin) (certificate : Bytes)
  | payload (id : Value) (bytes : Bytes)
  | headerBytes (id : Value) (text : Bytes)
  | maxMessageSize (id : Value) (size : UInt64)

def passOn : Except String HttpReply → Except DaApiError Response
  | .error reason => .error (.downstreamDa reason)
  | .ok reply =>
      match reply.body with
      | .error reason => .error (.parsingError reason)
      | .ok bytes => .ok (.forwarded reply.status bytes)

def forwardRaw (state : RpcState) (body : Bytes) : Handler Response :=
  .ask (.raw state.daConfig.endpointUrl body) fun answer => .done (passOn answer)

def respondHeaderBytes (id : Value) (bytes : Bytes) : RpcResponse := .headerBytes id (ascii "0x" ++ Hex.encode bytes)

-- `strip_prefix("0x")`, with the whole text where there is no such prefix.
def strip0x (text : Bytes) : Bytes := if ascii "0x" <+: text then text.drop 2 else text

section Gateway

variable (crypto : CasCrypto) (library : RpcLibrary)

def combineHeaderBytes (id : Value) (parsed : Value) : Except DaApiError RpcResponse :=
  match ((parsed.index (ascii "result")).index (ascii "headerBytes")).asStr with
  | none => .error (.parsingError "missing headerBytes in response")
  | some hexStr =>
      match Hex.decode (strip0x hexStr) with
      | .error reason => .error (.parsingError s!"bad headerBytes hex: {library.hexError reason}")
      | .ok downstreamBytes => .ok (respondHeaderBytes id (espressoHeaderByte :: downstreamBytes))

def handleSupportedHeaderBytesForwarded (state : RpcState) (body : Value) : Handler RpcResponse :=
  .ask (.json state.daConfig.endpointUrl body) fun answer => .done <|
    match answer with
    | .error reason => .error (.downstreamDa reason)
    | .ok reply =>
        match reply.body with
        | .error reason => .error (.parsingError reason)
        | .ok raw =>
            if ¬(200 ≤ reply.status ∧ reply.status < 300) then .ok (.relayed reply.status raw)
            else
              match library.fromSlice raw with
              | .error reason => .error (.parsingError reason)
              | .ok parsed =>
                  if (parsed.get (ascii "error")).isSome then .ok (.relayed reply.status raw)
                  else combineHeaderBytes library (body.index (ascii "id")) parsed

-- What `store_via` makes of an answer.
def storeAnswer (answer : Except String HttpReply) : Except DaApiError StoreOutcome :=
  storeVia ⟨fun _ _ _ => answer, fun _ _ => .error "", library.parseStoreBody⟩ "" [] 0

def afterAnytrust (state : ServerState) (data : Bytes) (answer : Except String HttpReply) : Except DaApiError DownstreamCertOutcome :=
  match storeAnswer library answer with
  | .error reason => .error reason
  | .ok (.cert cert) => .ok (.cert .anytrust cert)
  | .ok (.forward status body) => .ok (.forward status body)
  | .ok (.fallback _) => calldataFallback state data

def afterPrimary (state : ServerState) (id : Value) (data : Bytes) (timeout : UInt64) (answer : Except String HttpReply) :
    Handler DownstreamCertOutcome :=
  match storeAnswer library answer with
  | .error reason => .done (.error reason)
  | .ok (.cert cert) => .done (.ok (.cert .primary cert))
  | .ok (.forward status body) => .done (.ok (.forward status body))
  | .ok (.fallback _) =>
      match state.daConfig.anytrustFallbackUrl.filter (· ≠ "") with
      | none => .done (calldataFallback state data)
      | some anytrustUrl => .ask (.store anytrustUrl data timeout id) fun answer => .done (afterAnytrust library state data answer)

-- `resolve_downstream_cert`, asking as it goes.
def resolveCert (state : ServerState) (id : Value) (data : Bytes) (timeout : UInt64) : Handler DownstreamCertOutcome :=
  if state.daConfig.endpointUrl = "" then .done (.ok (.cert .rawData data))
  else .ask (.store state.daConfig.endpointUrl data timeout id) (afterPrimary library state id data timeout)

def certify (state : ServerState) (result : VerificationResult) : Except DaApiError DownstreamCertOutcome → Except DaApiError Response
  | .error reason => .error reason
  | .ok (.forward status body) => .ok (.forwarded status body)
  | .ok (.cert origin downstreamCert) =>
      match buildEspressoCertificate crypto state.keyManager (certificateArguments result downstreamCert) with
      | .error reason => .error reason
      | .ok finalCert => finalCert.toBytes.map (.stored origin)

def afterVerification (state : ServerState) (id : Value) (data : Bytes) (timeout : UInt64) : Except String VerificationResult → Handler Response
  | .error reason => .done (.error (.channelError reason))
  | .ok result =>
      if ¬result.success then .done (.error (.certificateValidation "CAS verification failed"))
      else (resolveCert library state id data timeout).map (certify crypto state result)

-- `handle_store`, asking as it goes.
def storeHandler (state : ServerState) (body : Value) : Handler Response :=
  match storeParams library.toJsonReader (body.index (ascii "params")).asArray with
  | .error reason => .done (.error reason)
  | .ok (data, timeout) =>
      if tooLarge state.maxMessageSize data then .done (.error .dynamicBatchingResize)
      else .ask (.verify data) (afterVerification crypto library state (body.index (ascii "id")) data timeout)

-- `handle_recover_inner`, asking as it goes.
def recoverHandler (state : ServerState) (body : Value) (downstreamMethod : String) : Handler Response :=
  match recoverParams library.toJsonReader (body.index (ascii "params")).asArray with
  | .error reason => .done (.error reason)
  | .ok (batchNum, batchBlockHash, sequencerMsg) =>
      match daCertificate crypto state sequencerMsg with
      | .error reason => .done (.error reason)
      | .ok cert =>
          match recoverRoute state.daConfig cert with
          | .payload bytes => .done (.ok (.payload bytes))
          | .forward endpoint daCertificate =>
              .ask (.recover endpoint ⟨downstreamMethod, batchNum, batchBlockHash, daCertificate⟩ (body.index (ascii "id"))) fun answer =>
                .done (passOn answer)

def Response.withId (id : Value) : Response → RpcResponse
  | .forwarded status body => .relayed status body
  | .stored origin certificate => .stored id origin certificate
  | .payload bytes => .payload id bytes

-- The header bytes that the server answers by itself, if it does. `nitroV399` is the feature of that name.
def ownHeaderBytes (nitroV399 : Bool) (state : RpcState) : Option Bytes :=
  if state.daConfig.name = "calldata" then some [espressoHeaderByte]
  else if state.isAnytrust then
    some (if nitroV399 then [espressoHeaderByte, anytrustDasHeaderByte, anytrustDasTreeHeaderByte] else [espressoHeaderByte])
  else none

def dispatch (nitroV399 : Bool) (state : RpcState) (body : Bytes) (parsed : Value) (method : Bytes) : Handler RpcResponse :=
  let id := parsed.index (ascii "id")
  let answered := Exchange.map (Except.map (Response.withId id))
  if method = ascii Method.store then answered (storeHandler crypto library state.toServerState parsed)
  else if method = ascii Method.recoverPayload then
    answered (recoverHandler crypto library state.toServerState parsed Method.recoverPayload)
  else if method = ascii Method.collectPreimages then
    answered (recoverHandler crypto library state.toServerState parsed Method.collectPreimages)
  else if method = ascii Method.recoverPayloadAndPreimages then
    answered (recoverHandler crypto library state.toServerState parsed Method.recoverPayloadAndPreimages)
  else if method = ascii Method.getSupportedHeaderBytes then
    match ownHeaderBytes nitroV399 state with
    | some bytes => .done (.ok (respondHeaderBytes id bytes))
    | none => handleSupportedHeaderBytesForwarded library state parsed
  else if method = ascii Method.getMaxMessageSize then
    match state.maxMessageSize with
    | some maxSize => .done (.ok (.maxMessageSize id maxSize))
    | none => answered (forwardRaw state body)
  else answered (forwardRaw state body)

def handleRpc (nitroV399 : Bool) (state : RpcState) (body : Bytes) :
    Exchange GatewayCall GatewayCall.Answer (Except RpcError RpcResponse) :=
  match library.fromSlice body with
  | .error reason => .done (.error (.api (.invalidParams reason)))
  | .ok parsed =>
      match (parsed.index (ascii "method")).asStr with
      | none => .done (.error (.invalidRequest "missing method"))
      | some method => (dispatch crypto library nitroV399 state body parsed method).map (Except.mapError .api)

-- An environment that answers each endpoint's requests as `downstream` does.
def environment (downstream : Downstream) (verify : Bytes → Except String VerificationResult)
    (json : String → Value → Except String HttpReply) (raw : String → Bytes → Except String HttpReply) :
    (call : GatewayCall) → call.Answer
  | .verify data => verify data
  | .store endpoint data timeout _ => downstream.store endpoint data timeout
  | .recover endpoint call _ => downstream.recover endpoint call
  | .json endpoint body => json endpoint body
  | .raw endpoint body => raw endpoint body

section Handlers

variable (downstream : Downstream) (same : library.parseStoreBody = downstream.parseStoreBody)
  (verify : Bytes → Except String VerificationResult) (json : String → Value → Except String HttpReply)
  (raw : String → Bytes → Except String HttpReply)

include same in
theorem store_via_answer (endpoint : String) (data : Bytes) (timeout : UInt64) :
    storeVia downstream endpoint data timeout = storeAnswer library (downstream.store endpoint data timeout) := by
  rw [storeAnswer, same]
  rfl

include same in
theorem resolve_cert_run (state : ServerState) (id : Value) (data : Bytes) (timeout : UInt64) :
    (resolveCert library state id data timeout).run (environment downstream verify json raw) =
      resolveDownstreamCert downstream state data timeout := by
  rw [resolveCert, resolveDownstreamCert]
  by_cases unset : state.daConfig.endpointUrl = ""
  · rw [if_pos unset, if_pos unset, Exchange.run]
  · rw [if_neg unset, if_neg unset, store_via_answer library downstream same, Exchange.run, afterPrimary, environment]
    cases storeAnswer library (downstream.store state.daConfig.endpointUrl data timeout) with
    | error reason => rfl
    | ok outcome =>
        cases outcome with
        | cert cert => rfl
        | forward status body => rfl
        | fallback reason =>
            cases state.daConfig.anytrustFallbackUrl.filter (· ≠ "") with
            | none => rfl
            | some anytrustUrl =>
                simp only [Exchange.run, environment]
                cases answer : storeAnswer library (downstream.store anytrustUrl data timeout) with
                | error reason => simp only [afterAnytrust, store_via_answer library downstream same, answer]
                | ok outcome => cases outcome <;> simp only [afterAnytrust, store_via_answer library downstream same, answer]

include same in
/-- Against answers that do not change, a store request is handled as `handle_store` handles it. -/
theorem store_handler_run (state : ServerState) (body : Value) :
    (storeHandler crypto library state body).run (environment downstream verify json raw) =
      handleStore crypto downstream library.toJsonReader verify state (body.index (ascii "params")).asArray := by
  rw [storeHandler, handleStore]
  cases storeParams library.toJsonReader (body.index (ascii "params")).asArray with
  | error reason => rfl
  | ok request =>
      obtain ⟨data, timeout⟩ := request
      by_cases large : tooLarge state.maxMessageSize data = true
      · simp only [large, if_true, Exchange.run]
      · simp only [large, Bool.false_eq_true, if_false, Exchange.run, environment]
        cases verify data with
        | error reason => rfl
        | ok result =>
            by_cases success : result.success = true
            · simp only [afterVerification, success, not_true, if_false, Exchange.run_map,
                resolve_cert_run library downstream same]
              cases resolveDownstreamCert downstream state data timeout with
              | error reason => rfl
              | ok outcome => cases outcome <;> rfl
            · simp [afterVerification, success, Exchange.run]

theorem forward_recover_passes (endpoint : String) (call : RecoverCall) :
    (forwardRecover downstream endpoint call).response = passOn (downstream.recover endpoint call) := by
  cases answer : downstream.recover endpoint call with
  | error reason => simp only [forwardRecover, passOn, answer]
  | ok reply => cases read : reply.body <;> simp only [forwardRecover, passOn, answer, read]

/-- Against answers that do not change, a recovery is handled as `handle_recover_inner` handles it. -/
theorem recover_handler_run (state : ServerState) (body : Value) (downstreamMethod : String) :
    (recoverHandler crypto library state body downstreamMethod).run (environment downstream verify json raw) =
      (handleRecoverInner crypto downstream library.toJsonReader state downstreamMethod (body.index (ascii "params")).asArray).response := by
  rw [recoverHandler, handleRecoverInner]
  cases recoverParams library.toJsonReader (body.index (ascii "params")).asArray with
  | error reason => rfl
  | ok request =>
      obtain ⟨batchNum, batchBlockHash, sequencerMsg⟩ := request
      cases extracted : daCertificate crypto state sequencerMsg with
      | error reason => simp only [extracted, Exchange.run]
      | ok cert =>
          cases route : recoverRoute state.daConfig cert with
          | payload bytes => simp only [extracted, route, executeRoute, Exchange.run]
          | forward endpoint daCertificate => simp only [extracted, route, executeRoute, Exchange.run, environment, forward_recover_passes]

end Handlers

end Gateway

end Cas
