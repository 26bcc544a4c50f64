import Cas.DaApi.Certificate
import Cas.Nitro.Certificate

set_option autoImplicit false

namespace Cas

def espressoHeaderByte : UInt8 := 0x70
def anytrustDasHeaderByte : UInt8 := 0x80
def anytrustDasTreeHeaderByte : UInt8 := 0x88
def calldataHeaderByte : UInt8 := 0x00

def isAnytrustHeader (byte : UInt8) : Bool := [anytrustDasHeaderByte, anytrustDasTreeHeaderByte].contains byte

structure DaProviderConfig where
  name : String
  endpointUrl : String
  anytrustFallbackUrl : Option String
deriving DecidableEq, Repr

def DaProviderConfig.calldata : DaProviderConfig := ⟨"calldata", "", none⟩

structure ServerState where
  daConfig : DaProviderConfig
  keyManager : KeyManager
  maxMessageSize : Option UInt64
  calldataMaxSize : UInt64

def unreachableFallback (provider : DaProviderConfig) : Bool := provider.endpointUrl.isEmpty && provider.anytrustFallbackUrl.isSome

def serverState (keyManager : KeyManager) (calldataMaxSize : UInt64) (provider : DaProviderConfig) : ServerState :=
  ⟨provider, keyManager, if provider.name = "calldata" then some calldataMaxSize else none, calldataMaxSize⟩

-- The routes of the server, one for each provider and one for the built-in calldata provider.
def buildApp (providers : List DaProviderConfig) (keyManager : KeyManager) (calldataMaxSize : UInt64) :
    Except DaApiError (List ServerState) :=
  match providers.find? unreachableFallback with
  | some provider => .error (.configuration
      (s!"provider '{provider.name}' has anytrust_fallback_url set but endpoint_url is empty; " ++
        "anytrust_fallback_url is only consulted after the primary endpoint requests " ++
        "fallback, so without a primary endpoint it is never reached. " ++
        "If anytrust is the only writer you need, set endpoint_url to the anytrust " ++
        "sidecar URL and is_anytrust = true instead."))
  | none => .ok ((providers ++ [DaProviderConfig.calldata]).map (serverState keyManager calldataMaxSize))

structure JsonRpcError where
  code : Int
  message : String
deriving DecidableEq, Repr

def nitroErrMessageTooLarge : String := "message too large for current DA backend"
def nitroErrFallbackRequested : String := "DA provider requests fallback to next writer"

def containsText (text part : String) : Prop := part.toList <:+: text.toList

instance (text part : String) : Decidable (containsText text part) := inferInstanceAs (Decidable (_ <:+: _))

def DaApiError.ofJsonRpcError (err : JsonRpcError) : DaApiError :=
  if containsText err.message nitroErrMessageTooLarge then .dynamicBatchingResize
  else if containsText err.message nitroErrFallbackRequested then .fallbackRequested err.message
  else .downstreamDa err.message

-- The body of a store response as JSON: the error member if there is one, with its text, and the certificate in the result member.
structure StoreBody where
  error : Option (Option JsonRpcError × String)
  result : Except String Bytes

structure HttpReply where
  status : Nat
  body : Except String Bytes

structure RecoverCall where
  method : String
  batchNum : UInt64
  batchBlockHash : B256
  daCertificate : Bytes
deriving DecidableEq, Repr

structure Downstream where
  store : String → Bytes → UInt64 → Except String HttpReply
  recover : String → RecoverCall → Except String HttpReply
  parseStoreBody : Bytes → Except String StoreBody

inductive StoreOutcome where
  | cert (bytes : Bytes)
  | fallback (reason : String)
  | forward (status : Nat) (body : Bytes)
deriving DecidableEq, Repr

def storeVia (downstream : Downstream) (endpoint : String) (data : Bytes) (timeout : UInt64) : Except DaApiError StoreOutcome :=
  match downstream.store endpoint data timeout with
  | .error reason => .error (.downstreamDa reason)
  | .ok reply =>
      match reply.body with
      | .error reason => .error (.parsingError reason)
      | .ok bytes =>
          if ¬(200 ≤ reply.status ∧ reply.status < 300) then .ok (.forward reply.status bytes)
          else
            match downstream.parseStoreBody bytes with
            | .error reason => .error (.parsingError reason)
            | .ok body =>
                match body.error with
                | some (err, text) =>
                    match (err.map DaApiError.ofJsonRpcError).getD (.downstreamDa text) with
                    | .fallbackRequested reason => .ok (.fallback reason)
                    | _ => .ok (.forward 200 bytes)
                | none =>
                    match body.result with
                    | .error reason => .error (.parsingError reason)
                    | .ok cert => .ok (.cert cert)

-- Where the downstream certificate came from. The source does not keep this.
inductive CertOrigin where
  | primary
  | anytrust
  | rawData
deriving DecidableEq, Repr

inductive DownstreamCertOutcome where
  | cert (origin : CertOrigin) (bytes : Bytes)
  | forward (status : Nat) (body : Bytes)
deriving DecidableEq, Repr

def calldataFallback (state : ServerState) (data : Bytes) : Except DaApiError DownstreamCertOutcome :=
  if state.calldataMaxSize.toNat < espressoCertSize + data.length then .error .dynamicBatchingResize
  else .ok (.cert .rawData data)

def resolveDownstreamCert (downstream : Downstream) (state : ServerState) (data : Bytes) (timeout : UInt64) :
    Except DaApiError DownstreamCertOutcome :=
  if state.daConfig.endpointUrl = "" then .ok (.cert .rawData data)
  else
    match storeVia downstream state.daConfig.endpointUrl data timeout with
    | .error reason => .error reason
    | .ok (.cert cert) => .ok (.cert .primary cert)
    | .ok (.forward status body) => .ok (.forward status body)
    | .ok (.fallback _) =>
        match state.daConfig.anytrustFallbackUrl.filter (· ≠ "") with
        | none => calldataFallback state data
        | some anytrustUrl =>
            match storeVia downstream anytrustUrl data timeout with
            | .error reason => .error reason
            | .ok (.cert cert) => .ok (.cert .anytrust cert)
            | .ok (.forward status body) => .ok (.forward status body)
            | .ok (.fallback _) => calldataFallback state data

inductive Response where
  | forwarded (status : Nat) (body : Bytes)
  | stored (origin : CertOrigin) (certificate : Bytes)
  | payload (bytes : Bytes)
deriving DecidableEq, Repr

-- The JSON values in the parameters of a request and how they are read.
structure JsonReader (Json : Type) where
  bytes : Json → Except String Bytes
  u64 : Json → Except String UInt64
  hash : Json → Except String B256

-- `none` is a body without an array of parameters.
abbrev RpcParams (Json : Type) := Option (List Json)

section Handlers

variable {Json : Type} (crypto : CasCrypto) (downstream : Downstream) (reader : JsonReader Json)

def storeParams (body : RpcParams Json) : Except DaApiError (Bytes × UInt64) :=
  match body with
  | some (message :: timeout :: _) =>
      match reader.bytes message with
      | .error err => .error (.invalidParams s!"bad message: {err}")
      | .ok data =>
          match reader.u64 timeout with
          | .error err => .error (.invalidParams s!"bad timeout: {err}")
          | .ok timeout => .ok (data, timeout)
  | _ => .error (.invalidParams "expected 2 params")

def certificateArguments (result : VerificationResult) (downstreamCert : Bytes) : CertificateArguments :=
  ⟨result.startMessagePosition, result.endMessagePosition, result.startEspressoBlock, result.afterDelayedMessagesRead,
    result.minEspressoBlockStillInQueue, downstreamCert⟩

def tooLarge (maxMessageSize : Option UInt64) (data : Bytes) : Bool :=
  match maxMessageSize with
  | some maxSize => maxSize.toNat < data.length
  | none => false

-- `verify` is the answer that comes back over the verification channel.
def handleStore (verify : Bytes → Except String VerificationResult) (state : ServerState) (body : RpcParams Json) :
    Except DaApiError Response :=
  match storeParams reader body with
  | .error reason => .error reason
  | .ok (data, timeout) =>
      if tooLarge state.maxMessageSize data then .error .dynamicBatchingResize
      else
        match verify data with
        | .error reason => .error (.channelError reason)
        | .ok result =>
            if ¬result.success then .error (.certificateValidation "CAS verification failed")
            else
              match resolveDownstreamCert downstream state data timeout with
              | .error reason => .error reason
              | .ok (.forward status body) => .ok (.forwarded status body)
              | .ok (.cert origin downstreamCert) =>
                  match buildEspressoCertificate crypto state.keyManager (certificateArguments result downstreamCert) with
                  | .error reason => .error reason
                  | .ok finalCert => finalCert.toBytes.map (.stored origin)

def recoverParams (body : RpcParams Json) : Except DaApiError (UInt64 × B256 × Bytes) :=
  match body with
  | some [first, second, third] =>
      match reader.u64 first with
      | .error e => .error (.invalidParams s!"bad batch_num: {e}")
      | .ok batchNum =>
          match reader.hash second with
          | .error e => .error (.invalidParams s!"bad batch_block_hash: {e}")
          | .ok batchBlockHash =>
              match reader.bytes third with
              | .error e => .error (.invalidParams s!"bad sequencer_msg: {e}")
              | .ok sequencerMsg => .ok (batchNum, batchBlockHash, sequencerMsg)
  | _ => .error (.invalidParams "expected 3 params")

def daCertificate (state : ServerState) (sequencerMsg : Bytes) : Except DaApiError Bytes :=
  if sequencerMsg.length ≤ sequencerHeaderLen then
    .error (.invalidSequencerMessageLength sequencerHeaderLen sequencerMsg.length)
  else if sequencerMsg[sequencerHeaderLen]? = some espressoHeaderByte then
    tryExtractDaSequencerMsgFromEspressoDaCert crypto sequencerMsg state.keyManager.signer state.keyManager.parentChainId
      state.keyManager.teeVerifierAddress
  else .ok sequencerMsg

def recoverEndpoint (config : DaProviderConfig) (innerHeader : Option UInt8) : String :=
  match config.anytrustFallbackUrl with
  | some url => if url ≠ "" ∧ innerHeader.any isAnytrustHeader then url else config.endpointUrl
  | none => config.endpointUrl

inductive RecoverRoute where
  | payload (bytes : Bytes)
  | forward (endpoint : String) (daCertificate : Bytes)
deriving DecidableEq, Repr

def recoverRoute (config : DaProviderConfig) (daCertificate : Bytes) : RecoverRoute :=
  if config.name = "calldata" ∨ daCertificate[sequencerHeaderLen]? = some calldataHeaderByte then
    .payload (daCertificate.drop sequencerHeaderLen)
  else .forward (recoverEndpoint config daCertificate[sequencerHeaderLen]?) daCertificate

structure Recovery where
  forwarded : Option (String × RecoverCall)
  response : Except DaApiError Response

def forwardRecover (endpoint : String) (call : RecoverCall) : Recovery where
  forwarded := some (endpoint, call)
  response :=
    match downstream.recover endpoint call with
    | .error reason => .error (.downstreamDa reason)
    | .ok reply =>
        match reply.body with
        | .error reason => .error (.parsingError reason)
        | .ok bytes => .ok (.forwarded reply.status bytes)

def executeRoute (downstreamMethod : String) (batchNum : UInt64) (batchBlockHash : B256) : RecoverRoute → Recovery
  | .payload bytes => ⟨none, .ok (.payload bytes)⟩
  | .forward endpoint cert => forwardRecover downstream endpoint ⟨downstreamMethod, batchNum, batchBlockHash, cert⟩

def handleRecoverInner (state : ServerState) (downstreamMethod : String) (body : RpcParams Json) : Recovery :=
  match recoverParams reader body with
  | .error reason => ⟨none, .error reason⟩
  | .ok (batchNum, batchBlockHash, sequencerMsg) =>
      match daCertificate crypto state sequencerMsg with
      | .error reason => ⟨none, .error reason⟩
      | .ok cert => executeRoute downstream downstreamMethod batchNum batchBlockHash (recoverRoute state.daConfig cert)

end Handlers

end Cas
