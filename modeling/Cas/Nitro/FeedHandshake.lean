import Cas.Nitro.FeedClient

set_option autoImplicit false

namespace Cas

def feedServerVersion : UInt64 := 2

def feedClientVersion : UInt64 := 2

abbrev Text := List Char

-- What `to_string` writes for a `u64`, and what `parse` reads as one.
def writeU64 (value : UInt64) : Text := Nat.toDigits 10 value.toNat

def parseU64 (text : Text) : Option UInt64 :=
  let digits := match text with
    | '+' :: rest => rest
    | _ => text
  if digits ≠ [] ∧ digits.all Char.isDigit ∧ Nat.ofDigitChars 10 digits 0 < 2 ^ 64 then
    some (UInt64.ofNat (Nat.ofDigitChars 10 digits 0))
  else none

theorem digit_visible (char : Char) (digit : char.isDigit = true) : 48 ≤ char.toNat ∧ char.toNat ≤ 57 := by
  simp only [Char.isDigit, Bool.and_eq_true, decide_eq_true_eq] at digit
  exact digit

theorem write_u64_digits (value : UInt64) (char : Char) (member : char ∈ writeU64 value) : char.isDigit = true :=
  Nat.isDigit_of_mem_toDigits (by decide) (by decide) member

theorem parse_write_u64 (value : UInt64) : parseU64 (writeU64 value) = some value := by
  have unsigned : (match writeU64 value with
      | '+' :: rest => rest
      | _ => writeU64 value) = writeU64 value := by
    split
    · rename_i rest written
      have digit := write_u64_digits value '+' (by rw [written]; simp)
      cases digit
    · rfl
  have read : Nat.ofDigitChars 10 (writeU64 value) 0 = value.toNat := Nat.ofDigitChars_toDigits (by decide) (by decide)
  have accepted : writeU64 value ≠ [] ∧ (writeU64 value).all Char.isDigit ∧ Nat.ofDigitChars 10 (writeU64 value) 0 < 2 ^ 64 := by
    refine ⟨Nat.toDigits_ne_nil, List.all_eq_true.mpr (write_u64_digits value), ?_⟩
    rw [read]
    exact value.toNat_lt
  simp only [parseU64, unsigned]
  rw [if_pos accepted, read, UInt64.ofNat_toNat]

inductive HeaderName where
  | feedServerVersion
  | feedClientVersion
  | requestedSeqNum
  | chainId
  | secWebsocketExtensions
deriving DecidableEq, Repr

abbrev HeaderMap := List (HeaderName × Bytes)

def HeaderMap.get (headers : HeaderMap) (name : HeaderName) : Option Bytes := (headers.find? fun header => header.1 = name).map Prod.snd

def HeaderMap.insert (headers : HeaderMap) (name : HeaderName) (value : Bytes) : HeaderMap :=
  headers.filter (fun header => header.1 ≠ name) ++ [(name, value)]

def headerValue (text : Text) : Bytes := text.map fun char => UInt8.ofNat char.toNat

def toStr (value : Bytes) : Option Text :=
  if value.all fun byte => (32 ≤ byte ∧ byte < 127) ∨ byte = 9 then some (value.map fun byte => Char.ofNat byte.toNat) else none

def headerU64 (headers : HeaderMap) (name : HeaderName) : Option UInt64 :=
  ((headers.get name).bind toStr).bind parseU64

theorem get_insert (headers : HeaderMap) (name other : HeaderName) (value : Bytes) :
    (headers.insert name value).get other = if name = other then some value else headers.get other := by
  unfold HeaderMap.insert HeaderMap.get
  rw [List.find?_append]
  by_cases same : name = other
  · subst other
    have gone : (headers.filter fun header => header.1 ≠ name).find? (fun header => header.1 = name) = none := by
      simp
    rw [gone]
    simp
  · have kept : (headers.filter fun header => header.1 ≠ name).find? (fun header => header.1 = other) =
        headers.find? fun header => header.1 = other := by
      rw [List.find?_filter]
      congr 1
      funext header
      by_cases here : header.1 = other
      · simp [here, Ne.symm same]
      · simp [here]
    rw [kept]
    simp [same]

theorem to_str_digits (text : Text) (digits : ∀ char ∈ text, char.isDigit = true) : toStr (headerValue text) = some text := by
  have byte : ∀ char ∈ text, (UInt8.ofNat char.toNat).toNat = char.toNat := by
    intro char member
    have range := digit_visible char (digits char member)
    exact UInt8.toNat_ofNat_of_lt' (by have size : UInt8.size = 256 := rfl; omega)
  have visible : (headerValue text).all (fun byte => (32 ≤ byte ∧ byte < 127) ∨ byte = 9) = true := by
    simp only [List.all_eq_true, headerValue, List.mem_map, decide_eq_true_eq]
    rintro _ ⟨char, member, rfl⟩
    have range := digit_visible char (digits char member)
    rw [UInt8.le_iff_toNat_le, UInt8.lt_iff_toNat_lt, byte char member]
    exact .inl ⟨le_trans (by decide) range.1, lt_of_le_of_lt range.2 (by decide)⟩
  rw [toStr, if_pos visible, headerValue, List.map_map]
  congr 1
  refine (List.map_congr_left fun char member => ?_).trans (List.map_id text)
  rw [Function.comp_apply, byte char member, Char.ofNat_toNat]
  rfl

def u64Header (value : UInt64) : Bytes := headerValue (writeU64 value)

theorem parse_u64_header (value : UInt64) : (toStr (u64Header value)).bind parseU64 = some value := by
  rw [u64Header, to_str_digits _ (write_u64_digits value), Option.bind_some, parse_write_u64]

structure WsBroadcastServerConfig where
  requireVersion : Bool
  enableCompression : Bool
  requireCompression : Bool
deriving DecidableEq, Repr

inductive HandshakeAnswer where
  | badRequest
  | switchingProtocols (headers : HeaderMap) (seqNum : UInt64) (compressionAccepted : Bool)
deriving DecidableEq, Repr

section Server

variable (config : WsBroadcastServerConfig) (chainId : UInt64) (upgrade : Bool → HeaderMap → Except String HeaderMap) (request : HeaderMap)

-- The service of `handle_connection`. The library's upgrade is told whether to offer compression.
def handleHandshake : HandshakeAnswer :=
  let seqNum := (headerU64 request .requestedSeqNum).getD 0
  if config.requireVersion && !(headerU64 request .feedClientVersion).any (feedClientVersion ≤ ·) then .badRequest
  else
    match upgrade config.enableCompression request with
    | .error _ => .badRequest
    | .ok response =>
        .switchingProtocols ((response.insert .feedServerVersion (u64Header feedServerVersion)).insert .chainId (u64Header chainId)) seqNum
          (response.get .secWebsocketExtensions).isSome

-- The number from which `run_ws_client` serves the client, if it gets that far.
def handleConnection : Option UInt64 :=
  match handleHandshake config chainId upgrade request with
  | .badRequest => none
  | .switchingProtocols _ seqNum compressionAccepted =>
      if config.requireCompression && !compressionAccepted then none else some seqNum

end Server

inductive ConnectError where
  | incorrectFeedVersion (expected : UInt64) (got : String)
  | incorrectChainId (expected : UInt64) (got : String)
  | missingChainId
  | missingFeedServerVersion
  | invalidConfig (reason : String)
  | connection (reason : String)
deriving DecidableEq, Repr

def ConnectError.isFatal : ConnectError → Bool
  | .incorrectFeedVersion _ _ => true
  | .incorrectChainId _ _ => true
  | .missingChainId => true
  | .missingFeedServerVersion => true
  | .invalidConfig _ => true
  | .connection _ => false

-- Durations are in milliseconds, but for the timeout, which only its own error names.
structure FeedConnectionConfig extends BroadcasterClientConfig where
  websocketUrl : String
  timeout : String
  reconnectInitialBackoff : Nat
  reconnectMaximumBackoff : Nat
  retryConnectMaxBackoff : Nat
  retryConnectBackoffStep : Nat
  requireFeedServerVersion : Bool
  requireChainId : Bool
deriving DecidableEq, Repr

structure PreflightResponse where
  status : Nat
  statusText : String
  headers : HeaderMap
deriving DecidableEq, Repr

-- What one attempt to connect is answered: the scheme of the URL, whether it can
-- be changed and a client built, the response to the first request, and the websocket, `none` when it times out.
structure ConnectAnswers where
  url : Except String String
  setScheme : Except String Unit
  httpClient : Except String Unit
  preflight : Except String PreflightResponse
  websocket : Option (Except String Unit)

def requestHeaders (nextSeqNum : UInt64) : HeaderMap :=
  [(.feedClientVersion, u64Header feedClientVersion), (.requestedSeqNum, u64Header nextSeqNum)]

section Client

variable (debug : Bytes → String)

def requireHeader (headers : HeaderMap) (name : HeaderName) (expected : UInt64) (missing : ConnectError)
    (incorrect : String → ConnectError) : Except ConnectError Unit :=
  match headers.get name with
  | none => .error missing
  | some value =>
      match toStr value with
      | none => .error (incorrect (debug value))
      | some text =>
          match parseU64 text with
          | none => .error (incorrect (String.ofList text))
          | some number => if number ≠ expected then .error (incorrect (String.ofList (writeU64 number))) else .ok ()

def validateHeaders (config : FeedConnectionConfig) (headers : HeaderMap) : Except ConnectError Unit := do
  if config.requireFeedServerVersion then
    requireHeader debug headers .feedServerVersion feedServerVersion .missingFeedServerVersion (.incorrectFeedVersion feedServerVersion)
  if config.requireChainId then
    requireHeader debug headers .chainId config.chainId .missingChainId (.incorrectChainId config.chainId)

def validatePreflightHeaders (config : FeedConnectionConfig) (scheme : String) (answers : ConnectAnswers) : Except ConnectError Unit :=
  if scheme ≠ "ws" ∧ scheme ≠ "wss" then .error (.connection s!"unsupported websocket scheme for preflight: {scheme}")
  else
    match answers.setScheme with
    | .error url => .error (.connection s!"failed to convert websocket url to preflight url: {url}")
    | .ok () =>
        match answers.httpClient with
        | .error reason => .error (.connection s!"failed to build preflight http client: {reason}")
        | .ok () =>
            match answers.preflight with
            | .error reason =>
                let url := config.websocketUrl
                .error (.connection s!"preflight websocket request failed for {url}: {reason}")
            | .ok response =>
                let status := response.statusText
                if response.status ≠ 101 then .error (.connection s!"preflight websocket request returned status {status}")
                else validateHeaders debug config response.headers

def connect (config : FeedConnectionConfig) (answers : ConnectAnswers) : Except ConnectError Unit :=
  if config.websocketUrl.isEmpty then .error (.invalidConfig "empty websocket url")
  else
    match answers.url with
    | .error reason => .error (.invalidConfig s!"invalid websocket url: {reason}")
    | .ok scheme =>
        match validatePreflightHeaders debug config scheme answers with
        | .error reason => .error reason
        | .ok () =>
            match answers.websocket with
            | none =>
                let url := config.websocketUrl
                let timeout := config.timeout
                .error (.connection s!"connection to {url} timed out after {timeout}")
            | some (.error reason) => .error (.connection reason)
            | some (.ok ()) => .ok ()

theorem require_header_written (headers : HeaderMap) (name : HeaderName) (value expected : UInt64) (missing : ConnectError)
    (incorrect : String → ConnectError) (written : headers.get name = some (u64Header value)) :
    requireHeader debug headers name expected missing incorrect =
      if value ≠ expected then .error (incorrect (String.ofList (writeU64 value))) else .ok () := by
  have text := to_str_digits _ (write_u64_digits value)
  simp only [requireHeader, written, u64Header, text, parse_write_u64]

/-- The client's requests are understood by the server and the server's answer by the client. Whatever either requires, an upgraded
client is served from the number it asks for unless the compression it must have was not agreed on, and it refuses the answer only
when it requires the chain id and the two differ, with an error that names both. -/
theorem handshake_agrees (client : FeedConnectionConfig) (server : WsBroadcastServerConfig) (serverChainId nextSeqNum : UInt64)
    (upgrade : Bool → HeaderMap → Except String HeaderMap) (response : HeaderMap)
    (upgrades : upgrade server.enableCompression (requestHeaders nextSeqNum) = .ok response) :
    ∃ headers, handleHandshake server serverChainId upgrade (requestHeaders nextSeqNum) =
        .switchingProtocols headers nextSeqNum (response.get .secWebsocketExtensions).isSome ∧
      handleConnection server serverChainId upgrade (requestHeaders nextSeqNum) =
        (if server.requireCompression ∧ response.get .secWebsocketExtensions = none then none else some nextSeqNum) ∧
      validateHeaders debug client headers =
        if client.requireChainId ∧ serverChainId ≠ client.chainId then
          .error (.incorrectChainId client.chainId (String.ofList (writeU64 serverChainId)))
        else .ok () := by
  have requested : headerU64 (requestHeaders nextSeqNum) .requestedSeqNum = some nextSeqNum := parse_u64_header nextSeqNum
  have version : headerU64 (requestHeaders nextSeqNum) .feedClientVersion = some feedClientVersion := parse_u64_header feedClientVersion
  have admitted :
      (server.requireVersion && !(headerU64 (requestHeaders nextSeqNum) .feedClientVersion).any (feedClientVersion ≤ ·)) = false := by
    rw [version]
    simp
  have answer : handleHandshake server serverChainId upgrade (requestHeaders nextSeqNum) =
      .switchingProtocols ((response.insert .feedServerVersion (u64Header feedServerVersion)).insert .chainId (u64Header serverChainId))
        nextSeqNum (response.get .secWebsocketExtensions).isSome := by
    simp only [handleHandshake, requested, admitted, upgrades, Bool.false_eq_true, if_false, Option.getD_some]
  refine ⟨_, answer, ?_, ?_⟩
  · simp [handleConnection, answer]
  · have chain :
        ((response.insert .feedServerVersion (u64Header feedServerVersion)).insert .chainId (u64Header serverChainId)).get .chainId =
        some (u64Header serverChainId) := by
      rw [get_insert, if_pos rfl]
    have version : ((response.insert .feedServerVersion (u64Header feedServerVersion)).insert .chainId (u64Header serverChainId)).get
        .feedServerVersion = some (u64Header feedServerVersion) := by
      rw [get_insert, if_neg (by decide), get_insert, if_pos rfl]
    simp only [validateHeaders, require_header_written debug _ _ _ _ _ _ chain, require_header_written debug _ _ _ _ _ _ version]
    cases client.requireFeedServerVersion <;> cases client.requireChainId <;> simp <;> rfl

end Client

-- A client of Arbitrum One that insists on both headers.
def arbitrumOneClient : FeedConnectionConfig where
  chainId := 42161
  trustedSequencerAddresses := []
  websocketUrl := "ws://sequencer:9642"
  timeout := "20s"
  reconnectInitialBackoff := 1000
  reconnectMaximumBackoff := 64000
  retryConnectMaxBackoff := 10000
  retryConnectBackoffStep := 500
  requireFeedServerVersion := true
  requireChainId := true

theorem other_chain_refused :
    ∃ headers, handleHandshake ⟨true, true, false⟩ 42170 (fun _ _ => .ok []) (requestHeaders 12345) =
        .switchingProtocols headers 12345 false ∧
      handleConnection ⟨true, true, false⟩ 42170 (fun _ _ => .ok []) (requestHeaders 12345) = some 12345 ∧
      validateHeaders (fun _ => "") arbitrumOneClient headers = .error (.incorrectChainId 42161 "42170") :=
  handshake_agrees (fun _ => "") arbitrumOneClient ⟨true, true, false⟩ 42170 12345 (fun _ _ => .ok []) [] rfl

end Cas
