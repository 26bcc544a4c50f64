import Cas.DaApi.StoreRecover
import Cas.Lib.Mpsc
import Cas.Nitro.OutputService

set_option autoImplicit false

namespace Cas

open SortedSlice

inductive StorePoint where
  | sending (data : Bytes) (timeout : UInt64)
  | waiting (data : Bytes) (timeout : UInt64)
  | answered (data : Bytes) (timeout : UInt64) (reply : Except String VerificationResult)
  | finished (response : Except DaApiError Response)
  | dropped

structure Moment where
  handled : List (StreamerEvent Bytes)
  returned : Bool

-- Not in the source: when the call came in and when it moved last.
structure StoreCall (Json : Type) where
  server : ServerState
  body : RpcParams Json
  since : List (StreamerEvent Bytes)
  moved : Moment
  point : StorePoint

-- The calls are never removed, so that an index names the reply channel of a call.
structure Certifier (Json : Type) where
  streamer : Streamer NitroRollupQueueEntry BroadcastFeedMessage
  history : List (StreamerEvent Bytes)
  verificationChannel : Mpsc (Nat × Bytes)
  calls : List (StoreCall Json)

variable {Json : Type}

def Certifier.new (finalizedIdx : UInt64) (verificationChannelCapacity : Nat) : Certifier Json :=
  ⟨.new finalizedIdx, [], .new verificationChannelCapacity, []⟩

def Certifier.moment (st : Certifier Json) : Moment := ⟨st.history, st.verificationChannel.closed⟩

section Halves

variable (crypto : CasCrypto) (downstream : Downstream) (reader : JsonReader Json)

def beginStore (server : ServerState) (body : RpcParams Json) : StorePoint :=
  match storeParams reader body with
  | .error reason => .finished (.error reason)
  | .ok (data, timeout) => if tooLarge server.maxMessageSize data then .finished (.error .dynamicBatchingResize) else .sending data timeout

def finishStore (server : ServerState) (data : Bytes) (timeout : UInt64) (reply : Except String VerificationResult) :
    Except DaApiError Response :=
  match reply with
  | .error reason => .error (.channelError reason)
  | .ok result =>
      if ¬result.success then .error (.certificateValidation "CAS verification failed")
      else
        match resolveDownstreamCert downstream server data timeout with
        | .error reason => .error reason
        | .ok (.forward status body) => .ok (.forwarded status body)
        | .ok (.cert origin downstreamCert) =>
            match buildEspressoCertificate crypto server.keyManager (certificateArguments result downstreamCert) with
            | .error reason => .error reason
            | .ok finalCert => finalCert.toBytes.map (.stored origin)

theorem begin_store_finished (verify : Bytes → Except String VerificationResult) (server : ServerState) (body : RpcParams Json)
    (response : Except DaApiError Response) (ended : beginStore reader server body = .finished response) :
    handleStore crypto downstream reader verify server body = response := by
  unfold beginStore at ended
  unfold handleStore
  cases read : storeParams reader body with
  | error reason =>
      rw [read] at ended
      exact StorePoint.finished.inj ended
  | ok request =>
      obtain ⟨data, timeout⟩ := request
      simp only [read] at ended ⊢
      by_cases large : tooLarge server.maxMessageSize data = true
      · rw [if_pos large] at ended ⊢
        exact StorePoint.finished.inj ended
      · rw [if_neg large] at ended
        cases ended

theorem begin_store_sending (server : ServerState) (body : RpcParams Json) (data : Bytes) (timeout : UInt64) :
    beginStore reader server body = .sending data timeout ↔
      storeParams reader body = .ok (data, timeout) ∧ tooLarge server.maxMessageSize data = false := by
  unfold beginStore
  cases read : storeParams reader body with
  | error reason => simp
  | ok request =>
      obtain ⟨other, otherTimeout⟩ := request
      by_cases large : tooLarge server.maxMessageSize other = true
      · simp only [if_pos large, reduceCtorEq, Except.ok.injEq, Prod.mk.injEq, false_iff]
        rintro ⟨⟨rfl, rfl⟩, small⟩
        rw [small] at large
        cases large
      · simp only [if_neg large, StorePoint.sending.injEq, Except.ok.injEq, Prod.mk.injEq]
        constructor
        · rintro ⟨rfl, rfl⟩
          exact ⟨⟨rfl, rfl⟩, by simpa using large⟩
        · exact And.left

theorem finish_store_handled (verify : Bytes → Except String VerificationResult) (server : ServerState) (body : RpcParams Json)
    (data : Bytes) (timeout : UInt64) (begun : beginStore reader server body = .sending data timeout) :
    handleStore crypto downstream reader verify server body = finishStore crypto downstream server data timeout (verify data) := by
  obtain ⟨read, small⟩ := (begin_store_sending reader server body data timeout).mp begun
  cases reply : verify data with
  | error reason => simp only [handleStore, finishStore, read, small, reply, Bool.false_eq_true, if_false]
  | ok result =>
      by_cases success : result.success = true
      · cases resolved : resolveDownstreamCert downstream server data timeout with
        | error reason =>
            simp only [handleStore, finishStore, read, small, reply, success, resolved, Bool.false_eq_true, not_true_eq_false, if_false]
        | ok outcome =>
            cases outcome with
            | forward status body =>
                simp only [handleStore, finishStore, read, small, reply, success, resolved, Bool.false_eq_true, not_true_eq_false, if_false]
            | cert origin downstreamCert =>
                cases built : buildEspressoCertificate crypto server.keyManager (certificateArguments result downstreamCert) <;>
                  simp only [handleStore, finishStore, read, small, reply, success, resolved, built, Bool.false_eq_true,
                    not_true_eq_false, if_false]
      · simp only [handleStore, finishStore, read, small, reply, success, Bool.false_eq_true, not_false_eq_true, if_false, if_true]

end Halves

section Machine

variable (crypto : CasCrypto) (reader : JsonReader Json) (rlp : Rlp.StringCodec) (brotli : Brotli) (config : StreamerConfig)
  (rollup : Rollup Bytes NitroRollupQueueEntry BroadcastFeedMessage)

def StoreCall.moveTo (call : StoreCall Json) (now : Moment) (point : StorePoint) : StoreCall Json :=
  { call with moved := now, point := point }

-- The reply of the streamer is lost when the call no longer waits for it.
def StoreCall.answer (call : StoreCall Json) (now : Moment) (reply : VerificationResult) : StoreCall Json :=
  match call.point with
  | .waiting data timeout => call.moveTo now (.answered data timeout (.ok reply))
  | _ => call

def Certifier.setCall (st : Certifier Json) (index : Nat) (call : StoreCall Json) : Certifier Json :=
  { st with calls := st.calls.set index call }

-- A downstream provider may answer each call differently, and a call whose client goes away is dropped.
inductive CertifierStep : Certifier Json → Certifier Json → Prop where
  | arrive (st : Certifier Json) (server : ServerState) (body : RpcParams Json) :
      CertifierStep st { st with calls := st.calls ++ [⟨server, body, st.history, st.moment, beginStore reader server body⟩] }
  | send (st : Certifier Json) (index : Nat) (call : StoreCall Json) (data : Bytes) (timeout : UInt64) (channel : Mpsc (Nat × Bytes))
      (known : st.calls[index]? = some call) (sends : call.point = .sending data timeout)
      (accepted : st.verificationChannel.trySend (index, data) = .ok channel) :
      CertifierStep st { st.setCall index (call.moveTo st.moment (.waiting data timeout)) with verificationChannel := channel }
  | sendRefused (st : Certifier Json) (index : Nat) (call : StoreCall Json) (data : Bytes) (timeout : UInt64) (reason : String)
      (known : st.calls[index]? = some call) (sends : call.point = .sending data timeout) (gone : st.verificationChannel.closed = true) :
      CertifierStep st (st.setCall index (call.moveTo st.moment (.answered data timeout (.error reason))))
  | streamer (st : Certifier Json) (event : StreamerEvent Bytes) (alive : st.verificationChannel.closed = false) :
      CertifierStep st { st with streamer := stepStreamer config rollup st.streamer event, history := st.history ++ [event] }
  | verify (st : Certifier Json) (index : Nat) (call : StoreCall Json) (data : Bytes) (fetched : Option (Except String BatchCursor))
      (channel : Mpsc (Nat × Bytes)) (alive : st.verificationChannel.closed = false)
      (received : st.verificationChannel.recv = some ((index, data), channel)) (known : st.calls[index]? = some call) :
      CertifierStep st
        { st.setCall index (call.answer st.moment (handleVerification rlp brotli fetched data st.streamer.queue)) with
          verificationChannel := channel }
  -- the streamer returns, and with it go the channel and the replies it still owes
  | streamerExit (st : Certifier Json) : CertifierStep st { st with verificationChannel := st.verificationChannel.close }
  | replyLost (st : Certifier Json) (index : Nat) (call : StoreCall Json) (data : Bytes) (timeout : UInt64) (reason : String)
      (known : st.calls[index]? = some call) (waits : call.point = .waiting data timeout) (gone : st.verificationChannel.closed = true) :
      CertifierStep st (st.setCall index (call.moveTo st.moment (.answered data timeout (.error reason))))
  | finish (st : Certifier Json) (index : Nat) (call : StoreCall Json) (data : Bytes) (timeout : UInt64)
      (reply : Except String VerificationResult) (downstream : Downstream) (known : st.calls[index]? = some call)
      (answered : call.point = .answered data timeout reply) :
      CertifierStep st
        (st.setCall index (call.moveTo st.moment (.finished (finishStore crypto downstream call.server data timeout reply))))
  | drop (st : Certifier Json) (index : Nat) (call : StoreCall Json) (known : st.calls[index]? = some call) :
      CertifierStep st (st.setCall index (call.moveTo st.moment .dropped))

end Machine

section Invariant

variable (crypto : CasCrypto) (reader : JsonReader Json) (rlp : Rlp.StringCodec) (brotli : Brotli) (config : StreamerConfig)
  (rollup : Rollup Bytes NitroRollupQueueEntry BroadcastFeedMessage) (finalizedIdx : UInt64)

def VerifiedDuring (since history : List (StreamerEvent Bytes)) (data : Bytes) (result : VerificationResult) : Prop :=
  ∃ seen fetched, since <+: seen ∧ seen <+: history ∧
    result = handleVerification rlp brotli fetched data (runStreamer config rollup finalizedIdx seen).queue

def Replied (since : List (StreamerEvent Bytes)) (moved : Moment) (data : Bytes) : Except String VerificationResult → Prop
  | .ok result => VerifiedDuring rlp brotli config rollup finalizedIdx since moved.handled data result
  | .error _ => moved.returned = true

def Linearized (call : StoreCall Json) (response : Except DaApiError Response) : Prop :=
  ∃ downstream verify, response = handleStore crypto downstream reader verify call.server call.body ∧
    ∀ data, Replied rlp brotli config rollup finalizedIdx call.since call.moved data (verify data)

def CallInv (st : Certifier Json) (index : Nat) (call : StoreCall Json) : Prop :=
  match call.point with
  | .sending data timeout => beginStore reader call.server call.body = .sending data timeout
  | .waiting data timeout =>
      beginStore reader call.server call.body = .sending data timeout ∧
        (st.verificationChannel.closed = true ∨ (index, data) ∈ st.verificationChannel.buffer)
  | .answered data timeout reply =>
      beginStore reader call.server call.body = .sending data timeout ∧
        Replied rlp brotli config rollup finalizedIdx call.since call.moved data reply
  | .finished response => Linearized crypto reader rlp brotli config rollup finalizedIdx call response
  | .dropped => True

structure InTime (call : StoreCall Json) (now : Moment) : Prop where
  came : call.since <+: call.moved.handled
  moved : call.moved.handled <+: now.handled
  returned : call.moved.returned = true → now.returned = true

structure CertifierInv (st : Certifier Json) : Prop where
  streamer : st.streamer = runStreamer config rollup finalizedIdx st.history
  timed : ∀ (index : Nat) (call : StoreCall Json), st.calls[index]? = some call → InTime call st.moment
  calls : ∀ index call, st.calls[index]? = some call → CallInv crypto reader rlp brotli config rollup finalizedIdx st index call
  requests : ∀ index data, (index, data) ∈ st.verificationChannel.buffer → ∃ call timeout, st.calls[index]? = some call ∧
    beginStore reader call.server call.body = .sending data timeout

theorem in_time_later (call : StoreCall Json) (now next : Moment) (grows : now.handled <+: next.handled)
    (returns : now.returned = true → next.returned = true) (timed : InTime call now) : InTime call next :=
  ⟨timed.came, timed.moved.trans grows, fun gone => returns (timed.returned gone)⟩

theorem in_time_moved (call : StoreCall Json) (now : Moment) (point : StorePoint) (timed : InTime call now) :
    InTime (call.moveTo now point) now :=
  ⟨timed.came.trans timed.moved, List.prefix_refl _, id⟩

theorem replied_later (since : List (StreamerEvent Bytes)) (moved next : Moment) (grows : moved.handled <+: next.handled)
    (returns : moved.returned = true → next.returned = true) (data : Bytes) (reply : Except String VerificationResult)
    (replied : Replied rlp brotli config rollup finalizedIdx since moved data reply) :
    Replied rlp brotli config rollup finalizedIdx since next data reply := by
  cases reply with
  | error reason => exact returns replied
  | ok result =>
      obtain ⟨seen, fetched, after, before, same⟩ := replied
      exact ⟨seen, fetched, after, before.trans grows, same⟩

theorem replied_at_once (since : List (StreamerEvent Bytes)) (moved : Moment) (came : since <+: moved.handled) (data : Bytes) :
    Replied rlp brotli config rollup finalizedIdx since moved data
      (.ok (handleVerification rlp brotli none data (runStreamer config rollup finalizedIdx since).queue)) :=
  ⟨since, none, List.prefix_refl _, came, rfl⟩

theorem call_invariant_later (st next : Certifier Json) (index : Nat) (call : StoreCall Json)
    (closes : st.verificationChannel.closed = true → next.verificationChannel.closed = true)
    (kept : ∀ data timeout, call.point = .waiting data timeout → (index, data) ∈ st.verificationChannel.buffer →
      (index, data) ∈ next.verificationChannel.buffer)
    (inv : CallInv crypto reader rlp brotli config rollup finalizedIdx st index call) :
    CallInv crypto reader rlp brotli config rollup finalizedIdx next index call := by
  unfold CallInv at inv ⊢
  cases point : call.point with
  | waiting data timeout =>
      rw [point] at inv
      exact ⟨inv.1, inv.2.imp closes (kept data timeout point)⟩
  | sending data timeout =>
      rw [point] at inv
      exact inv
  | answered data timeout reply =>
      rw [point] at inv
      exact inv
  | finished response =>
      rw [point] at inv
      exact inv
  | dropped => trivial

theorem begin_call_invariant (st : Certifier Json) (index : Nat) (server : ServerState) (body : RpcParams Json)
    (since : List (StreamerEvent Bytes)) (moved : Moment) (came : since <+: moved.handled) (point : StorePoint)
    (begun : beginStore reader server body = point) :
    CallInv crypto reader rlp brotli config rollup finalizedIdx st index ⟨server, body, since, moved, point⟩ := by
  cases point with
  | sending data timeout => exact begun
  | finished response =>
      -- the handler returns before it asks anyone
      refine ⟨⟨fun _ _ _ => .error "", fun _ _ => .error "", fun _ => .error ""⟩, _, ?_,
        replied_at_once rlp brotli config rollup finalizedIdx since moved came⟩
      exact (begin_store_finished crypto _ reader _ server body response begun).symm
  | _ =>
      unfold beginStore at begun
      repeat' split at begun
      all_goals cases begun

theorem set_call (st : Certifier Json) (index : Nat) (call moved : StoreCall Json) (known : st.calls[index]? = some call) (other : Nat) :
    (st.setCall index moved).calls[other]? = if index = other then some moved else st.calls[other]? := by
  have inside := (List.getElem?_eq_some_iff.mp known).1
  rw [Certifier.setCall, List.getElem?_set]
  by_cases same : index = other
  · obtain rfl := same
    simp [inside]
  · simp [same]

theorem set_call_invariant (st : Certifier Json) (index : Nat) (call moved : StoreCall Json) (channel : Mpsc (Nat × Bytes))
    (inv : CertifierInv crypto reader rlp brotli config rollup finalizedIdx st) (known : st.calls[index]? = some call)
    (asks : beginStore reader moved.server moved.body = beginStore reader call.server call.body)
    (closes : st.verificationChannel.closed = true → channel.closed = true)
    (kept : ∀ request ∈ st.verificationChannel.buffer, request.1 ≠ index → request ∈ channel.buffer)
    (fresh : ∀ request ∈ channel.buffer, request ∈ st.verificationChannel.buffer ∨
      request.1 = index ∧ ∃ timeout, beginStore reader call.server call.body = .sending request.2 timeout)
    (timed : InTime moved st.moment)
    (here : CallInv crypto reader rlp brotli config rollup finalizedIdx
      { st.setCall index moved with verificationChannel := channel } index moved) :
    CertifierInv crypto reader rlp brotli config rollup finalizedIdx
      { st.setCall index moved with verificationChannel := channel } := by
  refine ⟨inv.streamer, fun other found present => ?_, fun other found present => ?_, fun other data member => ?_⟩
  · have read := (set_call st index call moved known other).symm.trans present
    by_cases same : index = other
    · rw [if_pos same] at read
      obtain rfl := Option.some.inj read
      exact in_time_later _ st.moment _ (List.prefix_refl _) closes timed
    · rw [if_neg same] at read
      exact in_time_later found st.moment _ (List.prefix_refl _) closes (inv.timed other found read)
  · have read := (set_call st index call moved known other).symm.trans present
    by_cases same : index = other
    · obtain rfl := same
      rw [if_pos rfl] at read
      obtain rfl := Option.some.inj read
      exact here
    · rw [if_neg same] at read
      exact call_invariant_later crypto reader rlp brotli config rollup finalizedIdx st _ other found closes
        (fun data _ _ member => kept (other, data) member (Ne.symm same)) (inv.calls other found read)
  · have read := set_call st index call moved known other
    by_cases same : index = other
    · obtain rfl := same
      rw [if_pos rfl] at read
      rcases fresh (index, data) member with old | ⟨-, timeout, begun⟩
      · obtain ⟨asker, timeout, asked, begun⟩ := inv.requests index data old
        obtain rfl := Option.some.inj (asked.symm.trans known)
        exact ⟨moved, timeout, read, asks.trans begun⟩
      · exact ⟨moved, timeout, read, asks.trans begun⟩
    · rw [if_neg same] at read
      rcases fresh (other, data) member with old | ⟨here, -⟩
      · obtain ⟨asker, timeout, asked, begun⟩ := inv.requests other data old
        exact ⟨asker, timeout, read.trans asked, begun⟩
      · exact absurd here.symm same

theorem answer_call_invariant (st next : Certifier Json) (index : Nat) (call : StoreCall Json) (data : Bytes)
    (fetched : Option (Except String BatchCursor)) (inv : CertifierInv crypto reader rlp brotli config rollup finalizedIdx st)
    (known : st.calls[index]? = some call) (first : (index, data) ∈ st.verificationChannel.buffer) :
    InTime (call.answer st.moment (handleVerification rlp brotli fetched data st.streamer.queue)) st.moment ∧
      CallInv crypto reader rlp brotli config rollup finalizedIdx next index
        (call.answer st.moment (handleVerification rlp brotli fetched data st.streamer.queue)) := by
  have before := inv.calls index call known
  have timed := inv.timed index call known
  obtain ⟨asker, timeout, asked, begun⟩ := inv.requests index data first
  obtain rfl := Option.some.inj (asked.symm.trans known)
  unfold CallInv at before
  cases point : asker.point with
  | waiting own ownTimeout =>
      rw [point] at before
      obtain ⟨rfl, rfl⟩ := StorePoint.sending.inj (before.1.symm.trans begun)
      simp only [StoreCall.answer, point]
      refine ⟨in_time_moved asker st.moment _ timed, before.1, st.history, fetched, timed.came.trans timed.moved, List.prefix_refl _, ?_⟩
      rw [← inv.streamer]
  | sending own ownTimeout =>
      simp only [StoreCall.answer, point]
      exact ⟨timed, by simpa only [CallInv, point] using before⟩
  | answered own ownTimeout reply =>
      simp only [StoreCall.answer, point]
      exact ⟨timed, by simpa only [CallInv, point] using before⟩
  | finished response =>
      simp only [StoreCall.answer, point]
      exact ⟨timed, by simpa only [CallInv, point] using before⟩
  | dropped =>
      simp only [StoreCall.answer, point]
      exact ⟨timed, by simp only [CallInv, point]⟩

theorem answer_call_asks (call : StoreCall Json) (now : Moment) (reply : VerificationResult) :
    (call.answer now reply).server = call.server ∧ (call.answer now reply).body = call.body := by
  unfold StoreCall.answer
  split
  · exact ⟨rfl, rfl⟩
  · exact ⟨rfl, rfl⟩

theorem arrive_invariant (st : Certifier Json) (inv : CertifierInv crypto reader rlp brotli config rollup finalizedIdx st)
    (server : ServerState) (body : RpcParams Json) :
    CertifierInv crypto reader rlp brotli config rollup finalizedIdx
      { st with calls := st.calls ++ [⟨server, body, st.history, st.moment, beginStore reader server body⟩] } := by
  refine ⟨inv.streamer, fun index call known => ?_, fun index call known => ?_, fun index data member => ?_⟩
  · rw [List.getElem?_append] at known
    split at known
    · exact inv.timed index call known
    · obtain rfl := List.mem_singleton.mp (List.mem_of_getElem? known)
      exact ⟨List.prefix_refl _, List.prefix_refl _, id⟩
  · rw [List.getElem?_append] at known
    split at known
    · exact call_invariant_later crypto reader rlp brotli config rollup finalizedIdx st _ index call id (fun _ _ _ member => member)
        (inv.calls index call known)
    · obtain rfl := List.mem_singleton.mp (List.mem_of_getElem? known)
      exact begin_call_invariant crypto reader rlp brotli config rollup finalizedIdx _ index server body st.history st.moment
        (List.prefix_refl _) _ rfl
  · obtain ⟨call, timeout, asked, begun⟩ := inv.requests index data member
    exact ⟨call, timeout, List.getElem?_append_left (List.getElem?_eq_some_iff.mp asked).1 ▸ asked, begun⟩

theorem finish_linearized (call : StoreCall Json) (now : Moment) (data : Bytes) (timeout : UInt64) (reply : Except String VerificationResult)
    (downstream : Downstream) (timed : InTime call now) (begun : beginStore reader call.server call.body = .sending data timeout)
    (replied : Replied rlp brotli config rollup finalizedIdx call.since call.moved data reply) (point : StorePoint) :
    Linearized crypto reader rlp brotli config rollup finalizedIdx (call.moveTo now point)
      (finishStore crypto downstream call.server data timeout reply) := by
  -- other bytes are never asked about
  refine ⟨downstream, fun bytes => if bytes = data then reply else
    .ok (handleVerification rlp brotli none bytes (runStreamer config rollup finalizedIdx call.since).queue), ?_, fun bytes => ?_⟩
  · change _ = handleStore crypto downstream reader _ call.server call.body
    rw [finish_store_handled crypto downstream reader _ call.server call.body data timeout begun, if_pos rfl]
  · by_cases own : bytes = data
    · simp only [if_pos own]
      rw [own]
      exact replied_later rlp brotli config rollup finalizedIdx _ call.moved now timed.moved timed.returned data reply replied
    · simp only [if_neg own]
      exact replied_at_once rlp brotli config rollup finalizedIdx call.since now (timed.came.trans timed.moved) bytes

theorem certifier_step_invariant (st next : Certifier Json) (inv : CertifierInv crypto reader rlp brotli config rollup finalizedIdx st)
    (step : CertifierStep crypto reader rlp brotli config rollup st next) :
    CertifierInv crypto reader rlp brotli config rollup finalizedIdx next := by
  have moves (index : Nat) (call : StoreCall Json) (point : StorePoint) (channel : Mpsc (Nat × Bytes)) (known : st.calls[index]? = some call)
      (closes : st.verificationChannel.closed = true → channel.closed = true)
      (kept : ∀ request ∈ st.verificationChannel.buffer, request.1 ≠ index → request ∈ channel.buffer) :=
    fun fresh => set_call_invariant crypto reader rlp brotli config rollup finalizedIdx st index call (call.moveTo st.moment point) channel
      inv known rfl closes kept fresh (in_time_moved call st.moment point (inv.timed index call known))
  have stays (index : Nat) (call : StoreCall Json) (point : StorePoint) (known : st.calls[index]? = some call) :=
    moves index call point st.verificationChannel known id (fun _ member _ => member) fun _ member => .inl member
  have later (next : Certifier Json) (index : Nat) (call : StoreCall Json) :=
    call_invariant_later crypto reader rlp brotli config rollup finalizedIdx st next index call
  cases step with
  | arrive server body => exact arrive_invariant crypto reader rlp brotli config rollup finalizedIdx st inv server body
  | send index call data timeout channel known sends accepted =>
      have grown := Mpsc.try_send_accepted _ _ _ accepted
      have before := inv.calls index call known
      rw [CallInv, sends] at before
      refine moves index call _ channel known (fun closed => ?_) (fun request member _ => ?_) (fun request member => ?_) ?_
      · rw [grown.was_open] at closed
        cases closed
      · rw [grown.buffer]
        exact List.mem_append_left _ member
      · rw [grown.buffer] at member
        rcases List.mem_append.mp member with old | new
        · exact .inl old
        · rw [List.mem_singleton.mp new]
          exact .inr ⟨rfl, timeout, before⟩
      · refine ⟨before, .inr ?_⟩
        rw [grown.buffer]
        exact List.mem_append_right _ (List.mem_singleton.mpr rfl)
  | sendRefused index call data timeout reason known sends gone =>
      have before := inv.calls index call known
      rw [CallInv, sends] at before
      exact stays index call _ known ⟨before, gone⟩
  | streamer event alive =>
      refine ⟨?_, fun index call known => ?_, fun index call known => ?_, inv.requests⟩
      · rw [runStreamer, History.run_append, ← runStreamer, ← inv.streamer]
        rfl
      · exact in_time_later call st.moment _ (List.prefix_append _ _) id (inv.timed index call known)
      · exact later _ index call id (fun _ _ _ member => member) (inv.calls index call known)
  | verify index call data fetched channel alive received known =>
      have taken := Mpsc.recv_taken _ _ _ received
      have first : (index, data) ∈ st.verificationChannel.buffer := taken.buffer ▸ List.mem_cons_self
      obtain ⟨timed, here⟩ := answer_call_invariant crypto reader rlp brotli config rollup finalizedIdx st _ index call data fetched inv
        known first
      obtain ⟨sameServer, sameBody⟩ := answer_call_asks call st.moment (handleVerification rlp brotli fetched data st.streamer.queue)
      refine set_call_invariant crypto reader rlp brotli config rollup finalizedIdx st index call _ channel inv known
        (by rw [sameServer, sameBody]) (fun closed => taken.closed.trans closed) (fun request member elsewhere => ?_)
        (fun request member => .inl ?_) timed here
      · rw [taken.buffer] at member
        exact (List.mem_cons.mp member).resolve_left fun same => elsewhere (congrArg Prod.fst same)
      · rw [taken.buffer]
        exact List.mem_cons_of_mem _ member
  | streamerExit =>
      refine ⟨inv.streamer, fun index call known => ?_, fun index call known => ?_, inv.requests⟩
      · exact in_time_later call st.moment _ (List.prefix_refl _) (fun _ => rfl) (inv.timed index call known)
      · exact later _ index call (fun _ => rfl) (fun _ _ _ member => member) (inv.calls index call known)
  | replyLost index call data timeout reason known waits gone =>
      have before := inv.calls index call known
      rw [CallInv, waits] at before
      exact stays index call _ known ⟨before.1, gone⟩
  | finish index call data timeout reply downstream known answered =>
      have before := inv.calls index call known
      rw [CallInv, answered] at before
      exact stays index call _ known (finish_linearized crypto reader rlp brotli config rollup finalizedIdx call st.moment data timeout reply
        downstream (inv.timed index call known) before.1 before.2 _)
  | drop index call known => exact stays index call .dropped known trivial

theorem reached_certifier_invariant (verificationChannelCapacity : Nat) (st : Certifier Json)
    (reached : Relation.ReflTransGen (CertifierStep crypto reader rlp brotli config rollup)
      (.new finalizedIdx verificationChannelCapacity) st) :
    CertifierInv crypto reader rlp brotli config rollup finalizedIdx st :=
  History.reachable_invariant _ _ (certifier_step_invariant crypto reader rlp brotli config rollup finalizedIdx) _ st reached
    ⟨rfl, fun _ _ known => by simp [Certifier.new] at known, fun _ _ known => by simp [Certifier.new] at known,
      fun _ _ member => absurd member List.not_mem_nil⟩

/-- Concurrent store requests do not disturb each other. However the handlers, the channel and the streamer interleave, each
response is the one `handle_store` gives by itself when its own bytes are verified at one moment between the request and the response,
or when the streamer has returned by then; and a handler that waits has its request in the channel, unless the streamer has
returned. -/
theorem stores_linearize (verificationChannelCapacity : Nat) (st : Certifier Json)
    (reached : Relation.ReflTransGen (CertifierStep crypto reader rlp brotli config rollup)
      (.new finalizedIdx verificationChannelCapacity) st)
    (index : Nat) (call : StoreCall Json) (known : st.calls[index]? = some call) :
    InTime call st.moment ∧
    (∀ response, call.point = .finished response → Linearized crypto reader rlp brotli config rollup finalizedIdx call response) ∧
    ∀ data timeout, call.point = .waiting data timeout → storeParams reader call.body = .ok (data, timeout) ∧
      (st.verificationChannel.closed = true ∨ (index, data) ∈ st.verificationChannel.buffer) := by
  have reachedInv := reached_certifier_invariant crypto reader rlp brotli config rollup finalizedIdx verificationChannelCapacity st reached
  have inv := reachedInv.calls index call known
  unfold CallInv at inv
  refine ⟨reachedInv.timed index call known, fun response finished => ?_, fun data timeout waits => ?_⟩
  · rw [finished] at inv
    exact inv
  · rw [waits] at inv
    exact ⟨((begin_store_sending reader call.server call.body data timeout).mp inv.1).1, inv.2⟩

end Invariant

section Certified

variable (crypto : CasCrypto) (reader : JsonReader Json) (rlp : Rlp.StringCodec) (brotli : Brotli) (config : StreamerConfig)
  (external : External) (nitroConfig : NitroConfig)

structure CertifiedBy (data : Bytes) (queue : List NitroRollupQueueEntry) (cursor : BatchCursor) (batch : List BatchMessage) (pos : Nat)
    (certificate : CasCertificate) : Prop where
  parsed : parseBatch rlp brotli data = .ok batch
  matched : MatchesAt batch queue cursor pos
  authentic : ∀ entry ∈ queue, AuthenticMessage external nitroConfig entry.feedMessage
  positions : certificate.startMessagePos = cursor.nextBatchStartPos ∧
    certificate.endMessagePos = cursor.nextBatchStartPos + UInt64.ofNat batch.length - 1
  startBlock : certificate.startHotshotBlock = minHeight ((queue.drop pos).take batch.length)
  delayed : certificate.afterDelayedMessagesRead = cursor.lastBatchDelayedMessagesRead + UInt64.ofNat (delayedCount batch)

theorem certified_by_outcome (queue : List NitroRollupQueueEntry) (sorted : Increasing sequenceNumber queue)
    (authentic : ∀ entry ∈ queue, AuthenticMessage external nitroConfig entry.feedMessage)
    (fetched : Option (Except String BatchCursor)) (data : Bytes)
    (success : (handleVerification rlp brotli fetched data queue).success = true) (downstreamCert : Bytes) (certificate : CasCertificate)
    (signed : certificate.arguments = certificateArguments (handleVerification rlp brotli fetched data queue) downstreamCert) :
    ∃ batch pos, CertifiedBy rlp brotli external nitroConfig data queue (verificationContext fetched) batch pos certificate := by
  unfold handleVerification at success signed
  cases parsed : parseBatch rlp brotli data with
  | error reason =>
      rw [parsed] at success
      cases success
  | ok batch =>
      simp only [parsed] at success signed
      have outcome := verify_batch_outcome batch queue (verificationContext fetched) sorted
      generalize verifyBatchMessages batch queue (verificationContext fetched) = result at outcome success signed
      cases outcome with
      | refused unmatched => cases success
      | accepted pos matched =>
          refine ⟨batch, pos, parsed, matched, authentic, ⟨?_, ?_⟩, ?_, ?_⟩
          · exact congrArg CertificateArguments.startMessagePos signed
          · exact congrArg CertificateArguments.endMessagePos signed
          · exact congrArg CertificateArguments.startHotshotBlock signed
          · exact congrArg CertificateArguments.afterDelayedMessagesRead signed

/-- Whatever the Espresso node delivers and however the requests and the streamer interleave: a certificate that the server returns
is signed by its key manager, and at some moment after the request the batch of that very request agreed, message by message, with
consecutive entries of a queue in which each entry was signed by a trusted sequencer or is part of a payload signed by a legacy
signer. The positions and the first block in the certificate are those of the batch. -/
theorem stored_certificates_verified (finalizedIdx : UInt64) (verificationChannelCapacity : Nat) (st : Certifier Json)
    (reached : Relation.ReflTransGen (CertifierStep crypto reader rlp brotli config (nitroRollup external nitroConfig).toRollup)
      (.new finalizedIdx verificationChannelCapacity) st)
    (call : StoreCall Json) (member : call ∈ st.calls) (origin : CertOrigin) (bytes : Bytes)
    (stored : call.point = .finished (.ok (.stored origin bytes))) :
    ∃ data timeout seen fetched batch pos certificate,
      storeParams reader call.body = .ok (data, timeout) ∧ call.since <+: seen ∧ seen <+: call.moved.handled ∧
      call.moved.handled <+: st.history ∧
      CasCertificate.fromBytes bytes = .ok certificate ∧
      buildEspressoCertificate crypto call.server.keyManager certificate.arguments = .ok certificate ∧
      CertifiedBy rlp brotli external nitroConfig data
        (runStreamer config (nitroRollup external nitroConfig).toRollup finalizedIdx seen).queue (verificationContext fetched) batch pos certificate := by
  obtain ⟨index, known⟩ := List.mem_iff_getElem?.mp member
  have reachedInv := reached_certifier_invariant crypto reader rlp brotli config _ finalizedIdx verificationChannelCapacity st reached
  have inv := reachedInv.calls index call known
  rw [CallInv, stored] at inv
  obtain ⟨downstream, verify, same, verified⟩ := inv
  cases read : storeParams reader call.body with
  | error reason =>
      rw [handleStore, read] at same
      cases same
  | ok request =>
      obtain ⟨data, timeout⟩ := request
      obtain ⟨result, downstreamCert, certificate, storedAs⟩ :=
        (handle_store_stored_iff crypto downstream reader verify call.server call.body data timeout read origin bytes).mp same.symm
      have replied := verified data
      rw [storedAs.verified] at replied
      obtain ⟨seen, fetched, after, before, rfl⟩ := replied
      have encoded := built_to_bytes crypto call.server.keyManager _ certificate storedAs.built
      have signed := (build_ok crypto call.server.keyManager _ certificate storedAs.built).2.2.1
      have sourced := run_streamer_sourced config (nitroRollup external nitroConfig).toRollup
        (fun entry => AuthenticMessage external nitroConfig entry.feedMessage) (parsed_authentic external nitroConfig) finalizedIdx seen
      obtain ⟨batch, pos, certified⟩ := certified_by_outcome rlp brotli external nitroConfig _ sourced.inv.sorted sourced.queue fetched data
        storedAs.success downstreamCert certificate signed
      rw [storedAs.encoded] at encoded
      exact ⟨data, timeout, seen, fetched, batch, pos, certificate, rfl, after, before, (reachedInv.timed index call known).moved,
        from_bytes_to_bytes certificate bytes encoded,
        signed ▸ storedAs.built, certified⟩

end Certified

-- A transaction and a delayed message, in one payload of a young chain's first block.
def openingMessage : BroadcastFeedMessage :=
  { upstreamFeedMessage with
    sequenceNumber := 1
    message := { upstreamFeedMessage.message with delayedMessagesRead := 1 }
    signature := BigEndian.encode 32 0xce82c8ed2bc043be8880fff7ba062a24092a864c0301efdac62d07979a35139c ++
      (BigEndian.encode 32 0x59be2e80ab0051dcfe4ff3fd1b207599ed196a281c32180a2ca93c2e132fcd6e ++ [27]) }

def delayedMessage : BroadcastFeedMessage :=
  { upstreamFeedMessage with
    sequenceNumber := 2
    message := { upstreamFeedMessage.message with delayedMessagesRead := 2 }
    signature := BigEndian.encode 32 0x0ef5a2a3111f27235fd14aa97da9dbc156f7a5270c7872afebed80902167d6b5 ++
      (BigEndian.encode 32 0x6cf893605023fdfdd866671e4b673e1efe39fb84458dc681ec9ebe976b732aa3 ++ [27]) }

def openingJson : Bytes := feedJson true "1" "\"0x0000000000000000000000000000000000000000000000000000000000000000\"" "0" "3q2+7w==" "1"
  "zoLI7SvAQ76IgP/3ugYqJAkqhkwDAe/axi0Hl5o1E5xZvi6AqwBR3P5P8/0bIHWZ7RlqKBwyGAosqTwuEy/Nbhs=" "3q2+rw=="

def delayedJson : Bytes := feedJson true "2" "\"0x0000000000000000000000000000000000000000000000000000000000000000\"" "0" "3q2+7w==" "2"
  "DvWioxEfJyNf0UqpfanbwVb3pScMeHKv6+2AkCFn1rVs+JNgUCP9/dhmZx5LZz4e/jn7hEWNxoHsnr6Xa3Mqoxs=" "3q2+rw=="

def openingHash : B256 := b256 0x92247ce08eeba835a3b07e48b8de9c07854da1882dd861b77ce011d20dd26fde

def delayedHash : B256 := b256 0xe7d0bff1b9866ffd622300421162057e911285ca7a2bb30dd29d90ecfbe9cb72

def openingExternal : External :=
  { sequencerExternal with
    nitroV399 := true
    jsonMessage := fun bytes =>
      if bytes = openingJson then .ok openingMessage
      else if bytes = delayedJson then .ok delayedMessage else sequencerExternal.jsonMessage bytes
    keccak256 := fun bytes =>
      if bytes = (signaturePreimageV399 alloyRlp openingMessage 0xa4b1).toOption.getD [] then openingHash
      else if bytes = (signaturePreimageV399 alloyRlp delayedMessage 0xa4b1).toOption.getD [] then delayedHash
      else sequencerExternal.keccak256 bytes
    recoverAddressFromPrehash := fun hash r s parity =>
      if hash = openingHash ∧ r = 0xce82c8ed2bc043be8880fff7ba062a24092a864c0301efdac62d07979a35139c#256 ∧
        s = 0x59be2e80ab0051dcfe4ff3fd1b207599ed196a281c32180a2ca93c2e132fcd6e#256 ∧ parity = false then some upstreamSigner
      else if hash = delayedHash ∧ r = 0x0ef5a2a3111f27235fd14aa97da9dbc156f7a5270c7872afebed80902167d6b5#256 ∧
        s = 0x6cf893605023fdfdd866671e4b673e1efe39fb84458dc681ec9ebe976b732aa3#256 ∧ parity = false then some upstreamSigner
      else sequencerExternal.recoverAddressFromPrehash hash r s parity }

def openingConfig : NitroConfig := ⟨[], 0xa4b1, [upstreamSigner]⟩

def pairStream : Bytes := [0x60, 0, 0x10, 0x85, 0, 0xde, 0xad, 0xbe, 0xef, 0x02, 0x03]

def delayedStream : Bytes := [0, 0, 0x10, 0x02, 0x03]

def openingBrotli : Brotli := fun input limit =>
  if input = pairStream then .ok ([0x85, 0, 0xde, 0xad, 0xbe, 0xef, 0x02].take limit) else storedBrotli delayedStream [0x02] input limit

def pairArguments : CertificateArguments := ⟨1, 2, 1, 2, 0, brotliHeaderByte :: pairStream⟩

def pairSignature : Signature :=
  ⟨0xac4d79885f8fd08731b4c8d0d5f734b2cb3b718ec319a6620b5f61757eea44a6#256,
    0x419e052281ff18ee569bf326370858a6f07009003f46d87aae1cfd1f36bc78da#256, true⟩

def pairCommitment : B256 := b256 0xca32ecdf379a643df025ef696907ef55a44f495f90c2049d01701950679755d7

def pairSigningHash : B256 := b256 0x88c717914860656a5733c82a447be3896b5bbc5acd7dc8f6f0154e3e6b2da23e

def pairCrypto : CasCrypto :=
  { firstCrypto with
    keccak256 := fun bytes => if bytes = buildPayload pairArguments then pairCommitment else firstCrypto.keccak256 bytes
    eip712SigningHash := fun domain commitment =>
      if domain = ⟨"EspressoTEEVerifier", "1", 42161, testVerifierAddress⟩ ∧ commitment = pairCommitment then pairSigningHash
      else firstCrypto.eip712SigningHash domain commitment
    recoverAddressFromPrehash := fun sig hash =>
      if sig = pairSignature ∧ hash = pairSigningHash then some upstreamSigner else firstCrypto.recoverAddressFromPrehash sig hash }

def pairKeyManager : KeyManager :=
  { firstKeyManager with
    signHashSync := fun hash => if hash = pairSigningHash then .ok pairSignature else firstKeyManager.signHashSync hash }

def pairCertificate : CasCertificate :=
  ⟨v0Header, 1, 2, 1, 2, 0, firstCrypto.signatureAsBytes pairSignature, pairArguments.downstreamCert⟩

def pairServer : ServerState := serverState pairKeyManager 1000 sidecarConfig

def storeBody (data : Bytes) : RpcParams Bytes := some [data, beBytes 5]

-- Two requests come in. One is verified before the event and one after it, and a third comes in behind them.
theorem concurrent_stores_served (crypto : CasCrypto) (reader : JsonReader Json) (rlp : Rlp.StringCodec) (brotli : Brotli)
    (config : StreamerConfig) (rollup : Rollup Bytes NitroRollupQueueEntry BroadcastFeedMessage) (finalizedIdx : UInt64)
    (server : ServerState) (body further : RpcParams Json) (data more : Bytes) (timeout : UInt64)
    (begun : beginStore reader server body = .sending data timeout) (begunOther : beginStore reader server further = .sending more timeout)
    (event : StreamerEvent Bytes) (fetched later : Option (Except String BatchCursor)) (downstream : Downstream) :
    Relation.ReflTransGen (CertifierStep crypto reader rlp brotli config rollup) (.new finalizedIdx 4)
      ⟨stepStreamer config rollup (.new finalizedIdx) event, [event],
        ⟨4, [(2, more)], false, [(0, data), (1, more), (2, more)], [(0, data), (1, more)], Nat.le_of_ble_eq_true rfl, rfl⟩,
        [⟨server, body, [], ⟨[event], false⟩, .finished (finishStore crypto downstream server data timeout
            (.ok (handleVerification rlp brotli fetched data [])))⟩,
          ⟨server, further, [], ⟨[event], false⟩, .finished (finishStore crypto downstream server more timeout
            (.ok (handleVerification rlp brotli later more (stepStreamer config rollup (.new finalizedIdx) event).queue)))⟩,
          ⟨server, further, [event], ⟨[event], false⟩, .waiting more timeout⟩]⟩ := by
  refine .head (.arrive _ server body) <| .head (.arrive _ server further) ?_
  rw [begun, begunOther]
  refine .head (.send _ 0 _ data timeout _ rfl rfl rfl) <| .head (.send _ 1 _ more timeout _ rfl rfl rfl) <|
    .head (.verify _ 0 _ data fetched _ rfl rfl rfl) <| .head (.streamer _ event rfl) <| .head (.arrive _ server further) ?_
  rw [begunOther]
  exact .head (.send _ 2 _ more timeout _ rfl rfl rfl) <| .head (.verify _ 1 _ more later _ rfl rfl rfl) <|
    .head (.finish _ 1 _ more timeout _ downstream rfl rfl) <| .head (.finish _ 0 _ data timeout _ downstream rfl rfl) .refl

def openingEvent : StreamerEvent Bytes := .hotshotTransactions [[v1Payload [openingJson, delayedJson]]] 1 fun _ => .accepted

def openingStreamer : Streamer NitroRollupQueueEntry BroadcastFeedMessage :=
  stepStreamer ⟨1, 2⟩ (nitroRollup openingExternal openingConfig).toRollup (.new 0) openingEvent

theorem opening_queue : openingStreamer.queue = [⟨openingMessage, 1⟩, ⟨delayedMessage, 1⟩] := by
  have parsed : (nitroRollup openingExternal openingConfig).parseHotshotTransactions [[v1Payload [openingJson, delayedJson]]] 1 =
      [⟨openingMessage, 1⟩, ⟨delayedMessage, 1⟩] := by decide +kernel
  rw [openingStreamer, openingEvent, stepStreamer, handleHotshotTransactions, parsed]
  decide +kernel

def refusedCall : StoreCall Bytes :=
  ⟨pairServer, storeBody (brotliHeaderByte :: delayedStream), [], ⟨[openingEvent], false⟩,
    .finished (.error (.certificateValidation "CAS verification failed"))⟩

def certifiedCall : StoreCall Bytes :=
  ⟨pairServer, storeBody (brotliHeaderByte :: pairStream), [], ⟨[openingEvent], false⟩,
    .finished (.ok (.stored .rawData pairCertificate.wire))⟩

def waitingCall : StoreCall Bytes :=
  ⟨pairServer, storeBody (brotliHeaderByte :: pairStream), [openingEvent], ⟨[openingEvent], false⟩,
    .waiting (brotliHeaderByte :: pairStream) 5⟩

def servedState : Certifier Bytes :=
  ⟨openingStreamer, [openingEvent],
    ⟨4, [(2, brotliHeaderByte :: pairStream)], false,
      [(0, brotliHeaderByte :: delayedStream), (1, brotliHeaderByte :: pairStream), (2, brotliHeaderByte :: pairStream)],
      [(0, brotliHeaderByte :: delayedStream), (1, brotliHeaderByte :: pairStream)], by decide, rfl⟩,
    [refusedCall, certifiedCall, waitingCall]⟩

theorem served_state_reached :
    Relation.ReflTransGen (CertifierStep pairCrypto bytesReader Rlp.stringCodec openingBrotli ⟨1, 2⟩
      (nitroRollup openingExternal openingConfig).toRollup) (.new 0 4) servedState := by
  have begun (data : Bytes) (small : tooLarge pairServer.maxMessageSize data = false) :
      beginStore bytesReader pairServer (storeBody data) = .sending data 5 :=
    (begin_store_sending bytesReader pairServer (storeBody data) data 5).mpr ⟨by rfl, small⟩
  have refused : finishStore pairCrypto fallbackDownstream pairServer (brotliHeaderByte :: delayedStream) 5
      (.ok (handleVerification Rlp.stringCodec openingBrotli (some (.ok ⟨1, 2⟩)) (brotliHeaderByte :: delayedStream) [])) =
      .error (.certificateValidation "CAS verification failed") := by decide +kernel
  have stored : finishStore pairCrypto fallbackDownstream pairServer (brotliHeaderByte :: pairStream) 5
      (.ok (handleVerification Rlp.stringCodec openingBrotli (some (.ok ⟨1, 1⟩)) (brotliHeaderByte :: pairStream) openingStreamer.queue)) =
      .ok (.stored .rawData pairCertificate.wire) := by
    rw [opening_queue]
    decide +kernel
  rw [servedState, refusedCall, certifiedCall, ← refused, ← stored]
  exact concurrent_stores_served pairCrypto bytesReader Rlp.stringCodec openingBrotli ⟨1, 2⟩ _ 0 pairServer _ _ _ _ 5
    (begun _ rfl) (begun _ rfl) openingEvent (some (.ok ⟨1, 2⟩)) (some (.ok ⟨1, 1⟩)) fallbackDownstream

theorem concurrent_stores_linearize :
    Linearized pairCrypto bytesReader Rlp.stringCodec openingBrotli ⟨1, 2⟩ (nitroRollup openingExternal openingConfig).toRollup 0 refusedCall
      (.error (.certificateValidation "CAS verification failed")) ∧
    Linearized pairCrypto bytesReader Rlp.stringCodec openingBrotli ⟨1, 2⟩ (nitroRollup openingExternal openingConfig).toRollup 0
      certifiedCall (.ok (.stored .rawData pairCertificate.wire)) ∧
    storeParams bytesReader waitingCall.body = .ok (brotliHeaderByte :: pairStream, 5) := by
  have linearize := stores_linearize pairCrypto bytesReader Rlp.stringCodec openingBrotli ⟨1, 2⟩
    (nitroRollup openingExternal openingConfig).toRollup 0 4 servedState served_state_reached
  exact ⟨(linearize 0 refusedCall rfl).2.1 _ rfl, (linearize 1 certifiedCall rfl).2.1 _ rfl,
    ((linearize 2 waitingCall rfl).2.2 _ _ rfl).1⟩

theorem certified_pair_verified :
    ∃ data timeout seen fetched batch pos certificate,
      storeParams bytesReader certifiedCall.body = .ok (data, timeout) ∧ [] <+: seen ∧ seen <+: [openingEvent] ∧
      [openingEvent] <+: servedState.history ∧ CasCertificate.fromBytes pairCertificate.wire = .ok certificate ∧
      buildEspressoCertificate pairCrypto pairKeyManager certificate.arguments = .ok certificate ∧
      CertifiedBy Rlp.stringCodec openingBrotli openingExternal openingConfig data
        (runStreamer ⟨1, 2⟩ (nitroRollup openingExternal openingConfig).toRollup 0 seen).queue (verificationContext fetched) batch pos
        certificate :=
  stored_certificates_verified pairCrypto bytesReader Rlp.stringCodec openingBrotli ⟨1, 2⟩ openingExternal openingConfig 0 4
    servedState served_state_reached certifiedCall (List.mem_cons_of_mem _ List.mem_cons_self) .rawData pairCertificate.wire rfl

end Cas
