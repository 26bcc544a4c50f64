import Cas.Nitro.BatchParsing
import Cas.Nitro.Payload
import Cas.Nitro.VerifyBatch
import Cas.Streamer.Invariant

set_option autoImplicit false

namespace Cas

open SortedSlice

structure VerificationRequest where
  batchData : Bytes
  fetched : Except String BatchCursor

-- `none` is a streamer without a fetcher.
def verificationContext : Option (Except String BatchCursor) → BatchCursor
  | some (.ok cursor) => cursor
  | some (.error _) => .default
  | none => .default

-- The verification arm of `run`. It holds the streamer while the cursor is fetched, so the queue does not change meanwhile.
def handleVerification (rlp : Rlp.StringCodec) (brotli : Brotli) (fetched : Option (Except String BatchCursor)) (batchData : Bytes)
    (queue : List NitroRollupQueueEntry) : VerificationResult :=
  match parseBatch rlp brotli batchData with
  | .error _ => .failure
  | .ok entries => verifyBatchMessages entries queue (verificationContext fetched)

-- `replies` is not a field of the source: it records what was answered, oldest first.
structure VerifyingStreamer where
  streamer : Streamer NitroRollupQueueEntry BroadcastFeedMessage
  replies : List (VerificationRequest × VerificationResult)

inductive VerifyingEvent where
  | streamer (event : StreamerEvent Bytes)
  | verification (request : VerificationRequest)

def VerifyingStreamer.new (finalizedIdx : UInt64) : VerifyingStreamer := ⟨.new finalizedIdx, []⟩

-- One iteration of `run` with a fetcher configured.
def stepVerifying (rlp : Rlp.StringCodec) (brotli : Brotli) (config : StreamerConfig)
    (rollup : Rollup Bytes NitroRollupQueueEntry BroadcastFeedMessage) (state : VerifyingStreamer) : VerifyingEvent → VerifyingStreamer
  | .streamer event => { state with streamer := stepStreamer config rollup state.streamer event }
  | .verification request =>
      { state with replies := state.replies ++
          [(request, handleVerification rlp brotli (some request.fetched) request.batchData state.streamer.queue)] }

-- A certificate is about the cursor its own request has read, and without one there is no certificate.
structure Grounded (rlp : Rlp.StringCodec) (brotli : Brotli) (request : VerificationRequest) (reply : VerificationResult) : Prop where
  certified : reply.success = true → ∃ cursor batch, request.fetched = .ok cursor ∧
    parseBatch rlp brotli request.batchData = .ok batch ∧ reply.startMessagePosition = cursor.nextBatchStartPos ∧
    reply.afterDelayedMessagesRead - UInt64.ofNat (delayedCount batch) = cursor.lastBatchDelayedMessagesRead
  refused : ∀ reason, request.fetched = .error reason → reply = .failure

def AllGrounded (rlp : Rlp.StringCodec) (brotli : Brotli) (state : VerifyingStreamer) : Prop :=
  ∀ answered ∈ state.replies, Grounded rlp brotli answered.1 answered.2

def CursorKnown (rlp : Rlp.StringCodec) (brotli : Brotli) (queue : List NitroRollupQueueEntry) (request : VerificationRequest) : Prop :=
  (∃ cursor, request.fetched = .ok cursor) ∨
    ∀ batch, parseBatch rlp brotli request.batchData = .ok batch → ∀ pos, ¬ MatchesAt batch queue .default pos

def AsksKnown (rlp : Rlp.StringCodec) (brotli : Brotli) (state : VerifyingStreamer) : VerifyingEvent → Prop
  | .streamer _ => True
  | .verification request => CursorKnown rlp brotli state.streamer.queue request

section Requests

variable (rlp : Rlp.StringCodec) (brotli : Brotli)

theorem failure_grounded (request : VerificationRequest) : Grounded rlp brotli request .failure :=
  ⟨fun success => absurd success (by decide), fun _ _ => rfl⟩

theorem fetched_grounded (request : VerificationRequest) (cursor : BatchCursor) (batch : List BatchMessage)
    (queue : List NitroRollupQueueEntry) (sorted : Increasing sequenceNumber queue) (fetched : request.fetched = .ok cursor)
    (parsed : parseBatch rlp brotli request.batchData = .ok batch) :
    Grounded rlp brotli request (verifyBatchMessages batch queue cursor) := by
  have outcome := verify_batch_outcome batch queue cursor sorted
  generalize verifyBatchMessages batch queue cursor = result at outcome ⊢
  cases outcome with
  | refused unmatched => exact failure_grounded rlp brotli request
  | accepted pos matched =>
      refine ⟨fun _ => ⟨cursor, batch, fetched, parsed, rfl, UInt64.add_sub_cancel _ _⟩, fun reason failed => ?_⟩
      rw [fetched] at failed
      cases failed

theorem unfetched_grounded_iff (request : VerificationRequest) (reason : String) (batch : List BatchMessage)
    (queue : List NitroRollupQueueEntry) (sorted : Increasing sequenceNumber queue) (failed : request.fetched = .error reason) :
    Grounded rlp brotli request (verifyBatchMessages batch queue .default) ↔ ∀ pos, ¬ MatchesAt batch queue .default pos := by
  have outcome := verify_batch_outcome batch queue .default sorted
  generalize verifyBatchMessages batch queue .default = result at outcome ⊢
  cases outcome with
  | refused unmatched => exact iff_of_true (failure_grounded rlp brotli request) unmatched
  | accepted pos matched =>
      refine iff_of_false (fun grounded => ?_) fun unmatched => unmatched pos matched
      cases grounded.refused reason failed

theorem reply_grounded_iff (request : VerificationRequest) (queue : List NitroRollupQueueEntry)
    (sorted : Increasing sequenceNumber queue) :
    Grounded rlp brotli request (handleVerification rlp brotli (some request.fetched) request.batchData queue) ↔
      CursorKnown rlp brotli queue request := by
  unfold handleVerification CursorKnown
  cases parsed : parseBatch rlp brotli request.batchData with
  | error reason =>
      refine iff_of_true (failure_grounded rlp brotli request) (.inr fun batch impossible => ?_)
      cases impossible
  | ok batch =>
      cases fetched : request.fetched with
      | ok cursor => exact iff_of_true (fetched_grounded rlp brotli request cursor batch queue sorted fetched parsed) (.inl ⟨cursor, rfl⟩)
      | error reason =>
          have exactly := unfetched_grounded_iff rlp brotli request reason batch queue sorted fetched
          simpa [verificationContext] using exactly

end Requests

/-- In every run each reply is grounded in the cursor of its own request exactly when no request whose fetch fails asks for
a batch that the queue matches from the default cursor on. -/
theorem certificates_grounded_iff (rlp : Rlp.StringCodec) (brotli : Brotli) (config : StreamerConfig)
    (rollup : Rollup Bytes NitroRollupQueueEntry BroadcastFeedMessage) (finalizedIdx : UInt64) (events : List VerifyingEvent) :
    AllGrounded rlp brotli (History.run (stepVerifying rlp brotli config rollup) (.new finalizedIdx) events) ↔
      History.Taken (stepVerifying rlp brotli config rollup) (.new finalizedIdx) events (AsksKnown rlp brotli) := by
  refine History.final_iff_taken _ (fun state => StreamerInv config state.streamer) (AllGrounded rlp brotli) (fun _ => True) _
    ?_ ?_ ?_ _ events (fun _ _ => trivial) (new_streamer_invariant config finalizedIdx) (by simp [AllGrounded, VerifyingStreamer.new])
  · intro state event _ inv
    cases event with
    | streamer event => exact step_streamer_invariant config rollup state.streamer event inv
    | verification request => exact inv
  · intro state event _ inv grounded
    cases event with
    | streamer event => exact iff_of_true grounded trivial
    | verification request =>
        rw [AsksKnown, ← reply_grounded_iff rlp brotli request state.streamer.queue inv.sorted]
        constructor
        · intro all
          exact all (request, _) (List.mem_append_right _ (List.mem_singleton.mpr rfl))
        · intro last answered member
          cases List.mem_append.mp member with
          | inl earlier => exact grounded answered earlier
          | inr here =>
              rw [List.mem_singleton.mp here]
              exact last
  · intro state event _ inv ungrounded all
    apply ungrounded
    intro answered member
    cases event with
    | streamer event => exact all answered member
    | verification request => exact all answered (List.mem_append_left _ member)

-- The first message of a young chain, signed by the same key as the upstream one.
def firstFeedMessage : BroadcastFeedMessage :=
  { upstreamFeedMessage with
    sequenceNumber := 1
    message := { upstreamFeedMessage.message with delayedMessagesRead := 1 }
    signature := BigEndian.encode 32 0x26ee98a171e0bb9bfb79ea6f8a418a02cf21940381267225b76c1afe554d26c1 ++
      (BigEndian.encode 32 0x4ae90d3d19dae09ba54be3970247316c9f7578c0873ef669b82c162359db3a98 ++ [27]) }

def firstJson : Bytes := feedJson false "1" "\"0x0000000000000000000000000000000000000000000000000000000000000000\"" "0" "3q2+7w==" "1"
  "Ju6YoXHgu5v7eepvikGKAs8hlAOBJnIlt2wa/lVNJsFK6Q09Gdrgm6VL45cCRzFsn3V4wIc+9mm4LBYjWds6mBs=" "3q2+rw=="

def firstHash : B256 := b256 0x4f1a5386e51791f0b5a7647f55c19d46dcee41d41592df0d58fd1a71ddab3574

def youngExternal : External :=
  { sequencerExternal with
    jsonMessage := fun bytes => if bytes = firstJson then .ok firstFeedMessage else sequencerExternal.jsonMessage bytes
    keccak256 := fun bytes =>
      if bytes = (signaturePreimage firstFeedMessage 0xa4b1).toOption.getD [] then firstHash else sequencerExternal.keccak256 bytes
    recoverAddressFromPrehash := fun hash r s parity =>
      if hash = firstHash ∧ r = 0x26ee98a171e0bb9bfb79ea6f8a418a02cf21940381267225b76c1afe554d26c1#256 ∧
        s = 0x4ae90d3d19dae09ba54be3970247316c9f7578c0873ef669b82c162359db3a98#256 ∧ parity = false then some upstreamSigner
      else sequencerExternal.recoverAddressFromPrehash hash r s parity }

def youngRollup : Rollup Bytes NitroRollupQueueEntry BroadcastFeedMessage :=
  (nitroRollup youngExternal ⟨[], 0xa4b1, [upstreamSigner]⟩).toRollup

-- The batch of that message alone, and the expansion of its stored block.
def firstStream : Bytes := [0x50, 0, 0x10, 0x85, 0, 0xde, 0xad, 0xbe, 0xef, 0x03]

def firstBrotli : Brotli := storedBrotli firstStream [0x85, 0, 0xde, 0xad, 0xbe, 0xef]

def unreadableRequest : VerificationRequest := ⟨brotliHeaderByte :: firstStream, .error "error sending request"⟩

def youngEvents : List VerifyingEvent :=
  [.streamer (.hotshotTransactions [[v1Payload [firstJson]]] 1 fun _ => .accepted), .verification unreadableRequest]

theorem young_replies :
    (History.run (stepVerifying Rlp.stringCodec firstBrotli ⟨1, 2⟩ youngRollup) (.new 0) youngEvents).replies =
      [(unreadableRequest, ⟨true, 1, 1, 1, 1, 0⟩)] := by
  have parsed : youngRollup.parseHotshotTransactions [[v1Payload [firstJson]]] 1 = [⟨firstFeedMessage, 1⟩] := by decide +kernel
  have queue : (stepStreamer ⟨1, 2⟩ youngRollup (.new 0)
      (.hotshotTransactions [[v1Payload [firstJson]]] 1 fun _ => .accepted)).queue = [⟨firstFeedMessage, 1⟩] := by
    rw [stepStreamer, handleHotshotTransactions, parsed]
    decide +kernel
  have answer : handleVerification Rlp.stringCodec firstBrotli (some unreadableRequest.fetched) unreadableRequest.batchData
      [⟨firstFeedMessage, 1⟩] = ⟨true, 1, 1, 1, 1, 0⟩ := by decide +kernel
  change [(unreadableRequest, handleVerification Rlp.stringCodec firstBrotli (some unreadableRequest.fetched) unreadableRequest.batchData
    (stepStreamer ⟨1, 2⟩ youngRollup (.new 0) (.hotshotTransactions [[v1Payload [firstJson]]] 1 fun _ => .accepted)).queue)] = _
  rw [queue, answer]

-- The cursor could not be read, and the batch is certified from position 1 all the same.
theorem failed_fetch_certified :
    ¬ AllGrounded Rlp.stringCodec firstBrotli
      (History.run (stepVerifying Rlp.stringCodec firstBrotli ⟨1, 2⟩ youngRollup) (.new 0) youngEvents) := by
  intro all
  have grounded := all (unreadableRequest, ⟨true, 1, 1, 1, 1, 0⟩) (by rw [young_replies]; exact List.mem_singleton.mpr rfl)
  cases grounded.refused "error sending request" rfl

end Cas
