import Cas.Nitro.FeedHandshake
import Cas.Submitter

set_option autoImplicit false

namespace Cas

-- The client's task: `start` tries to connect, `run_read_loop` reads, is inside
-- `process_message` with some messages left to send, or is in `retry_connect`.
inductive FeedPoint where
  | connecting (backoff : Nat)
  | reading (backoff : Nat)
  | sending (payload : Bytes) (remaining : List BroadcastFeedMessage) (sent : Nat) (verifiedNextSeqNum : Option UInt64)
  | retrying (backoff wait : Nat)
  | returned (error : ConnectError)
  | aborted
deriving DecidableEq, Repr

def FeedPoint.settled : FeedPoint → Bool
  | .sending _ _ _ _ => false
  | .aborted => false
  | _ => true

-- What the server has been asked for and has sent: a connection from a number on, the
-- messages of a frame, or a frame that came to nothing.
inductive WireEvent where
  | opened (requested : UInt64)
  | frame (messages : List BroadcastFeedMessage)
  | dropped (panicked : Option String)
deriving DecidableEq, Repr

-- The feed client, the channel to the submitter and the submitter. The last
-- four fields are not in the source: the number of connections made, what the read loop
-- has slept before reconnecting, the events handled so far, and what went over the wire.
structure Intake (Transaction : Type) where
  client : BroadcasterClient
  firstReconnectAttempt : Bool
  point : FeedPoint
  submitter : Submitter BroadcastFeedMessage Transaction
  receiverGone : Bool
  connections : Nat
  slept : List Nat
  history : List FeedClientEvent
  wire : List WireEvent

variable {Transaction : Type}

def Intake.new (config : FeedConnectionConfig) (submitterConfig : SubmitterConfig) (currentMessageCount : UInt64) : Intake Transaction :=
  ⟨.new currentMessageCount, true, .connecting config.reconnectInitialBackoff, .new submitterConfig, false, 0, [], [], []⟩

def exponentialBackoff (current max : Nat) : Nat := min (current * 2) max

section Machine

variable (debug : Bytes → String) (decoding : FeedDecoding) (config : FeedConnectionConfig) (submitterInputChannelCapacity : Nat)
  (submitterConfig : SubmitterConfig) (namespaceId : UInt64) (txCtor : UInt64 → List BroadcastFeedMessage → List Transaction)

def Intake.handle (st : Intake Transaction) (event : FeedClientEvent) (point : FeedPoint) : Intake Transaction :=
  { st with
    client := stepClient decoding config.toBroadcasterClientConfig st.client event
    point := point
    history := st.history ++ [event] }

inductive IntakeStep : Intake Transaction → Intake Transaction → Prop where
  | connectFailed (st : Intake Transaction) (backoff : Nat) (answers : ConnectAnswers) (reason : ConnectError)
      (connects : st.point = .connecting backoff) (failed : connect debug config answers = .error reason)
      (passing : reason.isFatal = false) :
      IntakeStep st (st.handle decoding config .reconnect (.connecting (exponentialBackoff backoff config.reconnectMaximumBackoff)))
  | connectFatal (st : Intake Transaction) (backoff : Nat) (answers : ConnectAnswers) (reason : ConnectError)
      (connects : st.point = .connecting backoff) (failed : connect debug config answers = .error reason) (fatal : reason.isFatal = true) :
      IntakeStep st (st.handle decoding config .reconnect (.returned reason))
  | connected (st : Intake Transaction) (backoff : Nat) (answers : ConnectAnswers) (connects : st.point = .connecting backoff)
      (succeeded : connect debug config answers = .ok ()) :
      IntakeStep st
        { st.handle decoding config .reconnect (.reading config.reconnectInitialBackoff) with
          firstReconnectAttempt := true
          connections := st.connections + 1
          wire := st.wire ++ [.opened st.client.nextSeqNum] }
  -- not a broadcast message of this version, or a panic while the signatures are verified
  | frameDropped (st : Intake Transaction) (backoff : Nat) (payload : Bytes) (panicked : Option String) (reads : st.point = .reading backoff)
      (unread : ∀ msg, decoding.jsonBroadcast payload = .ok msg → msg.version = messageVersion → panicked ≠ none) :
      IntakeStep st
        { st.handle decoding config (.frame payload panicked fun _ => true) (.reading config.reconnectInitialBackoff) with
          wire := st.wire ++ [.dropped panicked] }
  | frame (st : Intake Transaction) (backoff : Nat) (payload : Bytes) (msg : BroadcastMessage) (reads : st.point = .reading backoff)
      (decoded : decoding.jsonBroadcast payload = .ok msg) (version : msg.version = messageVersion) :
      IntakeStep st
        { st with
          point := .sending payload (verifiedMessages decoding config.toBroadcasterClientConfig msg) 0
            ((verifiedMessages decoding config.toBroadcasterClientConfig msg).getLast?.map fun message => message.sequenceNumber + 1)
          wire := st.wire ++ [.frame msg.messages.reduceOption] }
  -- `send` waits until there is room in the channel
  | send (st : Intake Transaction) (payload : Bytes) (message : BroadcastFeedMessage) (remaining : List BroadcastFeedMessage) (sent : Nat)
      (verifiedNextSeqNum : Option UInt64) (sends : st.point = .sending payload (message :: remaining) sent verifiedNextSeqNum)
      (alive : st.receiverGone = false) (room : st.submitter.unsubmittedMsgs.length < submitterInputChannelCapacity)
      (isOpen : st.submitter.closed = false) :
      IntakeStep st
        { st with
          client := { st.client with submitted := st.client.submitted ++ [message] }
          point := .sending payload remaining (sent + 1) verifiedNextSeqNum
          submitter := { st.submitter with
            unsubmittedMsgs := st.submitter.unsubmittedMsgs ++ [message]
            sent := st.submitter.sent ++ [message] } }
  | sendRefused (st : Intake Transaction) (payload : Bytes) (message : BroadcastFeedMessage) (remaining : List BroadcastFeedMessage)
      (sent : Nat) (verifiedNextSeqNum : Option UInt64) (sends : st.point = .sending payload (message :: remaining) sent verifiedNextSeqNum)
      (gone : st.receiverGone = true) :
      IntakeStep st
        { st with
          point := .reading config.reconnectInitialBackoff
          history := st.history ++ [.frame payload none fun attempt => attempt < sent] }
  | frameDone (st : Intake Transaction) (payload : Bytes) (sent : Nat) (verifiedNextSeqNum : Option UInt64)
      (sends : st.point = .sending payload [] sent verifiedNextSeqNum) :
      IntakeStep st
        { st with
          client := { st.client with nextSeqNum := verifiedNextSeqNum.getD st.client.nextSeqNum }
          point := .reading config.reconnectInitialBackoff
          history := st.history ++ [.frame payload none fun _ => true] }
  -- a timeout, the end of the stream, or a close frame
  | disconnected (st : Intake Transaction) (backoff : Nat) (reads : st.point = .reading backoff) :
      IntakeStep st
        (if st.firstReconnectAttempt then { st with point := .retrying backoff 0, firstReconnectAttempt := false }
        else
          { st with
            point := .retrying (exponentialBackoff backoff config.reconnectMaximumBackoff) 0
            firstReconnectAttempt := false
            slept := st.slept ++ [backoff] })
  | retryFailed (st : Intake Transaction) (backoff wait : Nat) (answers : ConnectAnswers) (reason : ConnectError)
      (retries : st.point = .retrying backoff wait) (failed : connect debug config answers = .error reason) :
      IntakeStep st
        (st.handle decoding config .reconnect
          (.retrying backoff (if wait < config.retryConnectMaxBackoff then wait + config.retryConnectBackoffStep else wait)))
  | retryConnected (st : Intake Transaction) (backoff wait : Nat) (answers : ConnectAnswers) (retries : st.point = .retrying backoff wait)
      (succeeded : connect debug config answers = .ok ()) :
      IntakeStep st
        { st.handle decoding config .reconnect (.reading backoff) with
          firstReconnectAttempt := true
          connections := st.connections + 1
          wire := st.wire ++ [.opened st.client.nextSeqNum] }
  -- the relay stops the client, whose sender is dropped with it
  | abort (st : Intake Transaction) :
      IntakeStep st { st with point := .aborted, submitter := { st.submitter with closed := true } }
  | senderDropped (st : Intake Transaction) (reason : ConnectError) (returns : st.point = .returned reason) :
      IntakeStep st { st with submitter := { st.submitter with closed := true } }
  | submit (st : Intake Transaction) (submitter : Submitter BroadcastFeedMessage Transaction)
      (step : SubmitterStep submitterConfig namespaceId txCtor st.submitter submitter) (alive : st.receiverGone = false)
      (unsent : submitter.sent = st.submitter.sent) (same : submitter.closed = st.submitter.closed) :
      IntakeStep st { st with submitter := submitter }
  | receiverDropped (st : Intake Transaction) : IntakeStep st { st with receiverGone := true }

end Machine

theorem submit_messages_stopped (send : Nat → Bool) (before : List BroadcastFeedMessage) (message : BroadcastFeedMessage)
    (rest : List BroadcastFeedMessage) (attempt : Nat) (accepted : ∀ offset < before.length, send (attempt + offset) = true)
    (refused : send (attempt + before.length) = false) :
    submitMessages send (before ++ message :: rest) attempt = (before, some message) := by
  induction before generalizing attempt with
  | nil =>
      have stop : send attempt = false := refused
      simp [submitMessages, stop]
  | cons first later ih =>
      have here : send attempt = true := accepted 0 (by simp)
      have next := ih (attempt + 1) (fun offset below => by
          have further := accepted (offset + 1) (by simpa using below)
          rwa [Nat.add_comm offset 1, ← Nat.add_assoc] at further)
        (by rwa [List.length_cons, Nat.add_comm later.length 1, ← Nat.add_assoc] at refused)
      simp [submitMessages, here, next]

section Frames

variable (decoding : FeedDecoding) (config : BroadcasterClientConfig)

structure Processing (base client : BroadcasterClient) (payload : Bytes) (remaining : List BroadcastFeedMessage) (sent : Nat)
    (verifiedNextSeqNum : Option UInt64) (msg : BroadcastMessage) (before : List BroadcastFeedMessage) : Prop where
  decoded : decoding.jsonBroadcast payload = .ok msg
  version : msg.version = messageVersion
  next : verifiedNextSeqNum = (verifiedMessages decoding config msg).getLast?.map fun message => message.sequenceNumber + 1
  split : verifiedMessages decoding config msg = before ++ remaining
  count : before.length = sent
  client : client = { base with submitted := base.submitted ++ before }

theorem processing_done (base client : BroadcasterClient) (payload : Bytes) (sent : Nat) (verifiedNextSeqNum : Option UInt64)
    (msg : BroadcastMessage) (before : List BroadcastFeedMessage)
    (inside : Processing decoding config base client payload [] sent verifiedNextSeqNum msg before) :
    stepClient decoding config base (.frame payload none fun _ => true) =
      { client with nextSeqNum := verifiedNextSeqNum.getD client.nextSeqNum } := by
  obtain ⟨decoded, version, rfl, split, -, rfl⟩ := inside
  rw [List.append_nil] at split
  have none := (submit_messages_all (fun _ => true) (verifiedMessages decoding config msg) 0).mpr fun _ _ => rfl
  have all := submit_messages_complete (fun _ => true) (verifiedMessages decoding config msg) 0 none
  have both : submitMessages (fun _ => true) (verifiedMessages decoding config msg) 0 = (verifiedMessages decoding config msg, .none) :=
    Prod.ext all none
  simp only [stepClient, processMessage, decoded, version, ne_eq, not_true_eq_false, if_false, both]
  rw [split]

theorem processing_refused (base client : BroadcasterClient) (payload : Bytes) (message : BroadcastFeedMessage)
    (remaining : List BroadcastFeedMessage) (sent : Nat) (verifiedNextSeqNum : Option UInt64) (msg : BroadcastMessage)
    (before : List BroadcastFeedMessage)
    (inside : Processing decoding config base client payload (message :: remaining) sent verifiedNextSeqNum msg before) :
    stepClient decoding config base (.frame payload none fun attempt => attempt < sent) = client := by
  obtain ⟨decoded, version, -, split, rfl, rfl⟩ := inside
  have stopped := submit_messages_stopped (fun attempt => decide (attempt < before.length)) before message remaining 0
    (fun offset below => by simpa using below) (by simp)
  simp only [stepClient, processMessage, decoded, version, ne_eq, not_true_eq_false, if_false, split, stopped]

theorem frame_dropped_client (client : BroadcasterClient) (payload : Bytes) (panicked : Option String) (send : Nat → Bool)
    (unread : ∀ msg, decoding.jsonBroadcast payload = .ok msg → msg.version = messageVersion → panicked ≠ none) :
    stepClient decoding config client (.frame payload panicked send) = client := by
  cases decoded : decoding.jsonBroadcast payload with
  | error reason => simp only [stepClient, processMessage, decoded]
  | ok msg =>
      by_cases version : msg.version ≠ messageVersion
      · simp only [stepClient, processMessage, decoded, if_pos version]
      · cases stopped : panicked with
        | none => exact absurd stopped (unread msg decoded (not_not.mp version))
        | some reason => simp only [stepClient, processMessage, decoded, if_neg version]

end Frames

section Invariant

variable (debug : Bytes → String) (decoding : FeedDecoding) (config : FeedConnectionConfig) (submitterInputChannelCapacity : Nat)
  (submitterConfig : SubmitterConfig) (namespaceId : UInt64) (txCtor : UInt64 → List BroadcastFeedMessage → List Transaction)
  (packed : Transaction → List BroadcastFeedMessage) (good : BroadcastFeedMessage → Prop) (currentMessageCount : UInt64)

def VerifiedMessage (message : BroadcastFeedMessage) : Prop :=
  (decoding.verifySignature config.chainId config.trustedSequencerAddresses message).isOk = true

def Intake.handled (st : Intake Transaction) : BroadcasterClient :=
  History.run (stepClient decoding config.toBroadcasterClientConfig) (.new currentMessageCount) st.history

structure IntakeInv (st : Intake Transaction) : Prop where
  submitter : (∀ message ∈ st.client.submitted, good message) → SubmitterInv submitterConfig packed st.submitter
  sent : st.submitter.sent = st.client.submitted
  room : st.submitter.unsubmittedMsgs.length ≤ submitterInputChannelCapacity
  verified : ∀ message ∈ st.client.submitted, VerifiedMessage decoding config message
  settled : st.point.settled = true → st.client = st.handled decoding config currentMessageCount
  sending : ∀ payload remaining sent verifiedNextSeqNum, st.point = .sending payload remaining sent verifiedNextSeqNum →
    ∃ msg before, Processing decoding config.toBroadcasterClientConfig (st.handled decoding config currentMessageCount) st.client payload
      remaining sent verifiedNextSeqNum msg before

theorem new_intake_invariant :
    IntakeInv decoding config submitterInputChannelCapacity submitterConfig packed good currentMessageCount
      (.new config submitterConfig currentMessageCount) where
  submitter := fun _ => new_submitter_invariant submitterConfig packed
  sent := rfl
  room := Nat.zero_le _
  verified := fun _ member => absurd member List.not_mem_nil
  settled := fun _ => rfl
  sending := fun _ _ _ _ sends => by cases sends

theorem handle_intake_invariant (st : Intake Transaction) (event : FeedClientEvent) (point : FeedPoint) (firstReconnectAttempt : Bool)
    (connections : Nat) (wire : List WireEvent)
    (inv : IntakeInv decoding config submitterInputChannelCapacity submitterConfig packed good currentMessageCount st)
    (before : st.point.settled = true) (after : point.settled = true)
    (unsent : (stepClient decoding config.toBroadcasterClientConfig st.client event).submitted = st.client.submitted) :
    IntakeInv decoding config submitterInputChannelCapacity submitterConfig packed good currentMessageCount
      { st.handle decoding config event point with
        firstReconnectAttempt := firstReconnectAttempt
        connections := connections
        wire := wire } where
  submitter := fun fine => inv.submitter (unsent ▸ fine)
  sent := inv.sent.trans unsent.symm
  room := inv.room
  verified := fun message member => inv.verified message (unsent ▸ member)
  settled := fun _ => by
    simp only [Intake.handle, Intake.handled, History.run_append]
    rw [inv.settled before]
    rfl
  sending := fun payload remaining sent verifiedNextSeqNum sends => by
    rw [show point = .sending payload remaining sent verifiedNextSeqNum from sends] at after
    cases after

theorem submitter_step_drains (st next : Submitter BroadcastFeedMessage Transaction)
    (step : SubmitterStep submitterConfig namespaceId txCtor st next) (unsent : next.sent = st.sent) :
    next.unsubmittedMsgs.length ≤ st.unsubmittedMsgs.length := by
  cases step with
  | send msg isOpen =>
      have shorter := congrArg List.length unsent
      rw [List.length_append, List.length_singleton] at shorter
      omega
  | recv msg rest atTop idle next => simp only [next, List.length_cons, Nat.le_succ]
  | tryRecv pendingMsgs msg rest drains next => simp only [next, List.length_cons, Nat.le_succ]
  | _ => exact Nat.le_refl _

theorem intake_step_invariant
    (packs : ∀ msgs, msgs ≠ [] → (∀ msg ∈ msgs, good msg) → (txCtor namespaceId msgs).flatMap packed = msgs)
    (st next : Intake Transaction)
    (inv : IntakeInv decoding config submitterInputChannelCapacity submitterConfig packed good currentMessageCount st)
    (step : IntakeStep debug decoding config submitterInputChannelCapacity submitterConfig namespaceId txCtor st next) :
    IntakeInv decoding config submitterInputChannelCapacity submitterConfig packed good currentMessageCount next := by
  have handles := handle_intake_invariant decoding config submitterInputChannelCapacity submitterConfig packed good currentMessageCount st
  have submits (submitter : Submitter BroadcastFeedMessage Transaction) (fine : ∀ message ∈ st.client.submitted, good message) :=
    submitter_step_invariant_where submitterConfig namespaceId txCtor packed good packs st.submitter submitter (inv.submitter fine)
      (inv.sent ▸ fine)
  cases step with
  | connectFailed backoff answers reason connects failed passing =>
      exact handles .reconnect _ st.firstReconnectAttempt st.connections _ inv (by rw [connects]; rfl) rfl rfl
  | connectFatal backoff answers reason connects failed fatal =>
      exact handles .reconnect (.returned reason) st.firstReconnectAttempt st.connections _ inv (by rw [connects]; rfl) rfl rfl
  | connected backoff answers connects succeeded =>
      exact handles .reconnect (.reading _) true (st.connections + 1) _ inv (by rw [connects]; rfl) rfl rfl
  | frameDropped backoff payload panicked reads unread =>
      refine handles (.frame payload panicked fun _ => true) (.reading _) st.firstReconnectAttempt st.connections _ inv
        (by rw [reads]; rfl) rfl ?_
      rw [frame_dropped_client decoding config.toBroadcasterClientConfig st.client payload panicked _ unread]
  | frame backoff payload msg reads decoded version =>
      refine ⟨inv.submitter, inv.sent, inv.room, inv.verified, (fun settled => nomatch settled), fun _ _ _ _ sends => ?_⟩
      obtain ⟨rfl, rfl, rfl, rfl⟩ := FeedPoint.sending.inj sends
      refine ⟨msg, [], decoded, version, rfl, rfl, rfl, ?_⟩
      rw [List.append_nil]
      exact inv.settled (by rw [reads]; rfl)
  | send payload message remaining sent verifiedNextSeqNum sends alive room isOpen =>
      obtain ⟨msg, before, inside⟩ := inv.sending payload (message :: remaining) sent verifiedNextSeqNum sends
      have listed : message ∈ verifiedMessages decoding config.toBroadcasterClientConfig msg := by
        rw [inside.split]
        simp
      refine ⟨fun fine => submits _ (fun other member => fine other (List.mem_append_left _ member)) (.send st.submitter message isOpen),
        congrArg (· ++ [message]) inv.sent, ?_, fun other member => ?_, (fun settled => nomatch settled), fun _ _ _ _ later => ?_⟩
      · rw [List.length_append]
        exact room
      · rcases List.mem_append.mp member with old | new
        · exact inv.verified other old
        · rw [List.mem_singleton.mp new]
          exact (List.mem_filter.mp listed).2
      · obtain ⟨rfl, rfl, rfl, rfl⟩ := FeedPoint.sending.inj later
        refine ⟨msg, before ++ [message], inside.decoded, inside.version, inside.next, ?_, ?_, ?_⟩
        · rw [inside.split, List.append_assoc]
          rfl
        · rw [List.length_append, inside.count]
          rfl
        · rw [inside.client, ← List.append_assoc]
          rfl
  | sendRefused payload message remaining sent verifiedNextSeqNum sends gone =>
      obtain ⟨msg, before, inside⟩ := inv.sending payload (message :: remaining) sent verifiedNextSeqNum sends
      refine ⟨inv.submitter, inv.sent, inv.room, inv.verified, fun _ => ?_, fun _ _ _ _ later => nomatch later⟩
      simp only [Intake.handled, History.run_append]
      exact (processing_refused decoding _ _ st.client payload message remaining sent verifiedNextSeqNum msg before inside).symm
  | frameDone payload sent verifiedNextSeqNum sends =>
      obtain ⟨msg, before, inside⟩ := inv.sending payload [] sent verifiedNextSeqNum sends
      refine ⟨inv.submitter, inv.sent, inv.room, inv.verified, fun _ => ?_, fun _ _ _ _ later => nomatch later⟩
      simp only [Intake.handled, History.run_append]
      exact (processing_done decoding _ _ st.client payload sent verifiedNextSeqNum msg before inside).symm
  | disconnected backoff reads =>
      have settled := inv.settled (by rw [reads]; rfl)
      split
      · exact ⟨inv.submitter, inv.sent, inv.room, inv.verified, fun _ => settled, fun _ _ _ _ later => nomatch later⟩
      · exact ⟨inv.submitter, inv.sent, inv.room, inv.verified, fun _ => settled, fun _ _ _ _ later => nomatch later⟩
  | retryFailed backoff wait answers reason retries failed =>
      exact handles .reconnect (.retrying _ _) st.firstReconnectAttempt st.connections _ inv (by rw [retries]; rfl) rfl rfl
  | retryConnected backoff wait answers retries succeeded =>
      exact handles .reconnect (.reading _) true (st.connections + 1) _ inv (by rw [retries]; rfl) rfl rfl
  | abort =>
      exact ⟨fun fine => submits _ fine (.close st.submitter), inv.sent, inv.room, inv.verified, (fun settled => nomatch settled),
        fun _ _ _ _ later => nomatch later⟩
  | senderDropped reason returns => exact { inv with submitter := fun fine => submits _ fine (.close st.submitter) }
  | submit submitter step alive unsent same =>
      have drained := submitter_step_drains submitterConfig namespaceId txCtor st.submitter submitter step unsent
      exact { inv with
        submitter := fun fine => submits submitter fine step
        sent := unsent.trans inv.sent
        room := drained.trans inv.room }
  | receiverDropped => exact { inv with }

theorem reached_intake_invariant
    (packs : ∀ msgs, msgs ≠ [] → (∀ msg ∈ msgs, good msg) → (txCtor namespaceId msgs).flatMap packed = msgs)
    (st : Intake Transaction)
    (reached : Relation.ReflTransGen
      (IntakeStep debug decoding config submitterInputChannelCapacity submitterConfig namespaceId txCtor)
      (.new config submitterConfig currentMessageCount) st) :
    IntakeInv decoding config submitterInputChannelCapacity submitterConfig packed good currentMessageCount st :=
  History.reachable_invariant _ _
    (fun before after => intake_step_invariant debug decoding config submitterInputChannelCapacity submitterConfig namespaceId txCtor packed
      good currentMessageCount packs before after)
    _ st reached (new_intake_invariant decoding config submitterInputChannelCapacity submitterConfig packed good currentMessageCount)

def Submitter.holds (st : Submitter BroadcastFeedMessage Transaction) : List BroadcastFeedMessage :=
  st.accounted packed ++ st.unsubmittedMsgs

theorem intake_holds_submitted (st : Intake Transaction)
    (inv : IntakeInv decoding config submitterInputChannelCapacity submitterConfig packed good currentMessageCount st)
    (fine : ∀ message ∈ st.client.submitted, good message) : st.submitter.holds packed = st.client.submitted := by
  rw [Submitter.holds, (inv.submitter fine).accounted, (inv.submitter fine).channel, inv.sent]

end Invariant

section Order

def Numbered : UInt64 → List BroadcastFeedMessage → Prop
  | _, [] => True
  | first, message :: rest => message.sequenceNumber = first ∧ Numbered (first + 1) rest

theorem numbered_append (first : UInt64) (front back : List BroadcastFeedMessage) :
    Numbered first (front ++ back) ↔ Numbered first front ∧ Numbered (first + UInt64.ofNat front.length) back := by
  induction front generalizing first with
  | nil => simp [Numbered]
  | cons message rest ih =>
      have shift : first + 1 + UInt64.ofNat rest.length = first + UInt64.ofNat (rest.length + 1) := by
        rw [UInt64.ofNat_add, add_assoc, add_comm 1]
        rfl
      simp only [List.cons_append, Numbered, ih, List.length_cons, shift, and_assoc]

theorem numbered_last (first : UInt64) (messages : List BroadcastFeedMessage) (numbered : Numbered first messages) :
    ((messages.getLast?.map fun message => message.sequenceNumber + 1).getD first) = first + UInt64.ofNat messages.length := by
  rcases List.eq_nil_or_concat' messages with rfl | ⟨front, last, rfl⟩
  · simp
  · obtain ⟨-, final, -⟩ := (numbered_append first front [last]).mp numbered
    simp [final, UInt64.ofNat_add, add_assoc]

variable (decoding : FeedDecoding) (config : FeedConnectionConfig) (currentMessageCount : UInt64)

def serve (served : UInt64) : WireEvent → UInt64
  | .opened requested => requested
  | .frame messages => served + UInt64.ofNat messages.length
  | .dropped _ => served

def ServedInOrder (served : UInt64) : WireEvent → Prop
  | .opened _ => True
  | .frame messages => Numbered served messages ∧ ∀ message ∈ messages, VerifiedMessage decoding config message
  | .dropped panicked => panicked = none

structure OrderInv (st : Intake Transaction) : Prop where
  numbered : Numbered currentMessageCount st.client.submitted
  next : st.receiverGone = false → st.point.settled = true →
    st.client.nextSeqNum = currentMessageCount + UInt64.ofNat st.client.submitted.length
  served : st.receiverGone = false → ∀ backoff, st.point = .reading backoff →
    History.run serve currentMessageCount st.wire = st.client.nextSeqNum
  sending : st.receiverGone = false → ∀ payload remaining sent verifiedNextSeqNum,
    st.point = .sending payload remaining sent verifiedNextSeqNum →
    Numbered currentMessageCount (st.client.submitted ++ remaining) ∧
      verifiedNextSeqNum.getD st.client.nextSeqNum = currentMessageCount + UInt64.ofNat (st.client.submitted ++ remaining).length ∧
      History.run serve currentMessageCount st.wire = currentMessageCount + UInt64.ofNat (st.client.submitted ++ remaining).length

theorem new_order_invariant (submitterConfig : SubmitterConfig) :
    OrderInv currentMessageCount (.new config submitterConfig currentMessageCount : Intake Transaction) where
  numbered := trivial
  next := fun _ _ => by simp [Intake.new, BroadcasterClient.new]
  served := fun _ _ reads => nomatch reads
  sending := fun _ _ _ _ _ sends => nomatch sends

theorem reconnect_order_invariant (st : Intake Transaction) (point : FeedPoint) (firstReconnectAttempt : Bool) (connections : Nat)
    (wire : List WireEvent) (inv : OrderInv currentMessageCount st) (before : st.point.settled = true) (after : point.settled = true)
    (opened : ∀ backoff, point = .reading backoff → wire = st.wire ++ [.opened st.client.nextSeqNum]) :
    OrderInv currentMessageCount
      { st.handle decoding config .reconnect point with
        firstReconnectAttempt := firstReconnectAttempt, connections := connections, wire := wire } where
  numbered := inv.numbered
  next := fun alive _ => inv.next alive before
  served := fun _ backoff reads => by
    simp only [opened backoff reads, History.run_append]
    rfl
  sending := fun _ payload remaining sent verifiedNextSeqNum sends => by
    rw [show point = .sending payload remaining sent verifiedNextSeqNum from sends] at after
    cases after

section Steps

variable (debug : Bytes → String) (submitterInputChannelCapacity : Nat) (submitterConfig : SubmitterConfig) (namespaceId : UInt64)
  (txCtor : UInt64 → List BroadcastFeedMessage → List Transaction)

theorem frame_order_invariant (st : Intake Transaction) (backoff : Nat) (payload : Bytes) (msg : BroadcastMessage)
    (reads : st.point = .reading backoff) (inv : OrderInv currentMessageCount st)
    (numbered : Numbered (History.run serve currentMessageCount st.wire) msg.messages.reduceOption)
    (signed : ∀ message ∈ msg.messages.reduceOption, VerifiedMessage decoding config message) :
    OrderInv currentMessageCount
      { st with
        point := .sending payload (verifiedMessages decoding config.toBroadcasterClientConfig msg) 0
          ((verifiedMessages decoding config.toBroadcasterClientConfig msg).getLast?.map fun message => message.sequenceNumber + 1)
        wire := st.wire ++ [.frame msg.messages.reduceOption] } where
  numbered := inv.numbered
  next := fun _ settled => nomatch settled
  served := fun _ _ later => nomatch later
  sending := fun alive _ _ _ _ sends => by
    obtain ⟨rfl, rfl, rfl, rfl⟩ := FeedPoint.sending.inj sends
    have all : verifiedMessages decoding config.toBroadcasterClientConfig msg = msg.messages.reduceOption := List.filter_eq_self.mpr signed
    have start := inv.next alive (by rw [reads]; rfl)
    rw [inv.served alive backoff reads] at numbered
    rw [all, List.length_append, UInt64.ofNat_add, ← add_assoc, ← start]
    refine ⟨(numbered_append _ _ _).mpr ⟨inv.numbered, start ▸ numbered⟩, numbered_last _ _ numbered, ?_⟩
    rw [History.run_append, inv.served alive backoff reads]
    rfl

theorem intake_step_order (st next : Intake Transaction)
    (inv : History.Taken serve currentMessageCount st.wire (ServedInOrder decoding config) → OrderInv currentMessageCount st)
    (step : IntakeStep debug decoding config submitterInputChannelCapacity submitterConfig namespaceId txCtor st next)
    (taken : History.Taken serve currentMessageCount next.wire (ServedInOrder decoding config)) : OrderInv currentMessageCount next := by
  have reconnects := reconnect_order_invariant decoding config currentMessageCount st
  cases step with
  | connectFailed backoff answers reason connects failed passing =>
      exact reconnects _ st.firstReconnectAttempt st.connections st.wire (inv taken) (by rw [connects]; rfl) rfl
        fun _ reads => nomatch reads
  | connectFatal backoff answers reason connects failed fatal =>
      exact reconnects _ st.firstReconnectAttempt st.connections st.wire (inv taken) (by rw [connects]; rfl) rfl
        fun _ reads => nomatch reads
  | connected backoff answers connects succeeded =>
      obtain ⟨earlier, -⟩ := (History.taken_snoc _ _ _ _ _).mp taken
      exact reconnects _ true (st.connections + 1) _ (inv earlier) (by rw [connects]; rfl) rfl fun _ _ => rfl
  | frameDropped backoff payload panicked reads unread =>
      obtain ⟨earlier, -⟩ := (History.taken_snoc _ _ _ _ _).mp taken
      have same := frame_dropped_client decoding config.toBroadcasterClientConfig st.client payload panicked (fun _ => true) unread
      have before := inv earlier
      have settled : st.point.settled = true := by
        rw [reads]
        rfl
      simp only [Intake.handle, same]
      refine ⟨before.numbered, fun alive _ => before.next alive settled, fun alive _ _ => ?_, fun _ _ _ _ _ sends => nomatch sends⟩
      rw [History.run_append]
      exact before.served alive backoff reads
  | frame backoff payload msg reads decoded version =>
      obtain ⟨earlier, numbered, signed⟩ := (History.taken_snoc _ _ _ _ _).mp taken
      exact frame_order_invariant decoding config currentMessageCount st backoff payload msg reads (inv earlier) numbered signed
  | send payload message remaining sent verifiedNextSeqNum sends alive room isOpen =>
      obtain ⟨numbered, number, served⟩ := (inv taken).sending alive payload _ sent verifiedNextSeqNum sends
      have grouped : st.client.submitted ++ message :: remaining = st.client.submitted ++ [message] ++ remaining := by simp
      rw [grouped] at numbered number served
      refine ⟨((numbered_append _ _ _).mp numbered).1, (fun _ settled => nomatch settled), (fun _ _ reads => nomatch reads),
        fun _ _ _ _ _ later => ?_⟩
      obtain ⟨rfl, rfl, rfl, rfl⟩ := FeedPoint.sending.inj later
      exact ⟨numbered, number, served⟩
  | sendRefused payload message remaining sent verifiedNextSeqNum sends gone =>
      exact ⟨(inv taken).numbered, fun alive => by simp [gone] at alive, fun alive => by simp [gone] at alive,
        fun _ _ _ _ _ later => nomatch later⟩
  | frameDone payload sent verifiedNextSeqNum sends =>
      refine ⟨(inv taken).numbered, fun alive _ => ?_, fun alive _ _ => ?_, fun _ _ _ _ _ later => nomatch later⟩
      all_goals
        obtain ⟨-, number, served⟩ := (inv taken).sending alive payload [] sent verifiedNextSeqNum sends
        rw [List.append_nil] at number served
      · exact number
      · exact served.trans number.symm
  | disconnected backoff reads =>
      have settled : st.point.settled = true := by
        rw [reads]
        rfl
      have before := inv (by split at taken <;> exact taken)
      split
      · exact ⟨before.numbered, fun alive _ => before.next alive settled, (fun _ _ later => nomatch later),
          fun _ _ _ _ _ later => nomatch later⟩
      · exact ⟨before.numbered, fun alive _ => before.next alive settled, (fun _ _ later => nomatch later),
          fun _ _ _ _ _ later => nomatch later⟩
  | retryFailed backoff wait answers reason retries failed =>
      exact reconnects _ st.firstReconnectAttempt st.connections st.wire (inv taken) (by rw [retries]; rfl) rfl
        fun _ reads => nomatch reads
  | retryConnected backoff wait answers retries succeeded =>
      obtain ⟨earlier, -⟩ := (History.taken_snoc _ _ _ _ _).mp taken
      exact reconnects _ true (st.connections + 1) _ (inv earlier) (by rw [retries]; rfl) rfl fun _ _ => rfl
  | abort =>
      exact ⟨(inv taken).numbered, (fun _ settled => nomatch settled), (fun _ _ later => nomatch later),
        fun _ _ _ _ _ later => nomatch later⟩
  | senderDropped reason returns => exact { inv taken with }
  | submit submitter step alive unsent same => exact { inv taken with }
  | receiverDropped =>
      exact ⟨(inv taken).numbered, (fun alive => nomatch alive), (fun alive => nomatch alive), fun alive => nomatch alive⟩

theorem reached_order_invariant (st : Intake Transaction)
    (reached : Relation.ReflTransGen
      (IntakeStep debug decoding config submitterInputChannelCapacity submitterConfig namespaceId txCtor)
      (.new config submitterConfig currentMessageCount) st)
    (taken : History.Taken serve currentMessageCount st.wire (ServedInOrder decoding config)) : OrderInv currentMessageCount st :=
  History.reachable_invariant _
    (fun st => History.Taken serve currentMessageCount st.wire (ServedInOrder decoding config) → OrderInv currentMessageCount st)
    (intake_step_order decoding config currentMessageCount debug submitterInputChannelCapacity submitterConfig namespaceId txCtor)
    _ st reached (fun _ => new_order_invariant config currentMessageCount submitterConfig) taken

end Steps

end Order

section Pace

variable (debug : Bytes → String) (decoding : FeedDecoding) (config : FeedConnectionConfig) (submitterInputChannelCapacity : Nat)
  (submitterConfig : SubmitterConfig) (namespaceId : UInt64) (txCtor : UInt64 → List BroadcastFeedMessage → List Transaction)

-- A client that reads has just made its connection, so that its next attempt is again a first one.
def Paced (connections : Nat) (submitted : List BroadcastFeedMessage) (firstReconnectAttempt : Bool) : FeedPoint → Prop
  | .connecting backoff =>
      backoff ≤ max config.reconnectInitialBackoff config.reconnectMaximumBackoff ∧ connections = 0 ∧ submitted = []
  | .reading _ => firstReconnectAttempt = true
  | .sending _ _ _ _ => firstReconnectAttempt = true
  | .retrying _ wait => wait ≤ config.retryConnectMaxBackoff + config.retryConnectBackoffStep
  | .returned error => error.isFatal = true ∧ connections = 0 ∧ submitted = []
  | .aborted => True

structure PaceInv (st : Intake Transaction) : Prop where
  slept : st.slept = []
  paced : Paced config st.connections st.client.submitted st.firstReconnectAttempt st.point

theorem intake_step_pace (st next : Intake Transaction) (inv : PaceInv config st)
    (step : IntakeStep debug decoding config submitterInputChannelCapacity submitterConfig namespaceId txCtor st next) :
    PaceInv config next := by
  obtain ⟨slept, paced⟩ := inv
  cases step with
  | connectFailed backoff answers reason connects failed passing =>
      rw [connects] at paced
      obtain ⟨-, unconnected, nothing⟩ := paced
      exact ⟨slept, (Nat.min_le_right _ _).trans (Nat.le_max_right _ _), unconnected, nothing⟩
  | connectFatal backoff answers reason connects failed fatal =>
      rw [connects] at paced
      obtain ⟨-, unconnected, nothing⟩ := paced
      exact ⟨slept, fatal, unconnected, nothing⟩
  | connected backoff answers connects succeeded => exact ⟨slept, rfl⟩
  | frameDropped backoff payload panicked reads unread =>
      rw [reads] at paced
      exact ⟨slept, paced⟩
  | frame backoff payload msg reads decoded version =>
      rw [reads] at paced
      exact ⟨slept, paced⟩
  | send payload message remaining sent verifiedNextSeqNum sends alive room isOpen =>
      rw [sends] at paced
      exact ⟨slept, paced⟩
  | sendRefused payload message remaining sent verifiedNextSeqNum sends gone =>
      rw [sends] at paced
      exact ⟨slept, paced⟩
  | frameDone payload sent verifiedNextSeqNum sends =>
      rw [sends] at paced
      exact ⟨slept, paced⟩
  | disconnected backoff reads =>
      rw [reads] at paced
      have first : st.firstReconnectAttempt = true := paced
      rw [if_pos first]
      exact ⟨slept, Nat.zero_le _⟩
  | retryFailed backoff wait answers reason retries failed =>
      rw [retries] at paced
      have bounded : wait ≤ config.retryConnectMaxBackoff + config.retryConnectBackoffStep := paced
      refine ⟨slept, ?_⟩
      simp only [Intake.handle, Paced]
      split <;> omega
  | retryConnected backoff wait answers retries succeeded => exact ⟨slept, rfl⟩
  | abort => exact ⟨slept, trivial⟩
  | senderDropped reason returns => exact ⟨slept, paced⟩
  | submit submitter step alive unsent same => exact ⟨slept, paced⟩
  | receiverDropped => exact ⟨slept, paced⟩

theorem reached_pace_invariant (currentMessageCount : UInt64) (st : Intake Transaction)
    (reached : Relation.ReflTransGen
      (IntakeStep debug decoding config submitterInputChannelCapacity submitterConfig namespaceId txCtor)
      (.new config submitterConfig currentMessageCount) st) : PaceInv config st :=
  History.reachable_invariant _ _
    (intake_step_pace debug decoding config submitterInputChannelCapacity submitterConfig namespaceId txCtor) _ st reached
    ⟨rfl, Nat.le_max_left _ _, rfl, rfl⟩

end Pace

section Guarantees

variable (debug : Bytes → String) (decoding : FeedDecoding) (config : FeedConnectionConfig) (submitterInputChannelCapacity : Nat)
  (submitterConfig : SubmitterConfig) (namespaceId : UInt64) (txCtor : UInt64 → List BroadcastFeedMessage → List Transaction)
  (packed : Transaction → List BroadcastFeedMessage) (currentMessageCount : UInt64)

/-- Whatever the feed sends and however the client, the submitter and its tasks interleave, the submitter holds the messages the
client has submitted, in their order and each once. All of them are verified, the channel and the tasks keep to their limits, and
between two frames the client is where its events lead when they are handled one after another. -/
theorem intake_keeps_order (st : Intake Transaction)
    (packs : ∀ msgs, msgs ≠ [] → (∀ msg ∈ msgs, msg ∈ st.client.submitted) → (txCtor namespaceId msgs).flatMap packed = msgs)
    (reached : Relation.ReflTransGen
      (IntakeStep debug decoding config submitterInputChannelCapacity submitterConfig namespaceId txCtor)
      (.new config submitterConfig currentMessageCount) st) :
    st.submitter.holds packed = st.client.submitted ∧
      (∀ message ∈ st.client.submitted, VerifiedMessage decoding config message) ∧
      st.submitter.unsubmittedMsgs.length ≤ submitterInputChannelCapacity ∧
      st.submitter.tasks.length ≤ submitterConfig.maxInFlight ∧
      (st.point.settled = true → st.client = st.handled decoding config currentMessageCount) := by
  have inv := reached_intake_invariant debug decoding config submitterInputChannelCapacity submitterConfig namespaceId txCtor packed
    (fun message => message ∈ st.client.submitted) currentMessageCount packs st reached
  refine ⟨intake_holds_submitted decoding config _ submitterConfig packed _ currentMessageCount st inv fun _ member => member,
    inv.verified, inv.room, ?_, inv.settled⟩
  exact Nat.le.intro (inv.submitter fun _ member => member).limited

/-- From a server that begins each connection at the number it is asked for and sends one verified message after the other, the
submitter gets every message from the current message count on exactly once, over any number of lost connections and however far
into a frame the client has got; and the client then asks for the first number it has not handed over. -/
theorem intake_exactly_once (st : Intake Transaction)
    (packs : ∀ msgs, msgs ≠ [] → (∀ msg ∈ msgs, msg ∈ st.client.submitted) → (txCtor namespaceId msgs).flatMap packed = msgs)
    (reached : Relation.ReflTransGen
      (IntakeStep debug decoding config submitterInputChannelCapacity submitterConfig namespaceId txCtor)
      (.new config submitterConfig currentMessageCount) st)
    (inOrder : History.Taken serve currentMessageCount st.wire (ServedInOrder decoding config)) :
    Numbered currentMessageCount (st.submitter.holds packed) ∧
      (st.receiverGone = false → st.point.settled = true →
        st.client.nextSeqNum = currentMessageCount + UInt64.ofNat (st.submitter.holds packed).length) := by
  have inv := reached_intake_invariant debug decoding config submitterInputChannelCapacity submitterConfig namespaceId txCtor packed
    (fun message => message ∈ st.client.submitted) currentMessageCount packs st reached
  have order := reached_order_invariant decoding config currentMessageCount debug submitterInputChannelCapacity submitterConfig namespaceId
    txCtor st reached inOrder
  rw [intake_holds_submitted decoding config _ submitterConfig packed _ currentMessageCount st inv fun _ member => member]
  exact ⟨order.numbered, order.next⟩

/-- Once it has had a connection the client never returns: it returns only with a fatal error of `connect`, before the first
connection and with nothing submitted. After a lost connection it tries again at once, so that the read loop itself never sleeps,
and it never waits longer between two attempts than one step beyond the maximum. -/
theorem feed_client_keeps_trying (st : Intake Transaction)
    (reached : Relation.ReflTransGen
      (IntakeStep debug decoding config submitterInputChannelCapacity submitterConfig namespaceId txCtor)
      (.new config submitterConfig currentMessageCount) st) :
    (∀ error, st.point = .returned error → error.isFatal = true ∧ st.connections = 0 ∧ st.client.submitted = []) ∧
      st.slept = [] ∧
      (∀ backoff, st.point = .connecting backoff → backoff ≤ max config.reconnectInitialBackoff config.reconnectMaximumBackoff) ∧
      ∀ backoff wait, st.point = .retrying backoff wait → wait ≤ config.retryConnectMaxBackoff + config.retryConnectBackoffStep := by
  obtain ⟨slept, paced⟩ := reached_pace_invariant debug decoding config submitterInputChannelCapacity submitterConfig namespaceId txCtor
    currentMessageCount st reached
  refine ⟨fun error returns => ?_, slept, fun backoff connects => ?_, fun backoff wait retries => ?_⟩
  · rw [returns] at paced
    exact paced
  · rw [connects] at paced
    exact paced.1
  · rw [retries] at paced
    exact paced

end Guarantees

-- The feed of one message in one frame, lost after it and connected to again.
def upstreamFrame : BroadcastMessage := ⟨1, [some upstreamFeedMessage], none⟩

def upstreamFeed : FeedDecoding where
  jsonBroadcast _ := .ok upstreamFrame
  verifySignature := verifyBroadcastFeedMessageSignature upstreamExternal

def sequencerFeedConfig : FeedConnectionConfig :=
  { arbitrumOneClient with trustedSequencerAddresses := [upstreamSigner], requireFeedServerVersion := false, requireChainId := false }

def connectedAnswers : ConnectAnswers := ⟨.ok "ws", .ok (), .ok (), .ok ⟨101, "101 Switching Protocols", []⟩, some (.ok ())⟩

def reconnectedIntake : Intake (List BroadcastFeedMessage) where
  client := ⟨12346, [upstreamFeedMessage], [12345, 12346]⟩
  firstReconnectAttempt := true
  point := .reading 1000
  submitter := { Submitter.new ⟨3, 2⟩ with unsubmittedMsgs := [upstreamFeedMessage], sent := [upstreamFeedMessage] }
  receiverGone := false
  connections := 2
  slept := []
  history := [.reconnect, .frame [] none fun _ => true, .reconnect]
  wire := [.opened 12345, .frame [upstreamFeedMessage], .opened 12346]

theorem upstream_verified :
    verifiedMessages upstreamFeed sequencerFeedConfig.toBroadcasterClientConfig upstreamFrame = [upstreamFeedMessage] := by
  decide +kernel

theorem reconnected_intake_reached :
    Relation.ReflTransGen
      (IntakeStep (fun _ => "") upstreamFeed sequencerFeedConfig 1 ⟨3, 2⟩ 42161 fun _ msgs => [msgs])
      (.new sequencerFeedConfig ⟨3, 2⟩ 12345) reconnectedIntake := by
  refine .head (.connected _ 1000 connectedAnswers rfl rfl) <| .head (.frame _ 1000 [] upstreamFrame rfl rfl rfl) <|
    .head (.send _ [] upstreamFeedMessage [] 0 (some 12346) ?_ rfl ?_ rfl) <| .head (.frameDone _ [] 1 (some 12346) rfl) <|
    .head (.disconnected _ 1000 rfl) <| .head (.retryConnected _ 1000 0 connectedAnswers rfl rfl) ?_
  · simp only [upstream_verified]
    rfl
  · exact Nat.zero_lt_one
  · exact .refl

theorem reconnected_intake_keeps_order :
    reconnectedIntake.submitter.holds id = [upstreamFeedMessage] ∧ VerifiedMessage upstreamFeed sequencerFeedConfig upstreamFeedMessage ∧
      reconnectedIntake.client = reconnectedIntake.handled upstreamFeed sequencerFeedConfig 12345 := by
  obtain ⟨held, verified, -, -, settled⟩ := intake_keeps_order (fun _ => "") upstreamFeed sequencerFeedConfig 1 ⟨3, 2⟩ 42161
    (fun _ msgs => [msgs]) id 12345 reconnectedIntake (fun msgs _ _ => List.append_nil msgs) reconnected_intake_reached
  exact ⟨held, verified upstreamFeedMessage (List.mem_singleton.mpr rfl), settled rfl⟩

theorem reconnected_intake_once : Numbered 12345 [upstreamFeedMessage] ∧ reconnectedIntake.client.nextSeqNum = 12345 + 1 := by
  have verified : VerifiedMessage upstreamFeed sequencerFeedConfig upstreamFeedMessage := by
    unfold VerifiedMessage
    decide +kernel
  have inOrder : History.Taken serve 12345 reconnectedIntake.wire (ServedInOrder upstreamFeed sequencerFeedConfig) := by
    simp only [reconnectedIntake, History.taken_cons]
    refine ⟨trivial, ⟨⟨rfl, trivial⟩, fun message member => ?_⟩, trivial, History.taken_nil _ _ _⟩
    rw [List.mem_singleton.mp member]
    exact verified
  obtain ⟨numbered, next⟩ := intake_exactly_once (fun _ => "") upstreamFeed sequencerFeedConfig 1 ⟨3, 2⟩ 42161
    (fun _ msgs => [msgs]) id 12345 reconnectedIntake (fun msgs _ _ => List.append_nil msgs) reconnected_intake_reached inOrder
  exact ⟨numbered, next rfl rfl⟩

theorem unversioned_server_fatal :
    ∃ st : Intake (List BroadcastFeedMessage),
      st.point = .returned .missingFeedServerVersion ∧ st.connections = 0 ∧ st.client.submitted = [] := by
  refine ⟨_, rfl, ((feed_client_keeps_trying (fun _ => "") upstreamFeed arbitrumOneClient 1 ⟨3, 2⟩ 42161 (fun _ msgs => [msgs]) 12345 _
    (.single (.connectFatal _ 1000 connectedAnswers .missingFeedServerVersion rfl rfl rfl))).1 .missingFeedServerVersion rfl).2⟩

end Cas
