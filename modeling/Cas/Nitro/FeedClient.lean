import Cas.Lib.History
import Cas.Nitro.Payload

set_option autoImplicit false

namespace Cas

def messageVersion : Int := 1

inductive BroadcasterClientError where
  | channelSendError (tx : BroadcastFeedMessage)
  | invalidMessage (reason : String)
deriving DecidableEq, Repr

structure BroadcasterClientConfig where
  chainId : UInt64
  trustedSequencerAddresses : List Address
deriving DecidableEq, Repr

-- `submitted` and `requested` are not fields of the source. They record what
-- went into `espresso_submission_channel` and the numbers asked for on connecting.
structure BroadcasterClient where
  nextSeqNum : UInt64
  submitted : List BroadcastFeedMessage
  requested : List UInt64
deriving DecidableEq, Repr

def BroadcasterClient.new (currentMessageCount : UInt64) : BroadcasterClient := ⟨currentMessageCount, [], []⟩

-- What the client calls outside: the JSON decoder of a frame, and the signature check.
structure FeedDecoding where
  jsonBroadcast : Bytes → Except String BroadcastMessage
  verifySignature : FeedMessageVerifier

def verifiedMessages (decoding : FeedDecoding) (config : BroadcasterClientConfig) (msg : BroadcastMessage) : List BroadcastFeedMessage :=
  msg.messages.reduceOption.filter fun message =>
    (decoding.verifySignature config.chainId config.trustedSequencerAddresses message).isOk

-- The loop over `send`: what went through, and the message it stopped at.
def submitMessages (send : Nat → Bool) : List BroadcastFeedMessage → Nat → List BroadcastFeedMessage × Option BroadcastFeedMessage
  | [], _ => ([], none)
  | tx :: tail, attempt =>
      if send attempt then
        let later := submitMessages send tail (attempt + 1)
        (tx :: later.1, later.2)
      else ([], some tx)

-- `panicked` is the join error of the task that verifies the signatures.
def processMessage (decoding : FeedDecoding) (config : BroadcasterClientConfig) (payload : Bytes) (panicked : Option String)
    (send : Nat → Bool) (client : BroadcasterClient) : BroadcasterClient × Except BroadcasterClientError Unit :=
  match decoding.jsonBroadcast payload with
  | .error reason => (client, .error (.invalidMessage s!"failed to unmarshal broadcast message: {reason}"))
  | .ok msg =>
      let version := msg.version
      if version ≠ messageVersion then (client, .error (.invalidMessage s!"unsupported message version: {version}"))
      else
        match panicked with
        | some reason => (client, .error (.invalidMessage s!"signature verification task panicked: {reason}"))
        | none =>
            let broadcastFeedMessages := verifiedMessages decoding config msg
            let verifiedNextSeqNum := broadcastFeedMessages.getLast?.map fun message => message.sequenceNumber + 1
            match submitMessages send broadcastFeedMessages 0 with
            | (sent, some refused) => ({ client with submitted := client.submitted ++ sent }, .error (.channelSendError refused))
            | (sent, none) =>
                ({ client with
                    submitted := client.submitted ++ sent
                    nextSeqNum := verifiedNextSeqNum.getD client.nextSeqNum }, .ok ())

-- Every attempt of `retry_connect` asks for `next_seq_num`.
inductive FeedClientEvent where
  | frame (payload : Bytes) (panicked : Option String) (send : Nat → Bool)
  | reconnect

def stepClient (decoding : FeedDecoding) (config : BroadcasterClientConfig) (client : BroadcasterClient) : FeedClientEvent → BroadcasterClient
  | .frame payload panicked send => (processMessage decoding config payload panicked send client).1
  | .reconnect => { client with requested := client.requested ++ [client.nextSeqNum] }

def Submitted (client : BroadcasterClient) (seq : UInt64) : Prop := ∃ message ∈ client.submitted, message.sequenceNumber = seq

def SubmittedUpTo (currentMessageCount : UInt64) (client : BroadcasterClient) (stop : UInt64) : Prop :=
  ∀ seq, currentMessageCount ≤ seq → seq < stop → Submitted client seq

structure GapFree (currentMessageCount : UInt64) (client : BroadcasterClient) : Prop where
  next : SubmittedUpTo currentMessageCount client client.nextSeqNum
  requested : ∀ seqNum ∈ client.requested, SubmittedUpTo currentMessageCount client seqNum

-- A frame that is submitted whole closes every hole below its last verified message.
def ClosesHoles (decoding : FeedDecoding) (config : BroadcasterClientConfig) (currentMessageCount : UInt64) (client : BroadcasterClient) :
    FeedClientEvent → Prop
  | .frame payload panicked send => ∀ msg last, decoding.jsonBroadcast payload = .ok msg → msg.version = messageVersion →
      panicked = none → (verifiedMessages decoding config msg).getLast? = some last →
      (∀ attempt, attempt < (verifiedMessages decoding config msg).length → send attempt = true) →
      ∀ seq, currentMessageCount ≤ seq → client.nextSeqNum ≤ seq → seq < last.sequenceNumber + 1 →
        Submitted client seq ∨ ∃ message ∈ verifiedMessages decoding config msg, message.sequenceNumber = seq
  | .reconnect => True

theorem submit_messages_all (send : Nat → Bool) (messages : List BroadcastFeedMessage) (attempt : Nat) :
    (submitMessages send messages attempt).2 = none ↔ ∀ offset, offset < messages.length → send (attempt + offset) = true := by
  induction messages generalizing attempt with
  | nil => simp [submitMessages]
  | cons tx tail ih =>
      by_cases accepted : send attempt = true
      · simp only [submitMessages, if_pos accepted, ih, List.length_cons]
        constructor
        · intro later offset inside
          cases offset with
          | zero => exact accepted
          | succ offset =>
              rw [Nat.add_comm offset 1, ← Nat.add_assoc]
              exact later offset (by omega)
        · intro all offset inside
          rw [Nat.add_assoc, Nat.add_comm 1 offset]
          exact all (offset + 1) (by omega)
      · simp only [submitMessages, if_neg accepted, reduceCtorEq, List.length_cons, false_iff]
        exact fun all => accepted (all 0 (by omega))

theorem submit_messages_complete (send : Nat → Bool) (messages : List BroadcastFeedMessage) (attempt : Nat)
    (complete : (submitMessages send messages attempt).2 = none) : (submitMessages send messages attempt).1 = messages := by
  induction messages generalizing attempt with
  | nil => rfl
  | cons tx tail ih =>
      by_cases accepted : send attempt = true
      · simp only [submitMessages, if_pos accepted] at complete ⊢
        rw [ih (attempt + 1) complete]
      · simp only [submitMessages, if_neg accepted, reduceCtorEq] at complete

inductive FrameOutcome (decoding : FeedDecoding) (config : BroadcasterClientConfig) (payload : Bytes) (panicked : Option String)
    (send : Nat → Bool) (client : BroadcasterClient) : BroadcasterClient → Prop where
  | stopped (sent : List BroadcastFeedMessage)
      (why : ∀ msg, decoding.jsonBroadcast payload = .ok msg → msg.version = messageVersion → panicked = none →
        (∀ attempt, attempt < (verifiedMessages decoding config msg).length → send attempt = true) →
        verifiedMessages decoding config msg = []) :
      FrameOutcome decoding config payload panicked send client { client with submitted := client.submitted ++ sent }
  | advanced (msg : BroadcastMessage) (last : BroadcastFeedMessage) (decoded : decoding.jsonBroadcast payload = .ok msg)
      (version : msg.version = messageVersion) (joined : panicked = none)
      (final : (verifiedMessages decoding config msg).getLast? = some last)
      (accepted : ∀ attempt, attempt < (verifiedMessages decoding config msg).length → send attempt = true) :
      FrameOutcome decoding config payload panicked send client
        { client with
          submitted := client.submitted ++ verifiedMessages decoding config msg
          nextSeqNum := last.sequenceNumber + 1 }

theorem frame_refused (decoding : FeedDecoding) (config : BroadcasterClientConfig) (payload : Bytes) (panicked : Option String)
    (send : Nat → Bool) (client : BroadcasterClient)
    (why : ∀ msg, decoding.jsonBroadcast payload = .ok msg → msg.version = messageVersion → panicked ≠ none) :
    FrameOutcome decoding config payload panicked send client client := by
  have stopped : FrameOutcome decoding config payload panicked send client { client with submitted := client.submitted ++ [] } :=
    .stopped [] fun msg decoded version joined _ => absurd joined (why msg decoded version)
  rwa [List.append_nil] at stopped

theorem process_message_outcome (decoding : FeedDecoding) (config : BroadcasterClientConfig) (payload : Bytes) (panicked : Option String)
    (send : Nat → Bool) (client : BroadcasterClient) :
    FrameOutcome decoding config payload panicked send client (processMessage decoding config payload panicked send client).1 := by
  unfold processMessage
  cases decoded : decoding.jsonBroadcast payload with
  | error reason =>
      refine frame_refused decoding config payload panicked send client fun msg other => ?_
      rw [decoded] at other
      cases other
  | ok msg =>
      have only : ∀ other, decoding.jsonBroadcast payload = .ok other → other = msg :=
        fun other same => Except.ok.inj (same.symm.trans decoded)
      by_cases version : msg.version ≠ messageVersion
      · simp only [if_pos version]
        exact frame_refused decoding config payload panicked send client fun other same supported =>
          absurd (only other same ▸ supported) version
      · simp only [if_neg version]
        cases joined : panicked with
        | some reason =>
            exact frame_refused decoding config payload (some reason) send client fun _ _ _ => Option.some_ne_none reason
        | none =>
            cases submission : submitMessages send (verifiedMessages decoding config msg) 0 with
            | mk sent stop =>
                have all := submit_messages_all send (verifiedMessages decoding config msg) 0
                simp only [submission, Nat.zero_add] at all
                cases stop with
                | some refused =>
                    refine .stopped sent fun other same _ _ accepted => ?_
                    obtain rfl := only other same
                    exact absurd (all.mpr accepted) (Option.some_ne_none refused)
                | none =>
                    have complete := submit_messages_complete send (verifiedMessages decoding config msg) 0 (by rw [submission])
                    rw [submission] at complete
                    cases final : (verifiedMessages decoding config msg).getLast? with
                    | none =>
                        simp only [Option.map_none, Option.getD_none]
                        refine .stopped sent fun other same _ _ _ => ?_
                        rw [only other same]
                        exact List.getLast?_eq_none_iff.mp final
                    | some last =>
                        simp only [Option.map_some, Option.getD_some]
                        rw [show sent = verifiedMessages decoding config msg from complete]
                        exact .advanced msg last decoded (not_not.mp version) rfl final (all.mp rfl)

theorem submitted_more (client : BroadcasterClient) (more : List BroadcastFeedMessage) (next : UInt64) (seq : UInt64) :
    Submitted { client with submitted := client.submitted ++ more, nextSeqNum := next } seq ↔
      Submitted client seq ∨ ∃ message ∈ more, message.sequenceNumber = seq := by
  simp only [Submitted, List.mem_append, or_and_right, exists_or]

theorem step_client_gap_free_iff (decoding : FeedDecoding) (config : BroadcasterClientConfig) (currentMessageCount : UInt64)
    (client : BroadcasterClient) (event : FeedClientEvent) (gapFree : GapFree currentMessageCount client) :
    GapFree currentMessageCount (stepClient decoding config client event) ↔
      ClosesHoles decoding config currentMessageCount client event := by
  cases event with
  | reconnect =>
      refine iff_of_true ⟨gapFree.next, fun seqNum listed => ?_⟩ trivial
      rcases List.mem_append.mp listed with old | new
      · exact gapFree.requested seqNum old
      · rw [List.mem_singleton.mp new]
        exact gapFree.next
  | frame payload panicked send =>
      have outcome := process_message_outcome decoding config payload panicked send client
      rw [stepClient]
      generalize (processMessage decoding config payload panicked send client).1 = after at outcome ⊢
      cases outcome with
      | stopped sent why =>
          refine iff_of_true ⟨?_, ?_⟩ ?_
          · exact fun seq low high => (submitted_more client sent _ seq).mpr (.inl (gapFree.next seq low high))
          · exact fun seqNum listed seq low high =>
              (submitted_more client sent _ seq).mpr (.inl (gapFree.requested seqNum listed seq low high))
          · intro msg last decoded version joined final accepted
            rw [why msg decoded version joined accepted] at final
            cases final
      | advanced msg last decoded version joined final accepted =>
          have only : ∀ other, decoding.jsonBroadcast payload = .ok other → other = msg :=
            fun other same => Except.ok.inj (same.symm.trans decoded)
          constructor
          · intro after other otherLast otherDecoded _ _ otherFinal _ seq low _ high
            obtain rfl := only other otherDecoded
            obtain rfl := Option.some.inj (otherFinal.symm.trans final)
            exact (submitted_more client _ _ seq).mp (after.next seq low high)
          · intro closes
            refine ⟨fun seq low high => (submitted_more client _ _ seq).mpr ?_, fun seqNum listed seq low high =>
              (submitted_more client _ _ seq).mpr (.inl (gapFree.requested seqNum listed seq low high))⟩
            by_cases old : seq < client.nextSeqNum
            · exact .inl (gapFree.next seq low old)
            · exact closes msg last decoded version joined final accepted seq low (not_lt.mp old) high

/-- The client has submitted everything below the number it would ask for next, and below every number it asked for, in
every state exactly when each frame it submits whole leaves no number open between the old number and its last message. -/
theorem feed_intake_gap_free_iff (decoding : FeedDecoding) (config : BroadcasterClientConfig) (currentMessageCount : UInt64)
    (events : List FeedClientEvent) :
    History.Reached (stepClient decoding config) (.new currentMessageCount) events (GapFree currentMessageCount) ↔
      History.Taken (stepClient decoding config) (.new currentMessageCount) events (ClosesHoles decoding config currentMessageCount) :=
  History.reached_iff_taken _ (fun _ => True) (GapFree currentMessageCount) (fun _ => True) _ (fun _ _ _ _ => trivial)
    (fun client event _ _ => step_client_gap_free_iff decoding config currentMessageCount client event) _ events
    (fun _ _ => trivial) trivial
    ⟨fun seq low high => absurd high (not_lt.mpr low), fun seqNum listed => by simp [BroadcasterClient.new] at listed⟩

-- One frame: message 12344 with the signature of message 12345, then message 12345. The client reconnects.
def unsignedFirstFrame : BroadcastMessage :=
  ⟨1, [some { defaultFeedMessage with sequenceNumber := 12344 }, some defaultFeedMessage], none⟩

def unsignedFirstJson : Bytes :=
  ascii "\x7b\"version\":1,\"messages\":[" ++
    (feedJson true "12344" "\"0x0000000000000000000000000000000000000000000000000000000000000000\"" "0" "3q2+7w==" "3333"
      "mh/o3I2ONiTaDkH/mzT9YZLHWswCiK/L+0ipe0AloKA/wb7JGOkv9DpLQVi6erMXGMViE2ai2YvClQ76f90dJBw=" "3q2+rw==" ++
      (ascii "," ++ (defaultJson ++ ascii "]\x7d")))

def unsignedFirstDecoding : FeedDecoding where
  jsonBroadcast bytes := if bytes = unsignedFirstJson then .ok unsignedFirstFrame else .error "expected value at line 1 column 1"
  verifySignature := verifyBroadcastFeedMessageSignature defaultExternal

theorem skipped_message_never_requested :
    (History.run (stepClient unsignedFirstDecoding ⟨0xa4b1, [upstreamSigner]⟩) (.new 12344)
        [.frame unsignedFirstJson none (fun _ => true), .reconnect]).requested = [12346] ∧
      (History.run (stepClient unsignedFirstDecoding ⟨0xa4b1, [upstreamSigner]⟩) (.new 12344)
        [.frame unsignedFirstJson none (fun _ => true), .reconnect]).submitted.map BroadcastFeedMessage.sequenceNumber = [12345] ∧
      ¬GapFree 12344 (History.run (stepClient unsignedFirstDecoding ⟨0xa4b1, [upstreamSigner]⟩) (.new 12344)
        [.frame unsignedFirstJson none (fun _ => true), .reconnect]) := by
  have requested : (History.run (stepClient unsignedFirstDecoding ⟨0xa4b1, [upstreamSigner]⟩) (.new 12344)
      [.frame unsignedFirstJson none (fun _ => true), .reconnect]).requested = [12346] := by decide +kernel
  have submitted : (History.run (stepClient unsignedFirstDecoding ⟨0xa4b1, [upstreamSigner]⟩) (.new 12344)
      [.frame unsignedFirstJson none (fun _ => true), .reconnect]).submitted.map BroadcastFeedMessage.sequenceNumber = [12345] := by
    decide +kernel
  refine ⟨requested, submitted, fun gapFree => ?_⟩
  obtain ⟨message, member, number⟩ := gapFree.requested 12346 (by rw [requested]; simp) 12344 (by decide) (by decide)
  have listed := List.mem_map_of_mem (f := BroadcastFeedMessage.sequenceNumber) member
  rw [submitted, number] at listed
  exact absurd listed (by decide)

end Cas
