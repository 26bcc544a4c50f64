import Cas.Lib.History

set_option autoImplicit false

namespace Cas

structure SubmitterConfig where
  maxInFlight : Nat
  maxFinalizationPollRetries : Nat
deriving DecidableEq, Repr

inductive SubmitterError where
  | channelClosed
  | failedToAcquirePermit
deriving DecidableEq, Repr

inductive TaskPhase where
  | submitting
  | polling (pollAttempts : Nat)
deriving DecidableEq, Repr

-- A spawned task owns one permit for as long as it runs.
structure SubmissionTask (Transaction : Type) where
  tx : Transaction
  phase : TaskPhase
deriving DecidableEq, Repr

def pollFailed (config : SubmitterConfig) (pollAttempts : Nat) : TaskPhase :=
  if pollAttempts + 1 ≥ config.maxFinalizationPollRetries then .submitting else .polling (pollAttempts + 1)

-- Where `submit_transactions` stands: at the top of its loop, in the `try_recv`
-- loop, before `pop_front`, or waiting for a permit.
inductive LoopPoint (Message Transaction : Type) where
  | top
  | draining (pendingMsgs : List Message)
  | popping
  | acquiring (tx : Transaction)
  | returned (error : SubmitterError)
deriving DecidableEq, Repr

-- `sent`, `received` and `spawned` are not fields of the source. They record
-- the messages put into the channel, those taken out of it and the spawned
-- transactions, oldest first.
structure Submitter (Message Transaction : Type) where
  unsubmittedMsgs : List Message
  closed : Bool
  unsubmittedTxs : List Transaction
  point : LoopPoint Message Transaction
  permits : Nat
  tasks : List (SubmissionTask Transaction)
  sent : List Message
  received : List Message
  spawned : List Transaction
deriving DecidableEq, Repr

variable {Message Transaction : Type}

def Submitter.new (config : SubmitterConfig) : Submitter Message Transaction := ⟨[], false, [], .top, config.maxInFlight, [], [], [], []⟩

-- The steps of `submit_transactions`, of the spawned tasks and of the senders, in any
-- order. `recv` gives up only on a closed and empty channel. The semaphore is
-- never closed, so no step returns `FailedToAcquirePermit`.
inductive SubmitterStep (config : SubmitterConfig) (namespaceId : UInt64) (txCtor : UInt64 → List Message → List Transaction) :
    Submitter Message Transaction → Submitter Message Transaction → Prop where
  | send (st : Submitter Message Transaction) (msg : Message) (isOpen : st.closed = false) :
      SubmitterStep config namespaceId txCtor st { st with unsubmittedMsgs := st.unsubmittedMsgs ++ [msg], sent := st.sent ++ [msg] }
  | close (st : Submitter Message Transaction) : SubmitterStep config namespaceId txCtor st { st with closed := true }
  | recv (st : Submitter Message Transaction) (msg : Message) (rest : List Message) (atTop : st.point = .top)
      (idle : st.unsubmittedTxs = []) (next : st.unsubmittedMsgs = msg :: rest) :
      SubmitterStep config namespaceId txCtor st
        { st with unsubmittedMsgs := rest, point := .draining [msg], received := st.received ++ [msg] }
  | recvClosed (st : Submitter Message Transaction) (atTop : st.point = .top) (idle : st.unsubmittedTxs = [])
      (empty : st.unsubmittedMsgs = []) (isClosed : st.closed = true) :
      SubmitterStep config namespaceId txCtor st { st with point := .returned .channelClosed }
  | skipRecv (st : Submitter Message Transaction) (atTop : st.point = .top) (busy : st.unsubmittedTxs ≠ []) :
      SubmitterStep config namespaceId txCtor st { st with point := .draining [] }
  | tryRecv (st : Submitter Message Transaction) (pendingMsgs : List Message) (msg : Message) (rest : List Message)
      (drains : st.point = .draining pendingMsgs) (next : st.unsubmittedMsgs = msg :: rest) :
      SubmitterStep config namespaceId txCtor st
        { st with unsubmittedMsgs := rest, point := .draining (pendingMsgs ++ [msg]), received := st.received ++ [msg] }
  | construct (st : Submitter Message Transaction) (pendingMsgs : List Message) (drains : st.point = .draining pendingMsgs)
      (empty : st.unsubmittedMsgs = []) :
      SubmitterStep config namespaceId txCtor st
        { st with
          unsubmittedTxs := if pendingMsgs = [] then st.unsubmittedTxs else st.unsubmittedTxs ++ txCtor namespaceId pendingMsgs
          point := .popping }
  | popFront (st : Submitter Message Transaction) (tx : Transaction) (rest : List Transaction) (pops : st.point = .popping)
      (next : st.unsubmittedTxs = tx :: rest) :
      SubmitterStep config namespaceId txCtor st { st with unsubmittedTxs := rest, point := .acquiring tx }
  | popNothing (st : Submitter Message Transaction) (pops : st.point = .popping) (empty : st.unsubmittedTxs = []) :
      SubmitterStep config namespaceId txCtor st { st with point := .top }
  | spawn (st : Submitter Message Transaction) (tx : Transaction) (permits : Nat) (acquires : st.point = .acquiring tx)
      (free : st.permits = permits + 1) :
      SubmitterStep config namespaceId txCtor st
        { st with point := .top, permits := permits, tasks := st.tasks ++ [⟨tx, .submitting⟩], spawned := st.spawned ++ [tx] }
  | submitted (st : Submitter Message Transaction) (before after : List (SubmissionTask Transaction)) (tx : Transaction)
      (runs : st.tasks = before ++ ⟨tx, .submitting⟩ :: after) :
      SubmitterStep config namespaceId txCtor st { st with tasks := before ++ ⟨tx, .polling 0⟩ :: after }
  | unfinalized (st : Submitter Message Transaction) (before after : List (SubmissionTask Transaction)) (tx : Transaction)
      (pollAttempts : Nat) (runs : st.tasks = before ++ ⟨tx, .polling pollAttempts⟩ :: after) :
      SubmitterStep config namespaceId txCtor st { st with tasks := before ++ ⟨tx, pollFailed config pollAttempts⟩ :: after }
  -- the permit goes with the task, be it finalized or aborted
  | finished (st : Submitter Message Transaction) (before after : List (SubmissionTask Transaction)) (task : SubmissionTask Transaction)
      (runs : st.tasks = before ++ task :: after) :
      SubmitterStep config namespaceId txCtor st { st with tasks := before ++ after, permits := st.permits + 1 }

def LoopPoint.waitingTx : LoopPoint Message Transaction → List Transaction
  | .acquiring tx => [tx]
  | _ => []

def LoopPoint.pendingMsgs : LoopPoint Message Transaction → List Message
  | .draining pendingMsgs => pendingMsgs
  | _ => []

def Submitter.accounted (packed : Transaction → List Message) (st : Submitter Message Transaction) : List Message :=
  (st.spawned ++ (st.point.waitingTx ++ st.unsubmittedTxs)).flatMap packed ++ st.point.pendingMsgs

structure SubmitterInv (config : SubmitterConfig) (packed : Transaction → List Message) (st : Submitter Message Transaction) : Prop where
  accounted : st.accounted packed = st.received
  channel : st.received ++ st.unsubmittedMsgs = st.sent
  exited : ∀ error, st.point = .returned error →
    error = .channelClosed ∧ st.unsubmittedTxs = [] ∧ st.unsubmittedMsgs = [] ∧ st.closed = true
  limited : st.tasks.length + st.permits = config.maxInFlight

theorem new_submitter_invariant (config : SubmitterConfig) (packed : Transaction → List Message) :
    SubmitterInv config packed (Submitter.new config) :=
  ⟨rfl, rfl, fun _ exited => by simp [Submitter.new] at exited, by simp [Submitter.new]⟩

theorem submitter_step_invariant_where (config : SubmitterConfig) (namespaceId : UInt64)
    (txCtor : UInt64 → List Message → List Transaction) (packed : Transaction → List Message) (good : Message → Prop)
    (packs : ∀ msgs, msgs ≠ [] → (∀ msg ∈ msgs, good msg) → (txCtor namespaceId msgs).flatMap packed = msgs)
    (st next : Submitter Message Transaction) (inv : SubmitterInv config packed st) (fine : ∀ msg ∈ st.sent, good msg)
    (step : SubmitterStep config namespaceId txCtor st next) : SubmitterInv config packed next := by
  have accounted := inv.accounted
  cases step with
  | send msg isOpen =>
      refine ⟨accounted, ?_, fun error exited => ?_, inv.limited⟩
      · simp only [← List.append_assoc, inv.channel]
      · have isClosed := (inv.exited error exited).2.2.2
        rw [isOpen] at isClosed
        cases isClosed
  | close =>
      refine ⟨accounted, inv.channel, fun error exited => ?_, inv.limited⟩
      obtain ⟨same, noTxs, noMsgs, -⟩ := inv.exited error exited
      exact ⟨same, noTxs, noMsgs, rfl⟩
  | recv msg rest atTop idle arrived =>
      simp only [Submitter.accounted, atTop, LoopPoint.waitingTx, LoopPoint.pendingMsgs, List.append_nil] at accounted
      refine ⟨?_, ?_, fun error exited => by simp at exited, inv.limited⟩
      · simp only [Submitter.accounted, LoopPoint.waitingTx, LoopPoint.pendingMsgs, accounted]
      · rw [← inv.channel, arrived, List.append_assoc, List.singleton_append]
  | recvClosed atTop idle empty isClosed =>
      simp only [Submitter.accounted, atTop, LoopPoint.waitingTx, LoopPoint.pendingMsgs] at accounted
      refine ⟨accounted, inv.channel, fun error exited => ?_, inv.limited⟩
      obtain rfl := LoopPoint.returned.inj exited
      exact ⟨rfl, idle, empty, isClosed⟩
  | skipRecv atTop busy =>
      simp only [Submitter.accounted, atTop, LoopPoint.waitingTx, LoopPoint.pendingMsgs] at accounted
      exact ⟨accounted, inv.channel, fun error exited => by simp at exited, inv.limited⟩
  | tryRecv pendingMsgs msg rest drains arrived =>
      simp only [Submitter.accounted, drains, LoopPoint.waitingTx, LoopPoint.pendingMsgs] at accounted
      refine ⟨?_, ?_, fun error exited => by simp at exited, inv.limited⟩
      · simp only [Submitter.accounted, LoopPoint.waitingTx, LoopPoint.pendingMsgs, ← List.append_assoc] at accounted ⊢
        rw [accounted]
      · rw [← inv.channel, arrived, List.append_assoc, List.singleton_append]
  | construct pendingMsgs drains empty =>
      simp only [Submitter.accounted, drains, LoopPoint.waitingTx, LoopPoint.pendingMsgs] at accounted
      refine ⟨?_, inv.channel, fun error exited => by simp at exited, inv.limited⟩
      simp only [Submitter.accounted, LoopPoint.waitingTx, LoopPoint.pendingMsgs, List.append_nil]
      split
      · rename_i nothing
        rwa [nothing, List.append_nil] at accounted
      · rename_i some
        rw [← accounted]
        have goodPending : ∀ msg ∈ pendingMsgs, good msg := by
          intro msg member
          apply fine msg
          rw [← inv.channel, ← accounted]
          exact List.mem_append_left _ (List.mem_append_right _ member)
        simp only [List.nil_append, List.flatMap_append, packs pendingMsgs some goodPending, List.append_assoc]
  | popFront tx rest pops first =>
      simp only [Submitter.accounted, pops, first, LoopPoint.waitingTx, LoopPoint.pendingMsgs] at accounted
      exact ⟨accounted, inv.channel, fun error exited => by simp at exited, inv.limited⟩
  | popNothing pops empty =>
      simp only [Submitter.accounted, pops, LoopPoint.waitingTx, LoopPoint.pendingMsgs] at accounted
      exact ⟨accounted, inv.channel, fun error exited => by simp at exited, inv.limited⟩
  | spawn tx permits acquires free =>
      have limited := inv.limited
      simp only [Submitter.accounted, acquires, LoopPoint.waitingTx, LoopPoint.pendingMsgs] at accounted
      refine ⟨?_, inv.channel, fun error exited => by simp at exited, ?_⟩
      · rw [← accounted]
        simp only [Submitter.accounted, LoopPoint.waitingTx, LoopPoint.pendingMsgs, List.append_assoc, List.nil_append]
      · simp only [List.length_append, List.length_singleton]
        omega
  | submitted before after tx runs =>
      have limited := inv.limited
      rw [runs] at limited
      exact ⟨accounted, inv.channel, inv.exited, by simpa using limited⟩
  | unfinalized before after tx pollAttempts runs =>
      have limited := inv.limited
      rw [runs] at limited
      exact ⟨accounted, inv.channel, inv.exited, by simpa using limited⟩
  | finished before after task runs =>
      have limited := inv.limited
      rw [runs] at limited
      refine ⟨accounted, inv.channel, inv.exited, ?_⟩
      simp only [List.length_append, List.length_cons] at limited ⊢
      omega

theorem submitter_step_invariant (config : SubmitterConfig) (namespaceId : UInt64) (txCtor : UInt64 → List Message → List Transaction)
    (packed : Transaction → List Message) (packs : ∀ msgs, msgs ≠ [] → (txCtor namespaceId msgs).flatMap packed = msgs)
    (st next : Submitter Message Transaction) (inv : SubmitterInv config packed st)
    (step : SubmitterStep config namespaceId txCtor st next) : SubmitterInv config packed next :=
  submitter_step_invariant_where config namespaceId txCtor packed (fun _ => True) (fun msgs some _ => packs msgs some) st next inv
    (fun _ _ => trivial) step

/-- In every reachable state the spawned transactions, the one waiting for a permit and the queued ones hold the messages
received so far, in order and each once; the submitter gives up only with all of them spawned; and no more than the
configured number of submissions run. -/
theorem submitter_loses_nothing (config : SubmitterConfig) (namespaceId : UInt64)
    (txCtor : UInt64 → List Message → List Transaction) (packed : Transaction → List Message)
    (packs : ∀ msgs, msgs ≠ [] → (txCtor namespaceId msgs).flatMap packed = msgs) (st : Submitter Message Transaction)
    (reached : Relation.ReflTransGen (SubmitterStep config namespaceId txCtor) (Submitter.new config) st) :
    (st.spawned ++ (st.point.waitingTx ++ st.unsubmittedTxs)).flatMap packed ++ st.point.pendingMsgs = st.received ∧
      st.received ++ st.unsubmittedMsgs = st.sent ∧
      (∀ error, st.point = .returned error → error = .channelClosed ∧ st.spawned.flatMap packed = st.sent) ∧
      st.tasks.length ≤ config.maxInFlight := by
  have inv := History.reachable_invariant _ (SubmitterInv config packed)
    (submitter_step_invariant config namespaceId txCtor packed packs) _ st reached (new_submitter_invariant config packed)
  refine ⟨inv.accounted, inv.channel, fun error exited => ?_, by have limited := inv.limited; omega⟩
  obtain ⟨same, noTxs, noMsgs, -⟩ := inv.exited error exited
  refine ⟨same, ?_⟩
  have accounted := inv.accounted
  simp only [Submitter.accounted, exited, noTxs, LoopPoint.waitingTx, LoopPoint.pendingMsgs, List.append_nil] at accounted
  rw [accounted, ← inv.channel, noMsgs, List.append_nil]

-- Two messages in two transactions, and one permit: the second transaction waits for the first to be finalized.
def waitingForPermit : Submitter Nat (List Nat) :=
  ⟨[], true, [], .acquiring [8], 0, [⟨[9], .polling 0⟩], [9, 8], [9, 8], [[9]]⟩

def closedAfterTwo : Submitter Nat (List Nat) :=
  ⟨[], true, [], .returned .channelClosed, 0, [⟨[8], .submitting⟩], [9, 8], [9, 8], [[9], [8]]⟩

def oneByOne (_ : UInt64) (msgs : List Nat) : List (List Nat) := msgs.map fun msg => [msg]

theorem waiting_for_permit_reached :
    Relation.ReflTransGen (SubmitterStep ⟨1, 5⟩ 7 oneByOne) (Submitter.new ⟨1, 5⟩) waitingForPermit :=
  .head (.send _ 9 rfl) <| .head (.send _ 8 rfl) <| .head (.close _) <| .head (.recv _ 9 [8] rfl rfl rfl) <|
    .head (.tryRecv _ [9] 8 [] rfl rfl) <| .head (.construct _ [9, 8] rfl rfl) <| .head (.popFront _ [9] [[8]] rfl rfl) <|
    .head (.spawn _ [9] 0 rfl rfl) <| .head (.submitted _ [] [] [9] rfl) <| .head (.skipRecv _ rfl (List.cons_ne_nil _ _)) <|
    .head (.construct _ [] rfl rfl) <| .single (.popFront _ [8] [] rfl rfl)

theorem closed_after_two_spawned :
    (waitingForPermit.spawned ++ ([[8]] ++ waitingForPermit.unsubmittedTxs)).flatMap (fun tx => tx) ++ [] = waitingForPermit.received ∧
      waitingForPermit.tasks.length ≤ 1 ∧ closedAfterTwo.spawned.flatMap (fun tx => tx) = closedAfterTwo.sent := by
  have packs : ∀ msgs : List Nat, msgs ≠ [] → (oneByOne 7 msgs).flatMap (fun tx => tx) = msgs := by simp [oneByOne, List.flatMap_map]
  have closed : Relation.ReflTransGen (SubmitterStep ⟨1, 5⟩ 7 oneByOne) (Submitter.new ⟨1, 5⟩) closedAfterTwo :=
    waiting_for_permit_reached.trans <| .head (.finished _ [] [] ⟨[9], .polling 0⟩ rfl) <| .head (.spawn _ [8] 0 rfl rfl) <|
      .single (.recvClosed _ rfl rfl rfl rfl)
  have waits := submitter_loses_nothing ⟨1, 5⟩ 7 oneByOne (fun tx => tx) packs waitingForPermit waiting_for_permit_reached
  have kept := submitter_loses_nothing ⟨1, 5⟩ 7 oneByOne (fun tx => tx) packs closedAfterTwo closed
  exact ⟨waits.1, waits.2.2.2, (kept.2.2.1 .channelClosed rfl).2⟩

end Cas
