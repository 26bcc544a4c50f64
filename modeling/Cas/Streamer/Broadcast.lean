import Cas.Streamer.Retention

set_option autoImplicit false

namespace Cas

open RollupQueueEntry SortedSlice

variable {Transaction Entry FeedMessage : Type} [RollupQueueEntry Entry]

-- What of a run the order of broadcasts depends on, oldest first.
inductive Happening (Entry : Type) where
  | sent (entry : Entry)
  | finalized (newFinalizedIdx : UInt64)
deriving DecidableEq, Repr

def Happening.entry? : Happening Entry → Option Entry
  | .sent entry => some entry
  | .finalized _ => none

def sentEntries (trace : List (Happening Entry)) : List Entry := trace.filterMap Happening.entry?

-- The position that a trace leaves behind, and traces in which each message sent is the next one after it.
def positionAfter (pos : UInt64) : List (Happening Entry) → UInt64
  | [] => pos
  | .sent entry :: tail => positionAfter (sequenceNumber entry) tail
  | .finalized newFinalizedIdx :: tail => positionAfter (max pos newFinalizedIdx) tail

def FollowsPosition (pos : UInt64) : List (Happening Entry) → Prop
  | [] => True
  | .sent entry :: tail => (sequenceNumber entry).toNat = pos.toNat + 1 ∧ FollowsPosition (sequenceNumber entry) tail
  | .finalized newFinalizedIdx :: tail => FollowsPosition (max pos newFinalizedIdx) tail

omit [RollupQueueEntry Entry] in
theorem sent_entries_append (first second : List (Happening Entry)) :
    sentEntries (first ++ second) = sentEntries first ++ sentEntries second := List.filterMap_append

theorem position_after_append (pos : UInt64) (first second : List (Happening Entry)) :
    positionAfter pos (first ++ second) = positionAfter (positionAfter pos first) second := by
  induction first generalizing pos with
  | nil => rfl
  | cons happening tail ih =>
      cases happening with
      | sent entry => exact ih (sequenceNumber entry)
      | finalized newFinalizedIdx => exact ih (max pos newFinalizedIdx)

theorem follows_position_append (pos : UInt64) (first second : List (Happening Entry)) :
    FollowsPosition pos (first ++ second) ↔ FollowsPosition pos first ∧ FollowsPosition (positionAfter pos first) second := by
  induction first generalizing pos with
  | nil => simp [FollowsPosition, positionAfter]
  | cons happening tail ih =>
      cases happening with
      | sent entry => simp only [List.cons_append, FollowsPosition, positionAfter, ih, and_assoc]
      | finalized newFinalizedIdx => simp only [List.cons_append, FollowsPosition, positionAfter, ih]

theorem follows_position_above (pos : UInt64) (trace : List (Happening Entry)) (follows : FollowsPosition pos trace) :
    (∀ entry ∈ sentEntries trace, pos < sequenceNumber entry) ∧ Increasing sequenceNumber (sentEntries trace) := by
  induction trace generalizing pos with
  | nil => simp [sentEntries, Increasing]
  | cons happening tail ih =>
      cases happening with
      | sent entry =>
          obtain ⟨next, later⟩ := follows
          obtain ⟨above, increasing⟩ := ih (sequenceNumber entry) later
          have less : pos < sequenceNumber entry := UInt64.lt_iff_toNat_lt.mpr (by omega)
          change (∀ other ∈ entry :: sentEntries tail, pos < sequenceNumber other) ∧ Increasing sequenceNumber (entry :: sentEntries tail)
          refine ⟨fun other member => ?_, List.pairwise_cons.mpr ⟨above, increasing⟩⟩
          rcases List.mem_cons.mp member with rfl | inTail
          · exact less
          · exact lt_trans less (above other inTail)
      | finalized newFinalizedIdx =>
          obtain ⟨above, increasing⟩ := ih (max pos newFinalizedIdx) follows
          exact ⟨fun other member => lt_of_le_of_lt (le_max_left _ _) (above other member), increasing⟩

theorem follows_position_gap (pos : UInt64) (between later : List (Happening Entry)) (next : Entry)
    (silent : sentEntries between = []) (follows : FollowsPosition pos (between ++ .sent next :: later)) :
    sequenceNumber next = pos + 1 ∨ .finalized (sequenceNumber next - 1) ∈ between := by
  induction between generalizing pos with
  | nil =>
      have step : (sequenceNumber next).toNat = pos.toNat + 1 := follows.1
      have less : pos < sequenceNumber next := UInt64.lt_iff_toNat_lt.mpr (by omega)
      exact .inl (UInt64.toNat_inj.mp (by rw [step, Word64.toNat_succ pos _ less]))
  | cons happening tail ih =>
      cases happening with
      | sent entry => cases silent
      | finalized newFinalizedIdx =>
          cases ih (max pos newFinalizedIdx) silent follows with
          | inl follow =>
              rcases max_choice pos newFinalizedIdx with same | same
              · exact .inl (same ▸ follow)
              · rw [same] at follow
                rw [follow, UInt64.add_sub_cancel]
                exact .inr (by simp)
          | inr carried => exact .inr (List.mem_cons_of_mem _ carried)

def acceptedEntries (send : Nat → TrySend) : List Entry → Nat → List Entry
  | [], _ => []
  | entry :: tail, attempt =>
      match send attempt with
      | .accepted => entry :: acceptedEntries send tail (attempt + 1)
      | .full => []
      | .closed => []

def broadcastHappenings (send : Nat → TrySend) (st : Streamer Entry FeedMessage) : List (Happening Entry) :=
  (acceptedEntries send (findContiguousEntriesAfter st.queue st.lastBroadcastPosition) 0).map .sent

def happenings (config : StreamerConfig) (rollup : Rollup Transaction Entry FeedMessage) (st : Streamer Entry FeedMessage) :
    StreamerEvent Transaction → List (Happening Entry)
  | .hotshotTransactions transactions height send =>
      broadcastHappenings send (filterMessages config st (rollup.parseHotshotTransactions transactions height))
  | .finalization newFinalizedIdx _ => [.finalized newFinalizedIdx]
  | .broadcastRetry send => broadcastHappenings send { st with retryScheduled := false }

def streamerTrace (config : StreamerConfig) (rollup : Rollup Transaction Entry FeedMessage) (st : Streamer Entry FeedMessage) :
    List (StreamerEvent Transaction) → List (Happening Entry)
  | [] => []
  | event :: events => happenings config rollup st event ++ streamerTrace config rollup (stepStreamer config rollup st event) events

structure Recounts (rollup : Rollup Transaction Entry FeedMessage) (before : Streamer Entry FeedMessage)
    (trace : List (Happening Entry)) (after : Streamer Entry FeedMessage) : Prop where
  follows : FollowsPosition before.lastBroadcastPosition trace
  position : positionAfter before.lastBroadcastPosition trace = after.lastBroadcastPosition
  broadcast : after.broadcast = before.broadcast ++ (sentEntries trace).map rollup.convertEntryToFeedMessage

theorem recounts_append (rollup : Rollup Transaction Entry FeedMessage) (before between after : Streamer Entry FeedMessage)
    (first second : List (Happening Entry)) (start : Recounts rollup before first between)
    (rest : Recounts rollup between second after) : Recounts rollup before (first ++ second) after := by
  refine ⟨?_, ?_, ?_⟩
  · rw [follows_position_append, start.position]
    exact ⟨start.follows, rest.follows⟩
  · rw [position_after_append, start.position, rest.position]
  · rw [rest.broadcast, start.broadcast, sent_entries_append, List.map_append, List.append_assoc]

theorem broadcast_loop_recounts (rollup : Rollup Transaction Entry FeedMessage) (send : Nat → TrySend) (entries : List Entry)
    (attempt : Nat) (st : Streamer Entry FeedMessage) (chained : Chained st.lastBroadcastPosition entries) :
    Recounts rollup st ((acceptedEntries send entries attempt).map .sent) (broadcastLoop rollup send entries attempt st) := by
  induction entries generalizing attempt st with
  | nil => exact ⟨trivial, rfl, by simp [acceptedEntries, sentEntries, broadcastLoop]⟩
  | cons entry tail ih =>
      rw [broadcastLoop, acceptedEntries]
      cases send attempt with
      | full => exact ⟨trivial, rfl, by simp [sentEntries]⟩
      | closed => exact ⟨trivial, rfl, by simp [sentEntries]⟩
      | accepted =>
          have later := ih (attempt + 1) { st with
            lastBroadcastPosition := sequenceNumber entry
            broadcast := st.broadcast ++ [rollup.convertEntryToFeedMessage entry] } chained.2
          refine ⟨⟨chained.1, later.follows⟩, later.position, ?_⟩
          rw [later.broadcast, List.append_assoc]
          rfl

theorem try_broadcast_recounts (rollup : Rollup Transaction Entry FeedMessage) (send : Nat → TrySend)
    (st : Streamer Entry FeedMessage) (sorted : Increasing sequenceNumber st.queue) :
    Recounts rollup st (broadcastHappenings send st) (tryBroadcastFeedMessage rollup send st) :=
  broadcast_loop_recounts rollup send _ 0 st (find_contiguous_chained st.queue _ sorted)

theorem unmoved_recounts (rollup : Rollup Transaction Entry FeedMessage) (before after : Streamer Entry FeedMessage)
    (position : after.lastBroadcastPosition = before.lastBroadcastPosition) (broadcast : after.broadcast = before.broadcast) :
    Recounts rollup before [] after :=
  ⟨trivial, position.symm, by simp [broadcast, sentEntries]⟩

-- Filtering, pruning and promotion send nothing, schedule nothing and leave the position.
structure SameBroadcast (before after : Streamer Entry FeedMessage) : Prop where
  position : after.lastBroadcastPosition = before.lastBroadcastPosition
  broadcast : after.broadcast = before.broadcast
  retryScheduled : after.retryScheduled = before.retryScheduled

theorem filter_messages_same_broadcast (config : StreamerConfig) (st : Streamer Entry FeedMessage) (entries : List Entry)
    (inv : StreamerInv config st) : SameBroadcast st (filterMessages config st entries) := by
  have both := History.run_invariant (filterMessage config) (fun state => StreamerInv config state ∧ SameBroadcast st state)
    (fun _ => True) (fun state parsed _ sound => ⟨filter_message_invariant config state parsed sound.1, by
      have outcome := filter_message_outcome config state parsed sound.1.sorted
      generalize filterMessage config state parsed = next at outcome ⊢
      cases outcome <;> exact ⟨sound.2.position, sound.2.broadcast, sound.2.retryScheduled⟩⟩)
    st entries (fun _ _ => trivial) ⟨inv, rfl, rfl, rfl⟩
  exact both.2

theorem finalization_same_broadcast (config : StreamerConfig) (rollup : Rollup Transaction Entry FeedMessage)
    (reader : Reader Transaction) (newFinalizedIdx : UInt64) (st : Streamer Entry FeedMessage) (inv : StreamerInv config st) :
    SameBroadcast (skipFinalized newFinalizedIdx st) (handleFinalization config rollup reader newFinalizedIdx st) := by
  have pruned := prune_invariant config newFinalizedIdx _
    (same_tracked_invariant config _ _ (skip_finalized_tracked newFinalizedIdx st) inv)
  simp only [handleFinalization]
  split
  · exact ⟨rfl, rfl, rfl⟩
  · exact promote_stubs_rule config rollup reader (SameBroadcast (skipFinalized newFinalizedIdx st))
      (fun _ _ good _ _ => ⟨good.position, good.broadcast, good.retryScheduled⟩) _ pruned.bounded ⟨rfl, rfl, rfl⟩

theorem finalization_recounts (config : StreamerConfig) (rollup : Rollup Transaction Entry FeedMessage) (reader : Reader Transaction)
    (newFinalizedIdx : UInt64) (st : Streamer Entry FeedMessage) (inv : StreamerInv config st) :
    Recounts rollup st [.finalized newFinalizedIdx] (handleFinalization config rollup reader newFinalizedIdx st) := by
  have skipped : Recounts rollup st [.finalized newFinalizedIdx] (skipFinalized newFinalizedIdx st) := by
    by_cases beyond : newFinalizedIdx > st.lastBroadcastPosition
    · rw [skipFinalized, if_pos beyond]
      exact ⟨trivial, max_eq_right (le_of_lt beyond), by simp [sentEntries, Happening.entry?]⟩
    · rw [skipFinalized, if_neg beyond]
      exact ⟨trivial, max_eq_left (not_lt.mp beyond), by simp [sentEntries, Happening.entry?]⟩
  have same := finalization_same_broadcast config rollup reader newFinalizedIdx st inv
  exact recounts_append rollup st _ _ _ [] skipped (unmoved_recounts rollup _ _ same.position same.broadcast)

theorem step_streamer_recounts (config : StreamerConfig) (rollup : Rollup Transaction Entry FeedMessage)
    (st : Streamer Entry FeedMessage) (event : StreamerEvent Transaction) (inv : StreamerInv config st) :
    Recounts rollup st (happenings config rollup st event) (stepStreamer config rollup st event) := by
  cases event with
  | hotshotTransactions transactions height send =>
      have filtered := filter_messages_invariant config st (rollup.parseHotshotTransactions transactions height) inv
      have same := filter_messages_same_broadcast config st (rollup.parseHotshotTransactions transactions height) inv
      exact recounts_append rollup st _ _ [] _ (unmoved_recounts rollup _ _ same.position same.broadcast)
        (try_broadcast_recounts rollup send _ filtered.sorted)
  | finalization newFinalizedIdx reader => exact finalization_recounts config rollup reader newFinalizedIdx st inv
  | broadcastRetry send =>
      exact recounts_append rollup st { st with retryScheduled := false } _ [] _ (unmoved_recounts rollup _ _ rfl rfl)
        (try_broadcast_recounts rollup send _ inv.sorted)

theorem run_streamer_recounts (config : StreamerConfig) (rollup : Rollup Transaction Entry FeedMessage)
    (st : Streamer Entry FeedMessage) (events : List (StreamerEvent Transaction)) (inv : StreamerInv config st) :
    Recounts rollup st (streamerTrace config rollup st events) (History.run (stepStreamer config rollup) st events) := by
  induction events generalizing st with
  | nil => exact unmoved_recounts rollup st st rfl rfl
  | cons event events ih =>
      exact recounts_append rollup st _ _ _ _ (step_streamer_recounts config rollup st event inv)
        (ih _ (step_streamer_invariant config rollup st event inv))

/-- What the finalization channel accepts carries strictly increasing numbers, and the number after a message is skipped
only to the one after a finalized index handled in between, whatever the channel answers. -/
theorem broadcast_in_order (config : StreamerConfig) (rollup : Rollup Transaction Entry FeedMessage) (finalizedIdx : UInt64)
    (events : List (StreamerEvent Transaction)) :
    (runStreamer config rollup finalizedIdx events).broadcast =
        (sentEntries (streamerTrace config rollup (.new finalizedIdx) events)).map rollup.convertEntryToFeedMessage ∧
      ((sentEntries (streamerTrace config rollup (.new finalizedIdx) events)).map sequenceNumber).Pairwise (· < ·) ∧
      ∀ earlier entry between next later,
        streamerTrace config rollup (.new finalizedIdx) events = earlier ++ .sent entry :: (between ++ .sent next :: later) →
        sentEntries between = [] → sequenceNumber next ≠ sequenceNumber entry + 1 →
        .finalized (sequenceNumber next - 1) ∈ between := by
  have recounts := run_streamer_recounts config rollup (.new finalizedIdx) events (new_streamer_invariant config finalizedIdx)
  refine ⟨recounts.broadcast, List.pairwise_map.mpr (follows_position_above _ _ recounts.follows).2, ?_⟩
  intro earlier entry between next later split silent apart
  have follows := recounts.follows
  rw [split, follows_position_append] at follows
  exact (follows_position_gap _ between later next silent follows.2.2).resolve_left apart

-- L1 finalizes 5 while only message 1 is broadcast. The next message sent is 6.
def finalizedAheadRun : List (StreamerEvent (List UInt8)) :=
  [.hotshotTransactions [[makeMockEspressoTransaction 1]] 1 (fun _ => .accepted), .finalization 5 (fun _ _ => none),
    .hotshotTransactions [[makeMockEspressoTransaction 6]] 2 (fun _ => .accepted)]

theorem broadcast_resumes_after_finalized :
    streamerTrace ⟨1, 2⟩ mockRollup.toRollup (.new 0) finalizedAheadRun = [.sent ⟨1, 1⟩, .finalized 5, .sent ⟨6, 2⟩] ∧
      .finalized (sequenceNumber (⟨6, 2⟩ : MockEntry) - 1) ∈ ([.finalized 5] : List (Happening MockEntry)) := by
  have trace : streamerTrace ⟨1, 2⟩ mockRollup.toRollup (.new 0) finalizedAheadRun =
      [.sent ⟨1, 1⟩, .finalized 5, .sent ⟨6, 2⟩] := by
    decide +kernel
  exact ⟨trace, (broadcast_in_order ⟨1, 2⟩ mockRollup.toRollup 0 finalizedAheadRun).2.2 [] ⟨1, 1⟩ [.finalized 5] ⟨6, 2⟩ []
    trace rfl (by decide)⟩

end Cas
