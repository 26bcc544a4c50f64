import Cas.Streamer.Model

set_option autoImplicit false

namespace Cas

open SortedSlice
open Std (ExtTreeMap ExtTreeSet)

variable {Transaction Entry FeedMessage : Type} [RollupQueueEntry Entry]

def InQueue (st : Streamer Entry FeedMessage) (seq : UInt64) : Prop := ∃ e ∈ st.queue, sequenceNumber e = seq

def TrackedAt (st : Streamer Entry FeedMessage) (seq height : UInt64) : Prop :=
  (∃ e ∈ st.queue, sequenceNumber e = seq ∧ hotshotHeight e = height) ∨ st.stubs[seq]? = some height

def Tracked (st : Streamer Entry FeedMessage) (seq : UInt64) : Prop := InQueue st seq ∨ seq ∈ st.stubs

structure StreamerInv (config : StreamerConfig) (st : Streamer Entry FeedMessage) : Prop where
  sorted : Increasing sequenceNumber st.queue
  separate : ∀ seq, InQueue st seq → seq ∉ st.stubs
  bounded : st.queue.length ≤ config.maxFullQueueEntries
  started : ∀ seq, Tracked st seq → config.startingPos ≤ seq

theorem tracked_iff_at (st : Streamer Entry FeedMessage) (seq : UInt64) : Tracked st seq ↔ ∃ height, TrackedAt st seq height := by
  simp only [Tracked, TrackedAt, InQueue, exists_or]
  apply or_congr
  · constructor
    · intro given
      obtain ⟨e, member, same⟩ := given
      exact ⟨hotshotHeight e, e, member, same, rfl⟩
    · intro given
      obtain ⟨-, e, member, same, -⟩ := given
      exact ⟨e, member, same⟩
  · rw [ExtTreeMap.mem_iff_isSome_getElem?, Option.isSome_iff_exists]

theorem queue_holds_iff (queue : List Entry) (seq : UInt64) (sorted : Increasing sequenceNumber queue) :
    queueHolds seq queue = true ↔ ∃ e ∈ queue, sequenceNumber e = seq :=
  probe_iff sequenceNumber seq queue sorted

theorem mem_insert_entry (entry e : Entry) (queue : List Entry) : e ∈ insertEntry entry queue ↔ e = entry ∨ e ∈ queue :=
  mem_insert _ entry e queue

theorem length_insert_entry (entry : Entry) (queue : List Entry) : (insertEntry entry queue).length = queue.length + 1 :=
  length_insert _ entry queue

theorem insert_entry_increasing (entry : Entry) (queue : List Entry) (sorted : Increasing sequenceNumber queue)
    (absent : ¬ ∃ e ∈ queue, sequenceNumber e = sequenceNumber entry) : Increasing sequenceNumber (insertEntry entry queue) :=
  insert_increasing sequenceNumber entry queue sorted fun e member same => absent ⟨e, member, same⟩

inductive FilterOutcome (config : StreamerConfig) (st : Streamer Entry FeedMessage) (parsed : Entry) :
    Streamer Entry FeedMessage → Prop where
  | skipped (known : sequenceNumber parsed < config.startingPos ∨ Tracked st (sequenceNumber parsed)) :
      FilterOutcome config st parsed st
  | kept (started : config.startingPos ≤ sequenceNumber parsed) (fresh : ¬ Tracked st (sequenceNumber parsed))
      (room : st.queue.length < config.maxFullQueueEntries) :
      FilterOutcome config st parsed { st with queue := insertEntry parsed st.queue }
  | evicted (started : config.startingPos ≤ sequenceNumber parsed) (fresh : ¬ Tracked st (sequenceNumber parsed))
      (full : config.maxFullQueueEntries ≤ st.queue.length) (rest : List Entry) (last : Entry)
      (split : insertEntry parsed st.queue = rest ++ [last]) :
      FilterOutcome config st parsed
        { st with queue := rest, stubs := st.stubs.insert (sequenceNumber last) (hotshotHeight last) }

theorem filter_message_outcome (config : StreamerConfig) (st : Streamer Entry FeedMessage) (parsed : Entry)
    (sorted : Increasing sequenceNumber st.queue) : FilterOutcome config st parsed (filterMessage config st parsed) := by
  by_cases early : sequenceNumber parsed < config.startingPos
  · rw [filterMessage, if_pos early]
    exact .skipped (.inl early)
  · by_cases known : queueHolds (sequenceNumber parsed) st.queue || st.stubs.contains (sequenceNumber parsed)
    · rw [filterMessage, if_neg early, if_pos known]
      apply FilterOutcome.skipped
      rw [Bool.or_eq_true, queue_holds_iff _ _ sorted] at known
      exact .inr known
    · have fresh : ¬ Tracked st (sequenceNumber parsed) := by
        rw [Bool.or_eq_true, queue_holds_iff _ _ sorted] at known
        exact known
      by_cases full : (insertEntry parsed st.queue).length > config.maxFullQueueEntries
      · cases ending : (insertEntry parsed st.queue).getLast? with
        | none =>
            have empty := congrArg List.length (List.getLast?_eq_none_iff.mp ending)
            simp [length_insert_entry] at empty
        | some last =>
            obtain ⟨rest, split⟩ := List.getLast?_eq_some_iff.mp ending
            have dropped : (insertEntry parsed st.queue).dropLast = rest := by rw [split, List.dropLast_concat]
            rw [filterMessage, if_neg early, if_neg known]
            simp only [if_pos full, ending, dropped]
            rw [length_insert_entry] at full
            exact .evicted (not_lt.mp early) fresh (by omega) rest last split
      · rw [filterMessage, if_neg early, if_neg known]
        simp only [if_neg full]
        rw [length_insert_entry] at full
        exact .kept (not_lt.mp early) fresh (by omega)

theorem filter_message_indices (config : StreamerConfig) (st : Streamer Entry FeedMessage) (parsed : Entry)
    (sorted : Increasing sequenceNumber st.queue) :
    (filterMessage config st parsed).finalizedIdx = st.finalizedIdx ∧
      (filterMessage config st parsed).lastBroadcastPosition = st.lastBroadcastPosition := by
  have outcome := filter_message_outcome config st parsed sorted
  generalize filterMessage config st parsed = next at outcome ⊢
  cases outcome <;> exact ⟨rfl, rfl⟩

-- What an entry of the queue with the new one in it has in common with the entries held before.
theorem inserted_entry_invariant (config : StreamerConfig) (st : Streamer Entry FeedMessage) (parsed : Entry)
    (inv : StreamerInv config st) (started : config.startingPos ≤ sequenceNumber parsed) (fresh : ¬ Tracked st (sequenceNumber parsed))
    (e : Entry) (member : e ∈ insertEntry parsed st.queue) : sequenceNumber e ∉ st.stubs ∧ config.startingPos ≤ sequenceNumber e := by
  rcases (mem_insert_entry parsed e st.queue).mp member with rfl | old
  · exact ⟨fun stub => fresh (.inr stub), started⟩
  · exact ⟨inv.separate _ ⟨e, old, rfl⟩, inv.started _ (.inl ⟨e, old, rfl⟩)⟩

theorem filter_message_invariant (config : StreamerConfig) (st : Streamer Entry FeedMessage) (parsed : Entry)
    (inv : StreamerInv config st) : StreamerInv config (filterMessage config st parsed) := by
  have outcome := filter_message_outcome config st parsed inv.sorted
  generalize filterMessage config st parsed = next at outcome ⊢
  cases outcome with
  | skipped known => exact inv
  | kept started fresh room =>
      have inserted := inserted_entry_invariant config st parsed inv started fresh
      refine ⟨insert_entry_increasing parsed st.queue inv.sorted fun held => fresh (.inl held), ?_, ?_, ?_⟩
      · intro seq given
        obtain ⟨e, member, rfl⟩ := given
        exact (inserted e member).1
      · simp only [length_insert_entry]
        omega
      · rintro seq (⟨e, member, rfl⟩ | stub)
        · exact (inserted e member).2
        · exact inv.started seq (.inr stub)
  | evicted started fresh full rest last split =>
      have inserted := inserted_entry_invariant config st parsed inv started fresh
      have sorted := insert_entry_increasing parsed st.queue inv.sorted fun held => fresh (.inl held)
      rw [split] at inserted sorted
      obtain ⟨restSorted, -, below⟩ := List.pairwise_append.mp sorted
      refine ⟨restSorted, ?_, ?_, ?_⟩
      · intro seq given stub
        obtain ⟨e, member, rfl⟩ := given
        rw [ExtTreeMap.mem_insert] at stub
        rcases stub with same | old
        · have less := below e member last (by simp)
          rw [Std.LawfulEqCmp.eq_of_compare same] at less
          exact lt_irrefl _ less
        · exact (inserted e (by simp [member])).1 old
      · have sizes := congrArg List.length split
        have bounded := inv.bounded
        simp only [length_insert_entry, List.length_append, List.length_singleton] at sizes
        change rest.length ≤ config.maxFullQueueEntries
        omega
      · rintro seq (⟨e, member, rfl⟩ | stub)
        · exact (inserted e (by simp [member])).2
        · rw [ExtTreeMap.mem_insert] at stub
          rcases stub with same | old
          · exact Std.LawfulEqCmp.eq_of_compare same ▸ (inserted last (by simp)).2
          · exact inv.started seq (.inr old)

theorem filter_messages_invariant (config : StreamerConfig) (st : Streamer Entry FeedMessage) (entries : List Entry)
    (inv : StreamerInv config st) : StreamerInv config (filterMessages config st entries) :=
  History.run_invariant _ (StreamerInv config) (fun _ => True)
    (fun state parsed _ => filter_message_invariant config state parsed) st entries (fun _ _ => trivial) inv

def FetchedFrom (source : Entry → Prop) (fetched : ExtTreeMap UInt64 Entry) : Prop :=
  ∀ seq entry, fetched[seq]? = some entry → sequenceNumber entry = seq ∧ source entry

theorem collect_fetched_from (source : Entry → Prop) (expected : ExtTreeSet UInt64) (fetched : ExtTreeMap UInt64 Entry)
    (entries : List Entry) (parsed : ∀ entry ∈ entries, source entry) (before : FetchedFrom source fetched) :
    FetchedFrom source (collect expected fetched entries) := by
  induction entries generalizing fetched with
  | nil => exact before
  | cons entry tail ih =>
      apply ih _ fun later member => parsed later (by simp [member])
      by_cases wanted : expected.contains (sequenceNumber entry)
      · simp only [wanted, if_true]
        intro seq found lookup
        rw [ExtTreeMap.getElem?_insert] at lookup
        split at lookup
        · rename_i same
          obtain rfl := Option.some.inj lookup
          exact ⟨Std.LawfulEqCmp.eq_of_compare same, parsed entry (by simp)⟩
        · exact before seq found lookup
      · simpa [wanted] using before

theorem fetch_windows_from (source : Entry → Prop) (rollup : Rollup Transaction Entry FeedMessage) (reader : Reader Transaction)
    (read : ∀ start stop txns, reader start stop = some txns → ∀ entry ∈ rollup.parseHotshotTransactions txns start, source entry)
    (expected : ExtTreeSet UInt64) (ranges : List (UInt64 × UInt64)) (fetched after : ExtTreeMap UInt64 Entry)
    (before : FetchedFrom source fetched) (completed : fetchWindows rollup reader expected ranges fetched = some after) :
    FetchedFrom source after := by
  induction ranges generalizing fetched with
  | nil => exact Option.some.inj completed ▸ before
  | cons range tail ih =>
      obtain ⟨start, stop⟩ := range
      cases answer : reader start stop with
      | none => simp [fetchWindows, answer] at completed
      | some txns =>
          simp only [fetchWindows, answer] at completed
          exact ih _ (collect_fetched_from source expected fetched _ (read start stop txns answer) before) completed

theorem fetched_from_erase (source : Entry → Prop) (fetched : ExtTreeMap UInt64 Entry) (seq : UInt64)
    (before : FetchedFrom source fetched) : FetchedFrom source (fetched.erase seq) := by
  intro other entry lookup
  rw [ExtTreeMap.getElem?_erase] at lookup
  split at lookup
  · cases lookup
  · exact before other entry lookup

-- Whatever survives the promotion of one stub survives the loop, because every
-- promoted entry replaces the stub of its own number and height.
theorem promote_loop_rule (config : StreamerConfig) (source : Entry → Prop) (good : Streamer Entry FeedMessage → Prop)
    (keep : ∀ st entry, source entry → good st → st.stubs[sequenceNumber entry]? = some (hotshotHeight entry) →
      st.queue.length < config.maxFullQueueEntries → good (promoteEntry st entry))
    (selected : List (UInt64 × UInt64)) (fetched : ExtTreeMap UInt64 Entry) (st : Streamer Entry FeedMessage)
    (initial : good st) (origin : FetchedFrom source fetched) (ordered : Increasing Prod.fst selected)
    (present : ∀ stub ∈ selected, st.stubs[stub.1]? = some stub.2)
    (room : st.queue.length + selected.length ≤ config.maxFullQueueEntries) : good (promoteLoop selected fetched st) := by
  induction selected generalizing fetched st with
  | nil => exact initial
  | cons stub tail ih =>
      obtain ⟨seq, height⟩ := stub
      obtain ⟨above, tailOrdered⟩ := List.pairwise_cons.mp ordered
      have erased := fetched_from_erase source fetched seq origin
      simp only [List.length_cons] at room
      cases lookup : fetched[seq]? with
      | none =>
          simp only [promoteLoop, lookup]
          exact ih _ st initial erased tailOrdered (fun stub member => present stub (by simp [member])) (by omega)
      | some entry =>
          obtain ⟨rfl, sourced⟩ := origin seq entry lookup
          by_cases same : hotshotHeight entry ≠ height
          · simpa only [promoteLoop, lookup, if_pos same] using initial
          · have here : st.stubs[sequenceNumber entry]? = some (hotshotHeight entry) := by
              rw [not_not.mp same]
              exact present (sequenceNumber entry, height) (by simp)
            simp only [promoteLoop, lookup, if_neg same]
            refine ih _ _ (keep st entry sourced initial here (by omega)) erased tailOrdered ?_ ?_
            · intro stub member
              have less : sequenceNumber entry < stub.1 := above stub member
              have different : ¬ compare (sequenceNumber entry) stub.1 = .eq :=
                fun equal => ne_of_lt less (Std.LawfulEqCmp.eq_of_compare equal)
              simp only [promoteEntry, ExtTreeMap.getElem?_erase, if_neg different]
              exact present stub (by simp [member])
            · simp only [promoteEntry, length_insert_entry]
              omega

theorem stubs_ordered (stubs : ExtTreeMap UInt64 UInt64) : Increasing Prod.fst stubs.toList :=
  stubs.ordered_keys_toList.imp fun less => Std.compare_eq_lt.mp less

omit [RollupQueueEntry Entry] in
theorem stubs_to_promote_ordered (config : StreamerConfig) (st : Streamer Entry FeedMessage) :
    Increasing Prod.fst (stubsToPromote config st) :=
  (stubs_ordered st.stubs).sublist (List.take_sublist _ _)

omit [RollupQueueEntry Entry] in
theorem stubs_to_promote_present (config : StreamerConfig) (st : Streamer Entry FeedMessage) (stub : UInt64 × UInt64)
    (member : stub ∈ stubsToPromote config st) : st.stubs[stub.1]? = some stub.2 :=
  ExtTreeMap.mem_toList_iff_getElem?_eq_some.mp (List.mem_of_mem_take member)

omit [RollupQueueEntry Entry] in
theorem stubs_to_promote_room (config : StreamerConfig) (st : Streamer Entry FeedMessage)
    (bounded : st.queue.length ≤ config.maxFullQueueEntries) :
    st.queue.length + (stubsToPromote config st).length ≤ config.maxFullQueueEntries := by
  simp only [stubsToPromote, List.length_take]
  omega

theorem promote_stubs_sourced_rule (config : StreamerConfig) (rollup : Rollup Transaction Entry FeedMessage)
    (reader : Reader Transaction) (source : Entry → Prop) (good : Streamer Entry FeedMessage → Prop)
    (read : ∀ start stop txns, reader start stop = some txns → ∀ entry ∈ rollup.parseHotshotTransactions txns start, source entry)
    (keep : ∀ st entry, source entry → good st → st.stubs[sequenceNumber entry]? = some (hotshotHeight entry) →
      st.queue.length < config.maxFullQueueEntries → good (promoteEntry st entry))
    (st : Streamer Entry FeedMessage) (bounded : st.queue.length ≤ config.maxFullQueueEntries) (initial : good st) :
    good (promoteStubs config rollup reader st) := by
  simp only [promoteStubs]
  split
  · exact initial
  · split
    · exact initial
    · rename_i fetched completed
      exact promote_loop_rule config source good keep _ fetched st initial
        (fetch_windows_from source rollup reader read _ _ ∅ fetched (by intro seq entry lookup; simp at lookup) completed)
        (stubs_to_promote_ordered config st) (stubs_to_promote_present config st) (stubs_to_promote_room config st bounded)

theorem promote_stubs_rule (config : StreamerConfig) (rollup : Rollup Transaction Entry FeedMessage) (reader : Reader Transaction)
    (good : Streamer Entry FeedMessage → Prop)
    (keep : ∀ st entry, good st → st.stubs[sequenceNumber entry]? = some (hotshotHeight entry) →
      st.queue.length < config.maxFullQueueEntries → good (promoteEntry st entry))
    (st : Streamer Entry FeedMessage) (bounded : st.queue.length ≤ config.maxFullQueueEntries) (initial : good st) :
    good (promoteStubs config rollup reader st) :=
  promote_stubs_sourced_rule config rollup reader (fun _ => True) good (fun _ _ _ _ _ _ => trivial)
    (fun state entry _ => keep state entry) st bounded initial

theorem promote_entry_invariant (config : StreamerConfig) (st : Streamer Entry FeedMessage) (entry : Entry)
    (inv : StreamerInv config st) (stub : st.stubs[sequenceNumber entry]? = some (hotshotHeight entry))
    (room : st.queue.length < config.maxFullQueueEntries) : StreamerInv config (promoteEntry st entry) := by
  have stubbed : sequenceNumber entry ∈ st.stubs := by
    rw [ExtTreeMap.mem_iff_isSome_getElem?, stub]
    rfl
  refine ⟨insert_entry_increasing entry st.queue inv.sorted fun held => inv.separate _ held stubbed, ?_, ?_, ?_⟩
  · intro seq given remaining
    obtain ⟨e, member, rfl⟩ := given
    obtain ⟨different, old⟩ := ExtTreeMap.mem_erase.mp remaining
    rcases (mem_insert_entry entry e st.queue).mp member with rfl | queued
    · exact different Std.ReflCmp.compare_self
    · exact inv.separate _ ⟨e, queued, rfl⟩ old
  · simp only [promoteEntry, length_insert_entry]
    omega
  · rintro seq (⟨e, member, rfl⟩ | remaining)
    · rcases (mem_insert_entry entry e st.queue).mp member with rfl | queued
      · exact inv.started _ (.inr stubbed)
      · exact inv.started _ (.inl ⟨e, queued, rfl⟩)
    · exact inv.started seq (.inr (ExtTreeMap.mem_erase.mp remaining).2)

theorem prune_queue (newFinalizedIdx : UInt64) (st : Streamer Entry FeedMessage) (sorted : Increasing sequenceNumber st.queue) :
    (prune newFinalizedIdx st).queue = st.queue.filter fun e => newFinalizedIdx < sequenceNumber e := by
  simp only [prune, drop_partition_point sequenceNumber _ st.queue (at_most_downward sequenceNumber newFinalizedIdx) sorted]
  congr 1
  funext e
  rw [← decide_not, decide_eq_decide]
  exact not_le

theorem prune_stubs (newFinalizedIdx : UInt64) (st : Streamer Entry FeedMessage) (seq : UInt64) :
    (prune newFinalizedIdx st).stubs[seq]? = if newFinalizedIdx < seq then st.stubs[seq]? else none := by
  cases split : Word64.checkedAdd newFinalizedIdx 1 with
  | none => simp [prune, split, Word64.checked_succ_none newFinalizedIdx seq split]
  | some splitKey =>
      simp only [prune, split, ExtTreeMap.getElem?_filter', Word64.checked_succ_le newFinalizedIdx seq splitKey split]
      cases st.stubs[seq]? <;> by_cases above : newFinalizedIdx < seq <;> simp [above]

theorem prune_in_queue (newFinalizedIdx : UInt64) (st : Streamer Entry FeedMessage) (seq : UInt64)
    (sorted : Increasing sequenceNumber st.queue) :
    InQueue (prune newFinalizedIdx st) seq ↔ newFinalizedIdx < seq ∧ InQueue st seq := by
  simp only [InQueue, prune_queue newFinalizedIdx st sorted, List.mem_filter, decide_eq_true_eq]
  constructor
  · intro given
    obtain ⟨e, member, same⟩ := given
    exact ⟨same ▸ member.2, e, member.1, same⟩
  · intro given
    obtain ⟨above, e, member, same⟩ := given
    exact ⟨e, ⟨member, same ▸ above⟩, same⟩

theorem prune_stubbed (newFinalizedIdx : UInt64) (st : Streamer Entry FeedMessage) (seq : UInt64) :
    seq ∈ (prune newFinalizedIdx st).stubs ↔ newFinalizedIdx < seq ∧ seq ∈ st.stubs := by
  simp only [ExtTreeMap.mem_iff_isSome_getElem?, prune_stubs]
  by_cases above : newFinalizedIdx < seq <;> simp [above]

theorem prune_invariant (config : StreamerConfig) (newFinalizedIdx : UInt64) (st : Streamer Entry FeedMessage)
    (inv : StreamerInv config st) : StreamerInv config (prune newFinalizedIdx st) := by
  refine ⟨?_, ?_, ?_, ?_⟩
  · rw [prune_queue newFinalizedIdx st inv.sorted]
    exact inv.sorted.filter _
  · intro seq queued stubbed
    exact inv.separate seq ((prune_in_queue newFinalizedIdx st seq inv.sorted).mp queued).2
      ((prune_stubbed newFinalizedIdx st seq).mp stubbed).2
  · rw [prune_queue newFinalizedIdx st inv.sorted]
    exact Nat.le_trans (List.length_filter_le _ _) inv.bounded
  · rintro seq (queued | stubbed)
    · exact inv.started seq (.inl ((prune_in_queue newFinalizedIdx st seq inv.sorted).mp queued).2)
    · exact inv.started seq (.inr ((prune_stubbed newFinalizedIdx st seq).mp stubbed).2)

structure SameTracked (before after : Streamer Entry FeedMessage) : Prop where
  queue : after.queue = before.queue
  stubs : after.stubs = before.stubs

theorem broadcast_loop_tracked (rollup : Rollup Transaction Entry FeedMessage) (send : Nat → TrySend) (entries : List Entry)
    (attempt : Nat) (st : Streamer Entry FeedMessage) : SameTracked st (broadcastLoop rollup send entries attempt st) := by
  induction entries generalizing attempt st with
  | nil => exact ⟨rfl, rfl⟩
  | cons entry tail ih =>
      rw [broadcastLoop]
      cases send attempt with
      | accepted =>
          have later := ih (attempt + 1) { st with
            lastBroadcastPosition := sequenceNumber entry
            broadcast := st.broadcast ++ [rollup.convertEntryToFeedMessage entry] }
          exact ⟨later.queue, later.stubs⟩
      | full => exact ⟨rfl, rfl⟩
      | closed => exact ⟨rfl, rfl⟩

theorem broadcast_loop_finalized (rollup : Rollup Transaction Entry FeedMessage) (send : Nat → TrySend) (entries : List Entry)
    (attempt : Nat) (st : Streamer Entry FeedMessage) :
    (broadcastLoop rollup send entries attempt st).finalizedIdx = st.finalizedIdx := by
  induction entries generalizing attempt st with
  | nil => rfl
  | cons entry tail ih =>
      rw [broadcastLoop]
      cases send attempt with
      | accepted => exact ih _ _
      | full => rfl
      | closed => rfl

omit [RollupQueueEntry Entry] in
theorem skip_finalized_tracked (newFinalizedIdx : UInt64) (st : Streamer Entry FeedMessage) :
    SameTracked st (skipFinalized newFinalizedIdx st) := by
  unfold skipFinalized
  split <;> exact ⟨rfl, rfl⟩

omit [RollupQueueEntry Entry] in
theorem skip_finalized_idx (newFinalizedIdx : UInt64) (st : Streamer Entry FeedMessage) :
    (skipFinalized newFinalizedIdx st).finalizedIdx = st.finalizedIdx := by
  unfold skipFinalized
  split <;> rfl

theorem same_tracked_invariant (config : StreamerConfig) (before after : Streamer Entry FeedMessage)
    (same : SameTracked before after) (inv : StreamerInv config before) : StreamerInv config after := by
  obtain ⟨queue, stubs⟩ := same
  constructor
  · exact queue ▸ inv.sorted
  · simpa only [InQueue, queue, stubs] using inv.separate
  · exact queue ▸ inv.bounded
  · simpa only [Tracked, InQueue, queue, stubs] using inv.started

theorem handle_finalization_invariant (config : StreamerConfig) (rollup : Rollup Transaction Entry FeedMessage)
    (reader : Reader Transaction) (newFinalizedIdx : UInt64) (st : Streamer Entry FeedMessage) (inv : StreamerInv config st) :
    StreamerInv config (handleFinalization config rollup reader newFinalizedIdx st) := by
  have skipped := same_tracked_invariant config st _ (skip_finalized_tracked newFinalizedIdx st) inv
  simp only [handleFinalization]
  split
  · exact skipped
  · have pruned := prune_invariant config newFinalizedIdx _ skipped
    exact promote_stubs_rule config rollup reader (StreamerInv config) (promote_entry_invariant config) _ pruned.bounded pruned

theorem step_streamer_invariant (config : StreamerConfig) (rollup : Rollup Transaction Entry FeedMessage)
    (st : Streamer Entry FeedMessage) (event : StreamerEvent Transaction) (inv : StreamerInv config st) :
    StreamerInv config (stepStreamer config rollup st event) := by
  cases event with
  | hotshotTransactions transactions height send =>
      exact same_tracked_invariant config _ _ (broadcast_loop_tracked rollup send _ 0 _) (filter_messages_invariant config st _ inv)
  | finalization newFinalizedIdx reader => exact handle_finalization_invariant config rollup reader newFinalizedIdx st inv
  | broadcastRetry send =>
      have cleared := same_tracked_invariant config st { st with retryScheduled := false } ⟨rfl, rfl⟩ inv
      exact same_tracked_invariant config _ _ (broadcast_loop_tracked rollup send _ 0 _) cleared

theorem new_streamer_invariant (config : StreamerConfig) (finalizedIdx : UInt64) :
    StreamerInv config (.new finalizedIdx : Streamer Entry FeedMessage) := by
  refine ⟨List.Pairwise.nil, ?_, Nat.zero_le _, ?_⟩
  · intro seq given
    obtain ⟨e, member, -⟩ := given
    cases member
  · rintro seq (⟨e, member, -⟩ | stubbed)
    · cases member
    · exact absurd stubbed ExtTreeMap.not_mem_empty

theorem run_streamer_invariant (config : StreamerConfig) (rollup : Rollup Transaction Entry FeedMessage) (finalizedIdx : UInt64)
    (events : List (StreamerEvent Transaction)) : StreamerInv config (runStreamer config rollup finalizedIdx events) :=
  History.run_invariant _ (StreamerInv config) (fun _ => True) (fun st event _ => step_streamer_invariant config rollup st event)
    _ events (fun _ _ => trivial) (new_streamer_invariant config finalizedIdx)

/-- The representation holds in every state of every run, whatever the reader answers. -/
theorem reachable_representation (config : StreamerConfig) (rollup : Rollup Transaction Entry FeedMessage) (finalizedIdx : UInt64)
    (events : List (StreamerEvent Transaction)) :
    ((runStreamer config rollup finalizedIdx events).queue.map sequenceNumber).Pairwise (· < ·) ∧
      (∀ seq, ¬ (InQueue (runStreamer config rollup finalizedIdx events) seq ∧
        seq ∈ (runStreamer config rollup finalizedIdx events).stubs)) ∧
      (runStreamer config rollup finalizedIdx events).queue.length ≤ config.maxFullQueueEntries ∧
      ∀ seq, Tracked (runStreamer config rollup finalizedIdx events) seq → config.startingPos ≤ seq := by
  have inv := run_streamer_invariant config rollup finalizedIdx events
  exact ⟨List.pairwise_map.mpr inv.sorted, fun seq both => inv.separate seq both.1 both.2, inv.bounded, inv.started⟩

end Cas
