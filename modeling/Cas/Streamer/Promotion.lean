import Cas.MockRollup
import Cas.Streamer.Windows

set_option autoImplicit false

namespace Cas

open SortedSlice
open Std (ExtTreeMap ExtTreeSet)

variable {Transaction Entry FeedMessage : Type} [RollupQueueEntry Entry]

def named (seq : UInt64) (entries : List Entry) : List Entry := entries.filter fun e => sequenceNumber e = seq

theorem named_append (seq : UInt64) (first second : List Entry) : named seq (first ++ second) = named seq first ++ named seq second :=
  List.filter_append ..

theorem named_ne_nil (seq : UInt64) (entries : List Entry) : named seq entries ≠ [] ↔ ∃ e ∈ entries, sequenceNumber e = seq := by
  simp [named, List.filter_eq_nil_iff]

-- Map insertion keeps the last entry of each number.
theorem collect_lookup (expected : ExtTreeSet UInt64) (fetched : ExtTreeMap UInt64 Entry) (entries : List Entry) (seq : UInt64)
    (wanted : expected.contains seq = true) :
    (collect expected fetched entries)[seq]? = ((named seq entries).getLast?).or fetched[seq]? := by
  induction entries generalizing fetched with
  | nil => rfl
  | cons entry tail ih =>
      have rest := ih (if expected.contains (sequenceNumber entry) then fetched.insert (sequenceNumber entry) entry else fetched)
      rw [collect, List.foldl_cons, ← collect, rest]
      by_cases same : sequenceNumber entry = seq
      · subst seq
        rw [if_pos wanted, ExtTreeMap.getElem?_insert_self]
        simp only [named, List.filter_cons, decide_true, if_true, List.getLast?_cons]
        cases (tail.filter fun e => sequenceNumber e = sequenceNumber entry).getLast? <;> rfl
      · have kept : (if expected.contains (sequenceNumber entry) then fetched.insert (sequenceNumber entry) entry else fetched)[seq]? =
            fetched[seq]? := by
          split
          · simp only [ExtTreeMap.getElem?_insert, Std.LawfulEqCmp.compare_eq_iff_eq, if_neg same]
          · rfl
        rw [kept]
        simp only [named, List.filter_cons, same, decide_false, Bool.false_eq_true, if_false]

section Blocks

variable (block : UInt64 → List Entry) (seq : UInt64)

theorem named_flat_map_ne_nil (heights : List UInt64) :
    named seq (heights.flatMap block) ≠ [] ↔ ∃ height ∈ heights, named seq (block height) ≠ [] := by
  simp only [named_ne_nil, List.mem_flatMap]
  exact ⟨fun ⟨e, ⟨height, listed, member⟩, same⟩ => ⟨height, listed, e, member, same⟩,
    fun ⟨height, listed, e, member, same⟩ => ⟨e, ⟨height, listed, member⟩, same⟩⟩

theorem above_of_split (first second : List UInt64) (height : UInt64) (increasing : (first ++ height :: second).Pairwise (· < ·))
    (later : UInt64) (listed : later ∈ first ++ height :: second) : height < later ↔ later ∈ second := by
  obtain ⟨-, rest, below⟩ := List.pairwise_append.mp increasing
  obtain ⟨above, -⟩ := List.pairwise_cons.mp rest
  refine ⟨fun less => ?_, above later⟩
  rw [List.mem_append, List.mem_cons] at listed
  cases listed with
  | inl early => exact absurd less (not_lt.mpr (le_of_lt (below later early height (by simp))))
  | inr rest =>
      cases rest with
      | inl same => exact absurd less (same ▸ lt_irrefl _)
      | inr after => exact after

theorem last_named_unshadowed (heights : List UInt64) (increasing : heights.Pairwise (· < ·)) (height : UInt64)
    (listed : height ∈ heights) (occurs : named seq (block height) ≠ [])
    (alone : ∀ later ∈ heights, height < later → named seq (block later) = []) :
    (named seq (heights.flatMap block)).getLast? = (named seq (block height)).getLast? := by
  obtain ⟨first, second, rfl⟩ := List.append_of_mem listed
  have after : named seq (second.flatMap block) = [] := by
    by_contra occursLater
    obtain ⟨later, member, here⟩ := (named_flat_map_ne_nil block seq second).mp occursLater
    have inside : later ∈ first ++ height :: second := by simp [member]
    exact here (alone later inside ((above_of_split first second height increasing later inside).mpr member))
  obtain ⟨last, final⟩ := Option.ne_none_iff_exists'.mp (mt List.getLast?_eq_none_iff.mp occurs)
  simp only [List.flatMap_append, List.flatMap_cons, named_append, after, List.append_nil, List.getLast?_append, final, Option.some_or]

theorem last_named_shadowed (heights : List UInt64) (increasing : heights.Pairwise (· < ·)) (height : UInt64)
    (listed : height ∈ heights) (later : UInt64) (laterListed : later ∈ heights) (above : height < later)
    (occurs : named seq (block later) ≠ []) :
    ∃ shadow e, height < shadow ∧ e ∈ block shadow ∧ (named seq (heights.flatMap block)).getLast? = some e := by
  obtain ⟨first, second, rfl⟩ := List.append_of_mem listed
  have inSecond := (above_of_split first second height increasing later laterListed).mp above
  have occursAfter := (named_flat_map_ne_nil block seq second).mpr ⟨later, inSecond, occurs⟩
  obtain ⟨last, final⟩ := Option.ne_none_iff_exists'.mp (mt List.getLast?_eq_none_iff.mp occursAfter)
  obtain ⟨shadow, member, inside⟩ := List.mem_flatMap.mp (List.mem_filter.mp (List.mem_of_getLast? final)).1
  refine ⟨shadow, last, ?_, inside, ?_⟩
  · exact (above_of_split first second height increasing shadow (by simp [member])).mpr member
  · simp only [List.flatMap_append, List.flatMap_cons, named_append, List.getLast?_append, final, Option.some_or]

end Blocks

-- What promotion makes of the selected stubs: which of them become full entries, and with what content.
structure PromotionOutcome (promoted : UInt64 × UInt64 → Prop) (content : UInt64 × UInt64 → Option Entry)
    (selected : List (UInt64 × UInt64)) (st after : Streamer Entry FeedMessage) : Prop where
  queue : ∀ e, e ∈ after.queue ↔ e ∈ st.queue ∨ ∃ stub ∈ selected, promoted stub ∧ content stub = some e
  stubs : ∀ seq height, after.stubs[seq]? = some height ↔
    st.stubs[seq]? = some height ∧ ¬ ∃ stub ∈ selected, promoted stub ∧ stub.1 = seq

omit [RollupQueueEntry Entry] in
theorem promotion_outcome_halted (promoted : UInt64 × UInt64 → Prop) (content : UInt64 × UInt64 → Option Entry)
    (selected : List (UInt64 × UInt64)) (st : Streamer Entry FeedMessage) (blocked : ∀ stub ∈ selected, ¬ promoted stub) :
    PromotionOutcome promoted content selected st st := by
  refine ⟨fun e => ⟨.inl, ?_⟩, fun seq height => ⟨fun here => ⟨here, ?_⟩, And.left⟩⟩
  · rintro (old | ⟨stub, listed, free, -⟩)
    · exact old
    · exact absurd free (blocked stub listed)
  · intro given
    obtain ⟨stub, listed, free, -⟩ := given
    exact blocked stub listed free

omit [RollupQueueEntry Entry] in
theorem promotion_outcome_congr (promoted free : UInt64 × UInt64 → Prop) (content other : UInt64 × UInt64 → Option Entry)
    (selected : List (UInt64 × UInt64)) (st after : Streamer Entry FeedMessage) (agree : ∀ stub ∈ selected, (promoted stub ↔ free stub))
    (same : ∀ stub ∈ selected, free stub → content stub = other stub) (outcome : PromotionOutcome promoted content selected st after) :
    PromotionOutcome free other selected st after := by
  refine ⟨fun e => ?_, fun seq height => ?_⟩
  · rw [outcome.queue]
    refine or_congr_right (exists_congr fun stub => and_congr_right fun listed => ?_)
    rw [agree stub listed]
    exact and_congr_right fun given => by rw [same stub listed given]
  · rw [outcome.stubs]
    refine and_congr_right fun _ => not_congr (exists_congr fun stub => and_congr_right fun listed => ?_)
    rw [agree stub listed]

structure Promoted (lookup : UInt64 → Option Entry) (selected : List (UInt64 × UInt64)) (stub : UInt64 × UInt64) : Prop where
  found : ∃ entry, lookup stub.1 = some entry
  dated : ∀ other ∈ selected, other.1 ≤ stub.1 → ∀ entry, lookup other.1 = some entry → hotshotHeight entry = other.2

def FoundOutcome (lookup : UInt64 → Option Entry) (selected : List (UInt64 × UInt64)) (st after : Streamer Entry FeedMessage) : Prop :=
  PromotionOutcome (Promoted lookup selected) (fun stub => lookup stub.1) selected st after

theorem found_outcome_congr (lookup other : UInt64 → Option Entry) (selected : List (UInt64 × UInt64))
    (st after : Streamer Entry FeedMessage) (same : ∀ stub ∈ selected, lookup stub.1 = other stub.1)
    (outcome : FoundOutcome lookup selected st after) : FoundOutcome other selected st after := by
  refine promotion_outcome_congr _ _ _ _ selected st after (fun stub listed => ?_) (fun stub listed _ => same stub listed) outcome
  constructor
  · intro promoted
    exact ⟨same stub listed ▸ promoted.found, fun lower member low => same lower member ▸ promoted.dated lower member low⟩
  · intro promoted
    exact ⟨same stub listed ▸ promoted.found, fun lower member low => same lower member ▸ promoted.dated lower member low⟩

section Step

variable (lookup : UInt64 → Option Entry) (head : UInt64 × UInt64) (tail : List (UInt64 × UInt64))
  (above : ∀ stub ∈ tail, head.1 < stub.1)

theorem promoted_tail (dated : ∀ entry, lookup head.1 = some entry → hotshotHeight entry = head.2) (stub : UInt64 × UInt64) :
    Promoted lookup (head :: tail) stub ↔ Promoted lookup tail stub := by
  constructor
  · intro promoted
    exact ⟨promoted.found, fun other member => promoted.dated other (List.mem_cons_of_mem _ member)⟩
  · intro promoted
    refine ⟨promoted.found, fun other member low => ?_⟩
    cases List.mem_cons.mp member with
    | inl same => exact same ▸ dated
    | inr inTail => exact promoted.dated other inTail low

theorem found_outcome_missing (st after : Streamer Entry FeedMessage) (missing : lookup head.1 = none)
    (later : FoundOutcome lookup tail st after) : FoundOutcome lookup (head :: tail) st after := by
  have headLeft : ¬ Promoted lookup (head :: tail) head := by
    intro promoted
    obtain ⟨entry, found⟩ := promoted.found
    rw [missing] at found
    cases found
  have tailPromoted := promoted_tail lookup head tail fun e hit => by rw [missing] at hit; cases hit
  refine ⟨fun e => ?_, fun seq height => ?_⟩
  · rw [later.queue]
    simp only [List.exists_mem_cons_iff, headLeft, false_and, false_or]
    exact or_congr_right (exists_congr fun stub => and_congr_right fun listed => and_congr_left fun _ => (tailPromoted stub).symm)
  · rw [later.stubs]
    simp only [List.exists_mem_cons_iff, headLeft, false_and, false_or]
    exact and_congr_right fun _ => not_congr
      (exists_congr fun stub => and_congr_right fun listed => and_congr_left fun _ => (tailPromoted stub).symm)

include above

theorem promoted_head (entry : Entry) (found : lookup head.1 = some entry) (dated : hotshotHeight entry = head.2) :
    Promoted lookup (head :: tail) head := by
  refine ⟨⟨entry, found⟩, fun other listed low e hit => ?_⟩
  cases List.mem_cons.mp listed with
  | inl same =>
      subst same
      obtain rfl := Option.some.inj (found.symm.trans hit)
      exact dated
  | inr inTail => exact absurd (above other inTail) (not_lt.mpr low)

theorem found_outcome_promoted (st after : Streamer Entry FeedMessage) (entry : Entry) (found : lookup head.1 = some entry)
    (dated : hotshotHeight entry = head.2) (number : sequenceNumber entry = head.1)
    (later : FoundOutcome lookup tail (promoteEntry st entry) after) : FoundOutcome lookup (head :: tail) st after := by
  have headPromoted := promoted_head lookup head tail above entry found dated
  have tailPromoted := promoted_tail lookup head tail fun e hit => Option.some.inj (found.symm.trans hit) ▸ dated
  refine ⟨fun e => ?_, fun seq height => ?_⟩
  · rw [later.queue, promoteEntry, mem_insert_entry]
    constructor
    · rintro ((rfl | old) | ⟨stub, listed, promoted, hit⟩)
      · exact .inr ⟨head, by simp, headPromoted, found⟩
      · exact .inl old
      · exact .inr ⟨stub, by simp [listed], (tailPromoted stub).mpr promoted, hit⟩
    · rintro (old | ⟨stub, listed, promoted, hit⟩)
      · exact .inl (.inr old)
      · cases List.mem_cons.mp listed with
        | inl same =>
            subst same
            exact .inl (.inl (Option.some.inj (hit.symm.trans found)))
        | inr inTail => exact .inr ⟨stub, inTail, (tailPromoted stub).mp promoted, hit⟩
  · rw [later.stubs, promoteEntry, number]
    simp only [ExtTreeMap.getElem?_erase, Std.LawfulEqCmp.compare_eq_iff_eq]
    by_cases erased : head.1 = seq
    · have gone : ∃ stub ∈ head :: tail, Promoted lookup (head :: tail) stub ∧ stub.1 = seq := ⟨head, by simp, headPromoted, erased⟩
      simp only [if_pos erased, reduceCtorEq, false_and, gone, not_true_eq_false, and_false]
    · rw [if_neg erased]
      refine and_congr_right fun _ => not_congr ?_
      simp only [List.exists_mem_cons_iff, erased, and_false, false_or]
      exact exists_congr fun stub => and_congr_right fun listed => and_congr_left fun _ => (tailPromoted stub).symm

end Step

theorem promote_loop_promoted (selected : List (UInt64 × UInt64)) (fetched : ExtTreeMap UInt64 Entry)
    (st : Streamer Entry FeedMessage) (ordered : Increasing Prod.fst selected) (origin : FetchedFrom (fun _ => True) fetched) :
    FoundOutcome (fun seq => fetched[seq]?) selected st (promoteLoop selected fetched st) := by
  induction selected generalizing fetched st with
  | nil => exact promotion_outcome_halted _ _ [] st (by simp)
  | cons stub tail ih =>
      obtain ⟨seq, height⟩ := stub
      obtain ⟨above, tailOrdered⟩ := List.pairwise_cons.mp ordered
      have unchanged : ∀ stub ∈ tail, (fetched.erase seq)[stub.1]? = fetched[stub.1]? := by
        intro stub member
        have different : seq ≠ stub.1 := ne_of_lt (above stub member)
        simp only [ExtTreeMap.getElem?_erase, Std.LawfulEqCmp.compare_eq_iff_eq, if_neg different]
      have later := fun state => found_outcome_congr _ (fun seq => fetched[seq]?) tail state _ unchanged
        (ih (fetched.erase seq) state tailOrdered (fetched_from_erase _ fetched seq origin))
      cases lookup : fetched[seq]? with
      | none =>
          simp only [promoteLoop, lookup]
          exact found_outcome_missing _ (seq, height) tail st _ lookup (later st)
      | some entry =>
          by_cases mismatch : hotshotHeight entry ≠ height
          · simp only [promoteLoop, lookup, if_pos mismatch]
            refine promotion_outcome_halted _ _ _ st fun stub member promoted => mismatch ?_
            exact promoted.dated (seq, height) (by simp) (head_least Prod.fst (seq, height) tail ordered stub member) entry lookup
          · simp only [promoteLoop, lookup, if_neg mismatch]
            exact found_outcome_promoted _ (seq, height) tail above st _ entry lookup (not_not.mp mismatch)
              (origin seq entry lookup).1 (later (promoteEntry st entry))

def rereadWindow (rollup : Rollup Transaction Entry FeedMessage) (reader : Reader Transaction) (range : UInt64 × UInt64) : List Entry :=
  match reader range.1 range.2 with
  | none => []
  | some txns => rollup.parseHotshotTransactions txns range.1

theorem fetch_windows_collected (rollup : Rollup Transaction Entry FeedMessage) (reader : Reader Transaction)
    (expected : ExtTreeSet UInt64) (ranges : List (UInt64 × UInt64)) (fetched : ExtTreeMap UInt64 Entry)
    (answers : ∀ range ∈ ranges, reader range.1 range.2 ≠ none) :
    fetchWindows rollup reader expected ranges fetched = some (collect expected fetched (ranges.flatMap (rereadWindow rollup reader))) := by
  induction ranges generalizing fetched with
  | nil => rfl
  | cons range tail ih =>
      obtain ⟨start, stop⟩ := range
      obtain ⟨txns, answer⟩ := Option.ne_none_iff_exists'.mp (answers (start, stop) (by simp))
      simp only [fetchWindows, answer]
      rw [ih _ fun range member => answers range (by simp [member])]
      simp only [List.flatMap_cons, collect, List.foldl_append, rereadWindow, answer]

theorem fetch_windows_refused (rollup : Rollup Transaction Entry FeedMessage) (reader : Reader Transaction)
    (expected : ExtTreeSet UInt64) (ranges : List (UInt64 × UInt64)) (fetched : ExtTreeMap UInt64 Entry) (range : UInt64 × UInt64)
    (member : range ∈ ranges) (refused : reader range.1 range.2 = none) : fetchWindows rollup reader expected ranges fetched = none := by
  induction ranges generalizing fetched with
  | nil => cases member
  | cons first tail ih =>
      obtain ⟨start, stop⟩ := first
      cases answer : reader start stop with
      | none => simp only [fetchWindows, answer]
      | some txns =>
          simp only [fetchWindows, answer]
          cases List.mem_cons.mp member with
          | inl same =>
              subst same
              rw [show reader start stop = none from refused] at answer
              cases answer
          | inr later => exact ih _ later

omit [RollupQueueEntry Entry] in
theorem idle_selection (config : StreamerConfig) (st : Streamer Entry FeedMessage)
    (idle : (decide (config.maxFullQueueEntries - st.queue.length = 0) || st.stubs.isEmpty) = true) : stubsToPromote config st = [] := by
  rw [Bool.or_eq_true, decide_eq_true_eq, ExtTreeMap.isEmpty_iff] at idle
  cases idle with
  | inl full => simp [stubsToPromote, full]
  | inr empty => simp [stubsToPromote, ExtTreeMap.toList_eq_nil_iff.mpr empty]

section Refetch

variable (config : StreamerConfig) (rollup : PositionalRollup Transaction Entry FeedMessage) (chain : Chain Transaction)

def StubHeight (st : Streamer Entry FeedMessage) (height : UInt64) : Prop := ∃ stub ∈ stubsToPromote config st, stub.2 = height

def Refetched (st : Streamer Entry FeedMessage) (height : UInt64) : Prop :=
  ∃ start last, Window (StubHeight config st) start last ∧ start ≤ height ∧ height ≤ last

def Shadowed (st : Streamer Entry FeedMessage) (stub : UInt64 × UInt64) : Prop :=
  ∃ later, stub.2 < later ∧ Refetched config st later ∧ ∃ e ∈ entriesAt rollup chain later, sequenceNumber e = stub.1

def Answered (reader : Reader Transaction) (st : Streamer Entry FeedMessage) : Prop :=
  ∀ start last, Window (StubHeight config st) start last → reader start (last + 1) ≠ none

omit [RollupQueueEntry Entry] in
theorem stub_windows_iff (st : Streamer Entry FeedMessage) (range : UInt64 × UInt64) :
    range ∈ windows (stubHeights (stubsToPromote config st)) ↔
      ∃ start last, Window (StubHeight config st) start last ∧ range = (start, last + 1) := by
  have same : (fun height => height ∈ stubHeights (stubsToPromote config st)) = StubHeight config st :=
    funext fun height => propext (mem_stub_heights _ height)
  rw [windows_iff _ (stub_heights_increasing _) range, same]

omit [RollupQueueEntry Entry] in
theorem answered_iff (reader : Reader Transaction) (st : Streamer Entry FeedMessage) :
    Answered config reader st ↔ ∀ range ∈ windows (stubHeights (stubsToPromote config st)), reader range.1 range.2 ≠ none := by
  simp only [stub_windows_iff]
  constructor
  · intro answered range given
    obtain ⟨start, last, window, rfl⟩ := given
    exact answered start last window
  · intro answered start last window
    exact answered (start, last + 1) ⟨start, last, window, rfl⟩

omit [RollupQueueEntry Entry] in
theorem refetched_iff_spanned (st : Streamer Entry FeedMessage) (height : UInt64) :
    Refetched config st height ↔ height ∈ (windows (stubHeights (stubsToPromote config st))).flatMap spanned := by
  have shaped := (stub_heights_plan (stubsToPromote config st)).shaped
  rw [Refetched, List.mem_flatMap]
  constructor
  · intro given
    obtain ⟨start, last, window, low, high⟩ := given
    have listed := (stub_windows_iff config st (start, last + 1)).mpr ⟨start, last, window, rfl⟩
    refine ⟨(start, last + 1), listed, (mem_spanned _ (shaped _ listed) height).mpr ⟨low, ?_⟩⟩
    rwa [UInt64.add_sub_cancel]
  · intro given
    obtain ⟨range, listed, inside⟩ := given
    have bounds := (mem_spanned range (shaped range listed) height).mp inside
    obtain ⟨start, last, window, rfl⟩ := (stub_windows_iff config st range).mp listed
    rw [UInt64.add_sub_cancel] at bounds
    exact ⟨start, last, window, bounds⟩

end Refetch

def rereadEntry (config : StreamerConfig) (rollup : Rollup Transaction Entry FeedMessage) (reader : Reader Transaction)
    (st : Streamer Entry FeedMessage) (seq : UInt64) : Option Entry :=
  (named seq ((windows (stubHeights (stubsToPromote config st))).flatMap (rereadWindow rollup reader))).getLast?

theorem reread_entry_number (config : StreamerConfig) (rollup : Rollup Transaction Entry FeedMessage) (reader : Reader Transaction)
    (st : Streamer Entry FeedMessage) (seq : UInt64) (e : Entry) (found : rereadEntry config rollup reader st seq = some e) :
    sequenceNumber e = seq := by
  simpa using (List.mem_filter.mp (List.mem_of_getLast? found)).2

theorem promote_stubs_promoted (config : StreamerConfig) (rollup : Rollup Transaction Entry FeedMessage) (reader : Reader Transaction)
    (st : Streamer Entry FeedMessage) (answered : Answered config reader st) :
    FoundOutcome (rereadEntry config rollup reader st) (stubsToPromote config st) st (promoteStubs config rollup reader st) := by
  simp only [promoteStubs]
  by_cases idle : (decide (config.maxFullQueueEntries - st.queue.length = 0) || st.stubs.isEmpty) = true
  · rw [if_pos idle, idle_selection config st idle]
    exact promotion_outcome_halted _ _ [] st (by simp)
  · rw [if_neg idle, fetch_windows_collected rollup reader _ _ ∅ ((answered_iff config reader st).mp answered)]
    refine found_outcome_congr _ _ (stubsToPromote config st) st _ ?_ (promote_loop_promoted _ _ st
      (stubs_to_promote_ordered config st) (collect_fetched_from _ _ ∅ _ (fun _ _ => trivial) (by intro seq e found; simp at found)))
    intro stub selected
    rw [collect_lookup _ ∅ _ stub.1, ExtTreeMap.getElem?_empty, Option.or_none]
    · rfl
    · rw [ExtTreeSet.contains_ofList, List.contains_iff_mem]
      exact List.mem_map.mpr ⟨stub, selected, rfl⟩

section OneChain

variable (config : StreamerConfig) (rollup : PositionalRollup Transaction Entry FeedMessage) (chain : Chain Transaction)

def lastInBlock (stub : UInt64 × UInt64) : Option Entry := (named stub.1 (entriesAt rollup chain stub.2)).getLast?

def refetchedEntry (st : Streamer Entry FeedMessage) (stub : UInt64 × UInt64) : Option Entry :=
  (named stub.1 (((windows (stubHeights (stubsToPromote config st))).flatMap spanned).flatMap (entriesAt rollup chain))).getLast?

theorem last_in_block_number (stub : UInt64 × UInt64) (e : Entry) (last : lastInBlock rollup chain stub = some e) :
    sequenceNumber e = stub.1 := by
  simpa using (List.mem_filter.mp (List.mem_of_getLast? last)).2

section Selected

variable (st : Streamer Entry FeedMessage) (sound : ChainInv config rollup chain st) (stub : UInt64 × UInt64)
  (selected : stub ∈ stubsToPromote config st)

include selected

omit [RollupQueueEntry Entry] in
theorem selected_spanned : stub.2 ∈ (windows (stubHeights (stubsToPromote config st))).flatMap spanned := by
  apply (stub_heights_plan (stubsToPromote config st)).cover
  exact (mem_stub_heights _ stub.2).mpr ⟨stub, selected, rfl⟩

theorem shadowed_refetch (shadowed : Shadowed config rollup chain st stub) :
    ∃ e, refetchedEntry config rollup chain st stub = some e ∧ stub.2 < hotshotHeight e := by
  obtain ⟨later, above, refetched, occurs⟩ := shadowed
  obtain ⟨shadow, e, higher, inside, last⟩ := last_named_shadowed (entriesAt rollup chain) stub.1 _ (stub_heights_plan _).increasing
    stub.2 (selected_spanned config st stub selected) later ((refetched_iff_spanned config st later).mp refetched) above
    ((named_ne_nil _ _).mpr occurs)
  exact ⟨e, last, by rwa [entries_at_height rollup chain shadow e inside]⟩

include sound

theorem selected_occurs : named stub.1 (entriesAt rollup chain stub.2) ≠ [] :=
  (named_ne_nil _ _).mpr (sound.origin.stubbed stub.1 stub.2 (stubs_to_promote_present config st stub selected))

theorem unshadowed_refetch (alone : ¬ Shadowed config rollup chain st stub) :
    refetchedEntry config rollup chain st stub = lastInBlock rollup chain stub := by
  refine last_named_unshadowed (entriesAt rollup chain) stub.1 _ (stub_heights_plan _).increasing stub.2
    (selected_spanned config st stub selected) (selected_occurs config rollup chain st sound stub selected) ?_
  intro later listed above
  by_contra occurs
  exact alone ⟨later, above, (refetched_iff_spanned config st later).mpr listed, (named_ne_nil _ _).mp occurs⟩

theorem last_in_block_exists : ∃ e, lastInBlock rollup chain stub = some e ∧ hotshotHeight e = stub.2 := by
  obtain ⟨e, last⟩ := Option.ne_none_iff_exists'.mp
    (mt List.getLast?_eq_none_iff.mp (selected_occurs config rollup chain st sound stub selected))
  refine ⟨e, last, entries_at_height rollup chain stub.2 e ?_⟩
  exact (List.mem_filter.mp (List.mem_of_getLast? last)).1

end Selected

theorem reread_from_chain (reader : Reader Transaction) (reads : ReadsChain chain reader) (st : Streamer Entry FeedMessage)
    (answered : Answered config reader st) (stub : UInt64 × UInt64) :
    rereadEntry config rollup.toRollup reader st stub.1 = refetchedEntry config rollup chain st stub := by
  rw [rereadEntry, refetchedEntry, List.flatMap_assoc]
  congr 2
  refine List.flatMap_congr fun range listed => ?_
  obtain ⟨txns, answer⟩ := Option.ne_none_iff_exists'.mp ((answered_iff config reader st).mp answered range listed)
  simp only [rereadWindow, answer]
  rw [reads range.1 range.2 txns answer]
  exact parse_blocks_from rollup chain range.1 _

def Unshadowed (st : Streamer Entry FeedMessage) (stub : UInt64 × UInt64) : Prop :=
  ∀ other ∈ stubsToPromote config st, other.1 ≤ stub.1 → ¬ Shadowed config rollup chain st other

theorem promote_stubs_outcome (reader : Reader Transaction) (reads : ReadsChain chain reader) (st : Streamer Entry FeedMessage)
    (sound : ChainInv config rollup chain st) (answered : Answered config reader st) :
    PromotionOutcome (Unshadowed config rollup chain st) (lastInBlock rollup chain) (stubsToPromote config st) st
      (promoteStubs config rollup.toRollup reader st) := by
  have reread := reread_from_chain config rollup chain reader reads st answered
  refine promotion_outcome_congr _ _ _ _ _ st _ (fun stub selected => ?_) (fun stub selected alone => ?_)
    (promote_stubs_promoted config rollup.toRollup reader st answered)
  · constructor
    · intro promoted other listed low shadowed
      obtain ⟨e, found, above⟩ := shadowed_refetch config rollup chain st other listed shadowed
      exact ne_of_lt above (promoted.dated other listed low e ((reread other).trans found)).symm
    · intro alone
      have last : ∀ other ∈ stubsToPromote config st, other.1 ≤ stub.1 →
          ∃ e, rereadEntry config rollup.toRollup reader st other.1 = some e ∧ hotshotHeight e = other.2 := by
        intro other listed low
        rw [reread other, unshadowed_refetch config rollup chain st sound other listed (alone other listed low)]
        exact last_in_block_exists config rollup chain st sound other listed
      obtain ⟨e, found, -⟩ := last stub selected (le_refl _)
      refine ⟨⟨e, found⟩, fun other listed low entry lookup => ?_⟩
      obtain ⟨same, hit, dated⟩ := last other listed low
      exact Option.some.inj (hit.symm.trans lookup) ▸ dated
  · exact (reread stub).trans (unshadowed_refetch config rollup chain st sound stub selected (alone stub selected (le_refl _)))

end OneChain

theorem promote_stubs_refused (config : StreamerConfig) (rollup : Rollup Transaction Entry FeedMessage) (reader : Reader Transaction)
    (st : Streamer Entry FeedMessage) (refused : ¬ Answered config reader st) : promoteStubs config rollup reader st = st := by
  rw [answered_iff] at refused
  obtain ⟨range, refusal⟩ := not_forall.mp refused
  obtain ⟨needed, missing⟩ := Classical.not_imp.mp refusal
  simp only [promoteStubs]
  split
  · rfl
  · rw [fetch_windows_refused rollup reader _ _ ∅ range needed (not_not.mp missing)]

structure PromotesLowest (config : StreamerConfig) (st after : Streamer Entry FeedMessage) : Prop where
  moved : ∀ seq height, (∃ e ∈ after.queue, sequenceNumber e = seq ∧ hotshotHeight e = height) ↔
    (∃ e ∈ st.queue, sequenceNumber e = seq ∧ hotshotHeight e = height) ∨ (seq, height) ∈ stubsToPromote config st
  left : ∀ seq height, after.stubs[seq]? = some height ↔ st.stubs[seq]? = some height ∧ (seq, height) ∉ stubsToPromote config st

section Complete

variable (config : StreamerConfig) (rollup : PositionalRollup Transaction Entry FeedMessage) (chain : Chain Transaction)
  (st after : Streamer Entry FeedMessage)

theorem shadowed_stub_left (stub : UInt64 × UInt64) (selected : stub ∈ stubsToPromote config st)
    (shadowed : Shadowed config rollup chain st stub)
    (outcome : PromotionOutcome (Unshadowed config rollup chain st) (lastInBlock rollup chain) (stubsToPromote config st) st after) :
    after.stubs[stub.1]? = some stub.2 := by
  refine (outcome.stubs stub.1 stub.2).mpr ⟨stubs_to_promote_present config st stub selected, ?_⟩
  intro given
  obtain ⟨other, -, free, same⟩ := given
  exact free stub selected (le_of_eq same.symm) shadowed

theorem unshadowed_stubs_moved (sound : ChainInv config rollup chain st)
    (alone : ∀ stub ∈ stubsToPromote config st, ¬ Shadowed config rollup chain st stub)
    (outcome : PromotionOutcome (Unshadowed config rollup chain st) (lastInBlock rollup chain) (stubsToPromote config st) st after) :
    PromotesLowest config st after := by
  have free : ∀ stub, Unshadowed config rollup chain st stub := fun _ other listed _ => alone other listed
  refine ⟨fun seq height => ?_, fun seq height => ?_⟩
  · simp only [outcome.queue, free, true_and, or_and_right, exists_or]
    refine or_congr_right ⟨?_, fun selected => ?_⟩
    · intro given
      obtain ⟨e, ⟨stub, selected, last⟩, rfl, rfl⟩ := given
      obtain ⟨other, found, dated⟩ := last_in_block_exists config rollup chain st sound stub selected
      obtain rfl := Option.some.inj (found.symm.trans last)
      rwa [last_in_block_number rollup chain stub other last, dated]
    · obtain ⟨e, last, dated⟩ := last_in_block_exists config rollup chain st sound (seq, height) selected
      exact ⟨e, ⟨(seq, height), selected, last⟩, last_in_block_number rollup chain (seq, height) e last, dated⟩
  · rw [outcome.stubs]
    refine and_congr_right fun here => not_congr ⟨?_, fun selected => ⟨(seq, height), selected, free _, rfl⟩⟩
    intro given
    obtain ⟨⟨number, dated⟩, selected, -, rfl⟩ := given
    have present := stubs_to_promote_present config st (number, dated) selected
    rwa [Option.some.inj (here.symm.trans present)]

end Complete

/-- With every re-fetch answered from one chain, promotion moves exactly the stubs of lowest number that fit, unless one of
them has its number again in a later block among those re-fetched. -/
theorem promotes_lowest_iff (config : StreamerConfig) (rollup : PositionalRollup Transaction Entry FeedMessage)
    (chain : Chain Transaction) (finalizedIdx : UInt64) (events : List (StreamerEvent Transaction))
    (fromChain : ∀ event ∈ events, FromChain chain event) (st : Streamer Entry FeedMessage)
    (reachable : st = runStreamer config rollup.toRollup finalizedIdx events ∨
      ∃ newFinalizedIdx, (runStreamer config rollup.toRollup finalizedIdx events).finalizedIdx < newFinalizedIdx ∧
        st = prune newFinalizedIdx (skipFinalized newFinalizedIdx (runStreamer config rollup.toRollup finalizedIdx events))) :
    PromotesLowest config st (promoteStubs config rollup.toRollup (fun start stop => some (slice chain start stop)) st) ↔
      ∀ stub ∈ stubsToPromote config st, ¬ Shadowed config rollup chain st stub := by
  have run := run_streamer_provenance config rollup chain finalizedIdx events fromChain
  have sound : ChainInv config rollup chain st := by
    cases reachable with
    | inl between => exact between ▸ run
    | inr calling =>
        obtain ⟨newFinalizedIdx, -, rfl⟩ := calling
        exact advanced_chain_invariant config rollup chain newFinalizedIdx _ run
  have outcome := promote_stubs_outcome config rollup chain (fun start stop => some (slice chain start stop))
    (fun _ _ _ answer => (Option.some.inj answer).symm) st sound (fun _ _ _ => Option.some_ne_none _)
  constructor
  · intro complete stub selected shadowed
    have left := shadowed_stub_left config rollup chain st _ stub selected shadowed outcome
    exact ((complete.left stub.1 stub.2).mp left).2 selected
  · intro alone
    exact unshadowed_stubs_moved config rollup chain st _ sound alone outcome

def mockChain (blocks : List (List Nat)) : Chain (List UInt8) := fun height =>
  (blocks.getD height.toNat []).map makeMockEspressoTransaction

-- Two slots, and one delivery of the blocks from height 1 on.
def mockDelivered (blocks : List (List Nat)) (stop : UInt64) : Streamer MockEntry MockEntry :=
  runStreamer ⟨1, 2⟩ mockRollup.toRollup 0 [.hotshotTransactions (slice (mockChain blocks) 1 stop) 1 fun _ => .accepted]

theorem promotes_lowest_single_block :
    PromotesLowest ⟨1, 2⟩ (prune 2 (skipFinalized 2 (mockDelivered [[], [1, 2, 3, 4, 5]] 2)))
      (promoteStubs ⟨1, 2⟩ mockRollup.toRollup (fun start stop => some (slice (mockChain [[], [1, 2, 3, 4, 5]]) start stop))
        (prune 2 (skipFinalized 2 (mockDelivered [[], [1, 2, 3, 4, 5]] 2)))) := by
  have selection : stubsToPromote ⟨1, 2⟩ (prune 2 (skipFinalized 2 (mockDelivered [[], [1, 2, 3, 4, 5]] 2))) = [(3, 1), (4, 1)] := by
    decide +kernel
  have dated : ∀ stub ∈ [((3 : UInt64), (1 : UInt64)), (4, 1)], stub.2 = 1 := by simp
  apply (promotes_lowest_iff ⟨1, 2⟩ mockRollup _ 0 _ ?_ (prune 2 (skipFinalized 2 (mockDelivered [[], [1, 2, 3, 4, 5]] 2)))
    (.inr ⟨2, ?_, rfl⟩)).mpr
  · intro stub selected given
    obtain ⟨later, above, ⟨start, last, window, -, high⟩, -⟩ := given
    obtain ⟨other, otherSelected, closing⟩ := window.closes.member
    rw [selection] at selected otherSelected
    rw [dated stub selected] at above
    rw [← closing, dated other otherSelected] at high
    exact absurd above (not_lt.mpr high)
  · simp only [List.mem_singleton, forall_eq]
    rfl
  · decide +kernel

-- Message 3 is submitted twice and lands in blocks 1 and 2. Both slots are free
-- after the finalization of 1 and 2, and both stay empty.
theorem resubmission_blocks_promotion :
    stubsToPromote ⟨1, 2⟩ (prune 2 (skipFinalized 2 (mockDelivered [[], [1, 2, 3], [3, 4]] 3))) = [(3, 1), (4, 2)] ∧
      (promoteStubs ⟨1, 2⟩ mockRollup.toRollup (fun start stop => some (slice (mockChain [[], [1, 2, 3], [3, 4]]) start stop))
        (prune 2 (skipFinalized 2 (mockDelivered [[], [1, 2, 3], [3, 4]] 3)))).queue = [] := by
  decide +kernel

end Cas
