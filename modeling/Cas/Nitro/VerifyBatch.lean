import Cas.Lib.SortedSlice
import Cas.Nitro.Types

set_option autoImplicit false

namespace Cas

open SortedSlice

-- The running delayed count after one message; `none` is a failed comparison.
-- The release build wraps on overflow, as this addition does.
def expectAfter (msg : BatchMessage) (entry : NitroRollupQueueEntry) (expected : UInt64) : Option UInt64 :=
  match msg with
  | .l2Msg content =>
      match entry.feedMessage.message.message with
      | none => none
      | some incoming => if content ≠ incoming.l2msg then none else some expected
  | .delayedMsg => some (expected + 1)

def checkMessages : List BatchMessage → List NitroRollupQueueEntry → UInt64 → Option UInt64
  | [], _, expected => some expected
  | _ :: _, [], _ => none
  | msg :: batch, entry :: queue, expected =>
      match expectAfter msg entry expected with
      | none => none
      | some expected =>
          if entry.feedMessage.message.delayedMessagesRead ≠ expected then none else checkMessages batch queue expected

def minHeight (entries : List NitroRollupQueueEntry) : UInt64 := (entries.map hotshotHeight).min?.getD 0

def verifyBatchMessages (batch : List BatchMessage) (streamerQueue : List NitroRollupQueueEntry) (context : BatchCursor) :
    VerificationResult :=
  match binarySearchByKey sequenceNumber context.nextBatchStartPos streamerQueue with
  | none => .failure
  | some pos =>
      let queue := streamerQueue.drop pos
      if batch.length > queue.length then .failure
      else
        match checkMessages batch queue context.lastBatchDelayedMessagesRead with
        | none => .failure
        | some expected =>
            if batch.isEmpty then .failure
            else
              { success := true
                startMessagePosition := context.nextBatchStartPos
                endMessagePosition := context.nextBatchStartPos + UInt64.ofNat batch.length - 1
                startEspressoBlock := minHeight (queue.take batch.length)
                afterDelayedMessagesRead := expected
                minEspressoBlockStillInQueue := minHeight (queue.drop batch.length) }

def delayedCount (batch : List BatchMessage) : Nat := batch.countP (· = .delayedMsg)

def CarriesContent (msg : BatchMessage) (entry : NitroRollupQueueEntry) : Prop :=
  ∀ content, msg = .l2Msg content → ∃ incoming, entry.feedMessage.message.message = some incoming ∧ incoming.l2msg = content

-- Each message agrees with the entry at its index, and the delayed count of
-- that entry covers exactly the delayed messages up to there.
def MessagesMatch (batch : List BatchMessage) (queue : List NitroRollupQueueEntry) (start : UInt64) : Prop :=
  ∀ i msg entry, batch[i]? = some msg → queue[i]? = some entry →
    entry.feedMessage.message.delayedMessagesRead = start + UInt64.ofNat (delayedCount (batch.take (i + 1))) ∧ CarriesContent msg entry

structure MatchesAt (batch : List BatchMessage) (streamerQueue : List NitroRollupQueueEntry) (context : BatchCursor) (pos : Nat) : Prop where
  nonempty : batch ≠ []
  located : ∃ entry, streamerQueue[pos]? = some entry ∧ sequenceNumber entry = context.nextBatchStartPos
  enough : pos + batch.length ≤ streamerQueue.length
  agree : MessagesMatch batch (streamerQueue.drop pos) context.lastBatchDelayedMessagesRead

theorem delayed_count_cons (msg : BatchMessage) (batch : List BatchMessage) (start : UInt64) :
    start + UInt64.ofNat (delayedCount [msg]) + UInt64.ofNat (delayedCount batch) =
      start + UInt64.ofNat (delayedCount (msg :: batch)) := by
  rw [UInt64.add_assoc, ← UInt64.ofNat_add]
  simp only [delayedCount, ← List.countP_append, List.singleton_append]

theorem messages_match_cons (msg : BatchMessage) (batch : List BatchMessage) (entry : NitroRollupQueueEntry)
    (queue : List NitroRollupQueueEntry) (start : UInt64) :
    MessagesMatch (msg :: batch) (entry :: queue) start ↔
      (entry.feedMessage.message.delayedMessagesRead = start + UInt64.ofNat (delayedCount [msg]) ∧ CarriesContent msg entry) ∧
        MessagesMatch batch queue (start + UInt64.ofNat (delayedCount [msg])) := by
  constructor
  · intro same
    refine ⟨same 0 msg entry rfl rfl, fun i later found atBatch atQueue => ?_⟩
    rw [delayed_count_cons]
    exact same (i + 1) later found atBatch atQueue
  · intro both i later found atBatch atQueue
    cases i with
    | zero =>
        obtain rfl := Option.some.inj atBatch
        obtain rfl := Option.some.inj atQueue
        exact both.1
    | succ n =>
        have tail := both.2 n later found atBatch atQueue
        rwa [delayed_count_cons] at tail

theorem expect_after_iff (msg : BatchMessage) (entry : NitroRollupQueueEntry) (expected next : UInt64) :
    expectAfter msg entry expected = some next ↔
      CarriesContent msg entry ∧ next = expected + UInt64.ofNat (delayedCount [msg]) := by
  cases msg with
  | delayedMsg =>
      have one : delayedCount [.delayedMsg] = 1 := rfl
      simp [expectAfter, CarriesContent, one, eq_comm]
  | l2Msg content =>
      have zero : delayedCount [.l2Msg content] = 0 := rfl
      cases held : entry.feedMessage.message.message with
      | none => simp [expectAfter, held, CarriesContent]
      | some incoming =>
          by_cases same : content = incoming.l2msg
          · subst content
            simp [expectAfter, held, CarriesContent, zero, eq_comm]
          · simp [expectAfter, held, same, Ne.symm same, CarriesContent]

theorem check_messages_iff (batch : List BatchMessage) (queue : List NitroRollupQueueEntry) (start final : UInt64)
    (enough : batch.length ≤ queue.length) :
    checkMessages batch queue start = some final ↔
      MessagesMatch batch queue start ∧ final = start + UInt64.ofNat (delayedCount batch) := by
  induction batch generalizing queue start with
  | nil => simp [checkMessages, MessagesMatch, delayedCount, eq_comm]
  | cons msg batch ih =>
      cases queue with
      | nil => simp at enough
      | cons entry queue =>
          have rest : batch.length ≤ queue.length := by simpa using enough
          have expect := expect_after_iff msg entry start
          rw [messages_match_cons, ← delayed_count_cons msg batch]
          cases answer : expectAfter msg entry start with
          | none =>
              have uncarried : ¬ CarriesContent msg entry := by
                intro carried
                have some := (expect _).mpr ⟨carried, rfl⟩
                rw [answer] at some
                cases some
              simp [checkMessages, answer, uncarried]
          | some next =>
              obtain ⟨carried, rfl⟩ := (expect next).mp answer
              simp only [checkMessages, answer]
              by_cases agrees : entry.feedMessage.message.delayedMessagesRead = start + UInt64.ofNat (delayedCount [msg])
              · rw [if_neg (not_not.mpr agrees), ih queue _ rest]
                simp only [agrees, carried, and_self, true_and]
              · simp [agrees]

inductive VerifyOutcome (batch : List BatchMessage) (streamerQueue : List NitroRollupQueueEntry) (context : BatchCursor) :
    VerificationResult → Prop where
  | refused (unmatched : ∀ pos, ¬ MatchesAt batch streamerQueue context pos) : VerifyOutcome batch streamerQueue context .failure
  | accepted (pos : Nat) (matched : MatchesAt batch streamerQueue context pos) :
      VerifyOutcome batch streamerQueue context
        { success := true
          startMessagePosition := context.nextBatchStartPos
          endMessagePosition := context.nextBatchStartPos + UInt64.ofNat batch.length - 1
          startEspressoBlock := minHeight ((streamerQueue.drop pos).take batch.length)
          afterDelayedMessagesRead := context.lastBatchDelayedMessagesRead + UInt64.ofNat (delayedCount batch)
          minEspressoBlockStillInQueue := minHeight ((streamerQueue.drop pos).drop batch.length) }

theorem verify_batch_outcome (batch : List BatchMessage) (streamerQueue : List NitroRollupQueueEntry) (context : BatchCursor)
    (sorted : Increasing sequenceNumber streamerQueue) :
    VerifyOutcome batch streamerQueue context (verifyBatchMessages batch streamerQueue context) := by
  have search := fun pos => binary_search_iff sequenceNumber context.nextBatchStartPos streamerQueue pos sorted
  cases found : binarySearchByKey sequenceNumber context.nextBatchStartPos streamerQueue with
  | none =>
      simp only [verifyBatchMessages, found]
      refine .refused fun pos matched => ?_
      have hit := (search pos).mpr matched.located
      rw [found] at hit
      cases hit
  | some pos =>
      have located := (search pos).mp found
      have unique : ∀ other, MatchesAt batch streamerQueue context other → other = pos := by
        intro other matched
        have hit := (search other).mpr matched.located
        exact Option.some.inj (hit.symm.trans found)
      have within : pos < streamerQueue.length := by
        obtain ⟨entry, access, -⟩ := located
        exact (List.getElem?_eq_some_iff.mp access).1
      simp only [verifyBatchMessages, found]
      by_cases long : batch.length > (streamerQueue.drop pos).length
      · rw [if_pos long]
        refine .refused fun other matched => ?_
        have enough := matched.enough
        rw [unique other matched] at enough
        rw [List.length_drop] at long
        omega
      · rw [if_neg long]
        have checked := fun final => check_messages_iff batch (streamerQueue.drop pos) context.lastBatchDelayedMessagesRead final
          (Nat.le_of_not_lt long)
        cases answer : checkMessages batch (streamerQueue.drop pos) context.lastBatchDelayedMessagesRead with
        | none =>
            refine .refused fun other matched => ?_
            have agree := matched.agree
            rw [unique other matched] at agree
            have some := (checked _).mpr ⟨agree, rfl⟩
            rw [answer] at some
            cases some
        | some final =>
            obtain ⟨agree, finalEq⟩ := (checked final).mp answer
            cases batch with
            | nil => exact .refused fun other matched => matched.nonempty rfl
            | cons msg rest =>
                simp only [List.isEmpty_cons, Bool.false_eq_true, if_false, finalEq]
                refine .accepted pos ⟨by simp, located, ?_, agree⟩
                rw [List.length_drop] at long
                omega

def RangeHeld (queue : List NitroRollupQueueEntry) (start : UInt64) (count : Nat) : Prop :=
  ∀ k < count, ∃ entry ∈ queue, (sequenceNumber entry).toNat = start.toNat + k

def ComparedInPlace (batch : List BatchMessage) (queue : List NitroRollupQueueEntry) (context : BatchCursor)
    (result : VerificationResult) : Prop :=
  ∀ pos entry, queue[pos]? = some entry → sequenceNumber entry = context.nextBatchStartPos →
    (∀ i < batch.length, ∃ compared, queue[pos + i]? = some compared ∧
      (sequenceNumber compared).toNat = context.nextBatchStartPos.toNat + i) ∧
    ∃ last, queue[pos + (batch.length - 1)]? = some last ∧ result.endMessagePosition = sequenceNumber last

theorem increasing_words (queue : List NitroRollupQueueEntry) (sorted : Increasing sequenceNumber queue) :
    Increasing (fun entry => (sequenceNumber entry).toNat) queue := sorted.imp fun less => UInt64.lt_iff_toNat_lt.mp less

theorem located_suffix (queue : List NitroRollupQueueEntry) (pos : Nat) (entry : NitroRollupQueueEntry)
    (access : queue[pos]? = some entry) : queue.drop pos = entry :: queue.drop (pos + 1) := by
  obtain ⟨within, rfl⟩ := List.getElem?_eq_some_iff.mp access
  exact List.drop_eq_getElem_cons within

theorem range_held_in_place (queue : List NitroRollupQueueEntry) (start : UInt64) (count pos i : Nat) (entry compared : NitroRollupQueueEntry)
    (sorted : Increasing sequenceNumber queue) (access : queue[pos]? = some entry) (first : sequenceNumber entry = start)
    (held : RangeHeld queue start count) (within : i < count) (found : queue[pos + i]? = some compared) :
    (sequenceNumber compared).toNat = start.toNat + i := by
  have suffix := located_suffix queue pos entry access
  have words := increasing_words queue sorted
  have split := words
  rw [← List.take_append_drop pos queue, suffix] at split
  obtain ⟨-, suffixWords, below⟩ := List.pairwise_append.mp split
  rw [← List.getElem?_drop, suffix] at found
  subst start
  refine increasing_dense _ entry compared _ count i suffixWords (fun k bound => ?_) within found
  obtain ⟨a, member, same⟩ := held k bound
  refine ⟨a, ?_, same⟩
  rw [← List.take_append_drop pos queue, suffix] at member
  cases List.mem_append.mp member with
  | inl before =>
      have less : (sequenceNumber a).toNat < (sequenceNumber entry).toNat := below a before entry (by simp)
      omega
  | inr inside => exact inside

theorem last_position (start : UInt64) (count : Nat) (last : UInt64) (positive : 0 < count)
    (same : last.toNat = start.toNat + (count - 1)) : start + UInt64.ofNat count - 1 = last := by
  have bound := UInt64.toNat_lt last
  have split : UInt64.ofNat count = UInt64.ofNat (count - 1) + 1 := by
    rw [← UInt64.ofNat_one, ← UInt64.ofNat_add]
    congr 1
    omega
  rw [split, ← UInt64.add_assoc, UInt64.add_sub_cancel]
  apply UInt64.toNat_inj.mp
  rw [UInt64.toNat_add, UInt64.toNat_ofNat']
  omega

/-- The verifier compares by index. Its answer is about the positions it names exactly when the batch does not match, or
no position of its range is missing from the queue. -/
theorem compared_in_place_iff (batch : List BatchMessage) (queue : List NitroRollupQueueEntry) (context : BatchCursor)
    (sorted : Increasing sequenceNumber queue) (nonempty : batch ≠ []) :
    ((verifyBatchMessages batch queue context).success = true →
        ComparedInPlace batch queue context (verifyBatchMessages batch queue context)) ↔
      ((∃ pos, MatchesAt batch queue context pos) → RangeHeld queue context.nextBatchStartPos batch.length) := by
  have outcome := verify_batch_outcome batch queue context sorted
  have positive : 0 < batch.length := List.length_pos_iff.mpr nonempty
  generalize verifyBatchMessages batch queue context = result at outcome ⊢
  cases outcome with
  | refused unmatched =>
      have never : ¬ ∃ pos, MatchesAt batch queue context pos := fun ⟨pos, matched⟩ => unmatched pos matched
      simp [VerificationResult.failure, never]
  | accepted pos matched =>
      have some : ∃ pos, MatchesAt batch queue context pos := ⟨pos, matched⟩
      simp only [some, true_implies]
      obtain ⟨entry, access, first⟩ := matched.located
      constructor
      · intro inPlace k bound
        obtain ⟨compared, found, same⟩ := (inPlace pos entry access first).1 k bound
        exact ⟨compared, List.mem_of_getElem? found, same⟩
      · intro held other start located atStart
        obtain rfl := located_unique sequenceNumber queue pos other entry start sorted access located (first.trans atStart.symm)
        have compared : ∀ i < batch.length, ∃ compared, queue[pos + i]? = Option.some compared ∧
            (sequenceNumber compared).toNat = context.nextBatchStartPos.toNat + i := by
          intro i bound
          have enough := matched.enough
          have found := List.getElem?_eq_getElem (l := queue) (i := pos + i) (by omega)
          exact ⟨_, found, range_held_in_place queue _ batch.length pos i entry _ sorted access first held bound found⟩
        obtain ⟨last, found, lastEq⟩ := compared (batch.length - 1) (by omega)
        exact ⟨compared, last, found, last_position _ _ _ positive lastEq⟩

def feedEntry (seq delayed height : UInt64) (l2msg : Option Bytes) : NitroRollupQueueEntry :=
  ⟨⟨seq, ⟨l2msg.map fun bytes => ⟨none, bytes, none, none⟩, delayed⟩, [], [], 0, none⟩, height⟩

theorem compared_in_place_contiguous :
    ComparedInPlace [.delayedMsg, .l2Msg [7]] [feedEntry 9 4 1 (some [5]), feedEntry 10 6 2 none, feedEntry 11 6 2 (some [7])] ⟨5, 10⟩
      (verifyBatchMessages [.delayedMsg, .l2Msg [7]] [feedEntry 9 4 1 (some [5]), feedEntry 10 6 2 none, feedEntry 11 6 2 (some [7])] ⟨5, 10⟩) := by
  have held : RangeHeld [feedEntry 9 4 1 (some [5]), feedEntry 10 6 2 none, feedEntry 11 6 2 (some [7])] 10 2 := by
    unfold RangeHeld
    decide
  have sorted : Increasing sequenceNumber [feedEntry 9 4 1 (some [5]), feedEntry 10 6 2 none, feedEntry 11 6 2 (some [7])] := by
    unfold Increasing
    decide
  exact (compared_in_place_iff [.delayedMsg, .l2Msg [7]] _ ⟨5, 10⟩ sorted (by decide)).mpr (fun _ => held) (by decide +kernel)

-- Position 11 is missing, and the batch is certified for 10 to 11 all the same.
theorem gap_certified :
    Increasing sequenceNumber [feedEntry 10 5 1 (some [7]), feedEntry 12 5 2 (some [8])] ∧
      (verifyBatchMessages [.l2Msg [7], .l2Msg [8]] [feedEntry 10 5 1 (some [7]), feedEntry 12 5 2 (some [8])] ⟨5, 10⟩).success = true ∧
      (verifyBatchMessages [.l2Msg [7], .l2Msg [8]] [feedEntry 10 5 1 (some [7]), feedEntry 12 5 2 (some [8])] ⟨5, 10⟩).endMessagePosition = 11 ∧
      ¬ ComparedInPlace [.l2Msg [7], .l2Msg [8]] [feedEntry 10 5 1 (some [7]), feedEntry 12 5 2 (some [8])] ⟨5, 10⟩
        (verifyBatchMessages [.l2Msg [7], .l2Msg [8]] [feedEntry 10 5 1 (some [7]), feedEntry 12 5 2 (some [8])] ⟨5, 10⟩) := by
  refine ⟨by unfold Increasing; decide, by decide +kernel, by decide +kernel, fun inPlace => ?_⟩
  obtain ⟨compared, found, same⟩ := (inPlace 0 (feedEntry 10 5 1 (some [7])) rfl rfl).1 1 (by decide)
  obtain rfl := Option.some.inj found
  exact absurd same (by decide)

def LeastHeight (entries : List NitroRollupQueueEntry) (height : UInt64) : Prop :=
  (∃ entry ∈ entries, hotshotHeight entry = height) ∧ ∀ entry ∈ entries, height ≤ hotshotHeight entry

theorem min_height_least (entries : List NitroRollupQueueEntry) (nonempty : entries ≠ []) : LeastHeight entries (minHeight entries) := by
  have some : ((entries.map hotshotHeight).min?).isSome := by
    rw [List.isSome_min?_iff]
    simpa using nonempty
  obtain ⟨least, least_eq⟩ := Option.isSome_iff_exists.mp some
  obtain ⟨member, lower⟩ := List.min?_eq_some_iff.mp least_eq
  have value : minHeight entries = least := by rw [minHeight, least_eq, Option.getD_some]
  rw [value]
  exact ⟨List.mem_map.mp member, fun entry inside => lower _ (List.mem_map_of_mem inside)⟩

structure AcceptedAt (batch : List BatchMessage) (queue : List NitroRollupQueueEntry) (context : BatchCursor) (pos : Nat) : Prop where
  located : ∃ entry, queue[pos]? = some entry ∧ sequenceNumber entry = context.nextBatchStartPos
  enough : pos + batch.length ≤ queue.length
  agree : ∀ i msg entry, batch[i]? = some msg → queue[pos + i]? = some entry →
    entry.feedMessage.message.delayedMessagesRead.toNat =
      context.lastBatchDelayedMessagesRead.toNat + delayedCount (batch.take (i + 1)) ∧ CarriesContent msg entry

theorem delayed_count_take (batch : List BatchMessage) (n : Nat) : delayedCount (batch.take n) ≤ delayedCount batch :=
  (List.take_sublist n batch).countP_le

theorem delayed_word (start read : UInt64) (count : Nat) (fits : start.toNat + count < 2 ^ 64) :
    read = start + UInt64.ofNat count ↔ read.toNat = start.toNat + count := by
  have value : (start + UInt64.ofNat count).toNat = start.toNat + count := by
    rw [UInt64.toNat_add, UInt64.toNat_ofNat']
    omega
  rw [← UInt64.toNat_inj, value]

theorem matches_at_iff (batch : List BatchMessage) (queue : List NitroRollupQueueEntry) (context : BatchCursor) (pos : Nat)
    (fits : context.lastBatchDelayedMessagesRead.toNat + delayedCount batch < 2 ^ 64) :
    MatchesAt batch queue context pos ↔ batch ≠ [] ∧ AcceptedAt batch queue context pos := by
  have agree : MessagesMatch batch (queue.drop pos) context.lastBatchDelayedMessagesRead ↔
      ∀ i msg entry, batch[i]? = some msg → queue[pos + i]? = some entry →
        entry.feedMessage.message.delayedMessagesRead.toNat =
          context.lastBatchDelayedMessagesRead.toNat + delayedCount (batch.take (i + 1)) ∧ CarriesContent msg entry := by
    unfold MessagesMatch
    simp only [List.getElem?_drop]
    refine forall_congr' fun i => forall_congr' fun msg => forall_congr' fun entry => imp_congr_right fun _ => imp_congr_right fun _ => ?_
    rw [delayed_word]
    have bound := delayed_count_take batch (i + 1)
    omega
  exact ⟨fun matched => ⟨matched.nonempty, matched.located, matched.enough, agree.mp matched.agree⟩,
    fun both => ⟨both.1, both.2.located, both.2.enough, agree.mpr both.2.agree⟩⟩

/-- Exact acceptance of the batch verifier, and what it answers. -/
theorem batch_accepted_iff (batch : List BatchMessage) (queue : List NitroRollupQueueEntry) (context : BatchCursor)
    (sorted : Increasing sequenceNumber queue) (fits : context.lastBatchDelayedMessagesRead.toNat + delayedCount batch < 2 ^ 64) :
    ((verifyBatchMessages batch queue context).success = true ↔ batch ≠ [] ∧ ∃ pos, AcceptedAt batch queue context pos) ∧
    (∀ pos, (verifyBatchMessages batch queue context).success = true → AcceptedAt batch queue context pos →
      (verifyBatchMessages batch queue context).startMessagePosition = context.nextBatchStartPos ∧
      LeastHeight ((queue.drop pos).take batch.length) (verifyBatchMessages batch queue context).startEspressoBlock ∧
      (verifyBatchMessages batch queue context).afterDelayedMessagesRead.toNat =
        context.lastBatchDelayedMessagesRead.toNat + delayedCount batch ∧
      ∃ last, queue[pos + (batch.length - 1)]? = some last ∧
        (verifyBatchMessages batch queue context).afterDelayedMessagesRead = last.feedMessage.message.delayedMessagesRead) ∧
    ((verifyBatchMessages batch queue context).success = false → verifyBatchMessages batch queue context = ⟨false, 0, 0, 0, 0, 0⟩) := by
  have outcome := verify_batch_outcome batch queue context sorted
  generalize verifyBatchMessages batch queue context = result at outcome ⊢
  cases outcome with
  | refused unmatched =>
      have never : ¬ (batch ≠ [] ∧ ∃ pos, AcceptedAt batch queue context pos) :=
        fun ⟨nonempty, pos, accepted⟩ => unmatched pos ((matches_at_iff batch queue context pos fits).mpr ⟨nonempty, accepted⟩)
      refine ⟨⟨fun success => absurd success (by decide), fun both => absurd both never⟩, ?_, fun _ => rfl⟩
      intro pos success
      cases success
  | accepted pos matched =>
      obtain ⟨nonempty, accepted⟩ := (matches_at_iff batch queue context pos fits).mp matched
      refine ⟨⟨fun _ => ⟨nonempty, pos, accepted⟩, fun _ => rfl⟩, ?_, fun failed => by cases failed⟩
      intro other _ otherAccepted
      obtain ⟨entry, access, first⟩ := accepted.located
      obtain ⟨start, located, atStart⟩ := otherAccepted.located
      obtain rfl := located_unique sequenceNumber queue pos other entry start sorted access located (first.trans atStart.symm)
      have positive : 0 < batch.length := List.length_pos_iff.mpr nonempty
      have enough := accepted.enough
      have total := (delayed_word context.lastBatchDelayedMessagesRead _ (delayedCount batch) fits).mp rfl
      refine ⟨rfl, ?_, total, ?_⟩
      · apply min_height_least
        intro empty
        have lengths := congrArg List.length empty
        simp only [List.length_take, List.length_drop, List.length_nil] at lengths
        omega
      · have lastMsg := List.getElem?_eq_getElem (l := batch) (i := batch.length - 1) (by omega)
        have lastEntry := List.getElem?_eq_getElem (l := queue) (i := pos + (batch.length - 1)) (by omega)
        have read := (accepted.agree _ _ _ lastMsg lastEntry).1
        rw [Nat.sub_add_cancel positive, List.take_length] at read
        exact ⟨_, lastEntry, UInt64.toNat_inj.mp (total.trans read.symm)⟩

theorem mixed_batch_accepted :
    (verifyBatchMessages [.delayedMsg, .l2Msg [7], .delayedMsg]
        [feedEntry 0 11 3 none, feedEntry 1 11 2 (some [7]), feedEntry 2 12 4 none] ⟨10, 0⟩).afterDelayedMessagesRead.toNat = 12 := by
  have sorted : Increasing sequenceNumber [feedEntry 0 11 3 none, feedEntry 1 11 2 (some [7]), feedEntry 2 12 4 none] := by
    unfold Increasing
    decide
  have exactly := batch_accepted_iff [.delayedMsg, .l2Msg [7], .delayedMsg] _ ⟨10, 0⟩ sorted (by decide)
  obtain ⟨-, pos, accepted⟩ := exactly.1.mp (by decide +kernel)
  exact (exactly.2.1 pos (by decide +kernel) accepted).2.2.1

end Cas
