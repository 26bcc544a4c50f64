import Cas.MockRollup
import Cas.Streamer.Model

set_option autoImplicit false

namespace Cas

open SortedSlice

variable {Entry : Type} [RollupQueueEntry Entry]

-- `find_contiguous_entries_after` with every `u64` addition checked; `none` is an overflow.
def contiguousChecked (lastPos idx : UInt64) : List Entry → Option (List Entry)
  | [] => some []
  | entry :: tail => do
      let reached ← Word64.checkedAdd lastPos idx
      let expected ← Word64.checkedAdd reached 1
      if sequenceNumber entry = expected then do
        let nextIdx ← Word64.checkedAdd idx 1
        let rest ← contiguousChecked lastPos nextIdx tail
        return entry :: rest
      else return []

def findContiguousChecked (queue : List Entry) (lastPos : UInt64) : Option (List Entry) :=
  contiguousChecked lastPos 0 (queue.drop (partitionPoint (fun e => sequenceNumber e ≤ lastPos) queue))

structure Scanning (lastPos idx : UInt64) (slice : List Entry) : Prop where
  sorted : Increasing sequenceNumber slice
  above : ∀ entry ∈ slice, lastPos.toNat + idx.toNat < (sequenceNumber entry).toNat

section Scan

variable (lastPos idx : UInt64) (entry : Entry) (tail : List Entry) (scanning : Scanning lastPos idx (entry :: tail))

include scanning

theorem scanning_sum : (lastPos + idx).toNat = lastPos.toNat + idx.toNat ∧ (lastPos + idx + 1).toNat = lastPos.toNat + idx.toNat + 1 ∧
    (idx + 1).toNat = idx.toNat + 1 := by
  have bound := scanning.above entry (by simp)
  have top := UInt64.toNat_lt (sequenceNumber entry)
  have sum : (lastPos + idx).toNat = lastPos.toNat + idx.toNat := Word64.toNat_add_of_fits _ _ (by omega)
  have less : lastPos + idx < sequenceNumber entry := by rwa [UInt64.lt_iff_toNat_lt, sum]
  have low : idx < sequenceNumber entry := by
    rw [UInt64.lt_iff_toNat_lt]
    omega
  exact ⟨sum, (Word64.toNat_succ _ _ less).trans (by rw [sum]), Word64.toNat_succ _ _ low⟩

theorem scanning_next (next : sequenceNumber entry = lastPos + idx + 1) : Scanning lastPos (idx + 1) tail := by
  obtain ⟨below, rest⟩ := List.pairwise_cons.mp scanning.sorted
  obtain ⟨-, step, idxStep⟩ := scanning_sum lastPos idx entry tail scanning
  refine ⟨rest, fun later member => ?_⟩
  have less := UInt64.lt_iff_toNat_lt.mp (below later member)
  rw [next] at less
  omega

theorem scanning_gap (gap : sequenceNumber entry ≠ lastPos + idx + 1) :
    ∀ later ∈ entry :: tail, lastPos.toNat + idx.toNat + 1 < (sequenceNumber later).toNat := by
  obtain ⟨below, -⟩ := List.pairwise_cons.mp scanning.sorted
  obtain ⟨-, step, -⟩ := scanning_sum lastPos idx entry tail scanning
  have bound := scanning.above entry (by simp)
  have here : lastPos.toNat + idx.toNat + 1 < (sequenceNumber entry).toNat := by
    have different : (sequenceNumber entry).toNat ≠ (lastPos + idx + 1).toNat := fun same => gap (UInt64.toNat_inj.mp same)
    omega
  intro later member
  cases List.mem_cons.mp member with
  | inl same => rwa [same]
  | inr inTail =>
      have less := UInt64.lt_iff_toNat_lt.mp (below later inTail)
      omega

end Scan

theorem contiguous_from_subset (lastPos idx : UInt64) (slice : List Entry) (entry : Entry)
    (member : entry ∈ contiguousFrom lastPos idx slice) : entry ∈ slice := by
  induction slice generalizing idx with
  | nil => exact member
  | cons head tail ih =>
      by_cases next : sequenceNumber head = lastPos + idx + 1
      · rw [contiguousFrom, if_pos next] at member
        cases List.mem_cons.mp member with
        | inl atHead => simp [atHead]
        | inr later => simp [ih (idx + 1) later]
      · rw [contiguousFrom, if_neg next] at member
        cases member

theorem find_contiguous_subset (queue : List Entry) (lastPos : UInt64) (entry : Entry)
    (member : entry ∈ findContiguousEntriesAfter queue lastPos) : entry ∈ queue :=
  List.mem_of_mem_drop (contiguous_from_subset lastPos 0 _ entry member)

theorem contiguous_checked_some (lastPos idx : UInt64) (slice : List Entry) (scanning : Scanning lastPos idx slice) :
    contiguousChecked lastPos idx slice = some (contiguousFrom lastPos idx slice) := by
  induction slice generalizing idx with
  | nil => rfl
  | cons entry tail ih =>
      obtain ⟨sum, step, idxStep⟩ := scanning_sum lastPos idx entry tail scanning
      have one : (1 : UInt64).toNat = 1 := rfl
      have top := UInt64.toNat_lt (lastPos + idx + 1)
      have idxTop := UInt64.toNat_lt (idx + 1)
      have reached := Word64.checked_add_of_fits lastPos idx (by omega)
      have expected := Word64.checked_add_of_fits (lastPos + idx) 1 (by omega)
      have nextIdx := Word64.checked_add_of_fits idx 1 (by omega)
      simp only [contiguousChecked, contiguousFrom, reached, expected, nextIdx, Option.bind_eq_bind, Option.bind_some]
      by_cases next : sequenceNumber entry = lastPos + idx + 1
      · rw [if_pos next, if_pos next, ih (idx + 1) (scanning_next lastPos idx entry tail scanning next)]
        rfl
      · rw [if_neg next, if_neg next]
        rfl

structure Run (lastPos idx : UInt64) (slice : List Entry) (count : Nat) : Prop where
  taken : contiguousFrom lastPos idx slice = slice.take count
  numbers : (slice.take count).map (fun e => (sequenceNumber e).toNat) = List.range' (lastPos.toNat + idx.toNat + 1) count
  beyond : ∀ later ∈ slice.drop count, lastPos.toNat + idx.toNat + count + 1 < (sequenceNumber later).toNat

theorem contiguous_from_run (lastPos idx : UInt64) (slice : List Entry) (scanning : Scanning lastPos idx slice) :
    ∃ count, Run lastPos idx slice count := by
  induction slice generalizing idx with
  | nil => exact ⟨0, rfl, rfl, by simp⟩
  | cons entry tail ih =>
      obtain ⟨-, step, idxStep⟩ := scanning_sum lastPos idx entry tail scanning
      by_cases next : sequenceNumber entry = lastPos + idx + 1
      · obtain ⟨count, run⟩ := ih (idx + 1) (scanning_next lastPos idx entry tail scanning next)
        refine ⟨count + 1, ?_, ?_, ?_⟩
        · rw [contiguousFrom, if_pos next, run.taken, List.take_succ_cons]
        · rw [List.take_succ_cons, List.map_cons, run.numbers, List.range'_succ, next, step, idxStep, Nat.add_assoc lastPos.toNat]
        · intro later member
          have bound := run.beyond later member
          omega
      · refine ⟨0, ?_, rfl, scanning_gap lastPos idx entry tail scanning next⟩
        rw [contiguousFrom, if_neg next, List.take_zero]

section Taken

variable (lastPos idx : UInt64) (slice : List Entry) (count : Nat) (run : Run lastPos idx slice count)

include run

theorem run_taken_number (e : Entry) (member : e ∈ slice.take count) :
    lastPos.toNat + idx.toNat < (sequenceNumber e).toNat ∧ (sequenceNumber e).toNat ≤ lastPos.toNat + idx.toNat + count := by
  have listed := List.mem_map_of_mem (f := fun e => (sequenceNumber e).toNat) member
  rw [run.numbers, List.mem_range'_1] at listed
  omega

theorem run_filter : slice.filter (fun e => (sequenceNumber e).toNat ≤ lastPos.toNat + idx.toNat + count) = slice.take count := by
  have kept : (slice.take count).filter (fun e => (sequenceNumber e).toNat ≤ lastPos.toNat + idx.toNat + count) = slice.take count :=
    List.filter_eq_self.mpr fun e member => decide_eq_true (run_taken_number lastPos idx slice count run e member).2
  have dropped : (slice.drop count).filter (fun e => (sequenceNumber e).toNat ≤ lastPos.toNat + idx.toNat + count) = [] := by
    rw [List.filter_eq_nil_iff]
    intro e member low
    have bound := run.beyond e member
    have high := of_decide_eq_true low
    omega
  have split := congrArg (List.filter fun e => (sequenceNumber e).toNat ≤ lastPos.toNat + idx.toNat + count)
    (List.take_append_drop count slice)
  rw [← split, List.filter_append, kept, dropped, List.append_nil]

theorem run_greatest : IsGreatest {k | ∀ offset < k, ∃ e ∈ slice, (sequenceNumber e).toNat = lastPos.toNat + idx.toNat + 1 + offset} count := by
  constructor
  · intro offset within
    have listed : lastPos.toNat + idx.toNat + 1 + offset ∈ (slice.take count).map fun e => (sequenceNumber e).toNat := by
      rw [run.numbers, List.mem_range'_1]
      omega
    obtain ⟨e, member, number⟩ := List.mem_map.mp listed
    exact ⟨e, List.mem_of_mem_take member, number⟩
  · intro k present
    by_contra more
    obtain ⟨e, member, number⟩ := present count (not_le.mp more)
    rw [← List.take_append_drop count slice] at member
    cases List.mem_append.mp member with
    | inl taken =>
        have bound := run_taken_number lastPos idx slice count run e taken
        omega
    | inr later =>
        have bound := run.beyond e later
        omega

end Taken

theorem scanning_after (queue : List Entry) (lastPos : UInt64) (sorted : Increasing sequenceNumber queue) :
    Scanning lastPos 0 (queue.filter fun e => !decide (sequenceNumber e ≤ lastPos)) := by
  refine ⟨sorted.filter _, fun entry member => ?_⟩
  have high : lastPos < sequenceNumber entry := not_le.mp (by simpa using (List.mem_filter.mp member).2)
  exact UInt64.lt_iff_toNat_lt.mp high

/-- The scan returns exactly the entries with the numbers after `last_pos` up to the first one missing, and adds without overflow. -/
theorem contiguous_entries_exact (queue : List Entry) (lastPos : UInt64) (sorted : Increasing sequenceNumber queue) :
    findContiguousChecked queue lastPos = some (findContiguousEntriesAfter queue lastPos) ∧
      ∃ count, IsGreatest {k | ∀ offset < k, ∃ e ∈ queue, (sequenceNumber e).toNat = lastPos.toNat + 1 + offset} count ∧
        (findContiguousEntriesAfter queue lastPos).map (fun e => (sequenceNumber e).toNat) = List.range' (lastPos.toNat + 1) count ∧
        findContiguousEntriesAfter queue lastPos =
          queue.filter fun e => lastPos.toNat < (sequenceNumber e).toNat ∧ (sequenceNumber e).toNat ≤ lastPos.toNat + count := by
  have suffix := drop_partition_point sequenceNumber _ queue (at_most_downward sequenceNumber lastPos) sorted
  have scanning := scanning_after queue lastPos sorted
  obtain ⟨count, run⟩ := contiguous_from_run lastPos 0 _ scanning
  have above : ∀ e : Entry, (!decide (sequenceNumber e ≤ lastPos)) = decide (lastPos.toNat < (sequenceNumber e).toNat) := by
    intro e
    rw [← decide_not, decide_eq_decide, not_le, UInt64.lt_iff_toNat_lt]
  rw [findContiguousChecked, findContiguousEntriesAfter, suffix]
  refine ⟨contiguous_checked_some lastPos 0 _ scanning, count, ?_, ?_, ?_⟩
  · have greatest := run_greatest lastPos 0 _ count run
    have same : ∀ offset, (∃ e ∈ queue.filter (fun e => !decide (sequenceNumber e ≤ lastPos)),
        (sequenceNumber e).toNat = lastPos.toNat + (0 : UInt64).toNat + 1 + offset) ↔
        ∃ e ∈ queue, (sequenceNumber e).toNat = lastPos.toNat + 1 + offset := by
      intro offset
      refine exists_congr fun e => ?_
      rw [List.mem_filter, above, decide_eq_true_eq, UInt64.toNat_zero, Nat.add_zero]
      constructor
      · exact fun given => ⟨given.1.1, given.2⟩
      · exact fun given => ⟨⟨given.1, by omega⟩, given.2⟩
    simpa only [same] using greatest
  · rw [run.taken, run.numbers]
    rfl
  · rw [run.taken, ← run_filter lastPos 0 _ count run, List.filter_filter]
    refine List.filter_congr fun e _ => ?_
    rw [above, UInt64.toNat_zero, Nat.add_zero, Bool.and_comm, Bool.decide_and]

-- Up to the last number there is.
theorem contiguous_to_the_end :
    findContiguousChecked [MockEntry.mk 0xfffffffffffffffc 7, ⟨0xfffffffffffffffe, 8⟩, ⟨0xffffffffffffffff, 8⟩] 0xfffffffffffffffd =
      some [⟨0xfffffffffffffffe, 8⟩, ⟨0xffffffffffffffff, 8⟩] := by
  have sorted : Increasing sequenceNumber [MockEntry.mk 0xfffffffffffffffc 7, ⟨0xfffffffffffffffe, 8⟩, ⟨0xffffffffffffffff, 8⟩] := by
    simp [Increasing, sequenceNumber]
  rw [(contiguous_entries_exact _ 0xfffffffffffffffd sorted).1]
  decide +kernel

end Cas
