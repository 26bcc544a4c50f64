import Mathlib

set_option autoImplicit false

namespace SortedSlice

variable {α K : Type} [LinearOrder K]

def Increasing (key : α → K) (slice : List α) : Prop := slice.Pairwise fun a b => key a < key b

-- The standard library promises the index between the passing and the failing
-- elements of a partitioned slice. There is only one, so a scan finds it too.
def partitionPoint (test : α → Bool) : List α → Nat
  | [] => 0
  | a :: tail => if test a then partitionPoint test tail + 1 else 0

-- A test that can only switch from passing to failing along an increasing slice.
def Downward (key : α → K) (test : α → Bool) : Prop := ∀ a b, key a < key b → test b = true → test a = true

theorem head_least (key : α → K) (head : α) (tail : List α) (sorted : Increasing key (head :: tail)) (a : α)
    (member : a ∈ head :: tail) : key head ≤ key a := by
  obtain ⟨above, -⟩ := List.pairwise_cons.mp sorted
  cases List.mem_cons.mp member with
  | inl same => rw [same]
  | inr later => exact le_of_lt (above a later)

theorem partition_point_bound (test : α → Bool) (slice : List α) : partitionPoint test slice ≤ slice.length := by
  induction slice with
  | nil => simp [partitionPoint]
  | cons a tail ih =>
      by_cases passes : test a = true
      · simp only [partitionPoint, if_pos passes, List.length_cons]
        omega
      · simp [partitionPoint, passes]

theorem take_partition_point (key : α → K) (test : α → Bool) (slice : List α) (down : Downward key test)
    (sorted : Increasing key slice) : slice.take (partitionPoint test slice) = slice.filter test := by
  induction slice with
  | nil => rfl
  | cons a tail ih =>
      obtain ⟨above, rest⟩ := List.pairwise_cons.mp sorted
      by_cases passes : test a = true
      · simp only [partitionPoint, if_pos passes, List.take_succ_cons, List.filter_cons_of_pos passes, ih rest]
      · have none : tail.filter test = [] := by
          apply List.filter_eq_nil_iff.mpr
          intro b member hit
          exact passes (down a b (above b member) hit)
        simp [partitionPoint, passes, none]

theorem drop_partition_point (key : α → K) (test : α → Bool) (slice : List α) (down : Downward key test)
    (sorted : Increasing key slice) : slice.drop (partitionPoint test slice) = slice.filter (fun a => !test a) := by
  induction slice with
  | nil => rfl
  | cons a tail ih =>
      obtain ⟨above, rest⟩ := List.pairwise_cons.mp sorted
      by_cases passes : test a = true
      · simp [partitionPoint, passes, ih rest]
      · have all : tail.filter (fun b => !test b) = tail := by
          apply List.filter_eq_self.mpr
          intro b member
          by_contra hit
          exact passes (down a b (above b member) (by simpa using hit))
        simp [partitionPoint, passes, all]

theorem below_downward (key : α → K) (bound : K) : Downward key (fun a => decide (key a < bound)) := by
  intro a b less hit
  simp only [decide_eq_true_eq] at hit ⊢
  exact lt_trans less hit

theorem at_most_downward (key : α → K) (bound : K) : Downward key (fun a => decide (key a ≤ bound)) := by
  intro a b less hit
  simp only [decide_eq_true_eq] at hit ⊢
  exact le_trans (le_of_lt less) hit

theorem filter_not_suffix (key : α → K) (test : α → Bool) (slice : List α) (down : Downward key test)
    (sorted : Increasing key slice) : slice.filter (fun a => !test a) <:+ slice :=
  drop_partition_point key test slice down sorted ▸ List.drop_suffix _ _

theorem filter_above_suffix (key : α → K) (bound : K) (slice : List α) (sorted : Increasing key slice) :
    slice.filter (fun a => bound < key a) <:+ slice := by
  have suffix := filter_not_suffix key _ slice (at_most_downward key bound) sorted
  simpa only [← decide_not, not_le] using suffix

theorem filter_from_suffix (key : α → K) (bound : K) (slice : List α) (sorted : Increasing key slice) :
    slice.filter (fun a => bound ≤ key a) <:+ slice := by
  have suffix := filter_not_suffix key _ slice (below_downward key bound) sorted
  simpa only [← decide_not, not_lt] using suffix

theorem filter_range_split (key : α → K) (low middle high : K) (slice : List α) (sorted : slice.Pairwise fun a b => key a ≤ key b)
    (first : low ≤ middle) (second : middle ≤ high) :
    slice.filter (fun a => low ≤ key a ∧ key a ≤ high) =
      slice.filter (fun a => low ≤ key a ∧ key a < middle) ++ slice.filter (fun a => middle ≤ key a ∧ key a ≤ high) := by
  induction slice with
  | nil => rfl
  | cons head tail ih =>
      obtain ⟨above, rest⟩ := List.pairwise_cons.mp sorted
      simp only [Bool.decide_and] at ih ⊢
      rcases lt_or_ge (key head) middle with below | reached
      · by_cases inside : low ≤ key head
        · simp [inside, below, (le_of_lt below).trans second, not_le.mpr below, ih rest]
        · simp [inside, not_le.mpr below, ih rest]
      · -- From here on everything lies in the upper part.
        have none : tail.filter (fun a => decide (low ≤ key a) && decide (key a < middle)) = [] := by
          rw [List.filter_eq_nil_iff]
          intro a member hit
          simp only [Bool.and_eq_true, decide_eq_true_eq] at hit
          exact absurd hit.2 (not_lt.mpr (reached.trans (above a member)))
        have upper := ih rest
        rw [none, List.nil_append] at upper
        by_cases inside : key head ≤ high
        · simp [first.trans reached, reached, inside, not_lt.mpr reached, none, upper]
        · simp [inside, not_lt.mpr reached, none, upper]

theorem last_greatest (key : α → K) (slice : List α) (sorted : Increasing key slice) (last : α) (final : slice.getLast? = some last)
    (a : α) (member : a ∈ slice) : key a ≤ key last := by
  obtain ⟨front, rfl⟩ := List.getLast?_eq_some_iff.mp final
  rcases List.mem_append.mp member with earlier | same
  · exact le_of_lt ((List.pairwise_append.mp sorted).2.2 a earlier last (by simp))
  · rw [List.mem_singleton.mp same]

theorem suffix_last_greatest (key : α → K) (slice tail : List α) (sorted : Increasing key slice) (suffix : tail <:+ slice) (last : α)
    (final : tail.getLast? = some last) : last ∈ slice ∧ ∀ a ∈ slice, key a ≤ key last := by
  obtain ⟨front, rfl⟩ := suffix
  have ends : (front ++ tail).getLast? = some last := by rw [List.getLast?_append, final, Option.some_or]
  exact ⟨List.mem_of_getLast? ends, last_greatest key _ sorted last ends⟩

theorem insert_split (key : α → K) (fresh : α) (slice : List α) (sorted : Increasing key slice) :
    slice.insertIdx (partitionPoint (fun a => decide (key a < key fresh)) slice) fresh =
      slice.filter (fun a => decide (key a < key fresh)) ++ fresh :: slice.filter (fun a => !decide (key a < key fresh)) := by
  induction slice with
  | nil => rfl
  | cons a tail ih =>
      obtain ⟨above, rest⟩ := List.pairwise_cons.mp sorted
      by_cases less : key a < key fresh
      · simp only [partitionPoint, less, decide_true, if_true, List.insertIdx_succ_cons, ih rest]
        simp [less]
      · have drop := drop_partition_point key _ (a :: tail) (below_downward key (key fresh)) sorted
        have take := take_partition_point key _ (a :: tail) (below_downward key (key fresh)) sorted
        simp only [partitionPoint, less, decide_false, Bool.false_eq_true, if_false, List.take_zero, List.drop_zero] at drop take
        simp only [partitionPoint, less, decide_false, Bool.false_eq_true, if_false, List.insertIdx_zero, ← take, ← drop,
          List.nil_append]

theorem insert_increasing (key : α → K) (fresh : α) (slice : List α) (sorted : Increasing key slice)
    (absent : ∀ a ∈ slice, key a ≠ key fresh) :
    Increasing key (slice.insertIdx (partitionPoint (fun a => decide (key a < key fresh)) slice) fresh) := by
  rw [insert_split key fresh slice sorted]
  apply List.pairwise_append.mpr
  refine ⟨sorted.filter _, List.pairwise_cons.mpr ⟨?_, sorted.filter _⟩, ?_⟩
  · intro b member
    obtain ⟨inside, notLess⟩ := List.mem_filter.mp member
    exact lt_of_le_of_ne (not_lt.mp (by simpa using notLess)) (Ne.symm (absent b inside))
  · intro a low b high
    have less : key a < key fresh := by simpa using (List.mem_filter.mp low).2
    rcases List.mem_cons.mp high with same | later
    · rw [same]
      exact less
    · exact lt_of_lt_of_le less (not_lt.mp (by simpa using (List.mem_filter.mp later).2))

theorem mem_insert (test : α → Bool) (fresh a : α) (slice : List α) :
    a ∈ slice.insertIdx (partitionPoint test slice) fresh ↔ a = fresh ∨ a ∈ slice :=
  List.mem_insertIdx (partition_point_bound test slice)

theorem length_insert (test : α → Bool) (fresh : α) (slice : List α) :
    (slice.insertIdx (partitionPoint test slice) fresh).length = slice.length + 1 :=
  List.length_insertIdx_of_le_length (partition_point_bound test slice) fresh

theorem probe_iff (key : α → K) (target : K) (slice : List α) (sorted : Increasing key slice) :
    (slice[partitionPoint (fun a => decide (key a < target)) slice]?).any (fun a => decide (key a = target)) = true ↔
      ∃ a ∈ slice, key a = target := by
  induction slice with
  | nil => simp [partitionPoint]
  | cons a tail ih =>
      obtain ⟨above, rest⟩ := List.pairwise_cons.mp sorted
      by_cases less : key a < target
      · have different : key a ≠ target := ne_of_lt less
        simpa [partitionPoint, less, different] using ih rest
      · simp only [partitionPoint, less, decide_false, Bool.false_eq_true, if_false, List.getElem?_cons_zero, Option.any_some,
          decide_eq_true_eq, List.mem_cons, exists_eq_or_imp]
        constructor
        · exact Or.inl
        · rintro (hit | ⟨b, member, hit⟩)
          · exact hit
          · exact absurd (lt_of_lt_of_eq (above b member) hit) less

-- On a strictly increasing slice the search has at most one possible hit.
def binarySearchByKey (key : α → K) (target : K) (slice : List α) : Option Nat :=
  let index := partitionPoint (fun a => decide (key a < target)) slice
  if (slice[index]?).any (fun a => decide (key a = target)) then some index else none

theorem binary_search_iff (key : α → K) (target : K) (slice : List α) (index : Nat) (sorted : Increasing key slice) :
    binarySearchByKey key target slice = some index ↔ ∃ a, slice[index]? = some a ∧ key a = target := by
  induction slice generalizing index with
  | nil => simp [binarySearchByKey, partitionPoint]
  | cons a tail ih =>
      obtain ⟨above, rest⟩ := List.pairwise_cons.mp sorted
      by_cases less : key a < target
      · have shifted : binarySearchByKey key target (a :: tail) = (binarySearchByKey key target tail).map (· + 1) := by
          simp only [binarySearchByKey, partitionPoint, less, decide_true, if_true, List.getElem?_cons_succ]
          split <;> rfl
        rw [shifted]
        cases index with
        | zero => simp [ne_of_lt less]
        | succ n => simp [← ih n rest]
      · have here : binarySearchByKey key target (a :: tail) = if key a = target then some 0 else none := by
          simp [binarySearchByKey, partitionPoint, less]
        rw [here]
        cases index with
        | zero => by_cases same : key a = target <;> simp [same]
        | succ n =>
            have absent : ¬ ∃ b, tail[n]? = some b ∧ key b = target := by
              intro given
              obtain ⟨b, found, hit⟩ := given
              exact less (lt_of_lt_of_eq (above b (List.mem_of_getElem? found)) hit)
            by_cases same : key a = target <;> simp [same, absent]

theorem increasing_unique (key : α → K) (first second : List α) (firstSorted : Increasing key first)
    (secondSorted : Increasing key second) (same : ∀ a, a ∈ first ↔ a ∈ second) : first = second := by
  have irreflexive : Std.Irrefl fun a b : α => key a < key b := ⟨fun a => lt_irrefl (key a)⟩
  have antisymmetric : Std.Antisymm fun a b : α => key a < key b := ⟨fun a b less more => absurd less (lt_asymm more)⟩
  exact firstSorted.eq_of_mem_iff secondSorted same

theorem located_unique (key : α → K) (slice : List α) (first second : Nat) (a b : α) (sorted : Increasing key slice)
    (atFirst : slice[first]? = some a) (atSecond : slice[second]? = some b) (same : key a = key b) : first = second := by
  have hit := (binary_search_iff key (key b) slice first sorted).mpr ⟨a, atFirst, same⟩
  have other := (binary_search_iff key (key b) slice second sorted).mpr ⟨b, atSecond, rfl⟩
  exact Option.some.inj (hit.symm.trans other)

theorem last_iff (key : α → K) (slice : List α) (a : α) (sorted : Increasing key slice) :
    slice.getLast? = some a ↔ a ∈ slice ∧ ∀ b ∈ slice, key b ≤ key a := by
  constructor
  · intro last
    obtain ⟨rest, rfl⟩ := List.getLast?_eq_some_iff.mp last
    refine ⟨by simp, fun b member => ?_⟩
    rcases List.mem_append.mp member with before | same
    · exact le_of_lt ((List.pairwise_append.mp sorted).2.2 b before a (by simp))
    · rw [List.mem_singleton.mp same]
  · intro given
    obtain ⟨member, top⟩ := given
    cases last : slice.getLast? with
    | none => simp [List.getLast?_eq_none_iff.mp last] at member
    | some b =>
        obtain ⟨rest, rfl⟩ := List.getLast?_eq_some_iff.mp last
        rcases List.mem_append.mp member with before | same
        · exact absurd (top b (by simp)) (not_le.mpr ((List.pairwise_append.mp sorted).2.2 a before b (by simp)))
        · rw [List.mem_singleton.mp same]

theorem increasing_growth (key : α → Nat) (head b : α) (tail : List α) (index : Nat) (sorted : Increasing key (head :: tail))
    (found : (head :: tail)[index]? = some b) : key head + index ≤ key b := by
  induction index generalizing head tail with
  | zero =>
      obtain rfl := Option.some.inj found
      omega
  | succ n ih =>
      obtain ⟨above, rest⟩ := List.pairwise_cons.mp sorted
      cases tail with
      | nil => cases found
      | cons next later =>
          have less := above next (by simp)
          have bound := ih next later rest found
          omega

theorem increasing_dense (key : α → Nat) (head b : α) (tail : List α) (count index : Nat) (sorted : Increasing key (head :: tail))
    (present : ∀ k < count, ∃ a ∈ head :: tail, key a = key head + k) (within : index < count)
    (found : (head :: tail)[index]? = some b) : key b = key head + index := by
  induction index generalizing head tail count with
  | zero =>
      obtain rfl := Option.some.inj found
      rfl
  | succ n ih =>
      obtain ⟨above, rest⟩ := List.pairwise_cons.mp sorted
      cases tail with
      | nil => cases found
      | cons next later =>
          have later' : ∀ k, 0 < k → k < count → ∃ a ∈ next :: later, key a = key head + k := by
            intro k positive bound
            obtain ⟨a, member, same⟩ := present k bound
            cases List.mem_cons.mp member with
            | inl atHead => rw [atHead] at same; omega
            | inr inside => exact ⟨a, inside, same⟩
          have step : key next = key head + 1 := by
            obtain ⟨a, member, same⟩ := later' 1 (by omega) (by omega)
            have less := above next (by simp)
            cases List.mem_cons.mp member with
            | inl atNext => rw [← atNext, same]
            | inr inside =>
                have bound := (List.pairwise_cons.mp rest).1 a inside
                omega
          have tailDense := ih next later (count - 1) rest (fun k bound => by
            obtain ⟨a, member, same⟩ := later' (k + 1) (by omega) (by omega)
            exact ⟨a, member, by omega⟩) (by omega) found
          omega

theorem present_length (key : α → Nat) (slice : List α) (start count : Nat) (present : ∀ k < count, ∃ a ∈ slice, key a = start + k) :
    count ≤ slice.length := by
  have distinct : ((List.range count).map (start + ·)).Nodup := List.nodup_range.map (add_right_injective start)
  have within : (List.range count).map (start + ·) ⊆ slice.map key := by
    intro number member
    obtain ⟨k, bound, rfl⟩ := List.mem_map.mp member
    obtain ⟨a, inside, same⟩ := present k (List.mem_range.mp bound)
    exact List.mem_map.mpr ⟨a, inside, same⟩
  have bound := (List.subperm_of_subset distinct within).length_le
  rwa [List.length_map, List.length_map, List.length_range] at bound

end SortedSlice
