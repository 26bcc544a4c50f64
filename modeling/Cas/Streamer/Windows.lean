import Cas.Streamer.Provenance

set_option autoImplicit false

namespace Cas

open Std (ExtTreeSet)

theorem mem_heights_from (start : UInt64) (count : Nat) (fits : start.toNat + count ≤ 2 ^ 64) (height : UInt64) :
    height ∈ heightsFrom start count ↔ start ≤ height ∧ height.toNat < start.toNat + count := by
  induction count generalizing start with
  | zero =>
      simp only [heightsFrom, List.not_mem_nil, UInt64.le_iff_toNat_le, false_iff]
      omega
  | succ count ih =>
      rw [heightsFrom, List.mem_cons, UInt64.le_iff_toNat_le, ← UInt64.toNat_inj]
      cases count with
      | zero =>
          simp only [heightsFrom, List.not_mem_nil, or_false]
          omega
      | succ count =>
          have next : (start + 1).toNat = start.toNat + 1 := Word64.toNat_add_of_fits start 1 (by change start.toNat + 1 < 2 ^ 64; omega)
          rw [ih (start + 1) (by omega), UInt64.le_iff_toNat_le, next]
          omega

theorem heights_from_increasing (start : UInt64) (count : Nat) (fits : start.toNat + count ≤ 2 ^ 64) :
    (heightsFrom start count).Pairwise (· < ·) := by
  induction count generalizing start with
  | zero => exact List.Pairwise.nil
  | succ count ih =>
      cases count with
      | zero => exact List.pairwise_singleton _ _
      | succ count =>
          have next : (start + 1).toNat = start.toNat + 1 := Word64.toNat_add_of_fits start 1 (by change start.toNat + 1 < 2 ^ 64; omega)
          refine List.pairwise_cons.mpr ⟨fun height member => ?_, ih (start + 1) (by omega)⟩
          have above := ((mem_heights_from (start + 1) _ (by omega) height).mp member).1
          rw [UInt64.le_iff_toNat_le] at above
          rw [UInt64.lt_iff_toNat_lt]
          omega

def spanned (range : UInt64 × UInt64) : List UInt64 := heightsFrom range.1 (range.2 - range.1).toNat

def WindowShape (range : UInt64 × UInt64) : Prop :=
  ∃ last, range.2 = last + 1 ∧ range.1 ≤ last ∧ last.toNat < range.1.toNat + hotshotRangeLimit.toNat

theorem spanned_count (range : UInt64 × UInt64) (shape : WindowShape range) :
    range.1.toNat + (range.2 - range.1).toNat = (range.2 - 1).toNat + 1 := by
  obtain ⟨last, stop, ordered, short⟩ := shape
  have limit : hotshotRangeLimit.toNat = 100 := rfl
  have less := UInt64.le_iff_toNat_le.mp ordered
  have gap : (last - range.1).toNat = last.toNat - range.1.toNat := UInt64.toNat_sub_of_le last range.1 ordered
  have count : (last - range.1 + 1).toNat = last.toNat - range.1.toNat + 1 := by
    rw [Word64.toNat_add_of_fits (last - range.1) 1 (by change (last - range.1).toNat + 1 < 2 ^ 64; omega), gap]
    rfl
  have inner : range.2 - range.1 = last - range.1 + 1 := by
    rw [stop]
    grind
  have outer : range.2 - 1 = last := by rw [stop, UInt64.add_sub_cancel]
  rw [inner, outer, count]
  omega

theorem mem_spanned (range : UInt64 × UInt64) (shape : WindowShape range) (height : UInt64) :
    height ∈ spanned range ↔ range.1 ≤ height ∧ height ≤ range.2 - 1 := by
  have count := spanned_count range shape
  have top := UInt64.toNat_lt (range.2 - 1)
  rw [spanned, mem_heights_from range.1 _ (by omega) height, UInt64.le_iff_toNat_le, UInt64.le_iff_toNat_le]
  omega

theorem spanned_increasing (range : UInt64 × UInt64) (shape : WindowShape range) : (spanned range).Pairwise (· < ·) := by
  have count := spanned_count range shape
  have top := UInt64.toNat_lt (range.2 - 1)
  exact heights_from_increasing range.1 _ (by omega)

-- Where the loop stands: the window of `start` reaches `last`, and the tail is still to be placed.
structure OpenWindow (start last : UInt64) (tail : List UInt64) : Prop where
  ordered : start ≤ last
  short : last.toNat < start.toNat + hotshotRangeLimit.toNat
  increasing : (last :: tail).Pairwise (· < ·)

theorem open_window_new (height : UInt64) (tail : List UInt64) (increasing : (height :: tail).Pairwise (· < ·)) :
    OpenWindow height height tail := by
  have positive : 0 < hotshotRangeLimit.toNat := by decide
  exact ⟨le_refl _, by omega, increasing⟩

section Open

variable (start last height : UInt64) (tail : List UInt64) (state : OpenWindow start last (height :: tail))

include state

theorem open_window_next : last < height ∧ start ≤ height ∧ (height :: tail).Pairwise (· < ·) := by
  obtain ⟨above, rest⟩ := List.pairwise_cons.mp state.increasing
  have later := above height (by simp)
  exact ⟨later, le_trans state.ordered (le_of_lt later), rest⟩

theorem open_window_near (near : height - start < hotshotRangeLimit) : OpenWindow start height tail := by
  obtain ⟨-, beyond, rest⟩ := open_window_next start last height tail state
  have gap := UInt64.toNat_sub_of_le height start beyond
  have less := UInt64.lt_iff_toNat_lt.mp near
  exact ⟨beyond, by omega, rest⟩

theorem open_window_far (far : ¬ height - start < hotshotRangeLimit) :
    OpenWindow height height tail ∧ start.toNat + hotshotRangeLimit.toNat ≤ height.toNat := by
  obtain ⟨-, beyond, rest⟩ := open_window_next start last height tail state
  have gap := UInt64.toNat_sub_of_le height start beyond
  have order := UInt64.le_iff_toNat_le.mp beyond
  have more := UInt64.le_iff_toNat_le.mp (not_lt.mp far)
  exact ⟨open_window_new height tail rest, by omega⟩

end Open

theorem windows_from_shape (start last : UInt64) (tail : List UInt64) (state : OpenWindow start last tail) :
    ∀ range ∈ windowsFrom start last tail, WindowShape range ∧ start ≤ range.1 := by
  have here : WindowShape (start, last + 1) := ⟨last, rfl, state.ordered, state.short⟩
  induction tail generalizing start last with
  | nil =>
      intro range member
      obtain rfl := List.mem_singleton.mp member
      exact ⟨here, le_refl _⟩
  | cons height tail ih =>
      obtain ⟨-, beyond, -⟩ := open_window_next start last height tail state
      by_cases near : height - start < hotshotRangeLimit
      · rw [windowsFrom, if_pos near]
        have grown := open_window_near start last height tail state near
        exact ih start height grown ⟨height, rfl, grown.ordered, grown.short⟩
      · rw [windowsFrom, if_neg near]
        have fresh := (open_window_far start last height tail state near).1
        intro range member
        cases List.mem_cons.mp member with
        | inl same => exact same ▸ ⟨here, le_refl _⟩
        | inr later =>
            obtain ⟨shape, after⟩ := ih height height fresh ⟨height, rfl, fresh.ordered, fresh.short⟩ range later
            exact ⟨shape, le_trans beyond after⟩

theorem windows_from_increasing (start last : UInt64) (tail : List UInt64) (state : OpenWindow start last tail) :
    ((windowsFrom start last tail).flatMap spanned).Pairwise (· < ·) := by
  induction tail generalizing start last with
  | nil =>
      simp only [windowsFrom, List.flatMap_cons, List.flatMap_nil, List.append_nil]
      exact spanned_increasing _ ⟨last, rfl, state.ordered, state.short⟩
  | cons height tail ih =>
      by_cases near : height - start < hotshotRangeLimit
      · rw [windowsFrom, if_pos near]
        exact ih start height (open_window_near start last height tail state near)
      · have shape : WindowShape (start, last + 1) := ⟨last, rfl, state.ordered, state.short⟩
        have fresh := (open_window_far start last height tail state near).1
        rw [windowsFrom, if_neg near, List.flatMap_cons, List.pairwise_append]
        refine ⟨spanned_increasing _ shape, ih height height fresh, fun early first late later => ?_⟩
        have low := ((mem_spanned _ shape early).mp first).2
        rw [UInt64.add_sub_cancel] at low
        obtain ⟨range, member, inside⟩ := List.mem_flatMap.mp later
        obtain ⟨rangeShape, after⟩ := windows_from_shape height height tail fresh range member
        have high := ((mem_spanned range rangeShape late).mp inside).1
        have next := (open_window_next start last height tail state).1
        exact lt_of_le_of_lt low (lt_of_lt_of_le next (le_trans after high))

theorem windows_from_cover (start last : UInt64) (tail : List UInt64) (state : OpenWindow start last tail) (height : UInt64)
    (needed : (start ≤ height ∧ height ≤ last) ∨ height ∈ tail) : height ∈ (windowsFrom start last tail).flatMap spanned := by
  have here := mem_spanned (start, last + 1) ⟨last, rfl, state.ordered, state.short⟩ height
  rw [UInt64.add_sub_cancel] at here
  induction tail generalizing start last with
  | nil =>
      simp only [windowsFrom, List.flatMap_cons, List.flatMap_nil, List.append_nil]
      exact here.mpr (needed.resolve_right List.not_mem_nil)
  | cons next tail ih =>
      obtain ⟨later, beyond, -⟩ := open_window_next start last next tail state
      by_cases near : next - start < hotshotRangeLimit
      · rw [windowsFrom, if_pos near]
        have grown := open_window_near start last next tail state near
        have there := mem_spanned (start, next + 1) ⟨next, rfl, grown.ordered, grown.short⟩ height
        rw [UInt64.add_sub_cancel] at there
        refine ih start next grown ?_ there
        cases needed with
        | inl inside => exact .inl ⟨inside.1, le_trans inside.2 (le_of_lt later)⟩
        | inr listed =>
            cases List.mem_cons.mp listed with
            | inl same => exact .inl ⟨same ▸ beyond, le_of_eq same⟩
            | inr inTail => exact .inr inTail
      · rw [windowsFrom, if_neg near, List.flatMap_cons, List.mem_append]
        have fresh := (open_window_far start last next tail state near).1
        have there := mem_spanned (next, next + 1) ⟨next, rfl, fresh.ordered, fresh.short⟩ height
        rw [UInt64.add_sub_cancel] at there
        cases needed with
        | inl inside => exact .inl (here.mpr inside)
        | inr listed =>
            refine .inr (ih next next fresh ?_ there)
            cases List.mem_cons.mp listed with
            | inl same => exact .inl ⟨le_of_eq same.symm, le_of_eq same⟩
            | inr inTail => exact .inr inTail

-- The windows that a set of heights calls for, said without the loop. The first
-- opens at the least height, each next one at the least height out of reach of
-- the one before, and each closes at the greatest height within its reach.
def NextWindow (needed : UInt64 → Prop) (start next : UInt64) : Prop :=
  needed next ∧ start.toNat + hotshotRangeLimit.toNat ≤ next.toNat ∧
    ∀ other, needed other → start.toNat + hotshotRangeLimit.toNat ≤ other.toNat → next ≤ other

structure Closes (needed : UInt64 → Prop) (start last : UInt64) : Prop where
  member : needed last
  ordered : start ≤ last
  reached : last.toNat < start.toNat + hotshotRangeLimit.toNat
  greatest : ∀ other, needed other → start ≤ other → other.toNat < start.toNat + hotshotRangeLimit.toNat → other ≤ last

structure Window (needed : UInt64 → Prop) (start last : UInt64) : Prop where
  opened : ∃ first, needed first ∧ (∀ other, needed other → first ≤ other) ∧ Relation.ReflTransGen (NextWindow needed) first start
  closes : Closes needed start last

section Greedy

variable (needed : UInt64 → Prop)

-- The heights still to be placed are the tail, those placed lie in the window or below it.
structure Placing (start last : UInt64) (tail : List UInt64) : Prop where
  state : OpenWindow start last tail
  members : ∀ height ∈ last :: tail, needed height
  complete : ∀ height, needed height → start ≤ height → height ≤ last ∨ height ∈ tail

section Place

variable (start last height : UInt64) (tail : List UInt64) (placing : Placing needed start last (height :: tail))

include placing

theorem placing_near (near : height - start < hotshotRangeLimit) : Placing needed start height tail := by
  obtain ⟨later, -, -⟩ := open_window_next start last height tail placing.state
  refine ⟨open_window_near start last height tail placing.state near,
    fun other member => placing.members other (List.mem_cons_of_mem _ member), fun other wanted after => ?_⟩
  cases placing.complete other wanted after with
  | inl early => exact .inl (le_trans early (le_of_lt later))
  | inr listed => exact (List.mem_cons.mp listed).imp_left le_of_eq

theorem placing_far (far : ¬ height - start < hotshotRangeLimit) : Placing needed height height tail := by
  obtain ⟨later, beyond, -⟩ := open_window_next start last height tail placing.state
  refine ⟨(open_window_far start last height tail placing.state far).1,
    fun other member => placing.members other (List.mem_cons_of_mem _ member), fun other wanted after => ?_⟩
  cases placing.complete other wanted (le_trans beyond after) with
  | inl early => exact absurd (lt_of_le_of_lt early later) (not_lt.mpr after)
  | inr listed => exact (List.mem_cons.mp listed).imp_left le_of_eq

theorem tail_beyond (far : ¬ height - start < hotshotRangeLimit) :
    ∀ other ∈ height :: tail, height ≤ other ∧ start.toNat + hotshotRangeLimit.toNat ≤ other.toNat := by
  obtain ⟨fresh, out⟩ := open_window_far start last height tail placing.state far
  intro other listed
  have order : height ≤ other := SortedSlice.head_least id height tail fresh.increasing other listed
  have word := UInt64.le_iff_toNat_le.mp order
  exact ⟨order, by omega⟩

theorem next_window_iff (far : ¬ height - start < hotshotRangeLimit) (next : UInt64) : NextWindow needed start next ↔ next = height := by
  have beyond := tail_beyond needed start last height tail placing far
  have need : needed height := placing.members height (by simp)
  have least : ∀ other, needed other → start.toNat + hotshotRangeLimit.toNat ≤ other.toNat → height ≤ other := by
    intro other wanted out
    have after : start ≤ other := UInt64.le_iff_toNat_le.mpr (by omega)
    cases placing.complete other wanted after with
    | inl early =>
        have word := UInt64.le_iff_toNat_le.mp early
        have short := placing.state.short
        omega
    | inr listed => exact (beyond other listed).1
  have out := (beyond height (by simp)).2
  constructor
  · intro given
    obtain ⟨wanted, nextOut, lowest⟩ := given
    exact le_antisymm (lowest height need out) (least next wanted nextOut)
  · intro same
    subst same
    exact ⟨need, out, least⟩

end Place

theorem placing_closes (start last : UInt64) (tail : List UInt64) (placing : Placing needed start last tail)
    (far : ∀ height ∈ tail, start.toNat + hotshotRangeLimit.toNat ≤ height.toNat) (close : UInt64) :
    Closes needed start close ↔ close = last := by
  have greatest : ∀ other, needed other → start ≤ other → other.toNat < start.toNat + hotshotRangeLimit.toNat → other ≤ last := by
    intro other wanted after reached
    cases placing.complete other wanted after with
    | inl early => exact early
    | inr listed =>
        have out := far other listed
        omega
  constructor
  · intro closes
    exact le_antisymm (greatest close closes.member closes.ordered closes.reached)
      (closes.greatest last (placing.members last (by simp)) placing.state.ordered placing.state.short)
  · intro same
    subst same
    exact ⟨placing.members close (by simp), placing.state.ordered, placing.state.short, greatest⟩

theorem windows_from_iff (start last : UInt64) (tail : List UInt64) (placing : Placing needed start last tail) (range : UInt64 × UInt64) :
    range ∈ windowsFrom start last tail ↔
      ∃ opening close, Relation.ReflTransGen (NextWindow needed) start opening ∧ Closes needed opening close ∧
        range = (opening, close + 1) := by
  induction tail generalizing start last with
  | nil =>
      have alone : ∀ next, ¬ NextWindow needed start next := by
        intro next given
        obtain ⟨wanted, out, -⟩ := given
        have after : start ≤ next := UInt64.le_iff_toNat_le.mpr (by omega)
        have early := (placing.complete next wanted after).resolve_right List.not_mem_nil
        have word := UInt64.le_iff_toNat_le.mp early
        have short := placing.state.short
        omega
      have closes := placing_closes needed start last [] placing (by simp)
      rw [windowsFrom, List.mem_singleton]
      constructor
      · intro same
        exact ⟨start, last, .refl, (closes last).mpr rfl, same⟩
      · intro given
        obtain ⟨opening, close, path, closing, same⟩ := given
        cases path.cases_head with
        | inl here =>
            subst here
            rw [same, (closes close).mp closing]
        | inr step =>
            obtain ⟨next, move, -⟩ := step
            exact absurd move (alone next)
  | cons height tail ih =>
      by_cases near : height - start < hotshotRangeLimit
      · rw [windowsFrom, if_pos near]
        exact ih start height (placing_near needed start last height tail placing near)
      · have nextOnly := next_window_iff needed start last height tail placing near
        have closes := placing_closes needed start last (height :: tail) placing
          (fun other listed => (tail_beyond needed start last height tail placing near other listed).2)
        rw [windowsFrom, if_neg near, List.mem_cons, ih height height (placing_far needed start last height tail placing near)]
        constructor
        · intro member
          cases member with
          | inl same => exact ⟨start, last, .refl, (closes last).mpr rfl, same⟩
          | inr later =>
              obtain ⟨opening, close, path, closing, same⟩ := later
              exact ⟨opening, close, .head ((nextOnly height).mpr rfl) path, closing, same⟩
        · intro given
          obtain ⟨opening, close, path, closing, same⟩ := given
          cases path.cases_head with
          | inl here =>
              subst here
              exact .inl (by rw [same, (closes close).mp closing])
          | inr step =>
              obtain ⟨next, move, rest⟩ := step
              obtain rfl := (nextOnly next).mp move
              exact .inr ⟨opening, close, rest, closing, same⟩

end Greedy

theorem windows_iff (heights : List UInt64) (increasing : heights.Pairwise (· < ·)) (range : UInt64 × UInt64) :
    range ∈ windows heights ↔ ∃ start last, Window (· ∈ heights) start last ∧ range = (start, last + 1) := by
  cases heights with
  | nil =>
      simp only [windows, List.not_mem_nil, false_iff]
      intro given
      obtain ⟨start, last, window, -⟩ := given
      exact window.closes.member
  | cons height tail =>
      have lowest : ∀ other ∈ height :: tail, height ≤ other := SortedSlice.head_least id height tail increasing
      have placing : Placing (· ∈ height :: tail) height height tail :=
        ⟨open_window_new height tail increasing, fun _ listed => listed, fun other listed _ => (List.mem_cons.mp listed).imp_left le_of_eq⟩
      rw [windows, windows_from_iff (· ∈ height :: tail) height height tail placing range]
      refine exists_congr fun opening => exists_congr fun close => ?_
      constructor
      · intro given
        obtain ⟨path, closing, same⟩ := given
        exact ⟨⟨⟨height, by simp, lowest, path⟩, closing⟩, same⟩
      · intro given
        obtain ⟨⟨⟨first, member, least, path⟩, closing⟩, same⟩ := given
        obtain rfl : first = height := le_antisymm (least height (by simp)) (lowest first member)
        exact ⟨path, closing, same⟩

-- What the grouping loop guarantees: the windows are short, lie one above the other, and take in every height.
structure WindowPlan (heights : List UInt64) (ranges : List (UInt64 × UInt64)) : Prop where
  shaped : ∀ range ∈ ranges, WindowShape range
  increasing : (ranges.flatMap spanned).Pairwise (· < ·)
  cover : ∀ height ∈ heights, height ∈ ranges.flatMap spanned

theorem windows_plan (heights : List UInt64) (increasing : heights.Pairwise (· < ·)) : WindowPlan heights (windows heights) := by
  cases heights with
  | nil => exact ⟨by simp [windows], by simp [windows], by simp⟩
  | cons height tail =>
      have state := open_window_new height tail increasing
      refine ⟨fun range member => (windows_from_shape height height tail state range member).1,
        windows_from_increasing height height tail state, fun needed member => ?_⟩
      apply windows_from_cover height height tail state
      cases List.mem_cons.mp member with
      | inl same => exact .inl ⟨le_of_eq same.symm, le_of_eq same⟩
      | inr inTail => exact .inr inTail

theorem stub_heights_increasing (stubs : List (UInt64 × UInt64)) : (stubHeights stubs).Pairwise (· < ·) :=
  ExtTreeSet.ordered_toList.imp fun less => Std.compare_eq_lt.mp less

theorem mem_stub_heights (stubs : List (UInt64 × UInt64)) (height : UInt64) :
    height ∈ stubHeights stubs ↔ ∃ stub ∈ stubs, stub.2 = height := by
  simp only [stubHeights, ExtTreeSet.mem_toList, ExtTreeSet.mem_ofList, List.contains_iff_mem, List.mem_map]

theorem stub_heights_plan (stubs : List (UInt64 × UInt64)) : WindowPlan (stubHeights stubs) (windows (stubHeights stubs)) :=
  windows_plan _ (stub_heights_increasing stubs)

end Cas
