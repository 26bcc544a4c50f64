import Cas.Lib.CheckedSlice
import Cas.Streamer.Windows

set_option autoImplicit false

namespace Cas

open CheckedSlice (Stop element)
open Std (ExtTreeSet ExtTreeMap)

-- The two loops of `promote_stubs` over the vector of heights, with the indices
-- of the source. An index out of bounds and an overflow of either subtraction or
-- addition is a panic; the fuel counts the tests of a loop's condition.
def windowEnd (heights : List UInt64) (start : UInt64) : Nat → Nat → Except Stop Nat
  | 0, _ => .error .running
  | fuel + 1, j =>
      if j < heights.length then do
        let height ← element heights j
        let gap ← CheckedSlice.sub height start
        if gap < hotshotRangeLimit then windowEnd heights start fuel (j + 1) else .ok j
      else .ok j

-- `fetch` is what the body does with a range: it asks the client for the blocks
-- and adds what they hold, or leaves the loop where the client answers an error.
def windowLoop {Fetched : Type} (fetch : Fetched → UInt64 × UInt64 → Option Fetched) (heights : List UInt64) :
    Nat → Nat → Fetched → Except Stop (Option Fetched)
  | 0, _, _ => .error .running
  | fuel + 1, i, fetched =>
      if i < heights.length then do
        let start ← element heights i
        let j ← windowEnd heights start fuel (i + 1)
        let last ← element heights (j - 1)
        let stop ← CheckedSlice.add last 1
        match fetch fetched (start, stop) with
        | none => .ok none
        | some fetched => windowLoop fetch heights fuel j fetched
      else .ok (some fetched)

-- The limit is what the server reported, `get` is the request itself.
def fetchNamespaceTransactionsInRange {Response : Type} (largeObjectRangeLimit : UInt64)
    (get : UInt64 → UInt64 → Except Stop Response) (start stop : UInt64) : Except Stop Response := do
  let span ← CheckedSlice.sub stop start
  if span > largeObjectRangeLimit then
    .error (.bail s!"requested block range exceeds maximum allowed {largeObjectRangeLimit}")
  else get start stop

def near (start height : UInt64) : Bool := decide (height - start < hotshotRangeLimit)

theorem window_end_stops (heights : List UInt64) (start : UInt64) (fuel j : Nat) (inside : j ≤ heights.length)
    (enough : heights.length < fuel + j) (above : ∀ height ∈ heights.drop j, start ≤ height) :
    windowEnd heights start fuel j = .ok (j + ((heights.drop j).takeWhile (near start)).length) := by
  induction fuel generalizing j with
  | zero => omega
  | succ fuel ih =>
      by_cases more : j < heights.length
      · have split : heights.drop j = heights[j] :: heights.drop (j + 1) := List.drop_eq_getElem_cons more
        rw [split] at above ⊢
        have reached : start ≤ heights[j] := above heights[j] List.mem_cons_self
        have gap : CheckedSlice.sub heights[j] start = .ok (heights[j] - start) := if_pos reached
        rw [windowEnd, if_pos more, CheckedSlice.element_found heights j heights[j] (List.getElem?_eq_getElem more)]
        simp only [bind, Except.bind, gap]
        by_cases taken : heights[j] - start < hotshotRangeLimit
        · have close : near start heights[j] = true := decide_eq_true taken
          have later := ih (j + 1) more (by omega) fun height member => above height (List.mem_cons_of_mem _ member)
          rw [if_pos taken, later, List.takeWhile_cons_of_pos close, List.length_cons]
          congr 1
          omega
        · rw [if_neg taken, List.takeWhile_cons_of_neg (by simpa [near] using taken), List.length_nil, Nat.add_zero]
      · have nothing : heights.drop j = [] := List.drop_eq_nil_of_le (not_lt.mp more)
        rw [windowEnd, if_neg more, nothing, List.takeWhile_nil, List.length_nil, Nat.add_zero]

-- The recursion over the list closes a window where the inner loop stops.
theorem windows_from_while (start last : UInt64) (tail : List UInt64) :
    windowsFrom start last tail =
      (start, (last :: tail.takeWhile (near start)).getLast (List.cons_ne_nil _ _) + 1) :: windows (tail.dropWhile (near start)) := by
  induction tail generalizing last with
  | nil => rfl
  | cons height tail ih =>
      by_cases taken : height - start < hotshotRangeLimit
      · have inside : near start height = true := decide_eq_true taken
        rw [windowsFrom, if_pos taken, ih height]
        simp only [List.takeWhile_cons_of_pos inside, List.dropWhile_cons_of_pos inside, List.getLast_cons_cons]
      · have outside : ¬ near start height = true := by simpa [near] using taken
        rw [windowsFrom, if_neg taken]
        simp only [List.takeWhile_cons_of_neg outside, List.dropWhile_cons_of_neg outside, List.getLast_singleton, windows]

theorem last_taken (heights : List UInt64) (i : Nat) (more : i < heights.length) (taken rest : List UInt64)
    (parts : heights.drop (i + 1) = taken ++ rest) :
    heights[i + taken.length]? = some ((heights[i] :: taken).getLast (List.cons_ne_nil _ _)) := by
  have split : heights.drop i = heights[i] :: taken ++ rest := by
    rw [List.drop_eq_getElem_cons more, parts, List.cons_append]
  rw [← List.getElem?_drop, split, List.getElem?_append_left (by simp), List.getLast_eq_getElem]
  exact List.getElem?_eq_getElem (by simp)

-- One turn of the outer loop: from index `i` it comes to `j`, and the range it
-- asks for is the first of those the recursion over the list finds.
structure WindowTurn (heights : List UInt64) (i j : Nat) (start last : UInt64) : Prop where
  starts : element heights i = .ok start
  ends : ∀ fuel, heights.length < fuel + (i + 1) → windowEnd heights start fuel (i + 1) = .ok j
  closes : element heights (j - 1) = .ok last
  member : last ∈ heights
  further : i < j
  inside : j ≤ heights.length
  range : windows (heights.drop i) = (start, last + 1) :: windows (heights.drop j)

theorem window_turn (heights : List UInt64) (increasing : heights.Pairwise (· < ·)) (i : Nat) (more : i < heights.length) :
    ∃ j start last, WindowTurn heights i j start last := by
  have split : heights.drop i = heights[i] :: heights.drop (i + 1) := List.drop_eq_getElem_cons more
  have ordered := increasing.sublist (List.drop_sublist i heights)
  rw [split] at ordered
  have above : ∀ height ∈ heights.drop (i + 1), heights[i] ≤ height :=
    fun height member => le_of_lt (List.rel_of_pairwise_cons ordered member)
  have stops := fun fuel enough => window_end_stops heights heights[i] fuel (i + 1) more enough above
  have ranges := windows_from_while heights[i] heights[i] (heights.drop (i + 1))
  have parts := (List.takeWhile_append_dropWhile (p := near heights[i]) (l := heights.drop (i + 1))).symm
  generalize (heights.drop (i + 1)).takeWhile (near heights[i]) = taken at stops ranges parts
  generalize (heights.drop (i + 1)).dropWhile (near heights[i]) = rest at ranges parts
  have found := last_taken heights i more taken rest parts
  have before : i + 1 + taken.length - 1 = i + taken.length := by omega
  have room : i + 1 + taken.length ≤ heights.length := by
    have total := congrArg List.length parts
    rw [List.length_drop, List.length_append] at total
    omega
  have left : heights.drop (i + 1 + taken.length) = rest := by rw [← List.drop_drop, parts, List.drop_left]
  refine ⟨i + 1 + taken.length, heights[i], (heights[i] :: taken).getLast (List.cons_ne_nil _ _), ?_⟩
  exact {
    starts := CheckedSlice.element_found heights i heights[i] (List.getElem?_eq_getElem more)
    ends := stops
    closes := by rw [before, CheckedSlice.element_found heights _ _ found]
    member := List.mem_of_getElem? found
    further := by omega
    inside := room
    range := by rw [left, split, windows, ranges] }

-- By induction on the fuel, one turn of the outer loop at a time.
theorem window_loop_from {Fetched : Type} (fetch : Fetched → UInt64 × UInt64 → Option Fetched) (heights : List UInt64)
    (increasing : heights.Pairwise (· < ·)) (below : ∀ height ∈ heights, height.toNat < 2 ^ 64 - 1) (fuel i : Nat)
    (fetched : Fetched) (inside : i ≤ heights.length) (enough : heights.length < fuel + i) :
    windowLoop fetch heights fuel i fetched = .ok ((windows (heights.drop i)).foldlM fetch fetched) := by
  induction fuel generalizing i fetched with
  | zero => omega
  | succ fuel ih =>
      by_cases more : i < heights.length
      · obtain ⟨j, start, last, turn⟩ := window_turn heights increasing i more
        have further := turn.further
        have fits : last.toNat + (1 : UInt64).toNat < 2 ^ 64 := by
          have small := below last turn.member
          change last.toNat + 1 < 2 ^ 64
          omega
        rw [windowLoop, if_pos more, turn.range, List.foldlM_cons]
        simp only [bind, Except.bind, turn.starts, turn.ends fuel (by omega), turn.closes, CheckedSlice.add_of_fits last 1 fits]
        cases fetch fetched (start, last + 1) with
        | none => rfl
        | some next => exact ih j next turn.inside (by omega)
      · have nothing : heights.drop i = [] := List.drop_eq_nil_of_le (not_lt.mp more)
        rw [windowLoop, if_neg more, nothing, windows, List.foldlM_nil]
        rfl

-- The height 109 is the hundredth block from 10 and still in its window, 110 opens the next.
example : windowLoop (fun asked range => some (asked ++ [range])) [10, 109, 110] 4 0 [] = .ok (some [(10, 110), (110, 111)]) := by rfl

theorem stub_heights_below (stubs : List (UInt64 × UInt64)) (below : ∀ stub ∈ stubs, stub.2.toNat < 2 ^ 64 - 1) :
    ∀ height ∈ stubHeights stubs, height.toNat < 2 ^ 64 - 1 := by
  intro height member
  obtain ⟨stub, selected, rfl⟩ := (mem_stub_heights stubs height).mp member
  exact below stub selected

theorem stub_window_loop {Fetched : Type} (fetch : Fetched → UInt64 × UInt64 → Option Fetched) (stubs : List (UInt64 × UInt64))
    (below : ∀ stub ∈ stubs, stub.2.toNat < 2 ^ 64 - 1) (fuel : Nat) (enough : (stubHeights stubs).length < fuel) (fetched : Fetched) :
    windowLoop fetch (stubHeights stubs) fuel 0 fetched = .ok ((windows (stubHeights stubs)).foldlM fetch fetched) :=
  window_loop_from fetch (stubHeights stubs) (stub_heights_increasing stubs) (stub_heights_below stubs below) fuel 0 fetched
    (Nat.zero_le _) enough

section Refetch

variable {Transaction Entry FeedMessage : Type} [RollupQueueEntry Entry] (rollup : Rollup Transaction Entry FeedMessage)
  (reader : Reader Transaction) (expected : ExtTreeSet UInt64)

def refetch (fetched : ExtTreeMap UInt64 Entry) (range : UInt64 × UInt64) : Option (ExtTreeMap UInt64 Entry) :=
  (reader range.1 range.2).map fun txns => collect expected fetched (rollup.parseHotshotTransactions txns range.1)

theorem fetch_windows_fold (ranges : List (UInt64 × UInt64)) (fetched : ExtTreeMap UInt64 Entry) :
    fetchWindows rollup reader expected ranges fetched = ranges.foldlM (refetch rollup reader expected) fetched := by
  induction ranges generalizing fetched with
  | nil => rfl
  | cons range ranges ih =>
      rw [fetchWindows, List.foldlM_cons, refetch]
      cases reader range.1 range.2 with
      | none => rfl
      | some txns => exact ih _

-- The recursion that `promoteStubs` runs over the list of ranges is the index loop of the source.
theorem fetch_windows_loop (stubs : List (UInt64 × UInt64)) (below : ∀ stub ∈ stubs, stub.2.toNat < 2 ^ 64 - 1) (fuel : Nat)
    (enough : (stubHeights stubs).length < fuel) (fetched : ExtTreeMap UInt64 Entry) :
    windowLoop (refetch rollup reader expected) (stubHeights stubs) fuel 0 fetched =
      .ok (fetchWindows rollup reader expected (windows (stubHeights stubs)) fetched) := by
  rw [fetch_windows_fold]
  exact stub_window_loop (refetch rollup reader expected) stubs below fuel enough fetched

end Refetch

theorem window_start_needed (needed : UInt64 → Prop) (start last : UInt64) (window : Window needed start last) : needed start := by
  obtain ⟨first, member, -, path⟩ := window.opened
  cases path.cases_tail with
  | inl same => exact same ▸ member
  | inr step =>
      obtain ⟨previous, -, move⟩ := step
      exact move.1

structure NeededRange (heights : List UInt64) (range : UInt64 × UInt64) (last : UInt64) : Prop where
  start : range.1 ∈ heights
  final : last ∈ heights
  stop : range.2 = last + 1
  word : range.2.toNat = last.toNat + 1
  ordered : range.1 ≤ last
  short : last.toNat < range.1.toNat + hotshotRangeLimit.toNat

theorem window_needed_range (heights : List UInt64) (increasing : heights.Pairwise (· < ·))
    (below : ∀ height ∈ heights, height.toNat < 2 ^ 64 - 1) (range : UInt64 × UInt64) (member : range ∈ windows heights) :
    ∃ last, NeededRange heights range last := by
  obtain ⟨start, last, window, rfl⟩ := (windows_iff heights increasing range).mp member
  have closes := window.closes
  have small := below last closes.member
  have word : (last + 1).toNat = last.toNat + 1 := Word64.toNat_add_of_fits last 1 (by change last.toNat + 1 < 2 ^ 64; omega)
  exact ⟨last, window_start_needed _ start last window, closes.member, rfl, word, closes.ordered, closes.reached⟩

def Holds (range : UInt64 × UInt64) (height : UInt64) : Prop := range.1 ≤ height ∧ height < range.2

theorem needed_range_holds (heights : List UInt64) (range : UInt64 × UInt64) (last height : UInt64)
    (need : NeededRange heights range last) : height ∈ spanned range ↔ Holds range height := by
  have shape : WindowShape range := ⟨last, need.stop, need.ordered, need.short⟩
  have before : range.2 - 1 = last := by rw [need.stop, UInt64.add_sub_cancel]
  have word := need.word
  rw [mem_spanned range shape height, before, Holds, UInt64.le_iff_toNat_le, UInt64.le_iff_toNat_le, UInt64.lt_iff_toNat_lt]
  omega

-- What the ranges of one promotion have to satisfy: they lie one above the
-- other, each needed height is in one of them and they reach no further than needed.
structure RangesFit (needed : UInt64 → Prop) (ranges : List (UInt64 × UInt64)) : Prop where
  forward : ∀ range ∈ ranges, range.1 < range.2
  increasing : ranges.Pairwise fun range later => range.2 ≤ later.1
  once : ∀ height, needed height → ∃! range, range ∈ ranges ∧ Holds range height
  starts : ∀ range ∈ ranges, needed range.1
  ends : ∀ range ∈ ranges, needed (range.2 - 1)
  short : ∀ range ∈ ranges, range.2.toNat - range.1.toNat ≤ hotshotRangeLimit.toNat

section Fit

variable (heights : List UInt64) (increasing : heights.Pairwise (· < ·)) (below : ∀ height ∈ heights, height.toNat < 2 ^ 64 - 1)

include increasing below

theorem windows_ordered : (windows heights).Pairwise fun range later => range.2 ≤ later.1 := by
  have apart := (List.pairwise_flatMap.mp (windows_plan heights increasing).increasing).2
  refine apart.imp_of_mem ?_
  intro range later member memberLater above
  obtain ⟨last, need⟩ := window_needed_range heights increasing below range member
  obtain ⟨lastLater, needLater⟩ := window_needed_range heights increasing below later memberLater
  have word := need.word
  have wordLater := needLater.word
  have order := UInt64.le_iff_toNat_le.mp need.ordered
  have orderLater := UInt64.le_iff_toNat_le.mp needLater.ordered
  have here : Holds range last := ⟨need.ordered, UInt64.lt_iff_toNat_lt.mpr (by omega)⟩
  have there : Holds later later.1 := ⟨le_refl _, UInt64.lt_iff_toNat_lt.mpr (by omega)⟩
  have less := above last ((needed_range_holds heights range last last need).mpr here) later.1
    ((needed_range_holds heights later lastLater later.1 needLater).mpr there)
  have lower := UInt64.lt_iff_toNat_lt.mp less
  exact UInt64.le_iff_toNat_le.mpr (by omega)

theorem windows_once (height : UInt64) (needed : height ∈ heights) : ∃! range, range ∈ windows heights ∧ Holds range height := by
  obtain ⟨range, member, inside⟩ := List.mem_flatMap.mp ((windows_plan heights increasing).cover height needed)
  obtain ⟨last, need⟩ := window_needed_range heights increasing below range member
  have holds := (needed_range_holds heights range last height need).mp inside
  have apart : (windows heights).Pairwise fun range later => ¬ (Holds range height ∧ Holds later height) := by
    refine (windows_ordered heights increasing below).imp ?_
    intro range later order both
    exact absurd (lt_of_lt_of_le both.1.2 (le_trans order both.2.1)) (lt_irrefl height)
  have symmetric : Std.Symm fun range later : UInt64 × UInt64 => ¬ (Holds range height ∧ Holds later height) :=
    ⟨fun _ _ given both => given both.symm⟩
  refine ⟨range, ⟨member, holds⟩, ?_⟩
  intro other given
  by_contra different
  exact apart.forall given.1 member different ⟨given.2, holds⟩

theorem windows_fit : RangesFit (· ∈ heights) (windows heights) := by
  have each := window_needed_range heights increasing below
  refine ⟨?_, windows_ordered heights increasing below, windows_once heights increasing below, ?_, ?_, ?_⟩
  · intro range member
    obtain ⟨last, need⟩ := each range member
    have word := need.word
    have order := UInt64.le_iff_toNat_le.mp need.ordered
    exact UInt64.lt_iff_toNat_lt.mpr (by omega)
  · intro range member
    obtain ⟨last, need⟩ := each range member
    exact need.start
  · intro range member
    obtain ⟨last, need⟩ := each range member
    rw [need.stop, UInt64.add_sub_cancel]
    exact need.final
  · intro range member
    obtain ⟨last, need⟩ := each range member
    have word := need.word
    have reached := need.short
    omega

end Fit

section Client

variable {Response : Type} (get : UInt64 → UInt64 → Except Stop Response) (limit start stop : UInt64) (forward : start ≤ stop)

include forward

theorem wide_range_refused (wide : limit < stop - start) :
    fetchNamespaceTransactionsInRange limit get start stop = .error (.bail s!"requested block range exceeds maximum allowed {limit}") := by
  rw [fetchNamespaceTransactionsInRange, CheckedSlice.sub, if_pos forward]
  exact if_pos wide

theorem short_range_fetched (short : stop - start ≤ limit) : fetchNamespaceTransactionsInRange limit get start stop = get start stop := by
  rw [fetchNamespaceTransactionsInRange, CheckedSlice.sub, if_pos forward]
  exact if_neg (not_lt.mpr short)

end Client

theorem stub_heights_fit (stubs : List (UInt64 × UInt64)) (below : ∀ stub ∈ stubs, stub.2.toNat < 2 ^ 64 - 1) :
    RangesFit (fun height => ∃ stub ∈ stubs, stub.2 = height) (windows (stubHeights stubs)) := by
  have fit := windows_fit (stubHeights stubs) (stub_heights_increasing stubs) (stub_heights_below stubs below)
  simpa only [mem_stub_heights] using fit

theorem fit_range_fetched {Response : Type} (get : UInt64 → UInt64 → Except Stop Response) (needed : UInt64 → Prop)
    (ranges : List (UInt64 × UInt64)) (fit : RangesFit needed ranges) (range : UInt64 × UInt64) (member : range ∈ ranges) :
    fetchNamespaceTransactionsInRange hotshotRangeLimit get range.1 range.2 = get range.1 range.2 := by
  have forward : range.1 ≤ range.2 := le_of_lt (fit.forward range member)
  apply short_range_fetched get hotshotRangeLimit range.1 range.2 forward
  rw [UInt64.le_iff_toNat_le, UInt64.toNat_sub_of_le range.2 range.1 forward]
  exact fit.short range member

/-- The window loop of promotion ends without a panic for every non-empty selection of stubs whose heights leave room for
an exclusive end. The ranges it asks for fit the selected heights, the client passes each of them on, and it would
refuse any range that is wider. -/
theorem stub_windows_fit {Response : Type} (get : UInt64 → UInt64 → Except Stop Response) (stubs : List (UInt64 × UInt64))
    (selected : stubs ≠ []) (below : ∀ stub ∈ stubs, stub.2.toNat < 2 ^ 64 - 1) :
    ∃ ranges : List (UInt64 × UInt64), ranges ≠ [] ∧
      (∀ (Fetched : Type) (fetch : Fetched → UInt64 × UInt64 → Option Fetched) (fetched : Fetched) (fuel : Nat),
        (stubHeights stubs).length < fuel →
          windowLoop fetch (stubHeights stubs) fuel 0 fetched = .ok (ranges.foldlM fetch fetched)) ∧
      RangesFit (fun height => ∃ stub ∈ stubs, stub.2 = height) ranges ∧
      (∀ range ∈ ranges, fetchNamespaceTransactionsInRange hotshotRangeLimit get range.1 range.2 = get range.1 range.2) ∧
      ∀ start stop, start ≤ stop → hotshotRangeLimit < stop - start →
        fetchNamespaceTransactionsInRange hotshotRangeLimit get start stop =
          .error (.bail s!"requested block range exceeds maximum allowed {hotshotRangeLimit}") := by
  have fit := stub_heights_fit stubs below
  refine ⟨windows (stubHeights stubs), ?_, ?_, fit, fit_range_fetched get _ _ fit, wide_range_refused get hotshotRangeLimit⟩
  · obtain ⟨stub, member⟩ := List.exists_mem_of_ne_nil stubs selected
    obtain ⟨range, ⟨listed, -⟩, -⟩ := fit.once stub.2 ⟨stub, member, rfl⟩
    exact List.ne_nil_of_mem listed
  · intro Fetched fetch fetched fuel enough
    exact stub_window_loop fetch stubs below fuel enough fetched

theorem three_stub_windows_fit : ∃ ranges, ranges ≠ [] ∧
    windowLoop (fun asked range => some (asked ++ [range])) (stubHeights [(1, 10), (2, 109), (3, 110)]) 4 0 [] =
      .ok (ranges.foldlM (fun asked range => some (asked ++ [range])) []) ∧
    RangesFit (fun height => ∃ stub ∈ [((1 : UInt64), (10 : UInt64)), (2, 109), (3, 110)], stub.2 = height) ranges := by
  obtain ⟨ranges, some, loop, fit, -⟩ := stub_windows_fit (fun start stop => Except.ok (start, stop))
    [(1, 10), (2, 109), (3, 110)] (by decide) (by simp)
  exact ⟨ranges, some, loop _ _ [] 4 (by decide +kernel), fit⟩

end Cas
