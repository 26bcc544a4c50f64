import Mathlib

set_option autoImplicit false

-- A broadcast channel that keeps the newest values only. Each receiver is a
-- position in the log of everything sent: it lags when the value there is overwritten.
structure BroadcastRing (Value : Type) where
  capacity : Nat
  log : List Value
  positive : 0 < capacity
deriving DecidableEq

namespace BroadcastRing

variable {Value : Type}

def new (capacity : Nat) (positive : 0 < capacity) : BroadcastRing Value := ⟨capacity, [], positive⟩

def push (ring : BroadcastRing Value) (value : Value) : BroadcastRing Value := { ring with log := ring.log ++ [value] }

def oldest (ring : BroadcastRing Value) : Nat := ring.log.length - ring.capacity

-- What a receiver can still read, and whether it has lost something before that.
def window (ring : BroadcastRing Value) (position : Nat) : List Value := ring.log.drop (max position ring.oldest)

def lagged (ring : BroadcastRing Value) (position : Nat) : Bool := position < ring.oldest

theorem length_window (ring : BroadcastRing Value) (position : Nat) :
    (ring.window position).length = min (ring.log.length - position) ring.capacity := by
  rw [window, oldest, List.length_drop]
  omega

@[simp]
theorem window_end (ring : BroadcastRing Value) : ring.window ring.log.length = [] := by
  rw [window, List.drop_eq_nil_iff]
  exact le_max_left _ _

@[simp]
theorem lagged_end (ring : BroadcastRing Value) : ring.lagged ring.log.length = false :=
  decide_eq_false (by rw [oldest]; omega)

-- The shared log, seen through one receiver, is a queue of its own that drops its oldest value when it is full.
theorem window_push (ring : BroadcastRing Value) (value : Value) (position : Nat) (placed : position ≤ ring.log.length) :
    (ring.push value).window position =
      (if (ring.window position).length < ring.capacity then ring.window position else (ring.window position).tail) ++ [value] := by
  have positive := ring.positive
  have size := ring.length_window position
  have grown : (ring.push value).oldest = ring.log.length + 1 - ring.capacity := by simp [push, oldest]
  have pushed : (ring.push value).log = ring.log ++ [value] := rfl
  rw [window, grown, pushed, size]
  split
  · rename_i room
    have same : max position (ring.log.length + 1 - ring.capacity) = max position ring.oldest := by
      rw [oldest]
      omega
    rw [same, List.drop_append_of_le_length (by rw [oldest]; omega), window]
  · rename_i full
    have next : max position (ring.log.length + 1 - ring.capacity) = max position ring.oldest + 1 := by
      rw [oldest]
      omega
    rw [next, List.drop_append_of_le_length (by rw [oldest]; omega), window, List.tail_drop]

theorem lagged_push (ring : BroadcastRing Value) (value : Value) (position : Nat) :
    (ring.push value).lagged position =
      if (ring.window position).length < ring.capacity then ring.lagged position else true := by
  have positive := ring.positive
  have size := ring.length_window position
  have grown : (ring.push value).oldest = ring.log.length + 1 - ring.capacity := by simp [push, oldest]
  rw [lagged, grown, size]
  split
  · rename_i room
    rw [lagged, oldest, decide_eq_decide]
    omega
  · rename_i full
    exact decide_eq_true (by omega)

theorem window_read (ring : BroadcastRing Value) (position : Nat) (value : Value) (rest : List Value)
    (current : ring.lagged position = false) (first : ring.window position = value :: rest) :
    position < ring.log.length ∧ ring.window (position + 1) = rest ∧ ring.lagged (position + 1) = false := by
  have kept : ring.oldest ≤ position := by simpa [lagged] using current
  have size := ring.length_window position
  rw [first, List.length_cons] at size
  refine ⟨by omega, ?_, ?_⟩
  · rw [window, max_eq_left kept] at first
    rw [window, max_eq_left (by omega), ← List.tail_drop, first, List.tail_cons]
  · simp only [lagged, decide_eq_false_iff_not, not_lt]
    omega

end BroadcastRing
