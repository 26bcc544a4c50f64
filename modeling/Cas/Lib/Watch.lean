import Mathlib

set_option autoImplicit false

-- A channel of which receivers see the newest value only. `sent` is everything sent so far; its length is the version.
structure Watch (Value : Type) where
  initial : Value
  sent : List Value
deriving DecidableEq, Repr

namespace Watch

variable {Value : Type}

def borrow (watch : Watch Value) : Value := watch.sent.getLast?.getD watch.initial

def version (watch : Watch Value) : Nat := watch.sent.length

def send (watch : Watch Value) (value : Value) : Watch Value := { watch with sent := watch.sent ++ [value] }

-- A receiver that has seen one version is told of a later one, which it marks as seen. It reads the value afterwards, when
-- there may be a newer one.
structure Changed (watch : Watch Value) (seen mark : Nat) : Prop where
  unseen : seen < mark
  exists_by_now : mark ≤ watch.version

@[simp]
theorem borrow_send (watch : Watch Value) (value : Value) : (watch.send value).borrow = value := by
  simp [send, borrow]

theorem borrow_mem (watch : Watch Value) : watch.borrow = watch.initial ∨ watch.borrow ∈ watch.sent := by
  cases last : watch.sent.getLast? with
  | none => exact .inl (by rw [borrow, last, Option.getD_none])
  | some value =>
      rw [borrow, last, Option.getD_some]
      exact .inr (List.mem_of_getLast? last)

end Watch
