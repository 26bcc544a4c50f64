import Cas.Lib.Word64

set_option autoImplicit false

namespace CheckedSlice

variable {α : Type}

-- No allocation of the language exceeds `isize::MAX` elements.
structure Slice (α : Type) where
  elems : List α
  addressable : elems.length < 2 ^ 63

-- How a computation over a slice can stop without a result. Neither an index
-- out of bounds nor an overflowing index is an error the caller can see.
inductive Stop where
  | bail (reason : String)
  | panic
  | running
deriving DecidableEq, Repr

def add (a b : UInt64) : Except Stop UInt64 :=
  match Word64.checkedAdd a b with
  | some sum => .ok sum
  | none => .error .panic

def sub (a b : UInt64) : Except Stop UInt64 := if b ≤ a then .ok (a - b) else .error .panic

def element (elems : List α) (index : Nat) : Except Stop α :=
  match elems[index]? with
  | some elem => .ok elem
  | none => .error .panic

def suffix (slice : Slice α) (start : UInt64) : Except Stop (List α) :=
  if start.toNat ≤ slice.elems.length then .ok (slice.elems.drop start.toNat) else .error .panic

def range (slice : Slice α) (start stop : UInt64) : Except Stop (List α) :=
  if start ≤ stop ∧ stop.toNat ≤ slice.elems.length then .ok ((slice.elems.take stop.toNat).drop start.toNat) else .error .panic

theorem add_of_fits (a b : UInt64) (fits : a.toNat + b.toNat < 2 ^ 64) : add a b = .ok (a + b) := by
  rw [add, Word64.checked_add_of_fits a b fits]

theorem element_found (elems : List α) (index : Nat) (elem : α) (found : elems[index]? = some elem) :
    element elems index = .ok elem := by
  rw [element, found]

theorem suffix_inside (slice : Slice α) (start : UInt64) (inside : start.toNat ≤ slice.elems.length) :
    suffix slice start = .ok (slice.elems.drop start.toNat) := if_pos inside

-- A stretch that lies in the slice: its end does not overflow, and it is read
-- as the front of what is left at its start.
structure Stretch (slice : Slice α) (start size stop : UInt64) : Prop where
  ends : add start size = .ok stop
  position : stop.toNat = start.toNat + size.toNat
  inside : stop.toNat ≤ slice.elems.length
  read : range slice start stop = .ok ((slice.elems.drop start.toNat).take size.toNat)
  left : slice.elems.drop stop.toNat = (slice.elems.drop start.toNat).drop size.toNat

theorem stretch_inside (slice : Slice α) (start size : UInt64) (inside : start.toNat ≤ slice.elems.length)
    (enough : size.toNat ≤ (slice.elems.drop start.toNat).length) : Stretch slice start size (start + size) := by
  have addressable := slice.addressable
  rw [List.length_drop] at enough
  have position := Word64.toNat_add_of_fits start size (by omega)
  have ordered : start ≤ start + size := by
    rw [UInt64.le_iff_toNat_le, position]
    omega
  have bounded : (start + size).toNat ≤ slice.elems.length := by omega
  refine ⟨add_of_fits start size (by omega), position, bounded, ?_, ?_⟩
  · rw [range, if_pos ⟨ordered, bounded⟩, List.drop_take, position, Nat.add_sub_cancel_left]
  · rw [position, List.drop_drop]

end CheckedSlice
