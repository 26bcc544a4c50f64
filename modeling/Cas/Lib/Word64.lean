import Mathlib

set_option autoImplicit false

-- Core has the order lemmas of 64-bit words. Packaged as a linear order, the
-- order-generic lemmas about slices and maps apply to them.
instance Word64.linearOrder : LinearOrder UInt64 where
  le_refl := UInt64.le_refl
  le_trans _ _ _ := UInt64.le_trans
  lt_iff_le_not_ge _ _ := by rw [UInt64.not_le]; exact ⟨fun less => ⟨UInt64.le_of_lt less, less⟩, fun both => both.2⟩
  le_antisymm _ _ := UInt64.le_antisymm
  le_total := UInt64.le_total
  toMin := inferInstance
  toMax := inferInstance
  min_def _ _ := rfl
  max_def _ _ := rfl
  toDecidableLE := inferInstance
  toDecidableLT := inferInstance
  toDecidableEq := inferInstance

namespace Word64

-- The standard library's checked addition; the other additions wrap.
def checkedAdd (a b : UInt64) : Option UInt64 := if a.toNat + b.toNat < 2 ^ 64 then some (a + b) else none

def saturatingAdd (a b : UInt64) : UInt64 := if a.toNat + b.toNat < 2 ^ 64 then a + b else UInt64.ofNat (2 ^ 64 - 1)

def saturatingSub (a b : UInt64) : UInt64 := if b ≤ a then a - b else 0

theorem toNat_add_of_fits (a b : UInt64) (fits : a.toNat + b.toNat < 2 ^ 64) : (a + b).toNat = a.toNat + b.toNat := by
  rw [UInt64.toNat_add, Nat.mod_eq_of_lt fits]

theorem checked_add_of_fits (a b : UInt64) (fits : a.toNat + b.toNat < 2 ^ 64) : checkedAdd a b = some (a + b) := if_pos fits

theorem toNat_saturating_add (a b : UInt64) : (saturatingAdd a b).toNat = min (a.toNat + b.toNat) (2 ^ 64 - 1) := by
  unfold saturatingAdd
  split
  · rename_i fits
    rw [toNat_add_of_fits a b fits]
    omega
  · rename_i full
    have top : (UInt64.ofNat (2 ^ 64 - 1)).toNat = 2 ^ 64 - 1 := rfl
    rw [top]
    omega

theorem toNat_saturating_sub (a b : UInt64) : (saturatingSub a b).toNat = a.toNat - b.toNat := by
  unfold saturatingSub
  split
  · rename_i below
    exact UInt64.toNat_sub_of_le a b below
  · rename_i above
    rw [UInt64.le_iff_toNat_le] at above
    change 0 = a.toNat - b.toNat
    omega

theorem toNat_max (a b : UInt64) : (max a b).toNat = max a.toNat b.toNat := by
  rcases le_total a b with low | high
  · rw [max_eq_right low, Nat.max_eq_right (UInt64.le_iff_toNat_le.mp low)]
  · rw [max_eq_left high, Nat.max_eq_left (UInt64.le_iff_toNat_le.mp high)]

theorem toNat_min (a b : UInt64) : (min a b).toNat = min a.toNat b.toNat := by
  rcases le_total a b with low | high
  · rw [min_eq_left low, Nat.min_eq_left (UInt64.le_iff_toNat_le.mp low)]
  · rw [min_eq_right high, Nat.min_eq_right (UInt64.le_iff_toNat_le.mp high)]

theorem toNat_succ (a b : UInt64) (less : a < b) : (a + 1).toNat = a.toNat + 1 := by
  apply toNat_add_of_fits
  have bound := UInt64.toNat_lt b
  have lessNat := UInt64.lt_iff_toNat_lt.mp less
  change a.toNat + 1 < 2 ^ 64
  omega

theorem checked_succ_le (a b next : UInt64) (fits : checkedAdd a 1 = some next) : next ≤ b ↔ a < b := by
  unfold checkedAdd at fits
  split at fits
  · rename_i room
    obtain rfl := Option.some.inj fits
    rw [UInt64.le_iff_toNat_le, UInt64.lt_iff_toNat_lt, toNat_add_of_fits a 1 room]
    change a.toNat + 1 ≤ b.toNat ↔ a.toNat < b.toNat
    omega
  · cases fits

theorem checked_succ_none (a b : UInt64) (overflow : checkedAdd a 1 = none) : ¬ a < b := by
  unfold checkedAdd at overflow
  split at overflow
  · cases overflow
  · rename_i full
    have bound := UInt64.toNat_lt b
    change ¬ a.toNat + 1 < 2 ^ 64 at full
    rw [UInt64.lt_iff_toNat_lt]
    omega

end Word64
