import Mathlib

set_option autoImplicit false

namespace BigEndian

def encode : Nat → Nat → List UInt8
  | 0, _ => []
  | width + 1, value => encode width (value / 256) ++ [UInt8.ofNat value]

def decode (bytes : List UInt8) : Nat := bytes.foldl (fun value byte => value * 256 + byte.toNat) 0

-- The shortest form of a number: leading zero bytes are left out, zero is empty.
def trim (bytes : List UInt8) : List UInt8 := bytes.dropWhile (· == 0)

theorem length_encode (width value : Nat) : (encode width value).length = width := by
  induction width generalizing value with
  | zero => rfl
  | succ width ih => simp [encode, ih]

theorem decode_concat (bytes : List UInt8) (byte : UInt8) : decode (bytes ++ [byte]) = decode bytes * 256 + byte.toNat := by
  simp [decode]

theorem decode_encode (width value : Nat) (fits : value < 256 ^ width) : decode (encode width value) = value := by
  induction width generalizing value with
  | zero =>
      have empty : value = 0 := by simpa using fits
      rw [empty]
      rfl
  | succ width ih =>
      have high : value / 256 < 256 ^ width := by
        apply Nat.div_lt_of_lt_mul
        rwa [Nat.pow_succ, Nat.mul_comm] at fits
      rw [encode, decode_concat, ih _ high]
      have low : (UInt8.ofNat value).toNat = value % 256 := rfl
      omega

theorem encode_decode (bytes : List UInt8) : encode bytes.length (decode bytes) = bytes := by
  induction bytes using List.reverseRecOn with
  | nil => rfl
  | append_singleton front byte ih =>
      have small : byte.toNat < 256 := UInt8.toNat_lt byte
      have high : (decode front * 256 + byte.toNat) / 256 = decode front := by omega
      have low : UInt8.ofNat (decode front * 256 + byte.toNat) = byte := by
        apply UInt8.toNat_inj.mp
        change (decode front * 256 + byte.toNat) % 256 = byte.toNat
        omega
      rw [List.length_append, List.length_singleton, encode, decode_concat, high, low, ih]

theorem decode_lt (bytes : List UInt8) : decode bytes < 256 ^ bytes.length := by
  induction bytes using List.reverseRecOn with
  | nil => decide
  | append_singleton front byte ih =>
      have small : byte.toNat < 256 := UInt8.toNat_lt byte
      rw [decode_concat, List.length_append, List.length_singleton, Nat.pow_succ]
      omega

theorem decode_cons (byte : UInt8) (bytes : List UInt8) : decode (byte :: bytes) = byte.toNat * 256 ^ bytes.length + decode bytes := by
  induction bytes using List.reverseRecOn with
  | nil => simp [decode]
  | append_singleton front last ih =>
      rw [← List.cons_append, decode_concat, ih, decode_concat, List.length_append, List.length_singleton, Nat.pow_succ]
      ring

theorem decode_cons_zero (bytes : List UInt8) : decode (0 :: bytes) = decode bytes := rfl

theorem decode_trim (bytes : List UInt8) : decode (trim bytes) = decode bytes := by
  induction bytes with
  | nil => rfl
  | cons byte tail ih =>
      by_cases zero : byte = 0
      · rw [zero, decode_cons_zero, ← ih]
        rfl
      · simp [trim, zero]

theorem trim_head (bytes : List UInt8) : (trim bytes).head? ≠ some 0 := by
  induction bytes with
  | nil => simp [trim]
  | cons byte tail ih =>
      by_cases zero : byte = 0
      · simpa [trim, zero] using ih
      · simp [trim, zero]

theorem length_trim (bytes : List UInt8) : (trim bytes).length ≤ bytes.length := (List.dropWhile_sublist _).length_le

theorem decode_length_bound (bytes : List UInt8) (canonical : bytes.head? ≠ some 0) (more : bytes ≠ []) :
    256 ^ (bytes.length - 1) ≤ decode bytes := by
  cases bytes with
  | nil => exact absurd rfl more
  | cons byte tail =>
      have positive : 1 ≤ byte.toNat := by
        apply Nat.one_le_iff_ne_zero.mpr
        intro zero
        exact canonical (by rw [List.head?_cons, UInt8.toNat_inj.mp (zero.trans rfl : byte.toNat = (0 : UInt8).toNat)])
      rw [decode_cons, List.length_cons, Nat.add_sub_cancel]
      exact Nat.le_trans (Nat.le_mul_of_pos_left _ positive) (Nat.le_add_right _ _)

theorem canonical_length_le (a b : List UInt8) (canonical : a.head? ≠ some 0) (same : decode a = decode b) : a.length ≤ b.length := by
  by_cases empty : a = []
  · simp [empty]
  · have low := decode_length_bound a canonical empty
    have high := decode_lt b
    have less : 256 ^ (a.length - 1) < 256 ^ b.length := Nat.lt_of_le_of_lt (same ▸ low) high
    have exponents := (Nat.pow_lt_pow_iff_right (by decide)).mp less
    omega

theorem canonical_unique (a b : List UInt8) (canonicalA : a.head? ≠ some 0) (canonicalB : b.head? ≠ some 0)
    (same : decode a = decode b) : a = b := by
  have lengths : a.length = b.length :=
    Nat.le_antisymm (canonical_length_le a b canonicalA same) (canonical_length_le b a canonicalB same.symm)
  rw [← encode_decode a, ← encode_decode b, lengths, same]

theorem encode_injective (width a b : Nat) (fitsA : a < 256 ^ width) (fitsB : b < 256 ^ width)
    (same : encode width a = encode width b) : a = b := by
  rw [← decode_encode width a fitsA, ← decode_encode width b fitsB, same]

theorem trim_encode_injective (width a b : Nat) (fitsA : a < 256 ^ width) (fitsB : b < 256 ^ width)
    (same : trim (encode width a) = trim (encode width b)) : a = b := by
  rw [← decode_encode width a fitsA, ← decode_encode width b fitsB, ← decode_trim (encode width a), same, decode_trim]

end BigEndian
