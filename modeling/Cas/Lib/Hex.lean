import Mathlib

set_option autoImplicit false

namespace Hex

inductive Error where
  | oddLength
  | invalidHexCharacter (c : UInt8) (index : Nat)
deriving DecidableEq, Repr

def digit (value : UInt8) : UInt8 := if value < 10 then 48 + value else 87 + value

def encode (bytes : List UInt8) : List UInt8 := bytes.flatMap fun byte : UInt8 => [digit (byte >>> 4), digit (byte &&& 15)]

def digitValue (c : UInt8) : Option UInt8 :=
  if 65 ≤ c ∧ c ≤ 70 then some (c - 65 + 10)
  else if 97 ≤ c ∧ c ≤ 102 then some (c - 97 + 10)
  else if 48 ≤ c ∧ c ≤ 57 then some (c - 48)
  else none

def val (c : UInt8) (index : Nat) : Except Error UInt8 :=
  match digitValue c with
  | some value => .ok value
  | none => .error (.invalidHexCharacter c index)

def decodePairs (index : Nat) : List UInt8 → Except Error (List UInt8)
  | high :: low :: rest =>
      match val high index with
      | .error reason => .error reason
      | .ok first =>
          match val low (index + 1) with
          | .error reason => .error reason
          | .ok second => (decodePairs (index + 2) rest).map ((first <<< 4 ||| second) :: ·)
  | _ => .ok []

def decode (text : List UInt8) : Except Error (List UInt8) := if text.length % 2 ≠ 0 then .error .oddLength else decodePairs 0 text

theorem digits_read_back (byte : UInt8) :
    digitValue (digit (byte >>> 4)) = some (byte >>> 4) ∧ digitValue (digit (byte &&& 15)) = some (byte &&& 15) ∧
      byte >>> 4 <<< 4 ||| byte &&& 15 = byte := by
  have each : ∀ byte : Fin 256, digitValue (digit (UInt8.ofFin byte >>> 4)) = some (UInt8.ofFin byte >>> 4) ∧
      digitValue (digit (UInt8.ofFin byte &&& 15)) = some (UInt8.ofFin byte &&& 15) ∧
      UInt8.ofFin byte >>> 4 <<< 4 ||| UInt8.ofFin byte &&& 15 = UInt8.ofFin byte := by decide +kernel
  exact each byte.toFin

theorem length_encode (bytes : List UInt8) : (encode bytes).length = 2 * bytes.length := by
  induction bytes with
  | nil => rfl
  | cons byte rest ih =>
      rw [encode, List.flatMap_cons, List.length_append, List.length_cons, ← encode, ih]
      simp only [List.length_cons, List.length_nil]
      omega

theorem decode_pairs_encode (bytes : List UInt8) (index : Nat) : decodePairs index (encode bytes) = .ok bytes := by
  induction bytes generalizing index with
  | nil => rfl
  | cons byte rest ih =>
      obtain ⟨high, low, both⟩ := digits_read_back byte
      rw [encode, List.flatMap_cons, ← encode, List.cons_append, List.cons_append, List.nil_append, decodePairs, val, high, val, low]
      simp only [ih, Except.map, both]

theorem decode_encode (bytes : List UInt8) : decode (encode bytes) = .ok bytes := by
  rw [decode, length_encode, Nat.mul_mod_right, if_neg (not_not.mpr rfl), decode_pairs_encode]

end Hex
