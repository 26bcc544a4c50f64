import Cas.Lib.BigEndian

set_option autoImplicit false

namespace Rlp

-- A truncated input is told apart from every other failure, which has a text.
inductive DecodeError where
  | inputTooShort
  | other (text : String)
deriving DecidableEq, Repr

def DecodeError.text : DecodeError → String
  | .inputTooShort => "input too short"
  | .other text => text

-- A codec of byte strings whose decoder accepts the canonical encodings and
-- nothing else. A length field has at most eight bytes, which bounds the input.
structure StringCodec where
  encode : List UInt8 → List UInt8
  decode : List UInt8 → Except DecodeError (List UInt8 × List UInt8)
  decode_iff : ∀ bytes payload rest, bytes.length < 2 ^ 64 → (decode bytes = .ok (payload, rest) ↔ bytes = encode payload ++ rest)
  encode_ne_nil : ∀ payload, encode payload ≠ []

structure Header where
  list : Bool
  payloadLength : Nat
deriving DecidableEq, Repr

def checkPayload (header : Header) (body : List UInt8) : Except DecodeError (Header × List UInt8) :=
  if body.length < header.payloadLength then .error .inputTooShort else .ok (header, body)

def decodeLong (list : Bool) (width : Nat) (rest : List UInt8) : Except DecodeError (Header × List UInt8) :=
  if rest.length < width then .error .inputTooShort
  else if (rest.take width).head? = some 0 then .error (.other "leading zero")
  else if BigEndian.decode (rest.take width) < 56 then .error (.other "non-canonical size")
  else checkPayload ⟨list, BigEndian.decode (rest.take width)⟩ (rest.drop width)

-- The header, and the bytes from the payload on. A byte below 0x80 is its own payload.
def decodeHeader : List UInt8 → Except DecodeError (Header × List UInt8)
  | [] => .error .inputTooShort
  | first :: rest =>
      if first.toNat < 0x80 then .ok (⟨false, 1⟩, first :: rest)
      else if first.toNat ≤ 0xb7 then
        if first.toNat = 0x81 ∧ (rest.head?.any fun byte => byte.toNat < 0x80) = true then .error (.other "non-canonical single byte")
        else checkPayload ⟨false, first.toNat - 0x80⟩ rest
      else if first.toNat ≤ 0xbf then decodeLong false (first.toNat - 0xb7) rest
      else if first.toNat ≤ 0xf7 then checkPayload ⟨true, first.toNat - 0xc0⟩ rest
      else decodeLong true (first.toNat - 0xf7) rest

def decodeString (bytes : List UInt8) : Except DecodeError (List UInt8 × List UInt8) :=
  match decodeHeader bytes with
  | .error error => .error error
  | .ok (header, body) =>
      if header.list then .error (.other "unexpected list") else .ok (body.take header.payloadLength, body.drop header.payloadLength)

def encodeString (payload : List UInt8) : List UInt8 :=
  if payload.length = 1 ∧ (payload.head?.any fun byte => byte.toNat < 0x80) = true then payload
  else if payload.length ≤ 55 then UInt8.ofNat (0x80 + payload.length) :: payload
  else
    let lengthBytes := BigEndian.trim (BigEndian.encode 8 payload.length)
    UInt8.ofNat (0xb7 + lengthBytes.length) :: (lengthBytes ++ payload)

theorem toNat_ofNat_small (n : Nat) (small : n < 256) : (UInt8.ofNat n).toNat = n := UInt8.toNat_ofNat_of_lt' small

theorem check_payload_ok (header : Header) (body : List UInt8) (result : Header × List UInt8) :
    checkPayload header body = .ok result ↔ header.payloadLength ≤ body.length ∧ result = (header, body) := by
  unfold checkPayload
  by_cases short : body.length < header.payloadLength
  · simp [short]
  · simp [short, not_lt.mp short, eq_comm]

theorem decode_long_ok (list : Bool) (width : Nat) (rest : List UInt8) (result : Header × List UInt8) :
    decodeLong list width rest = .ok result ↔
      width ≤ rest.length ∧ (rest.take width).head? ≠ some 0 ∧ 56 ≤ BigEndian.decode (rest.take width) ∧
        BigEndian.decode (rest.take width) ≤ (rest.drop width).length ∧
        result = (⟨list, BigEndian.decode (rest.take width)⟩, rest.drop width) := by
  unfold decodeLong
  by_cases short : rest.length < width
  · simp [short]
  · by_cases zero : (rest.take width).head? = some 0
    · rw [if_neg short, if_pos zero]
      simp [zero]
    · by_cases small : BigEndian.decode (rest.take width) < 56
      · rw [if_neg short, if_neg zero, if_pos small]
        simp [not_le.mpr small]
      · rw [if_neg short, if_neg zero, if_neg small, check_payload_ok]
        simp only [not_lt.mp short, zero, ne_eq, not_false_eq_true, not_lt.mp small, true_and]

theorem encode_string_byte (byte : UInt8) (small : byte.toNat < 0x80) : encodeString [byte] = [byte] := by
  simp [encodeString, small]

theorem encode_string_short (payload : List UInt8) (short : payload.length ≤ 55)
    (plain : ¬ (payload.length = 1 ∧ (payload.head?.any fun byte => byte.toNat < 0x80) = true)) :
    encodeString payload = UInt8.ofNat (0x80 + payload.length) :: payload := by
  rw [encodeString, if_neg plain, if_pos short]

theorem encode_string_long (payload : List UInt8) (long : 56 ≤ payload.length) :
    encodeString payload = UInt8.ofNat (0xb7 + (BigEndian.trim (BigEndian.encode 8 payload.length)).length) ::
      (BigEndian.trim (BigEndian.encode 8 payload.length) ++ payload) := by
  rw [encodeString, if_neg (by omega), if_neg (by omega)]

theorem encode_string_ne_nil (payload : List UInt8) : encodeString payload ≠ [] := by
  unfold encodeString
  split
  · rename_i single
    exact List.ne_nil_of_length_pos (by omega)
  · split <;> exact List.cons_ne_nil _ _

theorem length_bytes_spec (length : Nat) (long : 56 ≤ length) (fits : length < 2 ^ 64) :
    BigEndian.decode (BigEndian.trim (BigEndian.encode 8 length)) = length ∧
      1 ≤ (BigEndian.trim (BigEndian.encode 8 length)).length ∧ (BigEndian.trim (BigEndian.encode 8 length)).length ≤ 8 := by
  have value : BigEndian.decode (BigEndian.trim (BigEndian.encode 8 length)) = length := by
    rw [BigEndian.decode_trim, BigEndian.decode_encode 8 length fits]
  refine ⟨value, ?_, ?_⟩
  · by_contra none
    have empty := List.length_eq_zero_iff.mp (by omega : (BigEndian.trim (BigEndian.encode 8 length)).length = 0)
    rw [empty] at value
    change 0 = length at value
    omega
  · have bound := BigEndian.length_trim (BigEndian.encode 8 length)
    rwa [BigEndian.length_encode] at bound

theorem decode_long_length (list : Bool) (length : Nat) (body : List UInt8) (long : 56 ≤ length) (fits : length < 2 ^ 64)
    (room : length ≤ body.length) :
    decodeLong list (BigEndian.trim (BigEndian.encode 8 length)).length (BigEndian.trim (BigEndian.encode 8 length) ++ body) =
      .ok (⟨list, length⟩, body) := by
  obtain ⟨value, -, -⟩ := length_bytes_spec length long fits
  have canonical := BigEndian.trim_head (BigEndian.encode 8 length)
  rw [decode_long_ok, List.take_left, List.drop_left, value]
  exact ⟨by simp, canonical, long, room, rfl⟩

theorem decode_header_encode_string (payload rest : List UInt8) (fits : payload.length < 2 ^ 64) :
    decodeHeader (encodeString payload ++ rest) = .ok (⟨false, payload.length⟩, payload ++ rest) := by
  by_cases long : 56 ≤ payload.length
  · obtain ⟨-, low, high⟩ := length_bytes_spec payload.length long fits
    have header := decode_long_length false payload.length (payload ++ rest) long fits (by simp)
    rw [encode_string_long payload long]
    generalize BigEndian.trim (BigEndian.encode 8 payload.length) = lengthBytes at low high header ⊢
    have first : (UInt8.ofNat (0xb7 + lengthBytes.length)).toNat = 0xb7 + lengthBytes.length := toNat_ofNat_small _ (by omega)
    rw [List.cons_append, decodeHeader, first, if_neg (by omega), if_neg (by omega), if_pos (by omega), Nat.add_sub_cancel_left,
      List.append_assoc, header]
  · by_cases single : payload.length = 1 ∧ (payload.head?.any fun byte => byte.toNat < 0x80) = true
    · obtain ⟨byte, rfl⟩ := List.length_eq_one_iff.mp single.1
      have small : byte.toNat < 0x80 := by simpa using single.2
      rw [encode_string_byte byte small, List.singleton_append, decodeHeader, if_pos small]
      rfl
    · have first : (UInt8.ofNat (0x80 + payload.length)).toNat = 0x80 + payload.length := toNat_ofNat_small _ (by omega)
      have plain : ¬ ((UInt8.ofNat (0x80 + payload.length)).toNat = 0x81 ∧
          ((payload ++ rest).head?.any fun byte => byte.toNat < 0x80) = true) := by
        rw [first]
        intro given
        have one : payload.length = 1 := by omega
        obtain ⟨byte, rfl⟩ := List.length_eq_one_iff.mp one
        exact single ⟨one, given.2⟩
      have header : checkPayload ⟨false, payload.length⟩ (payload ++ rest) = .ok (⟨false, payload.length⟩, payload ++ rest) :=
        (check_payload_ok _ _ _).mpr ⟨by simp, rfl⟩
      rw [encode_string_short payload (by omega) single, List.cons_append, decodeHeader, if_neg (by omega), if_pos (by omega),
        if_neg plain, first, Nat.add_sub_cancel_left, header]

theorem decode_string_encode (payload rest : List UInt8) (fits : payload.length < 2 ^ 64) :
    decodeString (encodeString payload ++ rest) = .ok (payload, rest) := by
  rw [decodeString, decode_header_encode_string payload rest fits]
  simp

theorem short_payload_encoded (length : Nat) (rest : List UInt8) (short : length ≤ 55) (room : length ≤ rest.length)
    (plain : ¬ (length = 1 ∧ (rest.head?.any fun byte => byte.toNat < 0x80) = true)) :
    UInt8.ofNat (0x80 + length) :: rest = encodeString (rest.take length) ++ rest.drop length := by
  have size : (rest.take length).length = length := by
    rw [List.length_take]
    exact Nat.min_eq_left room
  have notByte : ¬ ((rest.take length).length = 1 ∧ ((rest.take length).head?.any fun byte => byte.toNat < 0x80) = true) := by
    rw [size]
    intro given
    refine plain ⟨given.1, ?_⟩
    cases rest with
    | nil => simp at given
    | cons head tail =>
        rw [given.1] at given
        simpa using given.2
  rw [encode_string_short _ (by omega) notByte, size, List.cons_append, List.take_append_drop]

theorem long_payload_encoded (width : Nat) (rest : List UInt8) (narrow : width ≤ 8) (wide : width ≤ rest.length)
    (canonical : (rest.take width).head? ≠ some 0) (long : 56 ≤ BigEndian.decode (rest.take width))
    (room : BigEndian.decode (rest.take width) ≤ (rest.drop width).length) :
    UInt8.ofNat (0xb7 + width) :: rest =
      encodeString ((rest.drop width).take (BigEndian.decode (rest.take width))) ++
        (rest.drop width).drop (BigEndian.decode (rest.take width)) := by
  have widthEq : (rest.take width).length = width := by
    rw [List.length_take]
    exact Nat.min_eq_left wide
  have fits : BigEndian.decode (rest.take width) < 2 ^ 64 := by
    have bound := BigEndian.decode_lt (rest.take width)
    have power : 256 ^ (rest.take width).length ≤ 256 ^ 8 := Nat.pow_le_pow_right (by decide) (by omega)
    exact Nat.lt_of_lt_of_le bound power
  have minimal : BigEndian.trim (BigEndian.encode 8 (BigEndian.decode (rest.take width))) = rest.take width :=
    BigEndian.canonical_unique _ _ (BigEndian.trim_head _) canonical (length_bytes_spec _ long fits).1
  have size : ((rest.drop width).take (BigEndian.decode (rest.take width))).length = BigEndian.decode (rest.take width) := by
    rw [List.length_take]
    exact Nat.min_eq_left room
  rw [encode_string_long _ (by omega), size, minimal, widthEq, List.cons_append, List.append_assoc, List.take_append_drop,
    List.take_append_drop]

theorem decode_header_string (bytes body : List UInt8) (length : Nat)
    (accepted : decodeHeader bytes = .ok (⟨false, length⟩, body)) : bytes = encodeString (body.take length) ++ body.drop length := by
  cases bytes with
  | nil => cases accepted
  | cons first rest =>
      by_cases byte : first.toNat < 0x80
      · rw [decodeHeader, if_pos byte] at accepted
        simp only [Except.ok.injEq, Prod.mk.injEq, Header.mk.injEq, true_and] at accepted
        obtain ⟨rfl, rfl⟩ := accepted
        simp [encode_string_byte first byte]
      · by_cases short : first.toNat ≤ 0xb7
        · rw [decodeHeader, if_neg byte, if_pos short] at accepted
          split at accepted
          · cases accepted
          · rename_i plain
            rw [check_payload_ok] at accepted
            simp only [Prod.mk.injEq, Header.mk.injEq, true_and] at accepted
            obtain ⟨room, sameLength, sameBody⟩ := accepted
            have code : UInt8.ofNat (0x80 + length) = first := by
              rw [sameLength, Nat.add_sub_cancel' (not_lt.mp byte), UInt8.ofNat_toNat]
            have notByte : ¬ (length = 1 ∧ (rest.head?.any fun byte => byte.toNat < 0x80) = true) := by
              intro given
              exact plain ⟨by omega, given.2⟩
            rw [← sameLength] at room
            rw [sameBody, ← short_payload_encoded length rest (by omega) room notByte, code]
        · by_cases long : first.toNat ≤ 0xbf
          · rw [decodeHeader, if_neg byte, if_neg short, if_pos long] at accepted
            generalize widthEq : first.toNat - 0xb7 = width at accepted
            rw [decode_long_ok] at accepted
            simp only [Prod.mk.injEq, Header.mk.injEq, true_and] at accepted
            obtain ⟨wide, canonical, atLeast, room, sameLength, sameBody⟩ := accepted
            have code : UInt8.ofNat (0xb7 + width) = first := by
              rw [← widthEq, Nat.add_sub_cancel' (by omega), UInt8.ofNat_toNat]
            rw [sameLength, sameBody, ← long_payload_encoded width rest (by omega) wide canonical atLeast room, code]
          · rw [decodeHeader, if_neg byte, if_neg short, if_neg long] at accepted
            split at accepted
            · simp [check_payload_ok] at accepted
            · simp [decode_long_ok] at accepted

theorem decode_string_iff (bytes payload rest : List UInt8) (fits : bytes.length < 2 ^ 64) :
    decodeString bytes = .ok (payload, rest) ↔ bytes = encodeString payload ++ rest := by
  constructor
  · intro accepted
    unfold decodeString at accepted
    cases decoded : decodeHeader bytes with
    | error error => simp [decoded] at accepted
    | ok result =>
        obtain ⟨⟨list, length⟩, body⟩ := result
        cases list with
        | true => simp [decoded] at accepted
        | false =>
            simp only [decoded, Bool.false_eq_true, if_false, Except.ok.injEq, Prod.mk.injEq] at accepted
            obtain ⟨rfl, rfl⟩ := accepted
            exact decode_header_string bytes body length decoded
  · rintro rfl
    have inside : payload.length ≤ (encodeString payload).length := by
      unfold encodeString
      split
      · exact Nat.le_refl _
      · split <;> simp only [List.length_cons, List.length_append] <;> omega
    rw [List.length_append] at fits
    exact decode_string_encode payload rest (by omega)

-- The codec of the strings of Recursive Length Prefix encoding.
def stringCodec : StringCodec where
  encode := encodeString
  decode := decodeString
  decode_iff := decode_string_iff
  encode_ne_nil := encode_string_ne_nil

end Rlp
