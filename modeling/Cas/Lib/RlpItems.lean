import Cas.Lib.Rlp

set_option autoImplicit false

namespace Rlp

-- What stands behind a header: the payload of a string, or the encoded items of a list.
inductive View where
  | string (payload : List UInt8)
  | list (items : List (List UInt8))
deriving DecidableEq, Repr

-- The encodings of strings, and of lists of encodings. A length field has at most eight bytes.
inductive Item (encodeString : List UInt8 → List UInt8) (listHeader : Nat → List UInt8) : List UInt8 → Prop where
  | string (payload : List UInt8) (fits : payload.length < 2 ^ 64) : Item encodeString listHeader (encodeString payload)
  | list (items : List (List UInt8)) (each : ∀ item ∈ items, Item encodeString listHeader item) (fits : items.flatten.length < 2 ^ 64) :
      Item encodeString listHeader (listHeader items.flatten.length ++ items.flatten)

-- The primitive codecs of an implementation, and that they are correct and canonical.
structure ItemCodec (Error : Type) where
  encodeString : List UInt8 → List UInt8
  listHeader : Nat → List UInt8
  lengthOfLength : Nat → Nat
  decodeRaw : List UInt8 → Except Error (View × List UInt8)
  length_of_length : ∀ length, lengthOfLength length = (listHeader length).length
  empty_string : encodeString [] = [0x80]
  empty_list : listHeader 0 = [0xc0]
  string_size : ∀ payload, payload.length < 2 ^ 64 → (encodeString payload).length ≤ payload.length + 9
  header_size : ∀ length, length < 2 ^ 64 → (listHeader length).length ≤ 9
  string_view : ∀ payload rest, payload.length < 2 ^ 64 → decodeRaw (encodeString payload ++ rest) = .ok (.string payload, rest)
  list_view : ∀ items rest, (∀ item ∈ items, Item encodeString listHeader item) → items.flatten.length < 2 ^ 64 →
    decodeRaw (listHeader items.flatten.length ++ items.flatten ++ rest) = .ok (.list items, rest)

-- A type whose values are encoded as strings.
structure Scalar {Error : Type} (codec : ItemCodec Error) (α : Type) where
  encode : α → List UInt8
  length : α → Nat
  decode : List UInt8 → Except Error (α × List UInt8)
  payload : α → List UInt8
  encode_payload : ∀ value, encode value = codec.encodeString (payload value)
  length_encode : ∀ value, length value = (encode value).length
  decode_encode : ∀ value rest, (payload value).length < 2 ^ 64 → decode (encode value ++ rest) = .ok (value, rest)

-- Numbers and fixed byte arrays of up to 32 bytes.
structure SmallScalar {Error : Type} (codec : ItemCodec Error) (α : Type) extends Scalar codec α where
  payload_size : ∀ value, (payload value).length ≤ 32

section Rules

variable {Error α : Type} (codec : ItemCodec Error)

def ItemCodec.IsItem (bytes : List UInt8) : Prop := Item codec.encodeString codec.listHeader bytes

def ItemCodec.encodeList (items : List (List UInt8)) : List UInt8 := codec.listHeader items.flatten.length ++ items.flatten

theorem ItemCodec.list_is_item (items : List (List UInt8)) (each : ∀ item ∈ items, codec.IsItem item)
    (fits : items.flatten.length < 2 ^ 64) : codec.IsItem (codec.encodeList items) := .list items each fits

theorem ItemCodec.decode_raw_list (items : List (List UInt8)) (rest : List UInt8) (each : ∀ item ∈ items, codec.IsItem item)
    (fits : items.flatten.length < 2 ^ 64) : codec.decodeRaw (codec.encodeList items ++ rest) = .ok (.list items, rest) :=
  codec.list_view items rest each fits

theorem Scalar.is_item (scalar : Scalar codec α) (value : α) (fits : (scalar.payload value).length < 2 ^ 64) :
    codec.IsItem (scalar.encode value) := by
  rw [scalar.encode_payload]
  exact .string _ fits

theorem Scalar.decode_raw (scalar : Scalar codec α) (value : α) (rest : List UInt8) (fits : (scalar.payload value).length < 2 ^ 64) :
    codec.decodeRaw (scalar.encode value ++ rest) = .ok (.string (scalar.payload value), rest) := by
  rw [scalar.encode_payload]
  exact codec.string_view _ rest fits

theorem Scalar.size (scalar : Scalar codec α) (value : α) (fits : (scalar.payload value).length < 2 ^ 64) :
    (scalar.encode value).length ≤ (scalar.payload value).length + 9 := by
  rw [scalar.encode_payload]
  exact codec.string_size _ fits

theorem SmallScalar.fits (scalar : SmallScalar codec α) (value : α) : (scalar.payload value).length < 2 ^ 64 :=
  Nat.lt_of_le_of_lt (scalar.payload_size value) (by decide)

theorem SmallScalar.small (scalar : SmallScalar codec α) (value : α) : (scalar.encode value).length ≤ 41 := by
  have size := Scalar.size codec scalar.toScalar value (SmallScalar.fits codec scalar value)
  have bound := scalar.payload_size value
  omega

theorem SmallScalar.is_item (scalar : SmallScalar codec α) (value : α) : codec.IsItem (scalar.encode value) :=
  Scalar.is_item codec scalar.toScalar value (SmallScalar.fits codec scalar value)

theorem SmallScalar.pair_items (scalar : SmallScalar codec α) (first second : α) :
    ∀ field ∈ [scalar.encode first, scalar.encode second], codec.IsItem field :=
  List.forall_mem_cons.mpr ⟨SmallScalar.is_item codec scalar first, List.forall_mem_singleton.mpr (SmallScalar.is_item codec scalar second)⟩

theorem SmallScalar.pair_size (scalar : SmallScalar codec α) (first second : α) :
    [scalar.encode first, scalar.encode second].flatten.length ≤ 82 := by
  have left := SmallScalar.small codec scalar first
  have right := SmallScalar.small codec scalar second
  simp only [List.flatten_cons, List.flatten_nil, List.length_append, List.length_nil]
  omega

end Rules

-- An implementation of the interface.
def listHeader (length : Nat) : List UInt8 :=
  if length ≤ 55 then [UInt8.ofNat (0xc0 + length)]
  else
    let lengthBytes := BigEndian.trim (BigEndian.encode 8 length)
    UInt8.ofNat (0xf7 + lengthBytes.length) :: lengthBytes

def splitItem (bytes : List UInt8) : Except DecodeError (List UInt8 × List UInt8) :=
  match decodeHeader bytes with
  | .error error => .error error
  | .ok (header, body) =>
      .ok (bytes.take (bytes.length - body.length + header.payloadLength), bytes.drop (bytes.length - body.length + header.payloadLength))

def splitItems : Nat → List UInt8 → Except DecodeError (List (List UInt8))
  | _, [] => .ok []
  | 0, _ :: _ => .error .inputTooShort
  | room + 1, byte :: bytes =>
      match splitItem (byte :: bytes) with
      | .error error => .error error
      | .ok (item, rest) => (splitItems room rest).map (item :: ·)

def decodeRaw (bytes : List UInt8) : Except DecodeError (View × List UInt8) :=
  match decodeHeader bytes with
  | .error error => .error error
  | .ok (header, body) =>
      if header.list then
        (splitItems header.payloadLength (body.take header.payloadLength)).map fun items => (.list items, body.drop header.payloadLength)
      else .ok (.string (body.take header.payloadLength), body.drop header.payloadLength)

theorem list_header_size (length : Nat) : (listHeader length).length ≤ 9 := by
  rw [listHeader]
  split
  · simp
  · have bound := BigEndian.length_trim (BigEndian.encode 8 length)
    rw [BigEndian.length_encode] at bound
    rw [List.length_cons]
    omega

theorem encode_string_size (payload : List UInt8) :
    payload.length ≤ (encodeString payload).length ∧ (encodeString payload).length ≤ payload.length + 9 := by
  have bound := BigEndian.length_trim (BigEndian.encode 8 payload.length)
  rw [BigEndian.length_encode] at bound
  rw [encodeString]
  split
  · omega
  · split <;> simp only [List.length_cons, List.length_append] <;> omega

theorem decode_header_list (length : Nat) (body : List UInt8) (fits : length < 2 ^ 64) (room : length ≤ body.length) :
    decodeHeader (listHeader length ++ body) = .ok (⟨true, length⟩, body) := by
  by_cases short : length ≤ 55
  · have first : (UInt8.ofNat (0xc0 + length)).toNat = 0xc0 + length := toNat_ofNat_small _ (by omega)
    have checked : checkPayload ⟨true, length⟩ body = .ok (⟨true, length⟩, body) := (check_payload_ok _ _ _).mpr ⟨room, rfl⟩
    rw [listHeader, if_pos short, List.singleton_append, decodeHeader, first, if_neg (by omega), if_neg (by omega), if_neg (by omega),
      if_pos (by omega), Nat.add_sub_cancel_left, checked]
  · obtain ⟨-, low, high⟩ := length_bytes_spec length (by omega) fits
    have header := decode_long_length true length body (by omega) fits room
    rw [listHeader, if_neg short]
    generalize BigEndian.trim (BigEndian.encode 8 length) = lengthBytes at low high header ⊢
    have first : (UInt8.ofNat (0xf7 + lengthBytes.length)).toNat = 0xf7 + lengthBytes.length := toNat_ofNat_small _ (by omega)
    rw [List.cons_append, decodeHeader, first, if_neg (by omega), if_neg (by omega), if_neg (by omega), if_neg (by omega),
      Nat.add_sub_cancel_left, header]

theorem split_item_item (item rest : List UInt8) (valid : Item encodeString listHeader item) :
    splitItem (item ++ rest) = .ok (item, rest) := by
  cases valid with
  | string payload fits =>
      have size := (encode_string_size payload).1
      have cut : (encodeString payload ++ rest).length - (payload ++ rest).length + payload.length = (encodeString payload).length := by
        rw [List.length_append, List.length_append]
        omega
      simp only [splitItem, decode_header_encode_string payload rest fits, cut, List.take_left, List.drop_left]
  | list items each fits =>
      have cut : (listHeader items.flatten.length ++ items.flatten ++ rest).length - (items.flatten ++ rest).length + items.flatten.length =
          (listHeader items.flatten.length ++ items.flatten).length := by
        simp only [List.length_append]
        omega
      have header := decode_header_list items.flatten.length (items.flatten ++ rest) fits (by simp)
      rw [← List.append_assoc] at header
      simp only [splitItem, header, cut, List.take_left, List.drop_left]

theorem item_ne_nil (item : List UInt8) (valid : Item encodeString listHeader item) : item ≠ [] := by
  cases valid with
  | string payload fits => exact encode_string_ne_nil payload
  | list items each fits =>
      rw [listHeader]
      split
      · exact List.cons_ne_nil _ _
      · exact List.cons_ne_nil _ _

theorem split_items_items (items : List (List UInt8)) (each : ∀ item ∈ items, Item encodeString listHeader item) (room : Nat)
    (enough : items.flatten.length ≤ room) : splitItems room items.flatten = .ok items := by
  induction items generalizing room with
  | nil => rw [List.flatten_nil, splitItems]
  | cons item items ih =>
      have valid := each item (by simp)
      have later := fun other member => each other (List.mem_cons_of_mem item member)
      have positive := List.length_pos_iff.mpr (item_ne_nil item valid)
      rw [List.flatten_cons, List.length_append] at enough
      cases room with
      | zero => omega
      | succ room =>
          cases first : item with
          | nil => exact absurd first (item_ne_nil item valid)
          | cons byte bytes =>
              rw [first] at valid
              have split := split_item_item (byte :: bytes) items.flatten valid
              rw [List.cons_append] at split
              have rest := ih later room (by omega)
              rw [List.flatten_cons, List.cons_append, splitItems, split]
              simp only [rest, Except.map]

theorem decode_raw_string (payload rest : List UInt8) (fits : payload.length < 2 ^ 64) :
    decodeRaw (encodeString payload ++ rest) = .ok (.string payload, rest) := by
  rw [decodeRaw, decode_header_encode_string payload rest fits]
  simp

theorem decode_raw_items (items : List (List UInt8)) (rest : List UInt8) (each : ∀ item ∈ items, Item encodeString listHeader item)
    (fits : items.flatten.length < 2 ^ 64) :
    decodeRaw (listHeader items.flatten.length ++ items.flatten ++ rest) = .ok (.list items, rest) := by
  rw [List.append_assoc, decodeRaw, decode_header_list items.flatten.length (items.flatten ++ rest) fits (by simp)]
  simp only [if_true, List.take_left, List.drop_left, split_items_items items each items.flatten.length (Nat.le_refl _), Except.map]

def itemCodec {Error : Type} (lift : DecodeError → Error) : ItemCodec Error where
  encodeString := encodeString
  listHeader := listHeader
  lengthOfLength length := (listHeader length).length
  decodeRaw bytes := (decodeRaw bytes).mapError lift
  length_of_length _ := rfl
  empty_string := by decide
  empty_list := by decide
  string_size payload _ := (encode_string_size payload).2
  header_size length _ := list_header_size length
  string_view payload rest fits := by rw [decode_raw_string payload rest fits]; rfl
  list_view items rest each fits := by rw [decode_raw_items items rest each fits]; rfl

-- The payload of an integer is its big-endian form without leading zeros.
def uintPayload (width value : Nat) : List UInt8 := BigEndian.trim (BigEndian.encode width value)

theorem uint_payload_value (width value : Nat) (fits : value < 256 ^ width) : BigEndian.decode (uintPayload width value) = value := by
  rw [uintPayload, BigEndian.decode_trim, BigEndian.decode_encode width value fits]

theorem uint_payload_nil_iff (width value : Nat) (fits : value < 256 ^ width) : uintPayload width value = [] ↔ value = 0 := by
  have decoded := uint_payload_value width value fits
  constructor
  · intro empty
    rw [empty] at decoded
    exact decoded.symm
  · intro zero
    exact BigEndian.canonical_unique _ _ (BigEndian.trim_head _) (by simp) (decoded.trans zero)

theorem uint_payload_length (width value : Nat) : (uintPayload width value).length ≤ width := by
  have bound := BigEndian.length_trim (BigEndian.encode width value)
  rw [BigEndian.length_encode] at bound
  exact bound

def uintValue (width : Nat) (payload : List UInt8) : Option Nat :=
  if payload.length ≤ width ∧ payload.head? ≠ some 0 then some (BigEndian.decode payload) else none

theorem uint_value_payload (width value : Nat) (fits : value < 256 ^ width) : uintValue width (uintPayload width value) = some value := by
  rw [uintValue, if_pos ⟨uint_payload_length width value, BigEndian.trim_head _⟩, uint_payload_value width value fits]

def vectorValue (size : Nat) (payload : List UInt8) : Option (Vector UInt8 size) :=
  if width : payload.length = size then some ⟨payload.toArray, by simpa using width⟩ else none

theorem vector_value_payload (size : Nat) (value : Vector UInt8 size) : vectorValue size value.toList = some value := by
  rw [vectorValue, dif_pos Vector.length_toList]
  rfl

section Scalars

variable {Error α : Type} (lift : DecodeError → Error)

-- A string whose payload stands for a value.
def stringScalar (payload : α → List UInt8) (value : List UInt8 → Option α) (back : ∀ a, value (payload a) = some a) :
    Scalar (itemCodec lift) α where
  encode a := encodeString (payload a)
  length a := (encodeString (payload a)).length
  decode bytes :=
    match decodeString bytes with
    | .error error => .error (lift error)
    | .ok (string, rest) =>
        match value string with
        | none => .error (lift (.other "invalid value"))
        | some a => .ok (a, rest)
  payload := payload
  encode_payload _ := rfl
  length_encode _ := rfl
  decode_encode a rest fits := by simp only [decode_string_encode (payload a) rest fits, back a]

def uintScalar (width : Nat) (narrow : width ≤ 32) (toNat : α → Nat) (ofNat : Nat → α) (fits : ∀ a, toNat a < 256 ^ width)
    (back : ∀ a, ofNat (toNat a) = a) : SmallScalar (itemCodec lift) α where
  toScalar := stringScalar lift (fun a => uintPayload width (toNat a)) (fun payload => (uintValue width payload).map ofNat) fun a => by
    rw [uint_value_payload width (toNat a) (fits a), Option.map_some, back a]
  payload_size a := (uint_payload_length width (toNat a)).trans narrow

theorem uint_scalar_nil_iff (width : Nat) (narrow : width ≤ 32) (toNat : α → Nat) (ofNat : Nat → α) (fits : ∀ a, toNat a < 256 ^ width)
    (back : ∀ a, ofNat (toNat a) = a) (value : α) :
    (uintScalar lift width narrow toNat ofNat fits back).payload value = [] ↔ toNat value = 0 :=
  uint_payload_nil_iff width (toNat value) (fits value)

def vectorScalar (size : Nat) (narrow : size ≤ 32) : SmallScalar (itemCodec lift) (Vector UInt8 size) where
  toScalar := stringScalar lift Vector.toList (vectorValue size) (vector_value_payload size)
  payload_size value := by
    change value.toList.length ≤ 32
    rw [Vector.length_toList]
    exact narrow

end Scalars

end Rlp
