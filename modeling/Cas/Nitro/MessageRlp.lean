import Cas.Lib.RlpItems
import Cas.Nitro.Types

set_option autoImplicit false

namespace Cas

-- The errors the decoders of the repository return themselves; `other` is whatever else the codec reports.
inductive RlpError where
  | unexpectedString
  | unexpectedList
  | unexpectedLength
  | listLengthMismatch (expected got : Nat)
  | other (error : Rlp.DecodeError)
deriving DecidableEq, Repr

-- What the encoders and decoders below call outside the repository: the primitive codecs, the derived codec of
-- `BatchDataStats`, and `decode_exact`. They are correct and canonical.
structure AlloyRlp where
  items : Rlp.ItemCodec RlpError
  u8 : Rlp.SmallScalar items UInt8
  u64 : Rlp.SmallScalar items UInt64
  u256 : Rlp.SmallScalar items U256
  address : Rlp.SmallScalar items Address
  b256 : Rlp.SmallScalar items B256
  bytes : Rlp.Scalar items Bytes
  encodeStats : BatchDataStats → Bytes
  lengthStats : BatchDataStats → Nat
  decodeStats : Bytes → Except RlpError (BatchDataStats × Bytes)
  decodeExact {α : Type} : (Bytes → Except RlpError (α × Bytes)) → Bytes → Except RlpError α
  u64_zero : ∀ value, u64.payload value = [] ↔ value = 0
  u256_zero : ∀ value, u256.payload value = [] ↔ value = 0
  b256_payload : ∀ value, b256.payload value = value.toList
  bytes_payload : ∀ value, bytes.payload value = value
  stats_fields : ∀ stats, encodeStats stats = items.encodeList [u64.encode stats.length, u64.encode stats.nonZeros]
  stats_length : ∀ stats, lengthStats stats = (encodeStats stats).length
  stats_decode : ∀ stats rest, decodeStats (encodeStats stats ++ rest) = .ok (stats, rest)
  decode_exact_ok : ∀ {α : Type} (decode : Bytes → Except RlpError (α × Bytes)) (buf : Bytes) (value : α),
    decode buf = .ok (value, []) → decodeExact decode buf = .ok value

inductive NilPolicy where
  | emptyStringOnly
  | emptyListOnly
deriving DecidableEq, Repr

section Codec

variable (rlp : AlloyRlp)

def decodeOptionalField {α : Type} (decode : Bytes → Except RlpError (α × Bytes)) (buf : Bytes) (nilPolicy : NilPolicy) :
    Except RlpError (Option α) :=
  match rlp.items.decodeRaw buf with
  | .error error => .error error
  | .ok (.string bytes, _) =>
      match nilPolicy with
      | .emptyStringOnly => if bytes = [] then .ok none else (rlp.decodeExact decode buf).map some
      | .emptyListOnly => .error .unexpectedString
  | .ok (.list items, _) =>
      match nilPolicy with
      | .emptyListOnly => if items = [] then .ok none else (rlp.decodeExact decode buf).map some
      | .emptyStringOnly => .error .unexpectedList

def decodeOptionalB256AllowNilList (buf : Bytes) : Except RlpError (Option B256) :=
  match rlp.items.decodeRaw buf with
  | .error error => .error error
  | .ok (.string bytes, _) =>
      if bytes = [] then .ok none
      else if width : bytes.length = 32 then .ok (some ⟨bytes.toArray, by simpa using width⟩)
      else .error .unexpectedLength
  | .ok (.list items, _) => if items = [] then .ok none else .error .unexpectedList

-- A field that the list may not have is absent then.
def decodeTail {α : Type} (decode : Bytes → Except RlpError (Option α)) (field : Option Bytes) : Except RlpError (Option α) :=
  match field with
  | some buf => decode buf
  | none => .ok none

-- A pointer field of Go: absent, a scalar is written as the empty string and a list as the empty list.
def optionalField {α : Type} (scalar : Rlp.SmallScalar rlp.items α) : Option α → Bytes
  | some value => scalar.encode value
  | none => [0x80]

def optionalLength {α : Type} (scalar : Rlp.SmallScalar rlp.items α) : Option α → Nat
  | some value => scalar.length value
  | none => 1

-- The request id is tagged `nilList`.
def requestIdField : Option B256 → Bytes
  | some id => rlp.b256.encode id
  | none => rlp.items.listHeader 0

def L1IncomingMessageHeader.rlpPayloadLength (header : L1IncomingMessageHeader) : Nat :=
  rlp.u8.length header.kind + rlp.address.length header.poster + rlp.u64.length header.blockNumber + rlp.u64.length header.timestamp +
    optionalLength rlp rlp.b256 header.requestId + optionalLength rlp rlp.u256 header.l1BaseFee

def L1IncomingMessageHeader.encode (header : L1IncomingMessageHeader) : Bytes :=
  rlp.items.listHeader (header.rlpPayloadLength rlp) ++
    (rlp.u8.encode header.kind ++ (rlp.address.encode header.poster ++ (rlp.u64.encode header.blockNumber ++
      (rlp.u64.encode header.timestamp ++ (requestIdField rlp header.requestId ++ optionalField rlp rlp.u256 header.l1BaseFee)))))

def L1IncomingMessageHeader.length (header : L1IncomingMessageHeader) : Nat :=
  rlp.items.lengthOfLength (header.rlpPayloadLength rlp) + header.rlpPayloadLength rlp

def L1IncomingMessageHeader.decode (buf : Bytes) : Except RlpError (L1IncomingMessageHeader × Bytes) :=
  match rlp.items.decodeRaw buf with
  | .error error => .error error
  | .ok (.string _, _) => .error .unexpectedString
  | .ok (.list (kindField :: posterField :: blockNumberField :: timestampField :: tail), rest) => do
      let kind ← rlp.decodeExact rlp.u8.decode kindField
      let poster ← rlp.decodeExact rlp.address.decode posterField
      let blockNumber ← rlp.decodeExact rlp.u64.decode blockNumberField
      let timestamp ← rlp.decodeExact rlp.u64.decode timestampField
      let requestId ← decodeTail (decodeOptionalB256AllowNilList rlp) tail[0]?
      let l1BaseFee ← decodeTail (decodeOptionalField rlp rlp.u256.decode · .emptyStringOnly) tail[1]?
      return (⟨kind, poster, blockNumber, timestamp, requestId, l1BaseFee⟩, rest)
  | .ok (.list fields, _) => .error (.listLengthMismatch 4 fields.length)

def headerField : Option L1IncomingMessageHeader → Bytes
  | some header => header.encode rlp
  | none => rlp.items.listHeader 0

def headerFieldLength : Option L1IncomingMessageHeader → Nat
  | some header => header.length rlp
  | none => 1

-- The tail fields are left out when they are absent and nothing present follows.
def L1IncomingMessage.rlpPayloadLength (msg : L1IncomingMessage) : Nat :=
  headerFieldLength rlp msg.header + rlp.bytes.length msg.l2msg +
    (if msg.legacyBatchGasCost.isSome ∨ msg.batchDataStats.isSome then optionalLength rlp rlp.u64 msg.legacyBatchGasCost else 0) +
    (msg.batchDataStats.map rlp.lengthStats).getD 0

def L1IncomingMessage.encode (msg : L1IncomingMessage) : Bytes :=
  rlp.items.listHeader (msg.rlpPayloadLength rlp) ++
    (headerField rlp msg.header ++ (rlp.bytes.encode msg.l2msg ++
      ((if msg.legacyBatchGasCost.isSome ∨ msg.batchDataStats.isSome then optionalField rlp rlp.u64 msg.legacyBatchGasCost else []) ++
        (msg.batchDataStats.map rlp.encodeStats).getD [])))

def L1IncomingMessage.decode (buf : Bytes) : Except RlpError (L1IncomingMessage × Bytes) :=
  match rlp.items.decodeRaw buf with
  | .error error => .error error
  | .ok (.string _, _) => .error .unexpectedString
  | .ok (.list (headerField :: l2msgField :: tail), rest) => do
      let header ← decodeOptionalField rlp (L1IncomingMessageHeader.decode rlp) headerField .emptyListOnly
      let l2msg ← rlp.decodeExact rlp.bytes.decode l2msgField
      let legacyBatchGasCost ← decodeTail (decodeOptionalField rlp rlp.u64.decode · .emptyStringOnly) tail[0]?
      let batchDataStats ← decodeTail (decodeOptionalField rlp rlp.decodeStats · .emptyListOnly) tail[1]?
      return (⟨header, l2msg, legacyBatchGasCost, batchDataStats⟩, rest)
  | .ok (.list fields, _) => .error (.listLengthMismatch 2 fields.length)

def MessageWithMetadata.decode (buf : Bytes) : Except RlpError (MessageWithMetadata × Bytes) :=
  match rlp.items.decodeRaw buf with
  | .error error => .error error
  | .ok (.string _, _) => .error .unexpectedString
  | .ok (.list (messageField :: tail), rest) => do
      let message ← decodeOptionalField rlp (L1IncomingMessage.decode rlp) messageField .emptyListOnly
      match tail with
      | delayedField :: _ =>
          let delayedMessagesRead ← rlp.decodeExact rlp.u64.decode delayedField
          return (⟨message, delayedMessagesRead⟩, rest)
      | [] => return (⟨message, 0⟩, rest)
  | .ok (.list [], _) => .error (.listLengthMismatch 1 0)

-- A message of a legacy payload, which has to fill its frame.
def decodeLegacyMessage (describe : RlpError → String) (msg : Bytes) : Except String MessageWithMetadata :=
  (rlp.decodeExact (MessageWithMetadata.decode rlp) msg).mapError describe

-- A zero base fee or gas cost is written like an absent one.
def L1IncomingMessageHeader.normalized (header : L1IncomingMessageHeader) : L1IncomingMessageHeader :=
  { header with l1BaseFee := header.l1BaseFee.filter (· ≠ 0) }

def L1IncomingMessage.normalized (msg : L1IncomingMessage) : L1IncomingMessage :=
  { msg with
    header := msg.header.map L1IncomingMessageHeader.normalized
    legacyBatchGasCost := msg.legacyBatchGasCost.filter (· ≠ 0) }

theorem absent_string_item : rlp.items.IsItem [0x80] := by
  rw [← rlp.items.empty_string]
  exact .string [] (by decide)

theorem absent_list_eq : rlp.items.listHeader 0 = rlp.items.encodeList [] := by
  rw [Rlp.ItemCodec.encodeList, List.flatten_nil, List.append_nil, List.length_nil]

theorem absent_list_item : rlp.items.IsItem (rlp.items.listHeader 0) := by
  rw [absent_list_eq]
  exact rlp.items.list_is_item [] (by simp) (by decide)

theorem absent_list_length : (rlp.items.listHeader 0).length = 1 := by rw [rlp.items.empty_list]; rfl

theorem decode_exact_small {α : Type} (scalar : Rlp.SmallScalar rlp.items α) (value : α) :
    rlp.decodeExact scalar.decode (scalar.encode value) = .ok value := by
  apply rlp.decode_exact_ok
  have decoded := scalar.decode_encode value [] (Rlp.SmallScalar.fits rlp.items scalar value)
  rwa [List.append_nil] at decoded

theorem decode_optional_absent_string {α : Type} (decode : Bytes → Except RlpError (α × Bytes)) :
    decodeOptionalField rlp decode [0x80] .emptyStringOnly = .ok none := by
  have view := rlp.items.string_view [] [] (by decide)
  rw [List.append_nil, rlp.items.empty_string] at view
  simp only [decodeOptionalField, view, if_true]

theorem decode_optional_absent_list {α : Type} (decode : Bytes → Except RlpError (α × Bytes)) :
    decodeOptionalField rlp decode (rlp.items.listHeader 0) .emptyListOnly = .ok none := by
  have view := rlp.items.decode_raw_list [] [] (by simp) (by decide)
  rw [List.append_nil, ← absent_list_eq] at view
  simp only [decodeOptionalField, view, if_true]

theorem decode_optional_uint {α : Type} [DecidableEq α] [Zero α] (scalar : Rlp.SmallScalar rlp.items α)
    (zero : ∀ value, scalar.payload value = [] ↔ value = 0) (value : α) :
    decodeOptionalField rlp scalar.decode (scalar.encode value) .emptyStringOnly = .ok ((some value).filter (· ≠ 0)) := by
  have view := Rlp.Scalar.decode_raw rlp.items scalar.toScalar value [] (Rlp.SmallScalar.fits rlp.items scalar value)
  rw [List.append_nil] at view
  simp only [decodeOptionalField, view, zero value, decode_exact_small]
  by_cases none : value = 0
  · simp [none, Option.filter]
  · simp [none, Option.filter, Except.map]

theorem decode_optional_list {α : Type} (decode : Bytes → Except RlpError (α × Bytes)) (items : List Bytes) (value : α)
    (each : ∀ item ∈ items, rlp.items.IsItem item) (fits : items.flatten.length < 2 ^ 64) (present : items ≠ [])
    (decoded : decode (rlp.items.encodeList items) = .ok (value, [])) :
    decodeOptionalField rlp decode (rlp.items.encodeList items) .emptyListOnly = .ok (some value) := by
  have view := rlp.items.decode_raw_list items [] each fits
  rw [List.append_nil] at view
  simp only [decodeOptionalField, view, if_neg present, rlp.decode_exact_ok decode _ value decoded, Except.map]

theorem request_id_decode (requestId : Option B256) :
    decodeOptionalB256AllowNilList rlp (requestIdField rlp requestId) = .ok requestId := by
  cases requestId with
  | none =>
      have view := rlp.items.decode_raw_list [] [] (by simp) (by decide)
      rw [List.append_nil, ← absent_list_eq] at view
      simp only [requestIdField, decodeOptionalB256AllowNilList, view, if_true]
  | some id =>
      have view := Rlp.Scalar.decode_raw rlp.items rlp.b256.toScalar id [] (Rlp.SmallScalar.fits rlp.items rlp.b256 id)
      rw [List.append_nil, rlp.b256_payload] at view
      have width : id.toList.length = 32 := Vector.length_toList
      have full : id.toList ≠ [] := List.ne_nil_of_length_pos (by omega)
      simp only [requestIdField, decodeOptionalB256AllowNilList, view, if_neg full, dif_pos width]
      rfl

theorem optional_field_decode {α : Type} [DecidableEq α] [Zero α] (scalar : Rlp.SmallScalar rlp.items α)
    (zero : ∀ value, scalar.payload value = [] ↔ value = 0) (value : Option α) :
    decodeOptionalField rlp scalar.decode (optionalField rlp scalar value) .emptyStringOnly = .ok (value.filter (· ≠ 0)) := by
  cases value with
  | none => exact decode_optional_absent_string rlp scalar.decode
  | some value => exact decode_optional_uint rlp scalar zero value

def L1IncomingMessageHeader.fields (header : L1IncomingMessageHeader) : List Bytes :=
  [rlp.u8.encode header.kind, rlp.address.encode header.poster, rlp.u64.encode header.blockNumber, rlp.u64.encode header.timestamp,
    requestIdField rlp header.requestId, optionalField rlp rlp.u256 header.l1BaseFee]

theorem request_id_field (requestId : Option B256) :
    rlp.items.IsItem (requestIdField rlp requestId) ∧ (requestIdField rlp requestId).length ≤ 41 := by
  cases requestId with
  | none => exact ⟨absent_list_item rlp, (absent_list_length rlp).trans_le (by decide)⟩
  | some id => exact ⟨Rlp.SmallScalar.is_item rlp.items rlp.b256 id, Rlp.SmallScalar.small rlp.items rlp.b256 id⟩

theorem optional_field {α : Type} (scalar : Rlp.SmallScalar rlp.items α) (value : Option α) :
    rlp.items.IsItem (optionalField rlp scalar value) ∧ (optionalField rlp scalar value).length ≤ 41 := by
  cases value with
  | none => exact ⟨absent_string_item rlp, show 1 ≤ 41 by decide⟩
  | some value => exact ⟨Rlp.SmallScalar.is_item rlp.items scalar value, Rlp.SmallScalar.small rlp.items scalar value⟩

theorem header_fields_items (header : L1IncomingMessageHeader) : ∀ field ∈ header.fields rlp, rlp.items.IsItem field := by
  intro field member
  simp only [L1IncomingMessageHeader.fields, List.mem_cons, List.not_mem_nil, or_false] at member
  rcases member with rfl | rfl | rfl | rfl | rfl | rfl
  · exact Rlp.SmallScalar.is_item rlp.items rlp.u8 header.kind
  · exact Rlp.SmallScalar.is_item rlp.items rlp.address header.poster
  · exact Rlp.SmallScalar.is_item rlp.items rlp.u64 header.blockNumber
  · exact Rlp.SmallScalar.is_item rlp.items rlp.u64 header.timestamp
  · exact (request_id_field rlp header.requestId).1
  · exact (optional_field rlp rlp.u256 header.l1BaseFee).1

theorem optional_length {α : Type} (scalar : Rlp.SmallScalar rlp.items α) (value : Option α) :
    optionalLength rlp scalar value = (optionalField rlp scalar value).length := by
  cases value with
  | none => rfl
  | some value => exact scalar.length_encode value

theorem request_id_length (requestId : Option B256) :
    optionalLength rlp rlp.b256 requestId = (requestIdField rlp requestId).length := by
  cases requestId with
  | none => exact (absent_list_length rlp).symm
  | some id => exact rlp.b256.length_encode id

theorem header_fields_length (header : L1IncomingMessageHeader) :
    header.rlpPayloadLength rlp = (header.fields rlp).flatten.length := by
  rw [L1IncomingMessageHeader.rlpPayloadLength, request_id_length, optional_length, rlp.u8.length_encode, rlp.address.length_encode,
    rlp.u64.length_encode, rlp.u64.length_encode]
  simp only [L1IncomingMessageHeader.fields, List.flatten_cons, List.flatten_nil, List.length_append, List.length_nil]
  omega

theorem header_fields_size (header : L1IncomingMessageHeader) : (header.fields rlp).flatten.length ≤ 246 := by
  have kind := Rlp.SmallScalar.small rlp.items rlp.u8 header.kind
  have poster := Rlp.SmallScalar.small rlp.items rlp.address header.poster
  have blockNumber := Rlp.SmallScalar.small rlp.items rlp.u64 header.blockNumber
  have timestamp := Rlp.SmallScalar.small rlp.items rlp.u64 header.timestamp
  have requestId := (request_id_field rlp header.requestId).2
  have l1BaseFee := (optional_field rlp rlp.u256 header.l1BaseFee).2
  simp only [L1IncomingMessageHeader.fields, List.flatten_cons, List.flatten_nil, List.length_append, List.length_nil]
  omega

theorem header_encode_fields (header : L1IncomingMessageHeader) : header.encode rlp = rlp.items.encodeList (header.fields rlp) := by
  rw [L1IncomingMessageHeader.encode, header_fields_length, Rlp.ItemCodec.encodeList]
  congr 1
  simp only [L1IncomingMessageHeader.fields, List.flatten_cons, List.flatten_nil, List.append_nil]

theorem header_length_encode (header : L1IncomingMessageHeader) : header.length rlp = (header.encode rlp).length := by
  rw [L1IncomingMessageHeader.length, header_encode_fields, Rlp.ItemCodec.encodeList, List.length_append, rlp.items.length_of_length,
    header_fields_length]

theorem header_round_trip (header : L1IncomingMessageHeader) (rest : Bytes) :
    L1IncomingMessageHeader.decode rlp (header.encode rlp ++ rest) = .ok (header.normalized, rest) := by
  have view := rlp.items.decode_raw_list (header.fields rlp) rest (header_fields_items rlp header)
    (Nat.lt_of_le_of_lt (header_fields_size rlp header) (by decide))
  rw [header_encode_fields, L1IncomingMessageHeader.decode, view]
  simp only [L1IncomingMessageHeader.fields, decode_exact_small, List.getElem?_cons_zero, List.getElem?_cons_succ, decodeTail,
    request_id_decode, optional_field_decode rlp rlp.u256 rlp.u256_zero]
  rfl

def L1IncomingMessage.tailFields (msg : L1IncomingMessage) : List Bytes :=
  match msg.legacyBatchGasCost, msg.batchDataStats with
  | none, none => []
  | some cost, none => [rlp.u64.encode cost]
  | cost, some stats => [optionalField rlp rlp.u64 cost, rlp.encodeStats stats]

def L1IncomingMessage.fields (msg : L1IncomingMessage) : List Bytes :=
  headerField rlp msg.header :: rlp.bytes.encode msg.l2msg :: msg.tailFields rlp

theorem header_field (header : Option L1IncomingMessageHeader) :
    rlp.items.IsItem (headerField rlp header) ∧ (headerField rlp header).length ≤ 255 := by
  cases header with
  | none => exact ⟨absent_list_item rlp, (absent_list_length rlp).trans_le (by decide)⟩
  | some header =>
      have size := header_fields_size rlp header
      have fits : (header.fields rlp).flatten.length < 2 ^ 64 := Nat.lt_of_le_of_lt size (by decide)
      have code := rlp.items.header_size _ fits
      rw [headerField, header_encode_fields]
      refine ⟨rlp.items.list_is_item _ (header_fields_items rlp header) fits, ?_⟩
      rw [Rlp.ItemCodec.encodeList, List.length_append]
      omega

theorem header_field_decode (header : Option L1IncomingMessageHeader) :
    decodeOptionalField rlp (L1IncomingMessageHeader.decode rlp) (headerField rlp header) .emptyListOnly =
      .ok (header.map L1IncomingMessageHeader.normalized) := by
  cases header with
  | none => exact decode_optional_absent_list rlp _
  | some header =>
      have trip := header_round_trip rlp header []
      rw [List.append_nil, header_encode_fields] at trip
      rw [headerField, header_encode_fields]
      exact decode_optional_list rlp _ (header.fields rlp) header.normalized (header_fields_items rlp header)
        (Nat.lt_of_le_of_lt (header_fields_size rlp header) (by decide)) (List.cons_ne_nil _ _) trip

theorem stats_field (stats : BatchDataStats) : rlp.items.IsItem (rlp.encodeStats stats) ∧ (rlp.encodeStats stats).length ≤ 91 := by
  have size := Rlp.SmallScalar.pair_size rlp.items rlp.u64 stats.length stats.nonZeros
  have fits := Nat.lt_of_le_of_lt size (show 82 < 2 ^ 64 by decide)
  have code := rlp.items.header_size _ fits
  rw [rlp.stats_fields]
  refine ⟨rlp.items.list_is_item _ (Rlp.SmallScalar.pair_items rlp.items rlp.u64 _ _) fits, ?_⟩
  rw [Rlp.ItemCodec.encodeList, List.length_append]
  omega

theorem stats_field_decode (stats : BatchDataStats) :
    decodeOptionalField rlp rlp.decodeStats (rlp.encodeStats stats) .emptyListOnly = .ok (some stats) := by
  have decoded := rlp.stats_decode stats []
  rw [List.append_nil, rlp.stats_fields] at decoded
  rw [rlp.stats_fields]
  exact decode_optional_list rlp _ _ stats (Rlp.SmallScalar.pair_items rlp.items rlp.u64 _ _)
    (Nat.lt_of_le_of_lt (Rlp.SmallScalar.pair_size rlp.items rlp.u64 _ _) (by decide)) (List.cons_ne_nil _ _) decoded

theorem header_field_length (header : Option L1IncomingMessageHeader) :
    headerFieldLength rlp header = (headerField rlp header).length := by
  cases header with
  | none => exact (absent_list_length rlp).symm
  | some header => exact header_length_encode rlp header

theorem tail_fields_flatten (msg : L1IncomingMessage) :
    (msg.tailFields rlp).flatten =
      (if msg.legacyBatchGasCost.isSome ∨ msg.batchDataStats.isSome then optionalField rlp rlp.u64 msg.legacyBatchGasCost else []) ++
        (msg.batchDataStats.map rlp.encodeStats).getD [] := by
  rw [L1IncomingMessage.tailFields]
  cases msg.legacyBatchGasCost with
  | none =>
      cases msg.batchDataStats with
      | none => rfl
      | some stats => simp
  | some cost =>
      cases msg.batchDataStats with
      | none => simp [optionalField]
      | some stats => simp

theorem tail_fields_length (msg : L1IncomingMessage) :
    (msg.tailFields rlp).flatten.length =
      (if msg.legacyBatchGasCost.isSome ∨ msg.batchDataStats.isSome then optionalLength rlp rlp.u64 msg.legacyBatchGasCost else 0) +
        (msg.batchDataStats.map rlp.lengthStats).getD 0 := by
  have stats : ((msg.batchDataStats.map rlp.encodeStats).getD []).length = (msg.batchDataStats.map rlp.lengthStats).getD 0 := by
    cases msg.batchDataStats with
    | none => rfl
    | some stats => exact (rlp.stats_length stats).symm
  rw [tail_fields_flatten, List.length_append, stats, optional_length]
  split
  · rfl
  · rfl

theorem tail_fields_items (msg : L1IncomingMessage) : ∀ field ∈ msg.tailFields rlp, rlp.items.IsItem field := by
  intro field member
  rw [L1IncomingMessage.tailFields] at member
  split at member
  · cases member
  · rename_i cost _ _
    rw [List.mem_singleton.mp member]
    exact Rlp.SmallScalar.is_item rlp.items rlp.u64 cost
  · simp only [List.mem_cons, List.not_mem_nil, or_false] at member
    rcases member with rfl | rfl
    · exact (optional_field rlp rlp.u64 _).1
    · exact (stats_field rlp _).1

theorem tail_fields_size (msg : L1IncomingMessage) : (msg.tailFields rlp).flatten.length ≤ 132 := by
  have cost := (optional_field rlp rlp.u64 msg.legacyBatchGasCost).2
  have stats : ((msg.batchDataStats.map rlp.encodeStats).getD []).length ≤ 91 := by
    cases msg.batchDataStats with
    | none => exact Nat.zero_le _
    | some stats => exact (stats_field rlp stats).2
  rw [tail_fields_flatten, List.length_append]
  split
  · omega
  · rw [List.length_nil]
    omega

theorem message_fields_items (msg : L1IncomingMessage) (fits : msg.l2msg.length < 2 ^ 63) :
    ∀ field ∈ msg.fields rlp, rlp.items.IsItem field := by
  have room : (rlp.bytes.payload msg.l2msg).length < 2 ^ 64 := by
    rw [rlp.bytes_payload]
    omega
  intro field member
  rcases List.mem_cons.mp member with rfl | member
  · exact (header_field rlp msg.header).1
  · rcases List.mem_cons.mp member with rfl | member
    · exact Rlp.Scalar.is_item rlp.items rlp.bytes msg.l2msg room
    · exact tail_fields_items rlp msg field member

theorem message_fields_length (msg : L1IncomingMessage) : msg.rlpPayloadLength rlp = (msg.fields rlp).flatten.length := by
  rw [L1IncomingMessage.rlpPayloadLength, header_field_length, rlp.bytes.length_encode, L1IncomingMessage.fields, List.flatten_cons,
    List.flatten_cons, List.length_append, List.length_append, tail_fields_length]
  omega

theorem message_fields_size (msg : L1IncomingMessage) (fits : msg.l2msg.length < 2 ^ 63) :
    (msg.fields rlp).flatten.length ≤ msg.l2msg.length + 396 := by
  have header := (header_field rlp msg.header).2
  have l2msg := Rlp.Scalar.size rlp.items rlp.bytes msg.l2msg (by rw [rlp.bytes_payload]; omega)
  have tail := tail_fields_size rlp msg
  rw [rlp.bytes_payload] at l2msg
  rw [L1IncomingMessage.fields, List.flatten_cons, List.flatten_cons, List.length_append, List.length_append]
  omega

theorem message_fields_fit (msg : L1IncomingMessage) (fits : msg.l2msg.length < 2 ^ 63) : (msg.fields rlp).flatten.length < 2 ^ 64 := by
  have size := message_fields_size rlp msg fits
  omega

theorem message_encode_fields (msg : L1IncomingMessage) : msg.encode rlp = rlp.items.encodeList (msg.fields rlp) := by
  rw [L1IncomingMessage.encode, message_fields_length, Rlp.ItemCodec.encodeList, L1IncomingMessage.fields, List.flatten_cons,
    List.flatten_cons, tail_fields_flatten]

theorem l2msg_decode (l2msg : Bytes) (fits : l2msg.length < 2 ^ 63) :
    rlp.decodeExact rlp.bytes.decode (rlp.bytes.encode l2msg) = .ok l2msg := by
  apply rlp.decode_exact_ok
  have decoded := rlp.bytes.decode_encode l2msg [] (by rw [rlp.bytes_payload]; omega)
  rwa [List.append_nil] at decoded

-- The decoder counts the tail fields, so each pattern of present ones is read back.
theorem tail_fields_decode (msg : L1IncomingMessage) :
    decodeTail (decodeOptionalField rlp rlp.u64.decode · .emptyStringOnly) (msg.tailFields rlp)[0]? =
      .ok (msg.legacyBatchGasCost.filter (· ≠ 0)) ∧
    decodeTail (decodeOptionalField rlp rlp.decodeStats · .emptyListOnly) (msg.tailFields rlp)[1]? = .ok msg.batchDataStats := by
  rw [L1IncomingMessage.tailFields]
  cases msg.batchDataStats with
  | none =>
      cases msg.legacyBatchGasCost with
      | none => exact ⟨rfl, rfl⟩
      | some cost => exact ⟨optional_field_decode rlp rlp.u64 rlp.u64_zero (some cost), rfl⟩
  | some stats =>
      have field : decodeTail (decodeOptionalField rlp rlp.decodeStats · .emptyListOnly) (some (rlp.encodeStats stats)) = .ok (some stats) :=
        stats_field_decode rlp stats
      cases msg.legacyBatchGasCost with
      | none => exact ⟨optional_field_decode rlp rlp.u64 rlp.u64_zero none, field⟩
      | some cost => exact ⟨optional_field_decode rlp rlp.u64 rlp.u64_zero (some cost), field⟩

theorem message_fields_decode (msg : L1IncomingMessage) (fits : msg.l2msg.length < 2 ^ 63) (rest : Bytes) :
    L1IncomingMessage.decode rlp (rlp.items.encodeList (msg.fields rlp) ++ rest) = .ok (msg.normalized, rest) := by
  have view := rlp.items.decode_raw_list (msg.fields rlp) rest (message_fields_items rlp msg fits) (message_fields_fit rlp msg fits)
  obtain ⟨cost, stats⟩ := tail_fields_decode rlp msg
  rw [L1IncomingMessage.decode, view]
  simp only [L1IncomingMessage.fields, header_field_decode, l2msg_decode rlp msg.l2msg fits, cost, stats]
  rfl

/-- Decoding an encoded message gives the message in normal form and leaves exactly what followed it. A vector of the source has
fewer than 2^63 bytes. -/
theorem l1_message_round_trip (msg : L1IncomingMessage) (fits : msg.l2msg.length < 2 ^ 63) (rest : Bytes) :
    L1IncomingMessage.decode rlp (msg.encode rlp ++ rest) = .ok (msg.normalized, rest) := by
  rw [message_encode_fields]
  exact message_fields_decode rlp msg fits rest

theorem message_encode_injective (msg other : L1IncomingMessage) (fits : msg.l2msg.length < 2 ^ 63) (otherFits : other.l2msg.length < 2 ^ 63)
    (same : msg.encode rlp = other.encode rlp) : msg.normalized = other.normalized := by
  have decoded := message_fields_decode rlp msg fits []
  rw [← message_encode_fields, same, message_encode_fields, message_fields_decode rlp other otherFits []] at decoded
  exact (congrArg Prod.fst (Except.ok.inj decoded)).symm

end Codec

-- The codecs of the encoding itself.
def decodeExactly {α : Type} (decode : Bytes → Except RlpError (α × Bytes)) (buf : Bytes) : Except RlpError α :=
  match decode buf with
  | .error error => .error error
  | .ok (value, []) => .ok value
  | .ok (_, _ :: _) => .error .unexpectedLength

abbrev itemRlp : Rlp.ItemCodec RlpError := Rlp.itemCodec RlpError.other

theorem u64_fits (value : UInt64) : value.toNat < 256 ^ 8 := value.toNat_lt

theorem u256_fits (value : U256) : value.toNat < 256 ^ 32 := Nat.lt_of_lt_of_eq value.isLt (by norm_num)

def u64Rlp : Rlp.SmallScalar itemRlp UInt64 :=
  Rlp.uintScalar RlpError.other 8 (by decide) UInt64.toNat UInt64.ofNat u64_fits fun _ => UInt64.ofNat_toNat

def u256Rlp : Rlp.SmallScalar itemRlp U256 :=
  Rlp.uintScalar RlpError.other 32 (by decide) BitVec.toNat (BitVec.ofNat 256) u256_fits fun value => by simp

def decodeStatsFields (buf : Bytes) : Except RlpError (BatchDataStats × Bytes) :=
  match itemRlp.decodeRaw buf with
  | .error error => .error error
  | .ok (.string _, _) => .error .unexpectedString
  | .ok (.list [first, second], rest) => do
      let length ← decodeExactly u64Rlp.decode first
      let nonZeros ← decodeExactly u64Rlp.decode second
      return (⟨length, nonZeros⟩, rest)
  | .ok (.list fields, _) => .error (.listLengthMismatch 2 fields.length)

theorem decode_exactly_u64 (value : UInt64) : decodeExactly u64Rlp.decode (u64Rlp.encode value) = .ok value := by
  have decoded := u64Rlp.decode_encode value [] (Rlp.SmallScalar.fits itemRlp u64Rlp value)
  rw [List.append_nil] at decoded
  rw [decodeExactly, decoded]

theorem decode_stats_fields (stats : BatchDataStats) (rest : Bytes) :
    decodeStatsFields (itemRlp.encodeList [u64Rlp.encode stats.length, u64Rlp.encode stats.nonZeros] ++ rest) = .ok (stats, rest) := by
  have view := itemRlp.decode_raw_list [u64Rlp.encode stats.length, u64Rlp.encode stats.nonZeros] rest
    (Rlp.SmallScalar.pair_items itemRlp u64Rlp _ _) (Nat.lt_of_le_of_lt (Rlp.SmallScalar.pair_size itemRlp u64Rlp _ _) (by decide))
  simp only [decodeStatsFields, view, decode_exactly_u64]
  rfl

theorem u64_payload_zero (value : UInt64) : u64Rlp.payload value = [] ↔ value = 0 := by
  rw [u64Rlp, Rlp.uint_scalar_nil_iff, ← UInt64.toNat_inj]
  rfl

theorem u256_payload_zero (value : U256) : u256Rlp.payload value = [] ↔ value = 0 := by
  rw [u256Rlp, Rlp.uint_scalar_nil_iff, ← BitVec.toNat_inj]
  rfl

def alloyRlp : AlloyRlp where
  items := itemRlp
  u8 := Rlp.uintScalar RlpError.other 1 (by decide) UInt8.toNat UInt8.ofNat UInt8.toNat_lt fun _ => UInt8.ofNat_toNat
  u64 := u64Rlp
  u256 := u256Rlp
  address := Rlp.vectorScalar RlpError.other 20 (by decide)
  b256 := Rlp.vectorScalar RlpError.other 32 (by decide)
  bytes := Rlp.stringScalar RlpError.other id some fun _ => rfl
  encodeStats stats := itemRlp.encodeList [u64Rlp.encode stats.length, u64Rlp.encode stats.nonZeros]
  lengthStats stats := (itemRlp.encodeList [u64Rlp.encode stats.length, u64Rlp.encode stats.nonZeros]).length
  decodeStats := decodeStatsFields
  decodeExact := decodeExactly
  u64_zero := u64_payload_zero
  u256_zero := u256_payload_zero
  b256_payload _ := rfl
  bytes_payload _ := rfl
  stats_fields _ := rfl
  stats_length _ := rfl
  stats_decode := decode_stats_fields
  decode_exact_ok decode buf value decoded := by rw [decodeExactly, decoded]

-- The upstream test message has a base fee of zero, and reads back without one.
def upstreamL1Message : L1IncomingMessage :=
  ⟨some ⟨0, .replicate 20 0, 0, 0, some (b256 0), some 0⟩, [0xde, 0xad, 0xbe, 0xef], none, none⟩

theorem l1_message_round_trip_upstream :
    L1IncomingMessage.decode alloyRlp (upstreamL1Message.encode alloyRlp ++ [1, 2]) =
      .ok (⟨some ⟨0, .replicate 20 0, 0, 0, some (b256 0), none⟩, [0xde, 0xad, 0xbe, 0xef], none, none⟩, [1, 2]) :=
  l1_message_round_trip alloyRlp upstreamL1Message (by decide) [1, 2]

end Cas
