import Cas.Lib.CheckedSlice
import Cas.Nitro.Payload

set_option autoImplicit false

namespace Cas

open CheckedSlice (Slice Stop)

def lenWidth : UInt64 := UInt64.ofNat lenSize
def indexWidth : UInt64 := UInt64.ofNat indexSize

-- The parsers as the code runs them, over offsets into the payload. `parseMessages`
-- and its siblings consume the bytes; here a slice out of bounds and an offset
-- beyond `usize` are panics, and the loop may be cut off by the fuel.

-- The length field at `current_pos` and the bytes it announces, with the offset after them.
def sizedBytesAt (txPayload : Slice UInt8) (currentPos : UInt64) (tooShort : String) : Except Stop (Bytes × UInt64) := do
  let bodyPos ← CheckedSlice.add currentPos lenWidth
  let sizeBytes ← CheckedSlice.range txPayload currentPos bodyPos
  let size := fromBeBytes sizeBytes
  let body ← CheckedSlice.suffix txPayload bodyPos
  if body.length < size.toNat then .error (.bail tooShort)
  else do
    let nextPos ← CheckedSlice.add bodyPos size
    let bytes ← CheckedSlice.range txPayload bodyPos nextPos
    return (bytes, nextPos)

def parseMessagesAt (external : External) (config : NitroConfig) (verifySignature : FeedMessageVerifier) (txPayload : Slice UInt8) :
    Nat → List BroadcastFeedMessage → UInt64 → Except Stop (List BroadcastFeedMessage)
  | 0, _, _ => .error .running
  | fuel + 1, messages, currentPos =>
      if currentPos.toNat < txPayload.elems.length then do
        let rest ← CheckedSlice.suffix txPayload currentPos
        if rest.length < lenSize then .error (.bail "payload too short to parse message size")
        else do
          let (messageBytes, nextPos) ← sizedBytesAt txPayload currentPos "payload too short to parse message"
          match external.jsonMessage messageBytes with
          | .error reason => .error (.bail s!"failed to parse nitro hotshot message: {reason}")
          | .ok message =>
              match verifySignature config.chainId config.trustedSequencerAddresses message with
              | .ok () => parseMessagesAt external config verifySignature txPayload fuel (messages ++ [message]) nextPos
              | .error _ => parseMessagesAt external config verifySignature txPayload fuel messages nextPos
      else .ok messages

def parseNitroHotshotPayloadAt (external : External) (config : NitroConfig) (txPayload : Slice UInt8) (verifySignature : FeedMessageVerifier)
    (fuel : Nat) : Except Stop (List BroadcastFeedMessage) :=
  if txPayload.elems.length < lenSize then .error (.bail "payload too short to parse header size")
  else do
    let (headerBytes, currentPos) ← sizedBytesAt txPayload 0 "payload too short to parse header"
    match external.jsonHeader headerBytes with
    | .error reason => .error (.bail s!"failed to parse nitro hotshot header: {reason}")
    | .ok header =>
        if header ≠ .v1 then .error (.bail "unsupported nitro hotshot header version")
        else parseMessagesAt external config verifySignature txPayload fuel [] currentPos

def parseLegacyFramesAt (txPayload : Slice UInt8) : Nat → List UInt64 → List Bytes → UInt64 → Except Stop (List UInt64 × List Bytes)
  | 0, _, _, _ => .error .running
  | fuel + 1, indices, messages, currentPos =>
      if currentPos.toNat < txPayload.elems.length then do
        let rest ← CheckedSlice.suffix txPayload currentPos
        if rest.length < lenSize + indexSize then .error (.bail "payload too short to index size")
        else do
          let sizePos ← CheckedSlice.add currentPos indexWidth
          let indexBytes ← CheckedSlice.range txPayload currentPos sizePos
          let (message, nextPos) ← sizedBytesAt txPayload sizePos "payload too short to message size"
          if message = [] then parseLegacyFramesAt txPayload fuel indices messages nextPos
          else parseLegacyFramesAt txPayload fuel (indices ++ [fromBeBytes indexBytes]) (messages ++ [message]) nextPos
      else .ok (indices, messages)

def parseLegacyPayloadBytesAt (external : External) (txPayload : Slice UInt8) (fuel : Nat) :
    Except Stop LegacyParsedNitroEspressoTransaction :=
  if txPayload.elems.length < lenSize then .error (.bail "payload too short to parse signature size")
  else do
    let (signature, currentPos) ← sizedBytesAt txPayload 0 "payload too short to parse signature"
    let messageData ← CheckedSlice.suffix txPayload currentPos
    let (indices, messages) ← parseLegacyFramesAt txPayload fuel [] [] currentPos
    return ⟨signature, external.keccak256 messageData, indices, messages⟩

theorem to_nat_len_width : lenWidth.toNat = lenSize := by decide
theorem to_nat_index_width : indexWidth.toNat = indexSize := by decide

structure SizedBytes (txPayload : Slice UInt8) (currentPos : UInt64) (size : Nat) (nextPos : UInt64) : Prop where
  inside : nextPos.toNat ≤ txPayload.elems.length
  advanced : currentPos.toNat + lenSize ≤ nextPos.toNat
  left : txPayload.elems.drop nextPos.toNat = ((txPayload.elems.drop currentPos.toNat).drop lenSize).drop size

inductive SizedOutcome (txPayload : Slice UInt8) (currentPos : UInt64) (tooShort : String) (size : Nat) (body : Bytes) :
    Except Stop (Bytes × UInt64) → Prop where
  | truncated (short : body.length < size) : SizedOutcome txPayload currentPos tooShort size body (.error (.bail tooShort))
  | whole (nextPos : UInt64) (enough : ¬ body.length < size) (next : SizedBytes txPayload currentPos size nextPos) :
      SizedOutcome txPayload currentPos tooShort size body (.ok (body.take size, nextPos))

theorem sized_bytes_at (txPayload : Slice UInt8) (currentPos : UInt64) (tooShort : String)
    (inside : currentPos.toNat ≤ txPayload.elems.length) (enough : lenSize ≤ (txPayload.elems.drop currentPos.toNat).length) :
    SizedOutcome txPayload currentPos tooShort (fromBeBytes ((txPayload.elems.drop currentPos.toNat).take lenSize)).toNat
      ((txPayload.elems.drop currentPos.toNat).drop lenSize) (sizedBytesAt txPayload currentPos tooShort) := by
  have field := CheckedSlice.stretch_inside txPayload currentPos lenWidth inside (by rwa [to_nat_len_width])
  have bodyLeft := field.left
  have sizeRead := field.read
  rw [to_nat_len_width] at bodyLeft sizeRead
  simp only [sizedBytesAt, field.ends, sizeRead, CheckedSlice.suffix_inside txPayload _ field.inside, bodyLeft, Except.bind, bind]
  split
  · rename_i short
    exact .truncated short
  · rename_i whole
    have stretch := CheckedSlice.stretch_inside txPayload (currentPos + lenWidth)
      (fromBeBytes ((txPayload.elems.drop currentPos.toNat).take lenSize)) field.inside (by rw [bodyLeft]; exact not_lt.mp whole)
    simp only [stretch.ends, stretch.read, bodyLeft]
    refine .whole _ whole ⟨stretch.inside, ?_, ?_⟩
    · rw [stretch.position, field.position, to_nat_len_width]
      omega
    · rw [stretch.left, bodyLeft]

-- The fuel bounds the bytes that are left; every turn moves past a length field.
theorem parse_messages_at (external : External) (config : NitroConfig) (verifySignature : FeedMessageVerifier) (txPayload : Slice UInt8)
    (fuel : Nat) (messages : List BroadcastFeedMessage) (currentPos : UInt64) (inside : currentPos.toNat ≤ txPayload.elems.length)
    (fueled : txPayload.elems.length - currentPos.toNat < fuel) :
    parseMessagesAt external config verifySignature txPayload fuel messages currentPos =
      (parseMessages external config verifySignature messages (txPayload.elems.drop currentPos.toNat)).mapError .bail := by
  induction fuel generalizing messages currentPos with
  | zero => exact absurd fueled (Nat.not_lt_zero _)
  | succ fuel ih =>
      rw [parseMessagesAt, parseMessages]
      by_cases more : currentPos.toNat < txPayload.elems.length
      · have some : txPayload.elems.drop currentPos.toNat ≠ [] := by
          rw [Ne, List.drop_eq_nil_iff]
          omega
        rw [if_pos more, if_neg some, CheckedSlice.suffix_inside txPayload currentPos inside]
        simp only [Except.bind, bind]
        by_cases short : (txPayload.elems.drop currentPos.toNat).length < lenSize
        · rw [if_pos short, dif_pos short]
          rfl
        · rw [if_neg short, dif_neg short]
          have read := sized_bytes_at txPayload currentPos "payload too short to parse message" inside (not_lt.mp short)
          generalize sizedBytesAt txPayload currentPos "payload too short to parse message" = result at read ⊢
          cases read with
          | truncated truncated =>
              rw [if_pos truncated]
              rfl
          | whole nextPos whole next =>
              have advanced := next.advanced
              simp only [if_neg whole, ← next.left]
              rw [lenSize] at advanced
              cases external.jsonMessage _ with
              | error reason => rfl
              | ok message =>
                  cases verified : verifySignature config.chainId config.trustedSequencerAddresses message with
                  | ok _ =>
                      simp only [verified]
                      exact ih _ _ next.inside (by omega)
                  | error _ =>
                      simp only [verified]
                      exact ih _ _ next.inside (by omega)
      · have nothing : txPayload.elems.drop currentPos.toNat = [] := List.drop_eq_nil_iff.mpr (not_lt.mp more)
        rw [if_neg more, if_pos nothing]
        rfl

theorem parse_nitro_payload_at (external : External) (config : NitroConfig) (txPayload : Slice UInt8)
    (verifySignature : FeedMessageVerifier) (fuel : Nat) (fueled : txPayload.elems.length < fuel) :
    parseNitroHotshotPayloadAt external config txPayload verifySignature fuel =
      (parseNitroHotshotPayload external config txPayload.elems verifySignature).mapError .bail := by
  rw [parseNitroHotshotPayloadAt, parseNitroHotshotPayload]
  by_cases short : txPayload.elems.length < lenSize
  · rw [if_pos short, if_pos short]
    rfl
  · rw [if_neg short, if_neg short]
    have read := sized_bytes_at txPayload 0 "payload too short to parse header" (Nat.zero_le _) (not_lt.mp short)
    rw [UInt64.toNat_zero, List.drop_zero] at read
    generalize sizedBytesAt txPayload 0 "payload too short to parse header" = result at read ⊢
    cases read with
    | truncated truncated =>
        rw [if_pos truncated]
        rfl
    | whole nextPos whole next =>
        have left := next.left
        rw [UInt64.toNat_zero, List.drop_zero] at left
        simp only [if_neg whole, ← left, Except.bind, bind]
        cases external.jsonHeader _ with
        | error reason => rfl
        | ok header =>
            cases header with
            | v1 => exact parse_messages_at external config verifySignature txPayload fuel [] nextPos next.inside (by omega)

theorem parse_legacy_frames_at (txPayload : Slice UInt8) (fuel : Nat) (indices : List UInt64) (messages : List Bytes) (currentPos : UInt64)
    (inside : currentPos.toNat ≤ txPayload.elems.length) (fueled : txPayload.elems.length - currentPos.toNat < fuel) :
    parseLegacyFramesAt txPayload fuel indices messages currentPos =
      (parseLegacyFrames indices messages (txPayload.elems.drop currentPos.toNat)).mapError .bail := by
  induction fuel generalizing indices messages currentPos with
  | zero => exact absurd fueled (Nat.not_lt_zero _)
  | succ fuel ih =>
      rw [parseLegacyFramesAt, parseLegacyFrames]
      by_cases more : currentPos.toNat < txPayload.elems.length
      · have some : txPayload.elems.drop currentPos.toNat ≠ [] := by
          rw [Ne, List.drop_eq_nil_iff]
          omega
        rw [if_pos more, if_neg some, CheckedSlice.suffix_inside txPayload currentPos inside]
        simp only [Except.bind, bind]
        by_cases short : (txPayload.elems.drop currentPos.toNat).length < lenSize + indexSize
        · rw [if_pos short, dif_pos short]
          rfl
        · rw [if_neg short, dif_neg short]
          have field := CheckedSlice.stretch_inside txPayload currentPos indexWidth inside (by rw [to_nat_index_width]; omega)
          have fieldLeft := field.left
          rw [to_nat_index_width] at fieldLeft
          have read := sized_bytes_at txPayload (currentPos + indexWidth) "payload too short to message size" field.inside (by
            rw [fieldLeft, List.length_drop]
            omega)
          simp only [field.ends, field.read, to_nat_index_width]
          rw [fieldLeft] at read
          generalize sizedBytesAt txPayload (currentPos + indexWidth) "payload too short to message size" = result at read ⊢
          cases read with
          | truncated truncated =>
              rw [if_pos truncated]
              rfl
          | whole nextPos whole next =>
              have left := next.left
              have advanced := next.advanced
              rw [fieldLeft] at left
              rw [field.position, to_nat_index_width, indexSize] at advanced
              simp only [if_neg whole, ← left]
              split
              · exact ih _ _ _ next.inside (by omega)
              · exact ih _ _ _ next.inside (by omega)
      · have nothing : txPayload.elems.drop currentPos.toNat = [] := List.drop_eq_nil_iff.mpr (not_lt.mp more)
        rw [if_neg more, if_pos nothing]
        rfl

theorem parse_legacy_payload_at (external : External) (txPayload : Slice UInt8) (fuel : Nat) (fueled : txPayload.elems.length < fuel) :
    parseLegacyPayloadBytesAt external txPayload fuel = (parseLegacyPayloadBytes external txPayload.elems).mapError .bail := by
  rw [parseLegacyPayloadBytesAt, parseLegacyPayloadBytes]
  by_cases short : txPayload.elems.length < lenSize
  · rw [if_pos short, if_pos short]
    rfl
  · rw [if_neg short, if_neg short]
    have read := sized_bytes_at txPayload 0 "payload too short to parse signature" (Nat.zero_le _) (not_lt.mp short)
    rw [UInt64.toNat_zero, List.drop_zero] at read
    generalize sizedBytesAt txPayload 0 "payload too short to parse signature" = result at read ⊢
    cases read with
    | truncated truncated =>
        rw [if_pos truncated]
        rfl
    | whole nextPos whole next =>
        have left := next.left
        rw [UInt64.toNat_zero, List.drop_zero] at left
        simp only [if_neg whole, ← left, Except.bind, bind, CheckedSlice.suffix_inside txPayload nextPos next.inside,
          parse_legacy_frames_at txPayload fuel [] [] nextPos next.inside (by omega)]
        cases parseLegacyFrames [] [] (txPayload.elems.drop nextPos.toNat) with
        | error reason => rfl
        | ok framed => rfl

theorem length_frame (bytes : Bytes) : (frame bytes).length = lenSize + bytes.length := by
  rw [frame, List.length_append, beBytes, BigEndian.length_encode, lenSize]

theorem frame_ne_nil (bytes : Bytes) : frame bytes ≠ [] := by
  apply List.ne_nil_of_length_pos
  rw [length_frame, lenSize]
  omega

theorem frame_length_field (bytes rest : Bytes) (small : bytes.length < 2 ^ 64) :
    (fromBeBytes ((frame bytes ++ rest).take lenSize)).toNat = bytes.length ∧ (frame bytes ++ rest).drop lenSize = bytes ++ rest := by
  have width : (beBytes (UInt64.ofNat bytes.length)).length = lenSize := BigEndian.length_encode 8 _
  have value : (UInt64.ofNat bytes.length).toNat = bytes.length := UInt64.toNat_ofNat_of_lt' small
  rw [frame, List.append_assoc, ← width, List.take_left, List.drop_left]
  refine ⟨?_, rfl⟩
  rw [fromBeBytes, beBytes, value, BigEndian.decode_encode 8 _ small, value]

theorem frame_of_length_field (text : Bytes) (enough : lenSize ≤ text.length)
    (whole : (fromBeBytes (text.take lenSize)).toNat ≤ (text.drop lenSize).length) :
    let size := (fromBeBytes (text.take lenSize)).toNat
    ((text.drop lenSize).take size).length < 2 ^ 64 ∧ text = frame ((text.drop lenSize).take size) ++ (text.drop lenSize).drop size := by
  have width : (text.take lenSize).length = 8 := by
    rw [List.length_take, Nat.min_eq_left enough, lenSize]
  intro size
  have length : ((text.drop lenSize).take size).length = size := by
    rw [List.length_take, Nat.min_eq_left whole]
  rw [frame, length]
  refine ⟨UInt64.toNat_lt _, ?_⟩
  rw [UInt64.ofNat_toNat, be_bytes_from_be_bytes _ width, List.append_assoc, List.take_append_drop, List.take_append_drop]

def accepts (config : NitroConfig) (verifySignature : FeedMessageVerifier) (message : BroadcastFeedMessage) : Bool :=
  (verifySignature config.chainId config.trustedSequencerAddresses message).isOk

structure MessageFrames (external : External) (text : Bytes) (encodings : List Bytes) (decoded : List BroadcastFeedMessage) : Prop where
  layout : text = encodings.flatMap frame
  small : ∀ bytes ∈ encodings, bytes.length < 2 ^ 64
  decodes : List.Forall₂ (fun bytes message => external.jsonMessage bytes = .ok message) encodings decoded

section Messages

variable (external : External) (config : NitroConfig) (verifySignature : FeedMessageVerifier)

theorem parse_messages_frame (messages : List BroadcastFeedMessage) (bytes rest : Bytes) (message : BroadcastFeedMessage)
    (small : bytes.length < 2 ^ 64) (decodes : external.jsonMessage bytes = .ok message) :
    parseMessages external config verifySignature messages (frame bytes ++ rest) =
      parseMessages external config verifySignature (messages ++ [message].filter (accepts config verifySignature)) rest := by
  obtain ⟨size, body⟩ := frame_length_field bytes rest small
  have more : frame bytes ++ rest ≠ [] := by simp [frame_ne_nil]
  have long : ¬ (frame bytes ++ rest).length < lenSize := by
    rw [List.length_append, length_frame]
    omega
  have whole : ¬ (bytes ++ rest).length < bytes.length := by
    rw [List.length_append]
    omega
  rw [parseMessages, if_neg more, dif_neg long]
  simp only [size, body, if_neg whole, List.take_left, List.drop_left, decodes]
  cases verified : verifySignature config.chainId config.trustedSequencerAddresses message with
  | ok _ =>
      have accepted : accepts config verifySignature message = true := by rw [accepts, verified]; rfl
      rw [List.filter_cons_of_pos accepted, List.filter_nil]
  | error _ =>
      have refused : ¬ accepts config verifySignature message = true := by rw [accepts, verified]; simp [Except.isOk, Except.toBool]
      rw [List.filter_cons_of_neg refused, List.filter_nil, List.append_nil]

theorem parse_messages_frames (messages decoded : List BroadcastFeedMessage) (encodings : List Bytes)
    (small : ∀ bytes ∈ encodings, bytes.length < 2 ^ 64)
    (decodes : List.Forall₂ (fun bytes message => external.jsonMessage bytes = .ok message) encodings decoded) :
    parseMessages external config verifySignature messages (encodings.flatMap frame) =
      .ok (messages ++ decoded.filter (accepts config verifySignature)) := by
  induction decodes generalizing messages with
  | nil => rw [List.flatMap_nil, parseMessages, if_pos rfl, List.filter_nil, List.append_nil]
  | @cons bytes message encodings decoded head tail ih =>
      rw [List.flatMap_cons, parse_messages_frame external config verifySignature messages _ _ _ (small _ (by simp)) head,
        ih _ fun other member => small other (by simp [member]), List.append_assoc, ← List.filter_append, List.singleton_append]

theorem message_frames_cons (text rest bytes : Bytes) (message : BroadcastFeedMessage) (encodings : List Bytes)
    (decoded : List BroadcastFeedMessage) (layout : text = frame bytes ++ rest) (small : bytes.length < 2 ^ 64)
    (decodes : external.jsonMessage bytes = .ok message) (later : MessageFrames external rest encodings decoded) :
    MessageFrames external text (bytes :: encodings) (message :: decoded) := by
  refine ⟨by rw [layout, later.layout, List.flatMap_cons], ?_, .cons decodes later.decodes⟩
  intro other member
  rcases List.mem_cons.mp member with rfl | tail
  · exact small
  · exact later.small other tail

theorem parse_messages_layout (messages : List BroadcastFeedMessage) (text : Bytes) (parsed : List BroadcastFeedMessage)
    (accepted : parseMessages external config verifySignature messages text = .ok parsed) :
    ∃ encodings decoded, MessageFrames external text encodings decoded := by
  fun_induction parseMessages external config verifySignature messages text with
  | case1 messages => exact ⟨[], [], rfl, by simp, .nil⟩
  | case2 messages text more short => cases accepted
  | case3 messages text more enough messageSize body truncated => cases accepted
  | case4 messages text more enough messageSize body whole reason refused => cases accepted
  | case5 messages text more enough messageSize body whole message decoded verified ih =>
      obtain ⟨encodings, later, framed⟩ := ih accepted
      obtain ⟨small, layout⟩ := frame_of_length_field text (not_lt.mp enough) (not_lt.mp whole)
      exact ⟨_, _, message_frames_cons external text _ _ message encodings later layout small decoded framed⟩
  | case6 messages text more enough messageSize body whole message decoded reason refused ih =>
      obtain ⟨encodings, later, framed⟩ := ih accepted
      obtain ⟨small, layout⟩ := frame_of_length_field text (not_lt.mp enough) (not_lt.mp whole)
      exact ⟨_, _, message_frames_cons external text _ _ message encodings later layout small decoded framed⟩

theorem parse_payload_frames (encodedHeader : Bytes) (encodings : List Bytes) (decoded : List BroadcastFeedMessage)
    (headerSmall : encodedHeader.length < 2 ^ 64) (headerDecodes : external.jsonHeader encodedHeader = .ok .v1)
    (small : ∀ bytes ∈ encodings, bytes.length < 2 ^ 64)
    (decodes : List.Forall₂ (fun bytes message => external.jsonMessage bytes = .ok message) encodings decoded) :
    parseNitroHotshotPayload external config (frame encodedHeader ++ encodings.flatMap frame) verifySignature =
      .ok (decoded.filter (accepts config verifySignature)) := by
  obtain ⟨size, body⟩ := frame_length_field encodedHeader (encodings.flatMap frame) headerSmall
  have long : ¬ (frame encodedHeader ++ encodings.flatMap frame).length < lenSize := by
    rw [List.length_append, length_frame]
    omega
  have whole : ¬ (encodedHeader ++ encodings.flatMap frame).length < encodedHeader.length := by
    rw [List.length_append]
    omega
  rw [parseNitroHotshotPayload, if_neg long]
  simp only [size, body, if_neg whole, List.take_left, List.drop_left, headerDecodes, ne_eq, not_true_eq_false, if_false]
  rw [parse_messages_frames external config verifySignature [] decoded encodings small decodes, List.nil_append]

theorem parse_payload_layout (txPayload : Bytes) (parsed : List BroadcastFeedMessage)
    (accepted : parseNitroHotshotPayload external config txPayload verifySignature = .ok parsed) :
    ∃ header text encodings decoded, txPayload = frame header ++ text ∧ header.length < 2 ^ 64 ∧ external.jsonHeader header = .ok .v1 ∧
      MessageFrames external text encodings decoded := by
  simp only [parseNitroHotshotPayload] at accepted
  split at accepted
  · cases accepted
  · rename_i enough
    split at accepted
    · cases accepted
    · rename_i whole
      obtain ⟨small, layout⟩ := frame_of_length_field txPayload (not_lt.mp enough) (not_lt.mp whole)
      split at accepted
      · cases accepted
      · rename_i header decodes
        cases header with
        | v1 =>
            obtain ⟨encodings, decoded, framed⟩ := parse_messages_layout external config verifySignature [] _ parsed accepted
            exact ⟨_, _, encodings, decoded, layout, small, decodes, framed⟩

end Messages

theorem framed_pieces_small (first : Bytes) (encodings : List Bytes) (bound : Nat)
    (fits : (frame first ++ encodings.flatMap frame).length < bound) : first.length < bound ∧ ∀ bytes ∈ encodings, bytes.length < bound := by
  rw [List.length_append, length_frame] at fits
  refine ⟨by omega, fun bytes member => ?_⟩
  have part := (List.sublist_flatten_of_mem (List.mem_map_of_mem (f := frame) member)).length_le
  rw [length_frame, ← List.flatMap_def] at part
  omega

/-- The V1 parser runs to its end on every payload, without a slice out of bounds or an offset that overflows, and accepts exactly
the payloads that are a frame with the V1 header and frames with one message each: it returns the messages the verifier accepts. -/
theorem v1_payload_grammar (external : External) (config : NitroConfig) (verifySignature : FeedMessageVerifier) (txPayload : Slice UInt8) :
    (∀ fuel > txPayload.elems.length, parseNitroHotshotPayloadAt external config txPayload verifySignature fuel =
      (parseNitroHotshotPayload external config txPayload.elems verifySignature).mapError .bail) ∧
    ∀ parsed, parseNitroHotshotPayload external config txPayload.elems verifySignature = .ok parsed ↔
      ∃ header encodings decoded, txPayload.elems = frame header ++ encodings.flatMap frame ∧ external.jsonHeader header = .ok .v1 ∧
        List.Forall₂ (fun bytes message => external.jsonMessage bytes = .ok message) encodings decoded ∧
        parsed = decoded.filter (accepts config verifySignature) := by
  refine ⟨parse_nitro_payload_at external config txPayload verifySignature, fun parsed => ⟨fun accepted => ?_, ?_⟩⟩
  · obtain ⟨header, text, encodings, decoded, layout, headerSmall, headerDecodes, framed⟩ :=
      parse_payload_layout external config verifySignature txPayload.elems parsed accepted
    rw [framed.layout] at layout
    have result := parse_payload_frames external config verifySignature header encodings decoded headerSmall headerDecodes framed.small
      framed.decodes
    rw [← layout, accepted] at result
    exact ⟨header, encodings, decoded, layout, headerDecodes, framed.decodes, Except.ok.inj result⟩
  · intro given
    obtain ⟨header, encodings, decoded, layout, headerDecodes, decodes, rfl⟩ := given
    have addressable := txPayload.addressable
    rw [layout] at addressable
    obtain ⟨headerSmall, small⟩ := framed_pieces_small header encodings (2 ^ 64) (by omega)
    rw [layout]
    exact parse_payload_frames external config verifySignature header encodings decoded headerSmall headerDecodes small decodes

structure LegacyFrame where
  index : UInt64
  message : Bytes
deriving DecidableEq, Repr

def LegacyFrame.bytes (legacy : LegacyFrame) : Bytes := beBytes legacy.index ++ frame legacy.message

def legacyText (frames : List LegacyFrame) : Bytes := frames.flatMap LegacyFrame.bytes

def nonEmpty (frames : List LegacyFrame) : List LegacyFrame := frames.filter fun legacy => legacy.message ≠ []

theorem legacy_text_cons (legacy : LegacyFrame) (tail : List LegacyFrame) : legacyText (legacy :: tail) = legacy.bytes ++ legacyText tail :=
  List.flatMap_cons

theorem parse_legacy_frames_frame (indices : List UInt64) (messages : List Bytes) (legacy : LegacyFrame) (rest : Bytes)
    (small : legacy.message.length < 2 ^ 64) :
    parseLegacyFrames indices messages (legacy.bytes ++ rest) =
      parseLegacyFrames (indices ++ (nonEmpty [legacy]).map LegacyFrame.index) (messages ++ (nonEmpty [legacy]).map LegacyFrame.message)
        rest := by
  obtain ⟨size, body⟩ := frame_length_field legacy.message rest small
  have width : (beBytes legacy.index).length = indexSize := BigEndian.length_encode 8 _
  have front : (legacy.bytes ++ rest).take indexSize = beBytes legacy.index ∧
      (legacy.bytes ++ rest).drop indexSize = frame legacy.message ++ rest := by
    rw [LegacyFrame.bytes, List.append_assoc, ← width, List.take_left, List.drop_left]
    exact ⟨rfl, rfl⟩
  have long : ¬ (legacy.bytes ++ rest).length < lenSize + indexSize := by
    rw [LegacyFrame.bytes, List.length_append, List.length_append, width, length_frame]
    omega
  have more : legacy.bytes ++ rest ≠ [] := by
    intro nothing
    rw [nothing] at long
    exact long (by decide)
  have whole : ¬ (legacy.message ++ rest).length < legacy.message.length := by
    rw [List.length_append]
    omega
  rw [parseLegacyFrames, if_neg more, dif_neg long]
  simp only [front, size, body, if_neg whole, List.take_left, List.drop_left, from_be_bytes_be_bytes]
  by_cases empty : legacy.message = []
  · simp [empty, nonEmpty]
  · simp [empty, nonEmpty]

theorem parse_legacy_frames_frames (indices : List UInt64) (messages : List Bytes) (frames : List LegacyFrame)
    (small : ∀ legacy ∈ frames, legacy.message.length < 2 ^ 64) :
    parseLegacyFrames indices messages (legacyText frames) =
      .ok (indices ++ (nonEmpty frames).map LegacyFrame.index, messages ++ (nonEmpty frames).map LegacyFrame.message) := by
  induction frames generalizing indices messages with
  | nil =>
      rw [legacyText, List.flatMap_nil, parseLegacyFrames, if_pos rfl]
      simp [nonEmpty]
  | cons legacy tail ih =>
      have split : nonEmpty (legacy :: tail) = nonEmpty [legacy] ++ nonEmpty tail := List.filter_append [legacy] tail
      rw [legacy_text_cons, parse_legacy_frames_frame indices messages legacy _ (small legacy (by simp)),
        ih _ _ fun other member => small other (by simp [member]), split, List.map_append, List.map_append, List.append_assoc,
        List.append_assoc]

theorem legacy_frame_of_fields (text : Bytes) (enough : lenSize + indexSize ≤ text.length)
    (whole : (fromBeBytes ((text.drop indexSize).take lenSize)).toNat ≤ ((text.drop indexSize).drop lenSize).length) :
    let size := (fromBeBytes ((text.drop indexSize).take lenSize)).toNat
    let legacy : LegacyFrame := ⟨fromBeBytes (text.take indexSize), ((text.drop indexSize).drop lenSize).take size⟩
    legacy.message.length < 2 ^ 64 ∧ text = legacy.bytes ++ ((text.drop indexSize).drop lenSize).drop size := by
  intro size legacy
  obtain ⟨small, layout⟩ := frame_of_length_field (text.drop indexSize) (by rw [List.length_drop]; omega) whole
  have width : (text.take indexSize).length = 8 := by
    rw [List.length_take, Nat.min_eq_left (by omega), indexSize]
  refine ⟨small, ?_⟩
  rw [LegacyFrame.bytes, List.append_assoc, ← layout, be_bytes_from_be_bytes _ width, List.take_append_drop]

theorem parse_legacy_frames_layout (indices : List UInt64) (messages : List Bytes) (text : Bytes) (parsed : List UInt64 × List Bytes)
    (accepted : parseLegacyFrames indices messages text = .ok parsed) :
    ∃ frames, text = legacyText frames ∧ ∀ legacy ∈ frames, legacy.message.length < 2 ^ 64 := by
  have cons : ∀ (text rest : Bytes) (first : LegacyFrame), first.message.length < 2 ^ 64 ∧ text = first.bytes ++ rest →
      (∃ frames, rest = legacyText frames ∧ ∀ legacy ∈ frames, legacy.message.length < 2 ^ 64) →
      ∃ frames, text = legacyText frames ∧ ∀ legacy ∈ frames, legacy.message.length < 2 ^ 64 := by
    intro text rest first here later
    obtain ⟨frames, layout, small⟩ := later
    exact ⟨first :: frames, by rw [here.2, layout, legacy_text_cons], List.forall_mem_cons.mpr ⟨here.1, small⟩⟩
  fun_induction parseLegacyFrames indices messages text with
  | case1 indices messages => exact ⟨[], rfl, by simp⟩
  | case2 indices messages text more short => cases accepted
  | case3 indices messages text more enough messageSize body truncated => cases accepted
  | case4 indices messages text more enough messageSize body whole empty ih =>
      exact cons text _ _ (legacy_frame_of_fields text (not_lt.mp enough) (not_lt.mp whole)) (ih accepted)
  | case5 indices messages text more enough index messageSize body whole some ih =>
      exact cons text _ _ (legacy_frame_of_fields text (not_lt.mp enough) (not_lt.mp whole)) (ih accepted)

theorem parse_legacy_payload_layout (external : External) (txPayload : Bytes) (parsed : LegacyParsedNitroEspressoTransaction)
    (accepted : parseLegacyPayloadBytes external txPayload = .ok parsed) :
    ∃ frames, txPayload = frame parsed.signature ++ frames ∧ parsed.messagesHash = external.keccak256 frames ∧
      parseLegacyFrames [] [] frames = .ok (parsed.indices, parsed.messages) := by
  simp only [parseLegacyPayloadBytes] at accepted
  split at accepted
  · cases accepted
  · rename_i enough
    split at accepted
    · cases accepted
    · rename_i whole
      obtain ⟨-, layout⟩ := frame_of_length_field txPayload (not_lt.mp enough) (not_lt.mp whole)
      split at accepted
      · cases accepted
      · rename_i indices messages frames
        obtain rfl := Except.ok.inj accepted
        exact ⟨_, layout, rfl, frames⟩

def legacyTransaction (external : External) (signature : Bytes) (frames : List LegacyFrame) : LegacyParsedNitroEspressoTransaction :=
  ⟨signature, external.keccak256 (legacyText frames), (nonEmpty frames).map LegacyFrame.index,
    (nonEmpty frames).map LegacyFrame.message⟩

theorem parse_legacy_payload_frames (external : External) (signature : Bytes) (frames : List LegacyFrame)
    (signatureSmall : signature.length < 2 ^ 64) (small : ∀ legacy ∈ frames, legacy.message.length < 2 ^ 64) :
    parseLegacyPayloadBytes external (frame signature ++ legacyText frames) =
      .ok (legacyTransaction external signature frames) := by
  obtain ⟨size, body⟩ := frame_length_field signature (legacyText frames) signatureSmall
  have long : ¬ (frame signature ++ legacyText frames).length < lenSize := by
    rw [List.length_append, length_frame]
    omega
  have whole : ¬ (signature ++ legacyText frames).length < signature.length := by
    rw [List.length_append]
    omega
  rw [parseLegacyPayloadBytes, if_neg long]
  simp only [size, body, if_neg whole, List.take_left, List.drop_left, parse_legacy_frames_frames [] [] frames small, List.nil_append]
  rfl

theorem legacy_pieces_small (txPayload : Slice UInt8) (signature : Bytes) (frames : List LegacyFrame)
    (layout : txPayload.elems = frame signature ++ legacyText frames) :
    signature.length < 2 ^ 64 ∧ ∀ legacy ∈ frames, legacy.message.length < 2 ^ 64 := by
  have addressable := txPayload.addressable
  rw [layout, List.length_append, length_frame] at addressable
  refine ⟨by omega, fun legacy member => ?_⟩
  have part := (List.sublist_flatten_of_mem (List.mem_map_of_mem (f := LegacyFrame.bytes) member)).length_le
  rw [← List.flatMap_def, ← legacyText, LegacyFrame.bytes, List.length_append, length_frame] at part
  omega

def LegacyFrame.entry (external : External) (hotshotHeight : UInt64) (legacy : LegacyFrame) : Option NitroRollupQueueEntry :=
  if legacy.message = [] then none
  else
    match external.rlpMessage legacy.message with
    | .ok messageWithMeta => some ⟨⟨legacy.index, messageWithMeta, [], [], 0, none⟩, hotshotHeight⟩
    | .error _ => none

theorem legacy_entries_frames (external : External) (hotshotHeight : UInt64) (frames : List LegacyFrame) :
    legacyEntries external ((nonEmpty frames).map LegacyFrame.index) ((nonEmpty frames).map LegacyFrame.message) hotshotHeight =
      frames.filterMap (LegacyFrame.entry external hotshotHeight) := by
  induction frames with
  | nil => rfl
  | cons legacy tail ih =>
      rw [legacyEntries] at ih ⊢
      by_cases empty : legacy.message = []
      · have skipped : nonEmpty (legacy :: tail) = nonEmpty tail := by simp [nonEmpty, empty]
        have nothing : legacy.entry external hotshotHeight = none := if_pos empty
        rw [skipped, ih, List.filterMap_cons_none nothing]
      · have kept : nonEmpty (legacy :: tail) = legacy :: nonEmpty tail := by simp [nonEmpty, empty]
        rw [kept, List.map_cons, List.map_cons, List.zip_cons_cons]
        cases decoded : external.rlpMessage legacy.message with
        | error reason =>
            have nothing : legacy.entry external hotshotHeight = none := by simp only [LegacyFrame.entry, if_neg empty, decoded]
            rw [List.filterMap_cons_none (by simp only [decoded]), List.filterMap_cons_none nothing, ih]
        | ok messageWithMeta =>
            have yields : legacy.entry external hotshotHeight = some ⟨⟨legacy.index, messageWithMeta, [], [], 0, none⟩, hotshotHeight⟩ := by
              simp only [LegacyFrame.entry, if_neg empty, decoded]
            rw [List.filterMap_cons_some (by simp only [decoded]; rfl), List.filterMap_cons_some yields, ih]

theorem parse_legacy_payload_iff (external : External) (txPayload : Slice UInt8) (parsed : LegacyParsedNitroEspressoTransaction) :
    parseLegacyPayloadBytes external txPayload.elems = .ok parsed ↔
      ∃ signature frames, txPayload.elems = frame signature ++ legacyText frames ∧ parsed = legacyTransaction external signature frames := by
  have parses : ∀ signature frames, txPayload.elems = frame signature ++ legacyText frames →
      parseLegacyPayloadBytes external txPayload.elems = .ok (legacyTransaction external signature frames) := by
    intro signature frames layout
    obtain ⟨signatureSmall, small⟩ := legacy_pieces_small txPayload signature frames layout
    rw [layout]
    exact parse_legacy_payload_frames external signature frames signatureSmall small
  constructor
  · intro accepted
    obtain ⟨text, layout, -, framed⟩ := parse_legacy_payload_layout external txPayload.elems parsed accepted
    obtain ⟨frames, textLayout, -⟩ := parse_legacy_frames_layout [] [] text _ framed
    rw [textLayout] at layout
    have result := parses parsed.signature frames layout
    rw [accepted] at result
    exact ⟨parsed.signature, frames, layout, Except.ok.inj result⟩
  · intro given
    obtain ⟨signature, frames, layout, rfl⟩ := given
    exact parses signature frames layout

theorem legacy_parse_frames (external : External) (config : NitroConfig) (txPayload : Slice UInt8) (hotshotHeight : UInt64)
    (signature : Bytes) (frames : List LegacyFrame) (layout : txPayload.elems = frame signature ++ legacyText frames) :
    legacyParseNitroHotshotPayload external config txPayload.elems hotshotHeight =
      match recoverSignerAddress external (external.keccak256 (legacyText frames)) signature with
      | .ok signer => if signer ∈ config.legacySignerAddresses then frames.filterMap (LegacyFrame.entry external hotshotHeight) else []
      | .error _ => [] := by
  have parses := (parse_legacy_payload_iff external txPayload _).mpr ⟨signature, frames, layout, rfl⟩
  simp only [legacyParseNitroHotshotPayload, parses, legacyTransaction]
  cases recoverSignerAddress external (external.keccak256 (legacyText frames)) signature with
  | error reason => rfl
  | ok signer =>
      by_cases listed : signer ∈ config.legacySignerAddresses
      · simp [listed, legacy_entries_frames]
      · simp [listed]

/-- The legacy parser runs to its end on every payload, without a slice out of bounds or an offset that overflows. It accepts exactly
the payloads that are a signature and frames, and hashes and returns those frames; every entry has the index of its own frame. -/
theorem legacy_payload_grammar (external : External) (config : NitroConfig) (txPayload : Slice UInt8) (hotshotHeight : UInt64) :
    (∀ fuel > txPayload.elems.length,
      parseLegacyPayloadBytesAt external txPayload fuel = (parseLegacyPayloadBytes external txPayload.elems).mapError .bail) ∧
    (∀ parsed, parseLegacyPayloadBytes external txPayload.elems = .ok parsed ↔
      ∃ signature frames, txPayload.elems = frame signature ++ legacyText frames ∧ parsed = legacyTransaction external signature frames) ∧
    (∀ parsed, parseLegacyPayloadBytes external txPayload.elems = .ok parsed → parsed.indices.length = parsed.messages.length) ∧
    ∀ signature frames, txPayload.elems = frame signature ++ legacyText frames →
      legacyParseNitroHotshotPayload external config txPayload.elems hotshotHeight =
        match recoverSignerAddress external (external.keccak256 (legacyText frames)) signature with
        | .ok signer => if signer ∈ config.legacySignerAddresses then frames.filterMap (LegacyFrame.entry external hotshotHeight) else []
        | .error _ => [] := by
  refine ⟨parse_legacy_payload_at external txPayload, parse_legacy_payload_iff external txPayload, fun parsed accepted => ?_,
    legacy_parse_frames external config txPayload hotshotHeight⟩
  obtain ⟨signature, frames, -, rfl⟩ := (parse_legacy_payload_iff external txPayload parsed).mp accepted
  rw [legacyTransaction, List.length_map, List.length_map]

end Cas
