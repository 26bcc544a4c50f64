import Cas.Nitro.PayloadGrammar

set_option autoImplicit false

namespace Cas

def hotshotTxPayloadMaxSize : Nat := 900 * 1024

-- `serde_json::to_vec` of the V1 header and of a feed message.
structure PayloadEncoder where
  header : Except String Bytes
  message : BroadcastFeedMessage → Except String Bytes

def appendMessages (encoder : PayloadEncoder) : List BroadcastFeedMessage → Bytes → Nat → Bytes × Nat
  | [], payload, count => (payload, count)
  | message :: tail, payload, count =>
      match encoder.message message with
      | .ok encodedMsg =>
          if payload.length + lenSize + encodedMsg.length > hotshotTxPayloadMaxSize then
            if payload = [] then appendMessages encoder tail payload (count + 1) else (payload, count)
          else appendMessages encoder tail (payload ++ frame encodedMsg) (count + 1)
      | .error _ => appendMessages encoder tail payload (count + 1)

def buildEspressoTxPayload (encoder : PayloadEncoder) (messages : List BroadcastFeedMessage) : Bytes × List BroadcastFeedMessage :=
  match encoder.header with
  | .error _ => ([], messages)
  | .ok encodedHeader =>
      let built := appendMessages encoder messages (frame encodedHeader) 0
      (built.1, messages.drop built.2)

structure EspressoTransaction where
  namespaceId : UInt64
  payload : Bytes
deriving DecidableEq, Repr

section Loop

variable {Message : Type}

-- The loop of `build_tx_fn` for any rollup's builder; `none` is out of fuel.
def buildTxLoop (build : List Message → Bytes × List Message) (namespaceId : UInt64) :
    Nat → List Message → List EspressoTransaction → Option (List EspressoTransaction)
  | _, [], txes => some txes
  | 0, _ :: _, _ => none
  | fuel + 1, message :: tail, txes =>
      match build (message :: tail) with
      | ([], _) => some txes
      | (byte :: payload, rest) => buildTxLoop build namespaceId fuel rest (txes ++ [⟨namespaceId, byte :: payload⟩])

def buildTxFn (build : List Message → Bytes × List Message) (namespaceId : UInt64) (fuel : Nat) (msgs : List Message) :
    Option (List EspressoTransaction) := buildTxLoop build namespaceId fuel msgs []

structure Packs (packed : Bytes → List Message → Prop) (messages : List Message) (built : Bytes × List Message) (taken : List Message) :
    Prop where
  split : messages = taken ++ built.2
  progress : taken ≠ []
  written : built.1 ≠ []
  packed : packed built.1 taken

theorem build_tx_loop_packs (build : List Message → Bytes × List Message) (namespaceId : UInt64) (good : List Message → Prop)
    (packed : Bytes → List Message → Prop)
    (step : ∀ messages, messages ≠ [] → good messages → good (build messages).2 ∧ ∃ taken, Packs packed messages (build messages) taken)
    (fuel : Nat) (messages : List Message) (txes : List EspressoTransaction) (fine : good messages) (enough : messages.length ≤ fuel) :
    ∃ new parts, buildTxLoop build namespaceId fuel messages txes = some (txes ++ new) ∧
      List.Forall₂ (fun tx part => tx.namespaceId = namespaceId ∧ packed tx.payload part) new parts ∧ parts.flatten = messages := by
  induction fuel generalizing messages txes with
  | zero =>
      obtain rfl := List.length_eq_zero_iff.mp (Nat.le_zero.mp enough)
      exact ⟨[], [], by simp [buildTxLoop], .nil, rfl⟩
  | succ fuel ih =>
      cases messages with
      | nil => exact ⟨[], [], by simp [buildTxLoop], .nil, rfl⟩
      | cons message tail =>
          obtain ⟨fineRest, taken, packs⟩ := step (message :: tail) (by simp) fine
          have shorter : (build (message :: tail)).2.length ≤ fuel := by
            have sizes := congrArg List.length packs.split
            have some := List.length_pos_iff.mpr packs.progress
            simp only [List.length_append, List.length_cons] at sizes enough
            omega
          obtain ⟨new, parts, returned, matched, whole⟩ := ih _ (txes ++ [⟨namespaceId, (build (message :: tail)).1⟩]) fineRest shorter
          refine ⟨⟨namespaceId, (build (message :: tail)).1⟩ :: new, taken :: parts, ?_, .cons ⟨rfl, packs.packed⟩ matched, ?_⟩
          · cases built : build (message :: tail) with
            | mk payload rest =>
                rw [built] at returned
                cases payload with
                | nil => exact absurd (by rw [built]) packs.written
                | cons byte payload =>
                    simp only [buildTxLoop, built]
                    rw [returned, List.append_assoc, List.singleton_append]
          · rw [List.flatten_cons, whole]
            exact packs.split.symm

theorem build_tx_loop_stuck (build : List Message → Bytes × List Message) (namespaceId : UInt64) (stuck : List Message → Prop)
    (more : ∀ messages, stuck messages → messages ≠ [])
    (step : ∀ messages, stuck messages → stuck (build messages).2 ∧ (build messages).1 ≠ []) (fuel : Nat) (messages : List Message)
    (txes : List EspressoTransaction) (initial : stuck messages) : buildTxLoop build namespaceId fuel messages txes = none := by
  induction fuel generalizing messages txes with
  | zero =>
      cases messages with
      | nil => exact absurd rfl (more [] initial)
      | cons message tail => rfl
  | succ fuel ih =>
      cases messages with
      | nil => exact absurd rfl (more [] initial)
      | cons message tail =>
          obtain ⟨still, written⟩ := step (message :: tail) initial
          cases built : build (message :: tail) with
          | mk payload rest =>
              rw [built] at still written
              cases payload with
              | nil => exact absurd rfl written
              | cons byte payload =>
                  simp only [buildTxLoop, built]
                  exact ih rest _ still

end Loop

def encodedMessages (encoder : PayloadEncoder) (messages : List BroadcastFeedMessage) : List Bytes :=
  messages.filterMap fun message => (encoder.message message).toOption

structure Appended (encoder : PayloadEncoder) (messages : List BroadcastFeedMessage) (payload : Bytes) (count : Nat)
    (built : Bytes × Nat) (taken rest : List BroadcastFeedMessage) : Prop where
  split : messages = taken ++ rest
  drained : built.2 = count + taken.length
  written : built.1 = payload ++ (encodedMessages encoder taken).flatMap frame
  bounded : encodedMessages encoder taken = [] ∨ built.1.length ≤ hotshotTxPayloadMaxSize
  stopped : rest = [] ∨ ∃ message tail encodedMsg, rest = message :: tail ∧ encoder.message message = .ok encodedMsg ∧
    hotshotTxPayloadMaxSize < built.1.length + lenSize + encodedMsg.length

theorem append_messages_outcome (encoder : PayloadEncoder) (messages : List BroadcastFeedMessage) (payload : Bytes) (count : Nat)
    (started : payload ≠ []) : ∃ taken rest, Appended encoder messages payload count (appendMessages encoder messages payload count) taken rest := by
  induction messages generalizing payload count with
  | nil => exact ⟨[], [], rfl, rfl, by simp [appendMessages, encodedMessages], .inl rfl, .inl rfl⟩
  | cons message tail ih =>
      cases encoding : encoder.message message with
      | error reason =>
          obtain ⟨taken, rest, later⟩ := ih payload (count + 1) started
          have same : encodedMessages encoder (message :: taken) = encodedMessages encoder taken := by
            simp [encodedMessages, encoding, Except.toOption]
          simp only [appendMessages, encoding]
          refine ⟨message :: taken, rest, by rw [later.split, List.cons_append], ?_, same ▸ later.written, same ▸ later.bounded, later.stopped⟩
          rw [later.drained, List.length_cons]
          omega
      | ok encodedMsg =>
          by_cases large : payload.length + lenSize + encodedMsg.length > hotshotTxPayloadMaxSize
          · simp only [appendMessages, encoding, if_pos large, if_neg started]
            exact ⟨[], message :: tail, rfl, rfl, by simp [encodedMessages], .inl rfl, .inr ⟨message, tail, encodedMsg, rfl, encoding, large⟩⟩
          · obtain ⟨taken, rest, later⟩ := ih (payload ++ frame encodedMsg) (count + 1) (by simp [started])
            have more : encodedMessages encoder (message :: taken) = encodedMsg :: encodedMessages encoder taken := by
              simp [encodedMessages, encoding, Except.toOption]
            simp only [appendMessages, encoding, if_neg large]
            refine ⟨message :: taken, rest, by rw [later.split, List.cons_append], ?_, ?_, .inr ?_, later.stopped⟩
            · rw [later.drained, List.length_cons]
              omega
            · rw [later.written, more, List.flatMap_cons, List.append_assoc]
            · rcases later.bounded with nothing | bounded
              · rw [later.written, nothing]
                simp only [List.flatMap_nil, List.append_nil, List.length_append, length_frame]
                omega
              · exact bounded

-- The message alone, after the header, is within the limit. A message that does not encode is drained without being written.
def FitsAlone (encoder : PayloadEncoder) (encodedHeader : Bytes) (message : BroadcastFeedMessage) : Prop :=
  ∀ encodedMsg, encoder.message message = .ok encodedMsg →
    (frame encodedHeader).length + lenSize + encodedMsg.length ≤ hotshotTxPayloadMaxSize

section Build

variable (encoder : PayloadEncoder) (encodedHeader : Bytes) (header : encoder.header = .ok encodedHeader)

theorem taken_fits_alone (messages taken rest : List BroadcastFeedMessage) (built : Bytes × Nat)
    (appended : Appended encoder messages (frame encodedHeader) 0 built taken rest) (message : BroadcastFeedMessage)
    (member : message ∈ taken) : FitsAlone encoder encodedHeader message := by
  intro encodedMsg encoding
  have listed : encodedMsg ∈ encodedMessages encoder taken :=
    List.mem_filterMap.mpr ⟨message, member, by simp [encoding, Except.toOption]⟩
  have bounded := appended.bounded.resolve_left (List.ne_nil_of_mem listed)
  have inside := (List.sublist_flatten_of_mem (List.mem_map.mpr ⟨encodedMsg, listed, rfl⟩ : frame encodedMsg ∈ _)).length_le
  rw [appended.written, List.length_append, List.flatMap_def] at bounded
  rw [length_frame] at inside
  omega

theorem first_fits_progress (message : BroadcastFeedMessage) (tail : List BroadcastFeedMessage) (count : Nat)
    (taken rest : List BroadcastFeedMessage) (fits : FitsAlone encoder encodedHeader message)
    (appended : Appended encoder (message :: tail) (frame encodedHeader) 0
      ((buildEspressoTxPayload encoder (message :: tail)).1, count) taken rest) : taken ≠ [] := by
  rintro rfl
  obtain rfl : message :: tail = rest := appended.split
  rcases appended.stopped with nothing | ⟨first, later, encodedMsg, same, encoding, large⟩
  · cases nothing
  · obtain ⟨rfl, rfl⟩ := List.cons.inj same
    have bound := fits encodedMsg encoding
    have written := congrArg List.length appended.written
    simp only [encodedMessages, List.filterMap_nil, List.flatMap_nil, List.append_nil] at written large
    omega

include header

theorem build_payload_outcome (messages : List BroadcastFeedMessage) :
    ∃ taken rest count, Appended encoder messages (frame encodedHeader) 0 ((buildEspressoTxPayload encoder messages).1, count) taken rest ∧
      (buildEspressoTxPayload encoder messages).2 = rest := by
  obtain ⟨taken, rest, appended⟩ := append_messages_outcome encoder messages (frame encodedHeader) 0 (frame_ne_nil _)
  simp only [buildEspressoTxPayload, header]
  refine ⟨taken, rest, _, appended, ?_⟩
  have drained := appended.drained
  rw [Nat.zero_add] at drained
  rw [drained]
  conv_lhs => rw [appended.split]
  exact List.drop_left

theorem build_payload_written (messages : List BroadcastFeedMessage) : (buildEspressoTxPayload encoder messages).1 ≠ [] := by
  obtain ⟨taken, rest, count, appended, -⟩ := build_payload_outcome encoder encodedHeader header messages
  rw [appended.written]
  simp [frame_ne_nil]

theorem oversize_stays (messages : List BroadcastFeedMessage) (message : BroadcastFeedMessage) (member : message ∈ messages)
    (oversize : ¬ FitsAlone encoder encodedHeader message) : message ∈ (buildEspressoTxPayload encoder messages).2 := by
  obtain ⟨taken, rest, count, appended, left⟩ := build_payload_outcome encoder encodedHeader header messages
  rw [appended.split] at member
  rcases List.mem_append.mp member with inTaken | inRest
  · exact absurd (taken_fits_alone encoder encodedHeader messages taken rest _ appended message inTaken) oversize
  · exact left ▸ inRest

theorem build_payload_progress_iff (message : BroadcastFeedMessage) (tail : List BroadcastFeedMessage) :
    (buildEspressoTxPayload encoder (message :: tail)).2.length < (message :: tail).length ↔ FitsAlone encoder encodedHeader message := by
  obtain ⟨taken, rest, count, appended, left⟩ := build_payload_outcome encoder encodedHeader header (message :: tail)
  have sizes := congrArg List.length appended.split
  rw [List.length_append] at sizes
  rw [left]
  constructor
  · intro shorter
    have some : taken ≠ [] := by
      rintro rfl
      simp only [List.length_nil] at sizes
      omega
    obtain ⟨first, more, rfl⟩ := List.exists_cons_of_ne_nil some
    obtain ⟨rfl, -⟩ := List.cons.inj appended.split
    exact taken_fits_alone encoder encodedHeader _ _ _ _ appended message (by simp)
  · intro fits
    have some := List.length_pos_iff.mpr (first_fits_progress encoder encodedHeader message tail count taken rest fits appended)
    omega

theorem build_payload_packs (messages : List BroadcastFeedMessage) (more : messages ≠ [])
    (fits : ∀ message ∈ messages, FitsAlone encoder encodedHeader message) :
    (∀ message ∈ (buildEspressoTxPayload encoder messages).2, FitsAlone encoder encodedHeader message) ∧
      ∃ taken, Packs (fun payload part => payload = frame encodedHeader ++ (encodedMessages encoder part).flatMap frame ∧
        (encodedMessages encoder part = [] ∨ payload.length ≤ hotshotTxPayloadMaxSize) ∧ ∀ message ∈ part, message ∈ messages)
        messages (buildEspressoTxPayload encoder messages) taken := by
  obtain ⟨taken, rest, count, appended, left⟩ := build_payload_outcome encoder encodedHeader header messages
  have split := appended.split
  refine ⟨fun message member => fits message ?_, taken, left ▸ split, ?_, build_payload_written encoder encodedHeader header messages,
    appended.written, appended.bounded, fun message member => ?_⟩
  · rw [split]
    exact List.mem_append_right _ (left ▸ member)
  · obtain ⟨message, tail, rfl⟩ := List.exists_cons_of_ne_nil more
    exact first_fits_progress encoder encodedHeader message tail count taken rest (fits message (by simp)) appended
  · rw [split]
    exact List.mem_append_left _ member

end Build

/-- The loop of `build_tx_fn` ends exactly when every message fits alone after the header, and a call that writes something
takes a message off exactly when the first one does: the size test for skipping a message never sees an empty payload. -/
theorem build_tx_terminates_iff (encoder : PayloadEncoder) (namespaceId : UInt64) (messages : List BroadcastFeedMessage) :
    ((∃ fuel txes, buildTxFn (buildEspressoTxPayload encoder) namespaceId fuel messages = some txes) ↔
        ∀ encodedHeader, encoder.header = .ok encodedHeader → ∀ message ∈ messages, FitsAlone encoder encodedHeader message) ∧
      (((buildEspressoTxPayload encoder messages).1 ≠ [] → messages ≠ [] →
          (buildEspressoTxPayload encoder messages).2.length < messages.length) ↔
        ∀ encodedHeader, encoder.header = .ok encodedHeader → ∀ message, messages.head? = some message →
          FitsAlone encoder encodedHeader message) := by
  cases header : encoder.header with
  | error reason =>
      have empty : ∀ list, buildEspressoTxPayload encoder list = ([], list) := by
        intro list
        simp only [buildEspressoTxPayload, header]
      refine ⟨iff_of_true ⟨1, [], ?_⟩ (by simp), iff_of_true (by simp [empty]) (by simp)⟩
      cases messages with
      | nil => rfl
      | cons message tail => simp only [buildTxFn, buildTxLoop, empty]
  | ok encodedHeader =>
      simp only [Except.ok.injEq, forall_eq']
      refine ⟨⟨?_, fun fits => ?_⟩, ?_⟩
      · intro returns message member
        obtain ⟨fuel, txes, returned⟩ := returns
        by_contra oversize
        have stuck := build_tx_loop_stuck (buildEspressoTxPayload encoder) namespaceId (fun list => message ∈ list)
          (fun _ here => List.ne_nil_of_mem here)
          (fun list here => ⟨oversize_stays encoder encodedHeader header list message here oversize,
            build_payload_written encoder encodedHeader header list⟩) fuel messages [] member
        rw [buildTxFn, stuck] at returned
        cases returned
      · obtain ⟨new, parts, returned, -⟩ := build_tx_loop_packs (buildEspressoTxPayload encoder) namespaceId
          (fun list => ∀ message ∈ list, FitsAlone encoder encodedHeader message) (fun _ _ => True)
          (fun list more fine => by
            obtain ⟨rest, taken, packs⟩ := build_payload_packs encoder encodedHeader header list more fine
            exact ⟨rest, taken, packs.split, packs.progress, packs.written, trivial⟩)
          messages.length messages [] fits (Nat.le_refl _)
        exact ⟨messages.length, _, returned⟩
      · cases messages with
        | nil => simp
        | cons message tail =>
            have written := build_payload_written encoder encodedHeader header (message :: tail)
            have progress := build_payload_progress_iff encoder encodedHeader header message tail
            simp only [ne_eq, written, not_false_eq_true, reduceCtorEq, true_imp_iff, List.head?_cons, Option.some.injEq, forall_eq', progress]

def singleEncoder (message : BroadcastFeedMessage) (json : Bytes) : PayloadEncoder where
  header := .ok (ascii "\"V1\"")
  message other := if other = message then .ok json else .error "key must be a string"

theorem single_encoder_message (message : BroadcastFeedMessage) (json : Bytes) : (singleEncoder message json).message message = .ok json :=
  if_pos rfl

-- Every call writes the header alone and takes nothing off.
theorem oversize_call (message : BroadcastFeedMessage) (json : Bytes) (large : hotshotTxPayloadMaxSize < json.length) :
    buildEspressoTxPayload (singleEncoder message json) [message] = (frame (ascii "\"V1\""), [message]) := by
  have header : (singleEncoder message json).header = .ok (ascii "\"V1\"") := rfl
  have beyond : (frame (ascii "\"V1\"")).length + lenSize + json.length > hotshotTxPayloadMaxSize := by omega
  simp only [buildEspressoTxPayload, header, appendMessages, single_encoder_message, if_pos beyond, if_neg (frame_ne_nil _),
    List.drop_zero]

def zeroBase64 (triples : Nat) : String := String.ofList (List.replicate (4 * triples) 'A')

def zeroFeedMessage (triples : Nat) : BroadcastFeedMessage :=
  { upstreamFeedMessage with
    message := ⟨some ⟨some ⟨0, .replicate 20 0, 0, 0, none, none⟩, .replicate (3 * triples) 0, none, none⟩, 3333⟩ }

def zeroJson (triples : Nat) : Bytes := feedJson false "12345" "null" "null" (zeroBase64 triples) "3333"
  "k3fDEhRaWvuRG/nowGe89glMUzYDaHhQ31ArYSkLv14RZ/5oduFuS6OFeLl3PXZwrruSxiRABFecJaYEoYSUOBs=" "3q2+rw=="

theorem length_zero_json (triples : Nat) : (zeroJson triples).length = (zeroJson 0).length + 4 * triples := by
  have base64 (triples : Nat) : (ascii (zeroBase64 triples)).length = 4 * triples := by
    rw [ascii, List.length_map, zeroBase64, String.toList_ofList, List.length_replicate]
  simp only [zeroJson, feedJson, List.length_append, base64]
  omega

def oversizeFeedMessage : BroadcastFeedMessage := zeroFeedMessage 230400

def oversizeJson : Bytes := zeroJson 230400

theorem length_oversize_json : hotshotTxPayloadMaxSize < oversizeJson.length := by
  have rest : 0 < (zeroJson 0).length := by decide +kernel
  rw [oversizeJson, length_zero_json, hotshotTxPayloadMaxSize]
  omega

-- A message of 691200 bytes.
theorem oversize_message_never_built :
    buildEspressoTxPayload (singleEncoder oversizeFeedMessage oversizeJson) [oversizeFeedMessage] =
        (frame (ascii "\"V1\""), [oversizeFeedMessage]) ∧
      ∀ fuel, buildTxFn (buildEspressoTxPayload (singleEncoder oversizeFeedMessage oversizeJson)) 7 fuel [oversizeFeedMessage] = none := by
  have call := oversize_call oversizeFeedMessage oversizeJson length_oversize_json
  refine ⟨call, fun fuel => build_tx_loop_stuck _ 7 (fun list => list = [oversizeFeedMessage]) ?_ ?_ fuel _ [] rfl⟩
  · intro list same
    rw [same]
    exact List.cons_ne_nil _ _
  · intro list same
    rw [same, call]
    exact ⟨rfl, frame_ne_nil _⟩

def acceptAll : FeedMessageVerifier := fun _ _ _ => .ok ()

theorem accept_all_keeps (config : NitroConfig) (messages : List BroadcastFeedMessage) :
    messages.filter (accepts config acceptAll) = messages := List.filter_eq_self.mpr fun _ _ => rfl

structure JsonLossless (external : External) (encoder : PayloadEncoder) (encodedHeader : Bytes) (messages : List BroadcastFeedMessage) :
    Prop where
  header : encoder.header = .ok encodedHeader
  headerDecodes : external.jsonHeader encodedHeader = .ok .v1
  message : ∀ message ∈ messages, ∃ encodedMsg, encoder.message message = .ok encodedMsg ∧ external.jsonMessage encodedMsg = .ok message

theorem encoded_messages_decode (external : External) (encoder : PayloadEncoder) (encodedHeader : Bytes)
    (messages : List BroadcastFeedMessage) (lossless : JsonLossless external encoder encodedHeader messages)
    (part : List BroadcastFeedMessage) (inside : ∀ message ∈ part, message ∈ messages) :
    List.Forall₂ (fun bytes message => external.jsonMessage bytes = .ok message) (encodedMessages encoder part) part := by
  induction part with
  | nil => exact .nil
  | cons message tail ih =>
      obtain ⟨encodedMsg, encoding, decodes⟩ := lossless.message message (inside message (by simp))
      have more : encodedMessages encoder (message :: tail) = encodedMsg :: encodedMessages encoder tail := by
        simp [encodedMessages, encoding, Except.toOption]
      rw [more]
      exact .cons decodes (ih fun other member => inside other (by simp [member]))

theorem packed_part_parses (external : External) (config : NitroConfig) (encoder : PayloadEncoder) (encodedHeader : Bytes)
    (messages : List BroadcastFeedMessage) (lossless : JsonLossless external encoder encodedHeader messages)
    (part : List BroadcastFeedMessage) (inside : ∀ message ∈ part, message ∈ messages) (some : part ≠ [])
    (bounded : encodedMessages encoder part = [] ∨
      (frame encodedHeader ++ (encodedMessages encoder part).flatMap frame).length ≤ hotshotTxPayloadMaxSize) :
    (frame encodedHeader ++ (encodedMessages encoder part).flatMap frame).length ≤ hotshotTxPayloadMaxSize ∧
      parseNitroHotshotPayload external config (frame encodedHeader ++ (encodedMessages encoder part).flatMap frame) acceptAll =
        .ok part := by
  have decodes := encoded_messages_decode external encoder encodedHeader messages lossless part inside
  have fits := bounded.resolve_left fun nothing => some (List.length_eq_zero_iff.mp (by rw [← decodes.length_eq, nothing, List.length_nil]))
  have limit : hotshotTxPayloadMaxSize < 2 ^ 64 := by decide
  obtain ⟨headerSmall, small⟩ := framed_pieces_small encodedHeader _ _ (Nat.lt_of_le_of_lt fits limit)
  have parses := parse_payload_frames external config acceptAll encodedHeader _ part headerSmall lossless.headerDecodes small decodes
  rw [accept_all_keeps] at parses
  exact ⟨fits, parses⟩

/-- Packing loses nothing: with a lossless codec and messages that each fit alone, `build_tx_fn` returns transactions within
the limit, and parsing them one after the other gives back the list. -/
theorem packing_lossless (external : External) (config : NitroConfig) (encoder : PayloadEncoder) (encodedHeader : Bytes)
    (namespaceId : UInt64) (messages : List BroadcastFeedMessage) (lossless : JsonLossless external encoder encodedHeader messages)
    (fits : ∀ message ∈ messages, ∀ encodedMsg, encoder.message message = .ok encodedMsg →
      lenSize + encodedMsg.length + (frame encodedHeader).length ≤ hotshotTxPayloadMaxSize) :
    ∃ txes parts, (∃ fuel, buildTxFn (buildEspressoTxPayload encoder) namespaceId fuel messages = some txes) ∧
      List.Forall₂ (fun tx part => tx.namespaceId = namespaceId ∧ tx.payload.length ≤ hotshotTxPayloadMaxSize ∧
        parseNitroHotshotPayload external config tx.payload acceptAll = .ok part) txes parts ∧
      parts.flatten = messages := by
  obtain ⟨txes, parts, returned, packed, whole⟩ := build_tx_loop_packs (buildEspressoTxPayload encoder) namespaceId
    (fun list => (∀ message ∈ list, FitsAlone encoder encodedHeader message) ∧ ∀ message ∈ list, message ∈ messages)
    (fun payload part => payload.length ≤ hotshotTxPayloadMaxSize ∧ parseNitroHotshotPayload external config payload acceptAll = .ok part)
    (fun list more fine => by
      obtain ⟨rest, taken, packs⟩ := build_payload_packs encoder encodedHeader lossless.header list more fine.1
      obtain ⟨written, bounded, inside⟩ := packs.packed
      rw [written] at bounded
      have parses := packed_part_parses external config encoder encodedHeader messages lossless taken
        (fun message member => fine.2 message (inside message member)) packs.progress bounded
      refine ⟨⟨rest, fun message member => fine.2 message ?_⟩, taken, packs.split, packs.progress, packs.written, written ▸ parses⟩
      rw [packs.split]
      exact List.mem_append_right _ member)
    messages.length messages []
    ⟨fun message member encodedMsg encoding => by have bound := fits message member encodedMsg encoding; omega, fun _ member => member⟩
    (Nat.le_refl _)
  exact ⟨txes, parts, ⟨messages.length, returned⟩, packed, whole⟩

def singleExternal (message : BroadcastFeedMessage) (json : Bytes) : External :=
  { sequencerExternal with jsonMessage := fun bytes => if bytes = json then .ok message else sequencerExternal.jsonMessage bytes }

theorem single_external_message (message : BroadcastFeedMessage) (json : Bytes) :
    (singleExternal message json).jsonMessage json = .ok message := if_pos rfl

section TwoCalls

variable (message : BroadcastFeedMessage) (json : Bytes) (low : 500000 ≤ json.length) (high : json.length ≤ 501000)

include low high

theorem single_call (more : List BroadcastFeedMessage) (same : more = [] ∨ more = [message]) :
    buildEspressoTxPayload (singleEncoder message json) (message :: more) = (v1Payload [json], more) := by
  have header : (singleEncoder message json).header = .ok (ascii "\"V1\"") := rfl
  have opening : (frame (ascii "\"V1\"")).length = 12 := by decide
  have room : ¬((frame (ascii "\"V1\"")).length + lenSize + json.length > hotshotTxPayloadMaxSize) := by
    rw [opening, lenSize, hotshotTxPayloadMaxSize]
    omega
  have beyond : (frame (ascii "\"V1\"") ++ frame json).length + lenSize + json.length > hotshotTxPayloadMaxSize := by
    rw [List.length_append, opening, length_frame, lenSize, hotshotTxPayloadMaxSize]
    omega
  have started : frame (ascii "\"V1\"") ++ frame json ≠ [] := List.append_ne_nil_of_left_ne_nil (frame_ne_nil _) _
  have written : v1Payload [json] = frame (ascii "\"V1\"") ++ frame json := by simp [v1Payload]
  rw [written]
  rcases same with rfl | rfl
  · simp only [buildEspressoTxPayload, header, appendMessages, single_encoder_message, if_neg room, List.drop_succ_cons, List.drop_zero]
  · simp only [buildEspressoTxPayload, header, appendMessages, single_encoder_message, if_neg room, if_pos beyond, if_neg started,
      List.drop_succ_cons, List.drop_zero]

theorem two_calls (namespaceId : UInt64) :
    buildTxFn (buildEspressoTxPayload (singleEncoder message json)) namespaceId 2 [message, message] =
      some [⟨namespaceId, v1Payload [json]⟩, ⟨namespaceId, v1Payload [json]⟩] := by
  obtain ⟨byte, rest, written⟩ : ∃ byte rest, v1Payload [json] = byte :: rest :=
    List.exists_cons_of_ne_nil (List.append_ne_nil_of_left_ne_nil (frame_ne_nil _) _)
  have call := single_call message json low high
  rw [written] at call ⊢
  simp only [buildTxFn, buildTxLoop, call [message] (.inr rfl), call [] (.inl rfl), List.nil_append, List.singleton_append]

end TwoCalls

-- Two messages of 375000 bytes, each in a payload of its own.
theorem packing_lossless_repeated :
    buildTxFn (buildEspressoTxPayload (singleEncoder (zeroFeedMessage 125000) (zeroJson 125000))) 7 2
        [zeroFeedMessage 125000, zeroFeedMessage 125000] = some [⟨7, v1Payload [zeroJson 125000]⟩, ⟨7, v1Payload [zeroJson 125000]⟩] ∧
    ∃ txes parts, (∃ fuel, buildTxFn (buildEspressoTxPayload (singleEncoder (zeroFeedMessage 125000) (zeroJson 125000))) 7 fuel
        [zeroFeedMessage 125000, zeroFeedMessage 125000] = some txes) ∧
      List.Forall₂ (fun tx part => tx.namespaceId = 7 ∧ tx.payload.length ≤ hotshotTxPayloadMaxSize ∧
        parseNitroHotshotPayload (singleExternal (zeroFeedMessage 125000) (zeroJson 125000)) ⟨[], 0xa4b1, []⟩ tx.payload acceptAll =
          .ok part) txes parts ∧
      parts.flatten = [zeroFeedMessage 125000, zeroFeedMessage 125000] := by
  have rest : (zeroJson 0).length ≤ 1000 := by decide +kernel
  have size := length_zero_json 125000
  have encoding := single_encoder_message (zeroFeedMessage 125000) (zeroJson 125000)
  have only : ∀ message ∈ [zeroFeedMessage 125000, zeroFeedMessage 125000], message = zeroFeedMessage 125000 := by
    simp only [List.mem_cons, List.not_mem_nil, or_false, or_self, imp_self, implies_true]
  refine ⟨two_calls _ _ (by omega) (by omega) 7, packing_lossless (singleExternal (zeroFeedMessage 125000) (zeroJson 125000))
    ⟨[], 0xa4b1, []⟩ (singleEncoder (zeroFeedMessage 125000) (zeroJson 125000)) (ascii "\"V1\"") 7 _
    ⟨rfl, by simp only [singleExternal, sequencerExternal, if_true], fun message member => ?_⟩ fun message member encodedMsg encoded => ?_⟩
  · rw [only message member]
    exact ⟨zeroJson 125000, encoding, single_external_message _ _⟩
  · rw [only message member] at encoded
    obtain rfl := Except.ok.inj (encoding.symm.trans encoded)
    have opening : (frame (ascii "\"V1\"")).length = 12 := by decide
    rw [opening, lenSize, hotshotTxPayloadMaxSize]
    omega

end Cas
