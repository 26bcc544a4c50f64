import Cas.Lib.Rlp
import Cas.Nitro.Types

set_option autoImplicit false

namespace Cas

def maxDecompressedLen : Nat := 1024 * 1024 * 16
def maxL2MessageSize : Nat := 256 * 1024
def maxSegments : Nat := 100 * 1024

def brotliHeaderByte : UInt8 := 0x00
def batchSegmentKindL2Message : UInt8 := 0
def batchSegmentKindL2MessageBrotli : UInt8 := 1
def batchSegmentKindDelayedMessages : UInt8 := 2
def batchSegmentKindAdvanceTimestamp : UInt8 := 3
def batchSegmentKindAdvanceL1BlockNumber : UInt8 := 4

-- The decompressor of the library: what reading up to a number of bytes from the decompressed stream gives.
abbrev Brotli := Bytes → Nat → Except String Bytes

def decompress (brotli : Brotli) (input : Bytes) (maxSize : Nat) : Except String Bytes :=
  match brotli input (maxSize + 1) with
  | .error e => .error s!"brotli decompression failed: {e}"
  | .ok output => if output.length > maxSize then .error s!"decompression result too large: > {maxSize}" else .ok output

-- `room` is what `MAX_SEGMENTS` leaves after the segments read so far.
def decodeSegments (rlp : Rlp.StringCodec) (room : Nat) (buf : Bytes) : Except String (List Bytes) :=
  if buf.isEmpty then .ok []
  else
    match room with
    | 0 => .error "too many segments in sequence batch"
    | room + 1 =>
        match rlp.decode buf with
        | .ok (segment, rest) =>
            match decodeSegments rlp room rest with
            | .error e => .error e
            | .ok segments => .ok (segment :: segments)
        | .error e => if e ≠ .inputTooShort then .error s!"error parsing sequencer message segment: {e.text}" else .ok []

-- The message of one segment, if it has one. The context replaces the text of the decompression error.
def convertSegment (brotli : Brotli) : Bytes → Except String (List BatchMessage)
  | [] => .ok []
  | kind :: data =>
      if kind = batchSegmentKindL2Message then .ok [.l2Msg data]
      else if kind = batchSegmentKindL2MessageBrotli then
        match decompress brotli data maxL2MessageSize with
        | .error _ => .error "brotli-compressed L2 message segment would replay as a placeholder"
        | .ok decompressedMsg => .ok [.l2Msg decompressedMsg]
      else if kind = batchSegmentKindDelayedMessages then .ok [.delayedMsg]
      else if kind = batchSegmentKindAdvanceTimestamp ∨ kind = batchSegmentKindAdvanceL1BlockNumber then .ok []
      else .error s!"unknown batch segment kind: {kind}"

def convertSegments (brotli : Brotli) : List Bytes → Except String (List BatchMessage)
  | [] => .ok []
  | segment :: segments =>
      match convertSegment brotli segment with
      | .error e => .error e
      | .ok messages =>
          match convertSegments brotli segments with
          | .error e => .error e
          | .ok rest => .ok (messages ++ rest)

def parseBatch (rlp : Rlp.StringCodec) (brotli : Brotli) : Bytes → Except String (List BatchMessage)
  | [] => .error "empty sequencer message"
  | header :: payload =>
      if header = brotliHeaderByte then
        match decompress brotli payload maxDecompressedLen with
        | .error e => .error e
        | .ok segmentData =>
            match decodeSegments rlp maxSegments segmentData with
            | .error e => .error e
            | .ok segments => convertSegments brotli segments
      else .error s!"unsupported batch header byte: {header}"

-- What the canonical replay of a batch counts: a message, or the placeholder of a segment it cannot interpret.
inductive ReplaySlot where
  | message (message : BatchMessage)
  | placeholder
deriving DecidableEq, Repr

def Expands (brotli : Brotli) (maxSize : Nat) (input output : Bytes) : Prop :=
  brotli input (maxSize + 1) = .ok output ∧ output.length ≤ maxSize

inductive Replays (brotli : Brotli) : Bytes → List ReplaySlot → Prop where
  | empty : Replays brotli [] []
  | l2Message (data : Bytes) : Replays brotli (0 :: data) [.message (.l2Msg data)]
  | compressed (data content : Bytes) (expands : Expands brotli maxL2MessageSize data content) :
      Replays brotli (1 :: data) [.message (.l2Msg content)]
  | undecodable (data : Bytes) (fails : ∀ content, ¬ Expands brotli maxL2MessageSize data content) : Replays brotli (1 :: data) [.placeholder]
  | delayed (data : Bytes) : Replays brotli (2 :: data) [.message .delayedMsg]
  | timestamp (data : Bytes) : Replays brotli (3 :: data) []
  | l1BlockNumber (data : Bytes) : Replays brotli (4 :: data) []
  | unknown (kind : UInt8) (data : Bytes) (beyond : 4 < kind) : Replays brotli (kind :: data) [.placeholder]

inductive ReplayStream (brotli : Brotli) : List Bytes → List ReplaySlot → Prop where
  | nil : ReplayStream brotli [] []
  | cons (segment : Bytes) (segments : List Bytes) (slots rest : List ReplaySlot) (first : Replays brotli segment slots)
      (others : ReplayStream brotli segments rest) : ReplayStream brotli (segment :: segments) (slots ++ rest)

structure Framed (rlp : Rlp.StringCodec) (room : Nat) (segments : List Bytes) (tail bytes : Bytes) : Prop where
  layout : bytes = segments.flatMap rlp.encode ++ tail
  bounded : segments.length ≤ room
  ended : tail = [] ∨ rlp.decode tail = .error .inputTooShort ∧ segments.length < room

def ReplaysAs (rlp : Rlp.StringCodec) (brotli : Brotli) (content : Bytes) (slots : List ReplaySlot) : Prop :=
  ∃ compressed decompressed segments tail, content = brotliHeaderByte :: compressed ∧
    Expands brotli maxDecompressedLen compressed decompressed ∧ Framed rlp maxSegments segments tail decompressed ∧
    ReplayStream brotli segments slots

theorem decompress_iff (brotli : Brotli) (input output : Bytes) (maxSize : Nat) :
    decompress brotli input maxSize = .ok output ↔ Expands brotli maxSize input output := by
  unfold decompress Expands
  cases brotli input (maxSize + 1) with
  | error e => simp
  | ok result =>
      by_cases large : result.length > maxSize
      · simp only [if_pos large, reduceCtorEq, false_iff, Except.ok.injEq]
        rintro ⟨rfl, small⟩
        omega
      · simp only [if_neg large, Except.ok.injEq]
        constructor
        · rintro rfl
          exact ⟨rfl, by omega⟩
        · exact And.left

theorem framed_nil_iff (rlp : Rlp.StringCodec) (room : Nat) (segments : List Bytes) :
    (∃ tail, Framed rlp room segments tail []) ↔ segments = [] := by
  constructor
  · rintro ⟨tail, framed⟩
    cases segments with
    | nil => rfl
    | cons segment rest =>
        have layout := framed.layout
        rw [List.flatMap_cons, List.append_assoc] at layout
        exact absurd (List.append_eq_nil_iff.mp layout.symm).1 (rlp.encode_ne_nil segment)
  · rintro rfl
    exact ⟨[], rfl, Nat.zero_le _, .inl rfl⟩

theorem framed_truncated (rlp : Rlp.StringCodec) (room : Nat) (tail bytes : Bytes) (nonempty : bytes ≠ [])
    (framed : Framed rlp room [] tail bytes) : rlp.decode bytes = .error .inputTooShort ∧ 0 < room := by
  have same : bytes = tail := framed.layout
  subst same
  obtain empty | short := framed.ended
  · exact absurd empty nonempty
  · exact short

theorem framed_decodes (rlp : Rlp.StringCodec) (room : Nat) (segment : Bytes) (segments : List Bytes) (tail bytes : Bytes)
    (fits : bytes.length < 2 ^ 64) (framed : Framed rlp room (segment :: segments) tail bytes) :
    rlp.decode bytes = .ok (segment, segments.flatMap rlp.encode ++ tail) := by
  have layout := framed.layout
  rw [List.flatMap_cons, List.append_assoc] at layout
  exact (rlp.decode_iff bytes segment _ fits).mpr layout

theorem framed_cons (rlp : Rlp.StringCodec) (room : Nat) (segment : Bytes) (segments : List Bytes) (tail rest : Bytes) :
    Framed rlp (room + 1) (segment :: segments) tail (rlp.encode segment ++ rest) ↔ Framed rlp room segments tail rest := by
  constructor
  · intro framed
    refine ⟨?_, by simpa using framed.bounded, by simpa using framed.ended⟩
    have layout := framed.layout
    rw [List.flatMap_cons, List.append_assoc] at layout
    exact List.append_cancel_left layout
  · intro framed
    refine ⟨?_, by simpa using framed.bounded, by simpa using framed.ended⟩
    rw [framed.layout, List.flatMap_cons, List.append_assoc]

section Front

variable (rlp : Rlp.StringCodec) (room : Nat) (bytes : Bytes) (segments : List Bytes) (fits : bytes.length < 2 ^ 64) (nonempty : bytes ≠ [])

include nonempty

theorem framed_without_room : ¬ ∃ tail, Framed rlp 0 segments tail bytes := by
  rintro ⟨tail, framed⟩
  obtain rfl := List.length_eq_zero_iff.mp (Nat.le_zero.mp framed.bounded)
  exact absurd (framed_truncated rlp 0 tail bytes nonempty framed).2 (Nat.lt_irrefl 0)

include fits

theorem framed_error_iff (e : Rlp.DecodeError) (decoded : rlp.decode bytes = .error e) :
    (∃ tail, Framed rlp (room + 1) segments tail bytes) ↔ e = .inputTooShort ∧ segments = [] := by
  constructor
  · rintro ⟨tail, framed⟩
    cases segments with
    | nil =>
        have short := (framed_truncated rlp _ tail bytes nonempty framed).1
        rw [decoded] at short
        exact ⟨Except.error.inj short, rfl⟩
    | cons segment segments =>
        have hit := framed_decodes rlp _ segment segments tail bytes fits framed
        rw [decoded] at hit
        cases hit
  · rintro ⟨rfl, rfl⟩
    exact ⟨bytes, rfl, Nat.zero_le _, .inr ⟨decoded, Nat.succ_pos _⟩⟩

theorem framed_ok_iff (segment rest : Bytes) (decoded : rlp.decode bytes = .ok (segment, rest)) :
    (∃ tail, Framed rlp (room + 1) segments tail bytes) ↔
      ∃ others, segments = segment :: others ∧ ∃ tail, Framed rlp room others tail rest := by
  have layout := (rlp.decode_iff bytes segment rest fits).mp decoded
  constructor
  · rintro ⟨tail, framed⟩
    cases segments with
    | nil =>
        have short := (framed_truncated rlp _ tail bytes nonempty framed).1
        rw [decoded] at short
        cases short
    | cons other others =>
        have hit := framed_decodes rlp _ other others tail bytes fits framed
        rw [decoded] at hit
        obtain ⟨rfl, -⟩ := Prod.mk.inj (Except.ok.inj hit)
        rw [layout, framed_cons rlp] at framed
        exact ⟨others, rfl, tail, framed⟩
  · rintro ⟨others, rfl, tail, framed⟩
    rw [layout]
    exact ⟨tail, (framed_cons rlp room segment others tail rest).mpr framed⟩

end Front

theorem decode_segments_nil (rlp : Rlp.StringCodec) (room : Nat) (segments : List Bytes) :
    decodeSegments rlp room [] = .ok segments ↔ ∃ tail, Framed rlp room segments tail [] := by
  rw [framed_nil_iff, eq_comm]
  cases room with
  | zero => simp [decodeSegments]
  | succ room => simp [decodeSegments]

-- Induction on the room left; one segment is read at each step.
theorem decode_segments_iff (rlp : Rlp.StringCodec) (room : Nat) (bytes : Bytes) (segments : List Bytes) (fits : bytes.length < 2 ^ 64) :
    decodeSegments rlp room bytes = .ok segments ↔ ∃ tail, Framed rlp room segments tail bytes := by
  induction room generalizing bytes segments with
  | zero =>
      by_cases empty : bytes = []
      · rw [empty, decode_segments_nil]
      · simp [decodeSegments, empty, framed_without_room rlp bytes segments empty]
  | succ room ih =>
      by_cases empty : bytes = []
      · rw [empty, decode_segments_nil]
      · rw [decodeSegments, List.isEmpty_eq_false_iff.mpr empty, if_neg Bool.false_ne_true]
        cases decoded : rlp.decode bytes with
        | error e =>
            rw [framed_error_iff rlp room bytes segments fits empty e decoded]
            by_cases short : e = .inputTooShort
            · simp [short, eq_comm]
            · simp [short]
        | ok result =>
            obtain ⟨segment, rest⟩ := result
            have smaller : rest.length < 2 ^ 64 := by
              have lengths := congrArg List.length ((rlp.decode_iff bytes segment rest fits).mp decoded)
              rw [List.length_append] at lengths
              omega
            rw [framed_ok_iff rlp room bytes segments fits empty segment rest decoded]
            simp only [← ih rest _ smaller]
            cases decodeSegments rlp room rest with
            | error e => simp
            | ok others => simp [eq_comm]

theorem replays_unique (brotli : Brotli) (segment : Bytes) (a b : List ReplaySlot) (left : Replays brotli segment a)
    (right : Replays brotli segment b) : a = b := by
  cases left with
  | empty => cases right; rfl
  | compressed data content expands =>
      cases right with
      | compressed _ other also =>
          have same := Except.ok.inj (expands.1.symm.trans also.1)
          rw [same]
      | undecodable _ fails => exact absurd expands (fails content)
      | unknown _ _ beyond => exact absurd beyond (by decide)
  | undecodable data fails =>
      cases right with
      | compressed _ other also => exact absurd also (fails other)
      | undecodable => rfl
      | unknown _ _ beyond => exact absurd beyond (by decide)
  | unknown kind data beyond => cases right <;> first | rfl | exact absurd beyond (by decide)
  | _ =>
      cases right with
      | unknown _ _ beyond => exact absurd beyond (by decide)
      | _ => rfl

theorem replay_stream_unique (brotli : Brotli) (segments : List Bytes) (a b : List ReplaySlot) (left : ReplayStream brotli segments a)
    (right : ReplayStream brotli segments b) : a = b := by
  induction left generalizing b with
  | nil => cases right; rfl
  | cons segment segments slots rest first others ih =>
      cases right with
      | cons _ _ slots' rest' first' others' => rw [replays_unique brotli segment slots slots' first first', ih rest' others']

theorem replays_as_unique (rlp : Rlp.StringCodec) (brotli : Brotli) (content : Bytes) (a b : List ReplaySlot) (left : ReplaysAs rlp brotli content a)
    (right : ReplaysAs rlp brotli content b) : a = b := by
  obtain ⟨compressed, decompressed, segments, tail, rfl, expands, framed, stream⟩ := left
  obtain ⟨compressed', decompressed', segments', tail', same, expands', framed', stream'⟩ := right
  obtain rfl := (List.cons.inj same).2
  obtain rfl := Except.ok.inj (expands.1.symm.trans expands'.1)
  have fits : decompressed.length < 2 ^ 64 := Nat.lt_of_le_of_lt expands.2 (by decide)
  have one := (decode_segments_iff rlp maxSegments decompressed segments fits).mpr ⟨tail, framed⟩
  have two := (decode_segments_iff rlp maxSegments decompressed segments' fits).mpr ⟨tail', framed'⟩
  obtain rfl := Except.ok.inj (one.symm.trans two)
  exact replay_stream_unique brotli segments a b stream stream'

-- What is known of one answer settles the equivalence, since a segment replays in one way only.
theorem converted_iff (brotli : Brotli) (segment : Bytes) (converted messages : List BatchMessage)
    (answer : convertSegment brotli segment = .ok converted) (replays : Replays brotli segment (converted.map .message)) :
    convertSegment brotli segment = .ok messages ↔ Replays brotli segment (messages.map .message) := by
  rw [answer, Except.ok.injEq]
  constructor
  · rintro rfl
    exact replays
  · intro also
    have same := replays_unique brotli segment _ _ replays also
    exact List.map_injective_iff.mpr (fun _ _ => ReplaySlot.message.inj) same

theorem rejected_iff (brotli : Brotli) (segment : Bytes) (e : String) (messages : List BatchMessage)
    (answer : convertSegment brotli segment = .error e) (replays : Replays brotli segment [.placeholder]) :
    convertSegment brotli segment = .ok messages ↔ Replays brotli segment (messages.map .message) := by
  rw [answer]
  constructor
  · intro impossible
    cases impossible
  · intro also
    have same := replays_unique brotli segment _ _ replays also
    cases messages with
    | nil => cases same
    | cons message rest => cases (List.cons.inj same).1

theorem compressed_iff (brotli : Brotli) (data : Bytes) (messages : List BatchMessage) :
    convertSegment brotli (1 :: data) = .ok messages ↔ Replays brotli (1 :: data) (messages.map .message) := by
  have expand := decompress_iff brotli data
  cases result : decompress brotli data maxL2MessageSize with
  | error e =>
      have answer : convertSegment brotli (1 :: data) =
          .error "brotli-compressed L2 message segment would replay as a placeholder" := by
        simp [convertSegment, batchSegmentKindL2Message, batchSegmentKindL2MessageBrotli, result]
      refine rejected_iff brotli _ _ messages answer (.undecodable data fun content expands => ?_)
      rw [(expand content maxL2MessageSize).mpr expands] at result
      cases result
  | ok content =>
      have answer : convertSegment brotli (1 :: data) = .ok [.l2Msg content] := by
        simp [convertSegment, batchSegmentKindL2Message, batchSegmentKindL2MessageBrotli, result]
      exact converted_iff brotli _ _ messages answer (.compressed data content ((expand content maxL2MessageSize).mp result))

theorem kind_beyond (kind : UInt8) (l2 : kind ≠ 0) (compressed : kind ≠ 1) (delayed : kind ≠ 2) (timestamp : kind ≠ 3)
    (blockNumber : kind ≠ 4) : 4 < kind := by
  rw [ne_eq, ← UInt8.toNat_inj] at l2 compressed delayed timestamp blockNumber
  rw [UInt8.lt_iff_toNat_lt]
  simp at l2 compressed delayed timestamp blockNumber ⊢
  omega

theorem convert_segment_iff (brotli : Brotli) (segment : Bytes) (messages : List BatchMessage) :
    convertSegment brotli segment = .ok messages ↔ Replays brotli segment (messages.map .message) := by
  cases segment with
  | nil => exact converted_iff brotli [] [] messages rfl .empty
  | cons kind data =>
      by_cases l2 : kind = 0
      · subst l2
        exact converted_iff brotli _ [.l2Msg data] messages rfl (.l2Message data)
      · by_cases compressed : kind = 1
        · subst compressed
          exact compressed_iff brotli data messages
        · by_cases delayed : kind = 2
          · subst delayed
            exact converted_iff brotli _ [.delayedMsg] messages rfl (.delayed data)
          · by_cases timestamp : kind = 3
            · subst timestamp
              exact converted_iff brotli _ [] messages rfl (.timestamp data)
            · by_cases blockNumber : kind = 4
              · subst blockNumber
                exact converted_iff brotli _ [] messages rfl (.l1BlockNumber data)
              · have answer : convertSegment brotli (kind :: data) = .error s!"unknown batch segment kind: {kind}" := by
                  simp [convertSegment, batchSegmentKindL2Message, batchSegmentKindL2MessageBrotli, batchSegmentKindDelayedMessages,
                    batchSegmentKindAdvanceTimestamp, batchSegmentKindAdvanceL1BlockNumber, l2, compressed, delayed, timestamp, blockNumber]
                exact rejected_iff brotli _ _ messages answer
                  (.unknown kind data (kind_beyond kind l2 compressed delayed timestamp blockNumber))

-- The slots of the first segment are the images of the first messages.
theorem convert_segments_iff (brotli : Brotli) (segments : List Bytes) (messages : List BatchMessage) :
    convertSegments brotli segments = .ok messages ↔ ReplayStream brotli segments (messages.map .message) := by
  induction segments generalizing messages with
  | nil =>
      rw [convertSegments, Except.ok.injEq]
      constructor
      · rintro rfl
        exact .nil
      · intro stream
        have same := replay_stream_unique brotli [] _ _ .nil stream
        exact (List.map_eq_nil_iff.mp same.symm).symm
  | cons segment segments ih =>
      constructor
      · intro answered
        rw [convertSegments] at answered
        cases head : convertSegment brotli segment with
        | error e => simp [head] at answered
        | ok first =>
            cases tail : convertSegments brotli segments with
            | error e => simp [head, tail] at answered
            | ok rest =>
                simp only [head, tail, Except.ok.injEq] at answered
                rw [← answered, List.map_append]
                exact .cons segment segments _ _ ((convert_segment_iff brotli segment first).mp head) ((ih rest).mp tail)
      · intro stream
        generalize slotsEq : messages.map ReplaySlot.message = slots at stream
        cases stream with
        | cons _ _ first rest replays others =>
            obtain ⟨front, back, rfl, rfl, rfl⟩ := List.map_eq_append_iff.mp slotsEq
            have head := (convert_segment_iff brotli segment front).mpr replays
            have tail := (ih back).mpr others
            rw [convertSegments, head, tail]

theorem parse_batch_replays (rlp : Rlp.StringCodec) (brotli : Brotli) (content : Bytes) (messages : List BatchMessage) :
    parseBatch rlp brotli content = .ok messages ↔ ReplaysAs rlp brotli content (messages.map .message) := by
  cases content with
  | nil =>
      constructor
      · intro impossible
        cases impossible
      · rintro ⟨compressed, decompressed, segments, tail, layout, -⟩
        cases layout
  | cons header payload =>
      constructor
      · intro answered
        rw [parseBatch] at answered
        by_cases brotliHeader : header = brotliHeaderByte
        · rw [if_pos brotliHeader] at answered
          cases expanded : decompress brotli payload maxDecompressedLen with
          | error e => simp [expanded] at answered
          | ok segmentData =>
              have expands := (decompress_iff brotli payload segmentData maxDecompressedLen).mp expanded
              have fits : segmentData.length < 2 ^ 64 := Nat.lt_of_le_of_lt expands.2 (by decide)
              cases decoded : decodeSegments rlp maxSegments segmentData with
              | error e => simp [expanded, decoded] at answered
              | ok segments =>
                  simp only [expanded, decoded] at answered
                  obtain ⟨tail, framed⟩ := (decode_segments_iff rlp maxSegments segmentData segments fits).mp decoded
                  exact ⟨payload, segmentData, segments, tail, by rw [brotliHeader], expands, framed,
                    (convert_segments_iff brotli segments messages).mp answered⟩
        · rw [if_neg brotliHeader] at answered
          cases answered
      · intro given
        obtain ⟨compressed, decompressed, segments, tail, layout, expands, framed, stream⟩ := given
        obtain ⟨rfl, rfl⟩ := List.cons.inj layout
        have fits : decompressed.length < 2 ^ 64 := Nat.lt_of_le_of_lt expands.2 (by decide)
        have expanded := (decompress_iff brotli payload decompressed maxDecompressedLen).mpr expands
        have decoded := (decode_segments_iff rlp maxSegments decompressed segments fits).mpr ⟨tail, framed⟩
        simp only [parseBatch, if_true, expanded, decoded]
        exact (convert_segments_iff brotli segments messages).mpr stream

/-- A batch is accepted exactly when its replay has no placeholder, and then it is parsed to the stream of slots that every
replay of its bytes counts. -/
theorem parse_batch_iff (rlp : Rlp.StringCodec) (brotli : Brotli) (content : Bytes) (messages : List BatchMessage) :
    parseBatch rlp brotli content = .ok messages ↔
      ReplaysAs rlp brotli content (messages.map .message) ∧ ∀ slots, ReplaysAs rlp brotli content slots → slots = messages.map .message := by
  rw [parse_batch_replays]
  exact ⟨fun replays => ⟨replays, fun slots other => replays_as_unique rlp brotli content _ _ other replays⟩, And.left⟩

def storedBrotli (stream data : Bytes) : Brotli := fun input limit =>
  if input = stream then .ok (data.take limit) else .error "Invalid Data"

def mixedSegments : Bytes := [0x83, 0, 0x68, 0x69, 0x02, 0x82, 3, 0x84]

def mixedStream : Bytes := [0x70, 0, 0x10, 0x83, 0, 0x68, 0x69, 0x02, 0x82, 3, 0x84, 0x03]

theorem mixed_batch_replays :
    ReplaysAs Rlp.stringCodec (storedBrotli mixedStream mixedSegments) (brotliHeaderByte :: mixedStream)
      [.message (.l2Msg [0x68, 0x69]), .message .delayedMsg] :=
  ((parse_batch_iff Rlp.stringCodec (storedBrotli mixedStream mixedSegments) (brotliHeaderByte :: mixedStream)
    [.l2Msg [0x68, 0x69], .delayedMsg]).mp (by decide +kernel)).1

end Cas
