import Cas.DaApi.Agreement

set_option autoImplicit false

namespace Cas

open SortedSlice
open Std (ExtTreeMap)

theorem range_held_length (queue : List NitroRollupQueueEntry) (start : UInt64) (count pos : Nat) (entry : NitroRollupQueueEntry)
    (sorted : Increasing sequenceNumber queue) (access : queue[pos]? = some entry) (first : sequenceNumber entry = start)
    (held : RangeHeld queue start count) : pos + count ≤ queue.length := by
  have split := increasing_words queue sorted
  rw [← List.take_append_drop pos queue] at split
  obtain ⟨-, -, below⟩ := List.pairwise_append.mp split
  have here : entry ∈ queue.drop pos := by
    rw [located_suffix queue pos entry access]
    exact List.mem_cons_self
  have present : ∀ k < count, ∃ a ∈ queue.drop pos, (sequenceNumber a).toNat = start.toNat + k := by
    intro k bound
    obtain ⟨a, member, same⟩ := held k bound
    rw [← List.take_append_drop pos queue] at member
    cases List.mem_append.mp member with
    | inl before =>
        have less : (sequenceNumber a).toNat < (sequenceNumber entry).toNat := below a before entry here
        rw [first] at less
        omega
    | inr inside => exact ⟨a, inside, same⟩
  have long := present_length (fun entry => (sequenceNumber entry).toNat) (queue.drop pos) start.toNat count present
  have within := (List.getElem?_eq_some_iff.mp access).1
  rw [List.length_drop] at long
  omega

section Honest

variable (external : External) (nitroConfig : NitroConfig) (chain : Chain Bytes)

def Honest (life : Life) (cursor : BatchCursor) (batch : List BatchMessage) : Prop :=
  batch ≠ [] ∧ ∀ (i : Nat) (msg : BatchMessage), batch[i]? = some msg → ∃ e, PostedAs external nitroConfig chain life cursor batch i msg e ∧
    sequenceNumber e ∉ (life.state external nitroConfig life.events).stubs

variable (life : Life) (fed : Fed chain life.startingHotshotHeight life.rounds life.events)
  (reads : ∀ event ∈ life.events, FromChain chain event) (cursor : BatchCursor) (batch : List BatchMessage)
  (unfinalized : (life.state external nitroConfig life.events).finalizedIdx < cursor.nextBatchStartPos)

include unfinalized in
theorem posted_above (i : Nat) (msg : BatchMessage) (e : NitroRollupQueueEntry)
    (posted : PostedAs external nitroConfig chain life cursor batch i msg e) :
    (life.state external nitroConfig life.events).finalizedIdx < sequenceNumber e := by
  have numbered := posted.numbered
  rw [UInt64.lt_iff_toNat_lt] at unfinalized ⊢
  omega

include fed unfinalized in
theorem honest_held (started : life.streamer.startingPos ≤ cursor.nextBatchStartPos)
    (honest : Honest external nitroConfig chain life cursor batch) :
    RangeHeld (life.state external nitroConfig life.events).queue cursor.nextBatchStartPos batch.length := by
  intro i within
  obtain ⟨e, posted, full⟩ := honest.2 i _ (List.getElem?_eq_getElem within)
  have above := posted_above external nitroConfig chain life cursor batch unfinalized i _ e posted
  have late : life.streamer.startingPos ≤ sequenceNumber e := by
    have numbered := posted.numbered
    rw [UInt64.le_iff_toNat_le] at started ⊢
    omega
  rcases (fed_tracked_at life.streamer (nitroRollup external nitroConfig) chain life.startingHotshotHeight life.finalizedIdx life.rounds
    life.events fed (sequenceNumber e) (hotshotHeight e) above).mpr ⟨late, posted.first⟩ with ⟨found, queued, same, -⟩ | stub
  · exact ⟨found, queued, by rw [same, posted.numbered]⟩
  · exact absurd (ExtTreeMap.mem_iff_isSome_getElem?.mpr (Option.isSome_of_eq_some stub)) full

include fed unfinalized in
theorem held_started (nonempty : batch ≠ [])
    (held : RangeHeld (life.state external nitroConfig life.events).queue cursor.nextBatchStartPos batch.length) :
    life.streamer.startingPos ≤ cursor.nextBatchStartPos := by
  obtain ⟨e, queued, number⟩ := held 0 (List.length_pos_iff.mpr nonempty)
  have located : sequenceNumber e = cursor.nextBatchStartPos := UInt64.toNat_inj.mp number
  have tracked := fed_tracked_at life.streamer (nitroRollup external nitroConfig) chain life.startingHotshotHeight life.finalizedIdx
    life.rounds life.events fed (sequenceNumber e) (hotshotHeight e) (located ▸ unfinalized)
  exact located ▸ (tracked.mp (.inl ⟨e, queued, rfl, rfl⟩)).1

include fed reads unfinalized

-- The entry that the queue has under a number is the one the chain has, since no block holds two.
theorem queued_is_posted (unequivocal : Unequivocal (nitroRollup external nitroConfig) chain) (i : Nat) (msg : BatchMessage)
    (e found : NitroRollupQueueEntry) (posted : PostedAs external nitroConfig chain life cursor batch i msg e)
    (queued : found ∈ (life.state external nitroConfig life.events).queue) (same : sequenceNumber found = sequenceNumber e) : found = e := by
  have above := posted_above external nitroConfig chain life cursor batch unfinalized i msg e posted
  rw [← same] at above
  obtain ⟨there, first⟩ := fed_entry_first (nitroRollup external nitroConfig) chain life.streamer life.startingHotshotHeight
    life.finalizedIdx life.rounds life.events fed reads found queued above
  have height := posted.first
  rw [← same, first] at height
  exact unequivocal _ found there e (Option.some.inj height ▸ posted.posted) same

theorem honest_matches (unequivocal : Unequivocal (nitroRollup external nitroConfig) chain)
    (started : life.streamer.startingPos ≤ cursor.nextBatchStartPos) (honest : Honest external nitroConfig chain life cursor batch) :
    ∃ pos, MatchesAt batch (life.state external nitroConfig life.events).queue cursor pos := by
  have sorted := (run_streamer_provenance life.streamer (nitroRollup external nitroConfig) chain life.finalizedIdx life.events
    reads).inv.sorted
  have held := honest_held external nitroConfig chain life fed cursor batch unfinalized started honest
  obtain ⟨entry, queued, number⟩ := held 0 (List.length_pos_iff.mpr honest.1)
  have located : sequenceNumber entry = cursor.nextBatchStartPos := UInt64.toNat_inj.mp number
  obtain ⟨pos, access⟩ := List.mem_iff_getElem?.mp queued
  have enough := range_held_length _ _ _ pos entry sorted access located held
  refine ⟨pos, honest.1, ⟨entry, access, located⟩, enough, fun i msg found within there => ?_⟩
  rw [List.getElem?_drop] at there
  obtain ⟨shorter, -⟩ := List.getElem?_eq_some_iff.mp within
  obtain ⟨e, posted, -⟩ := honest.2 i msg within
  have numbered := range_held_in_place _ _ batch.length pos i entry found sorted access located held shorter there
  obtain rfl := queued_is_posted external nitroConfig chain life fed reads cursor batch unfinalized unequivocal i msg e found posted
    (List.mem_of_getElem? there) (UInt64.toNat_inj.mp (numbered.trans posted.numbered.symm))
  exact ⟨posted.delayed, posted.content⟩

theorem matched_honest (pos : Nat) (matched : MatchesAt batch (life.state external nitroConfig life.events).queue cursor pos)
    (held : RangeHeld (life.state external nitroConfig life.events).queue cursor.nextBatchStartPos batch.length) :
    Honest external nitroConfig chain life cursor batch := by
  refine ⟨matched.nonempty, fun i msg within => ?_⟩
  obtain ⟨e, found, posted⟩ := matched_entry_posted external nitroConfig chain life fed reads cursor batch unfinalized pos matched held i
    msg within
  have inv := run_streamer_invariant life.streamer (nitroRollup external nitroConfig).toRollup life.finalizedIdx life.events
  exact ⟨e, posted, inv.separate _ ⟨e, List.mem_of_getElem? found, rfl⟩⟩

end Honest

section Stored

variable {Json : Type} (crypto : CasCrypto) (downstream : Downstream) (reader : JsonReader Json) (rlp : Rlp.StringCodec) (brotli : Brotli)

theorem stored_iff_verified (server : ServerState) (body : RpcParams Json) (data : Bytes) (timeout : UInt64) (origin : CertOrigin)
    (downstreamCert : Bytes) (request : storeParams reader body = .ok (data, timeout)) (small : tooLarge server.maxMessageSize data = false)
    (resolved : resolveDownstreamCert downstream server data timeout = .ok (.cert origin downstreamCert))
    (long : 2 ≤ downstreamCert.length) (willing : ∀ hash, ∃ sig, server.keyManager.signHashSync hash = .ok sig)
    (answer : Bytes → VerificationResult) :
    (∃ certificate, handleStore crypto downstream reader (fun bytes => .ok (answer bytes)) server body = .ok (.stored origin certificate)) ↔
      (answer data).success = true := by
  constructor
  · rintro ⟨certificate, stored⟩
    obtain ⟨result, _, _, storedAs⟩ := (handle_store_stored_iff crypto downstream reader _ server body data timeout request origin
      certificate).mp stored
    rw [Except.ok.inj storedAs.verified]
    exact storedAs.success
  · intro success
    obtain ⟨certificate, built⟩ := build_exists crypto server.keyManager (certificateArguments (answer data) downstreamCert) long willing
    exact ⟨certificate.wire, (handle_store_stored_iff crypto downstream reader _ server body data timeout request origin _).mpr
      ⟨answer data, downstreamCert, certificate, small, rfl, success, resolved, built, rfl⟩⟩

theorem verified_iff_matched (queue : List NitroRollupQueueEntry) (sorted : Increasing sequenceNumber queue)
    (fetched : Option (Except String BatchCursor)) (data : Bytes) (batch : List BatchMessage)
    (parsed : parseBatch rlp brotli data = .ok batch) :
    (handleVerification rlp brotli fetched data queue).success = true ↔ ∃ pos, MatchesAt batch queue (verificationContext fetched) pos := by
  have outcome := verify_batch_outcome batch queue (verificationContext fetched) sorted
  simp only [handleVerification, parsed]
  generalize verifyBatchMessages batch queue (verificationContext fetched) = result at outcome ⊢
  cases outcome with
  | refused unmatched => exact iff_of_false Bool.false_ne_true (not_exists.mpr unmatched)
  | accepted pos matched => exact iff_of_true rfl ⟨pos, matched⟩

/-- At every moment of a life of the service, a batch that starts above the finalized index is certified, with no gap in its range,
exactly when it starts no lower than the starting position and is honest: each of its messages is the one that the chain has at its
position, in the first of the polled blocks that carries the number, and none of them is down to a stub. This takes that no block
of the chain holds two different messages of one number, and that the request, the downstream provider and the key manager raise
no objection. -/
theorem certified_iff_honest (external : External) (nitroConfig : NitroConfig) (chain : Chain Bytes)
    (unequivocal : Unequivocal (nitroRollup external nitroConfig) chain) (life : Life)
    (fed : Fed chain life.startingHotshotHeight life.rounds life.events) (reads : ∀ event ∈ life.events, FromChain chain event)
    (server : ServerState) (body : RpcParams Json) (data : Bytes) (timeout : UInt64) (origin : CertOrigin) (downstreamCert : Bytes)
    (request : storeParams reader body = .ok (data, timeout)) (small : tooLarge server.maxMessageSize data = false)
    (resolved : resolveDownstreamCert downstream server data timeout = .ok (.cert origin downstreamCert))
    (long : 2 ≤ downstreamCert.length) (willing : ∀ hash, ∃ sig, server.keyManager.signHashSync hash = .ok sig)
    (fetched : Option (Except String BatchCursor)) (batch : List BatchMessage) (parsed : parseBatch rlp brotli data = .ok batch)
    (unfinalized : (life.state external nitroConfig life.events).finalizedIdx < (verificationContext fetched).nextBatchStartPos) :
    ((∃ certificate, handleStore crypto downstream reader
        (fun bytes => .ok (handleVerification rlp brotli fetched bytes (life.state external nitroConfig life.events).queue)) server body =
          .ok (.stored origin certificate)) ∧
      RangeHeld (life.state external nitroConfig life.events).queue (verificationContext fetched).nextBatchStartPos batch.length) ↔
      life.streamer.startingPos ≤ (verificationContext fetched).nextBatchStartPos ∧
        Honest external nitroConfig chain life (verificationContext fetched) batch := by
  have sorted := (run_streamer_provenance life.streamer (nitroRollup external nitroConfig) chain life.finalizedIdx life.events
    reads).inv.sorted
  have stored := stored_iff_verified crypto downstream reader server body data timeout origin downstreamCert request small resolved long
    willing fun bytes => handleVerification rlp brotli fetched bytes (life.state external nitroConfig life.events).queue
  rw [stored, verified_iff_matched rlp brotli (life.state external nitroConfig life.events).queue sorted fetched data batch parsed]
  constructor
  · rintro ⟨⟨pos, matched⟩, held⟩
    exact ⟨held_started external nitroConfig chain life fed _ batch unfinalized matched.nonempty held,
      matched_honest external nitroConfig chain life fed reads _ batch unfinalized pos matched held⟩
  · rintro ⟨started, honest⟩
    exact ⟨honest_matches external nitroConfig chain life fed reads _ batch unfinalized unequivocal started honest,
      honest_held external nitroConfig chain life fed _ batch unfinalized started honest⟩

end Stored

theorem opening_batch_honest :
    Honest openingExternal openingConfig openingChain (openingLife 1 1 2) ⟨1, 1⟩ [.l2Msg [0xde, 0xad, 0xbe, 0xef], .delayedMsg] := by
  have posted : ∀ e ∈ [(⟨openingMessage, 1⟩ : NitroRollupQueueEntry), ⟨delayedMessage, 1⟩],
      e ∈ entriesAt (nitroRollup openingExternal openingConfig) openingChain 1 ∧
        firstBlock (nitroRollup openingExternal openingConfig) openingChain (sequenceNumber e)
          (heightsBetween 1 (polled 1 [openingRound]).fromBlock) = some 1 := by
    intro e member
    rw [← opening_block] at member
    exact ⟨member, List.find?_cons_of_pos (List.any_eq_true.mpr ⟨e, member, decide_eq_true rfl⟩)⟩
  have full : ((openingLife 1 1 2).state openingExternal openingConfig (openingLife 1 1 2).events).stubs = ∅ := by
    rw [opening_life_state 1 1 2 opening_block_read]
    rfl
  refine ⟨List.cons_ne_nil _ _, fun i msg within => ?_⟩
  rw [full]
  rcases i with _ | _ | i
  · obtain rfl := Option.some.inj within
    obtain ⟨there, first⟩ := posted ⟨openingMessage, 1⟩ List.mem_cons_self
    refine ⟨⟨openingMessage, 1⟩, ⟨there, first, ?_, ?_, fun content same => ⟨_, rfl, BatchMessage.l2Msg.inj same⟩⟩,
      ExtTreeMap.not_mem_empty⟩
    · decide +kernel
    · decide +kernel
  · obtain rfl := Option.some.inj within
    obtain ⟨there, first⟩ := posted ⟨delayedMessage, 1⟩ (List.mem_cons_of_mem _ List.mem_cons_self)
    refine ⟨⟨delayedMessage, 1⟩, ⟨there, first, ?_, ?_, fun content same => ?_⟩, ExtTreeMap.not_mem_empty⟩
    · decide +kernel
    · decide +kernel
    · cases same
  · cases within

theorem opening_batch_certified :
    ∃ certificate, handleStore firstCrypto fallbackDownstream bytesReader
      (fun bytes => .ok (handleVerification Rlp.stringCodec openingBrotli (some (.ok ⟨1, 1⟩)) bytes
        ((openingLife 1 1 2).state openingExternal openingConfig (openingLife 1 1 2).events).queue))
      (serverState willingKeyManager 1000 sidecarConfig) (storeBody (brotliHeaderByte :: pairStream)) =
        .ok (.stored .rawData certificate) := by
  have finalized : ((openingLife 1 1 2).state openingExternal openingConfig (openingLife 1 1 2).events).finalizedIdx = 0 := by
    rw [opening_life_state 1 1 2 opening_block_read]
    decide +kernel
  refine ((certified_iff_honest firstCrypto fallbackDownstream bytesReader Rlp.stringCodec openingBrotli openingExternal openingConfig
    openingChain opening_chain_unequivocal (openingLife 1 1 2) (opening_life_fed 1 1 2 rfl) (opening_life_reads 1 1 2)
    (serverState willingKeyManager 1000 sidecarConfig) (storeBody (brotliHeaderByte :: pairStream)) (brotliHeaderByte :: pairStream) 5
    .rawData (brotliHeaderByte :: pairStream) (by decide +kernel) rfl (by decide +kernel) (by decide) (fun _ => ⟨firstSignature, rfl⟩)
    (some (.ok ⟨1, 1⟩)) [.l2Msg [0xde, 0xad, 0xbe, 0xef], .delayedMsg] (by decide +kernel) ?_).mpr
      ⟨by decide, opening_batch_honest⟩).1
  rw [finalized]
  decide

end Cas
