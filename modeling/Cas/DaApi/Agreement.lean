import Cas.DaApi.Certifier
import Cas.Streamer.Recovery

set_option autoImplicit false

namespace Cas

open SortedSlice

section OneChain

variable {Transaction Entry FeedMessage : Type} [RollupQueueEntry Entry]

variable (rollup : PositionalRollup Transaction Entry FeedMessage) (chain : Chain Transaction)

-- No block holds two different messages of one number. Different blocks may.
def Unequivocal : Prop :=
  ∀ height, ∀ e ∈ entriesAt rollup chain height, ∀ other ∈ entriesAt rollup chain height,
    sequenceNumber e = sequenceNumber other → e = other

theorem first_block_least (seq start stop height : UInt64)
    (first : firstBlock rollup chain seq (heightsBetween start stop) = some height) :
    (∃ e ∈ entriesAt rollup chain height, sequenceNumber e = seq) ∧
      ∀ earlier, start ≤ earlier → earlier < height → ∀ e ∈ entriesAt rollup chain earlier, sequenceNumber e ≠ seq := by
  obtain ⟨from', before⟩ := (mem_heights_between start stop height).mp (List.mem_of_find?_eq_some first)
  have carried := List.find?_some first
  refine ⟨by simpa using carried, fun earlier started below e member same => ?_⟩
  rw [heights_between_split start height stop from' (le_of_lt before), first_block_append] at first
  cases lower : firstBlock rollup chain seq (heightsBetween start height) with
  | none =>
      have absent := List.find?_eq_none.mp lower earlier ((mem_heights_between start height earlier).mpr ⟨started, below⟩)
      exact absent (List.any_eq_true.mpr ⟨e, member, decide_eq_true same⟩)
  | some found =>
      rw [lower, Option.some_or] at first
      have below := ((mem_heights_between start height found).mp (List.mem_of_find?_eq_some lower)).2
      exact absurd (Option.some.inj first) (ne_of_lt below)

theorem first_block_agrees (seq start stop resumed limit height found : UInt64)
    (first : firstBlock rollup chain seq (heightsBetween start stop) = some height)
    (second : firstBlock rollup chain seq (heightsBetween resumed limit) = some found)
    (early : start ≤ found) (earlier : resumed ≤ height) : height = found := by
  obtain ⟨⟨e, member, same⟩, none⟩ := first_block_least rollup chain seq start stop height first
  obtain ⟨⟨other, inside, equal⟩, absent⟩ := first_block_least rollup chain seq resumed limit found second
  rcases lt_trichotomy height found with below | at' | above
  · exact absurd same (absent height earlier below e member)
  · exact at'
  · exact absurd equal (none found early above other inside)

theorem fed_entry_first (config : StreamerConfig) (start finalizedIdx : UInt64) (rounds : List (PollRound Transaction))
    (events : List (StreamerEvent Transaction)) (fed : Fed chain start rounds events)
    (reads : ∀ event ∈ events, FromChain chain event) (e : Entry)
    (queued : e ∈ (runStreamer config rollup.toRollup finalizedIdx events).queue)
    (above : (runStreamer config rollup.toRollup finalizedIdx events).finalizedIdx < sequenceNumber e) :
    e ∈ entriesAt rollup chain (hotshotHeight e) ∧
      firstBlock rollup chain (sequenceNumber e) (heightsBetween start (polled start rounds).fromBlock) = some (hotshotHeight e) := by
  have origin := (run_streamer_provenance config rollup chain finalizedIdx events reads).origin
  have tracked := fed_tracked_at config rollup chain start finalizedIdx rounds events fed (sequenceNumber e) (hotshotHeight e) above
  exact ⟨origin.queued e queued, (tracked.mp (.inl ⟨e, queued, rfl, rfl⟩)).2⟩

end OneChain

-- One life of the service: its configuration, what its poller was answered and what its streamer has handled.
structure Life where
  streamer : StreamerConfig
  startingHotshotHeight : UInt64
  finalizedIdx : UInt64
  rounds : List (PollRound Bytes)
  events : List (StreamerEvent Bytes)

section Certificates

variable (rlp : Rlp.StringCodec) (brotli : Brotli) (external : External) (nitroConfig : NitroConfig) (chain : Chain Bytes)

def Life.state (life : Life) (seen : List (StreamerEvent Bytes)) : Streamer NitroRollupQueueEntry BroadcastFeedMessage :=
  runStreamer life.streamer (nitroRollup external nitroConfig).toRollup life.finalizedIdx seen

structure Issued (life : Life) (data : Bytes) (cursor : BatchCursor) (batch : List BatchMessage) (certificate : CasCertificate) : Prop where
  fed : Fed chain life.startingHotshotHeight life.rounds life.events
  reads : ∀ event ∈ life.events, FromChain chain event
  moment : ∃ seen pos, seen <+: life.events ∧
    CertifiedBy rlp brotli external nitroConfig data (life.state external nitroConfig seen).queue cursor batch pos certificate ∧
    (life.state external nitroConfig seen).finalizedIdx < cursor.nextBatchStartPos ∧
    RangeHeld (life.state external nitroConfig seen).queue cursor.nextBatchStartPos batch.length

structure StandsBehind (start : UInt64) (cursor : BatchCursor) (batch : List BatchMessage) (certificate : CasCertificate) (i : Nat)
    (msg : BatchMessage) (e : NitroRollupQueueEntry) : Prop where
  posted : e ∈ entriesAt (nitroRollup external nitroConfig) chain (hotshotHeight e)
  first : ∃ stop, firstBlock (nitroRollup external nitroConfig) chain (sequenceNumber e) (heightsBetween start stop) =
    some (hotshotHeight e)
  numbered : (sequenceNumber e).toNat = certificate.startMessagePos.toNat + i
  delayed : e.feedMessage.message.delayedMessagesRead =
    cursor.lastBatchDelayedMessagesRead + UInt64.ofNat (delayedCount (batch.take (i + 1)))
  content : CarriesContent msg e
  late : certificate.startHotshotBlock ≤ hotshotHeight e

structure PostedAs (life : Life) (cursor : BatchCursor) (batch : List BatchMessage) (i : Nat) (msg : BatchMessage)
    (e : NitroRollupQueueEntry) : Prop where
  posted : e ∈ entriesAt (nitroRollup external nitroConfig) chain (hotshotHeight e)
  first : firstBlock (nitroRollup external nitroConfig) chain (sequenceNumber e)
    (heightsBetween life.startingHotshotHeight (polled life.startingHotshotHeight life.rounds).fromBlock) = some (hotshotHeight e)
  numbered : (sequenceNumber e).toNat = cursor.nextBatchStartPos.toNat + i
  delayed : e.feedMessage.message.delayedMessagesRead =
    cursor.lastBatchDelayedMessagesRead + UInt64.ofNat (delayedCount (batch.take (i + 1)))
  content : CarriesContent msg e

section Moment

variable (life : Life) (fed : Fed chain life.startingHotshotHeight life.rounds life.events)
  (reads : ∀ event ∈ life.events, FromChain chain event) (cursor : BatchCursor) (batch : List BatchMessage)
  (unfinalized : (life.state external nitroConfig life.events).finalizedIdx < cursor.nextBatchStartPos)

include fed reads unfinalized

theorem matched_entry_posted (pos : Nat) (matched : MatchesAt batch (life.state external nitroConfig life.events).queue cursor pos)
    (held : RangeHeld (life.state external nitroConfig life.events).queue cursor.nextBatchStartPos batch.length) (i : Nat)
    (msg : BatchMessage) (within : batch[i]? = some msg) :
    ∃ e, (life.state external nitroConfig life.events).queue[pos + i]? = some e ∧
      PostedAs external nitroConfig chain life cursor batch i msg e := by
  have sorted := (run_streamer_provenance life.streamer (nitroRollup external nitroConfig) chain life.finalizedIdx life.events
    reads).inv.sorted
  obtain ⟨shorter, -⟩ := List.getElem?_eq_some_iff.mp within
  obtain ⟨entry, access, located⟩ := matched.located
  have enough := matched.enough
  obtain ⟨e, found⟩ : ∃ e, (life.state external nitroConfig life.events).queue[pos + i]? = some e :=
    ⟨_, List.getElem?_eq_getElem (by omega)⟩
  have numbered := range_held_in_place _ _ batch.length pos i entry e sorted access located held shorter found
  have above : (life.state external nitroConfig life.events).finalizedIdx < sequenceNumber e := by
    rw [UInt64.lt_iff_toNat_lt] at unfinalized ⊢
    omega
  obtain ⟨posted, first⟩ := fed_entry_first (nitroRollup external nitroConfig) chain life.streamer life.startingHotshotHeight
    life.finalizedIdx life.rounds life.events fed reads e (List.mem_of_getElem? found) above
  obtain ⟨delayed, content⟩ := matched.agree i msg e within (List.getElem?_drop.trans found)
  exact ⟨e, found, posted, first, numbered, delayed, content⟩

end Moment

theorem issued_entry (life : Life) (data : Bytes) (cursor : BatchCursor) (batch : List BatchMessage) (certificate : CasCertificate)
    (issued : Issued rlp brotli external nitroConfig chain life data cursor batch certificate) (i : Nat) (msg : BatchMessage)
    (within : batch[i]? = some msg) :
    ∃ e, StandsBehind external nitroConfig chain life.startingHotshotHeight cursor batch certificate i msg e := by
  obtain ⟨seen, pos, before, certified, unfinalized, held⟩ := issued.moment
  obtain ⟨earlier, fed⟩ := fed_earlier chain _ _ _ seen issued.fed before
  have reads : ∀ event ∈ seen, FromChain chain event := fun event member => issued.reads event (before.subset member)
  obtain ⟨e, found, posted⟩ := matched_entry_posted external nitroConfig chain ⟨_, _, _, earlier, seen⟩ fed reads cursor batch unfinalized
    pos certified.matched held i msg within
  obtain ⟨shorter, -⟩ := List.getElem?_eq_some_iff.mp within
  rw [← List.getElem?_drop] at found
  have compared : e ∈ ((life.state external nitroConfig seen).queue.drop pos).take batch.length :=
    List.mem_of_getElem? ((List.getElem?_take_of_lt shorter).trans found)
  have least := (min_height_least _ (List.ne_nil_of_mem compared)).2 e compared
  rw [← certified.startBlock] at least
  exact ⟨e, posted.posted, ⟨_, posted.first⟩, by rw [certified.positions.1, posted.numbered], posted.delayed, posted.content, least⟩

theorem same_entry_behind (unequivocal : Unequivocal (nitroRollup external nitroConfig) chain) (start resumed : UInt64)
    (cursor later : BatchCursor) (batch further : List BatchMessage) (certificate issued : CasCertificate) (i j : Nat)
    (msg other : BatchMessage) (e found : NitroRollupQueueEntry)
    (behind : StandsBehind external nitroConfig chain start cursor batch certificate i msg e)
    (behindOther : StandsBehind external nitroConfig chain resumed later further issued j other found)
    (early : start ≤ issued.startHotshotBlock) (earlier : resumed ≤ certificate.startHotshotBlock)
    (shared : certificate.startMessagePos.toNat + i = issued.startMessagePos.toNat + j) : e = found := by
  have number : sequenceNumber e = sequenceNumber found :=
    UInt64.toNat_inj.mp (behind.numbered.trans (shared.trans behindOther.numbered.symm))
  obtain ⟨stop, first⟩ := behind.first
  obtain ⟨limit, second⟩ := behindOther.first
  rw [← number] at second
  have height := first_block_agrees _ chain _ start stop resumed limit _ _ first second (le_trans early behindOther.late)
    (le_trans earlier behind.late)
  exact unequivocal _ e behind.posted found (height ▸ behindOther.posted) number

def delayedBefore (cursor : BatchCursor) (batch : List BatchMessage) (i : Nat) : UInt64 :=
  cursor.lastBatchDelayedMessagesRead + UInt64.ofNat (delayedCount (batch.take i))

theorem delayed_before_next (cursor : BatchCursor) (batch : List BatchMessage) (i : Nat) (msg : BatchMessage)
    (within : batch[i]? = some msg) :
    delayedBefore cursor batch (i + 1) = delayedBefore cursor batch i + UInt64.ofNat (delayedCount [msg]) := by
  have counted : delayedCount (batch.take (i + 1)) = delayedCount (batch.take i) + delayedCount [msg] := by
    rw [List.take_add_one, within, delayedCount, List.countP_append]
    rfl
  rw [delayedBefore, delayedBefore, counted, UInt64.ofNat_add, UInt64.add_assoc]

theorem same_message (msg other : BatchMessage) (counted : UInt64.ofNat (delayedCount [msg]) = UInt64.ofNat (delayedCount [other]))
    (content : ∀ bytes more, msg = .l2Msg bytes → other = .l2Msg more → bytes = more) : msg = other := by
  cases msg with
  | delayedMsg =>
      cases other with
      | delayedMsg => rfl
      | l2Msg more => cases counted
  | l2Msg bytes =>
      cases other with
      | delayedMsg => cases counted
      | l2Msg more => rw [content bytes more rfl rfl]

-- What two certificates say of a position that both cover. The kinds of the two messages depend on the delayed counts before it,
-- which differ only if a cursor gives a count that the chain does not have there.
structure PositionAgrees (cursor later : BatchCursor) (batch more : List BatchMessage) (i j : Nat) (msg found : BatchMessage) : Prop where
  content : ∀ bytes other, msg = .l2Msg bytes → found = .l2Msg other → bytes = other
  delayed : delayedBefore cursor batch (i + 1) = delayedBefore later more (j + 1)
  message : msg = found ↔ delayedBefore cursor batch i = delayedBefore later more j
  inner : 0 < i → 0 < j → msg = found

structure CertificatesAgree (cursor later : BatchCursor) (batch more : List BatchMessage) (certificate other : CasCertificate) : Prop where
  positions : ∀ i j msg found, certificate.startMessagePos.toNat + i = other.startMessagePos.toNat + j → batch[i]? = some msg →
    more[j]? = some found → PositionAgrees cursor later batch more i j msg found
  ends : certificate.endMessagePos = other.endMessagePos → certificate.afterDelayedMessagesRead = other.afterDelayedMessagesRead
  comparable : cursor = later → batch <+: more ∨ more <+: batch

theorem issued_start (life : Life) (data : Bytes) (cursor : BatchCursor) (batch : List BatchMessage) (certificate : CasCertificate)
    (issued : Issued rlp brotli external nitroConfig chain life data cursor batch certificate) :
    certificate.startMessagePos = cursor.nextBatchStartPos := by
  obtain ⟨seen, pos, -, certified, -, -⟩ := issued.moment
  exact certified.positions.1

theorem issued_end (life : Life) (data : Bytes) (cursor : BatchCursor) (batch : List BatchMessage) (certificate : CasCertificate)
    (issued : Issued rlp brotli external nitroConfig chain life data cursor batch certificate) :
    ∃ msg, batch[batch.length - 1]? = some msg ∧
      certificate.endMessagePos.toNat = certificate.startMessagePos.toNat + (batch.length - 1) ∧
      certificate.afterDelayedMessagesRead = delayedBefore cursor batch (batch.length - 1 + 1) := by
  obtain ⟨seen, pos, -, certified, -, -⟩ := issued.moment
  have positive : 0 < batch.length := List.length_pos_iff.mpr certified.matched.nonempty
  have within := List.getElem?_eq_getElem (l := batch) (i := batch.length - 1) (by omega)
  obtain ⟨e, behind⟩ := issued_entry rlp brotli external nitroConfig chain life data cursor batch certificate issued _ _ within
  have numbered := behind.numbered
  rw [certified.positions.1] at numbered
  refine ⟨_, within, ?_, ?_⟩
  · rw [certified.positions.2, last_position cursor.nextBatchStartPos batch.length _ positive numbered, behind.numbered]
  · rw [certified.delayed, delayedBefore, Nat.sub_add_cancel positive, List.take_length]

section Shared

variable (unequivocal : Unequivocal (nitroRollup external nitroConfig) chain) (first second : Life)
  (data further : Bytes) (cursor later : BatchCursor) (batch more : List BatchMessage) (certificate other : CasCertificate)
  (issued : Issued rlp brotli external nitroConfig chain first data cursor batch certificate)
  (reissued : Issued rlp brotli external nitroConfig chain second further later more other)
  (early : first.startingHotshotHeight ≤ other.startHotshotBlock) (earlier : second.startingHotshotHeight ≤ certificate.startHotshotBlock)
  (i j : Nat) (msg found : BatchMessage) (position : certificate.startMessagePos.toNat + i = other.startMessagePos.toNat + j)
  (within : batch[i]? = some msg) (inside : more[j]? = some found)

include unequivocal issued reissued early earlier position within inside

theorem shared_entry :
    delayedBefore cursor batch (i + 1) = delayedBefore later more (j + 1) ∧
      ∀ bytes content, msg = .l2Msg bytes → found = .l2Msg content → bytes = content := by
  obtain ⟨e, behind⟩ := issued_entry rlp brotli external nitroConfig chain first data cursor batch certificate issued i msg within
  obtain ⟨e', behind'⟩ := issued_entry rlp brotli external nitroConfig chain second further later more other reissued j found inside
  obtain rfl := same_entry_behind external nitroConfig chain unequivocal _ _ cursor later batch more certificate other i j msg found e e'
    behind behind' early earlier position
  refine ⟨behind.delayed.symm.trans behind'.delayed, fun bytes content same equal => ?_⟩
  obtain ⟨incoming, held, carried⟩ := behind.content bytes same
  obtain ⟨incoming', held', carried'⟩ := behind'.content content equal
  obtain rfl := Option.some.inj (held.symm.trans held')
  exact carried.symm.trans carried'

theorem shared_message : msg = found ↔ delayedBefore cursor batch i = delayedBefore later more j := by
  obtain ⟨after, content⟩ := shared_entry rlp brotli external nitroConfig chain unequivocal first second data further cursor later
    batch more certificate other issued reissued early earlier i j msg found position within inside
  rw [delayed_before_next cursor batch i msg within, delayed_before_next later more j found inside] at after
  constructor
  · intro same
    rw [same] at after
    exact (UInt64.add_left_inj _).mp after
  · intro before
    rw [before] at after
    exact same_message msg found ((UInt64.add_right_inj _).mp after) content

theorem shared_position : PositionAgrees cursor later batch more i j msg found := by
  have entry := shared_entry rlp brotli external nitroConfig chain unequivocal first second data further cursor later batch more
    certificate other issued reissued early earlier
  have message := shared_message rlp brotli external nitroConfig chain unequivocal first second data further cursor later batch more
    certificate other issued reissued early earlier i j msg found position within inside
  obtain ⟨delayed, content⟩ := entry i j msg found position within inside
  refine ⟨content, delayed, message, fun positive positive' => message.mpr ?_⟩
  -- the counts before this position are those after the one before it, which both cover
  obtain ⟨i, rfl⟩ := Nat.exists_eq_add_one_of_ne_zero positive.ne'
  obtain ⟨j, rfl⟩ := Nat.exists_eq_add_one_of_ne_zero positive'.ne'
  have longer := (List.getElem?_eq_some_iff.mp within).1
  have longer' := (List.getElem?_eq_some_iff.mp inside).1
  exact (entry i j _ _ (by omega) (List.getElem?_eq_getElem (by omega)) (List.getElem?_eq_getElem (by omega))).1

end Shared

theorem batches_comparable (batch more : List BatchMessage)
    (same : ∀ (i : Nat) (msg found : BatchMessage), batch[i]? = some msg → more[i]? = some found → msg = found) :
    batch <+: more ∨ more <+: batch := by
  rcases Nat.le_total batch.length more.length with shorter | longer
  · refine .inl (List.prefix_iff_getElem?.mpr fun i within => ?_)
    have inside := List.getElem?_eq_getElem (l := more) (i := i) (by omega)
    rw [inside, same i _ _ (List.getElem?_eq_getElem within) inside]
  · refine .inr (List.prefix_iff_getElem?.mpr fun i within => ?_)
    have inside := List.getElem?_eq_getElem (l := batch) (i := i) (by omega)
    rw [inside, same i _ _ inside (List.getElem?_eq_getElem within)]

theorem verified_issued (life : Life) (fed : Fed chain life.startingHotshotHeight life.rounds life.events)
    (reads : ∀ event ∈ life.events, FromChain chain event) (data : Bytes) (fetched : Option (Except String BatchCursor))
    (batch : List BatchMessage) (parsed : parseBatch rlp brotli data = .ok batch)
    (success : (handleVerification rlp brotli fetched data (life.state external nitroConfig life.events).queue).success = true)
    (downstreamCert : Bytes) (certificate : CasCertificate)
    (signed : certificate.arguments =
      certificateArguments (handleVerification rlp brotli fetched data (life.state external nitroConfig life.events).queue) downstreamCert)
    (unfinalized : (life.state external nitroConfig life.events).finalizedIdx < (verificationContext fetched).nextBatchStartPos)
    (held : RangeHeld (life.state external nitroConfig life.events).queue (verificationContext fetched).nextBatchStartPos batch.length) :
    Issued rlp brotli external nitroConfig chain life data (verificationContext fetched) batch certificate := by
  have sourced := run_streamer_sourced life.streamer (nitroRollup external nitroConfig).toRollup
    (fun entry => AuthenticMessage external nitroConfig entry.feedMessage) (parsed_authentic external nitroConfig) life.finalizedIdx
    life.events
  obtain ⟨other, pos, certified⟩ := certified_by_outcome rlp brotli external nitroConfig _ sourced.inv.sorted sourced.queue fetched data
    success downstreamCert certificate signed
  obtain rfl := Except.ok.inj (certified.parsed.symm.trans parsed)
  exact ⟨fed, reads, life.events, pos, List.prefix_refl _, certified, unfinalized, held⟩

end Certificates

-- One service certifies both messages of the block, another, which read it from the block before on, the second alone.
def openingChain : Chain Bytes := fun height => if height = 1 then [v1Payload [openingJson, delayedJson]] else []

def openingRound : PollRound Bytes := ⟨.ok 2, fun start stop => .ok (blocksFrom openingChain start (stop.toNat - start.toNat)), true⟩

def openingLife (start : UInt64) (count slots : Nat) : Life :=
  ⟨⟨1, slots⟩, start, 0, [openingRound], [.hotshotTransactions (blocksFrom openingChain start count) start fun _ => .accepted]⟩

theorem opening_block :
    entriesAt (nitroRollup openingExternal openingConfig) openingChain 1 = [⟨openingMessage, 1⟩, ⟨delayedMessage, 1⟩] := by
  decide +kernel

theorem opening_block_empty (height : UInt64) (elsewhere : height ≠ 1) :
    entriesAt (nitroRollup openingExternal openingConfig) openingChain height = [] := by
  have empty : openingChain height = [] := if_neg elsewhere
  rw [entriesAt, empty]
  rfl

theorem opening_chain_unequivocal : Unequivocal (nitroRollup openingExternal openingConfig) openingChain := by
  intro height
  by_cases here : height = 1
  · rw [here, opening_block]
    decide +kernel
  · rw [opening_block_empty height here]
    exact fun _ member => absurd member List.not_mem_nil

theorem opening_life_fed (start : UInt64) (count slots : Nat)
    (sent : (polled start [openingRound]).sent.map (fun delivery => (delivery.transactions, delivery.fromBlock)) =
      [(blocksFrom openingChain start count, start)]) :
    Fed openingChain start (openingLife start count slots).rounds (openingLife start count slots).events := by
  refine ⟨fun round member first last transactions answered => ?_, sent.symm⟩
  rw [List.mem_singleton.mp member] at answered
  exact (Except.ok.inj answered).symm

theorem opening_life_reads (start : UInt64) (count slots : Nat) :
    ∀ event ∈ (openingLife start count slots).events, FromChain openingChain event := by
  intro event member
  rw [List.mem_singleton.mp member]
  exact congrArg (blocksFrom openingChain start) (length_blocks_from openingChain start count).symm

theorem opening_life_state (start : UInt64) (count slots : Nat)
    (read : (heightsFrom start count).flatMap (entriesAt (nitroRollup openingExternal openingConfig) openingChain) =
      [⟨openingMessage, 1⟩, ⟨delayedMessage, 1⟩]) :
    (openingLife start count slots).state openingExternal openingConfig (openingLife start count slots).events =
      tryBroadcastFeedMessage (nitroRollup openingExternal openingConfig).toRollup (fun _ => .accepted)
        (filterMessages ⟨1, slots⟩ (.new 0) [⟨openingMessage, 1⟩, ⟨delayedMessage, 1⟩]) := by
  rw [← read, ← parse_blocks_from]
  rfl

theorem opening_block_read :
    (heightsFrom 1 1).flatMap (entriesAt (nitroRollup openingExternal openingConfig) openingChain) =
      [⟨openingMessage, 1⟩, ⟨delayedMessage, 1⟩] := by
  rw [show heightsFrom 1 1 = [1] from rfl, List.flatMap_singleton, opening_block]

theorem opening_blocks_read :
    (heightsFrom 0 2).flatMap (entriesAt (nitroRollup openingExternal openingConfig) openingChain) =
      [⟨openingMessage, 1⟩, ⟨delayedMessage, 1⟩] := by
  rw [show heightsFrom 0 2 = [0, 1] from rfl, List.flatMap_cons, opening_block_empty 0 (by decide), List.flatMap_singleton, opening_block]
  rfl

def delayedSignature : Signature :=
  ⟨0xd66a4be096134b9c0faa15fe1c8e5682dd3b43fb1d592cc869bb3611c4199d74#256,
    0x1a491a8fbb6bf48f5ffee02f8860668df5de5967460e90c27943a2e50bef8a12#256, true⟩

def delayedCertificate : CasCertificate :=
  ⟨v0Header, 2, 2, 1, 2, 0, firstCrypto.signatureAsBytes delayedSignature, brotliHeaderByte :: delayedStream⟩

theorem pair_certificate_issued :
    Issued Rlp.stringCodec openingBrotli openingExternal openingConfig openingChain (openingLife 1 1 2) (brotliHeaderByte :: pairStream)
      ⟨1, 1⟩ [.l2Msg [0xde, 0xad, 0xbe, 0xef], .delayedMsg] pairCertificate := by
  have state := opening_life_state 1 1 2 opening_block_read
  refine verified_issued Rlp.stringCodec openingBrotli openingExternal openingConfig openingChain (openingLife 1 1 2)
    (opening_life_fed 1 1 2 rfl) (opening_life_reads 1 1 2) _ (some (.ok ⟨1, 1⟩)) _ (by decide +kernel) ?_ pairArguments.downstreamCert _ ?_
    ?_ ?_
  · rw [state]
    decide +kernel
  · rw [state]
    decide +kernel
  · rw [state]
    decide +kernel
  · rw [state, RangeHeld]
    decide +kernel

theorem delayed_certificate_issued :
    Issued Rlp.stringCodec openingBrotli openingExternal openingConfig openingChain (openingLife 0 2 3) (brotliHeaderByte :: delayedStream)
      ⟨1, 2⟩ [.delayedMsg] delayedCertificate := by
  have state := opening_life_state 0 2 3 opening_blocks_read
  refine verified_issued Rlp.stringCodec openingBrotli openingExternal openingConfig openingChain (openingLife 0 2 3)
    (opening_life_fed 0 2 3 rfl) (opening_life_reads 0 2 3) _ (some (.ok ⟨1, 2⟩)) _ (by decide +kernel) ?_
    delayedCertificate.downstreamCertificate _ ?_ ?_ ?_
  · rw [state]
    decide +kernel
  · rw [state]
    decide +kernel
  · rw [state]
    decide +kernel
  · rw [state, RangeHeld]
    decide +kernel

end Cas
