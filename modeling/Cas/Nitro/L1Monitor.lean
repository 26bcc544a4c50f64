import Cas.Lib.History
import Cas.Lib.SortedSlice
import Cas.Lib.Word64
import Cas.Nitro.Types

set_option autoImplicit false

namespace Cas

open Word64

inductive L1MonitorError where
  | contract (reason : String)
  | transport (reason : String)
  | checkpointNotFound (blocks : UInt64)
  deriving DecidableEq, Repr

-- A uint256 of a contract is narrowed with `to::<u64>()`, which panics when the value does not fit.
inductive L1Failure where
  | error (reason : L1MonitorError)
  | panicked
  deriving DecidableEq, Repr

def toU64 (value : U256) : Except L1Failure UInt64 :=
  if value.toNat < 2 ^ 64 then .ok (UInt64.ofNat value.toNat) else .error .panicked

theorem to_u64_ok (value : U256) (fits : value.toNat < 2 ^ 64) : toU64 value = .ok (UInt64.ofNat value.toNat) :=
  if_pos fits

theorem to_u64_injective (a b : U256) (word : UInt64) (first : toU64 a = .ok word) (second : toU64 b = .ok word) : a = b := by
  have back : ∀ value : U256, toU64 value = .ok word → value.toNat = word.toNat := by
    intro value narrowed
    unfold toU64 at narrowed
    split at narrowed
    · rename_i fits
      obtain rfl := Except.ok.inj narrowed
      rw [UInt64.toNat_ofNat_of_lt' fits]
    · cases narrowed
  exact BitVec.eq_of_toNat_eq ((back a first).trans (back b second).symm)

structure EspressoCertificateVerified where
  hotshotBlock : U256
  delayedMessageRead : U256
  messageCount : U256
  deriving DecidableEq, Repr

def EspressoCertificateVerified.Fits (event : EspressoCertificateVerified) : Prop :=
  event.hotshotBlock.toNat < 2 ^ 64 ∧ event.delayedMessageRead.toNat < 2 ^ 64 ∧ event.messageCount.toNat < 2 ^ 64

structure CasCheckpoint where
  batchCursor : BatchCursor
  hotshotHeight : UInt64
  deriving DecidableEq, Repr

structure LogScanner (Log : Type) where
  getBlockNumber : Except L1MonitorError UInt64
  getLogs : UInt64 → UInt64 → Except L1MonitorError (List Log)

section Scan

variable {Log : Type} (scanner : LogScanner Log) (decodeLog : Log → Except String EspressoCertificateVerified)

def checkpointOf (log : Log) : Except L1Failure CasCheckpoint :=
  match decodeLog log with
  | .error reason => .error (.error (.contract reason))
  | .ok event => do
      let hotshotHeight ← toU64 event.hotshotBlock
      let delayedMessageRead ← toU64 event.delayedMessageRead
      let messageCount ← toU64 event.messageCount
      return ⟨⟨delayedMessageRead, messageCount⟩, hotshotHeight⟩

def earliestAllowed (latestBlock maxL1BlocksToScanOnStartup : UInt64) : UInt64 :=
  if 0 < maxL1BlocksToScanOnStartup then saturatingSub latestBlock (maxL1BlocksToScanOnStartup - 1) else 0

def fromBlock (logScanStep earliest toBlock : UInt64) : UInt64 := max (saturatingSub toBlock logScanStep) earliest

theorem from_block_toNat (logScanStep earliest toBlock : UInt64) :
    (fromBlock logScanStep earliest toBlock).toNat = max (toBlock.toNat - logScanStep.toNat) earliest.toNat := by
  rw [fromBlock, toNat_max, toNat_saturating_sub]

theorem from_block_above (logScanStep earliest toBlock : UInt64) : earliest ≤ fromBlock logScanStep earliest toBlock := le_max_right _ _

theorem from_block_below (logScanStep earliest toBlock : UInt64) (above : earliest ≤ toBlock) :
    fromBlock logScanStep earliest toBlock ≤ toBlock := by
  have value := from_block_toNat logScanStep earliest toBlock
  have given := UInt64.le_iff_toNat_le.mp above
  exact UInt64.le_iff_toNat_le.mpr (by omega)

theorem next_to_block (logScanStep earliest toBlock : UInt64) (more : fromBlock logScanStep earliest toBlock ≠ earliest) :
    earliest.toNat < (fromBlock logScanStep earliest toBlock).toNat ∧
    (fromBlock logScanStep earliest toBlock).toNat ≤ toBlock.toNat ∧
    (saturatingSub (fromBlock logScanStep earliest toBlock) 1).toNat + 1 = (fromBlock logScanStep earliest toBlock).toNat := by
  have value := from_block_toNat logScanStep earliest toBlock
  have apart : (fromBlock logScanStep earliest toBlock).toNat ≠ earliest.toNat := fun same => more (UInt64.toNat_inj.mp same)
  have next := toNat_saturating_sub (fromBlock logScanStep earliest toBlock) 1
  have one : (1 : UInt64).toNat = 1 := rfl
  omega

structure Scan where
  windows : List (UInt64 × UInt64)
  result : Except L1Failure CasCheckpoint

def scanLoop (logScanStep maxL1BlocksToScanOnStartup earliest toBlock : UInt64) : Scan :=
  let start := fromBlock logScanStep earliest toBlock
  match scanner.getLogs start toBlock with
  | .error reason => ⟨[(start, toBlock)], .error (.error reason)⟩
  | .ok logs =>
      match logs.getLast? with
      | some log => ⟨[(start, toBlock)], checkpointOf decodeLog log⟩
      | none =>
          if _ : fromBlock logScanStep earliest toBlock = earliest then
            ⟨[(start, toBlock)],
              if 0 < maxL1BlocksToScanOnStartup then .error (.error (.checkpointNotFound maxL1BlocksToScanOnStartup))
              else .ok ⟨BatchCursor.default, 0⟩⟩
          else
            let rest := scanLoop logScanStep maxL1BlocksToScanOnStartup earliest (saturatingSub start 1)
            ⟨(start, toBlock) :: rest.windows, rest.result⟩
termination_by toBlock.toNat
decreasing_by
  have bounds := next_to_block logScanStep earliest toBlock (by assumption)
  omega

def scanForLatestCheckpoint (logScanStep maxL1BlocksToScanOnStartup : UInt64) : Scan :=
  match scanner.getBlockNumber with
  | .error reason => ⟨[], .error (.error reason)⟩
  | .ok latestBlock =>
      scanLoop scanner decodeLog logScanStep maxL1BlocksToScanOnStartup
        (earliestAllowed latestBlock maxL1BlocksToScanOnStartup) latestBlock

structure Descends (earliest head : UInt64) (windows : List (UInt64 × UInt64)) : Prop where
  top : windows.head?.map Prod.snd = some head
  bounds : ∀ window ∈ windows, earliest ≤ window.1 ∧ window.1 ≤ window.2
  contiguous : windows.IsChain fun window next => next.2.toNat + 1 = window.1.toNat
  disjoint : windows.Pairwise fun window next => next.2 < window.1

theorem descends_single (earliest start head : UInt64) (above : earliest ≤ start) (below : start ≤ head) :
    Descends earliest head [(start, head)] where
  top := rfl
  bounds window member := by
    obtain rfl := List.mem_singleton.mp member
    exact ⟨above, below⟩
  contiguous := List.isChain_singleton _
  disjoint := List.pairwise_singleton _ _

theorem descends_below (earliest head : UInt64) (windows : List (UInt64 × UInt64)) (down : Descends earliest head windows)
    (window : UInt64 × UInt64) (member : window ∈ windows) : window.2 ≤ head := by
  cases windows with
  | nil => cases member
  | cons first later =>
      have top : first.2 = head := Option.some.inj down.top
      rcases List.mem_cons.mp member with rfl | inside
      · exact top.le
      · have less := (List.pairwise_cons.mp down.disjoint).1 window inside
        have inner := (down.bounds first (by simp)).2
        exact top ▸ (le_of_lt less).trans inner

theorem descends_cons (earliest start head next : UInt64) (windows : List (UInt64 × UInt64)) (down : Descends earliest next windows)
    (above : earliest ≤ start) (below : start ≤ head) (adjacent : next.toNat + 1 = start.toNat) :
    Descends earliest head ((start, head) :: windows) where
  top := rfl
  bounds window member := by
    rcases List.mem_cons.mp member with rfl | inside
    · exact ⟨above, below⟩
    · exact down.bounds window inside
  contiguous := by
    refine List.isChain_cons.mpr ⟨fun window first => ?_, down.contiguous⟩
    have top : window.2 = next := by
      have value := down.top
      rw [Option.mem_def.mp first] at value
      exact Option.some.inj value
    rw [top]
    exact adjacent
  disjoint := by
    refine List.pairwise_cons.mpr ⟨fun window member => ?_, down.disjoint⟩
    have bound := UInt64.le_iff_toNat_le.mp (descends_below earliest next windows down window member)
    refine UInt64.lt_iff_toNat_lt.mpr ?_
    change window.2.toNat < start.toNat
    omega

theorem scan_loop_descends (logScanStep maxBlocks earliest toBlock : UInt64) (above : earliest ≤ toBlock) :
    Descends earliest toBlock (scanLoop scanner decodeLog logScanStep maxBlocks earliest toBlock).windows := by
  have low := from_block_above logScanStep earliest
  have high := from_block_below logScanStep earliest
  fun_induction scanLoop scanner decodeLog logScanStep maxBlocks earliest toBlock with
  | case1 block start reason failed => exact descends_single earliest _ block (low block) (high block above)
  | case2 block start logs answered log last => exact descends_single earliest _ block (low block) (high block above)
  | case3 block start logs answered none more => exact descends_single earliest _ block (low block) (high block above)
  | case4 block start logs answered none more rest ih =>
      have bounds := next_to_block logScanStep earliest block more
      have inside : earliest.toNat ≤ (saturatingSub (fromBlock logScanStep earliest block) 1).toNat := by omega
      exact descends_cons earliest start block _ _ (ih (UInt64.le_iff_toNat_le.mpr inside)) (low block) (high block above) bounds.2.2

def eventsIn (events : List (UInt64 × Log)) (low high : UInt64) : List (UInt64 × Log) :=
  events.filter fun placed => low ≤ placed.1 ∧ placed.1 ≤ high

def ChainOrder (events : List (UInt64 × Log)) : Prop := events.Pairwise fun earlier later => earlier.1 ≤ later.1

def Answers (events : List (UInt64 × Log)) : Prop :=
  ∀ low high, scanner.getLogs low high = .ok ((eventsIn events low high).map Prod.snd)

def notFound (maxL1BlocksToScanOnStartup : UInt64) : Except L1Failure CasCheckpoint :=
  if 0 < maxL1BlocksToScanOnStartup then .error (.error (.checkpointNotFound maxL1BlocksToScanOnStartup))
  else .ok ⟨BatchCursor.default, 0⟩

theorem events_in_split (events : List (UInt64 × Log)) (ordered : ChainOrder events) (low start high next : UInt64)
    (above : low ≤ start) (below : start ≤ high) (adjacent : next.toNat + 1 = start.toNat) :
    eventsIn events low high = eventsIn events low next ++ eventsIn events start high := by
  have same : eventsIn events low next = events.filter fun placed => low ≤ placed.1 ∧ placed.1 < start := by
    refine List.filter_congr fun placed _ => ?_
    simp only [decide_eq_decide, UInt64.le_iff_toNat_le, UInt64.lt_iff_toNat_lt]
    omega
  rw [same]
  exact SortedSlice.filter_range_split Prod.fst low start high events ordered above below

theorem events_in_last (events : List (UInt64 × Log)) (ordered : ChainOrder events) (low start high : UInt64)
    (above : low ≤ start) (below : start ≤ high) (placed : UInt64 × Log) (last : (eventsIn events start high).getLast? = some placed) :
    (eventsIn events low high).getLast? = some placed := by
  have split := SortedSlice.filter_range_split Prod.fst low start high events ordered above below
  change eventsIn events low high = _ ++ eventsIn events start high at split
  rw [split, List.getLast?_append, last]
  rfl

theorem scan_loop_result (events : List (UInt64 × Log)) (ordered : ChainOrder events) (answers : Answers scanner events)
    (logScanStep maxBlocks earliest toBlock : UInt64) (above : earliest ≤ toBlock) :
    (scanLoop scanner decodeLog logScanStep maxBlocks earliest toBlock).result =
      match (eventsIn events earliest toBlock).getLast? with
      | some placed => checkpointOf decodeLog placed.2
      | none => notFound maxBlocks := by
  fun_induction scanLoop scanner decodeLog logScanStep maxBlocks earliest toBlock with
  | case1 block start reason failed =>
      rw [answers] at failed
      cases failed
  | case2 block start logs answered log last =>
      -- The window's last event is the last of everything below it as well.
      rw [answers] at answered
      obtain rfl := Except.ok.inj answered
      rw [List.getLast?_map, Option.map_eq_some_iff] at last
      obtain ⟨placed, found, rfl⟩ := last
      have whole := events_in_last events ordered earliest start block (from_block_above _ _ _) (from_block_below _ _ _ above) placed found
      simp only [whole]
  | case3 block start logs answered empty same =>
      rw [answers] at answered
      obtain rfl := Except.ok.inj answered
      rw [List.getLast?_map, Option.map_eq_none_iff] at empty
      change (eventsIn events (fromBlock logScanStep earliest block) block).getLast? = none at empty
      rw [same] at empty
      simp only [empty, notFound]
  | case4 block start logs answered empty more rest ih =>
      -- An empty window is passed over: the range shrinks to what lies below it.
      have bounds := next_to_block logScanStep earliest block more
      rw [answers] at answered
      obtain rfl := Except.ok.inj answered
      rw [List.getLast?_map, Option.map_eq_none_iff, List.getLast?_eq_none_iff] at empty
      have shrunk := events_in_split events ordered earliest start block _ (from_block_above _ _ _)
        (from_block_below _ _ _ above) bounds.2.2
      rw [empty, List.append_nil] at shrunk
      have inside : earliest.toNat ≤ (saturatingSub (fromBlock logScanStep earliest block) 1).toNat := by omega
      rw [shrunk]
      exact ih (UInt64.le_iff_toNat_le.mpr inside)

theorem earliest_allowed_below (latestBlock maxBlocks : UInt64) : earliestAllowed latestBlock maxBlocks ≤ latestBlock := by
  rw [UInt64.le_iff_toNat_le]
  unfold earliestAllowed
  split
  · rw [toNat_saturating_sub]
    omega
  · exact Nat.zero_le _

def EspressoCertificateVerified.checkpoint (event : EspressoCertificateVerified) : CasCheckpoint :=
  ⟨⟨UInt64.ofNat event.delayedMessageRead.toNat, UInt64.ofNat event.messageCount.toNat⟩, UInt64.ofNat event.hotshotBlock.toNat⟩

theorem checkpoint_of_event (log : Log) (event : EspressoCertificateVerified) (decoded : decodeLog log = .ok event) (fits : event.Fits) :
    checkpointOf decodeLog log = .ok event.checkpoint := by
  simp only [checkpointOf, decoded, to_u64_ok _ fits.1, to_u64_ok _ fits.2.1, to_u64_ok _ fits.2.2]
  rfl

/-- The scan ends, asks for windows that tile the blocks downwards from the head, and returns the last event of the allowed range. -/
theorem scan_finds_last_checkpoint (head logScanStep maxBlocks : UInt64) (events : List (UInt64 × Log))
    (atHead : scanner.getBlockNumber = .ok head) (ordered : ChainOrder events) (answers : Answers scanner events)
    (decoded : ∀ placed ∈ events, ∃ event, decodeLog placed.2 = .ok event ∧ event.Fits) :
    Descends (earliestAllowed head maxBlocks) head (scanForLatestCheckpoint scanner decodeLog logScanStep maxBlocks).windows ∧
    match (eventsIn events (earliestAllowed head maxBlocks) head).getLast? with
    | some placed => ∃ event, decodeLog placed.2 = .ok event ∧
        (scanForLatestCheckpoint scanner decodeLog logScanStep maxBlocks).result = .ok event.checkpoint
    | none => (scanForLatestCheckpoint scanner decodeLog logScanStep maxBlocks).result =
        if maxBlocks = 0 then .ok ⟨BatchCursor.default, 0⟩ else .error (.error (.checkpointNotFound maxBlocks)) := by
  have unfolded : scanForLatestCheckpoint scanner decodeLog logScanStep maxBlocks =
      scanLoop scanner decodeLog logScanStep maxBlocks (earliestAllowed head maxBlocks) head := by
    rw [scanForLatestCheckpoint, atHead]
  have below := earliest_allowed_below head maxBlocks
  have result := scan_loop_result scanner decodeLog events ordered answers logScanStep maxBlocks _ head below
  rw [unfolded]
  constructor
  · exact scan_loop_descends scanner decodeLog logScanStep maxBlocks _ head below
  · cases last : (eventsIn events (earliestAllowed head maxBlocks) head).getLast? with
    | some placed =>
        have member : placed ∈ events := (List.mem_filter.mp (List.mem_of_getLast? last)).1
        obtain ⟨event, read, fits⟩ := decoded placed member
        rw [last] at result
        exact ⟨event, read, result.trans (checkpoint_of_event decodeLog placed.2 event read fits)⟩
    | none =>
        rw [last] at result
        rw [result, notFound]
        by_cases zero : maxBlocks = 0
        · rw [if_pos zero, if_neg (by rw [zero]; decide)]
        · rw [if_neg zero, if_pos (UInt64.pos_iff_ne_zero.mpr zero)]

end Scan

-- The data of the event is three 32-byte words.
def decodeEventData (data : Bytes) : Except String EspressoCertificateVerified :=
  if data.length = 96 then
    .ok ⟨BitVec.ofNat 256 (BigEndian.decode (data.take 32)), BitVec.ofNat 256 (BigEndian.decode ((data.drop 32).take 32)),
      BitVec.ofNat 256 (BigEndian.decode (data.drop 64))⟩
  else .error "type check failed"

def eventData (hotshot delayed count : Nat) : Bytes :=
  BigEndian.encode 32 hotshot ++ BigEndian.encode 32 delayed ++ BigEndian.encode 32 count

def twoEvents : List (UInt64 × Bytes) := [(200, eventData 12 1 30), (7500, eventData 99 3 250)]

def twoEventScanner : LogScanner Bytes := ⟨.ok 10000, fun low high => .ok ((eventsIn twoEvents low high).map Prod.snd)⟩

theorem scan_finds_last_checkpoint_two_events :
    Descends 0 10000 (scanForLatestCheckpoint twoEventScanner decodeEventData 1000 0).windows ∧
    (scanForLatestCheckpoint twoEventScanner decodeEventData 1000 0).result = .ok ⟨⟨3, 250⟩, 99⟩ := by
  have decoded : ∀ placed ∈ twoEvents, ∃ event, decodeEventData placed.2 = .ok event ∧ event.Fits := by
    intro placed member
    rcases List.mem_cons.mp member with rfl | later
    · exact ⟨⟨12, 1, 30⟩, by decide +kernel, by decide, by decide, by decide⟩
    · obtain rfl := List.mem_singleton.mp later
      exact ⟨⟨99, 3, 250⟩, by decide +kernel, by decide, by decide, by decide⟩
  have found := scan_finds_last_checkpoint twoEventScanner decodeEventData 10000 1000 0 twoEvents rfl
    (by simp [ChainOrder, twoEvents]) (fun _ _ => rfl) decoded
  have last : (eventsIn twoEvents (earliestAllowed 10000 0) 10000).getLast? = some (7500, eventData 99 3 250) := by decide +kernel
  rw [last] at found
  obtain ⟨down, event, read, result⟩ := found
  have known : decodeEventData (eventData 99 3 250) = .ok ⟨99, 3, 250⟩ := by decide +kernel
  obtain rfl := Except.ok.inj (read.symm.trans known)
  exact ⟨down, result⟩

example : (scanForLatestCheckpoint twoEventScanner decodeEventData 1000 0).windows = [(9000, 10000), (7999, 8999), (6998, 7998)] := by
  decide +kernel

structure L1Block where
  sequencerReportedSubMessageCount : U256
  totalDelayedMessagesRead : U256
  deriving DecidableEq, Repr

def L1Block.Fits (block : L1Block) : Prop :=
  block.sequencerReportedSubMessageCount.toNat < 2 ^ 64 ∧ block.totalDelayedMessagesRead.toNat < 2 ^ 64

inductive L1Change where
  | mined (block : L1Block)
  | reorg (depth : Nat)
  deriving DecidableEq, Repr

-- A chain stands newest block first, without its first block, which no reorg drops.
def L1Change.apply (chain : List L1Block) : L1Change → List L1Block
  | .mined block => block :: chain
  | .reorg depth => chain.drop depth

def L1Change.block : L1Change → Option L1Block
  | .mined block => some block
  | .reorg _ => none

inductive CursorEvent where
  | l1 (change : L1Change)
  | messageCountRead
  | delayedMessagesReadRead
  | callFailed
  deriving DecidableEq, Repr

-- `history` keeps every block that was ever part of the chain, and a read keeps the block it was answered from.
structure CursorFetch where
  genesis : L1Block
  chain : List L1Block
  history : List L1Block
  countHead : Option L1Block
  delayedHead : Option L1Block
  failed : Bool
  deriving DecidableEq, Repr

def CursorFetch.init (genesis : L1Block) (chain dropped : List L1Block) : CursorFetch :=
  ⟨genesis, chain, chain ++ genesis :: dropped, none, none, false⟩

def CursorFetch.latest (state : CursorFetch) : L1Block := state.chain.headD state.genesis

def stepCursor (state : CursorFetch) : CursorEvent → CursorFetch
  | .l1 change => { state with chain := change.apply state.chain, history := change.block.toList ++ state.history }
  | .messageCountRead => if state.countHead.isNone then { state with countHead := some state.latest } else state
  | .delayedMessagesReadRead => if state.delayedHead.isNone then { state with delayedHead := some state.latest } else state
  | .callFailed => { state with failed := true }

-- The two calls are joined: the cursor is there when both are answered, and not at all when one fails.
def fetchBatchCursor (state : CursorFetch) : Option (Except L1Failure BatchCursor) :=
  match state.failed, state.countHead, state.delayedHead with
  | false, some counted, some delayed => some do
      let msgCount ← toU64 counted.sequencerReportedSubMessageCount
      let delayedRead ← toU64 delayed.totalDelayedMessagesRead
      return ⟨delayedRead, msgCount⟩
  | _, _, _ => none

-- The two calls in either order, with what happens on L1 before, between and after them.
def interleaving (countFirst : Bool) (before between after : List L1Change) : List CursorEvent :=
  before.map .l1 ++ (if countFirst then .messageCountRead else .delayedMessagesReadRead) ::
    (between.map .l1 ++ (if countFirst then .delayedMessagesReadRead else .messageCountRead) :: after.map .l1)

def L1Block.HasCursor (block : L1Block) (cursor : BatchCursor) : Prop :=
  toU64 block.sequencerReportedSubMessageCount = .ok cursor.nextBatchStartPos ∧
  toU64 block.totalDelayedMessagesRead = .ok cursor.lastBatchDelayedMessagesRead

def L1Block.cursor (block : L1Block) : BatchCursor :=
  ⟨UInt64.ofNat block.totalDelayedMessagesRead.toNat, UInt64.ofNat block.sequencerReportedSubMessageCount.toNat⟩

theorem has_cursor_of_fits (block : L1Block) (fits : block.Fits) : block.HasCursor block.cursor :=
  ⟨to_u64_ok _ fits.1, to_u64_ok _ fits.2⟩

theorem has_cursor_unique (block other : L1Block) (cursor : BatchCursor) (first : block.HasCursor cursor) (second : other.HasCursor cursor) :
    block = other := by
  have count := to_u64_injective _ _ _ first.1 second.1
  have delayed := to_u64_injective _ _ _ first.2 second.2
  cases block
  cases other
  simp_all only

structure Fork where
  dropped : Nat
  mined : List L1Block
  deriving DecidableEq, Repr

def Fork.step (fork : Fork) : L1Change → Fork
  | .mined block => { fork with mined := block :: fork.mined }
  | .reorg depth => ⟨fork.dropped + (depth - fork.mined.length), fork.mined.drop depth⟩

def forkOf (changes : List L1Change) : Fork := History.run Fork.step ⟨0, []⟩ changes

theorem fork_of_chain (chain : List L1Block) (changes : List L1Change) :
    History.run L1Change.apply chain changes = (forkOf changes).mined ++ chain.drop (forkOf changes).dropped := by
  refine History.run_simulates L1Change.apply Fork.step (fun now fork => now = fork.mined ++ chain.drop fork.dropped) ?_ chain ⟨0, []⟩
    changes rfl
  rintro now fork (block | depth) rfl
  · rfl
  · rw [L1Change.apply, Fork.step, List.drop_append, List.drop_drop, Nat.add_comm]

theorem fork_mined (changes : List L1Change) : ∀ block ∈ (forkOf changes).mined, block ∈ changes.filterMap L1Change.block := by
  refine History.run_invariant Fork.step (fun fork => ∀ block ∈ fork.mined, block ∈ changes.filterMap L1Change.block) (· ∈ changes) ?_
    ⟨0, []⟩ changes (fun _ member => member) (fun _ member => absurd member List.not_mem_nil)
  rintro fork (mined | depth) member known block inside
  · rcases List.mem_cons.mp inside with rfl | older
    · exact List.mem_filterMap.mpr ⟨_, member, rfl⟩
    · exact known block older
  · exact known block (List.mem_of_mem_drop inside)

def mixedPair (countFirst : Bool) (early late : L1Block) : L1Block :=
  if countFirst then ⟨early.sequencerReportedSubMessageCount, late.totalDelayedMessagesRead⟩
  else ⟨late.sequencerReportedSubMessageCount, early.totalDelayedMessagesRead⟩

theorem run_changes (state : CursorFetch) (changes : List L1Change) :
    History.run stepCursor state (changes.map .l1) =
      { state with
        chain := History.run L1Change.apply state.chain changes
        history := (changes.filterMap L1Change.block).reverse ++ state.history } := by
  induction changes generalizing state with
  | nil => rfl
  | cons change later ih =>
      rw [List.map_cons, History.run_cons, ih, stepCursor, History.run_cons]
      cases change <;> simp [L1Change.block, List.filterMap_cons]

section Calls

variable (countFirst : Bool) (genesis : L1Block) (chain dropped : List L1Block) (before between after : List L1Change)

theorem interleaving_history (block : L1Block) :
    block ∈ (History.run stepCursor (CursorFetch.init genesis chain dropped) (interleaving countFirst before between after)).history ↔
      block ∈ (before ++ (between ++ after)).filterMap L1Change.block ∨ block = genesis ∨ block ∈ chain ∨ block ∈ dropped := by
  cases countFirst <;>
    simp only [interleaving, History.run_append, History.run_cons, run_changes, stepCursor, CursorFetch.init, Option.isNone_none, if_true,
      if_false, Bool.false_eq_true, List.filterMap_append, List.mem_append, List.mem_reverse, List.mem_cons] <;> tauto

theorem interleaving_cursor (cursor : BatchCursor) :
    fetchBatchCursor (History.run stepCursor (CursorFetch.init genesis chain dropped) (interleaving countFirst before between after)) =
        some (.ok cursor) ↔
      (mixedPair countFirst ((History.run L1Change.apply chain before).headD genesis)
        ((History.run L1Change.apply (History.run L1Change.apply chain before) between).headD genesis)).HasCursor cursor := by
  have joined : ∀ counted delayed : L1Block,
      (some do
        let msgCount ← toU64 counted.sequencerReportedSubMessageCount
        let delayedRead ← toU64 delayed.totalDelayedMessagesRead
        return (⟨delayedRead, msgCount⟩ : BatchCursor)) = some (.ok cursor) ↔
      toU64 counted.sequencerReportedSubMessageCount = .ok cursor.nextBatchStartPos ∧
        toU64 delayed.totalDelayedMessagesRead = .ok cursor.lastBatchDelayedMessagesRead := by
    intro counted delayed
    cases cursor
    cases toU64 counted.sequencerReportedSubMessageCount with
    | error reason => simp [bind, Except.bind]
    | ok msgCount =>
        cases toU64 delayed.totalDelayedMessagesRead with
        | error reason => simp [bind, Except.bind]
        | ok delayedRead => simp [bind, Except.bind, pure, Except.pure, and_comm]
  cases countFirst <;>
    simp only [interleaving, History.run_append, History.run_cons, run_changes, stepCursor, CursorFetch.init, CursorFetch.latest,
      Option.isNone_none, if_true, if_false, Bool.false_eq_true, fetchBatchCursor, mixedPair, L1Block.HasCursor] <;>
    exact joined _ _

end Calls

def Harmless (countFirst : Bool) (latest : L1Block) (between : List L1Change) : Prop :=
  match (forkOf between).mined with
  | [] => (forkOf between).dropped = 0
  | newest :: _ =>
      newest.sequencerReportedSubMessageCount = latest.sequencerReportedSubMessageCount ∨
      newest.totalDelayedMessagesRead = latest.totalDelayedMessagesRead ∨
      mixedPair countFirst latest newest ∈ between.filterMap L1Change.block

theorem mixed_pair_eq_early (countFirst : Bool) (early late : L1Block) :
    mixedPair countFirst early late = early ↔
      if countFirst then late.totalDelayedMessagesRead = early.totalDelayedMessagesRead
      else late.sequencerReportedSubMessageCount = early.sequencerReportedSubMessageCount := by
  cases countFirst <;> cases early <;> cases late <;> simp [mixedPair]

theorem mixed_pair_eq_late (countFirst : Bool) (early late : L1Block) :
    mixedPair countFirst early late = late ↔
      if countFirst then late.sequencerReportedSubMessageCount = early.sequencerReportedSubMessageCount
      else late.totalDelayedMessagesRead = early.totalDelayedMessagesRead := by
  cases countFirst <;> cases early <;> cases late <;> simp [mixedPair, eq_comm]

theorem mixed_pair_fits (countFirst : Bool) (early late : L1Block) (fits : early.Fits) (lateFits : late.Fits) :
    (mixedPair countFirst early late).Fits := by
  cases countFirst with
  | false => exact ⟨lateFits.1, fits.2⟩
  | true => exact ⟨fits.1, lateFits.2⟩

theorem mixed_pair_apart (countFirst : Bool) (early late : L1Block)
    (count : late.sequencerReportedSubMessageCount ≠ early.sequencerReportedSubMessageCount)
    (delayed : late.totalDelayedMessagesRead ≠ early.totalDelayedMessagesRead) :
    mixedPair countFirst early late ≠ early ∧ mixedPair countFirst early late ≠ late := by
  rw [Ne, Ne, mixed_pair_eq_early, mixed_pair_eq_late]
  cases countFirst with
  | false => exact ⟨count, delayed⟩
  | true => exact ⟨delayed, count⟩

theorem harmless_pair (countFirst : Bool) (genesis : L1Block) (chain : List L1Block) (between : List L1Change)
    (harmless : Harmless countFirst (chain.headD genesis) between) :
    let pair := mixedPair countFirst (chain.headD genesis) ((History.run L1Change.apply chain between).headD genesis)
    pair = chain.headD genesis ∨ pair ∈ between.filterMap L1Change.block := by
  intro pair
  have mined := fork_mined between
  simp only [pair, fork_of_chain]
  unfold Harmless at harmless
  cases top : (forkOf between).mined with
  | nil =>
      rw [top] at harmless
      rw [harmless, List.nil_append, List.drop_zero, mixed_pair_eq_early]
      cases countFirst <;> exact .inl rfl
  | cons newest older =>
      rw [top] at harmless mined
      rw [List.cons_append, List.headD_cons]
      have there : newest ∈ between.filterMap L1Change.block := mined newest (List.mem_cons_self ..)
      rcases harmless with count | delayed | other
      · cases countFirst with
        | true => exact .inr (by rw [(mixed_pair_eq_late true _ _).mpr count]; exact there)
        | false => exact .inl ((mixed_pair_eq_early false _ _).mpr count)
      · cases countFirst with
        | true => exact .inl ((mixed_pair_eq_early true _ _).mpr delayed)
        | false => exact .inr (by rw [(mixed_pair_eq_late false _ _).mpr delayed]; exact there)
      · exact .inr other

theorem head_in_history (countFirst : Bool) (genesis : L1Block) (chain dropped : List L1Block) (before between after : List L1Change) :
    (History.run L1Change.apply chain before).headD genesis ∈
      (History.run stepCursor (CursorFetch.init genesis chain dropped) (interleaving countFirst before between after)).history := by
  rw [interleaving_history, fork_of_chain]
  cases top : (forkOf before).mined with
  | cons newest older =>
      have there := fork_mined before newest (by rw [top]; exact List.mem_cons_self ..)
      rw [List.filterMap_append]
      exact .inl (List.mem_append_left _ there)
  | nil =>
      rw [List.nil_append]
      cases rest : chain.drop (forkOf before).dropped with
      | nil => exact .inr (.inl rfl)
      | cons newest older =>
          exact .inr (.inr (.inl (List.mem_of_mem_drop (rest ▸ List.mem_cons_self ..))))

theorem fresh_word (known : List Nat) (few : known.length < 2 ^ 64) : ∃ value < 2 ^ 64, value ∉ known := by
  have small : known.toFinset.card < (Finset.range (2 ^ 64)).card := by
    rw [Finset.card_range]
    exact lt_of_le_of_lt (List.toFinset_card_le known) few
  obtain ⟨value, inside, fresh⟩ := Finset.exists_mem_notMem_of_card_lt_card small
  exact ⟨value, Finset.mem_range.mp inside, fun member => fresh (List.mem_toFinset.mpr member)⟩

theorem fresh_block (known : List L1Block) (few : known.length < 2 ^ 64) :
    ∃ fresh : L1Block, fresh.Fits ∧ ∀ block ∈ known, block.sequencerReportedSubMessageCount ≠ fresh.sequencerReportedSubMessageCount ∧
      block.totalDelayedMessagesRead ≠ fresh.totalDelayedMessagesRead := by
  obtain ⟨count, countFits, newCount⟩ := fresh_word (known.map fun block => block.sequencerReportedSubMessageCount.toNat) (by simpa using few)
  obtain ⟨delayed, delayedFits, newDelayed⟩ := fresh_word (known.map fun block => block.totalDelayedMessagesRead.toNat) (by simpa using few)
  have wide : ∀ value < 2 ^ 64, (BitVec.ofNat 256 value).toNat = value := by
    intro value fits
    rw [BitVec.toNat_ofNat, Nat.mod_eq_of_lt (lt_trans fits (by norm_num))]
  refine ⟨⟨BitVec.ofNat 256 count, BitVec.ofNat 256 delayed⟩, ⟨?_, ?_⟩, fun block member => ⟨fun same => ?_, fun same => ?_⟩⟩
  · exact (wide count countFits).symm ▸ countFits
  · exact (wide delayed delayedFits).symm ▸ delayedFits
  · exact newCount (List.mem_map.mpr ⟨block, member, by rw [same]; exact wide count countFits⟩)
  · exact newDelayed (List.mem_map.mpr ⟨block, member, by rw [same]; exact wide delayed delayedFits⟩)

theorem harmful_torn (countFirst : Bool) (latest : L1Block) (between : List L1Change) (fits : latest.Fits)
    (allFit : ∀ block ∈ between.filterMap L1Change.block, block.Fits) (few : between.length + 1 < 2 ^ 64)
    (harmful : ¬Harmless countFirst latest between) :
    ∃ genesis chain, chain.headD genesis = latest ∧
      let pair := mixedPair countFirst latest ((History.run L1Change.apply chain between).headD genesis)
      pair.Fits ∧ pair ∉ between.filterMap L1Change.block ∧ pair ≠ genesis ∧ pair ∉ chain := by
  unfold Harmless at harmful
  cases top : (forkOf between).mined with
  | cons newest older =>
      simp only [top, not_or] at harmful
      obtain ⟨count, delayed, other⟩ := harmful
      have there := fork_mined between newest (by rw [top]; exact List.mem_cons_self ..)
      refine ⟨latest, [], rfl, ?_⟩
      simp only [fork_of_chain, top, List.cons_append, List.headD_cons]
      exact ⟨mixed_pair_fits countFirst latest newest fits (allFit newest there), other,
        (mixed_pair_apart countFirst latest newest count delayed).1, List.not_mem_nil⟩
  | nil =>
      -- The latest block itself is dropped: below it the chain may go on with any numbers.
      simp only [top] at harmful
      obtain ⟨below, belowFits, apart⟩ := fresh_block (latest :: between.filterMap L1Change.block)
        (lt_of_le_of_lt (Nat.succ_le_succ (List.length_filterMap_le _ _)) few)
      have gone : ([latest] : List L1Block).drop (forkOf between).dropped = [] := by
        rw [List.drop_eq_nil_iff]
        exact Nat.one_le_iff_ne_zero.mpr harmful
      have fromLatest := apart latest (List.mem_cons_self ..)
      obtain ⟨notLatest, notBelow⟩ := mixed_pair_apart countFirst latest below fromLatest.1.symm fromLatest.2.symm
      refine ⟨below, [latest], rfl, ?_⟩
      simp only [fork_of_chain, top, gone, List.nil_append, List.headD_nil]
      refine ⟨mixed_pair_fits countFirst latest below fits belowFits, fun mined => ?_, notBelow, fun same => ?_⟩
      · have fromMined := apart _ (List.mem_cons_of_mem _ mined)
        cases countFirst
        · exact fromMined.1 rfl
        · exact fromMined.2 rfl
      · exact notLatest (List.mem_singleton.mp same)

-- A block with a batch that takes one delayed message lands between the two calls.
def tornEvents : List CursorEvent := interleaving true [] [.mined ⟨12, 6⟩] []

end Cas
