import Cas.Lib.Word64
import Cas.Lib.SortedSlice
import Cas.Lib.History
import Cas.Rollup

set_option autoImplicit false

namespace Cas

open SortedSlice
open Std (ExtTreeMap ExtTreeSet)

def hotshotRangeLimit : UInt64 := 100

structure StreamerConfig where
  startingPos : UInt64
  maxFullQueueEntries : Nat
deriving DecidableEq, Repr

-- `retryScheduled` is the flag of `BroadcastRetry`. `broadcast` is not a field
-- of the source: it records what the finalization channel has accepted, oldest first.
structure Streamer (Entry FeedMessage : Type) where
  queue : List Entry
  stubs : ExtTreeMap UInt64 UInt64
  finalizedIdx : UInt64
  lastBroadcastPosition : UInt64
  retryScheduled : Bool
  broadcast : List FeedMessage

inductive TrySend where
  | accepted
  | full
  | closed
deriving DecidableEq, Repr

-- One call of `namespace_transactions_in_range`; `none` is any error. The
-- windows of one promotion are distinct, so a function covers every sequence of answers.
abbrev Reader (Transaction : Type) := UInt64 → UInt64 → Option (List (List Transaction))

variable {Transaction Entry FeedMessage : Type} [RollupQueueEntry Entry]

-- `run` overwrites the finalized index of `Streamer::new` by the watched value.
def Streamer.new (finalizedIdx : UInt64) : Streamer Entry FeedMessage := ⟨[], ∅, finalizedIdx, 0, false, []⟩

def insertEntry (entry : Entry) (queue : List Entry) : List Entry :=
  queue.insertIdx (partitionPoint (fun e => sequenceNumber e < sequenceNumber entry) queue) entry

def queueHolds (seq : UInt64) (queue : List Entry) : Bool :=
  (queue[partitionPoint (fun e => sequenceNumber e < seq) queue]?).any fun e => sequenceNumber e = seq

-- One iteration of the loop of `filter_messages`.
def filterMessage (config : StreamerConfig) (st : Streamer Entry FeedMessage) (parsed : Entry) :
    Streamer Entry FeedMessage :=
  let seq := sequenceNumber parsed
  if seq < config.startingPos then st
  else if queueHolds seq st.queue || st.stubs.contains seq then st
  else
    let queue := insertEntry parsed st.queue
    if queue.length > config.maxFullQueueEntries then
      match queue.getLast? with
      | none => { st with queue := queue }
      | some evicted =>
          { st with queue := queue.dropLast, stubs := st.stubs.insert (sequenceNumber evicted) (hotshotHeight evicted) }
    else { st with queue := queue }

def filterMessages (config : StreamerConfig) (st : Streamer Entry FeedMessage) (entries : List Entry) :
    Streamer Entry FeedMessage :=
  History.run (filterMessage config) st entries

def contiguousFrom (lastPos idx : UInt64) : List Entry → List Entry
  | [] => []
  | entry :: tail => if sequenceNumber entry = lastPos + idx + 1 then entry :: contiguousFrom lastPos (idx + 1) tail else []

def findContiguousEntriesAfter (queue : List Entry) (lastPos : UInt64) : List Entry :=
  contiguousFrom lastPos 0 (queue.drop (partitionPoint (fun e => sequenceNumber e ≤ lastPos) queue))

-- The receiver drains the channel at any time, so each attempt may end either way.
def broadcastLoop (rollup : Rollup Transaction Entry FeedMessage) (send : Nat → TrySend) :
    List Entry → Nat → Streamer Entry FeedMessage → Streamer Entry FeedMessage
  | [], _, st => st
  | entry :: tail, attempt, st =>
      match send attempt with
      | .accepted => broadcastLoop rollup send tail (attempt + 1)
          { st with lastBroadcastPosition := sequenceNumber entry
                    broadcast := st.broadcast ++ [rollup.convertEntryToFeedMessage entry] }
      | .full => { st with retryScheduled := true }
      | .closed => st

def tryBroadcastFeedMessage (rollup : Rollup Transaction Entry FeedMessage) (send : Nat → TrySend)
    (st : Streamer Entry FeedMessage) : Streamer Entry FeedMessage :=
  broadcastLoop rollup send (findContiguousEntriesAfter st.queue st.lastBroadcastPosition) 0 st

def handleHotshotTransactions (config : StreamerConfig) (rollup : Rollup Transaction Entry FeedMessage)
    (transactions : List (List Transaction)) (height : UInt64) (send : Nat → TrySend)
    (st : Streamer Entry FeedMessage) : Streamer Entry FeedMessage :=
  tryBroadcastFeedMessage rollup send (filterMessages config st (rollup.parseHotshotTransactions transactions height))

-- The nested index loops over the sorted heights: `start` opened the current
-- window and `last` is the newest height it takes in.
def windowsFrom (start last : UInt64) : List UInt64 → List (UInt64 × UInt64)
  | [] => [(start, last + 1)]
  | height :: tail =>
      if height - start < hotshotRangeLimit then windowsFrom start height tail
      else (start, last + 1) :: windowsFrom height height tail

def windows : List UInt64 → List (UInt64 × UInt64)
  | [] => []
  | height :: tail => windowsFrom height height tail

def collect (expected : ExtTreeSet UInt64) (fetched : ExtTreeMap UInt64 Entry) (entries : List Entry) :
    ExtTreeMap UInt64 Entry :=
  entries.foldl (fun map entry => if expected.contains (sequenceNumber entry) then map.insert (sequenceNumber entry) entry else map) fetched

def fetchWindows (rollup : Rollup Transaction Entry FeedMessage) (reader : Reader Transaction)
    (expected : ExtTreeSet UInt64) : List (UInt64 × UInt64) → ExtTreeMap UInt64 Entry → Option (ExtTreeMap UInt64 Entry)
  | [], fetched => some fetched
  | (start, stop) :: tail, fetched =>
      match reader start stop with
      | none => none
      | some txns => fetchWindows rollup reader expected tail
          (collect expected fetched (rollup.parseHotshotTransactions txns start))

def promoteEntry (st : Streamer Entry FeedMessage) (entry : Entry) : Streamer Entry FeedMessage :=
  { st with queue := insertEntry entry st.queue, stubs := st.stubs.erase (sequenceNumber entry) }

def promoteLoop : List (UInt64 × UInt64) → ExtTreeMap UInt64 Entry → Streamer Entry FeedMessage → Streamer Entry FeedMessage
  | [], _, st => st
  | (seq, expectedHeight) :: tail, fetched, st =>
      match fetched[seq]? with
      | some entry =>
          if hotshotHeight entry ≠ expectedHeight then st
          else promoteLoop tail (fetched.erase seq) (promoteEntry st entry)
      | none => promoteLoop tail (fetched.erase seq) st

def stubsToPromote (config : StreamerConfig) (st : Streamer Entry FeedMessage) : List (UInt64 × UInt64) :=
  st.stubs.toList.take (min (config.maxFullQueueEntries - st.queue.length) st.stubs.size)

def stubHeights (stubs : List (UInt64 × UInt64)) : List UInt64 := (ExtTreeSet.ofList (stubs.map Prod.snd)).toList

def promoteStubs (config : StreamerConfig) (rollup : Rollup Transaction Entry FeedMessage) (reader : Reader Transaction)
    (st : Streamer Entry FeedMessage) : Streamer Entry FeedMessage :=
  let room := config.maxFullQueueEntries - st.queue.length
  if room = 0 || st.stubs.isEmpty then st
  else
    let selected := stubsToPromote config st
    let expected := ExtTreeSet.ofList (selected.map Prod.fst)
    match fetchWindows rollup reader expected (windows (stubHeights selected)) ∅ with
    | none => st
    | some fetched => promoteLoop selected fetched st

def prune (newFinalizedIdx : UInt64) (st : Streamer Entry FeedMessage) : Streamer Entry FeedMessage :=
  { st with
    finalizedIdx := newFinalizedIdx
    queue := st.queue.drop (partitionPoint (fun e => sequenceNumber e ≤ newFinalizedIdx) st.queue)
    stubs := match Word64.checkedAdd newFinalizedIdx 1 with
      | some splitKey => st.stubs.filter fun seq _ => splitKey ≤ seq
      | none => ∅ }

def skipFinalized (newFinalizedIdx : UInt64) (st : Streamer Entry FeedMessage) : Streamer Entry FeedMessage :=
  if newFinalizedIdx > st.lastBroadcastPosition then { st with lastBroadcastPosition := newFinalizedIdx } else st

def handleFinalization (config : StreamerConfig) (rollup : Rollup Transaction Entry FeedMessage) (reader : Reader Transaction)
    (newFinalizedIdx : UInt64) (st : Streamer Entry FeedMessage) : Streamer Entry FeedMessage :=
  let st := skipFinalized newFinalizedIdx st
  if newFinalizedIdx ≤ st.finalizedIdx then st
  else promoteStubs config rollup reader (prune newFinalizedIdx st)

-- The arms of the event loop of `run` that touch the streamer, each with the
-- answers its environment gives during the call.
inductive StreamerEvent (Transaction : Type) where
  | hotshotTransactions (transactions : List (List Transaction)) (height : UInt64) (send : Nat → TrySend)
  | finalization (newFinalizedIdx : UInt64) (reader : Reader Transaction)
  | broadcastRetry (send : Nat → TrySend)

def stepStreamer (config : StreamerConfig) (rollup : Rollup Transaction Entry FeedMessage) (st : Streamer Entry FeedMessage) :
    StreamerEvent Transaction → Streamer Entry FeedMessage
  | .hotshotTransactions transactions height send => handleHotshotTransactions config rollup transactions height send st
  | .finalization newFinalizedIdx reader => handleFinalization config rollup reader newFinalizedIdx st
  | .broadcastRetry send => tryBroadcastFeedMessage rollup send { st with retryScheduled := false }

def runStreamer (config : StreamerConfig) (rollup : Rollup Transaction Entry FeedMessage) (finalizedIdx : UInt64)
    (events : List (StreamerEvent Transaction)) : Streamer Entry FeedMessage :=
  History.run (stepStreamer config rollup) (.new finalizedIdx) events

end Cas
