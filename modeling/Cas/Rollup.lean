import Mathlib

set_option autoImplicit false

namespace Cas

class RollupQueueEntry (Entry : Type) where
  sequenceNumber : Entry → UInt64
  hotshotHeight : Entry → UInt64

export RollupQueueEntry (sequenceNumber hotshotHeight)

-- The part of the `Rollup` trait the streamer calls, with the stack
-- configuration it is called with already supplied.
structure Rollup (Transaction Entry FeedMessage : Type) where
  parseHotshotTransactions : List (List Transaction) → UInt64 → List Entry
  convertEntryToFeedMessage : Entry → FeedMessage

-- The trait asks for parsing aligned to the starting height, one inner list a
-- block. Implementations prove that they are.
structure PositionalRollup (Transaction Entry FeedMessage : Type) [RollupQueueEntry Entry]
    extends Rollup Transaction Entry FeedMessage where
  parseBlock : List Transaction → UInt64 → List Entry
  parse_nil : ∀ height, parseHotshotTransactions [] height = []
  parse_cons : ∀ block blocks height,
    parseHotshotTransactions (block :: blocks) height = parseBlock block height ++ parseHotshotTransactions blocks (height + 1)
  parse_height : ∀ block height, ∀ entry ∈ parseBlock block height, hotshotHeight entry = height

structure VerificationResult where
  success : Bool
  startMessagePosition : UInt64
  endMessagePosition : UInt64
  startEspressoBlock : UInt64
  afterDelayedMessagesRead : UInt64
  minEspressoBlockStillInQueue : UInt64
deriving DecidableEq, Repr

def VerificationResult.failure : VerificationResult := ⟨false, 0, 0, 0, 0, 0⟩

end Cas
