import Cas.Lib.BigEndian
import Cas.Rollup

set_option autoImplicit false

namespace Cas

-- The rollup of the streamer's own tests: a transaction ends in the big-endian
-- sequence number of the one message it carries.
structure MockEntry where
  seqNum : UInt64
  hotshotHeight : UInt64
deriving DecidableEq, Repr

instance : RollupQueueEntry MockEntry where
  sequenceNumber entry := entry.seqNum
  hotshotHeight entry := entry.hotshotHeight

def mockParseBlock (block : List (List UInt8)) (height : UInt64) : List MockEntry :=
  block.map fun payload => ⟨UInt64.ofNat (BigEndian.decode (payload.drop (payload.length - 8))), height⟩

def mockParseHotshotTransactions : List (List (List UInt8)) → UInt64 → List MockEntry
  | [], _ => []
  | block :: blocks, height => mockParseBlock block height ++ mockParseHotshotTransactions blocks (height + 1)

def mockRollup : PositionalRollup (List UInt8) MockEntry MockEntry where
  parseHotshotTransactions := mockParseHotshotTransactions
  convertEntryToFeedMessage entry := entry
  parseBlock := mockParseBlock
  parse_nil _ := rfl
  parse_cons _ _ _ := rfl
  parse_height block height entry member := by
    obtain ⟨payload, -, rfl⟩ := List.mem_map.mp member
    rfl

def makeMockEspressoTransaction (seq : Nat) : List UInt8 := BigEndian.encode 8 seq

end Cas
