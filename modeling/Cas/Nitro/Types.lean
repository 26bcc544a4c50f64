import Cas.Lib.Word64
import Cas.Lib.BigEndian
import Cas.Rollup

set_option autoImplicit false

namespace Cas

abbrev Bytes := List UInt8
abbrev Address := Vector UInt8 20
abbrev B256 := Vector UInt8 32
abbrev U256 := BitVec 256

def b256 (value : Nat) : B256 := ⟨(BigEndian.encode 32 value).toArray, by simp [BigEndian.length_encode]⟩

def beBytes (value : UInt64) : Bytes := BigEndian.encode 8 value.toNat
def fromBeBytes (bytes : Bytes) : UInt64 := UInt64.ofNat (BigEndian.decode bytes)

theorem length_be_bytes (value : UInt64) : (beBytes value).length = 8 := BigEndian.length_encode 8 value.toNat

theorem be_bytes_injective (a b : UInt64) (same : beBytes a = beBytes b) : a = b := by
  apply UInt64.toNat_inj.mp
  exact BigEndian.encode_injective 8 a.toNat b.toNat (UInt64.toNat_lt a) (UInt64.toNat_lt b) same

theorem be_bytes_split (a b : UInt64) (left right : Bytes) (same : beBytes a ++ left = beBytes b ++ right) :
    a = b ∧ left = right := by
  obtain ⟨head, tail⟩ := List.append_inj same (by rw [length_be_bytes, length_be_bytes])
  exact ⟨be_bytes_injective a b head, tail⟩

theorem from_be_bytes_be_bytes (value : UInt64) : fromBeBytes (beBytes value) = value := by
  rw [fromBeBytes, beBytes, BigEndian.decode_encode 8 _ value.toNat_lt, UInt64.ofNat_toNat]

theorem be_bytes_from_be_bytes (bytes : Bytes) (width : bytes.length = 8) : beBytes (fromBeBytes bytes) = bytes := by
  have bound := BigEndian.decode_lt bytes
  rw [width] at bound
  rw [beBytes, fromBeBytes, UInt64.toNat_ofNat_of_lt' bound, ← width, BigEndian.encode_decode]

structure L1IncomingMessageHeader where
  kind : UInt8
  poster : Address
  blockNumber : UInt64
  timestamp : UInt64
  requestId : Option B256
  l1BaseFee : Option U256
deriving DecidableEq, Repr

structure BatchDataStats where
  length : UInt64
  nonZeros : UInt64
deriving DecidableEq, Repr

structure L1IncomingMessage where
  header : Option L1IncomingMessageHeader
  l2msg : Bytes
  legacyBatchGasCost : Option UInt64
  batchDataStats : Option BatchDataStats
deriving DecidableEq, Repr

structure MessageWithMetadata where
  message : Option L1IncomingMessage
  delayedMessagesRead : UInt64
deriving DecidableEq, Repr

structure BroadcastFeedMessage where
  sequenceNumber : UInt64
  message : MessageWithMetadata
  signature : Bytes
  blockMetadata : Bytes
  cumulativeSumMsgSize : UInt64
  blockHash : Option B256
deriving DecidableEq, Repr

structure ConfirmedSequenceNumberMessage where
  sequenceNumber : UInt64
deriving DecidableEq, Repr

structure BroadcastMessage where
  version : Int
  messages : List (Option BroadcastFeedMessage)
  confirmedSequenceNumberMessage : Option ConfirmedSequenceNumberMessage
deriving DecidableEq, Repr

structure NitroRollupQueueEntry where
  feedMessage : BroadcastFeedMessage
  hotshotHeight : UInt64
deriving DecidableEq, Repr

instance : RollupQueueEntry NitroRollupQueueEntry where
  sequenceNumber entry := entry.feedMessage.sequenceNumber
  hotshotHeight entry := entry.hotshotHeight

inductive BatchMessage where
  | l2Msg (content : Bytes)
  | delayedMsg
deriving DecidableEq, Repr

structure BatchCursor where
  lastBatchDelayedMessagesRead : UInt64
  nextBatchStartPos : UInt64
deriving DecidableEq, Repr

def BatchCursor.default : BatchCursor := ⟨1, 1⟩

inductive NitroHeader where
  | v1
deriving DecidableEq, Repr

-- The fields of the configuration that the modelled functions read.
structure NitroConfig where
  legacySignerAddresses : List Address
  chainId : UInt64
  trustedSequencerAddresses : List Address
deriving DecidableEq, Repr

abbrev FeedMessageVerifier := UInt64 → List Address → BroadcastFeedMessage → Except String Unit

end Cas
