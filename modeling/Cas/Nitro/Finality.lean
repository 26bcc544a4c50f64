import Cas.Lib.History
import Cas.Lib.Watch
import Cas.Lib.Word64

set_option autoImplicit false

namespace Cas

open Word64

-- One pass of the loop of `start`: what the node answers to its two requests.
structure FinalizedPoll where
  finalizedBlock : Except String (Option UInt64)
  messageCount : UInt64 → Except String UInt64

-- The monitor with the channel of the finalized message index.
structure FinalityMonitor where
  lastFinalizedBlock : UInt64
  l1FinalizedMsgIdx : Watch UInt64
deriving DecidableEq, Repr

def FinalityMonitor.new : FinalityMonitor := ⟨0, ⟨0, []⟩⟩

def pollFinalized (st : FinalityMonitor) (poll : FinalizedPoll) : FinalityMonitor :=
  match poll.finalizedBlock with
  | .error _ => st
  | .ok none => st
  | .ok (some finalizedBlock) =>
      if finalizedBlock ≤ st.lastFinalizedBlock then st
      else
        match poll.messageCount finalizedBlock with
        | .error _ => st
        | .ok count => ⟨finalizedBlock, st.l1FinalizedMsgIdx.send (saturatingSub count 1)⟩

-- The sequencer's message count at every block of the finalized L1 chain. Batches only add to it.
structure SequencerInbox where
  messageCount : UInt64 → UInt64
  grows : ∀ earlier later, earlier ≤ later → messageCount earlier ≤ messageCount later

-- The node knows no block beyond the finalized one as finalized, and reads the counts as they are. It may lag, go back or fail.
structure Truthful (inbox : SequencerInbox) (finalized : UInt64) (poll : FinalizedPoll) : Prop where
  block : ∀ block, poll.finalizedBlock = .ok (some block) → block ≤ finalized
  count : ∀ block count, block ≤ finalized → poll.messageCount block = .ok count → count = inbox.messageCount block

-- The number of a message that a finalized batch holds. Number 0 stands for no message as well.
def Settled (inbox : SequencerInbox) (finalized idx : UInt64) : Prop := idx = 0 ∨ idx < inbox.messageCount finalized

def lastIdx (inbox : SequencerInbox) (block : UInt64) : UInt64 := saturatingSub (inbox.messageCount block) 1

structure MonitorInv (inbox : SequencerInbox) (finalized : UInt64) (st : FinalityMonitor) : Prop where
  initial : st.l1FinalizedMsgIdx.initial = 0
  block : st.lastFinalizedBlock ≤ finalized
  ordered : st.l1FinalizedMsgIdx.sent.Pairwise (· ≤ ·)
  below : ∀ idx ∈ st.l1FinalizedMsgIdx.sent, idx ≤ lastIdx inbox st.lastFinalizedBlock
  newest : st.l1FinalizedMsgIdx.sent ≠ [] → st.l1FinalizedMsgIdx.borrow = lastIdx inbox st.lastFinalizedBlock

theorem last_idx_grows (inbox : SequencerInbox) (earlier later : UInt64) (before : earlier ≤ later) :
    lastIdx inbox earlier ≤ lastIdx inbox later := by
  have more := UInt64.le_iff_toNat_le.mp (inbox.grows earlier later before)
  rw [UInt64.le_iff_toNat_le, lastIdx, lastIdx, toNat_saturating_sub, toNat_saturating_sub]
  omega

theorem last_idx_settled (inbox : SequencerInbox) (block finalized idx : UInt64) (final : block ≤ finalized)
    (below : idx ≤ lastIdx inbox block) : Settled inbox finalized idx := by
  have more := UInt64.le_iff_toNat_le.mp (inbox.grows block finalized final)
  rw [UInt64.le_iff_toNat_le, lastIdx, toNat_saturating_sub] at below
  have one : (1 : UInt64).toNat = 1 := rfl
  by_cases zero : idx = 0
  · exact .inl zero
  · refine .inr (UInt64.lt_iff_toNat_lt.mpr ?_)
    have positive : idx.toNat ≠ 0 := fun none => zero (UInt64.toNat_inj.mp none)
    omega

theorem settled_grows (inbox : SequencerInbox) (finalized later idx : UInt64) (before : finalized ≤ later)
    (settled : Settled inbox finalized idx) : Settled inbox later idx := by
  cases settled with
  | inl zero => exact .inl zero
  | inr below => exact .inr (lt_of_lt_of_le below (inbox.grows finalized later before))

theorem new_monitor_invariant (inbox : SequencerInbox) (finalized : UInt64) : MonitorInv inbox finalized .new :=
  ⟨rfl, UInt64.zero_le, .nil, fun _ member => absurd member List.not_mem_nil, fun sent => absurd rfl sent⟩

theorem poll_monitor_invariant (inbox : SequencerInbox) (finalized : UInt64) (st : FinalityMonitor) (poll : FinalizedPoll)
    (truthful : Truthful inbox finalized poll) (inv : MonitorInv inbox finalized st) :
    MonitorInv inbox finalized (pollFinalized st poll) := by
  unfold pollFinalized
  split
  · exact inv
  · exact inv
  · rename_i finalizedBlock answered
    split
    · exact inv
    · rename_i ahead
      split
      · exact inv
      · rename_i count counted
        have final := truthful.block finalizedBlock answered
        obtain rfl := truthful.count finalizedBlock count final counted
        have later : ∀ idx ∈ st.l1FinalizedMsgIdx.sent, idx ≤ lastIdx inbox finalizedBlock := fun idx member =>
          le_trans (inv.below idx member) (last_idx_grows inbox _ _ (le_of_lt (not_le.mp ahead)))
        refine ⟨inv.initial, final, ?_, ?_, fun _ => Watch.borrow_send _ _⟩
        · exact List.pairwise_append.mpr ⟨inv.ordered, List.pairwise_singleton _ _, fun idx member newest same => by
            rw [List.mem_singleton.mp same]
            exact later idx member⟩
        · intro idx member
          rcases List.mem_append.mp member with old | new
          · exact later idx old
          · rw [List.mem_singleton.mp new]
            exact le_refl _

theorem monitor_invariant_later (inbox : SequencerInbox) (finalized later : UInt64) (st : FinalityMonitor) (before : finalized ≤ later)
    (inv : MonitorInv inbox finalized st) : MonitorInv inbox later st :=
  ⟨inv.initial, le_trans inv.block before, inv.ordered, inv.below, inv.newest⟩

theorem borrow_settled (inbox : SequencerInbox) (finalized : UInt64) (st : FinalityMonitor) (inv : MonitorInv inbox finalized st) :
    Settled inbox finalized st.l1FinalizedMsgIdx.borrow := by
  rcases st.l1FinalizedMsgIdx.borrow_mem with untouched | sent
  · exact .inl (untouched.trans inv.initial)
  · exact last_idx_settled inbox st.lastFinalizedBlock finalized _ inv.block (inv.below _ sent)

end Cas
