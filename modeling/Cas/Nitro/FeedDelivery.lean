import Cas.Nitro.FeedServer

set_option autoImplicit false

namespace Cas

open SortedSlice

def ClientPhase.serving : ClientPhase → Bool
  | .writingBacklog _ => true
  | .running => true
  | _ => false

def FeedServer.outgoing (st : FeedServer) : List BroadcastFeedMessage :=
  match st.phase with
  | .writingBacklog backlog => st.written ++ backlog
  | _ => st.written

def Confirmed (st : FeedServer) (m : BroadcastFeedMessage) : Prop := ∃ confirmed ∈ st.confirmed, m.sequenceNumber ≤ confirmed

def Passed (st : FeedServer) (m : BroadcastFeedMessage) : Prop := ∃ last, st.lastSentSeq = some last ∧ m.sequenceNumber ≤ last

-- The client's side of the state. A group waiting in the receiver or about to
-- reach it lies on one side of `last_sent_seq`: a snapshot holds the end of
-- every group before it or nothing of it.
structure ClientInv (fromSeq : UInt64) (st : FeedServer) : Prop where
  early : st.phase.beforeSnapshot = true →
    st.written = [] ∧ st.lastSentSeq = none ∧ ∀ m ∈ st.appended, m ∈ st.backlog ∨ Confirmed st m
  increasing : Increasing BroadcastFeedMessage.sequenceNumber st.outgoing
  marked : ∀ m ∈ st.outgoing, Passed st m
  attained : ∀ last, st.lastSentSeq = some last → ∃ m ∈ st.appended, m.sequenceNumber = last
  aligned : ∀ last, st.lastSentSeq = some last → ∀ bm ∈ st.rx ++ st.point.inFlight,
    (∀ m ∈ feedMessages bm, last < m.sequenceNumber) ∨ ∀ m ∈ feedMessages bm, m.sequenceNumber ≤ last
  covered : st.phase.serving = true → st.lagged = false → st.linkUp = true → ∀ m ∈ st.appended, fromSeq ≤ m.sequenceNumber →
    m ∈ st.outgoing ∨ Confirmed st m ∨ m ∈ groupMessages (st.rx ++ st.point.inFlight)
  passed : st.phase.serving = true → st.linkUp = true → ∀ m ∈ st.appended, fromSeq ≤ m.sequenceNumber → Passed st m →
    m ∈ st.outgoing ∨ Confirmed st m
  snapshot : st.phase.serving = true → st.linkUp = true → ∀ m ∈ st.snapshot, m ∈ st.outgoing

theorem written_sublist_outgoing (st : FeedServer) : st.written.Sublist st.outgoing := by
  unfold FeedServer.outgoing
  split
  · exact List.sublist_append_left _ _
  · exact List.Sublist.refl _

theorem before_snapshot_unserved (phase : ClientPhase) (before : phase.beforeSnapshot = true) : ¬ phase.serving = true := by
  cases phase with
  | connecting => exact Bool.false_ne_true
  | subscribed => exact Bool.false_ne_true
  | _ => cases before

theorem new_client_invariant (fromSeq : UInt64) (calls : List BroadcastMessage) : ClientInv fromSeq (.new calls) := by
  refine ⟨fun _ => ⟨rfl, rfl, by simp [FeedServer.new]⟩, by simp [FeedServer.new, FeedServer.outgoing, Increasing], ?_, ?_, ?_, ?_, ?_, ?_⟩
  · simp [FeedServer.new, FeedServer.outgoing]
  · simp [FeedServer.new]
  · simp [FeedServer.new]
  · simp [FeedServer.new]
  · simp [FeedServer.new]
  · simp [FeedServer.new]

theorem dropped_client_invariant (fromSeq : UInt64) (st next : FeedServer) (inv : ClientInv fromSeq st)
    (outgoing : next.outgoing = st.written) (late : next.phase.beforeSnapshot = false)
    (gone : ¬ (next.phase.serving = true ∧ next.linkUp = true)) (last : next.lastSentSeq = st.lastSentSeq)
    (appended : next.appended = st.appended) (waiting : next.rx ++ next.point.inFlight = st.rx ++ st.point.inFlight) :
    ClientInv fromSeq next := by
  have written := written_sublist_outgoing st
  refine ⟨fun early => ?_, ?_, ?_, ?_, ?_, ?_, ?_, ?_⟩
  · rw [late] at early
    cases early
  · rw [outgoing]
    exact inv.increasing.sublist written
  · rw [outgoing]
    intro m member
    obtain ⟨mark, same, low⟩ := inv.marked m (written.subset member)
    exact ⟨mark, last.trans same, low⟩
  · rw [last, appended]
    exact inv.attained
  · rw [last, waiting]
    exact inv.aligned
  · exact fun serving _ up => absurd ⟨serving, up⟩ gone
  · exact fun serving up => absurd ⟨serving, up⟩ gone
  · exact fun serving up => absurd ⟨serving, up⟩ gone

theorem confirm_client_invariant (fromSeq : UInt64) (st : FeedServer) (bm : BroadcastMessage) (rest : List BroadcastMessage)
    (idle : st.point = .idle) (inv : ClientInv fromSeq st) :
    ClientInv fromSeq
      { st with
        calls := rest
        point := .appending bm
        backlog := match bm.confirmedSequenceNumberMessage with
          | none => st.backlog
          | some confirmed => backlogConfirm confirmed.sequenceNumber st.backlog
        confirmed := match bm.confirmedSequenceNumberMessage with
          | none => st.confirmed
          | some confirmed => if st.phase.beforeSnapshot then st.confirmed ++ [confirmed.sequenceNumber] else st.confirmed } := by
  cases confirmation : bm.confirmedSequenceNumberMessage with
  | none =>
      obtain ⟨early, increasing, marked, attained, aligned, covered, passed, snapshot⟩ := inv
      rw [idle] at aligned covered
      exact ⟨early, increasing, marked, attained, aligned, covered, passed, snapshot⟩
  | some confirmed =>
      by_cases before : st.phase.beforeSnapshot = true
      · have unserved := before_snapshot_unserved st.phase before
        obtain ⟨early, increasing, marked, attained, aligned, -, -, -⟩ := inv
        rw [idle] at aligned
        simp only [before, if_true]
        refine ⟨fun _ => ⟨(early before).1, (early before).2.1, fun m appended => ?_⟩, increasing, marked, attained, aligned,
          fun serving => absurd serving unserved, fun serving => absurd serving unserved, fun serving => absurd serving unserved⟩
        -- a message of the backlog stays, or is confirmed now
        rcases (early before).2.2 m appended with held | ⟨earlier, listed, low⟩
        · by_cases above : confirmed.sequenceNumber < m.sequenceNumber
          · exact .inl (List.mem_filter.mpr ⟨held, decide_eq_true above⟩)
          · exact .inr ⟨confirmed.sequenceNumber, by simp, not_lt.mp above⟩
        · exact .inr ⟨earlier, by simp [listed], low⟩
      · obtain ⟨-, increasing, marked, attained, aligned, covered, passed, snapshot⟩ := inv
        rw [idle] at aligned covered
        simp only [before]
        exact ⟨fun early => absurd early before, increasing, marked, attained, aligned, covered, passed, snapshot⟩

section Step

variable (fromSeq : UInt64) (st : FeedServer) (bm : BroadcastMessage) (relay : RelayInv st) (inv : ClientInv fromSeq st)

include relay inv

theorem append_client_invariant (appends : st.point = .appending bm) :
    ClientInv fromSeq
      { st with point := .sending bm, backlog := backlogAppend bm st.backlog, appended := st.appended ++ feedMessages bm } := by
  have ordered := relay.ordered
  simp only [appends, BroadcastPoint.pending, List.singleton_append, groupMessages, List.flatMap_cons, ← List.append_assoc] at ordered
  have grown := (List.pairwise_append.mp ordered).1
  have above : ∀ m ∈ st.appended, ∀ new ∈ feedMessages bm, m.sequenceNumber < new.sequenceNumber :=
    (List.pairwise_append.mp grown).2.2
  have beyond : ∀ last, st.lastSentSeq = some last → ∀ new ∈ feedMessages bm, last < new.sequenceNumber := by
    intro last mark new member
    obtain ⟨m, appended, rfl⟩ := inv.attained last mark
    exact above m appended new member
  have waiting : ∀ other ∈ st.rx, other ∈ st.rx ++ st.point.inFlight := fun other held => List.mem_append_left _ held
  refine ⟨fun before => ?_, inv.increasing, inv.marked, fun last mark => ?_, fun last mark other listed => ?_,
    fun serving current up m member low => ?_, fun serving up m member low passed => ?_, inv.snapshot⟩
  · obtain ⟨written, unmarked, accounted⟩ := inv.early before
    refine ⟨written, unmarked, fun m member => ?_⟩
    rw [backlog_append_increasing bm st.backlog (grown.sublist (relay.backlog.sublist.append (List.Sublist.refl _)))]
    rcases List.mem_append.mp member with old | new
    · rcases accounted m old with held | confirmed
      · exact .inl (List.mem_append_left _ held)
      · exact .inr confirmed
    · exact .inl (List.mem_append_right _ new)
  · obtain ⟨m, appended, same⟩ := inv.attained last mark
    exact ⟨m, List.mem_append_left _ appended, same⟩
  · rcases List.mem_append.mp listed with held | sending
    · exact inv.aligned last mark other (waiting other held)
    · obtain rfl := List.mem_singleton.mp sending
      exact .inl (beyond last mark)
  · rcases List.mem_append.mp member with old | new
    · rcases inv.covered serving current up m old low with out | confirmed | held
      · exact .inl out
      · exact .inr (.inl confirmed)
      · simp only [appends, BroadcastPoint.inFlight, List.append_nil] at held
        exact .inr (.inr (by rw [group_messages_append]; exact List.mem_append_left _ held))
    · exact .inr (.inr (by rw [group_messages_append, BroadcastPoint.inFlight, group_messages_singleton]; exact List.mem_append_right _ new))
  · rcases List.mem_append.mp member with old | new
    · exact inv.passed serving up m old low passed
    · obtain ⟨last, mark, high⟩ := passed
      exact absurd (beyond last mark m new) (not_lt.mpr high)

omit relay in
theorem send_client_invariant (capacity : Nat) (sends : st.point = .sending bm) :
    ClientInv fromSeq (channelSend capacity bm { st with point := .idle }) := by
  obtain ⟨early, increasing, marked, attained, aligned, covered, passed, snapshot⟩ := inv
  simp only [sends, BroadcastPoint.inFlight] at aligned covered
  rw [channelSend]
  split
  · split
    · refine ⟨early, increasing, marked, attained, ?_, ?_, passed, snapshot⟩
      · simpa only [BroadcastPoint.inFlight, List.append_nil] using aligned
      · intro serving current up m appended low
        have old := covered serving current up m appended low
        rw [← List.append_nil (st.rx ++ [bm])] at old
        exact old
    · refine ⟨early, increasing, marked, attained, fun last mark other listed => ?_, fun _ current => ?_, passed, snapshot⟩
      · apply aligned last mark other
        simp only [BroadcastPoint.inFlight, List.append_nil] at listed
        rcases List.mem_append.mp listed with held | sent
        · exact List.mem_append_left _ (List.mem_of_mem_tail held)
        · exact List.mem_append_right _ sent
      · cases current
  · rename_i deaf
    have idle : ¬ st.phase.serving = true := by
      intro serving
      cases phase : st.phase <;> simp_all [ClientPhase.serving, ClientPhase.listening]
    refine ⟨early, increasing, marked, attained, fun last mark other listed => ?_, fun serving => absurd serving idle, passed, snapshot⟩
    simp only [BroadcastPoint.inFlight, List.append_nil] at listed
    exact aligned last mark other (List.mem_append_left _ listed)

omit relay in
theorem subscribe_client_invariant (connects : st.phase = .connecting) : ClientInv fromSeq { st with phase := .subscribed, rx := [] } := by
  obtain ⟨written, unmarked, accounted⟩ := inv.early (by rw [connects]; rfl)
  refine ⟨fun _ => ⟨written, unmarked, accounted⟩, ?_, ?_, inv.attained, fun last mark => ?_, ?_, ?_, ?_⟩
  · simp [FeedServer.outgoing, written, Increasing]
  · simp [FeedServer.outgoing, written]
  · rw [show st.lastSentSeq = some last from mark] at unmarked
    cases unmarked
  · exact fun serving => by cases serving
  · exact fun serving => by cases serving
  · exact fun serving => by cases serving

theorem snapshot_client_invariant (subscribed : st.phase = .subscribed) :
    ClientInv fromSeq
      { st with
        phase := if getSince fromSeq st.backlog = [] then .running else .writingBacklog (getSince fromSeq st.backlog)
        lastSentSeq := (getSince fromSeq st.backlog).getLast?.map BroadcastFeedMessage.sequenceNumber
        snapshot := getSince fromSeq st.backlog } := by
  obtain ⟨written, -, accounted⟩ := inv.early (by rw [subscribed]; rfl)
  have whole := relay.appended_increasing
  have suffix : getSince fromSeq st.backlog <:+ st.appended :=
    (filter_from_suffix BroadcastFeedMessage.sequenceNumber fromSeq st.backlog (whole.sublist relay.backlog.sublist)).trans relay.backlog
  have taken : ∀ m ∈ st.appended, fromSeq ≤ m.sequenceNumber → m ∈ getSince fromSeq st.backlog ∨ Confirmed st m := by
    intro m appended low
    rcases accounted m appended with held | confirmed
    · exact .inl (List.mem_filter.mpr ⟨held, decide_eq_true low⟩)
    · exact .inr confirmed
  generalize getSince fromSeq st.backlog = snap at suffix taken ⊢
  -- the last message of a snapshot is the last one of all
  have greatest : ∀ last, snap.getLast?.map BroadcastFeedMessage.sequenceNumber = some last →
      (∃ m ∈ st.appended, m.sequenceNumber = last) ∧ ∀ m ∈ st.appended, m.sequenceNumber ≤ last := by
    intro last mark
    obtain ⟨final, ends, rfl⟩ := Option.map_eq_some_iff.mp mark
    obtain ⟨member, most⟩ := suffix_last_greatest BroadcastFeedMessage.sequenceNumber st.appended snap whole suffix final ends
    exact ⟨⟨final, member, rfl⟩, most⟩
  have outgoing : FeedServer.outgoing
      { st with
        phase := if snap = [] then .running else .writingBacklog snap
        lastSentSeq := snap.getLast?.map BroadcastFeedMessage.sequenceNumber
        snapshot := snap } = snap := by
    by_cases empty : snap = []
    · simp [FeedServer.outgoing, empty, written]
    · simp [FeedServer.outgoing, empty, written]
  have late : ClientPhase.beforeSnapshot (if snap = [] then .running else .writingBacklog snap) = false := by
    split <;> rfl
  refine ⟨fun early => ?_, ?_, ?_, fun last mark => (greatest last mark).1, fun last mark bm listed => .inr fun m member => ?_, ?_, ?_, ?_⟩
  · rw [late] at early
    cases early
  · rw [outgoing]
    exact whole.sublist suffix.sublist
  · rw [outgoing]
    intro m member
    obtain ⟨final, ends⟩ := Option.ne_none_iff_exists'.mp (mt List.getLast?_eq_none_iff.mp (List.ne_nil_of_mem member))
    have mark : snap.getLast?.map BroadcastFeedMessage.sequenceNumber = some final.sequenceNumber := by rw [ends, Option.map_some]
    exact ⟨final.sequenceNumber, mark, (greatest _ mark).2 m (suffix.subset member)⟩
  · exact (greatest last mark).2 m (relay.channel.subset (List.mem_flatMap.mpr ⟨bm, listed, member⟩))
  · intro _ _ _ m appended low
    rw [outgoing]
    rcases taken m appended low with held | confirmed
    · exact .inl held
    · exact .inr (.inl confirmed)
  · intro _ _ m appended low _
    rw [outgoing]
    exact taken m appended low
  · intro _ _ m member
    rw [outgoing]
    exact member

omit relay in
theorem covered_received (rest : List BroadcastMessage) (received : st.rx = bm :: rest) (serving : st.phase.serving = true)
    (current : st.lagged = false) (up : st.linkUp = true) (m : BroadcastFeedMessage) (appended : m ∈ st.appended)
    (low : fromSeq ≤ m.sequenceNumber) :
    m ∈ st.outgoing ∨ Confirmed st m ∨ m ∈ feedMessages bm ∨ m ∈ groupMessages (rest ++ st.point.inFlight) := by
  have covered := inv.covered serving current up m appended low
  rwa [received, List.cons_append, groupMessages, List.flatMap_cons, List.mem_append] at covered

omit relay in
theorem skip_client_invariant (rest : List BroadcastMessage) (received : st.rx = bm :: rest)
    (settled : st.phase.serving = true → st.linkUp = true → ∀ m ∈ feedMessages bm, m ∈ st.appended → fromSeq ≤ m.sequenceNumber →
      m ∈ st.outgoing ∨ Confirmed st m) : ClientInv fromSeq { st with rx := rest } := by
  have split := covered_received fromSeq st bm inv rest received
  obtain ⟨early, increasing, marked, attained, aligned, -, passed, snapshot⟩ := inv
  rw [received, List.cons_append] at aligned
  refine ⟨early, increasing, marked, attained, fun last mark other listed => ?_, fun serving current up m appended low => ?_, passed, snapshot⟩
  · exact aligned last mark other (List.mem_cons_of_mem _ listed)
  · rcases split serving current up m appended low with out | confirmed | head | later
    · exact .inl out
    · exact .inr (.inl confirmed)
    · rcases settled serving up m head appended low with out | confirmed
      · exact .inl out
      · exact .inr (.inl confirmed)
    · exact .inr (.inr later)

end Step

theorem not_due_passed (st : FeedServer) (bm : BroadcastMessage) (fromRelay : FromRelay bm)
    (notDue : shouldSend bm st.lastSentSeq = false) : ∀ m ∈ feedMessages bm, Passed st m := by
  obtain ⟨call, rfl⟩ := fromRelay
  rw [feed_messages_relay]
  cases call with
  | confirm msgIdx => simp [RelayCall.messages]
  | broadcastFeedMessages messages =>
      cases mark : st.lastSentSeq with
      | none =>
          simp only [shouldSend, RelayCall.broadcastMessage, mark, Option.isSome_none, Bool.false_eq_true, if_false, Bool.not_eq_false',
            List.isEmpty_iff, List.map_eq_nil_iff] at notDue
          simp [RelayCall.messages, notDue]
      | some last =>
          simp only [shouldSend, RelayCall.broadcastMessage, mark, Option.isSome_none, Bool.false_eq_true, if_false, List.any_eq_false,
            List.mem_map, forall_exists_index, and_imp, forall_apply_eq_imp_iff₂, Option.any_some, decide_eq_true_eq, not_lt] at notDue
          exact fun m member => ⟨last, mark, notDue m member⟩

theorem due_above (st : FeedServer) (bm : BroadcastMessage) (fromRelay : FromRelay bm) (due : shouldSend bm st.lastSentSeq = true)
    (last : UInt64) (mark : st.lastSentSeq = some last)
    (aligned : (∀ m ∈ feedMessages bm, last < m.sequenceNumber) ∨ ∀ m ∈ feedMessages bm, m.sequenceNumber ≤ last) :
    ∀ m ∈ feedMessages bm, last < m.sequenceNumber := by
  obtain ⟨call, rfl⟩ := fromRelay
  cases call with
  | confirm msgIdx => simp [feed_messages_relay, RelayCall.messages]
  | broadcastFeedMessages messages =>
      rcases aligned with above | below
      · exact above
      · simp only [shouldSend, RelayCall.broadcastMessage, mark, Option.isSome_none, Bool.false_eq_true, if_false, List.any_eq_true,
          List.mem_map, exists_exists_and_eq_and, Option.any_some, decide_eq_true_eq] at due
        obtain ⟨m, member, high⟩ := due
        rw [feed_messages_relay] at below
        exact absurd high (not_lt.mpr (below m member))

theorem update_last_sent_increasing (bm : BroadcastMessage) (lastSentSeq : Option UInt64)
    (increasing : Increasing BroadcastFeedMessage.sequenceNumber (feedMessages bm))
    (above : ∀ last, lastSentSeq = some last → ∀ m ∈ feedMessages bm, last < m.sequenceNumber) :
    updateLastSent bm lastSentSeq = ((feedMessages bm).getLast?.map BroadcastFeedMessage.sequenceNumber).or lastSentSeq := by
  rw [updateLastSent]
  generalize feedMessages bm = messages at increasing above ⊢
  induction messages generalizing lastSentSeq with
  | nil => rfl
  | cons m tail ih =>
      obtain ⟨first, rest⟩ := List.pairwise_cons.mp increasing
      have reached : lastSentSeq.getD 0 ≤ m.sequenceNumber := by
        cases lastSentSeq with
        | none => exact UInt64.zero_le
        | some last => exact le_of_lt (above last rfl m (by simp))
      rw [List.foldl_cons, if_pos reached, ih _ rest (fun last mark other member => Option.some.inj mark ▸ first other member)]
      cases final : tail.getLast? with
      | none => simp [List.getLast?_eq_none_iff.mp final]
      | some last => simp [List.getLast?_cons, final]

section Receive

variable (fromSeq : UInt64) (st : FeedServer) (bm : BroadcastMessage) (rest : List BroadcastMessage) (relay : RelayInv st)
  (inv : ClientInv fromSeq st) (runs : st.phase = .running) (received : st.rx = bm :: rest)

include relay inv received

theorem receive_skipped_invariant (notDue : shouldSend bm st.lastSentSeq = false) : ClientInv fromSeq { st with rx := rest } := by
  have passed := not_due_passed st bm (relay.fromRelay bm (by simp [received])) notDue
  exact skip_client_invariant fromSeq st bm inv rest received fun serving up m member appended low =>
    inv.passed serving up m appended low (passed m member)

include runs

theorem receive_written_invariant (current : st.lagged = false) (due : shouldSend bm st.lastSentSeq = true) (up : st.linkUp = true) :
    ClientInv fromSeq
      { st with rx := rest, lastSentSeq := updateLastSent bm st.lastSentSeq, written := st.written ++ feedMessages bm } := by
  have fromRelay := relay.fromRelay bm (by simp [received])
  have above : ∀ last, st.lastSentSeq = some last → ∀ m ∈ feedMessages bm, last < m.sequenceNumber := fun last mark =>
    due_above st bm fromRelay due last mark (inv.aligned last mark bm (by simp [received]))
  have channel := relay.channel
  rw [received, List.cons_append, groupMessages, List.flatMap_cons] at channel
  have chunks := relay.appended_increasing.sublist channel
  obtain ⟨increasing, -, later⟩ := List.pairwise_append.mp chunks
  have inside : ∀ m ∈ feedMessages bm, m ∈ st.appended := fun m member => channel.subset (List.mem_append_left _ member)
  have marks := update_last_sent_increasing bm st.lastSentSeq increasing above
  have out : st.outgoing = st.written := by simp only [FeedServer.outgoing, runs]
  have nextOut : FeedServer.outgoing
      { st with rx := rest, lastSentSeq := updateLastSent bm st.lastSentSeq, written := st.written ++ feedMessages bm } =
        st.written ++ feedMessages bm := by simp only [FeedServer.outgoing, runs]
  have serving : st.phase.serving = true := by rw [runs]; rfl
  have split := covered_received fromSeq st bm inv rest received serving current up
  cases final : (feedMessages bm).getLast? with
  | none =>
      -- a confirmation, or a group without messages
      have empty := List.getLast?_eq_none_iff.mp final
      rw [marks, empty, List.append_nil, List.getLast?_nil, Option.map_none, Option.none_or]
      exact skip_client_invariant fromSeq st bm inv rest received fun _ _ m member => by rw [empty] at member; cases member
  | some last =>
      have mark : updateLastSent bm st.lastSentSeq = some last.sequenceNumber := by rw [marks, final, Option.map_some, Option.some_or]
      have greatest := last_greatest BroadcastFeedMessage.sequenceNumber _ increasing last final
      have lastInside := List.mem_of_getLast? final
      refine ⟨fun early => ?_, ?_, ?_, ?_, ?_, ?_, ?_, ?_⟩
      · rw [runs] at early
        cases early
      · rw [nextOut]
        refine List.pairwise_append.mpr ⟨out ▸ inv.increasing, increasing, fun old member m new => ?_⟩
        obtain ⟨previous, same, low⟩ := inv.marked old (out ▸ member)
        exact lt_of_le_of_lt low (above previous same m new)
      · rw [nextOut]
        intro m member
        refine ⟨last.sequenceNumber, mark, ?_⟩
        rcases List.mem_append.mp member with old | new
        · obtain ⟨previous, same, low⟩ := inv.marked m (out ▸ old)
          exact le_trans low (le_of_lt (above previous same last lastInside))
        · exact greatest m new
      · intro next same
        exact ⟨last, inside last lastInside, Option.some.inj (mark.symm.trans same)⟩
      · intro next same other listed
        obtain rfl := Option.some.inj (mark.symm.trans same)
        exact .inl fun m member => later last lastInside m (List.mem_flatMap.mpr ⟨other, listed, member⟩)
      · intro _ _ _ m appended low
        rw [nextOut]
        rcases split m appended low with old | confirmed | head | waiting
        · exact .inl (List.mem_append_left _ (out ▸ old))
        · exact .inr (.inl confirmed)
        · exact .inl (List.mem_append_right _ head)
        · exact .inr (.inr waiting)
      · intro _ _ m appended low passed
        rw [nextOut]
        obtain ⟨next, same, high⟩ := passed
        obtain rfl := Option.some.inj (mark.symm.trans same)
        rcases split m appended low with old | confirmed | head | waiting
        · exact .inl (List.mem_append_left _ (out ▸ old))
        · exact .inr confirmed
        · exact .inl (List.mem_append_right _ head)
        · exact absurd (later last lastInside m waiting) (not_lt.mpr high)
      · intro _ _ m member
        rw [nextOut]
        exact List.mem_append_left _ (out ▸ inv.snapshot serving up m member)

end Receive

theorem feed_step_client_invariant (capacity : Nat) (fromSeq : UInt64) (st next : FeedServer) (relay : RelayInv st)
    (inv : ClientInv fromSeq st) (step : FeedStep capacity fromSeq st next) : ClientInv fromSeq next := by
  cases step with
  | confirm bm rest idle first => exact confirm_client_invariant fromSeq st bm rest idle inv
  | append bm appends => exact append_client_invariant fromSeq st bm relay inv appends
  | send bm sends => exact send_client_invariant fromSeq st bm inv capacity sends
  | subscribe connects => exact subscribe_client_invariant fromSeq st inv connects
  | takeSnapshot subscribed => exact snapshot_client_invariant fromSeq st relay inv subscribed
  | backlogWritten backlog writes =>
      have out : st.outgoing = st.written ++ backlog := by simp only [FeedServer.outgoing, writes]
      obtain ⟨-, increasing, marked, attained, aligned, covered, passed, snapshot⟩ := inv
      rw [out] at increasing marked
      rw [out, writes] at covered passed snapshot
      exact ⟨fun early => (by cases early), increasing, marked, attained, aligned, covered, passed, snapshot⟩
  | backlogError backlog writes => exact dropped_client_invariant fromSeq st _ inv rfl rfl (by simp) rfl rfl rfl
  | receiveWritten bm rest runs current received due up =>
      exact receive_written_invariant fromSeq st bm rest relay inv runs received current due up
  | receiveSkipped bm rest runs current received notDue =>
      exact receive_skipped_invariant fromSeq st bm rest relay inv received notDue
  | disconnect => exact dropped_client_invariant fromSeq st _ inv rfl rfl (by simp [ClientPhase.serving]) rfl rfl rfl

structure Connected (st : FeedServer) : Prop where
  running : st.phase = .running
  current : st.lagged = false
  linkUp : st.linkUp = true

def numberedMessage (seq : UInt64) : BroadcastFeedMessage := ⟨seq, ⟨none, 0⟩, [], [], 0, none⟩

-- A client subscribes, finds message 5 in its snapshot, and receives it again over the channel, with message 6 after it.
def servedClient : FeedServer :=
  { FeedServer.new [] with
    backlog := [numberedMessage 5, numberedMessage 6], phase := .running, lastSentSeq := some 6,
    written := [numberedMessage 5, numberedMessage 6], appended := [numberedMessage 5, numberedMessage 6],
    broadcasted := [numberedMessage 5, numberedMessage 6], snapshot := [numberedMessage 5] }

end Cas
