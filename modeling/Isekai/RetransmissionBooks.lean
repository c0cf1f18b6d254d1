import Isekai.AcknowledgementLoops

/-! The books of outstanding packets stay in order when packets are taken out of those that wait
for an acknowledgement and handed to the retransmission scheduler, by a timeout, by the bitmaps
of an extended ACK, by a NACK or by a probe. -/

namespace Isekai.RetransmissionBooks
open Outcomes Reliability Reliability.Endpoint OutstandingBooks BookFrameProofs WindowAlignment
open AcknowledgementBooks AcknowledgementLoops

variable {config : Config} {sent : WindowType → List OutstandingPacketContext}
  {answered : Multiset UInt32} {limit : WindowType → UInt32} {endpoint : Endpoint}
variable {window : WindowType} {psn : UInt32} {before : Endpoint}

/-- The packet under a PSN no longer waits for its acknowledgement, and at most goes to the
retransmission scheduler. -/
structure Requeued (window : WindowType) (psn : UInt32) (before after : Endpoint) : Prop where
  positions : ∀ other, SamePosition (before.tx other) (after.tx other)
  contexts : ∀ other, (after.tx other).outstandingPacketContexts =
    (before.tx other).outstandingPacketContexts
  counters : ∀ other, (after.tx other).outstandingRequestsCounter =
    (before.tx other).outstandingRequestsCounter
  waiting : ∀ other, ∀ work ∈ (after.tx other).outstandingPackets,
    work ∈ (before.tx other).outstandingPackets ∧ (other = window → work.psn ≠ psn)
  queued : ∀ other, ∀ work ∈ after.retransmissions other, work ∈ before.retransmissions other ∨
    other = window ∧ work.psn = psn ∧
      (before.tx window).outstandingPacketContexts psn = some ⟨work.rsn, work.type⟩
  pending : pendingWork after = pendingWork before
  onward : Onward before after

theorem requeued_kept {after : Endpoint} (requeued : Requeued window psn before after)
    (kept : Kept config sent answered limit before) : Kept config sent answered limit after := by
  obtain ⟨live, debts, pulls, contains, tally, balanced, opened⟩ := kept.books.counted
  refine ⟨⟨?_, ?_, ⟨live, debts, pulls, fun other => requeued.contexts other ▸ contains other, ?_,
    balanced, opened.onward requeued.onward⟩, fun other => ?_⟩, fun other => ?_⟩
  · refine kept.books.recorded.onward requeued.onward (fun other number context found => ?_)
      (fun other work held => ?_) fun other work waits next queued => ?_
    · rwa [requeued.contexts] at found
    · rw [requeued.contexts]
      rcases held with waits | queued
      · exact kept.books.recorded.works other work (.inl (requeued.waiting other work waits).1)
      · rcases requeued.queued other work queued with earlier | ⟨rfl, rfl, found⟩
        · exact kept.books.recorded.works other work (.inr earlier)
        · exact found
    · obtain ⟨earlier, differs⟩ := requeued.waiting other work waits
      rcases requeued.queued other next queued with before | ⟨here, same, _⟩
      · exact kept.books.recorded.apart other work earlier next before
      · exact same ▸ differs here
  · exact kept.books.queued.onward requeued.onward (requeued.pending ▸ kept.books.queued.distinct)
      fun work => requeued.pending ▸ id
  · exact ⟨(requeued.counters .request).symm ▸ tally.request,
      (requeued.counters .data).symm ▸ tally.data⟩
  · rw [requeued.counters]
    exact kept.books.bounded other
  · exact aligned_same (kept.aligned other) (requeued.positions other).base
      (requeued.positions other).next (requeued.positions other).bits (requeued.contexts other)

theorem mem_insert_work {work other : RetransmissionWorkId} {works : List RetransmissionWorkId}
    (member : other ∈ insertWork work works) : other = work ∨ other ∈ works := by
  induction works with
  | nil => exact .inl (List.mem_singleton.1 member)
  | cons first rest ih =>
    unfold insertWork at member
    split_ifs at member with same before
    · exact .inr member
    · exact List.mem_cons.1 member
    · rcases List.mem_cons.1 member with rfl | later
      · exact .inr List.mem_cons_self
      · exact (ih later).imp id (List.mem_cons_of_mem first)

/-- At most the packet under a PSN goes to the retransmission scheduler. -/
structure Handed (window : WindowType) (psn : UInt32) (before after : Endpoint) : Prop where
  windows : ∀ other, SameWindow (before.tx other) (after.tx other)
  queued : ∀ other, ∀ work ∈ after.retransmissions other, work ∈ before.retransmissions other ∨
    other = window ∧ work.psn = psn ∧
      (before.tx window).outstandingPacketContexts psn = some ⟨work.rsn, work.type⟩
  scheduled : after.scheduled = before.scheduled
  reordered : after.reordered = before.reordered
  onward : Onward before after

theorem Handed.rfl : Handed window psn endpoint endpoint :=
  ⟨fun _ => .rfl, fun _ _ => .inl, .refl _, .refl _, .rfl⟩

theorem Handed.same {middle after : Endpoint} (handed : Handed window psn before middle)
    (same : SameBooks middle after) : Handed window psn before after := by
  refine ⟨fun other => ?_, fun other work queued => ?_, same.scheduled.trans handed.scheduled,
    same.reordered.trans handed.reordered, handed.onward.trans same.onward⟩
  · have first := handed.windows other
    have second := same.windows other
    exact ⟨⟨second.counter.trans first.counter, second.outstanding.trans first.outstanding,
      second.contexts.trans first.contexts⟩, second.base.trans first.base,
      second.next.trans first.next, second.bits.trans first.bits⟩
  · exact handed.queued other work (same.retransmissions ▸ queued)

theorem erase_outstanding_apply (window other : WindowType) (psn : UInt32) :
    (endpoint.eraseOutstanding window psn).tx other =
      if other = window then
        { endpoint.tx other with
          outstandingPackets := eraseWork (endpoint.tx other).outstandingPackets psn }
      else endpoint.tx other :=
  modify_tx_apply window other fun tx =>
    { tx with outstandingPackets := eraseWork tx.outstandingPackets psn }

theorem erased_requeued {middle : Endpoint} (handed : Handed window psn before middle) :
    Requeued window psn before (middle.eraseOutstanding window psn) := by
  refine ⟨fun other => ?_, fun other => ?_, fun other => ?_, fun other work waits => ?_,
    handed.queued, pending_work_same handed.scheduled handed.reordered, ?_⟩
  · have same := handed.windows other
    rw [erase_outstanding_apply]
    split_ifs
    · exact ⟨same.base, same.next, same.bits⟩
    · exact ⟨same.base, same.next, same.bits⟩
  · rw [erase_outstanding_apply]
    split_ifs <;> exact (handed.windows other).contexts
  · rw [erase_outstanding_apply]
    split_ifs <;> exact (handed.windows other).counter
  · rw [erase_outstanding_apply] at waits
    split_ifs at waits with here
    · obtain ⟨member, differs⟩ := mem_erase_work.1 waits
      exact ⟨(handed.windows other).outstanding ▸ member, fun _ => differs⟩
    · exact ⟨(handed.windows other).outstanding ▸ waits, fun same => absurd same here⟩
  · exact ⟨handed.onward.back, handed.onward.waiting⟩

/-- A packet with a context, marked and handed to the retransmission scheduler. -/
theorem initiated_handed {work : RetransmissionWorkId} {located : Located}
    {packet : Reliability.PacketMetadata} (recorded : Recorded endpoint)
    (found : (endpoint.tx window).outstandingPacketContexts work.psn = some ⟨work.rsn, work.type⟩)
    (read : endpoint.locate work.rsn work.type = .ok located)
    (psn : packet.psn = located.packet.psn)
    (attempts : packet.transmitAttempts = located.packet.transmitAttempts) :
    Ensures ((endpoint.setPacket located work.type packet).initiateRetransmission config work.rsn
        work.type) (Handed window work.psn endpoint) := by
  have marked := set_packet_books read psn attempts
  refine ensures_map.2 fun again readAgain => ?_
  obtain ⟨rsn, outgoing, held, again_⟩ := locate_eq_ok.1 readAgain
  have recordedMarked := recorded_onward recorded (fun other => (marked.windows other).toSameRecords)
    marked.retransmissions marked.onward
  have foundMarked := (marked.windows window).contexts ▸ found
  obtain ⟨_, same⟩ := recordedMarked.metadata window work.psn _ again.key again.transaction foundMarked
    rsn.symm outgoing held
  have number : again.packet.psn = work.psn := by
    refine same (again.packet.psn, again.packet.transmitAttempts) ?_
    simp only [numbers, again_, Option.map_some]
  have place : windowOf work.type = window := recorded.windows window work.psn _ found
  dsimp only
  rw [place, number]
  generalize queues : Function.update (endpoint.setPacket located work.type packet).retransmissions
    window (insertWork ⟨work.rsn, work.psn, work.type⟩
      ((endpoint.setPacket located work.type packet).retransmissions window)) = retransmissions
  have handed : Handed window work.psn endpoint
      { endpoint.setPacket located work.type packet with retransmissions := retransmissions } := by
    refine ⟨marked.windows, fun other next queued => ?_, rfl, rfl,
      ⟨marked.onward.back, marked.onward.waiting⟩⟩
    subst queues
    dsimp only at queued
    by_cases here : other = window
    · subst here
      rw [Function.update_self] at queued
      rcases mem_insert_work queued with rfl | earlier
      · exact .inr ⟨rfl, rfl, found⟩
      · exact .inl earlier
    · rw [Function.update_of_ne here] at queued
      exact .inl queued
  split_ifs
  · have lowered : SameBooks
        { endpoint.setPacket located work.type packet with retransmissions := retransmissions }
        (decrementOutstandingRetransmittedRequestCount config
          { endpoint.setPacket located work.type packet with retransmissions := retransmissions }
          work.type false) := decremented_retransmitted_books work.type false
    exact handed.same lowered
  · exact handed

/-! ## The scans -/

/-- The packets that are about to be looked at wait for their acknowledgement. -/
def Listed (endpoint : Endpoint) (window : WindowType) (works : List RetransmissionWorkId) : Prop :=
  ∀ work ∈ works,
    (endpoint.tx window).outstandingPacketContexts work.psn = some ⟨work.rsn, work.type⟩

theorem listed_outstanding (kept : Kept config sent answered limit endpoint) (window : WindowType) :
    Listed endpoint window (endpoint.tx window).outstandingPackets :=
  fun work waits => kept.books.recorded.works window work (.inl waits)

theorem Listed.requeued {after : Endpoint} {works : List RetransmissionWorkId}
    (listed : Listed before window works) (requeued : Requeued window psn before after) :
    Listed after window works := by
  intro work member
  rw [requeued.contexts]
  exact listed work member

/-- The first of the packets is marked, handed over and taken out. -/
theorem handed_over {work : RetransmissionWorkId} {rest : List RetransmissionWorkId}
    {located : Located} {packet : Reliability.PacketMetadata}
    (kept : Kept config sent answered limit endpoint)
    (listed : Listed endpoint window (work :: rest))
    (read : endpoint.locate work.rsn work.type = .ok located)
    (psn : packet.psn = located.packet.psn)
    (attempts : packet.transmitAttempts = located.packet.transmitAttempts) :
    Ensures ((endpoint.setPacket located work.type packet).initiateRetransmission config work.rsn
        work.type) fun initiated =>
      Kept config sent answered limit (initiated.eraseOutstanding window work.psn) ∧
        Listed (initiated.eraseOutstanding window work.psn) window rest := by
  have found := listed work List.mem_cons_self
  refine (initiated_handed kept.books.recorded found read psn attempts).mono fun initiated handed => ?_
  have requeued := erased_requeued handed
  exact ⟨requeued_kept requeued kept,
    Listed.requeued (fun other member => listed other (List.mem_cons_of_mem work member)) requeued⟩

theorem scanned_outstanding_kept (ack : AckPacket) (limits : Int) (window : WindowType)
    (works : List RetransmissionWorkId) (force : Bool)
    (kept : Kept config sent answered limit endpoint) (listed : Listed endpoint window works) :
    Ensures (scanOutstanding config ack limits window works force endpoint)
      (Kept config sent answered limit) := by
  induction works generalizing force endpoint with
  | nil => exact ensures_ok.2 kept
  | cons work rest ih =>
    have later : Listed endpoint window rest :=
      fun other member => listed other (List.mem_cons_of_mem work member)
    refine ensures_ite (fun _ => ensures_ok.2 kept) fun _ => ?_
    refine ensures_ite (fun _ => ih force kept later) fun _ => ?_
    refine ensures_bind fun located read => ?_
    refine ensures_ite (fun _ => ensures_ok.2 kept) fun _ => ?_
    refine ensures_ite (fun _ => ?_) fun _ => ?_
    · refine ensures_ite (fun _ => ensures_error) fun _ => ?_
      refine Ensures.bind (handed_over kept listed read ?_ ?_) fun initiated ⟨held, still⟩ =>
        ih _ held still
      · rfl
      · rfl
    · exact ensures_ite (fun _ => ih force kept later) fun _ => ensures_ok.2 kept

theorem eack_kept (ack : AckPacket) (kept : Kept config sent answered limit endpoint) :
    Ensures (endpoint.handleEack config ack) (Kept config sent answered limit) := by
  refine (bits_kept _ .request kept).bind fun requests first => ?_
  refine (bits_kept _ .data first).bind fun acked second => ?_
  refine Ensures.bind (M := Kept config sent answered limit) ?_ fun marked third => ?_
  · refine ensures_ite (fun _ => ?_) fun _ => ensures_ok.2 second
    exact (kept_frame (marked_all_received_books _ _ .request) second).bind fun _ held =>
      kept_frame (marked_all_received_books _ _ .data) held
  · have scanned {before : Endpoint} (limits : Int) (window : WindowType)
        (held : Kept config sent answered limit before) :
        Ensures (before.scanWindow config ack limits window) (Kept config sent answered limit) :=
      scanned_outstanding_kept ack limits window _ false held (listed_outstanding held window)
    refine ensures_ite (fun _ => ?_) fun _ => ensures_ok.2 third
    exact (scanned _ .request third).bind fun _ held => scanned _ .data held

theorem ack_kept (ack : AckPacket) (kept : Kept config sent answered limit endpoint) :
    Ensures (endpoint.handleAck config ack) (Kept config sent answered limit) := by
  refine ensures_ite (fun _ => ensures_ok.2 kept) fun _ => ?_
  refine (both_moved_up ack.bpsn ack.own kept).bind fun acked moved => ?_
  refine Ensures.bind (M := Kept config sent answered limit)
    (ensures_ite (fun _ => eack_kept ack moved) fun _ => ensures_ok.2 moved) fun handled held => ?_
  dsimp only
  split_ifs
  · exact kept_frame acknowledged_books (kept_same (rack_update_books config _) held)
  · exact kept_frame acknowledged_books held

/-! ## NACKs -/

theorem scanned_nacked_kept (nack : NackPacket) (window : WindowType)
    (works : List RetransmissionWorkId) (kept : Kept config sent answered limit endpoint)
    (listed : Listed endpoint window works) :
    Ensures (scanNacked config nack window works endpoint) (Kept config sent answered limit) := by
  induction works generalizing endpoint with
  | nil => exact ensures_ok.2 kept
  | cons work rest ih =>
    refine ensures_ite (fun _ => ensures_ok.2 kept) fun _ => ?_
    refine ensures_ite (fun _ => ensures_error) fun _ => ensures_bind fun located read => ?_
    refine ensures_ite (fun _ => ensures_ok.2 kept) fun _ => ?_
    refine ensures_ite (fun _ => ?_) fun _ => ensures_ok.2 kept
    refine Ensures.bind (handed_over kept listed read ?_ ?_) fun initiated ⟨held, still⟩ =>
      ih held still
    · rfl
    · rfl

/-- What is handed over to the ULP may be more, as long as no packet is sent for it. -/
theorem reordered_kept (work : WorkId) (last : nextWork work = none)
    (kept : Kept config sent answered limit endpoint) :
    Kept config sent answered limit { endpoint with reordered := endpoint.reordered ++ [work] } := by
  have pending : pendingWork { endpoint with reordered := endpoint.reordered ++ [work] } =
      pendingWork endpoint := by
    simp [pendingWork, last]
  refine ⟨books_onward kept.books (fun _ => ⟨rfl, rfl, rfl⟩) rfl ⟨Onward.rfl.back, Onward.rfl.waiting⟩
    (pending ▸ kept.books.queued.distinct) fun _ => pending ▸ id, kept.aligned⟩

/-- A packet that is cancelled is taken out of those that wait; its completion makes no packet be
sent. -/
theorem cancelled_kept (nack : NackPacket) (generateCompletion : Bool)
    (kept : Kept config sent answered limit endpoint) :
    Ensures (endpoint.cancelRetransmissionAndTriggerResync nack generateCompletion)
      (Kept config sent answered limit) := by
  unfold cancelRetransmissionAndTriggerResync
  cases (endpoint.tx nack.window).outstandingPacketContexts nack.nackPsn with
  | none => exact ensures_error
  | some context =>
    have cancelled : Kept config sent answered limit
        (if containsPsn (endpoint.tx nack.window).outstandingPackets nack.nackPsn then
          endpoint.eraseOutstanding nack.window nack.nackPsn else endpoint) := by
      split_ifs
      · exact requeued_kept (erased_requeued .rfl) kept
      · exact kept
    generalize (if containsPsn (endpoint.tx nack.window).outstandingPackets nack.nackPsn then
      endpoint.eraseOutstanding nack.window nack.nackPsn else endpoint) = middle at cancelled
    refine ensures_ok.2 ?_
    cases generateCompletion with
    | true => exact reordered_kept ⟨context.rsn, .nack⟩ rfl cancelled
    | false => exact cancelled

theorem nack_code_kept (nack : NackPacket) (kept : Kept config sent answered limit endpoint) :
    Ensures (endpoint.handleNackCode config nack) (Kept config sent answered limit) := by
  unfold handleNackCode
  cases nack.code with
  | rxResourceExhaustion => exact ensures_ok.2 kept
  | ulpReceiverNotReady => exact kept_frame (rnr_nacked_books nack) kept
  | rxWindowError =>
    refine ensures_ite (fun _ => ensures_ok.2 kept) fun _ => ?_
    exact scanned_nacked_kept nack _ _ kept (listed_outstanding kept _)
  | ulpCompletionInError => exact cancelled_kept nack true kept
  | ulpNonRecoverableError => exact cancelled_kept nack true kept
  | invalidCidError => exact cancelled_kept nack true kept
  | xlrDrop => exact cancelled_kept nack false kept
  | notANack => exact ensures_error

theorem nack_kept (nack : NackPacket) (kept : Kept config sent answered limit endpoint) :
    Ensures (endpoint.handleNack config nack) (Kept config sent answered limit) := by
  refine (piggybacked_kept _ _ kept).bind fun acked first => ?_
  refine (nack_code_kept nack first).bind fun handled second => ?_
  refine (kept_frame (rack_updated_by_nack_books nack) second).bind fun updated third => ?_
  exact kept_frame acknowledged_books third

/-! ## Timeouts -/

/-- What a timeout writes to a packet is not its PSN and not its attempts. -/
theorem marked_timeout_numbers (packet : Reliability.PacketMetadata) :
    Ensures (endpoint.markTimeout config packet) fun marked =>
      marked.psn = packet.psn ∧ marked.transmitAttempts = packet.transmitAttempts := by
  refine ensures_ite (fun _ => ensures_ok.2 ⟨rfl, rfl⟩) fun _ => ?_
  refine ensures_ite (fun _ => ensures_error) fun _ => ?_
  exact ensures_ite (fun _ => ensures_ok.2 ⟨rfl, rfl⟩) fun _ => ensures_ok.2 ⟨rfl, rfl⟩

theorem scanned_expired_kept (window : WindowType) (works : List RetransmissionWorkId)
    (kept : Kept config sent answered limit endpoint) (listed : Listed endpoint window works) :
    Ensures (scanExpired config window works endpoint) (Kept config sent answered limit) := by
  induction works generalizing endpoint with
  | nil => exact ensures_ok.2 kept
  | cons work rest ih =>
    have later : Listed endpoint window rest :=
      fun other member => listed other (List.mem_cons_of_mem work member)
    refine ensures_bind fun isAcked _ => ensures_ite (fun _ => ?_) fun _ => ?_
    · have requeued : Requeued window work.psn endpoint
          (endpoint.eraseOutstanding window work.psn) := erased_requeued .rfl
      exact ih (requeued_kept requeued kept) (later.requeued requeued)
    · refine ensures_bind fun located read => ensures_ite (fun _ => ensures_ok.2 kept) fun _ => ?_
      refine (marked_timeout_numbers located.packet).bind fun marked ⟨psn, attempts⟩ => ?_
      exact (handed_over kept listed read psn attempts).bind fun initiated ⟨held, still⟩ =>
        ih held still

theorem timeout_kept (kept : Kept config sent answered limit endpoint) :
    Ensures (endpoint.handleRetransmitTimeout config) (Kept config sent answered limit) := by
  refine ensures_ite (fun _ => ensures_ok.2 kept) fun _ => ?_
  have same : SameBooks endpoint endpoint.clearRtoExpirationTime :=
    ⟨fun _ => .rfl, rfl, rfl, rfl, fun _ => rfl⟩
  have cleared := kept_same same kept
  have scanned {before : Endpoint} (window : WindowType)
      (held : Kept config sent answered limit before) :
      Ensures (scanExpired config window (before.tx window).outstandingPackets before)
        (Kept config sent answered limit) :=
    scanned_expired_kept window _ held (listed_outstanding held window)
  refine (scanned .request cleared).bind fun requests first => ?_
  exact (scanned .data first).bind fun expired second => kept_frame setup_books second

/-! ## The probe -/

theorem first_unreceived_mem (works : List RetransmissionWorkId) :
    Ensures (firstUnreceived config endpoint works) fun found =>
      ∀ work ∈ found, work.1 ∈ works := by
  induction works with
  | nil =>
    rintro found ⟨⟩ work held
    cases held
  | cons work rest ih =>
    refine ensures_bind fun located _ => ensures_ite (fun _ => ?_) fun _ => ensures_ok.2 ?_
    · exact ih.mono fun found member candidate same =>
        List.mem_cons_of_mem work (member candidate same)
    · rintro candidate ⟨⟩
      exact List.mem_cons_self

theorem first_candidate_mem (window : WindowType) :
    Ensures (endpoint.firstCandidate config window) fun found =>
      ∀ work ∈ found, work ∈ (endpoint.tx window).outstandingPackets := by
  refine ensures_ite (fun _ => ensures_map.2 ?_) fun _ => ensures_ok.2 fun work first => ?_
  · refine (first_unreceived_mem _).mono fun found member work same => ?_
    obtain ⟨candidate, held, rfl⟩ := Option.map_eq_some_iff.1 same
    exact member candidate held
  · exact List.mem_of_mem_head? first

/-- The probe that is chosen is a packet that waits. -/
theorem probe_mem :
    Ensures (if config.tlpType = .last then endpoint.tlpRetransmitLast config
        else endpoint.tlpRetransmitFirst config) fun found =>
      ∀ probe ∈ found, probe.2 ∈ (endpoint.tx probe.1).outstandingPackets := by
  refine ensures_ite (fun _ => ?_) fun _ => ?_
  · refine (first_unreceived_mem _).bind fun request first => ensures_map.2 ?_
    refine (first_unreceived_mem _).mono fun data second => ?_
    have fromRequest (work) (member : work ∈ request) :
        work.1 ∈ (endpoint.tx .request).outstandingPackets :=
      List.mem_reverse.1 (first work member)
    have fromData (work) (member : work ∈ data) :
        work.1 ∈ (endpoint.tx .data).outstandingPackets :=
      List.mem_reverse.1 (second work member)
    cases request <;> cases data <;> dsimp only
    · nofun
    · rintro probe ⟨⟩
      exact fromData _ rfl
    · rintro probe ⟨⟩
      exact fromRequest _ rfl
    · split_ifs <;> rintro probe ⟨⟩
      · exact fromData _ rfl
      · exact fromRequest _ rfl
  · refine (first_candidate_mem _).bind fun request first => ensures_map.2 ?_
    refine (first_candidate_mem _).mono fun data second => ?_
    cases request <;> cases data <;> dsimp only
    · nofun
    · rintro probe ⟨⟩
      exact second _ rfl
    · rintro probe ⟨⟩
      exact first _ rfl
    · split_ifs <;> rintro probe ⟨⟩
      · exact second _ rfl
      · exact first _ rfl

theorem probe_kept (kept : Kept config sent answered limit endpoint) :
    Ensures (endpoint.handleTlpTimeout config) (Kept config sent answered limit) := by
  refine ensures_ite (fun _ => ensures_ok.2 kept) fun _ => ?_
  have same : SameBooks endpoint { endpoint with tlpPto := 0 } :=
    ⟨fun _ => .rfl, rfl, rfl, rfl, fun _ => rfl⟩
  have cleared := kept_same same kept
  dsimp only
  generalize { endpoint with tlpPto := 0 } = middle at cleared
  refine probe_mem.bind fun found member => ?_
  cases found with
  | none => exact ensures_ok.2 cleared
  | some probe =>
    obtain ⟨window, work⟩ := probe
    have waits := member (window, work) rfl
    refine ensures_bind fun located read => ?_
    refine ensures_ite (fun _ => ensures_ok.2 cleared) fun _ => ensures_map.2 ?_
    have listed : Listed middle window [work] := by
      intro other only
      rw [List.mem_singleton.1 only]
      exact listed_outstanding cleared window work waits
    refine Ensures.mono (handed_over cleared listed read ?_ ?_) fun initiated held => held.1
    · rfl
    · rfl

end Isekai.RetransmissionBooks
