import Isekai.BooksRunProofs
import Isekai.TimerFrameProofs

/-! The lists that stand for the ordered sets of outstanding packets hold no two packets with one
PSN. Nothing but a transmission adds a packet to them, and what it adds was not there. -/

namespace Isekai.TimerFrameProofs

theorem Thinned.of_books {endpoint after : Reliability.Endpoint}
    (same : OutstandingBooks.SameBooks endpoint after) : Thinned endpoint after := by
  intro window
  rw [(same.windows window).outstanding]

end Isekai.TimerFrameProofs

namespace Isekai.OutstandingSets
open Outcomes Reliability Reliability.Endpoint OutstandingBooks BookFrameProofs
open AcknowledgementBooks AcknowledgementLoops BooksRunProofs WindowAlignment TimerFrameProofs

variable {config : Config} {endpoint : Endpoint}

theorem thinned_of_books {outcome : Except Abort Endpoint}
    (same : Ensures outcome (SameBooks endpoint)) : Ensures outcome (Thinned endpoint) :=
  same.mono fun _ => .of_books

theorem modified_thinned {window : WindowType} {change : TxWindow → TxWindow}
    (fewer : ∀ tx, (change tx).outstandingPackets.Sublist tx.outstandingPackets) :
    Thinned endpoint (endpoint.modifyTx window change) :=
  (modified_tx_framed fewer).thinned

theorem updated_state_thinned (key : TransactionKey) (type : PacketType)
    (stage : TransactionStage) :
    Ensures (endpoint.updateState key type stage) (Thinned endpoint) :=
  thinned_of_framed (updated_state_framed key type stage)

/-! ## Acknowledgements -/

theorem acknowledged_timers_thinned :
    Ensures ((endpoint.setupTlpTimer config).setupRetransmitTimer config) (Thinned endpoint) :=
  thinned_of_books acknowledged_books

theorem piggybacked_thinned (bpsn : WindowType → UInt32) (own : WindowType → Bool) :
    Ensures (endpoint.handlePiggybackedAck config bpsn own) (Thinned endpoint) :=
  ensures_ite (fun _ => ensures_ok.2 .rfl) fun _ =>
    related_bind (thinned_of_framed (acknowledged_windows_framed bpsn own)) fun _ =>
      acknowledged_timers_thinned

theorem ack_thinned (ack : AckPacket) :
    Ensures (endpoint.handleAck config ack) (Thinned endpoint) := by
  refine ensures_ite (fun _ => ensures_ok.2 .rfl) fun _ => ?_
  refine related_bind (thinned_of_framed (acknowledged_windows_framed ack.bpsn ack.own))
    fun acked => ?_
  refine related_bind (ensures_ite (fun _ => thinned_of_framed (handled_eack_framed ack)) fun _ =>
    ensures_ok.2 .rfl) fun handled => ?_
  dsimp only
  split_ifs
  · exact acknowledged_timers_thinned.mono fun after near =>
      near.after (.of_books (rack_update_books config _))
  · exact acknowledged_timers_thinned

theorem implicitly_thinned (packet : Packet) :
    Ensures (endpoint.handleImplicitAck config packet) (Thinned endpoint) := by
  unfold handleImplicitAck
  cases answeredPacket packet.type with
  | none => exact ensures_ok.2 .rfl
  | some answer =>
    obtain ⟨location, type, window⟩ := answer
    refine ensures_bind fun transaction _ => ensures_bind fun answered _ => ?_
    refine ensures_ite (fun _ => ensures_ok.2 .rfl) fun _ => ensures_bind fun isAcked _ => ?_
    refine ensures_ite (fun _ => ensures_ok.2 .rfl) fun _ => ?_
    refine related_bind (thinned_of_framed (acknowledged_framed window _)) fun acked =>
      ensures_bind fun bits _ => ?_
    refine acknowledged_timers_thinned.mono fun after near => ?_
    refine near.after (modified_thinned fun tx => ?_)
    split_ifs <;> exact .refl _

/-! ## NACKs and timeouts -/

theorem nack_thinned (nack : NackPacket) :
    Ensures (endpoint.handleNack config nack) (Thinned endpoint) := by
  refine related_bind (piggybacked_thinned _ _) fun acked => ?_
  refine related_bind ?_ fun handled => ?_
  · unfold handleNackCode
    cases nack.code with
    | rxResourceExhaustion => exact ensures_ok.2 .rfl
    | ulpReceiverNotReady => exact thinned_of_books (rnr_nacked_books nack)
    | rxWindowError =>
      exact ensures_ite (fun _ => ensures_ok.2 .rfl) fun _ =>
        thinned_of_framed (scanned_nacked_framed nack _ _)
    | ulpCompletionInError => exact thinned_of_framed (cancelled_framed nack true)
    | ulpNonRecoverableError => exact thinned_of_framed (cancelled_framed nack true)
    | invalidCidError => exact thinned_of_framed (cancelled_framed nack true)
    | xlrDrop => exact thinned_of_framed (cancelled_framed nack false)
    | notANack => exact ensures_error
  · exact related_bind (thinned_of_books (rack_updated_by_nack_books nack)) fun updated =>
      acknowledged_timers_thinned

theorem timeout_thinned :
    Ensures (endpoint.handleRetransmitTimeout config) (Thinned endpoint) := by
  refine ensures_ite (fun _ => ensures_ok.2 .rfl) fun _ => ?_
  refine Ensures.bind (thinned_of_framed (scanned_expired_framed .request _)) fun scanned near => ?_
  refine Ensures.bind (thinned_of_framed (scanned_expired_framed .data _)) fun expired far => ?_
  exact (thinned_of_books setup_books).mono fun after last =>
    last.after (far.after (near.after (.of_tx rfl)))

theorem probe_thinned : Ensures (endpoint.handleTlpTimeout config) (Thinned endpoint) := by
  refine ensures_ite (fun _ => ensures_ok.2 .rfl) fun _ => ensures_bind fun found _ => ?_
  cases found with
  | none => exact ensures_ok.2 (.of_tx rfl)
  | some choice =>
    refine ensures_bind fun located _ =>
      ensures_ite (fun _ => ensures_ok.2 (.of_tx rfl)) fun _ => ?_
    exact ensures_map.2 ((handed_over_framed _ _).mono fun initiated near =>
      near.thinned.after (.of_tx rfl))

/-! ## Arrivals -/

theorem admitted_thinned (packet : Packet) (index : Nat) :
    Ensures (endpoint.admitPacket config packet index) (Thinned endpoint) := by
  refine related_bind (implicitly_thinned packet) fun acked => ensures_bind fun received _ => ?_
  refine Ensures.bind (M := Thinned acked) ?_ fun updated near => ensures_bind fun location _ => ?_
  · refine ensures_ite (fun _ => ensures_ok.2 (.of_tx rfl)) fun _ => ?_
    exact (thinned_of_books (updated_bitmap_books _ _)).mono fun updated near =>
      near.after (.of_tx rfl)
  · exact (piggybacked_thinned _ _).mono fun after far =>
      far.after (Thinned.after (.of_tx rfl) near)

theorem received_thinned (packet : Packet) (resourcesAvailable : Bool) :
    Ensures (endpoint.receivePacket config packet resourcesAvailable)
      fun result => Thinned endpoint result.1 := by
  refine Ensures.bind (M := fun result => Thinned endpoint result.1) ?_ fun result near => ?_
  · refine ensures_ite (fun _ => ensures_ok.2 .rfl) fun _ => ensures_ite (fun _ => ?_) fun _ => ?_
    · refine ensures_ok.2 ?_
      dsimp only
      split_ifs
      · exact .of_tx rfl
      · exact .rfl
    · refine ensures_bind fun isReceived _ => ensures_ite (fun _ => ?_) fun _ => ?_
      · exact ensures_map.2 fun _ _ => .rfl
      · refine ensures_ite (fun _ => ?_) fun _ => ?_
        · exact ensures_map.2 (admitted_thinned packet _)
        · exact ensures_map.2 (piggybacked_thinned _ _)
  · obtain ⟨received, accepted⟩ := result
    refine ensures_ite (fun _ => ?_) fun _ => ensures_ok.2 near
    refine ensures_map.2 (ensures_bind fun transaction _ => ensures_map.2 fun request _ => ?_)
    have lowered : Thinned received received.decrementOutstandingRequestCountOnPullResponse :=
      modified_thinned fun _ => .refl _
    have twice : Thinned received
        (decrementOutstandingRetransmittedRequestCountOnPullResponse
          (decrementOutstandingRequestCountOnPullResponse received)) :=
      Thinned.after (modified_thinned fun _ => .refl _) lowered
    dsimp only
    split_ifs
    · exact twice.after near
    · exact lowered.after near

theorem transferred_thinned (packet : Packet) (resourcesAvailable isRnr : Bool)
    (rnrTimeout : Int) :
    Ensures (endpoint.transferRxPacket config packet resourcesAvailable isRnr rnrTimeout)
      (Thinned endpoint) := by
  refine Ensures.bind (received_thinned packet resourcesAvailable) fun result near => ?_
  obtain ⟨received, accepted⟩ := result
  refine ensures_ite (fun _ => ?_) fun _ => ensures_ok.2 near
  refine Ensures.bind (M := Thinned received) ?_ fun created far => ?_
  · refine ensures_bind fun location _ => ?_
    dsimp only
    generalize (received.transactions ⟨packet.rsn, location⟩).or _ = started
    cases started with
    | none => exact ensures_error
    | some transaction =>
      exact (updated_state_thinned _ _ _).mono fun after last => last.after (.of_tx rfl)
  · refine ensures_ite (fun _ => ?_) fun _ => ensures_ok.2 ?_
    · refine Ensures.bind (updated_state_thinned _ _ _) fun refused last => ?_
      exact (thinned_of_books (nacked_from_ulp_books _ _ _)).mono fun after final =>
        final.after (last.after (far.after near))
    · exact Thinned.after (.of_tx rfl) (far.after near)

/-! ## The ULP and the rate update engine -/

theorem initiated_transaction_thinned (operation : UlpOperation) :
    Ensures (endpoint.initiateTransaction operation) (Thinned endpoint) := by
  cases operation with
  | readRequest =>
    exact ensures_map.2 ((updated_state_thinned _ _ _).mono fun _ near =>
      Thinned.after (.of_tx rfl) (near.after (.of_tx rfl)))
  | readResponse rsn =>
    refine ensures_bind fun transaction _ => ?_
    exact ensures_map.2 ((updated_state_thinned _ _ _).mono fun _ near =>
      Thinned.after (.of_tx rfl) (near.after (.of_tx rfl)))
  | write solicited =>
    cases solicited <;>
    exact ensures_map.2 ((updated_state_thinned _ _ _).mono fun _ near =>
      Thinned.after (.of_tx rfl) (near.after (.of_tx rfl)))

theorem acked_transaction_thinned (rsn : UInt32) :
    Ensures (endpoint.ackTransaction rsn) (Thinned endpoint) := by
  refine ensures_bind fun transaction _ => related_bind (updated_state_thinned _ _ _) ?_
  intro updated
  unfold handleAckFromUlp
  cases updated.receivedPacketContexts ⟨rsn, .target⟩ with
  | none => exact ensures_error
  | some context =>
    refine ensures_ite (fun _ => ensures_ok.2 .rfl) fun _ => ?_
    exact (thinned_of_books (updated_bitmap_books _ _)).mono fun after near =>
      near.after (.of_tx rfl)

theorem nacked_transaction_thinned (rsn : UInt32) (isRnr : Bool) (rnrTimeout : Int) :
    Ensures (endpoint.nackTransaction rsn isRnr rnrTimeout) (Thinned endpoint) := by
  refine related_bind (thinned_of_books (nacked_from_ulp_books rsn isRnr rnrTimeout))
    fun noted => ?_
  refine ensures_ite (fun _ => ?_) fun _ => ensures_ok.2 .rfl
  exact ensures_bind fun transaction _ => updated_state_thinned _ _ _

theorem delivered_thinned (work : WorkId) :
    Ensures (endpoint.reorderCallback work) (Thinned endpoint) := by
  have handed (location : TransactionLocation) (type : PacketType) : Ensures
      ((endpoint.updateState ⟨work.rsn, location⟩ type .ulpTx).map fun delivered =>
        if type = .pullData then delivered.eraseTransaction ⟨work.rsn, location⟩ else delivered)
      (Thinned endpoint) := by
    refine ensures_map.2 ((updated_state_thinned _ _ _).mono fun delivered near => ?_)
    split_ifs
    · exact Thinned.after (.of_tx rfl) near
    · exact near
  obtain ⟨rsn, type⟩ := work
  cases type with
  | pullRequest | pullData | pushSolicitedData | pushUnsolicitedData =>
    exact ensures_bind fun transaction _ => ensures_bind fun packet _ => handed _ _
  | pushRequest | pushGrant =>
    refine ensures_bind fun transaction _ => ?_
    exact ensures_map.2 fun packet _ => .of_tx rfl
  | ack =>
    refine ensures_bind fun transaction _ => ensures_ite (fun _ => ensures_error) fun _ => ?_
    exact ensures_map.2 ((updated_state_thinned _ _ _).mono fun completed near =>
      Thinned.after (.of_tx rfl) near)
  | nack => exact ensures_ok.2 .rfl
  | _ => exact ensures_error

theorem rates_thinned (fabricCongestionWindow nicCongestionWindow : UInt32)
    (retransmitTimeout rtt : Int) :
    Ensures (endpoint.updateRates config fabricCongestionWindow nicCongestionWindow
      retransmitTimeout rtt) (Thinned endpoint) := by
  refine ensures_ite (fun _ => ?_) fun _ => ensures_ok.2 (.of_tx rfl)
  exact (thinned_of_books setup_books).mono fun after near => near.after (.of_tx rfl)

/-- Nothing but a transmission adds an outstanding packet. -/
theorem event_thinned (event : Event) (silent : ∀ work, event ≠ .transmit work)
    (still : ∀ window work, event ≠ .retransmit window work) :
    Ensures (endpoint.perform config event) (Thinned endpoint) := by
  cases event with
  | transmit work => exact absurd rfl (silent work)
  | retransmit window work => exact absurd rfl (still window work)
  | tick now => exact ensures_ok.2 (.of_tx rfl)
  | receivePacket packet resourcesAvailable isRnr rnrTimeout =>
    exact transferred_thinned packet resourcesAvailable isRnr rnrTimeout
  | receiveAck ack => exact ack_thinned ack
  | receiveNack nack => exact nack_thinned nack
  | retransmitTimeout => exact timeout_thinned.mono fun after near => near.after (.of_tx rfl)
  | tlpTimeout => exact probe_thinned.mono fun after near => near.after (.of_tx rfl)
  | updateRates fabricCongestionWindow nicCongestionWindow retransmitTimeout rtt =>
    exact rates_thinned _ _ _ _
  | initiate operation => exact initiated_transaction_thinned operation
  | ackTransaction rsn => exact acked_transaction_thinned rsn
  | nackTransaction rsn isRnr rnrTimeout => exact nacked_transaction_thinned rsn isRnr rnrTimeout
  | deliver work => exact (delivered_thinned work).mono fun after near => near.after (.of_tx rfl)
  | others prng outstandingConnCounter outstandingPktCounter => exact ensures_ok.2 (.of_tx rfl)

/-! ## Transmissions -/

/-- The PSN under which a packet is sent. -/
def sentPsn (endpoint : Endpoint) (located : Located) (type : PacketType) : UInt32 :=
  if located.packet.transmitAttempts + 1 != 1 then located.packet.psn
  else (endpoint.tx (windowOf type)).nextPacketSequenceNumber

/-- At most the packet that is sent joins an outstanding set. -/
theorem transmitted_inserts (rsn : UInt32) (type : PacketType) :
    Ensures (endpoint.transmitPacket config rsn type) fun result => ∃ located,
      endpoint.locate rsn type = .ok located ∧ ∀ window,
        (result.1.tx window).outstandingPackets.Sublist
          (if window = windowOf type then
            insertWork ⟨rsn, sentPsn endpoint located type, type⟩
              (endpoint.tx window).outstandingPackets
          else (endpoint.tx window).outstandingPackets) := by
  refine ensures_bind fun located read => ?_
  dsimp only
  generalize isNumbered : (if located.packet.transmitAttempts + 1 != 1 then endpoint
    else endpoint.assignPsn (windowOf type)) = numbered
  have outstanding (window : WindowType) :
      (numbered.tx window).outstandingPackets = (endpoint.tx window).outstandingPackets := by
    subst isNumbered
    split_ifs
    · rfl
    · unfold assignPsn
      rw [modify_tx_apply]
      split_ifs <;> rfl
  refine Ensures.bind (thinned_of_books setup_books) fun timed near => ?_
  refine ensures_map.2 (@Ensures.mono _ _ _ _ (Thinned timed) ?_ fun counted far =>
    ⟨located, read, fun window => ?_⟩)
  · have probed : Thinned timed (timed.setupTlpTimer config) := .of_books tlp_timer_books
    have created : Thinned timed
        ((timed.setupTlpTimer config).createReceiverPacketContext located.key) := probed
    refine ensures_ite (fun _ => ensures_ok.2 ?_) fun _ => ?_
    · exact Thinned.after (.of_books (incremented_retransmitted_books type)) created
    · refine (updated_state_thinned _ _ _).mono fun after last => last.after ?_
      refine Thinned.after ?_ created
      unfold incrementOutstandingRequestCount
      split_ifs
      · exact modified_thinned fun _ => .refl _
      · exact .rfl
  · refine ((far window).trans (near window)).trans ?_
    unfold addToOutstandingPackets
    rw [modify_tx_apply]
    by_cases here : window = windowOf type
    · rw [if_pos here, if_pos here]
      change (insertWork ⟨rsn, sentPsn endpoint located type, type⟩
        (numbered.tx window).outstandingPackets).Sublist _
      rw [outstanding]
    · rw [if_neg here, if_neg here]
      change (numbered.tx window).outstandingPackets.Sublist _
      rw [outstanding]

/-! ## The sets -/

/-- No two outstanding packets of a window have one PSN. -/
def Distinct (endpoint : Endpoint) : Prop :=
  ∀ window, ((endpoint.tx window).outstandingPackets.map RetransmissionWorkId.psn).Nodup

theorem Distinct.thinned {after : Endpoint} (distinct : Distinct endpoint)
    (thinned : Thinned endpoint after) : Distinct after :=
  fun window => (distinct window).sublist ((thinned window).map _)

theorem insert_work_perm {work : RetransmissionWorkId} {works : List RetransmissionWorkId}
    (fresh : ∀ other ∈ works, other.psn ≠ work.psn) :
    (insertWork work works).Perm (work :: works) := by
  induction works with
  | nil => exact .refl _
  | cons first rest ih =>
    obtain ⟨differs, later⟩ := List.forall_mem_cons.1 fresh
    unfold insertWork
    split_ifs with same before
    · exact absurd same.symm differs
    · exact .refl _
    · exact ((ih later).cons first).trans (.swap work first rest)

theorem distinct_inserted {work : RetransmissionWorkId} {works : List RetransmissionWorkId}
    (fresh : ∀ other ∈ works, other.psn ≠ work.psn)
    (distinct : (works.map RetransmissionWorkId.psn).Nodup) :
    ((insertWork work works).map RetransmissionWorkId.psn).Nodup := by
  rw [((insert_work_perm fresh).map _).nodup_iff, List.map_cons, List.nodup_cons]
  refine ⟨fun member => ?_, distinct⟩
  obtain ⟨other, waits, same⟩ := List.mem_map.1 member
  exact fresh other waits same

/-- A packet that is not outstanding is sent. -/
theorem distinct_transmitted {rsn : UInt32} {type : PacketType} (distinct : Distinct endpoint)
    (fresh : ∀ located, endpoint.locate rsn type = .ok located →
      ∀ other ∈ (endpoint.tx (windowOf type)).outstandingPackets,
        other.psn ≠ sentPsn endpoint located type) :
    Ensures (endpoint.transmitPacket config rsn type) fun result => Distinct result.1 := by
  refine (transmitted_inserts rsn type).mono fun result ⟨located, read, inserts⟩ window => ?_
  refine List.Nodup.sublist ((inserts window).map _) ?_
  split_ifs with here
  · exact here ▸ distinct_inserted (fresh located read) (distinct _)
  · exact distinct window

variable {sent : WindowType → List OutstandingPacketContext} {answered : Multiset UInt32}
  {limit : WindowType → UInt32}

/-- The next PSN of a window is not outstanding. -/
theorem next_not_outstanding (kept : Kept config sent answered limit endpoint)
    (window : WindowType) : ∀ other ∈ (endpoint.tx window).outstandingPackets,
      other.psn ≠ (endpoint.tx window).nextPacketSequenceNumber := by
  intro other waits same
  have found := kept.books.recorded.works window other (.inl waits)
  rw [same, (kept.aligned window).vacant] at found
  cases found

theorem event_distinct (kept : Kept config sent answered limit endpoint)
    (distinct : Distinct endpoint) (event : Event) (possible : endpoint.Possible config event) :
    Ensures (endpoint.perform config event) Distinct := by
  by_cases sends : ∃ work, event = .transmit work
  · obtain ⟨work, rfl⟩ := sends
    refine ensures_map.2 ((distinct_transmitted distinct fun located read => ?_).mono
      fun _ => id)
    -- A scheduled packet was not sent before.
    obtain ⟨rsn, outgoing, held, found⟩ := locate_eq_ok.1 read
    obtain ⟨location, transaction, side, holds, waits⟩ :=
      kept.books.queued.waiting work (List.mem_append_left _ possible.1)
    have here : located.key = ⟨work.rsn, location⟩ :=
      TransmissionBooks.same_key outgoing side rsn
    obtain rfl : located.transaction = transaction :=
      Option.some.inj (held.symm.trans (here ▸ holds))
    have attempts : located.packet.transmitAttempts = 0 :=
      kept.books.queued.fresh _ _ work.type (located.packet.psn, located.packet.transmitAttempts)
        held outgoing (TransactionPhases.waiting_unsent waits) (by rw [numbers, found]; rfl)
    unfold sentPsn
    rw [attempts]
    exact next_not_outstanding kept _
  · by_cases resends : ∃ window work, event = .retransmit window work
    · obtain ⟨window, work, rfl⟩ := resends
      refine ensures_map.2 ((distinct_transmitted distinct fun located read => ?_).mono
        fun _ => id)
      -- A packet that waits to be sent again is not outstanding.
      have context := kept.books.recorded.works window work (.inr possible.1)
      obtain rfl : windowOf work.type = window :=
        kept.books.recorded.windows window work.psn _ context
      obtain ⟨rsn, outgoing, held, found⟩ := locate_eq_ok.1 read
      obtain ⟨-, number⟩ :=
        kept.books.recorded.metadata _ _ _ _ _ context rsn.symm outgoing held
      have psn : located.packet.psn = work.psn :=
        number (located.packet.psn, located.packet.transmitAttempts) (by rw [numbers, found]; rfl)
      unfold sentPsn
      split_ifs
      · rw [psn]
        exact fun other waits => kept.books.recorded.apart _ other waits work possible.1
      · exact next_not_outstanding kept _
    · refine (event_thinned event (fun work is => sends ⟨work, is⟩)
        fun window work is => resends ⟨window, work, is⟩).mono fun after thinned => ?_
      exact distinct.thinned thinned

/-- In every reachable state the lists stand for sets. -/
theorem reachable_distinct {logged : Logged}
    (reached : Runs.Reachable (BooksRunProofs.Initial config) (BooksRunProofs.Step config) logged) :
    Distinct logged.endpoint := by
  apply Runs.invariant_of_reachable_with (fun _ => reachable_kept) _ _ reached
  · intro state initial window
    rw [initial.endpoint.tx]
    exact List.nodup_nil
  · rintro before after kept distinct ⟨event, possible, -, performed, -, -⟩
    exact event_distinct kept distinct event possible _ performed

end Isekai.OutstandingSets
