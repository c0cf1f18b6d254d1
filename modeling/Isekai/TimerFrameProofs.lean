import Isekai.Outcomes
import Isekai.ReliabilitySystem

/-! What the handlers of a connection leave alone. Everything but the timer's own set-up keeps the
expiration time, the pending events and the clock, so that a handler which sets the timer up last
can be looked at from there; and nothing but a transmission adds to the outstanding packets. -/

namespace Isekai.TimerFrameProofs
open Outcomes Reliability Reliability.Endpoint

variable {first second third : Endpoint}

/-- A context of a received packet is of a packet that comes in, or makes room for none. -/
def IncomingContexts (endpoint : Endpoint) : Prop :=
  ∀ key context, endpoint.receivedPacketContexts key = some context →
    context.type = .invalid ∨ getTransactionLocation context.type true = .ok key.location

/-- The timer, its events and the clock stay as they are. -/
structure TimersKept (before after : Endpoint) : Prop where
  now : after.now = before.now
  base : after.rtoExpirationBaseTime = before.rtoExpirationBaseTime
  jitter : after.rtoExpirationJitter = before.rtoExpirationJitter
  events : after.rtoEvents = before.rtoEvents
  contexts : IncomingContexts before → IncomingContexts after

instance : IsPreorder Endpoint TimersKept where
  refl _ := ⟨rfl, rfl, rfl, rfl, id⟩
  trans _ _ _ first second :=
    ⟨second.now.trans first.now, second.base.trans first.base, second.jitter.trans first.jitter,
      second.events.trans first.events, second.contexts ∘ first.contexts⟩

theorem TimersKept.rfl {endpoint : Endpoint} : TimersKept endpoint endpoint :=
  refl_of TimersKept endpoint

theorem TimersKept.trans (one : TimersKept first second) (two : TimersKept second third) :
    TimersKept first third :=
  trans_of TimersKept one two

/-- With the later change first, from which the state between the two is read off. -/
theorem TimersKept.after (two : TimersKept second third) (one : TimersKept first second) :
    TimersKept first third :=
  one.trans two

/-- Packets at most left the outstanding sets. -/
def Thinned (before after : Endpoint) : Prop :=
  ∀ window, (after.tx window).outstandingPackets.Sublist (before.tx window).outstandingPackets

instance : IsPreorder Endpoint Thinned where
  refl _ _ := .refl _
  trans _ _ _ first second window := (second window).trans (first window)

theorem Thinned.rfl {endpoint : Endpoint} : Thinned endpoint endpoint := refl_of Thinned endpoint

/-- With the later change first, from which the state between the two is read off. -/
theorem Thinned.after (two : Thinned second third) (one : Thinned first second) :
    Thinned first third :=
  trans_of Thinned one two

/-- Both: the frame of a handler that neither sends a packet nor sets the timer up. -/
structure Framed (before after : Endpoint) : Prop where
  timers : TimersKept before after
  thinned : Thinned before after

instance : IsPreorder Endpoint Framed where
  refl _ := ⟨.rfl, .rfl⟩
  trans _ _ _ first second :=
    ⟨first.timers.trans second.timers, second.thinned.after first.thinned⟩

theorem Framed.rfl {endpoint : Endpoint} : Framed endpoint endpoint := refl_of Framed endpoint

theorem Framed.trans (one : Framed first second) (two : Framed second third) : Framed first third :=
  trans_of Framed one two

theorem Framed.after (two : Framed second third) (one : Framed first second) : Framed first third :=
  one.trans two

variable {config : Config} {endpoint : Endpoint}

theorem Thinned.of_tx {after : Endpoint} (same : after.tx = endpoint.tx) :
    Thinned endpoint after := by
  intro window
  rw [same]

/-- A change that does not touch the packets that are sent. -/
theorem Framed.still {after : Endpoint} (timers : TimersKept endpoint after)
    (same : after.tx = endpoint.tx) : Framed endpoint after :=
  ⟨timers, .of_tx same⟩

theorem timers_of_framed {outcome : Except Abort Endpoint}
    (framed : Ensures outcome (Framed endpoint)) : Ensures outcome (TimersKept endpoint) :=
  framed.mono fun _ => Framed.timers

theorem thinned_of_framed {outcome : Except Abort Endpoint}
    (framed : Ensures outcome (Framed endpoint)) : Ensures outcome (Thinned endpoint) :=
  framed.mono fun _ => Framed.thinned

/-! ## Counters and packets -/

theorem modified_tx_keeps {window : WindowType} {change : TxWindow → TxWindow} :
    TimersKept endpoint (endpoint.modifyTx window change) :=
  ⟨rfl, rfl, rfl, rfl, id⟩

theorem modified_tx_framed {window : WindowType} {change : TxWindow → TxWindow}
    (fewer : ∀ tx, (change tx).outstandingPackets.Sublist tx.outstandingPackets) :
    Framed endpoint (endpoint.modifyTx window change) := by
  refine ⟨modified_tx_keeps, fun other => ?_⟩
  unfold modifyTx
  by_cases here : other = window
  · subst here
    simpa only [Function.update_self] using fewer _
  · simp only [Function.update_of_ne here, List.Sublist.refl]

theorem set_transaction_keeps {key : TransactionKey} {transaction : Transaction} :
    TimersKept endpoint (endpoint.setTransaction key transaction) :=
  ⟨rfl, rfl, rfl, rfl, id⟩

theorem erased_transaction_keeps (key : TransactionKey) :
    TimersKept endpoint (endpoint.eraseTransaction key) := by
  refine ⟨rfl, rfl, rfl, rfl, ?_⟩
  intro incoming other context found
  by_cases same : other = key
  · subst same
    simp [eraseTransaction] at found
  · simp only [eraseTransaction, Function.update_of_ne same] at found
    exact incoming other context found

theorem updated_state_framed (key : TransactionKey) (type : PacketType)
    (stage : TransactionStage) :
    Ensures (endpoint.updateState key type stage) (Framed endpoint) := by
  refine ensures_bind fun transaction _ => ?_
  exact ensures_map.2 fun state _ => .still set_transaction_keeps rfl

theorem decremented_framed (type : PacketType) :
    Framed endpoint (endpoint.decrementOutstandingRequestCount config type) := by
  unfold decrementOutstandingRequestCount
  split_ifs
  · exact .rfl
  · exact modified_tx_framed fun _ => .refl _
  · exact .rfl

theorem decremented_retransmitted_framed (type : PacketType) (isAcked : Bool) :
    Framed endpoint
      (endpoint.decrementOutstandingRetransmittedRequestCount config type isAcked) := by
  unfold decrementOutstandingRetransmittedRequestCount
  split_ifs
  · exact .rfl
  · exact modified_tx_framed fun _ => .refl _
  · exact .rfl

theorem rack_update_framed (config : Config) (txTime : Int) :
    Framed endpoint (endpoint.rackUpdate config txTime) := by
  unfold rackUpdate
  split_ifs <;> exact .still ⟨rfl, rfl, rfl, rfl, id⟩ rfl

theorem tlp_timer_keeps : TimersKept endpoint (endpoint.setupTlpTimer config) := by
  unfold setupTlpTimer
  dsimp only
  split_ifs <;> exact ⟨rfl, rfl, rfl, rfl, id⟩

theorem erased_counter_framed :
    Framed endpoint endpoint.updateOutstandingCounterAfterErase :=
  .still ⟨rfl, rfl, rfl, rfl, id⟩ rfl

theorem erased_outstanding_framed (window : WindowType) (psn : UInt32) :
    Framed endpoint (endpoint.eraseOutstanding window psn) :=
  erased_counter_framed.after (modified_tx_framed fun _ => List.filter_sublist)

theorem initiated_framed (rsn : UInt32) (type : PacketType) :
    Ensures (endpoint.initiateRetransmission config rsn type) (Framed endpoint) := by
  refine ensures_map.2 fun located _ => ?_
  dsimp only
  split_ifs
  · exact (decremented_retransmitted_framed type false).after
      (.still ⟨rfl, rfl, rfl, rfl, id⟩ rfl)
  · exact .still ⟨rfl, rfl, rfl, rfl, id⟩ rfl

theorem dequeued_framed (rsn : UInt32) (type : PacketType) :
    Ensures (endpoint.dequeuePacketFromRetxScheduler config rsn type) (Framed endpoint) := by
  refine ensures_map.2 fun located _ => ?_
  cases config.version <;> exact .still ⟨rfl, rfl, rfl, rfl, id⟩ rfl

/-! ## One packet is acknowledged -/

theorem taken_framed (window : WindowType) (context : OutstandingPacketContext) (psn : UInt32) :
    Ensures (endpoint.takeOutstanding config window context psn) (Framed endpoint) := by
  refine ensures_ite (fun _ => dequeued_framed context.rsn context.packetType) fun _ => ?_
  refine ensures_map.2 fun located _ => ?_
  have erased : Framed endpoint (endpoint.modifyTx window fun tx =>
      { tx with outstandingPackets := eraseWork tx.outstandingPackets psn }) :=
    modified_tx_framed fun _ => List.filter_sublist
  dsimp only
  split_ifs
  · refine erased_counter_framed.after ?_
    exact (decremented_retransmitted_framed context.packetType true).after erased
  · exact erased_counter_framed.after erased

theorem counted_framed (key : TransactionKey) (type : PacketType) :
    Ensures (endpoint.countAcknowledged config key type) (Framed endpoint) := by
  refine ensures_ite (fun _ => ?_) fun _ => ensures_ok.2 (decremented_framed type)
  refine ensures_bind fun transaction _ => ensures_map.2 fun request _ => ?_
  dsimp only
  split_ifs
  · exact (decremented_retransmitted_framed type true).after (decremented_framed type)
  · exact decremented_framed type

theorem released_framed (window : WindowType) (context : OutstandingPacketContext) (psn : UInt32) :
    Ensures (endpoint.releaseAcknowledged config window context psn) (Framed endpoint) := by
  refine ensures_map.2 fun located _ => ?_
  have forgotten : Framed endpoint (endpoint.modifyTx window fun tx => { tx with
      outstandingPacketContexts := Function.update tx.outstandingPacketContexts psn none }) :=
    modified_tx_framed fun _ => .refl _
  have updated := (rack_update_framed config located.packet.transmissionTime).after forgotten
  dsimp only
  split_ifs
  · exact updated.trans (.still ⟨rfl, rfl, rfl, rfl, id⟩ rfl)
  · exact forgotten.trans (.still ⟨rfl, rfl, rfl, rfl, id⟩ rfl)
  · exact updated.trans (.still (erased_transaction_keeps located.key) rfl)
  · exact forgotten.trans (.still (erased_transaction_keeps located.key) rfl)
  · exact updated
  · exact forgotten

theorem acknowledged_framed (window : WindowType) (psn : UInt32) :
    Ensures (endpoint.enqueueAckToUlp config window psn) (Framed endpoint) := by
  unfold enqueueAckToUlp
  cases (endpoint.tx window).outstandingPacketContexts psn with
  | none => exact ensures_error
  | some context =>
    refine ensures_bind fun location _ => related_bind (updated_state_framed _ _ _) ?_
    intro updated
    refine related_bind (counted_framed _ _) fun counted => ?_
    exact related_bind (taken_framed window context psn) fun taken =>
      released_framed window context psn

/-! ## Acknowledgements -/

theorem acknowledged_index_framed (window : WindowType) (index : Nat) :
    Ensures (endpoint.acknowledgeIndex config window index) (Framed endpoint) := by
  refine ensures_bind fun isAcked _ => ?_
  exact ensures_ite (fun _ => ensures_ok.2 .rfl) fun _ => acknowledged_framed window _

theorem noted_framed (window : WindowType) (bpsn : UInt32) (own : Bool) :
    Framed endpoint (endpoint.noteOow config window bpsn own) := by
  refine modified_tx_framed fun tx => ?_
  split_ifs <;> exact .refl _

theorem acknowledged_windows_framed (bpsn : WindowType → UInt32) (own : WindowType → Bool) :
    Ensures (endpoint.acknowledgeWindows config bpsn own) (Framed endpoint) := by
  have kept (before : Endpoint) (window : WindowType) :
      Ensures (before.acknowledgeUpTo config bpsn own window) (Framed before) := by
    refine ensures_ite (fun _ => ?_) fun _ => ensures_ok.2 .rfl
    have looped (start : Endpoint) (indices : List Nat) :
        Ensures (indices.foldlM (acknowledgeIndex config window) start) (Framed start) := by
      refine related_foldlM (fun state index => ?_) _ _
      exact acknowledged_index_framed window index
    refine ensures_map.2 ((looped _ _).mono fun acked near => ?_)
    refine Framed.after (modified_tx_framed fun _ => .refl _) ?_
    exact near.after (noted_framed window _ _)
  exact related_bind (kept endpoint .request) fun requested => kept requested .data

theorem acknowledged_bits_framed (bitmap : FalconBitmap) (window : WindowType) :
    Ensures (endpoint.acknowledgeBits config bitmap window) (Framed endpoint) := by
  refine related_foldlM (fun state index => ?_) _ _
  refine ensures_bind fun isAcked _ => ensures_ite (fun _ => ?_) fun _ => ensures_ok.2 .rfl
  refine related_bind (acknowledged_framed window _) fun acked => ?_
  exact ensures_map.2 fun bits _ => modified_tx_framed fun _ => .refl _

theorem marked_received_framed (bpsn : UInt32) (bitmap : FalconBitmap) (window : WindowType)
    (index : Nat) :
    Ensures (endpoint.markReceived config bpsn bitmap window index) (Framed endpoint) := by
  unfold markReceived
  cases (endpoint.tx window).outstandingPacketContexts (UInt32.ofNat index + bpsn) with
  | none => exact ensures_ok.2 .rfl
  | some context =>
    refine ensures_bind fun location _ => ?_
    cases endpoint.transactions ⟨context.rsn, location⟩ with
    | none => exact ensures_ok.2 .rfl
    | some transaction =>
      refine ensures_map.2 fun packet _ => ?_
      dsimp only
      split_ifs
      · exact (rack_update_framed config packet.transmissionTime).after
          (.still set_transaction_keeps rfl)
      · exact .still ⟨rfl, rfl, rfl, rfl, id⟩ rfl
      · exact .rfl

theorem marked_all_received_framed (bpsn : UInt32) (bitmap : FalconBitmap) (window : WindowType) :
    Ensures (endpoint.markAllReceived config bpsn bitmap window) (Framed endpoint) := by
  refine related_foldlM (fun state index => ?_) _ _
  exact marked_received_framed bpsn bitmap window index

/-- A packet is marked, handed over, and taken out. -/
theorem handed_over_framed (window : WindowType) {work : RetransmissionWorkId}
    {located : Located} (packet : Reliability.PacketMetadata) :
    Ensures ((endpoint.setPacket located work.type packet).initiateRetransmission config work.rsn
        work.type) fun initiated =>
      Framed endpoint (initiated.eraseOutstanding window work.psn) :=
  (initiated_framed work.rsn work.type).mono fun _ near =>
    (erased_outstanding_framed window work.psn).after
      (near.after (.still set_transaction_keeps rfl))

theorem scanned_outstanding_framed (ack : AckPacket) (limit : Int) (window : WindowType)
    (works : List RetransmissionWorkId) (force : Bool) :
    Ensures (scanOutstanding config ack limit window works force endpoint)
      (Framed endpoint) := by
  induction works generalizing force endpoint with
  | nil => exact ensures_ok.2 .rfl
  | cons work rest ih =>
    refine ensures_ite (fun _ => ensures_ok.2 .rfl) fun _ => ?_
    refine ensures_ite (fun _ => ih force) fun _ => ensures_bind fun located _ => ?_
    refine ensures_ite (fun _ => ensures_ok.2 .rfl) fun _ => ensures_ite (fun _ => ?_) fun _ => ?_
    · refine ensures_ite (fun _ => ensures_error) fun _ => ?_
      refine Ensures.bind (handed_over_framed window _) fun initiated near => ?_
      exact (ih (force || ack.own window)).mono fun after far => far.after near
    · exact ensures_ite (fun _ => ih force) fun _ => ensures_ok.2 .rfl

theorem handled_eack_framed (ack : AckPacket) :
    Ensures (endpoint.handleEack config ack) (Framed endpoint) := by
  refine related_bind (acknowledged_bits_framed _ .request) fun requests => ?_
  refine related_bind (acknowledged_bits_framed _ .data) fun acked => ?_
  refine related_bind ?_ fun marked => ?_
  · refine ensures_ite (fun _ => ?_) fun _ => ensures_ok.2 .rfl
    exact related_bind (marked_all_received_framed _ _ .request) fun marked =>
      marked_all_received_framed _ _ .data
  · refine ensures_ite (fun _ => ?_) fun _ => ensures_ok.2 .rfl
    refine related_bind (scanned_outstanding_framed ack _ .request _ false) fun scanned => ?_
    exact scanned_outstanding_framed ack _ .data _ false

/-! ## NACKs and timeouts -/

theorem scanned_nacked_framed (nack : NackPacket) (window : WindowType)
    (works : List RetransmissionWorkId) :
    Ensures (scanNacked config nack window works endpoint) (Framed endpoint) := by
  induction works generalizing endpoint with
  | nil => exact ensures_ok.2 .rfl
  | cons work rest ih =>
    refine ensures_ite (fun _ => ensures_ok.2 .rfl) fun _ => ?_
    refine ensures_ite (fun _ => ensures_error) fun _ => ensures_bind fun located _ => ?_
    refine ensures_ite (fun _ => ensures_ok.2 .rfl) fun _ => ?_
    refine ensures_ite (fun _ => ?_) fun _ => ensures_ok.2 .rfl
    refine Ensures.bind (handed_over_framed window _) fun initiated near => ?_
    exact ih.mono fun after far => far.after near

theorem cancelled_framed (nack : NackPacket) (generateCompletion : Bool) :
    Ensures (endpoint.cancelRetransmissionAndTriggerResync nack generateCompletion)
      (Framed endpoint) := by
  unfold cancelRetransmissionAndTriggerResync
  cases (endpoint.tx nack.window).outstandingPacketContexts nack.nackPsn with
  | none => exact ensures_error
  | some context =>
    refine ensures_ok.2 ?_
    have erased := @erased_outstanding_framed endpoint nack.window nack.nackPsn
    split_ifs
    · exact erased.trans (.still ⟨rfl, rfl, rfl, rfl, id⟩ rfl)
    · exact .still ⟨rfl, rfl, rfl, rfl, id⟩ rfl
    · exact erased
    · exact .rfl

theorem rack_updated_by_nack_framed (nack : NackPacket) :
    Ensures (endpoint.rackUpdateByNack config nack) (Framed endpoint) := by
  refine ensures_ite (fun _ => ensures_ok.2 .rfl) fun _ => ?_
  refine ensures_ite (fun _ => ensures_ok.2 (rack_update_framed config _)) fun _ => ?_
  exact ensures_map.2 fun located _ => rack_update_framed config _

theorem scanned_expired_framed (window : WindowType) (works : List RetransmissionWorkId) :
    Ensures (scanExpired config window works endpoint) (Framed endpoint) := by
  induction works generalizing endpoint with
  | nil => exact ensures_ok.2 .rfl
  | cons work rest ih =>
    refine ensures_bind fun isAcked _ => ensures_ite (fun _ => ?_) fun _ => ?_
    · exact ih.mono fun after far => far.after (erased_outstanding_framed window work.psn)
    · refine ensures_bind fun located _ => ensures_ite (fun _ => ensures_ok.2 .rfl) fun _ => ?_
      refine ensures_bind fun marked _ => ?_
      refine Ensures.bind (handed_over_framed window _) fun initiated near => ?_
      exact ih.mono fun after far => far.after near

end Isekai.TimerFrameProofs
