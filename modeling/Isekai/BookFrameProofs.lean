import Isekai.OutstandingBooks

/-! The parts of the handlers that leave the books of outstanding packets alone: timers, the
reordering timeout, the receiver's windows, and what is noted about a packet besides its PSN and
its attempts. -/

namespace Isekai.BookFrameProofs
open Outcomes Reliability Reliability.Endpoint OutstandingBooks

variable {config : Config} {endpoint : Endpoint}
variable {type : PacketType}

theorem get_transaction_eq_ok {key : TransactionKey} {transaction : Transaction} :
    endpoint.getTransaction key = .ok transaction ↔
      endpoint.transactions key = some transaction := by
  unfold getTransaction
  cases endpoint.transactions key <;> simp

theorem get_packet_eq_ok {transaction : Transaction} {packet : Reliability.PacketMetadata} :
    transaction.getPacketMetadata type = .ok packet ↔ transaction.packets type = some packet := by
  unfold Transaction.getPacketMetadata
  cases transaction.packets type <;> simp

theorem bind_ok {A B : Type} {first : Except Abort A} {second : A → Except Abort B} {result : B} :
    first.bind second = .ok result ↔ ∃ value, first = .ok value ∧ second value = .ok result :=
  bind_eq_ok

theorem locate_eq_ok {rsn : UInt32} {located : Located} :
    endpoint.locate rsn type = .ok located ↔ located.key.rsn = rsn ∧ Outgoing type located.key ∧
      endpoint.transactions located.key = some located.transaction ∧
        located.transaction.packets type = some located.packet := by
  unfold locate
  simp only [bind_ok, map_eq_ok, get_transaction_eq_ok, get_packet_eq_ok]
  constructor
  · rintro ⟨location, outgoing, transaction, held, packet, found, rfl⟩
    exact ⟨rfl, outgoing, held, found⟩
  · rintro ⟨rfl, outgoing, held, found⟩
    exact ⟨located.key.location, outgoing, located.transaction, held, located.packet, found, rfl⟩

/-! ## Windows, transactions and packets -/

theorem modified_tx_books {window : WindowType} {change : TxWindow → TxWindow}
    (same : ∀ tx, SameWindow tx (change tx)) : SameBooks endpoint (endpoint.modifyTx window change) := by
  refine ⟨fun other => ?_, rfl, rfl, rfl, fun _ => rfl⟩
  by_cases here : other = window
  · subst here
    simp only [modifyTx, Function.update_self]
    exact same _
  · simp only [modifyTx, Function.update_of_ne here]
    exact .rfl

theorem set_transaction_books {key : TransactionKey} {old new : Transaction}
    (held : endpoint.transactions key = some old) (same : entry new = entry old) :
    SameBooks endpoint (endpoint.setTransaction key new) := by
  refine ⟨fun _ => .rfl, rfl, rfl, rfl, fun other => ?_⟩
  by_cases here : other = key
  · subst here
    simp only [setTransaction, Function.update_self, held, Option.map_some, same]
  · simp only [setTransaction, Function.update_of_ne here]

theorem entry_create_packet {transaction : Transaction} {old new : Reliability.PacketMetadata}
    (found : transaction.packets type = some old) (psn : new.psn = old.psn)
    (attempts : new.transmitAttempts = old.transmitAttempts) :
    entry (transaction.createPacket type new) = entry transaction := by
  refine Prod.ext rfl (funext fun other => ?_)
  by_cases here : other = type
  · subst here
    simp only [entry, numbers, Transaction.createPacket, Function.update_self, found,
      Option.map_some, psn, attempts]
  · simp only [entry, numbers, Transaction.createPacket, Function.update_of_ne here]

/-- What is written to a packet besides its PSN and its attempts. -/
theorem set_packet_books {rsn : UInt32} {located : Located} {packet : Reliability.PacketMetadata}
    (found : endpoint.locate rsn type = .ok located) (psn : packet.psn = located.packet.psn)
    (attempts : packet.transmitAttempts = located.packet.transmitAttempts) :
    SameBooks endpoint (endpoint.setPacket located type packet) := by
  obtain ⟨_, _, held, read⟩ := locate_eq_ok.1 found
  exact set_transaction_books held (entry_create_packet read psn attempts)

/-! ## Timers -/

theorem setup_books : Ensures (endpoint.setupRetransmitTimer config) (SameBooks endpoint) := by
  unfold setupRetransmitTimer getJitter
  refine ensures_map.2 fun found _ => ?_
  cases found with
  | none => exact ⟨fun _ => .rfl, rfl, rfl, rfl, fun _ => rfl⟩
  | some deadline =>
    dsimp only
    split_ifs <;> exact ⟨fun _ => .rfl, rfl, rfl, rfl, fun _ => rfl⟩

theorem tlp_timer_books : SameBooks endpoint (endpoint.setupTlpTimer config) := by
  unfold setupTlpTimer
  dsimp only
  split_ifs <;> exact ⟨fun _ => .rfl, rfl, rfl, rfl, fun _ => rfl⟩

theorem acknowledged_books :
    Ensures ((endpoint.setupTlpTimer config).setupRetransmitTimer config) (SameBooks endpoint) :=
  setup_books.mono fun _ same => same.after tlp_timer_books

theorem rack_update_books (config : Config) (txTime : Int) :
    SameBooks endpoint (endpoint.rackUpdate config txTime) := by
  unfold rackUpdate
  split_ifs <;> exact ⟨fun _ => .rfl, rfl, rfl, rfl, fun _ => rfl⟩

/-! ## Counters of retransmitted requests and of the host -/

theorem decremented_retransmitted_books (type : PacketType) (isAcked : Bool) :
    SameBooks endpoint
      (endpoint.decrementOutstandingRetransmittedRequestCount config type isAcked) := by
  unfold decrementOutstandingRetransmittedRequestCount
  split_ifs
  · exact .rfl
  · exact modified_tx_books fun _ => ⟨⟨rfl, rfl, rfl⟩, rfl, rfl, rfl⟩
  · exact .rfl

theorem incremented_retransmitted_books (type : PacketType) :
    SameBooks endpoint (endpoint.incrementOutstandingRetransmittedRequestCount type) := by
  unfold incrementOutstandingRetransmittedRequestCount
  split_ifs
  · exact modified_tx_books fun _ => ⟨⟨rfl, rfl, rfl⟩, rfl, rfl, rfl⟩
  · exact .rfl

theorem erase_counted_books : SameBooks endpoint endpoint.updateOutstandingCounterAfterErase :=
  ⟨fun _ => .rfl, rfl, rfl, rfl, fun _ => rfl⟩

theorem noted_books (window : WindowType) (bpsn : UInt32) (own : Bool) :
    SameBooks endpoint (endpoint.noteOow config window bpsn own) := by
  refine modified_tx_books fun tx => ?_
  split_ifs <;> exact ⟨⟨rfl, rfl, rfl⟩, rfl, rfl, rfl⟩

/-! ## What is noted of a packet -/

theorem marked_received_books (bpsn : UInt32) (bitmap : FalconBitmap) (window : WindowType)
    (index : Nat) :
    Ensures (endpoint.markReceived config bpsn bitmap window index) (SameBooks endpoint) := by
  unfold markReceived
  cases (endpoint.tx window).outstandingPacketContexts (UInt32.ofNat index + bpsn) with
  | none => exact ensures_ok.2 .rfl
  | some context =>
    refine ensures_bind fun location outgoing => ?_
    cases held : endpoint.transactions ⟨context.rsn, location⟩ with
    | none => exact ensures_ok.2 .rfl
    | some transaction =>
      refine ensures_map.2 fun packet found => ?_
      have marked : SameBooks endpoint (endpoint.setPacket
          ⟨⟨context.rsn, location⟩, transaction, packet⟩ context.packetType
          { packet with received := true }) :=
        set_transaction_books held (entry_create_packet (get_packet_eq_ok.1 found) rfl rfl)
      dsimp only
      split_ifs
      · exact (rack_update_books config packet.transmissionTime).after marked
      · exact marked
      · exact .rfl

theorem marked_all_received_books (bpsn : UInt32) (bitmap : FalconBitmap) (window : WindowType) :
    Ensures (endpoint.markAllReceived config bpsn bitmap window) (SameBooks endpoint) := by
  refine related_foldlM (fun state index => ?_) _ _
  exact marked_received_books bpsn bitmap window index

theorem rnr_nacked_books (nack : NackPacket) :
    Ensures (endpoint.handleRnrNack config nack) (SameBooks endpoint) := by
  refine ensures_bind fun ⟨context, located⟩ found => ?_
  have noted : SameBooks endpoint (endpoint.setPacket located context.packetType
      { located.packet with
        nackCode := .ulpReceiverNotReady
        rnrTimeout := nack.rnrTimeout }) := by
    unfold locatePsn at found
    cases held : (endpoint.tx nack.window).outstandingPacketContexts nack.nackPsn with
    | none =>
      rw [held] at found
      cases found
    | some context =>
      rw [held] at found
      obtain ⟨located, read, same⟩ := map_eq_ok.1 found
      cases same
      exact set_packet_books read rfl rfl
  exact setup_books.mono fun _ same => same.after noted

theorem rack_updated_by_nack_books (nack : NackPacket) :
    Ensures (endpoint.rackUpdateByNack config nack) (SameBooks endpoint) := by
  refine ensures_ite (fun _ => ensures_ok.2 .rfl) fun _ => ?_
  refine ensures_ite (fun _ => ensures_ok.2 (rack_update_books config _)) fun _ => ?_
  exact ensures_map.2 fun located _ => rack_update_books config _

theorem nacked_from_ulp_books (rsn : UInt32) (isRnr : Bool) (rnrTimeout : Int) :
    Ensures (endpoint.handleNackFromUlp rsn isRnr rnrTimeout) (SameBooks endpoint) := by
  unfold handleNackFromUlp
  dsimp only
  cases endpoint.receivedPacketContexts ⟨rsn, .target⟩ with
  | none => exact ensures_error
  | some context =>
    refine ensures_bind fun transaction held => ensures_map.2 fun packet found => ?_
    exact set_transaction_books (get_transaction_eq_ok.1 held)
      (entry_create_packet (get_packet_eq_ok.1 found) rfl rfl)

/-! ## The receiver's side -/

theorem modified_rx_books {window : WindowType} {change : RxWindow → RxWindow} :
    SameBooks endpoint (endpoint.modifyRx window change) :=
  ⟨fun _ => .rfl, rfl, rfl, rfl, fun _ => rfl⟩

theorem updated_bitmap_books (window : WindowType) (psn : UInt32) :
    Ensures (endpoint.updateReceiveAckBitmap window psn) (SameBooks endpoint) :=
  ensures_map.2 fun _ _ => modified_rx_books

theorem set_contexts_books {contexts : TransactionKey → Option ReceivedPacketContext} :
    SameBooks endpoint { endpoint with receivedPacketContexts := contexts } :=
  ⟨fun _ => .rfl, rfl, rfl, rfl, fun _ => rfl⟩

end Isekai.BookFrameProofs
