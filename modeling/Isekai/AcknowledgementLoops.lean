import Isekai.BooksAcknowledged

/-! The loops over the packets that an acknowledgement names: cumulative ones, the bits of an
extended one, and the one packet that is acknowledged by its answer. Each leaves the books
in order and the windows in agreement with what was sent. -/

namespace Isekai.AcknowledgementLoops
open SequenceNumber Outcomes Reliability Reliability.Endpoint OutstandingBooks BookFrameProofs
open WindowAlignment AcknowledgementBooks BooksAcknowledged

variable {config : Config} {sent : WindowType → List OutstandingPacketContext}
  {answered : Multiset UInt32} {limit : WindowType → UInt32} {endpoint : Endpoint}
variable {window : WindowType}

/-- The books are in order, and the windows agree with what was sent. -/
structure Kept (config : Config) (sent : WindowType → List OutstandingPacketContext)
    (answered : Multiset UInt32) (limit : WindowType → UInt32) (endpoint : Endpoint) : Prop where
  books : Books config sent answered limit endpoint
  aligned : ∀ window, Aligned 0 (endpoint.tx window) (sent window)

theorem aligned_same_window {swept : Nat} {before after : TxWindow}
    {log : List OutstandingPacketContext} (same : SameWindow before after)
    (aligned : Aligned swept before log) : Aligned swept after log :=
  aligned_same aligned same.base same.next same.bits same.contexts

theorem kept_same {before after : Endpoint} (same : SameBooks before after)
    (kept : Kept config sent answered limit before) : Kept config sent answered limit after :=
  ⟨books_same same kept.books, fun window =>
    aligned_same_window (same.windows window) (kept.aligned window)⟩

/-- A part of a handler that leaves the books alone. -/
theorem kept_frame {outcome : Except Abort Endpoint}
    (same : Ensures outcome (SameBooks endpoint)) (kept : Kept config sent answered limit endpoint) :
    Ensures outcome (Kept config sent answered limit) :=
  same.mono fun _ frame => kept_same frame kept

theorem aligned_elsewhere {other : WindowType} {psn : UInt32} {context : OutstandingPacketContext}
    {before after : Endpoint} {swept : Nat} {log : List OutstandingPacketContext}
    (differs : other ≠ window) (acked : Acked config window psn context before after)
    (aligned : Aligned swept (before.tx other) log) : Aligned swept (after.tx other) log :=
  aligned_same aligned (acked.positions other).base (acked.positions other).next
    (acked.positions other).bits (acked.elsewhere other differs)

/-- Books and windows while the window moves up from the base: the packets below the bound are
acknowledged, their bits not yet set. -/
structure Sweeping (config : Config) (sent : WindowType → List OutstandingPacketContext)
    (answered : Multiset UInt32) (limit : WindowType → UInt32) (window : WindowType)
    (base : UInt32) (swept : Nat) (endpoint : Endpoint) : Prop where
  books : Books config sent answered limit endpoint
  aligned : Aligned swept (endpoint.tx window) (sent window)
  below : swept ≤ span (endpoint.tx window)
  base : (endpoint.tx window).basePacketSequenceNumber = base
  others : ∀ other, other ≠ window → Aligned 0 (endpoint.tx other) (sent other)

/-- The acknowledgement of the packet under a PSN, if there is one. -/
theorem enqueued_acked {psn : UInt32} (recorded : Recorded endpoint) :
    Ensures (endpoint.enqueueAckToUlp config window psn) fun after =>
      ∃ context, (endpoint.tx window).outstandingPacketContexts psn = some context ∧
        Acked config window psn context endpoint after := by
  cases found : (endpoint.tx window).outstandingPacketContexts psn with
  | none =>
    unfold enqueueAckToUlp
    rw [found]
    exact ensures_error
  | some context =>
    exact (acknowledged_acked recorded found).mono fun _ acked => ⟨context, rfl, acked⟩

theorem index_swept {base : UInt32} {index : Nat}
    (sweeping : Sweeping config sent answered limit window base index endpoint) :
    Ensures (endpoint.acknowledgeIndex config window index)
      (Sweeping config sent answered limit window base (index + 1)) := by
  refine ensures_bind fun isAcked read => ?_
  obtain ⟨_, bit⟩ := FalconBitmap.get_eq_ok.1 read
  cases isAcked with
  | true =>
    have below : index < span (endpoint.tx window) := by
      by_contra beyond
      rw [sweeping.aligned.clear index (by omega)] at bit
      cases bit
    exact ensures_ok.2 ⟨sweeping.books, aligned_skip sweeping.aligned bit, below, sweeping.base,
      sweeping.others⟩
  | false =>
    refine (enqueued_acked sweeping.books.recorded).mono fun after => ?_
    rintro ⟨context, found, acked⟩
    have small : index < 2 ^ 32 := by
      have within := sweeping.aligned.within
      have below := sweeping.below
      unfold FastConnectionScheduler.txBitmapWidth at within
      omega
    have below : index < span (endpoint.tx window) := by
      obtain ⟨_, below, _⟩ := sweeping.aligned.found found
      rwa [← advance, offset_advance small] at below
    have position := acked.positions window
    refine ⟨books_acked sweeping.books found acked,
      aligned_sweep sweeping.aligned below ⟨position.base, position.next, position.bits⟩
        acked.contexts, ?_, position.base.trans sweeping.base,
      fun other differs => aligned_elsewhere differs acked (sweeping.others other differs)⟩
    have spans : span (after.tx window) = span (endpoint.tx window) := by
      simp only [span, position.base, position.next]
    omega

/-! ## Cumulative acknowledgements -/

/-- A window that is moved or marked. -/
theorem modified_tx_kept {change : TxWindow → TxWindow}
    (books : Books config sent answered limit endpoint)
    (same : SameRecords (endpoint.tx window) (change (endpoint.tx window)))
    (aligned : Aligned 0 (change (endpoint.tx window)) (sent window))
    (others : ∀ other, other ≠ window → Aligned 0 (endpoint.tx other) (sent other)) :
    Kept config sent answered limit (endpoint.modifyTx window change) := by
  constructor
  · refine books_onward books (fun other => ?_) rfl ⟨Onward.rfl.back, Onward.rfl.waiting⟩
      books.queued.distinct fun _ => id
    rw [modify_tx_apply]
    split_ifs with here
    · exact here ▸ same
    · exact ⟨rfl, rfl, rfl⟩
  · intro other
    rw [modify_tx_apply]
    split_ifs with here
    · exact here ▸ aligned
    · exact others other here

theorem swept (kept : Kept config sent answered limit endpoint) (window : WindowType)
    (count : Nat) :
    Ensures ((List.range count).foldlM (acknowledgeIndex config window) endpoint)
      (Sweeping config sent answered limit window
        (endpoint.tx window).basePacketSequenceNumber count) := by
  refine ensures_foldlM_range ?_ count ?_
  · intro state index sweeping
    exact index_swept sweeping
  · exact ⟨kept.books, kept.aligned window, Nat.zero_le _, rfl, fun other _ => kept.aligned other⟩

theorem moved_up (bpsn : WindowType → UInt32) (own : WindowType → Bool) (window : WindowType)
    (kept : Kept config sent answered limit endpoint) :
    Ensures (endpoint.acknowledgeUpTo config bpsn own window) (Kept config sent answered limit) := by
  refine ensures_ite (fun _ => ?_) fun _ => ensures_ok.2 kept
  have noted : Kept config sent answered limit
      (endpoint.noteOow config window (bpsn window) (own window)) :=
    kept_same (noted_books window _ _) kept
  dsimp only
  generalize endpoint.noteOow config window (bpsn window) (own window) = start at noted ⊢
  refine ensures_map.2 ((swept noted window _).mono fun acked sweeping => ?_)
  refine modified_tx_kept sweeping.books ⟨rfl, rfl, rfl⟩ ?_ sweeping.others
  refine aligned_shift sweeping.aligned sweeping.below ?_ ⟨rfl, rfl⟩ rfl
  rw [sweeping.base]
  exact (advance_distance _ _).symm

theorem both_moved_up (bpsn : WindowType → UInt32) (own : WindowType → Bool)
    (kept : Kept config sent answered limit endpoint) :
    Ensures (endpoint.acknowledgeWindows config bpsn own) (Kept config sent answered limit) :=
  (moved_up bpsn own .request kept).bind fun _ requested => moved_up bpsn own .data requested

theorem piggybacked_kept (bpsn : WindowType → UInt32) (own : WindowType → Bool)
    (kept : Kept config sent answered limit endpoint) :
    Ensures (endpoint.handlePiggybackedAck config bpsn own) (Kept config sent answered limit) := by
  refine ensures_ite (fun _ => ensures_ok.2 kept) fun _ => ?_
  exact (both_moved_up bpsn own kept).bind fun _ moved => kept_frame acknowledged_books moved

/-! ## Bits -/

/-- The bit of a packet that was acknowledged is set. -/
theorem marked_aligned {psn : UInt32} {context : OutstandingPacketContext}
    {before after : Endpoint} {bits : FalconBitmap}
    (kept : Kept config sent answered limit before)
    (found : (before.tx window).outstandingPacketContexts psn = some context)
    (acked : Acked config window psn context before after)
    (written : (after.tx window).window.set (offset (before.tx window) psn) true = .ok bits) :
    Aligned 0 { after.tx window with window := bits } (sent window) := by
  obtain ⟨_, size, set⟩ := FalconBitmap.set_eq_ok written
  have position := acked.positions window
  refine aligned_bit (kept.aligned window) found ⟨position.base, position.next⟩
    (size.trans (congrArg _ position.bits)) (fun index => ?_) acked.contexts
  rw [set index, position.bits]

theorem bit_kept (bitmap : FalconBitmap) (window : WindowType) (index : Nat)
    (kept : Kept config sent answered limit endpoint) :
    Ensures (endpoint.acknowledgeBit config bitmap window index)
      (Kept config sent answered limit) := by
  refine ensures_bind fun isAcked read => ?_
  obtain ⟨within, _⟩ := FalconBitmap.get_eq_ok.1 read
  rw [(kept.aligned window).size] at within
  unfold FastConnectionScheduler.txBitmapWidth at within
  refine ensures_ite (fun _ => ?_) fun _ => ensures_ok.2 kept
  refine (enqueued_acked kept.books.recorded).bind fun after => ?_
  rintro ⟨context, found, acked⟩
  refine ensures_map.2 fun bits written => ?_
  refine modified_tx_kept (books_acked kept.books found acked) ⟨rfl, rfl, rfl⟩ ?_
    fun other differs => aligned_elsewhere differs acked (kept.aligned other)
  refine marked_aligned kept found acked ?_
  rwa [← advance, offset_advance (by omega)]

theorem bits_kept (bitmap : FalconBitmap) (window : WindowType)
    (kept : Kept config sent answered limit endpoint) :
    Ensures (endpoint.acknowledgeBits config bitmap window) (Kept config sent answered limit) :=
  ensures_foldlM (fun _ held index => bit_kept bitmap window index held) _ kept

/-- The window moves over its first packet once the bit of that packet is set. -/
theorem first_shifted {tx : TxWindow} {log : List OutstandingPacketContext} {bits : FalconBitmap}
    (aligned : Aligned 0 { tx with window := bits } log) (first : bits.bits 0 = true) :
    Aligned 0 { tx with
      window := bits.rightShift 1
      basePacketSequenceNumber := tx.basePacketSequenceNumber + 1 } log := by
  refine aligned_shift (aligned_skip aligned first) ?_ (advance_one _).symm ⟨rfl, rfl⟩ rfl
  by_contra none
  have unset := aligned.clear 0 (by omega)
  rw [first] at unset
  cases unset

theorem implicitly_kept (packet : Packet) (kept : Kept config sent answered limit endpoint) :
    Ensures (endpoint.handleImplicitAck config packet) (Kept config sent answered limit) := by
  unfold handleImplicitAck
  cases answeredPacket packet.type with
  | none => exact ensures_ok.2 kept
  | some answer =>
    obtain ⟨location, type, window⟩ := answer
    refine ensures_bind fun transaction _ => ensures_bind fun request _ => ?_
    refine ensures_ite (fun _ => ensures_ok.2 kept) fun _ => ensures_bind fun isAcked _ => ?_
    refine ensures_ite (fun _ => ensures_ok.2 kept) fun _ => ?_
    refine (enqueued_acked kept.books.recorded).bind fun after => ?_
    rintro ⟨context, found, acked⟩
    refine ensures_bind fun bits written => kept_frame acknowledged_books ?_
    have aligned := marked_aligned kept found acked written
    refine modified_tx_kept (books_acked kept.books found acked) ?_ ?_
      fun other differs => aligned_elsewhere differs acked (kept.aligned other)
    · split_ifs <;> exact ⟨rfl, rfl, rfl⟩
    · split_ifs with here
      · refine first_shifted aligned ?_
        obtain ⟨_, _, set⟩ := FalconBitmap.set_eq_ok written
        have base := (acked.positions window).base
        rw [set 0, if_pos]
        simp [here, base]
      · exact aligned

end Isekai.AcknowledgementLoops
