import Isekai.BooksRunProofs

/-! The implicit acknowledgement of a request or grant by the packet that answers it: which packet
is acknowledged, how far the window moves, and which bit of the window is read. The window is any
that agrees with what was sent through it, also where its PSNs wrap. -/

namespace Isekai.ImplicitAckProofs
open SequenceNumber Outcomes Reliability Reliability.Endpoint OutstandingBooks BookFrameProofs
open WindowAlignment AcknowledgementBooks

variable {config : Config} {endpoint : Endpoint} {kind type : PacketType} {rsn psn : UInt32}
  {location : TransactionLocation} {window : WindowType} {transaction : Transaction}
  {request : Reliability.PacketMetadata}
variable {before middle : Endpoint}

/-! ## The packet that is answered -/

/-- The packets that are answered, each with its side and its window. -/
theorem answered_packet_some (answers : answeredPacket kind = some (location, type, window)) :
    (type = .pullRequest ∨ type = .pushRequest ∨ type = .pushGrant) ∧
      getTransactionLocation type false = .ok location ∧ windowOf type = window := by
  cases kind <;> cases answers <;> decide

theorem located (side : getTransactionLocation type false = .ok location)
    (held : endpoint.transactions ⟨rsn, location⟩ = some transaction)
    (metadata : transaction.packets type = some request) :
    endpoint.locate rsn type = .ok ⟨⟨rsn, location⟩, transaction, request⟩ :=
  locate_eq_ok.2 ⟨rfl, side, held, metadata⟩

theorem erase_absent {works : List RetransmissionWorkId}
    (absent : containsPsn works psn = false) : eraseWork works psn = works := by
  refine List.filter_eq_self.2 fun work member => ?_
  by_contra same
  have present := contains_psn_iff.2 ⟨work, member, by simpa using same⟩
  rw [absent] at present
  cases present

/-- A packet leaves the queue in which it waits: the outstanding ones, or else those that wait
for their retransmission. -/
structure Unqueued (window : WindowType) (psn : UInt32) (before after : Endpoint) : Prop where
  outstanding : ∀ other, (after.tx other).outstandingPackets =
    if other = window then eraseWork (before.tx other).outstandingPackets psn
    else (before.tx other).outstandingPackets
  retransmissions : ∀ other, after.retransmissions other =
    if other = window ∧ containsPsn (before.tx window).outstandingPackets psn = false then
      eraseWork (before.retransmissions other) psn
    else before.retransmissions other

/-- What the rest of an acknowledgement does to windows and transactions. -/
structure Reported (config : Config) (type : PacketType) (window : WindowType) (psn : UInt32)
    (before after : Endpoint) : Prop where
  contexts : ∀ other, (after.tx other).outstandingPacketContexts =
    if other = window then Function.update (before.tx other).outstandingPacketContexts psn none
    else (before.tx other).outstandingPacketContexts
  counters : ∀ other, (after.tx other).outstandingRequestsCounter =
    if Lowers config type ∧ countedWindow type = other then
      (before.tx other).outstandingRequestsCounter - 1
    else (before.tx other).outstandingRequestsCounter
  entries : ∀ key, (after.transactions key).map entry = (before.transactions key).map entry
  scheduled : after.scheduled = before.scheduled
  reordered : after.reordered = before.reordered

/-- A request or grant is acknowledged by its answer: it leaves its queue, is reported, its bit is
set, and the window moves on by one packet if it was the first of the window. -/
structure AckedByAnswer (config : Config) (type : PacketType) (window : WindowType) (psn : UInt32)
    (before after : Endpoint) : Prop extends Unqueued window psn before after,
    Reported config type window psn before after where
  base : (after.tx window).basePacketSequenceNumber =
    if psn = (before.tx window).basePacketSequenceNumber then
      (before.tx window).basePacketSequenceNumber + 1
    else (before.tx window).basePacketSequenceNumber
  bits : ∀ index, (after.tx window).window.bits index =
    if psn = (before.tx window).basePacketSequenceNumber then
      (before.tx window).window.bits (index + 1)
    else (decide (index = offset (before.tx window) psn) || (before.tx window).window.bits index)
  next : (after.tx window).nextPacketSequenceNumber =
    (before.tx window).nextPacketSequenceNumber
  elsewhere : ∀ other, other ≠ window → SamePosition (before.tx other) (after.tx other)

/-- What the books do not read may change before. -/
theorem Unqueued.after {first second third : Endpoint} (two : Unqueued window psn second third)
    (windows : ∀ other, (second.tx other).outstandingPackets =
      (first.tx other).outstandingPackets)
    (retransmissions : second.retransmissions = first.retransmissions) :
    Unqueued window psn first third where
  outstanding other := by rw [two.outstanding, windows]
  retransmissions other := by rw [two.retransmissions, windows, retransmissions]

/-- What the books do not read may change afterwards. -/
theorem Unqueued.books {after : Endpoint} (unqueued : Unqueued window psn before middle)
    (same : SameBooks middle after) :
    Unqueued window psn before after where
  outstanding other := (same.windows other).outstanding.trans (unqueued.outstanding other)
  retransmissions other :=
    (congrFun same.retransmissions other).trans (unqueued.retransmissions other)

theorem Reported.books {after : Endpoint}
    (reported : Reported config type window psn before middle) (same : SameBooks middle after) :
    Reported config type window psn before after where
  contexts other := (same.windows other).contexts.trans (reported.contexts other)
  counters other := (same.windows other).counter.trans (reported.counters other)
  entries key := (same.transactions key).trans (reported.entries key)
  scheduled := same.scheduled.trans reported.scheduled
  reordered := same.reordered.trans reported.reordered

theorem AckedByAnswer.books {after : Endpoint}
    (acked : AckedByAnswer config type window psn before middle) (same : SameBooks middle after) :
    AckedByAnswer config type window psn before after where
  toUnqueued := acked.toUnqueued.books same
  toReported := acked.toReported.books same
  base := (same.windows window).base.trans acked.base
  bits index := by rw [(same.windows window).bits, acked.bits]
  next := (same.windows window).next.trans acked.next
  elsewhere other differs :=
    ⟨(same.windows other).base.trans (acked.elsewhere other differs).base,
      (same.windows other).next.trans (acked.elsewhere other differs).next,
      (same.windows other).bits.trans (acked.elsewhere other differs).bits⟩

/-! ## The parts of the acknowledgement -/

/-- A packet leaves its queue and nothing else happens to the books. -/
structure TakenOut (window : WindowType) (psn : UInt32) (before after : Endpoint) : Prop
    extends Unqueued window psn before after where
  positions : ∀ other, SamePosition (before.tx other) (after.tx other)
  contexts : ∀ other, (after.tx other).outstandingPacketContexts =
    (before.tx other).outstandingPacketContexts
  counters : ∀ other, (after.tx other).outstandingRequestsCounter =
    (before.tx other).outstandingRequestsCounter
  entries : ∀ key, (after.transactions key).map entry = (before.transactions key).map entry
  scheduled : after.scheduled = before.scheduled
  reordered : after.reordered = before.reordered

theorem TakenOut.books {after : Endpoint} (taken : TakenOut window psn before middle)
    (same : SameBooks middle after) :
    TakenOut window psn before after where
  toUnqueued := taken.toUnqueued.books same
  positions other :=
    ⟨(same.windows other).base.trans (taken.positions other).base,
      (same.windows other).next.trans (taken.positions other).next,
      (same.windows other).bits.trans (taken.positions other).bits⟩
  contexts other := (same.windows other).contexts.trans (taken.contexts other)
  counters other := (same.windows other).counter.trans (taken.counters other)
  entries key := (same.transactions key).trans (taken.entries key)
  scheduled := same.scheduled.trans taken.scheduled
  reordered := same.reordered.trans taken.reordered

/-- The packet is among the outstanding ones. -/
theorem erased_taken_out
    (present : containsPsn (endpoint.tx window).outstandingPackets psn = true) :
    TakenOut window psn endpoint (endpoint.modifyTx window fun tx =>
      { tx with outstandingPackets := eraseWork tx.outstandingPackets psn }) := by
  refine ⟨⟨fun other => ?_, fun other => ?_⟩, fun other => ?_, fun other => ?_, fun other => ?_,
    fun _ => rfl, rfl, rfl⟩
  · rw [modify_tx_apply]
    split_ifs <;> rfl
  · rw [if_neg fun absent => by rw [present] at absent; exact absurd absent.2 (by decide)]
    rfl
  · rw [modify_tx_apply]
    split_ifs <;> exact ⟨rfl, rfl, rfl⟩
  · rw [modify_tx_apply]
    split_ifs <;> rfl
  · rw [modify_tx_apply]
    split_ifs <;> rfl

/-- The packet is not among the outstanding ones, and so waits for its retransmission. -/
theorem dequeued_taken_out
    (absent : containsPsn (endpoint.tx window).outstandingPackets psn = false) :
    TakenOut window psn endpoint { endpoint with
      retransmissions := Function.update endpoint.retransmissions window
        (eraseWork (endpoint.retransmissions window) psn) } := by
  refine ⟨⟨fun other => ?_, fun other => ?_⟩, fun _ => ⟨rfl, rfl, rfl⟩, fun _ => rfl,
    fun _ => rfl, fun _ => rfl, rfl, rfl⟩
  · by_cases here : other = window
    · rw [if_pos here, here, erase_absent absent]
    · rw [if_neg here]
  · by_cases here : other = window
    · rw [if_pos ⟨here, absent⟩, here]
      exact Function.update_self ..
    · rw [if_neg fun both => here both.1]
      exact Function.update_of_ne here ..

theorem taken_out (config : Config) (side : getTransactionLocation type false = .ok location)
    (held : endpoint.transactions ⟨rsn, location⟩ = some transaction)
    (metadata : transaction.packets type = some request) (queue : windowOf type = window) :
    ∃ taken, endpoint.takeOutstanding config window ⟨rsn, type⟩ request.psn = .ok taken ∧
      TakenOut window request.psn endpoint taken := by
  unfold takeOutstanding
  by_cases present : containsPsn (endpoint.tx window).outstandingPackets request.psn = true
  · have erased := erased_taken_out present
    rw [if_neg (by simp [present])]
    have found : (endpoint.modifyTx window fun tx =>
        { tx with outstandingPackets := eraseWork tx.outstandingPackets request.psn }).locate
          rsn type = .ok ⟨⟨rsn, location⟩, transaction, request⟩ := located side held metadata
    dsimp only
    rw [found]
    refine ⟨_, rfl, ?_⟩
    dsimp only
    split_ifs
    · exact erased.books (erase_counted_books.after (decremented_retransmitted_books type true))
    · exact erased.books erase_counted_books
  · have absent : containsPsn (endpoint.tx window).outstandingPackets request.psn = false := by
      simpa using present
    have dequeued := dequeued_taken_out absent
    rw [if_pos (by simp [absent])]
    unfold dequeuePacketFromRetxScheduler
    rw [located side held metadata]
    refine ⟨_, rfl, ?_⟩
    rw [queue]
    cases config.version with
    | gen1 => exact dequeued
    | gen2 flag => exact dequeued.books (set_transaction_books held rfl)

/-- The transaction of a request or grant stays as it is, and the counter that counted the packet
is lowered. -/
theorem counted (config : Config) (answers : answeredPacket kind = some (location, type, window))
    (held : endpoint.transactions ⟨rsn, location⟩ = some transaction) :
    ∃ updated counted, endpoint.updateState ⟨rsn, location⟩ type .ntwkAckRx = .ok updated ∧
      updated.countAcknowledged config ⟨rsn, location⟩ type = .ok counted ∧
      Lowered config type endpoint counted ∧
      counted.transactions ⟨rsn, location⟩ = some transaction ∧
      ∀ key, (counted.transactions key).map entry = (endpoint.transactions key).map entry := by
  obtain ⟨types, _, _⟩ := answered_packet_some answers
  have updated : endpoint.updateState ⟨rsn, location⟩ type .ntwkAckRx =
      .ok (endpoint.setTransaction ⟨rsn, location⟩ transaction) := by
    refine update_state_eq_ok.2 ⟨transaction, transaction.state, held, ?_, rfl⟩
    rcases types with rfl | rfl | rfl <;> rfl
  have kept : SameBooks endpoint (endpoint.setTransaction ⟨rsn, location⟩ transaction) :=
    set_transaction_books held rfl
  refine ⟨_, _, updated, if_neg ?_, ?_, ?_, fun key => ?_⟩
  · rcases types with rfl | rfl | rfl <;> decide
  · have lowered : Lowered config type (endpoint.setTransaction ⟨rsn, location⟩ transaction)
        ((endpoint.setTransaction ⟨rsn, location⟩ transaction).decrementOutstandingRequestCount
          config type) := decremented_lowered type
    exact ⟨lowered.positions, lowered.contexts, lowered.counters, lowered.waiting,
      lowered.retransmissions, lowered.scheduled, lowered.reordered⟩
  · rw [decremented_transactions]
    exact Function.update_self ..
  · rw [decremented_transactions]
    exact kept.transactions key

/-- The packet is forgotten. -/
theorem released (config : Config) (window : WindowType) (psn : UInt32)
    (answers : answeredPacket kind = some (location, type, window))
    (held : endpoint.transactions ⟨rsn, location⟩ = some transaction)
    (metadata : transaction.packets type = some request) :
    ∃ after, endpoint.releaseAcknowledged config window ⟨rsn, type⟩ psn = .ok after ∧
      SameBooks (endpoint.modifyTx window fun tx => { tx with
        outstandingPacketContexts := Function.update tx.outstandingPacketContexts psn none })
        after := by
  obtain ⟨types, side, _⟩ := answered_packet_some answers
  have found : (endpoint.modifyTx window fun tx => { tx with
      outstandingPacketContexts := Function.update tx.outstandingPacketContexts psn none }).locate
        rsn type = .ok ⟨⟨rsn, location⟩, transaction, request⟩ := located side held metadata
  unfold releaseAcknowledged
  dsimp only
  rw [found]
  refine ⟨_, rfl, ?_⟩
  dsimp only
  rw [if_neg (by rcases types with rfl | rfl | rfl <;> decide),
    if_neg (by rcases types with rfl | rfl | rfl <;> decide)]
  split_ifs
  · exact rack_update_books config _
  · exact .rfl

/-- The acknowledgement of a request or grant that has a context succeeds, and takes away what
was kept of this packet only. -/
theorem reported (config : Config) (answers : answeredPacket kind = some (location, type, window))
    (held : endpoint.transactions ⟨rsn, location⟩ = some transaction)
    (metadata : transaction.packets type = some request)
    (found : (endpoint.tx window).outstandingPacketContexts request.psn = some ⟨rsn, type⟩) :
    ∃ after, endpoint.enqueueAckToUlp config window request.psn = .ok after ∧
      Unqueued window request.psn endpoint after ∧
      Reported config type window request.psn endpoint after ∧
      ∀ other, SamePosition (endpoint.tx other) (after.tx other) := by
  obtain ⟨_, side, queue⟩ := answered_packet_some answers
  obtain ⟨updated, middle, updates, counts, lowered, transactions, same⟩ :=
    counted config answers held
  obtain ⟨taken, takes, out⟩ := taken_out config side transactions metadata queue
  obtain ⟨known, heldTaken, packets⟩ := Option.map_eq_some_iff.1
    ((out.entries ⟨rsn, location⟩).trans (by rw [transactions, Option.map_some]))
  obtain ⟨packet, metadataTaken, _⟩ := Option.map_eq_some_iff.1
    ((congrFun (congrArg Prod.snd packets) type).trans
      (show numbers transaction type = _ by rw [numbers, metadata, Option.map_some]))
  obtain ⟨after, releases, forgotten⟩ := released config window request.psn answers heldTaken
    metadataTaken
  have positions (other : WindowType) : SamePosition (endpoint.tx other) (taken.tx other) :=
    ⟨(out.positions other).base.trans (lowered.positions other).base,
      (out.positions other).next.trans (lowered.positions other).next,
      (out.positions other).bits.trans (lowered.positions other).bits⟩
  refine ⟨after, ?_, ?_, ⟨fun other => ?_, fun other => ?_, fun key => ?_, ?_, ?_⟩, fun other => ?_⟩
  · unfold enqueueAckToUlp
    rw [found]
    exact bind_ok.2 ⟨_, side, bind_ok.2 ⟨_, updates, bind_ok.2 ⟨_, counts,
      bind_ok.2 ⟨_, takes, releases⟩⟩⟩⟩
  · have whole : Unqueued window request.psn endpoint taken :=
      out.toUnqueued.after lowered.waiting lowered.retransmissions
    constructor
    · intro other
      rw [(forgotten.windows other).outstanding, modify_tx_apply, ← whole.outstanding]
      split_ifs <;> rfl
    · intro other
      rw [forgotten.retransmissions, ← whole.retransmissions]
      rfl
  · rw [(forgotten.windows other).contexts, modify_tx_apply]
    split_ifs
    · exact congrArg (fun contexts => Function.update contexts request.psn none)
        ((out.contexts other).trans (lowered.contexts other))
    · exact (out.contexts other).trans (lowered.contexts other)
  · rw [(forgotten.windows other).counter, modify_tx_apply]
    refine .trans ?_ ((out.counters other).trans (lowered.counters other))
    split_ifs <;> rfl
  · exact (forgotten.transactions key).trans ((out.entries key).trans (same key))
  · exact forgotten.scheduled.trans (out.scheduled.trans lowered.scheduled)
  · exact forgotten.reordered.trans (out.reordered.trans lowered.reordered)
  · have same := forgotten.windows other
    rw [modify_tx_apply] at same
    refine ⟨same.base.trans (.trans ?_ (positions other).base),
      same.next.trans (.trans ?_ (positions other).next),
      same.bits.trans (.trans ?_ (positions other).bits)⟩ <;> split_ifs <;> rfl

/-! ## Positions -/

variable {tx : TxWindow} {log : List OutstandingPacketContext} {position : Nat}

/-- The position of the first packet of a window among all that were sent through it. -/
def firstPosition (tx : TxWindow) (log : List OutstandingPacketContext) : Nat :=
  log.length - span tx

/-- The packet that was sent at a position is not acknowledged. -/
def Unacknowledged (tx : TxWindow) (log : List OutstandingPacketContext) (position : Nat) : Prop :=
  firstPosition tx log ≤ position ∧ tx.window.bits (position - firstPosition tx log) = false

instance : Decidable (Unacknowledged tx log position) := inferInstanceAs (Decidable (_ ∧ _))

theorem advance_of_nat (start count : Nat) :
    advance (UInt32.ofNat start) count = UInt32.ofNat (start + count) := by
  apply UInt32.toNat_inj.mp
  rw [advance_to_nat, UInt32.toNat_ofNat', UInt32.toNat_ofNat']
  omega

theorem base_position (aligned : Aligned 0 tx log) :
    tx.basePacketSequenceNumber = UInt32.ofNat (firstPosition tx log) := by
  have ends : advance tx.basePacketSequenceNumber (span tx) =
      advance (UInt32.ofNat (firstPosition tx log)) (span tx) := by
    have reached : advance tx.basePacketSequenceNumber (span tx) = tx.nextPacketSequenceNumber :=
      advance_distance _ _
    rw [reached, advance_of_nat, firstPosition, Nat.sub_add_cancel aligned.sent, aligned.next]
  exact add_right_cancel ends

theorem offset_position (aligned : Aligned 0 tx log) (sent : position < log.length)
    (within : firstPosition tx log ≤ position) :
    offset tx (UInt32.ofNat position) = position - firstPosition tx log := by
  have bound := aligned.within
  unfold FastConnectionScheduler.txBitmapWidth at bound
  have small : position - firstPosition tx log < 2 ^ 32 := by
    unfold firstPosition
    omega
  have here : UInt32.ofNat position =
      advance tx.basePacketSequenceNumber (position - firstPosition tx log) := by
    rw [base_position aligned, advance_of_nat, Nat.add_sub_cancel' within]
  rw [here]
  exact offset_advance small

/-- A packet that is not acknowledged has its context. -/
theorem context_position (aligned : Aligned 0 tx log) (sent : position < log.length)
    (unacked : Unacknowledged tx log position) :
    tx.outstandingPacketContexts (UInt32.ofNat position) = log[position]? := by
  obtain ⟨within, bit⟩ := unacked
  have long := aligned.sent
  unfold firstPosition at within bit
  rw [aligned.contexts, offset_position aligned sent within, firstPosition, if_pos ⟨by omega,
    by omega, bit⟩, sentAt, Nat.add_sub_cancel' within]

/-- As long as the PSNs have not wrapped, plain numbers tell which packets are below the base. -/
theorem below_base_iff (aligned : Aligned 0 tx log) (sent : position < log.length)
    (early : log.length < 2 ^ 32) :
    UInt32.ofNat position < tx.basePacketSequenceNumber ↔ position < firstPosition tx log := by
  have first : firstPosition tx log < 2 ^ 32 := by
    unfold firstPosition
    omega
  rw [base_position aligned, UInt32.lt_iff_toNat_lt, UInt32.toNat_ofNat', UInt32.toNat_ofNat',
    Nat.mod_eq_of_lt (by omega), Nat.mod_eq_of_lt first]

/-! ## The acknowledgement as a whole -/

theorem locate_within : endpoint.locate rsn type ≠ .error .bitmapIndex := by
  refine bind_ne_error ?_ fun location => bind_ne_error ?_ fun transaction => map_ne_error ?_
  · cases type <;> nofun
  · unfold getTransaction
    cases endpoint.transactions ⟨rsn, location⟩ <;> nofun
  · unfold Transaction.getPacketMetadata
    cases transaction.packets type <;> nofun

/-- The timers read no bitmap. -/
theorem setup_within : endpoint.setupRetransmitTimer config ≠ .error .bitmapIndex := by
  have candidate (state : Endpoint) (window : WindowType) :
      state.candidateBaseTime config window ≠ .error .bitmapIndex := by
    unfold candidateBaseTime
    cases (state.tx window).outstandingPackets with
    | nil => nofun
    | cons work rest => exact map_ne_error locate_within
  exact map_ne_error (bind_ne_error (candidate _ _) fun _ => map_ne_error (candidate _ _))

/-- The window with its new bits, moved on if its first packet was acknowledged. -/
def movedOver (psn : UInt32) (bits : FalconBitmap) (tx : TxWindow) : TxWindow :=
  if psn = tx.basePacketSequenceNumber then
    { tx with
      window := bits.rightShift 1
      basePacketSequenceNumber := tx.basePacketSequenceNumber + 1 }
  else { tx with window := bits }

theorem moved_over_records (psn : UInt32) (bits : FalconBitmap) (tx : TxWindow) :
    SameRecords tx (movedOver psn bits tx) := by
  unfold movedOver
  split_ifs <;> exact ⟨rfl, rfl, rfl⟩

/-- What was reported, and the window then moved. -/
theorem acked_moved {after : Endpoint} {bits : FalconBitmap}
    (unqueued : Unqueued window psn endpoint after)
    (rest : Reported config type window psn endpoint after)
    (positions : ∀ other, SamePosition (endpoint.tx other) (after.tx other))
    (written : (after.tx window).window.set (offset (endpoint.tx window) psn) true = .ok bits) :
    AckedByAnswer config type window psn endpoint
      (after.modifyTx window (movedOver psn bits)) := by
  obtain ⟨_, _, set⟩ := FalconBitmap.set_eq_ok written
  obtain ⟨base, next, same⟩ := positions window
  have records (other : WindowType) : SameRecords (after.tx other)
      ((after.modifyTx window (movedOver psn bits)).tx other) := by
    rw [modify_tx_apply]
    split_ifs
    · exact moved_over_records ..
    · exact ⟨rfl, rfl, rfl⟩
  have here : (after.modifyTx window (movedOver psn bits)).tx window =
      movedOver psn bits (after.tx window) := Function.update_self ..
  refine ⟨⟨fun other => ?_, unqueued.retransmissions⟩, ⟨fun other => ?_, fun other => ?_,
    rest.entries, rest.scheduled, rest.reordered⟩, ?_, fun index => ?_, ?_, fun other differs => ?_⟩
  · exact (records other).outstanding.trans (unqueued.outstanding other)
  · exact (records other).contexts.trans (rest.contexts other)
  · exact (records other).counter.trans (rest.counters other)
  · rw [here, movedOver, base]
    split_ifs <;> rfl
  · rw [here, movedOver, base]
    split_ifs with first
    · have later : index + 1 ≠ offset (endpoint.tx window) psn := by
        simp [first, offset, distance]
      rw [FalconBitmap.bits_right_shift, set, if_neg later, same]
    · rw [set, same]
      by_cases marked : index = offset (endpoint.tx window) psn <;> simp [marked]
  · rw [here, ← next]
    unfold movedOver
    split_ifs <;> rfl
  · rw [modify_tx_apply, if_neg differs]
    exact positions other

/-- The answer of a packet that is not acknowledged yet. -/
theorem acked_by_answer {packet : Packet}
    (answers : answeredPacket packet.type = some (location, type, window))
    (held : endpoint.transactions ⟨packet.rsn, location⟩ = some transaction)
    (metadata : transaction.packets type = some request)
    (aligned : Aligned 0 (endpoint.tx window) log)
    (found : (endpoint.tx window).outstandingPacketContexts request.psn = some ⟨packet.rsn, type⟩)
    (above : ¬ request.psn < (endpoint.tx window).basePacketSequenceNumber) :
    ∃ acked, AckedByAnswer config type window request.psn endpoint acked ∧
      endpoint.handleImplicitAck config packet =
        (acked.setupTlpTimer config).setupRetransmitTimer config := by
  obtain ⟨_, below, bit, _⟩ := aligned.found found
  obtain ⟨after, reports, unqueued, rest, positions⟩ :=
    reported config answers held metadata found
  have within : offset (endpoint.tx window) request.psn < (after.tx window).window.size := by
    rw [(positions window).bits, aligned.size]
    exact Nat.lt_of_lt_of_le below aligned.within
  obtain ⟨bits, written⟩ : ∃ bits, (after.tx window).window.set
      (offset (endpoint.tx window) request.psn) true = .ok bits := ⟨_, dif_pos within⟩
  refine ⟨after.modifyTx window (movedOver request.psn bits), ?_, ?_⟩
  · exact acked_moved unqueued rest positions written
  · have read : (endpoint.tx window).window.get
        (request.psn - (endpoint.tx window).basePacketSequenceNumber).toNat = .ok false :=
      FalconBitmap.get_eq_ok.2 ⟨by rw [aligned.size]; exact below.trans_le aligned.within, bit⟩
    have marks : (after.tx window).window.set
        (request.psn - (endpoint.tx window).basePacketSequenceNumber).toNat true = .ok bits :=
      written
    unfold handleImplicitAck
    rw [answers]
    simp only [get_transaction_eq_ok.2 held, get_packet_eq_ok.2 metadata, Except.bind, if_neg above,
      read, Bool.false_eq_true, if_false, reports, marks]
    rfl

/-- The answer of a packet that is acknowledged changes nothing. -/
theorem acked_before {packet : Packet}
    (answers : answeredPacket packet.type = some (location, type, window))
    (held : endpoint.transactions ⟨packet.rsn, location⟩ = some transaction)
    (metadata : transaction.packets type = some request)
    (acked : request.psn < (endpoint.tx window).basePacketSequenceNumber ∨
      (endpoint.tx window).window.get (offset (endpoint.tx window) request.psn) = .ok true) :
    endpoint.handleImplicitAck config packet = .ok endpoint := by
  unfold handleImplicitAck
  rw [answers]
  simp only [get_transaction_eq_ok.2 held, get_packet_eq_ok.2 metadata, Except.bind]
  split_ifs with below
  · rfl
  · have read : (endpoint.tx window).window.get
        (request.psn - (endpoint.tx window).basePacketSequenceNumber).toNat = .ok true :=
      acked.resolve_left below
    rw [read]
    rfl

/-- A packet that answers a request or grant which was sent through a window acknowledges exactly
this packet, where plain numbers tell whether it lies below the base. The window moves on by one
packet, over the bits that were set before only as far as that. -/
theorem implicit_ack_exact {packet : Packet}
    (answers : answeredPacket packet.type = some (location, type, window))
    (held : endpoint.transactions ⟨packet.rsn, location⟩ = some transaction)
    (metadata : transaction.packets type = some request)
    (aligned : Aligned 0 (endpoint.tx window) log)
    (sent : log[position]? = some ⟨packet.rsn, type⟩)
    (numbered : request.psn = UInt32.ofNat position)
    (compared : request.psn < (endpoint.tx window).basePacketSequenceNumber ↔
      position < firstPosition (endpoint.tx window) log) :
    (Unacknowledged (endpoint.tx window) log position →
      (∃ acked, AckedByAnswer config type window request.psn endpoint acked ∧
        endpoint.handleImplicitAck config packet =
          (acked.setupTlpTimer config).setupRetransmitTimer config) ∧
      Ensures (endpoint.handleImplicitAck config packet)
        (AckedByAnswer config type window request.psn endpoint)) ∧
    (¬ Unacknowledged (endpoint.tx window) log position →
      endpoint.handleImplicitAck config packet = .ok endpoint) ∧
    endpoint.handleImplicitAck config packet ≠ .error .bitmapIndex := by
  have within : position < log.length := (List.getElem?_eq_some_iff.1 sent).1
  have acks (unacked : Unacknowledged (endpoint.tx window) log position) :
      ∃ acked, AckedByAnswer config type window request.psn endpoint acked ∧
        endpoint.handleImplicitAck config packet =
          (acked.setupTlpTimer config).setupRetransmitTimer config := by
    refine acked_by_answer answers held metadata aligned ?_ ?_
    · rw [numbered, context_position aligned within unacked, sent]
    · rw [compared]
      exact Nat.not_lt.2 unacked.1
  have skips (acked : ¬ Unacknowledged (endpoint.tx window) log position) :
      endpoint.handleImplicitAck config packet = .ok endpoint := by
    refine acked_before answers held metadata ?_
    by_cases below : position < firstPosition (endpoint.tx window) log
    · exact .inl (compared.2 below)
    · refine .inr (FalconBitmap.get_eq_ok.2 ?_)
      rw [numbered, offset_position aligned within (Nat.not_lt.1 below), aligned.size]
      have spans := aligned.within
      have bit : (endpoint.tx window).window.bits
          (position - firstPosition (endpoint.tx window) log) ≠ false :=
        fun unset => acked ⟨Nat.not_lt.1 below, unset⟩
      refine ⟨?_, by simpa using bit⟩
      unfold firstPosition at below ⊢
      omega
  refine ⟨fun unacked => ⟨acks unacked, ?_⟩, skips, ?_⟩
  · obtain ⟨after, acked, same⟩ := acks unacked
    rw [same]
    exact acknowledged_books.mono fun _ kept => acked.books kept
  · by_cases unacked : Unacknowledged (endpoint.tx window) log position
    · obtain ⟨after, _, same⟩ := acks unacked
      rw [same]
      exact setup_within
    · rw [skips unacked]
      nofun

/-- The answer of a read request that was just sent. -/
theorem implicit_ack_exact_read : ∃ logged : BooksRunProofs.Logged,
    (∃ acked, AckedByAnswer {} .pullRequest .request 0 logged.endpoint acked ∧
      logged.endpoint.handleImplicitAck {} ⟨.pullData, 0, 0, 0, 0⟩ =
        (acked.setupTlpTimer {}).setupRetransmitTimer {}) ∧
    logged.endpoint.handleImplicitAck {} ⟨.pullData, 0, 0, 0, 0⟩ ≠ .error .bitmapIndex := by
  obtain ⟨logged, reached, holds⟩ := BooksRunProofs.reached_after_read {}
    [.transmit ⟨0, .pullRequest⟩] (fun logged =>
      decide (logged.sent .request = [⟨0, .pullRequest⟩] ∧
        Unacknowledged (logged.endpoint.tx .request) (logged.sent .request) 0) &&
      (logged.endpoint.transactions ⟨0, .initiator⟩).any fun transaction =>
        (transaction.packets .pullRequest).any fun request => request.psn == 0) (by decide +kernel)
  obtain ⟨states, known⟩ := Bool.and_eq_true_iff.1 holds
  obtain ⟨sent, unacked⟩ := of_decide_eq_true states
  obtain ⟨transaction, held, packets⟩ := (Option.any_eq_true _ _).1 known
  obtain ⟨request, metadata, psn⟩ := (Option.any_eq_true _ _).1 packets
  have number : request.psn = UInt32.ofNat 0 := by simpa using psn
  have aligned := (BooksRunProofs.reachable_kept reached).aligned .request
  have first : request.psn < (logged.endpoint.tx .request).basePacketSequenceNumber ↔
      0 < firstPosition (logged.endpoint.tx .request) (logged.sent .request) := by
    rw [number]
    exact below_base_iff aligned (by simp [sent]) (by simp [sent])
  have position : (logged.sent .request)[0]? = some ⟨0, .pullRequest⟩ := by
    rw [sent]
    rfl
  obtain ⟨acks, _, within⟩ := @implicit_ack_exact {} _ _ _ _ _ _ _ _ ⟨.pullData, 0, 0, 0, 0⟩ rfl held
    metadata aligned position number first
  refine ⟨logged, ?_, within⟩
  rw [number] at acks
  exact (acks unacked).1

/-- Two read requests are sent, and the second one is acknowledged by a bit. -/
def secondReceived : List Event := [
  .initiate .readRequest, .transmit ⟨0, .pullRequest⟩,
  .initiate .readRequest, .transmit ⟨1, .pullRequest⟩,
  .receiveAck {
    rrbpsn := 0
    rdbpsn := 0
    isEack := true
    receiverRequestBitmap :=
      ⟨64, fun index => decide (index = 1), by simp; omega⟩ }]

/-- The first of the requests is answered, and the window moves on by one packet to one whose bit
is set. -/
def movesOverFirst (endpoint : Endpoint) : Bool :=
  decide ((endpoint.tx .request).basePacketSequenceNumber = 0) &&
    (endpoint.handleImplicitAck {} ⟨.pullData, 0, 0, 0, 0⟩).toOption.any fun after =>
      decide ((after.tx .request).basePacketSequenceNumber = 1 ∧
        (after.tx .request).window.bits 0 = true)

/-- The window does not move over the packets behind its first one that were received. -/
theorem received_prefix_remains : ∃ endpoint after : Endpoint,
    Runs.Reachable (Endpoint.Initial {}) (Endpoint.Step {}) endpoint ∧
      endpoint.handleImplicitAck {} ⟨.pullData, 0, 0, 0, 0⟩ = .ok after ∧
      (endpoint.tx .request).basePacketSequenceNumber = 0 ∧
      (after.tx .request).basePacketSequenceNumber = 1 ∧
      (after.tx .request).window.bits 0 = true := by
  have tested : (Runs.execute (attempt {}) secondReceived (starting {} 1000 0x4000 8)).any
      movesOverFirst = true := by decide +kernel
  obtain ⟨endpoint, reached, holds⟩ :=
    Runs.reached_with step_of_attempt (initial_starting {} 1000 0x4000 8) tested
  obtain ⟨base, answered⟩ := Bool.and_eq_true_iff.1 holds
  obtain ⟨after, done, moved⟩ := (Option.any_eq_true _ _).1 answered
  obtain ⟨shifted, received⟩ := of_decide_eq_true moved
  exact ⟨endpoint, after, reached, toOption_eq_some.1 done, of_decide_eq_true base, shifted,
    received⟩

end Isekai.ImplicitAckProofs
