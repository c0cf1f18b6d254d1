import Isekai.AckTimerProofs

/-! What a receiver owes its peer. The log of a run tells which packets were received, and
acknowledged by the ULP where they have to be, and which ACKs and base PSNs were sent; packets are
numbered there from the start of the connection, so that no number comes back. A piggybacked ACK
takes from the counter what the base PSNs have passed, whether the counter still held it or not. -/

namespace Isekai.AckObligationProofs
open SequenceNumber Outcomes Reliability AckCoalescing AckCoalescing.Receiver AckTimerProofs

variable {index : Nat}

/-- A packet that has to be reported, and the key whose counter it was counted in. -/
structure Completed (Flow : Type) where
  flow : Flow
  window : WindowType
  number : Nat
  deriving DecidableEq, Repr

/-- What a report tells the peer: all packets below its bases, and some beyond. -/
structure Coverage where
  base : WindowType → Nat
  bits : WindowType → Nat → Bool

def Coverage.Covers (coverage : Coverage) (window : WindowType) (number : Nat) : Prop :=
  number < coverage.base window ∨
    coverage.bits window (number - coverage.base window) = true

instance (coverage : Coverage) (window : WindowType) (number : Nat) :
    Decidable (coverage.Covers window number) :=
  inferInstanceAs (Decidable (_ ∨ _))

/-- The base PSN that a report carries for a window. -/
def bpsnOf : Report → WindowType → UInt32
  | .explicitAck packet => packet.bpsn
  | .piggyback rrbpsn rdbpsn => ofWindow rrbpsn rdbpsn

/-- The packets beyond the bases that a report names, by their distance. -/
def bitsOf : Report → WindowType → Nat → Bool
  | .explicitAck packet => fun window index => packet.isEack && (packet.ackBitmap window).bits index
  | .piggyback .. => fun _ _ => false

/-- A receiver with the log of its run. `passed` is how many packets are below each base. -/
structure Logged (Flow : Type) where
  receiver : Receiver Flow
  passed : WindowType → Nat := fun _ => 0
  completed : List (Completed Flow) := []
  coverages : List Coverage := []

variable {Flow : Type}

/-- The base PSN of a receive window. -/
def base (receiver : Receiver Flow) (window : WindowType) : UInt32 :=
  (receiver.rx window).basePacketSequenceNumber

/-- The number of a packet that is told by its PSN. -/
def numberOf (receiver : Receiver Flow) (passed : WindowType → Nat) (window : WindowType)
    (psn : UInt32) : Nat :=
  passed window + distance (base receiver window) psn

/-- The packet that an event completes: one that is accepted and needs no ULP, or one that the ULP
acknowledges. -/
def completes (receiver : Receiver Flow) : Event Flow → Option (Flow × WindowType × UInt32)
  | .receive flow packet resourcesAvailable =>
    let window := windowOf packet.type
    let rx := receiver.rx window
    let index := distance rx.basePacketSequenceNumber packet.psn
    if resourcesAvailable ∧ Endpoint.isPushData packet.type = false ∧
        index < rx.receiveWindow.size ∧ rx.receiveWindow.bits index = false then
      some (flow, window, packet.psn)
    else none
  | .ulpAck flow rsn =>
    (receiver.receivedPacketContexts rsn).bind fun context =>
      if context.type = .pullRequest then none
      else some (flow, windowOf context.type, context.psn)
  | _ => none

/-- The packets that have to be reported after an event. -/
def completedAfter (logged : Logged Flow) (event : Event Flow) : List (Completed Flow) :=
  match completes logged.receiver event with
  | some (flow, window, psn) =>
    logged.completed ++ [⟨flow, window, numberOf logged.receiver logged.passed window psn⟩]
  | none => logged.completed

/-- What was told the peer after an event. -/
def coveragesAfter (logged : Logged Flow) (after : Receiver Flow) : List Coverage :=
  logged.coverages ++ (after.sent.drop logged.receiver.sent.length).map fun report =>
    ⟨fun window => numberOf logged.receiver logged.passed window (bpsnOf report window),
      bitsOf report⟩

/-- How many packets are below the bases after an event. -/
def passedAfter (passed : WindowType → Nat) (before after : Receiver Flow) (window : WindowType) :
    Nat :=
  numberOf before passed window (base after window)

def logAfter (logged : Logged Flow) (event : Event Flow) (after : Receiver Flow) : Logged Flow where
  receiver := after
  passed := passedAfter logged.passed logged.receiver after
  completed := completedAfter logged event
  coverages := coveragesAfter logged after

/-- The peer was told of a packet. -/
def Covered (logged : Logged Flow) (packet : Completed Flow) : Prop :=
  ∃ coverage ∈ logged.coverages, coverage.Covers packet.window packet.number

instance (logged : Logged Flow) (packet : Completed Flow) : Decidable (Covered logged packet) :=
  inferInstanceAs (Decidable (∃ coverage ∈ logged.coverages, _))

/-- While the counter of a key is zero, or none of its timers will be recognised, the peer was
told of all its packets. -/
def ObligationsKept (logged : Logged Flow) : Prop :=
  ∀ flow, ((logged.receiver.entries flow).coalescingCounter = 0 ∨
      ∀ timer, timer.flow = flow → ¬ Recognised logged.receiver timer) →
    ∀ packet ∈ logged.completed, packet.flow = flow → Covered logged packet

variable {config : CoalescingConfig} {receiver before after : Receiver Flow}
  {logged : Logged Flow} {passed : WindowType → Nat} {completed : List (Completed Flow)}
  {flow : Flow} {window : WindowType} {psn : UInt32}

/-- An event happens, and is logged. -/
def Happens [DecidableEq Flow] (config : CoalescingConfig) (before : Logged Flow)
    (event : Event Flow) (after : Logged Flow) : Prop :=
  before.receiver.Possible event ∧
    before.receiver.perform config event = .ok after.receiver ∧
    after = logAfter before event after.receiver

/-- A key at which a piggybacked ACK loses nothing: out-of-window drops keep it from lowering the
counter, or twice the implicitly acknowledged packets leave something of it, or no packet of the
key waits beyond the bases that the peer was not told of. -/
def LosesNothing (logged : Logged Flow) (flow : Flow) : Prop :=
  logged.receiver.hasExperiencedOowDrops = true ∨
    logged.receiver.implicitlyAckedCounter * 2 <
      (logged.receiver.entries flow).coalescingCounter ∨
    ∀ packet ∈ logged.completed, packet.flow = flow →
      packet.number < logged.passed packet.window ∨ Covered logged packet

/-- The condition on a step: the ACKs that it piggybacks lose nothing. -/
def Careful (logged : Logged Flow) : Event Flow → Prop
  | .piggyback flow | .transmitNack flow => LosesNothing logged flow
  | _ => True

instance [DecidableEq Flow] (logged : Logged Flow) (flow : Flow) :
    Decidable (LosesNothing logged flow) := inferInstanceAs (Decidable (_ ∨ _ ∨ _))

instance [DecidableEq Flow] (logged : Logged Flow) :
    (event : Event Flow) → Decidable (Careful logged event)
  | .piggyback flow | .transmitNack flow => inferInstanceAs (Decidable (LosesNothing logged flow))
  | .tick _ | .receive .. | .ulpAck .. | .transmitAck _ | .timeout _ => .isTrue trivial

/-- A new connection, with an empty log. -/
structure Starts (logged : Logged Flow) : Prop where
  receiver : Initial logged.receiver
  passed : logged.passed = fun _ => 0
  completed : logged.completed = []
  coverages : logged.coverages = []

def LoggedStep [DecidableEq Flow] (config : CoalescingConfig) (before after : Logged Flow) : Prop :=
  ∃ event, Happens config before event after

/-- A step that meets the condition. -/
def CarefulStep [DecidableEq Flow] (config : CoalescingConfig) (before after : Logged Flow) : Prop :=
  ∃ event, Happens config before event after ∧ Careful before event

/-! ## Windows -/

/-- The windows agree with the log: what was completed is below the base or has its bit set, and
the ULP has only packets to acknowledge that wait within the window. -/
structure Books (receiver : Receiver Flow) (passed : WindowType → Nat)
    (completed : List (Completed Flow)) : Prop where
  sizes : ∀ window, (receiver.rx window).receiveWindow.size = rxWindowSize window ∧
    (receiver.rx window).ackWindow.size = rxWindowSize window
  received : ∀ window index, (receiver.rx window).ackWindow.bits index = true →
    (receiver.rx window).receiveWindow.bits index = true
  waiting : ∀ packet ∈ completed, passed packet.window ≤ packet.number →
    (receiver.rx packet.window).ackWindow.bits (packet.number - passed packet.window) = true
  contexts : ∀ rsn context, receiver.receivedPacketContexts rsn = some context →
    Endpoint.isPushData context.type = true →
    (receiver.rx .data).receiveWindow.bits (distance (base receiver .data) context.psn) = true ∧
      (receiver.rx .data).ackWindow.bits (distance (base receiver .data) context.psn) = false
  distinct : ∀ rsn context other next, receiver.receivedPacketContexts rsn = some context →
    receiver.receivedPacketContexts other = some next →
    Endpoint.isPushData context.type = true → Endpoint.isPushData next.type = true →
    context.psn = next.psn → rsn = other

theorem window_size_small (window : WindowType) : rxWindowSize window ≤ 128 := by
  cases window <;> decide

theorem seq_geq_iff {a b : UInt32} : seqGEQ a b = true ↔ distance b a < 2 ^ 31 := by
  have complement : seqGEQ a b = !seqLT a b := by
    unfold seqGEQ seqLT
    rw [← decide_not]
    exact decide_eq_decide.2 Int32.not_lt.symm
  rw [complement, Bool.not_eq_true', ← Bool.not_eq_true, seq_lt_iff]
  omega

/-- Neither before the base nor beyond the window. -/
theorem distance_in_window {start : UInt32} {size : Nat} (small : size ≤ 128)
    (notBefore : ¬ seqLT psn start = true)
    (notBeyond : ¬ seqGEQ psn (start + UInt32.ofNat size) = true) : distance start psn < size := by
  rw [seq_lt_iff] at notBefore
  rw [seq_geq_iff] at notBeyond
  by_contra outside
  have rest := distance_from_advance start psn (Nat.not_lt.1 outside)
  unfold advance at rest
  omega

theorem leading_ones_set {bitmap : FalconBitmap} (below : index < Endpoint.leadingOnes bitmap) :
    bitmap.bits index = true := by
  unfold Endpoint.leadingOnes at below
  have member := List.getElem_mem below
  have holds := List.all_eq_true.1 List.all_takeWhile _ member
  have same : ((List.range bitmap.size).takeWhile bitmap.bits)[index] = index := by
    rw [(List.takeWhile_prefix _).getElem below, List.getElem_range]
  rwa [same] at holds

theorem leading_ones_le (bitmap : FalconBitmap) : Endpoint.leadingOnes bitmap ≤ bitmap.size := by
  unfold Endpoint.leadingOnes
  have short := (List.takeWhile_prefix (l := List.range bitmap.size) bitmap.bits).length_le
  rwa [List.length_range] at short

/-- Bases, bits and contexts stay as they are. -/
structure SameWindows (before after : Receiver Flow) : Prop where
  base : ∀ window, base after window = base before window
  receive : ∀ window, (after.rx window).receiveWindow = (before.rx window).receiveWindow
  ack : ∀ window, (after.rx window).ackWindow = (before.rx window).ackWindow
  contexts : after.receivedPacketContexts = before.receivedPacketContexts

theorem SameWindows.rfl : SameWindows receiver receiver :=
  ⟨fun _ => .refl _, fun _ => .refl _, fun _ => .refl _, .refl _⟩

theorem SameWindows.trans {middle : Receiver Flow} (one : SameWindows before middle)
    (two : SameWindows middle after) : SameWindows before after :=
  ⟨fun window => (two.base window).trans (one.base window),
    fun window => (two.receive window).trans (one.receive window),
    fun window => (two.ack window).trans (one.ack window), two.contexts.trans one.contexts⟩

theorem Books.same (books : Books before passed completed) (same : SameWindows before after) :
    Books after passed completed := by
  obtain ⟨bases, receives, acks, contexts⟩ := same
  refine ⟨fun window => ?_, fun window index => ?_, fun packet member low => ?_, ?_, ?_⟩
  · rw [receives, acks]
    exact books.sizes window
  · rw [receives, acks]
    exact books.received window index
  · rw [acks]
    exact books.waiting packet member low
  · rw [contexts, bases, receives, acks]
    exact books.contexts
  · rw [contexts]
    exact books.distinct

/-- The bit of a packet of a window is set, and the window moves on past bits that are. -/
structure Shifted (window : WindowType) (index delta : Nat) (before after : Receiver Flow) :
    Prop where
  elsewhere : ∀ other, other ≠ window → after.rx other = before.rx other
  sent : after.sent = before.sent
  entries : after.entries = before.entries
  contexts : after.receivedPacketContexts = before.receivedPacketContexts
  base : base after window = advance (base before window) delta
  sizes : (after.rx window).receiveWindow.size = (before.rx window).receiveWindow.size ∧
    (after.rx window).ackWindow.size = (before.rx window).ackWindow.size
  receive : ∀ bit, (after.rx window).receiveWindow.bits bit =
    (before.rx window).receiveWindow.bits (bit + delta)
  ack : ∀ bit, (after.rx window).ackWindow.bits bit =
    if bit + delta = index then true else (before.rx window).ackWindow.bits (bit + delta)
  small : delta ≤ (before.rx window).ackWindow.size
  past : ∀ bit < delta, bit = index ∨ (before.rx window).ackWindow.bits bit = true

theorem updated_bitmap_shifted (window : WindowType) (psn : UInt32) :
    Ensures (receiver.updateReceiveAckBitmap window psn) fun after => ∃ delta,
      Shifted window (distance (base receiver window) psn %
        (receiver.rx window).receiveWindow.size) delta receiver after := by
  refine ensures_map.2 fun acked written => ?_
  obtain ⟨-, size, bits⟩ := FalconBitmap.set_eq_ok written
  split_ifs with first
  · refine ⟨Endpoint.leadingOnes acked, fun other differs => ?_, rfl, rfl, rfl, ?_, ?_,
      fun bit => ?_, fun bit => ?_, ?_, fun bit below => ?_⟩
    · exact Function.update_of_ne differs ..
    · simp only [base, modifyRx, Function.update_self]
      rfl
    · simp only [modifyRx, Function.update_self]
      exact ⟨rfl, size⟩
    · simp only [modifyRx, Function.update_self]
      rfl
    · simp only [modifyRx, Function.update_self]
      exact bits _
    · rw [← size]
      exact leading_ones_le acked
    · have set := leading_ones_set below
      rw [bits] at set
      split_ifs at set with same
      · exact .inl same
      · exact .inr set
  · refine ⟨0, fun other differs => ?_, rfl, rfl, rfl, ?_, ?_, fun bit => ?_, fun bit => ?_,
      Nat.zero_le _, fun bit below => absurd below (Nat.not_lt_zero bit)⟩
    · exact Function.update_of_ne differs ..
    · simp only [base, modifyRx, Function.update_self, advance_zero]
    · simp only [modifyRx, Function.update_self]
      exact ⟨trivial, size⟩
    · simp only [modifyRx, Function.update_self]
      rfl
    · simp only [modifyRx, Function.update_self]
      exact bits _

/-- A packet that was received is acknowledged. -/
theorem acked_books (books : Books receiver passed completed) (flow : Flow)
    (here : (receiver.rx window).receiveWindow.bits (distance (base receiver window) psn) = true)
    (apart : ∀ rsn context, receiver.receivedPacketContexts rsn = some context →
      Endpoint.isPushData context.type = true → window = .data → context.psn ≠ psn) :
    Ensures (receiver.updateReceiveAckBitmap window psn) fun after =>
      Books after (passedAfter passed receiver after)
        (completed ++ [⟨flow, window, numberOf receiver passed window psn⟩]) ∧
      after.sent = receiver.sent ∧ after.entries = receiver.entries := by
  have inside : distance (base receiver window) psn < (receiver.rx window).receiveWindow.size := by
    by_contra outside
    rw [(receiver.rx window).receiveWindow.bounded _ (Nat.not_lt.1 outside)] at here
    cases here
  refine (updated_bitmap_shifted window psn).mono fun after ⟨delta, shifted⟩ => ?_
  rw [Nat.mod_eq_of_lt inside] at shifted
  have short : delta < 2 ^ 32 := by
    have small := shifted.small
    have least := window_size_small window
    rw [(books.sizes window).2] at small
    omega
  have moved : passedAfter passed receiver after window = passed window + delta := by
    unfold passedAfter numberOf
    rw [shifted.base, distance_advance _ short]
  have stays (other : WindowType) (differs : other ≠ window) :
      passedAfter passed receiver after other = passed other := by
    unfold passedAfter numberOf base
    rw [shifted.elsewhere other differs]
    simp [distance]
  refine ⟨⟨fun other => ?_, fun other bit set => ?_, fun packet member low => ?_, ?_, ?_⟩,
    shifted.sent, shifted.entries⟩
  · by_cases same : other = window
    · rw [same, shifted.sizes.1, shifted.sizes.2]
      exact books.sizes window
    · rw [shifted.elsewhere other same]
      exact books.sizes other
  · by_cases same : other = window
    · rw [same, shifted.ack] at set
      rw [same, shifted.receive]
      split_ifs at set with is
      · rw [is]
        exact here
      · exact books.received window _ set
    · rw [shifted.elsewhere other same] at set ⊢
      exact books.received other bit set
  · rcases List.mem_append.1 member with old | new
    · have waits := books.waiting packet old
      by_cases same : packet.window = window
      · rw [same] at low waits ⊢
        rw [moved] at low ⊢
        rw [shifted.ack, show packet.number - (passed window + delta) + delta =
          packet.number - passed window by omega, waits (by omega)]
        exact ite_self _
      · rw [stays _ same] at low ⊢
        rw [shifted.elsewhere _ same]
        exact waits low
    · rw [List.mem_singleton.1 new] at low ⊢
      unfold numberOf at low ⊢
      dsimp only at low ⊢
      rw [moved] at low ⊢
      rw [shifted.ack, if_pos (by omega)]
  · intro rsn context found push
    rw [shifted.contexts] at found
    obtain ⟨received, unacked⟩ := books.contexts rsn context found push
    by_cases same : WindowType.data = window
    · subst same
      have differs := apart rsn context found push rfl
      have beyond : delta ≤ distance (base receiver .data) context.psn := by
        by_contra less
        rcases shifted.past _ (Nat.not_le.1 less) with is | set
        · exact differs (distance_injective _ is)
        · rw [unacked] at set
          cases set
      have place := distance_from_advance _ _ beyond
      rw [shifted.base, place, shifted.receive, shifted.ack, Nat.sub_add_cancel beyond,
        if_neg fun is => differs (distance_injective _ is)]
      exact ⟨received, unacked⟩
    · unfold base
      rw [shifted.elsewhere _ same]
      exact ⟨received, unacked⟩
  · rw [shifted.contexts]
    exact books.distinct

theorem passed_same (same : ∀ window, base after window = base before window) :
    passedAfter passed before after = passed := by
  funext window
  unfold passedAfter numberOf
  rw [same]
  simp [distance]

theorem in_window_iff {start : UInt32} {size : Nat} (small : size ≤ 128) :
    distance start psn < size ↔ ¬ seqLT psn start = true ∧
      ¬ seqGEQ psn (start + UInt32.ofNat size) = true := by
  refine ⟨fun inside => ?_, fun ⟨notBefore, notBeyond⟩ =>
    distance_in_window small notBefore notBeyond⟩
  rw [seq_lt_iff, seq_geq_iff]
  refine ⟨by omega, fun beyond => ?_⟩
  have bound := distance_lt start psn
  have whole : distance (start + UInt32.ofNat size) psn + size =
      distance start psn + 2 ^ 32 := by
    have low := start.toNat_lt
    have high := psn.toNat_lt
    simp only [distance_mod, UInt32.toNat_add, UInt32.toNat_ofNat'] at inside bound ⊢
    omega
  omega

theorem window_of_push {type : PacketType} (push : Endpoint.isPushData type = true) :
    windowOf type = .data := by
  cases type <;> first | rfl | cases push

theorem modified_rx_apply (window other : WindowType) (change : RxWindow → RxWindow) :
    (receiver.modifyRx window change).rx other =
      if other = window then change (receiver.rx other) else receiver.rx other := by
  unfold modifyRx
  by_cases same : other = window
  · subst same
    rw [if_pos rfl]
    exact Function.update_self ..
  · rw [if_neg same]
    exact Function.update_of_ne same ..

/-- The bit of a packet that arrives is set among those that are received. -/
theorem stored_books (books : Books receiver passed completed) {received : FalconBitmap}
    (written : (receiver.rx window).receiveWindow.set index true = .ok received) :
    Books (receiver.modifyRx window fun rx => { rx with receiveWindow := received }) passed
      completed := by
  obtain ⟨-, size, bits⟩ := FalconBitmap.set_eq_ok written
  have grows (bit : Nat) (set : (receiver.rx window).receiveWindow.bits bit = true) :
      received.bits bit = true := by
    rw [bits, set]
    exact ite_self _
  have acks (other : WindowType) : ((receiver.modifyRx window fun rx =>
      { rx with receiveWindow := received }).rx other).ackWindow = (receiver.rx other).ackWindow := by
    rw [modified_rx_apply]
    split_ifs <;> rfl
  have bases (other : WindowType) : base (receiver.modifyRx window fun rx =>
      { rx with receiveWindow := received }) other = base receiver other := by
    unfold base
    rw [modified_rx_apply]
    split_ifs <;> rfl
  have receives (other : WindowType) (bit : Nat)
      (set : (receiver.rx other).receiveWindow.bits bit = true) :
      ((receiver.modifyRx window fun rx => { rx with receiveWindow := received }).rx
        other).receiveWindow.bits bit = true := by
    rw [modified_rx_apply]
    split_ifs with same
    · exact grows bit (same ▸ set)
    · exact set
  refine ⟨fun other => ?_, fun other bit set => ?_, fun packet member low => ?_, ?_,
    books.distinct⟩
  · rw [acks]
    refine ⟨?_, (books.sizes other).2⟩
    rw [modified_rx_apply]
    split_ifs with same
    · exact size.trans (same ▸ (books.sizes other).1)
    · exact (books.sizes other).1
  · rw [acks] at set
    exact receives other bit (books.received other bit set)
  · rw [acks]
    exact books.waiting packet member low
  · intro rsn context found push
    obtain ⟨arrived, unacked⟩ := books.contexts rsn context found push
    rw [acks, bases]
    exact ⟨receives .data _ arrived, unacked⟩

/-- The context of a packet that arrives. -/
theorem context_books (books : Books receiver passed completed) (packet : IncomingPacket)
    (fits : Endpoint.isPushData packet.type = true →
      (receiver.rx .data).receiveWindow.bits (distance (base receiver .data) packet.psn) = true ∧
      (receiver.rx .data).ackWindow.bits (distance (base receiver .data) packet.psn) = false ∧
      ∀ rsn context, receiver.receivedPacketContexts rsn = some context →
        Endpoint.isPushData context.type = true → context.psn ≠ packet.psn) :
    Books (receiver.createReceivedContext packet) passed completed := by
  unfold createReceivedContext
  split_ifs
  · refine ⟨books.sizes, books.received, books.waiting, fun rsn context found push => ?_,
      fun rsn context other next found foundNext push pushNext same => ?_⟩
    · dsimp only at found
      by_cases here : rsn = packet.rsn
      · subst here
        rw [Function.update_self] at found
        cases found
        exact ⟨(fits push).1, (fits push).2.1⟩
      · rw [Function.update_of_ne here] at found
        exact books.contexts rsn context found push
    · dsimp only at found foundNext
      by_cases here : rsn = packet.rsn <;> by_cases there : other = packet.rsn
      · exact here.trans there.symm
      · rw [here, Function.update_self] at found
        rw [Function.update_of_ne there] at foundNext
        cases found
        exact absurd same.symm ((fits push).2.2 other next foundNext pushNext)
      · rw [Function.update_of_ne here] at found
        rw [there, Function.update_self] at foundNext
        cases foundNext
        exact absurd same ((fits pushNext).2.2 rsn context found push)
      · rw [Function.update_of_ne here] at found
        rw [Function.update_of_ne there] at foundNext
        exact books.distinct rsn context other next found foundNext push pushNext same
  · exact books

/-! ## Reports -/

/-- An explicit ACK that names all that a receiver has acknowledged is the last to be sent. -/
def Reported (before after : Receiver Flow) : Prop :=
  ∃ packet : AckPacket, after.sent = before.sent ++ [.explicitAck packet] ∧
    ∀ window, packet.bpsn window = base after window ∧
      ∀ index, (after.rx window).ackWindow.bits index = true →
        bitsOf (.explicitAck packet) window index = true

theorem reset_windows : SameWindows receiver receiver.resetOowDrops :=
  ⟨fun _ => rfl, fun _ => rfl, fun _ => rfl, rfl⟩

theorem is_empty_of_bit {bitmap : FalconBitmap} (set : bitmap.bits index = true) :
    bitmap.isEmpty = false := by
  unfold FalconBitmap.isEmpty
  rw [List.all_eq_false]
  have inside : index < bitmap.size := by
    by_contra outside
    rw [bitmap.bounded index (Nat.not_lt.1 outside)] at set
    cases set
  exact ⟨index, List.mem_range.2 inside, by simp [set]⟩

/-- An acknowledged packet beyond the base makes the ACK an EACK. -/
theorem needs_eack_of_bit (set : (receiver.rx window).ackWindow.bits index = true) :
    receiver.needsEack config = true := by
  unfold needsEack
  cases window with
  | request => simp [is_empty_of_bit set]
  | data => simp [is_empty_of_bit set]

theorem created_reports (window : WindowType) :
    (receiver.createExplicitAckOrEack config).1.bpsn window = base receiver window ∧
      ∀ index, (receiver.rx window).ackWindow.bits index = true →
        bitsOf (.explicitAck (receiver.createExplicitAckOrEack config).1) window index = true := by
  refine ⟨?_, fun index set => ?_⟩
  · unfold createExplicitAckOrEack
    dsimp only
    split_ifs <;> cases window <;> rfl
  · unfold createExplicitAckOrEack
    dsimp only
    rw [if_pos (needs_eack_of_bit set)]
    cases window <;> exact set

/-! ## Events that count -/

/-- What an event that piggybacks nothing leaves: the windows agree with the log, and either all
that was completed is reported, or no counter became zero, and none is for a new packet. -/
structure Follows (logged : Logged Flow) (event : Event Flow) (after : Receiver Flow) : Prop where
  books : Books after (passedAfter logged.passed logged.receiver after)
    (completedAfter logged event)
  reports : Reported logged.receiver after ∨ after.sent = logged.receiver.sent ∧
    ∀ flow, (after.entries flow).coalescingCounter = 0 →
      (logged.receiver.entries flow).coalescingCounter = 0 ∧
        ∀ packet ∈ completedAfter logged event, packet.flow = flow → packet ∈ logged.completed

/-- An event that leaves all as it is. -/
theorem unchanged_follows {event : Event Flow} (none : completes logged.receiver event = none)
    (books : Books logged.receiver logged.passed logged.completed)
    (same : SameWindows logged.receiver after) (sent : after.sent = logged.receiver.sent)
    (entries : after.entries = logged.receiver.entries) : Follows logged event after := by
  have completed : completedAfter logged event = logged.completed := by
    unfold completedAfter
    rw [none]
  refine ⟨?_, .inr ⟨sent, fun flow zero => ⟨by rw [← entries]; exact zero, ?_⟩⟩⟩
  · rw [completed, passed_same same.base]
    exact books.same same
  · rw [completed]
    exact fun packet member _ => member

theorem context_same (packet : IncomingPacket) :
    (receiver.createReceivedContext packet).rx = receiver.rx ∧
      (receiver.createReceivedContext packet).sent = receiver.sent ∧
      (receiver.createReceivedContext packet).entries = receiver.entries := by
  unfold createReceivedContext
  split_ifs <;> exact ⟨rfl, rfl, rfl⟩

theorem context_follows {event : Event Flow} (follows : Follows logged event before)
    (packet : IncomingPacket) (fits : Endpoint.isPushData packet.type = true →
      (before.rx .data).receiveWindow.bits (distance (base before .data) packet.psn) = true ∧
      (before.rx .data).ackWindow.bits (distance (base before .data) packet.psn) = false ∧
      ∀ rsn context, before.receivedPacketContexts rsn = some context →
        Endpoint.isPushData context.type = true → context.psn ≠ packet.psn) :
    Follows logged event (before.createReceivedContext packet) := by
  obtain ⟨rx, sent, entries⟩ := @context_same Flow before packet
  refine ⟨?_, ?_⟩
  · have passed : passedAfter logged.passed logged.receiver (before.createReceivedContext packet) =
        passedAfter logged.passed logged.receiver before := by
      funext window
      unfold passedAfter base
      rw [rx]
    rw [passed]
    exact context_books follows.books packet fits
  · unfold Reported base
    rw [sent, entries, rx]
    exact follows.reports

/-- What was told stays told. -/
theorem covered_later {event : Event Flow} {packet : Completed Flow}
    (covered : Covered logged packet) : Covered (logAfter logged event after) packet := by
  obtain ⟨coverage, member, covers⟩ := covered
  exact ⟨coverage, List.mem_append_left _ member, covers⟩

/-- The report that an event adds to the log. -/
theorem coverage_added {event : Event Flow} {report : Report}
    (sent : after.sent = logged.receiver.sent ++ [report]) :
    (⟨fun window => numberOf logged.receiver logged.passed window (bpsnOf report window),
      bitsOf report⟩ : Coverage) ∈ (logAfter logged event after).coverages := by
  refine List.mem_append_right _ ?_
  rw [sent, List.drop_left]
  exact List.mem_singleton_self _

theorem reported_covered {event : Event Flow}
    (books : Books after (passedAfter logged.passed logged.receiver after)
      (completedAfter logged event))
    (reported : Reported logged.receiver after) {packet : Completed Flow}
    (member : packet ∈ completedAfter logged event) :
    Covered (logAfter logged event after) packet := by
  obtain ⟨ack, sent, covers⟩ := reported
  refine ⟨_, coverage_added sent, ?_⟩
  obtain ⟨bases, bits⟩ := covers packet.window
  unfold Coverage.Covers
  dsimp only [bpsnOf]
  rw [bases]
  by_cases low : packet.number < passedAfter logged.passed logged.receiver after packet.window
  · exact .inl low
  · exact .inr (bits _ (books.waiting packet member (Nat.not_lt.1 low)))

/-- What holds in every state that careful steps lead to. -/
structure Kept (logged : Logged Flow) : Prop where
  timed : Timed logged.receiver
  books : Books logged.receiver logged.passed logged.completed
  settled : ∀ flow, (logged.receiver.entries flow).coalescingCounter = 0 →
    ∀ packet ∈ logged.completed, packet.flow = flow → Covered logged packet

/-- The obligations of a connection are those of the keys whose counter is zero. -/
theorem obligations_kept_iff_settled (timed : Timed logged.receiver) :
    ObligationsKept logged ↔ ∀ flow, (logged.receiver.entries flow).coalescingCounter = 0 →
      ∀ packet ∈ logged.completed, packet.flow = flow → Covered logged packet := by
  refine ⟨fun kept flow zero => kept flow (.inl zero), fun settled flow idle => ?_⟩
  apply settled flow
  by_contra counts
  rcases idle with zero | none
  · exact counts zero
  · have pending := timed.pending flow counts
    refine none _ rfl ⟨pending, ?_, UInt32.pos_iff_ne_zero.2 counts⟩
    dsimp only [lastTimer]
    omega

theorem piggybacked_kept {event : Event Flow} (kept : Kept logged)
    (none : completes logged.receiver event = none) (timed : Timed after)
    (same : SameWindows logged.receiver after)
    (settled : ∀ other, (after.entries other).coalescingCounter = 0 →
      ∀ packet ∈ (logAfter logged event after).completed, packet.flow = other →
        Covered (logAfter logged event after) packet) : Kept (logAfter logged event after) := by
  refine ⟨timed, ?_, settled⟩
  have completed : completedAfter logged event = logged.completed := by
    unfold completedAfter
    rw [none]
  change Books after (passedAfter logged.passed logged.receiver after) (completedAfter logged event)
  rw [completed, passed_same same.base]
  exact kept.books.same same

variable [DecidableEq Flow]

theorem transmitted_windows (flow : Flow) : SameWindows receiver (receiver.transmitAck config flow) := by
  unfold transmitAck createExplicitAckOrEack
  dsimp only
  split_ifs <;> exact ⟨fun _ => rfl, fun _ => rfl, fun _ => rfl, rfl⟩

theorem transmitted_reported (flow : Flow) :
    Reported receiver (receiver.transmitAck config flow) := by
  have same := @transmitted_windows Flow config receiver _ flow
  refine ⟨(createExplicitAckOrEack config { receiver.modifyEntry flow fun entry =>
      { entry with coalescingCounter := 0, timerTriggerTime := 0 } with
      implicitlyAckedCounter := 0 }).1, ?_, fun window => ?_⟩
  · unfold transmitAck createExplicitAckOrEack
    dsimp only
    split_ifs <;> rfl
  · rw [same.base, same.ack]
    exact created_reports window

/-- A packet was counted: the ACK that it makes due reports all, or its key has a counter. -/
theorem generated_spec (timed : Timed receiver) (flow : Flow) (immediateAckReq : Bool)
    {increment : UInt32} (few : increment = 1 ∨ increment = 2) :
    Ensures (receiver.generateAckOrUpdateCoalescingState config flow immediateAckReq increment)
      fun after => SameWindows receiver after ∧ (Reported receiver after ∨
        after.sent = receiver.sent ∧ (after.entries flow).coalescingCounter ≠ 0 ∧
          ∀ other, other ≠ flow → after.entries other = receiver.entries other) := by
  have counts := counted_ne_zero few (timed.below flow)
  unfold generateAckOrUpdateCoalescingState
  refine ensures_ite (fun _ => ensures_ok.2 ?_) fun _ => ?_
  · have same := @transmitted_windows Flow config (receiver.modifyEntry flow fun entry =>
      { entry with coalescingCounter := entry.coalescingCounter + increment }) _ flow
    refine ⟨⟨same.base, same.receive, same.ack, same.contexts⟩, .inl ?_⟩
    exact transmitted_reported flow
  · refine ensures_ite (fun _ => ?_) fun _ => ensures_ok.2 ?_
    · refine ensures_ite (fun _ => ensures_error) fun _ => ensures_ok.2 ?_
      refine ⟨⟨fun _ => rfl, fun _ => rfl, fun _ => rfl, rfl⟩, .inr ⟨rfl, ?_, fun other differs => ?_⟩⟩
      · simp only [modifyEntry, Function.update_self]
        exact counts
      · simp only [modifyEntry, Function.update_of_ne differs]
    · refine ⟨⟨fun _ => rfl, fun _ => rfl, fun _ => rfl, rfl⟩, .inr ⟨rfl, ?_, fun other differs => ?_⟩⟩
      · simp only [modifyEntry, Function.update_self]
        exact counts
      · simp only [modifyEntry, Function.update_of_ne differs]

theorem counted_follows {event : Event Flow} {middle : Receiver Flow} (timed : Timed middle)
    (books : Books middle (passedAfter logged.passed logged.receiver middle)
      (completedAfter logged event))
    (sent : middle.sent = logged.receiver.sent)
    (entries : middle.entries = logged.receiver.entries)
    (own : ∀ packet ∈ completedAfter logged event, packet ∈ logged.completed ∨ packet.flow = flow)
    (immediateAckReq : Bool) {increment : UInt32} (few : increment = 1 ∨ increment = 2) :
    Ensures (middle.generateAckOrUpdateCoalescingState config flow immediateAckReq increment)
      fun after => Follows logged event after ∧ SameWindows middle after := by
  refine (generated_spec timed flow immediateAckReq few).mono fun after ⟨same, reports⟩ => ⟨⟨?_, ?_⟩, same⟩
  · have passed : passedAfter logged.passed logged.receiver after =
        passedAfter logged.passed logged.receiver middle := by
      funext window
      unfold passedAfter
      rw [same.base]
    rw [passed]
    exact books.same same
  · rcases reports with ⟨packet, is, covers⟩ | ⟨silent, counts, others⟩
    · exact .inl ⟨packet, by rw [is, sent], covers⟩
    · refine .inr ⟨silent.trans sent, fun other zero => ?_⟩
      by_cases here : other = flow
      · exact absurd (here ▸ zero) counts
      · rw [others other here, entries] at zero
        refine ⟨zero, fun packet member owned => ?_⟩
        rcases own packet member with old | mine
        · exact old
        · exact absurd (owned.symm.trans mine) here

/-- An event that completes no packet. -/
theorem counted_only {event : Event Flow} {middle : Receiver Flow}
    (none : completes logged.receiver event = none) (timed : Timed middle)
    (books : Books logged.receiver logged.passed logged.completed)
    (same : SameWindows logged.receiver middle) (sent : middle.sent = logged.receiver.sent)
    (entries : middle.entries = logged.receiver.entries) (immediateAckReq : Bool)
    {increment : UInt32} (few : increment = 1 ∨ increment = 2) :
    Ensures (middle.generateAckOrUpdateCoalescingState config flow immediateAckReq increment)
      (Follows logged event) := by
  have completed : completedAfter logged event = logged.completed := by
    unfold completedAfter
    rw [none]
  refine (counted_follows timed ?_ sent entries ?_ immediateAckReq few).mono fun _ => And.left
  · rw [completed, passed_same same.base]
    exact books.same same
  · rw [completed]
    exact fun packet member => .inl member

theorem accepted_follows (books : Books logged.receiver logged.passed logged.completed)
    (timed : Timed logged.receiver) (flow : Flow) (packet : IncomingPacket)
    (inside : distance (base logged.receiver (windowOf packet.type)) packet.psn <
      (logged.receiver.rx (windowOf packet.type)).receiveWindow.size)
    (new : (logged.receiver.rx (windowOf packet.type)).receiveWindow.bits
      (distance (base logged.receiver (windowOf packet.type)) packet.psn) = false) :
    Ensures (logged.receiver.accept config flow packet
      (distance (base logged.receiver (windowOf packet.type)) packet.psn))
      (Follows logged (.receive flow packet true)) := by
  refine ensures_bind fun received written => ensures_map.2 ?_
  have stored := stored_books books written
  have storedTimed := modified_rx_timed timed (windowOf packet.type)
    fun rx => { rx with receiveWindow := received }
  obtain ⟨-, -, bits⟩ := FalconBitmap.set_eq_ok written
  -- No packet that waits for the ULP has the same PSN, as its bit is set.
  have apart : ∀ rsn context, logged.receiver.receivedPacketContexts rsn = some context →
      Endpoint.isPushData context.type = true → windowOf packet.type = .data →
      context.psn ≠ packet.psn := by
    intro rsn context found push place same
    have arrived := (books.contexts rsn context found push).1
    rw [same, ← place, new] at arrived
    cases arrived
  have bases (window : WindowType) : base (logged.receiver.modifyRx (windowOf packet.type)
      fun rx => { rx with receiveWindow := received }) window = base logged.receiver window := by
    unfold base
    rw [modified_rx_apply]
    split_ifs <;> rfl
  have here : ((logged.receiver.modifyRx (windowOf packet.type)
      fun rx => { rx with receiveWindow := received }).rx (windowOf packet.type)).receiveWindow.bits
        (distance (base logged.receiver (windowOf packet.type)) packet.psn) = true := by
    rw [modified_rx_apply, if_pos rfl]
    dsimp only
    rw [bits, if_pos rfl]
  refine Ensures.mono (?_ : Ensures _ fun counted => Follows logged (.receive flow packet true)
    counted ∧ (Endpoint.isPushData packet.type = true → SameWindows (logged.receiver.modifyRx
      (windowOf packet.type) fun rx => { rx with receiveWindow := received }) counted))
    fun counted ⟨follows, same⟩ => ?_
  · by_cases push : Endpoint.isPushData packet.type = true
    · rw [if_pos push]
      have none : completes logged.receiver (.receive flow packet true) = none := by
        simp [completes, push]
      have completed : completedAfter logged (.receive flow packet true) = logged.completed := by
        unfold completedAfter
        rw [none]
      refine (counted_follows storedTimed ?_ rfl rfl ?_ false (.inl rfl)).mono
        fun counted ⟨follows, same⟩ => ⟨follows, fun _ => same⟩
      · rw [completed, passed_same bases]
        exact stored
      · rw [completed]
        exact fun other member => .inl member
    · rw [if_neg push]
      have one : completes logged.receiver (.receive flow packet true) =
          some (flow, windowOf packet.type, packet.psn) := by
        unfold completes
        exact if_pos ⟨rfl, Bool.not_eq_true _ ▸ push, inside, new⟩
      have completed : completedAfter logged (.receive flow packet true) = logged.completed ++
          [⟨flow, windowOf packet.type,
            numberOf logged.receiver logged.passed (windowOf packet.type) packet.psn⟩] := by
        unfold completedAfter
        rw [one]
      have number : numberOf (logged.receiver.modifyRx (windowOf packet.type)
          fun rx => { rx with receiveWindow := received }) logged.passed (windowOf packet.type)
            packet.psn =
          numberOf logged.receiver logged.passed (windowOf packet.type) packet.psn := by
        unfold numberOf
        rw [bases]
      refine Ensures.bind ((acked_books stored flow ?_ apart).and
        (updated_bitmap_settles (windowOf packet.type) packet.psn))
        fun updated ⟨⟨moved, sent, entries⟩, settles⟩ => ?_
      · rw [bases]
        exact here
      · have passes : passedAfter logged.passed (logged.receiver.modifyRx (windowOf packet.type)
            fun rx => { rx with receiveWindow := received }) updated =
            passedAfter logged.passed logged.receiver updated := by
          funext window
          unfold passedAfter numberOf
          rw [bases]
        refine (counted_follows (storedTimed.settles settles) ?_ sent entries ?_ packet.ackReq
          (.inr rfl)).mono fun counted ⟨follows, _⟩ => ⟨follows, fun is => absurd is push⟩
        · rw [completed, ← number, ← passes]
          exact moved
        · rw [completed]
          intro other member
          exact (List.mem_append.1 member).imp id fun is => by rw [List.mem_singleton.1 is]
  · refine context_follows follows packet fun push => ?_
    have place := window_of_push push
    obtain ⟨base', receive, ack, contexts⟩ := same push
    rw [receive, ack, contexts, base', bases]
    rw [place] at here new ⊢
    refine ⟨here, ?_, fun rsn context found also => apart rsn context found also place⟩
    rw [modified_rx_apply, if_pos rfl, ← Bool.not_eq_true]
    intro set
    rw [books.received .data _ set] at new
    cases new

theorem incoming_follows (books : Books logged.receiver logged.passed logged.completed)
    (timed : Timed logged.receiver) (flow : Flow) (packet : IncomingPacket)
    (resourcesAvailable : Bool) :
    Ensures (logged.receiver.handleIncomingPacket config flow packet resourcesAvailable)
      (Follows logged (.receive flow packet resourcesAvailable)) := by
  have small : (logged.receiver.rx (windowOf packet.type)).receiveWindow.size ≤ 128 := by
    rw [(books.sizes _).1]
    exact window_size_small _
  have inside := @in_window_iff packet.psn (base logged.receiver (windowOf packet.type)) _ small
  have outside (far : ¬ distance (base logged.receiver (windowOf packet.type)) packet.psn <
      (logged.receiver.rx (windowOf packet.type)).receiveWindow.size) :
      completes logged.receiver (.receive flow packet resourcesAvailable) = none := by
    unfold completes
    exact if_neg fun ⟨_, _, near, _⟩ => far near
  refine ensures_ite (fun old => ?_) fun notOld => ensures_ite (fun beyond => ?_) fun near => ?_
  · refine counted_only (outside fun is => (inside.1 is).1 old) timed books .rfl rfl rfl _ (.inr rfl)
  · have none := outside fun is => (inside.1 is).2 beyond
    refine ensures_ite (fun _ => ?_) fun _ =>
      ensures_ok.2 (unchanged_follows none books .rfl rfl rfl)
    refine counted_only none (modified_rx_timed timed _ _) books ?_ rfl rfl _ (.inr rfl)
    refine ⟨fun window => ?_, fun window => ?_, fun window => ?_, rfl⟩
    · unfold base
      rw [modified_rx_apply]
      split_ifs <;> rfl
    · rw [modified_rx_apply]
      split_ifs <;> rfl
    · rw [modified_rx_apply]
      split_ifs <;> rfl
  · have within := inside.2 ⟨notOld, near⟩
    refine ensures_bind fun isReceived read => ?_
    have index : distance (base logged.receiver (windowOf packet.type)) packet.psn %
        (logged.receiver.rx (windowOf packet.type)).receiveWindow.size =
        distance (base logged.receiver (windowOf packet.type)) packet.psn := Nat.mod_eq_of_lt within
    obtain ⟨-, bit⟩ := FalconBitmap.get_eq_ok.1 read
    refine ensures_ite (fun received => ?_) fun new => ensures_ite (fun available => ?_) fun none => ?_
    · refine counted_only ?_ timed books .rfl rfl rfl _ (.inr rfl)
      unfold completes
      refine if_neg fun ⟨_, _, _, clear⟩ => ?_
      have set := bit.trans received
      rw [show (packet.psn - (logged.receiver.rx
        (windowOf packet.type)).basePacketSequenceNumber).toNat = distance (base logged.receiver
          (windowOf packet.type)) packet.psn from rfl, index] at set
      exact Bool.false_ne_true (clear.symm.trans set)
    · have clear := bit.trans (Bool.not_eq_true _ ▸ new)
      rw [show (packet.psn - (logged.receiver.rx
        (windowOf packet.type)).basePacketSequenceNumber).toNat = distance (base logged.receiver
          (windowOf packet.type)) packet.psn from rfl, index] at clear ⊢
      rw [available]
      exact accepted_follows books timed flow packet within clear
    · refine ensures_ok.2 (unchanged_follows ?_ books .rfl rfl rfl)
      unfold completes
      exact if_neg fun ⟨available, _⟩ => none available

theorem acked_follows (books : Books logged.receiver logged.passed logged.completed)
    (timed : Timed logged.receiver) (flow : Flow) (rsn : UInt32)
    (possible : logged.receiver.Possible (.ulpAck flow rsn)) :
    Ensures (logged.receiver.handleAckFromUlp config flow rsn)
      (Follows logged (.ulpAck flow rsn)) := by
  unfold handleAckFromUlp
  cases found : logged.receiver.receivedPacketContexts rsn with
  | none => exact ensures_error
  | some context =>
    refine ensures_ite (fun request => ?_) fun notRequest => ?_
    · refine ensures_ok.2 (unchanged_follows ?_ books .rfl rfl rfl)
      simp [completes, found, request]
    · have push : Endpoint.isPushData context.type = true :=
        (possible context found).resolve_right notRequest
      have one : completes logged.receiver (.ulpAck flow rsn) =
          some (flow, windowOf context.type, context.psn) := by
        simp [completes, found, notRequest]
      have completed : completedAfter logged (.ulpAck flow rsn) = logged.completed ++
          [⟨flow, windowOf context.type,
            numberOf logged.receiver logged.passed (windowOf context.type) context.psn⟩] := by
        unfold completedAfter
        rw [one]
      -- The context is erased, and the others are of other packets.
      have fewer : ∀ other next, Function.update logged.receiver.receivedPacketContexts rsn none
          other = some next → other ≠ rsn ∧
            logged.receiver.receivedPacketContexts other = some next := by
        intro other next held
        by_cases here : other = rsn
        · subst here
          rw [Function.update_self] at held
          cases held
        · rw [Function.update_of_ne here] at held
          exact ⟨here, held⟩
      have erased : Books { logged.receiver with
          receivedPacketContexts :=
            Function.update logged.receiver.receivedPacketContexts rsn none }
          logged.passed logged.completed := by
        refine ⟨books.sizes, books.received, books.waiting, fun other next held => ?_,
          fun other next third last held also => ?_⟩
        · exact books.contexts other next (fewer other next held).2
        · exact books.distinct other next third last (fewer other next held).2
            (fewer third last also).2
      refine Ensures.bind ((acked_books erased flow ?_ ?_).and
        (updated_bitmap_settles (windowOf context.type) context.psn))
        fun updated ⟨⟨moved, sent, entries⟩, settles⟩ => ?_
      · rw [window_of_push push]
        exact (books.contexts rsn context found push).1
      · intro other next held pushes _ same
        obtain ⟨differs, held⟩ := fewer other next held
        exact differs (books.distinct other next rsn context held found pushes push same)
      · refine (counted_follows (timed.settles ?_) ?_ sent entries ?_ context.isAckRequested
          (.inl rfl)).mono fun _ => And.left
        · exact ⟨settles.now, settles.timers, settles.entries⟩
        · rw [completed]
          exact moved
        · rw [completed]
          intro other member
          exact (List.mem_append.1 member).imp id fun is => by rw [List.mem_singleton.1 is]

/-! ## Runs -/

/-- An event that piggybacks nothing. -/
theorem event_follows (books : Books logged.receiver logged.passed logged.completed)
    (timed : Timed logged.receiver) (event : Event Flow)
    (possible : logged.receiver.Possible event)
    (alone : ∀ flow, event ≠ .piggyback flow ∧ event ≠ .transmitNack flow) :
    Ensures (logged.receiver.perform config event) (Follows logged event) := by
  cases event with
  | tick now =>
    exact ensures_ok.2 (unchanged_follows rfl books
      ⟨fun _ => rfl, fun _ => rfl, fun _ => rfl, rfl⟩ rfl rfl)
  | receive flow packet resourcesAvailable => exact incoming_follows books timed flow packet _
  | ulpAck flow rsn => exact acked_follows books timed flow rsn possible
  | transmitAck flow =>
    have same := @transmitted_windows Flow config logged.receiver _ flow
    refine ensures_ok.2 ⟨?_, .inl (transmitted_reported flow)⟩
    rw [passed_same same.base]
    exact books.same same
  | transmitNack flow => exact absurd rfl (alone flow).2
  | piggyback flow => exact absurd rfl (alone flow).1
  | timeout timer =>
    refine ensures_ok.2 ?_
    unfold handleAckCoalescingTimeout
    dsimp only
    split_ifs
    · have same := @transmitted_windows Flow config
        { logged.receiver with timers := logged.receiver.timers.erase timer } _ timer.flow
      have windows : SameWindows logged.receiver (transmitAck config
          { logged.receiver with timers := logged.receiver.timers.erase timer } timer.flow) :=
        ⟨same.base, same.receive, same.ack, same.contexts⟩
      refine ⟨?_, .inl (transmitted_reported timer.flow)⟩
      rw [passed_same windows.base]
      exact books.same windows
    · exact unchanged_follows rfl books ⟨fun _ => rfl, fun _ => rfl, fun _ => rfl, rfl⟩ rfl rfl

theorem piggybacked_windows (flow : Flow) :
    SameWindows receiver (receiver.piggybackAck flow) := by
  unfold piggybackAck lowerCounter
  dsimp only
  split_ifs <;> exact ⟨fun _ => rfl, fun _ => rfl, fun _ => rfl, rfl⟩

theorem piggybacked_sent (flow : Flow) : (receiver.piggybackAck flow).sent =
    receiver.sent ++ [.piggyback (base receiver .request) (base receiver .data)] := by
  unfold piggybackAck lowerCounter
  dsimp only
  split_ifs <;> rfl

theorem piggybacked_elsewhere {other : Flow} (differs : other ≠ flow) :
    (receiver.piggybackAck flow).entries other = receiver.entries other := by
  unfold piggybackAck lowerCounter
  dsimp only
  split_ifs <;> simp only [modifyEntry, Function.update_of_ne differs]

theorem piggybacked_counter (flow : Flow) :
    ((receiver.piggybackAck flow).entries flow).coalescingCounter =
      if receiver.hasExperiencedOowDrops then (receiver.entries flow).coalescingCounter
      else if receiver.implicitlyAckedCounter * 2 ≤ (receiver.entries flow).coalescingCounter then
        (receiver.entries flow).coalescingCounter - receiver.implicitlyAckedCounter * 2
      else 0 := by
  unfold piggybackAck lowerCounter
  by_cases drops : receiver.hasExperiencedOowDrops = true
  · rw [if_pos drops, if_pos drops]
    simp only [modifyEntry, Function.update_self]
    split_ifs <;> rfl
  · rw [if_neg drops, if_neg drops]
    simp only [modifyEntry, Function.update_self]
    generalize (if receiver.implicitlyAckedCounter * 2 ≤ (receiver.entries flow).coalescingCounter
      then (receiver.entries flow).coalescingCounter - receiver.implicitlyAckedCounter * 2
      else 0) = counter
    split_ifs <;> rfl

/-- When the counter of a key is zero after its ACK was piggybacked. -/
theorem piggybacked_zero_iff (flow : Flow) :
    ((receiver.piggybackAck flow).entries flow).coalescingCounter = 0 ↔
      if receiver.hasExperiencedOowDrops then (receiver.entries flow).coalescingCounter = 0
      else ¬ receiver.implicitlyAckedCounter * 2 < (receiver.entries flow).coalescingCounter := by
  rw [piggybacked_counter]
  split_ifs with drops enough
  · rfl
  · rw [UInt32.lt_iff_toNat_lt, ← UInt32.toNat_inj, UInt32.toNat_sub_of_le _ _ enough]
    rw [UInt32.le_iff_toNat_le] at enough
    have none : (0 : UInt32).toNat = 0 := rfl
    omega
  · exact iff_of_true rfl fun less => enough (UInt32.le_of_lt less)

/-- Where an ACK is piggybacked, the obligations are kept exactly if it loses nothing. -/
theorem piggybacked_kept_iff (kept : Kept logged) (event : Event Flow) (flow : Flow)
    (completes : completes logged.receiver event = none)
    (sent : after.sent = (logged.receiver.piggybackAck flow).sent)
    (entries : after.entries = (logged.receiver.piggybackAck flow).entries) :
    (∀ other, (after.entries other).coalescingCounter = 0 →
      ∀ packet ∈ (logAfter logged event after).completed, packet.flow = other →
        Covered (logAfter logged event after) packet) ↔ LosesNothing logged flow := by
  have completed : (logAfter logged event after).completed = logged.completed := by
    unfold logAfter completedAfter
    rw [completes]
  have added := @coverage_added Flow after logged event _ (sent.trans (piggybacked_sent flow))
  have passed (window : WindowType) : numberOf logged.receiver logged.passed window
      (bpsnOf (.piggyback (base logged.receiver .request) (base logged.receiver .data)) window) =
        logged.passed window := by
    unfold numberOf
    cases window <;> simp [bpsnOf, ofWindow, distance]
  rw [completed, entries]
  constructor
  · intro settled
    by_cases drops : logged.receiver.hasExperiencedOowDrops = true
    · exact .inl drops
    · by_cases more : logged.receiver.implicitlyAckedCounter * 2 <
          (logged.receiver.entries flow).coalescingCounter
      · exact .inr (.inl more)
      · refine .inr (.inr fun packet member owned => ?_)
        have zero : ((logged.receiver.piggybackAck flow).entries flow).coalescingCounter = 0 := by
          rw [piggybacked_zero_iff, if_neg drops]
          exact more
        obtain ⟨coverage, told, covers⟩ := settled flow zero packet member owned
        rcases List.mem_append.1 told with old | new
        · exact .inr ⟨coverage, old, covers⟩
        · rw [sent, piggybacked_sent, List.drop_left, List.map_singleton, List.mem_singleton] at new
          rw [new] at covers
          refine .inl ?_
          rcases covers with below | bit
          · dsimp only at below
            rwa [passed] at below
          · cases bit
  · rintro careful other zero packet member owned
    by_cases here : other = flow
    · subst here
      rw [piggybacked_zero_iff] at zero
      rcases careful with drops | more | told
      · rw [if_pos drops] at zero
        exact covered_later (kept.settled other zero packet member owned)
      · split_ifs at zero with drops
        · exact covered_later (kept.settled other zero packet member owned)
        · exact absurd more zero
      · rcases told packet member owned with below | covered
        · refine ⟨_, added, .inl ?_⟩
          dsimp only
          rwa [passed]
        · exact covered_later covered
    · rw [piggybacked_elsewhere here] at zero
      exact covered_later (kept.settled other zero packet member owned)

theorem careful_kept {next : Logged Flow} (kept : Kept logged)
    (taken : CarefulStep config logged next) : Kept next := by
  obtain ⟨event, ⟨possible, performed, is⟩, careful⟩ := taken
  have timed := event_timed kept.timed event possible next.receiver performed
  rw [is]
  generalize next.receiver = after at performed timed
  by_cases alone : ∀ flow, event ≠ .piggyback flow ∧ event ≠ .transmitNack flow
  · obtain ⟨books, reports⟩ := event_follows kept.books kept.timed event possible alone after performed
    refine ⟨timed, books, fun flow zero packet member owned => ?_⟩
    rcases reports with reported | ⟨-, silent⟩
    · exact reported_covered books reported member
    · obtain ⟨was, earlier⟩ := silent flow zero
      exact covered_later (kept.settled flow was packet (earlier packet member owned) owned)
  · obtain ⟨flow, piggybacks⟩ := not_forall.1 alone
    rw [not_and_or, not_not, not_not] at piggybacks
    rcases piggybacks with rfl | rfl
    · cases performed
      refine piggybacked_kept kept rfl timed (piggybacked_windows flow) ?_
      exact (piggybacked_kept_iff kept (.piggyback flow) flow rfl rfl rfl).2 careful
    · cases performed
      refine piggybacked_kept kept rfl timed ((piggybacked_windows flow).trans reset_windows) ?_
      exact (piggybacked_kept_iff kept (.transmitNack flow) flow rfl rfl rfl).2 careful

theorem reachable_kept {logged : Logged Flow}
    (reached : Runs.Reachable Starts (CarefulStep config) logged) : Kept logged := by
  apply Runs.invariant_of_reachable _ _ reached
  · intro state starts
    have timed : Timed state.receiver :=
      @reachable_timed Flow config _ _ (Runs.reachable_initial starts.receiver)
    refine ⟨timed, ⟨fun window => ?_, fun window index => ?_, ?_, ?_, ?_⟩, ?_⟩
    · rw [starts.receiver.rx]
      exact ⟨rfl, rfl⟩
    · rw [starts.receiver.rx]
      exact nofun
    · rw [starts.completed]
      exact nofun
    · rw [starts.receiver.receivedPacketContexts]
      exact nofun
    · rw [starts.receiver.receivedPacketContexts]
      exact nofun
    · rw [starts.completed]
      exact nofun
  · exact fun before next => careful_kept

/-! ## Executed runs -/

def newConnection : Logged Unit := { receiver := newReceiver }

theorem new_connection_starts : Starts newConnection := ⟨new_receiver_initial, rfl, rfl, rfl⟩

/-- An event, executed and logged. -/
def attemptLogged (config : CoalescingConfig) (logged : Logged Unit) (event : Event Unit) :
    Option (Logged Unit) :=
  (Runs.attempt (logged.receiver.Possible event) (logged.receiver.perform config event)).map
    (logAfter logged event)

/-- An event that meets the condition. -/
def attemptCareful (config : CoalescingConfig) (logged : Logged Unit) (event : Event Unit) :
    Option (Logged Unit) :=
  if Careful logged event then attemptLogged config logged event else none

theorem happens_of_attempt {before after : Logged Unit} {event : Event Unit}
    (done : attemptLogged config before event = some after) : Happens config before event after := by
  obtain ⟨receiver, performed, rfl⟩ := Option.map_eq_some_iff.1 done
  obtain ⟨possible, result⟩ := Runs.attempt_eq_some.1 performed
  exact ⟨possible, result, rfl⟩

theorem step_of_attempt_logged (before : Logged Unit) (event : Event Unit) (after : Logged Unit)
    (done : attemptLogged config before event = some after) : LoggedStep config before after :=
  ⟨event, happens_of_attempt done⟩

theorem step_of_attempt_careful (before : Logged Unit) (event : Event Unit) (after : Logged Unit)
    (done : attemptCareful config before event = some after) : CarefulStep config before after := by
  unfold attemptCareful at done
  split_ifs at done with careful
  exact ⟨event, happens_of_attempt done, careful⟩

/-! ## The obligations -/

/-- In every run in which the piggybacked ACKs lose nothing, the peer was told of all packets of a
key whenever its counter is zero or its timer cleared; and the first ACK that is piggybacked
otherwise leaves a packet untold. -/
theorem obligations_kept_iff {logged : Logged Flow}
    (reached : Runs.Reachable Starts (CarefulStep config) logged) :
    ObligationsKept logged ∧ ∀ flow event next,
      event = .piggyback flow ∨ event = .transmitNack flow →
      Happens config logged event next → (ObligationsKept next ↔ LosesNothing logged flow) := by
  have kept := reachable_kept reached
  refine ⟨(obligations_kept_iff_settled kept.timed).2 kept.settled, ?_⟩
  rintro flow event next piggybacks ⟨possible, performed, is⟩
  have timed := event_timed kept.timed event possible next.receiver performed
  rw [obligations_kept_iff_settled timed, is]
  generalize next.receiver = after at performed timed
  rcases piggybacks with rfl | rfl
  · cases performed
    exact piggybacked_kept_iff kept (.piggyback flow) flow rfl rfl rfl
  · cases performed
    exact piggybacked_kept_iff kept (.transmitNack flow) flow rfl rfl rfl

/-- Two requests arrive in order, and a packet that leaves takes their acknowledgement with it. -/
def requestsInOrder : List (Event Unit) :=
  [.tick 5, .receive () ⟨.pullRequest, 0, 0, false⟩ true, .receive () ⟨.pullRequest, 1, 1, false⟩ true]

theorem obligations_kept_iff_in_order : ∃ logged next : Logged Unit,
    logged.completed.length = 2 ∧ Happens {} logged (.piggyback ()) next ∧
      ObligationsKept next := by
  obtain ⟨logged, reached, tested⟩ := @Runs.reached_with _ Starts _ _ (attemptCareful {})
    step_of_attempt_careful requestsInOrder newConnection new_connection_starts
    (fun logged => decide (logged.completed.length = 2 ∧ Careful logged (.piggyback ()) ∧
      (attemptLogged {} logged (.piggyback ())).isSome)) (by decide +kernel)
  obtain ⟨both, careful, leaves⟩ := of_decide_eq_true tested
  obtain ⟨next, done⟩ := Option.isSome_iff_exists.1 leaves
  have happens := happens_of_attempt done
  exact ⟨logged, next, both, happens,
    ((obligations_kept_iff reached).2 () _ next (.inl rfl) happens).2 careful⟩

/-- A request is reported beyond the base and then passed by it, with the next; the packet that
leaves takes both off the counter, which holds the request beyond them. -/
def requestPassedTwice : List (Event Unit) :=
  [.tick 5, .receive () ⟨.pullRequest, 1, 1, true⟩ true, .receive () ⟨.pullRequest, 0, 0, false⟩ true,
    .receive () ⟨.pullRequest, 3, 3, false⟩ true, .piggyback ()]

/-- A connection whose counter is zero that owes its peer a packet. -/
def owesWithoutCounter (logged : Logged Unit) : Bool :=
  decide ((logged.receiver.entries ()).coalescingCounter = 0 ∧
    ∃ packet ∈ logged.completed, ¬ Covered logged packet)

theorem obligation_dropped : ∃ logged : Logged Unit,
    Runs.Reachable Starts (LoggedStep {}) logged ∧ ¬ ObligationsKept logged := by
  obtain ⟨logged, reached, tested⟩ := @Runs.reached_with _ Starts _ _ (attemptLogged {})
    step_of_attempt_logged requestPassedTwice newConnection new_connection_starts
    owesWithoutCounter (by decide +kernel)
  obtain ⟨zero, packet, member, untold⟩ := of_decide_eq_true tested
  exact ⟨logged, reached, fun kept => untold (kept () (.inl zero) packet member rfl)⟩

end Isekai.AckObligationProofs
