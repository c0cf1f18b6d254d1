import Isekai.RoceConsistency

/-! What a requester does with the NAK of a sequence error: the responder names the number before the
one that it expects, and the requester is to go back to the expected one. It does so unless the
expected number is the oldest unacknowledged one, in which case the NAK is ignored, or a read is in
the way. -/

namespace Isekai.RoceNakProofs
open Outcomes Roce Roce.QpContext RoceNumbering RoceGoBackN RoceConsistency

variable {config : Config} {context : QpContext} {first oldest max : Nat} {expected : Psn}
variable {op : RdmaOp} {number : Nat} {front back : List RdmaOp}

/-- The NAK of a responder that expects a number. -/
def nakFor (expected : Psn) : Packet :=
  { opcode := .ack
    psn := psnAdd expected (-1)
    ackType := .nak
    nakType := .psnSequenceError }

/-! ## Places in the outstanding range -/

/-- How far a number is from the oldest unacknowledged one. -/
def ahead (context : QpContext) (psn : Psn) : Nat :=
  (psnSubtract psn context.oldestUnacknowledgedPsn).toNat

/-- The operation ends before the expected number. -/
def WhollyBelow (context : QpContext) (expected : Psn) (op : RdmaOp) : Prop :=
  ahead context op.endPsn < ahead context expected

/-- A packet of the operation is outstanding and before the expected number. -/
def Precedes (context : QpContext) (expected : Psn) (op : RdmaOp) : Prop :=
  ∃ psn, psnBetween psn op.psn op.endPsn = true ∧ ahead context psn < ahead context expected

/-- The expected number is in the operation, but not its first. -/
def Splits (expected : Psn) (op : RdmaOp) : Prop :=
  psnBetween expected op.psn op.endPsn = true ∧ expected ≠ op.psn

/-- The requester has gone back to the expected number, or to a read before it, and completed
what is acknowledged. -/
structure WentBack (context : QpContext) (expected : Psn) (after : QpContext) : Prop where
  next : after.nextPsn = after.oldestUnacknowledgedPsn
  reached : (∀ op ∈ context.sendQueue, op.opcode = .read → ¬ Precedes context expected op) →
    after.oldestUnacknowledgedPsn = expected
  completed : ∀ op ∈ context.sendQueue, op.opcode ≠ .read → WhollyBelow context expected op →
    op ∈ after.completed ∧ op ∉ after.sendQueue
  active : after.isRequestQueueActive = true

/-- Where the requester goes back: the oldest unacknowledged packet is not the expected one, unless
it is the next one to be sent anyway; the first read is not split by the expected number; and
nothing that is acknowledged stands behind a read. -/
structure GoesBack (context : QpContext) (expected : Psn) : Prop where
  oldest : expected = context.oldestUnacknowledgedPsn →
    context.nextPsn = context.oldestUnacknowledgedPsn ∧ context.isRequestQueueActive = true
  split : expected ≠ context.oldestUnacknowledgedPsn → ∀ front read back,
    context.sendQueue = front ++ read :: back → read.opcode = .read →
    (∀ op ∈ front, op.opcode ≠ .read) → ¬ Splits expected read
  behind : ∀ front read back, context.sendQueue = front ++ read :: back → read.opcode = .read →
    ∀ op ∈ back, op.opcode ≠ .read → ¬ WhollyBelow context expected op

section Numbers
variable (based : Based config context first oldest max)
include based

theorem ahead_of (above : oldest ≤ number) (close : number < oldest + 2 ^ 24) :
    ahead context (psnOf number) = number - oldest := by
  rw [ahead, psnSubtract, based.oldestPsn, psn_distance above close]

theorem wholly_below_iff (above : oldest ≤ number) (below : number < max)
    (parts : context.sendQueue = front ++ op :: back) :
    WhollyBelow context (psnOf number) op ↔
      first + span config front + packetsOf config op ≤ number := by
  have before := based.before_end parts
  have fits := based.fits
  have near := based.near
  have positive := packets_pos config op
  obtain ⟨_, _, _, endPsn⟩ := based.op_spec parts
  rw [parts, span_append, span_cons] at fits
  rw [WhollyBelow, endPsn, ahead_of based (by omega) (by omega), ahead_of based above (by omega)]
  omega

theorem precedes_iff (above : oldest ≤ number) (below : number < max)
    (parts : context.sendQueue = front ++ op :: back) :
    Precedes context (psnOf number) op ↔ oldest < number ∧ first + span config front < number := by
  have before := based.before_end parts
  have fits := based.fits
  have near := based.near
  have positive := packets_pos config op
  obtain ⟨_, small, psn, endPsn⟩ := based.op_spec parts
  rw [parts, span_append, span_cons] at fits
  rw [Precedes, ahead_of based above (by omega)]
  constructor
  · rintro ⟨_, within, nearer⟩
    rw [psn, endPsn] at within
    obtain ⟨place, start, stop, rfl⟩ := (between_iff (by omega) (by omega)).1 within
    by_cases acked : place < oldest
    · omega
    · rw [ahead_of based (by omega) (by omega)] at nearer
      omega
  · rintro ⟨later, start⟩
    refine ⟨psnOf (Max.max oldest (first + span config front)), ?_, ?_⟩
    · rw [psn, endPsn]
      exact (between_iff (by omega) (by omega)).2 ⟨_, by omega, by omega, rfl⟩
    · rw [ahead_of based (by omega) (by omega)]
      omega

/-- An operation that begins no earlier is not split. -/
theorem not_splits_after (above : oldest ≤ number)
    (parts : context.sendQueue = front ++ op :: back) (after : number ≤ first + span config front) :
    ¬ Splits (psnOf number) op := by
  have fits := based.fits
  have positive := packets_pos config op
  obtain ⟨_, small, psn, endPsn⟩ := based.op_spec parts
  rw [parts, span_append, span_cons] at fits
  rintro ⟨within, differs⟩
  rw [psn, endPsn] at within
  rw [psn] at differs
  obtain ⟨place, start, stop, same⟩ := (between_iff (by omega) (by omega)).1 within
  obtain rfl := (psn_inj number le_rfl (by omega) (by omega) (by omega)).1 same
  exact differs (by rw [Nat.le_antisymm after start])

end Numbers

/-- The check of an acknowledgement that ends in a read. -/
theorem splits_check (op : RdmaOp) :
    (psnBetween (nakFor expected).psn op.psn op.endPsn = true ∧
      (nakFor expected).psn ≠ op.endPsn) ↔ Splits expected op := by
  simp only [Splits, psn_between_iff, psnAdd, nakFor]
  constructor
  · rintro ⟨within, differs⟩
    constructor
    · bv_omega
    · bv_omega
  · rintro ⟨within, differs⟩
    constructor
    · bv_omega
    · bv_omega

/-! ## What the requester does -/

/-- What going back leaves of a queue pair that has something to send. -/
theorem go_back_facts (some : context.sendQueue ≠ []) :
    context.goBackN.nextPsn = context.oldestUnacknowledgedPsn ∧
      context.goBackN.oldestUnacknowledgedPsn = context.oldestUnacknowledgedPsn ∧
      context.goBackN.sendQueue = context.sendQueue ∧
      context.goBackN.completed = context.completed ∧
      context.goBackN.isRequestQueueActive = true := by
  have more : ¬ (context.sendQueue.length ≤ (0 : UInt32).toNat ∧
      context.inboundReadRequestQueue.isEmpty = true) := by
    rintro ⟨empty, _⟩
    exact some (List.length_eq_zero_iff.1 (Nat.le_zero.1 empty))
  unfold goBackN addWorkQueueToActiveSet
  dsimp only
  rw [if_neg more]
  exact ⟨rfl, rfl, rfl, rfl, rfl⟩

theorem reset_completed (context : QpContext) :
    context.resetRto.completed = context.completed := by
  unfold resetRto setupRto
  dsimp only
  split_ifs <;> rfl

/-- The timer has no part in going back. -/
theorem went_back_reset {after : QpContext} (resetRto : Bool) :
    WentBack context expected (if resetRto then after.resetRto else after) ↔
      WentBack context expected after := by
  cases resetRto with
  | false => rfl
  | true =>
    have same := same_reset_rto after
    have completed := reset_completed after
    constructor
    · intro back
      refine ⟨?_, ?_, ?_, ?_⟩
      · simpa only [if_true, same.nextPsn, same.oldestPsn] using back.next
      · simpa only [if_true, same.oldestPsn] using back.reached
      · simpa only [if_true, same.queue, completed] using back.completed
      · simpa only [if_true, same.active] using back.active
    · intro back
      refine ⟨?_, ?_, ?_, ?_⟩
      · simpa only [if_true, same.nextPsn, same.oldestPsn] using back.next
      · simpa only [if_true, same.oldestPsn] using back.reached
      · simpa only [if_true, same.queue, completed] using back.completed
      · simpa only [if_true, same.active] using back.active

/-- What processing a NAK comes down to. -/
theorem processed_iff : (∃ after, context.processRxPacket config (nakFor expected) = .ok after ∧
      WentBack context expected after) ↔
    ∃ after resetRto, context.processRxAck (nakFor expected) = .ok (after, resetRto) ∧
      WentBack context expected after := by
  have handled : context.processRxPacket config (nakFor expected) =
      (context.processRxAck (nakFor expected)).map fun made =>
        if made.2 then made.1.resetRto else made.1 := rfl
  rw [handled]
  cases context.processRxAck (nakFor expected) with
  | error fault =>
    constructor
    · rintro ⟨_, ⟨⟩, _⟩
    · rintro ⟨_, _, ⟨⟩, _⟩
  | ok outcome =>
    obtain ⟨after, resetRto⟩ := outcome
    constructor
    · rintro ⟨_, ⟨⟩, back⟩
      exact ⟨after, resetRto, rfl, (went_back_reset resetRto).1 back⟩
    · rintro ⟨_, _, ⟨⟩, back⟩
      exact ⟨_, rfl, (went_back_reset resetRto).2 back⟩

/-- A NAK whose number is outstanding, when it leaves these operations in the queue. -/
theorem nak_outcome (based : Based config context first oldest max) {packet : Packet}
    (nak : isNak packet = true) (valid : context.psnIsValidAtInitiator packet.psn = true)
    {rest : List RdmaOp} (queue : context.sendQueue = ackedBy context packet.psn ++ rest) :
    context.processRxAck packet =
      if (acknowledged context packet.psn).psnIsValidAtInitiator packet.psn = true then
        match rest.head? with
        | none => .error .emptySendQueue
        | some op =>
          if op.opcode = .read then
            if psnBetween packet.psn op.psn op.endPsn = true ∧ packet.psn ≠ op.endPsn then
              .error .ackInsideRead
            else .ok ((acknowledged context packet.psn).goBackN,
              !(ackedBy context packet.psn).isEmpty)
          else .ok ((acknowledgedTo context packet.psn).goBackN, true)
      else .ok ((acknowledged context packet.psn).goBackN,
        !(ackedBy context packet.psn).isEmpty) := by
  have left := acknowledged_queue queue
  rw [process_rx_ack_eq based, if_neg (by rw [valid]; decide), if_pos (.inr nak), left]
  cases rest <;> simp [nak]

/-! ## What is left in the queue -/

section Left
variable {acked rest : List RdmaOp} (queue : context.sendQueue = acked ++ rest)
include queue

/-- A read is among what is left. -/
theorem read_left (data : ∀ op ∈ acked, op.opcode ≠ .read) {read : RdmaOp}
    (parts : context.sendQueue = front ++ read :: back) (reads : read.opcode = .read) :
    ∃ between, front = acked ++ between ∧ rest = between ++ read :: back := by
  rcases List.append_eq_append_iff.1 (parts.symm.trans queue) with
    ⟨between, ends, tail⟩ | ⟨between, starts, tail⟩
  · cases between with
    | nil => exact ⟨[], by simpa using ends.symm, by simpa using tail.symm⟩
    | cons op more =>
      obtain ⟨rfl, _⟩ := List.cons.inj tail
      exact absurd reads (data read (by simp [ends]))
  · exact ⟨between, starts, tail⟩

/-- Where a read that is not split is the first operation that is left, it is what stands behind it
that counts. -/
theorem goes_back_read (data : ∀ op ∈ acked, op.opcode ≠ .read)
    (differs : expected ≠ context.oldestUnacknowledgedPsn) {more : List RdmaOp}
    (reads : op.opcode = .read) (whole : ¬ Splits expected op) (head : rest = op :: more) :
    GoesBack context expected ↔
      ∀ other ∈ rest, other.opcode ≠ .read → ¬ WhollyBelow context expected other := by
  subst head
  constructor
  · intro goes other member plain
    rcases List.mem_cons.1 member with rfl | later
    · exact absurd reads plain
    · exact goes.behind acked op more queue reads other later plain
  · intro beyond
    refine ⟨fun equal => absurd equal differs, fun _ front read back parts again plain => ?_,
      fun front read back parts again other member => ?_⟩
    · obtain ⟨between, rfl, split⟩ := read_left queue data parts again
      cases between with
      | nil =>
        obtain ⟨rfl, _⟩ := List.cons.inj split
        exact whole
      | cons first' others =>
        obtain ⟨rfl, _⟩ := List.cons.inj split
        exact absurd reads (plain op (by simp))
    · obtain ⟨between, _, split⟩ := read_left queue data parts again
      refine beyond other ?_
      rw [split]
      exact List.mem_append_right _ (List.mem_cons_of_mem _ member)

variable (based : Based config context first oldest max) {number : Nat}
include based

/-- Nothing of what is left is behind the expected number, if its first operation is not. -/
theorem left_not_below (above : oldest ≤ number) (below : number < max) {more : List RdmaOp}
    (head : rest = op :: more) (within : number < first + span config acked + packetsOf config op)
    {other : RdmaOp} (member : other ∈ rest) : ¬ WhollyBelow context (psnOf number) other := by
  obtain ⟨front, back, split⟩ := List.append_of_mem member
  have parts : context.sendQueue = (acked ++ front) ++ other :: back := by
    rw [queue, split, List.append_assoc]
  rw [wholly_below_iff based above below parts, span_append]
  have positive := packets_pos config other
  cases front with
  | nil =>
    obtain ⟨rfl, _⟩ := List.cons.inj (head.symm.trans split)
    rw [span_nil]
    omega
  | cons first' others =>
    obtain ⟨rfl, _⟩ := List.cons.inj (head.symm.trans split)
    rw [span_cons]
    omega

/-- What is acknowledged is not left. -/
theorem acked_not_left (member : op ∈ acked) : op ∉ rest := by
  intro left
  obtain ⟨last, endPsn, after, above, close⟩ := based.left_spec queue left
  obtain ⟨front, back, split⟩ := List.append_of_mem member
  have parts : context.sendQueue = front ++ op :: (back ++ rest) := by
    rw [queue, split, List.append_assoc, List.cons_append]
  have before := based.before_end parts
  have positive := packets_pos config op
  obtain ⟨_, _, _, sameEnd⟩ := based.op_spec parts
  rw [split, span_append, span_cons] at after
  have := (psn_inj oldest above close (by omega) (by omega)).1 (endPsn.symm.trans sameEnd)
  omega

/-- Where the expected number is in the first of the operations that are left, and this is not
a read that it splits, nothing is in the way. -/
theorem goes_back_ahead (data : ∀ op ∈ acked, op.opcode ≠ .read) (above : oldest ≤ number)
    (below : number < max) (differs : psnOf number ≠ context.oldestUnacknowledgedPsn)
    {more : List RdmaOp} (head : rest = op :: more)
    (within : number < first + span config acked + packetsOf config op)
    (starts : op.opcode = .read → number ≤ first + span config acked) :
    GoesBack context (psnOf number) := by
  refine ⟨fun same => absurd same differs, fun _ front read back parts reads _ => ?_,
    fun front read back parts reads other member _ => ?_⟩
  · obtain ⟨between, rfl, split⟩ := read_left queue data parts reads
    refine not_splits_after based above parts ?_
    rw [span_append]
    cases between with
    | nil =>
      obtain ⟨rfl, _⟩ := List.cons.inj (head.symm.trans split)
      rw [span_nil]
      exact starts reads
    | cons first' others =>
      obtain ⟨rfl, _⟩ := List.cons.inj (head.symm.trans split)
      rw [span_cons]
      omega
  · obtain ⟨between, _, split⟩ := read_left queue data parts reads
    refine left_not_below queue based above below head within ?_
    rw [split]
    exact List.mem_append_right _ (List.mem_cons_of_mem _ member)

/-- Going back, once the acknowledged operations are completed. -/
theorem went_back_iff {left : QpContext} (some : rest ≠ []) (leftQueue : left.sendQueue = rest)
    (completed : left.completed = context.completed ++ acked) :
    WentBack context expected left.goBackN ↔
      ((∀ op ∈ context.sendQueue, op.opcode = .read → ¬ Precedes context expected op) →
        left.oldestUnacknowledgedPsn = expected) ∧
      ∀ op ∈ rest, op.opcode ≠ .read → ¬ WhollyBelow context expected op := by
  obtain ⟨next, oldestPsn, sameQueue, sameCompleted, active⟩ :=
    @go_back_facts left (leftQueue ▸ some)
  constructor
  · intro back
    refine ⟨fun none => oldestPsn ▸ back.reached none, fun op member data below => ?_⟩
    have gone := (back.completed op (queue ▸ List.mem_append_right _ member) data below).2
    rw [sameQueue, leftQueue] at gone
    exact gone member
  · rintro ⟨reached, beyond⟩
    refine ⟨next.trans oldestPsn.symm, fun none => oldestPsn.trans (reached none),
      fun op member data below => ?_, active⟩
    rw [sameQueue, sameCompleted, leftQueue, completed]
    rcases List.mem_append.1 (queue ▸ member) with done | left
    · exact ⟨List.mem_append_right _ done, acked_not_left queue based done⟩
    · exact absurd below (beyond op left data)

end Left

/-! ## Going back -/

/-- A NAK for a packet behind the oldest unacknowledged one. -/
theorem nak_within_iff (based : Based config context first oldest max) (above : oldest < number)
    (below : number < max) (is : expected = psnOf number) :
    (∃ after resetRto, context.processRxAck (nakFor expected) = .ok (after, resetRto) ∧
      WentBack context expected after) ↔ GoesBack context expected := by
  have near := based.near
  obtain ⟨last, rfl⟩ : ∃ last, number = last + 1 := ⟨number - 1, by omega⟩
  have named : (nakFor expected).psn = psnOf last := by rw [nakFor, is, psn_pred]
  have valid : context.psnIsValidAtInitiator (nakFor expected).psn = true :=
    based.valid_iff.2 ⟨last, by omega, by omega, named⟩
  obtain ⟨again, rest, same, aboveAgain, belowAgain, queue, reached, left, outstanding, ahead⟩ :=
    acked_based based valid
  obtain rfl := (psn_inj oldest (by omega) (by omega) aboveAgain (by omega)).1 (named.symm.trans same)
  have differs : expected ≠ context.oldestUnacknowledgedPsn := by
    rw [is, based.oldestPsn]
    intro equal
    have := (psn_inj oldest above.le (by omega) le_rfl (by omega)).1 equal
    omega
  have leftQueue := acknowledged_queue queue
  have data : ∀ op ∈ ackedBy context (nakFor expected).psn, op.opcode ≠ .read :=
    fun op member => acked_data member
  have posted := based.posted
  have begun := based.begun
  rw [nak_outcome based rfl valid queue]
  generalize completes : ackedBy context (nakFor expected).psn = acked at *
  rcases rest with _ | ⟨op, more⟩
  · rw [queue, List.append_nil] at posted
    omega
  have some : op :: more ≠ [] := List.cons_ne_nil op more
  have atExpected (state : QpContext) (resetRto : Bool) (sameQueue : state.sendQueue = op :: more)
      (completed : state.completed = context.completed ++ acked)
      (oldestPsn : state.oldestUnacknowledgedPsn = expected)
      (within : last + 1 < first + span config acked + packetsOf config op)
      (starts : op.opcode = .read → last + 1 ≤ first + span config acked) :
      (∃ after flag, (.ok (state.goBackN, resetRto) : Except Fault (QpContext × Bool)) =
        .ok (after, flag) ∧ WentBack context expected after) ↔ GoesBack context expected := by
    have goes : GoesBack context expected := is ▸
      goes_back_ahead queue based data above.le below (is ▸ differs) rfl within starts
    refine ⟨fun _ => goes, fun _ => ⟨_, _, rfl, ?_⟩⟩
    refine (went_back_iff queue based some sameQueue completed).2 ⟨fun _ => oldestPsn, ?_⟩
    intro other member _
    exact is ▸ left_not_below queue based above.le below rfl within member
  by_cases validLeft : (acknowledged context (nakFor expected).psn).psnIsValidAtInitiator
      (nakFor expected).psn = true
  · have behind := outstanding validLeft
    rw [if_pos validLeft, List.head?_cons]
    dsimp only
    by_cases reads : op.opcode = .read
    · rw [if_pos reads]
      by_cases splits : Splits expected op
      · rw [if_pos ((splits_check op).2 splits)]
        constructor
        · rintro ⟨_, _, ⟨⟩, _⟩
        · intro goes
          exact absurd splits (goes.split differs acked op more queue reads data)
      · rw [if_neg (splits_check op |>.not.2 splits)]
        have precedes : Precedes context expected op := by
          rw [is, precedes_iff based above.le below queue]
          omega
        have one : (∃ after flag, (.ok ((acknowledged context (nakFor expected).psn).goBackN,
            !acked.isEmpty) : Except Fault (QpContext × Bool)) = .ok (after, flag) ∧
              WentBack context expected after) ↔
            WentBack context expected (acknowledged context (nakFor expected).psn).goBackN :=
          ⟨by rintro ⟨_, _, ⟨⟩, back⟩; exact back, fun back => ⟨_, _, rfl, back⟩⟩
        rw [one, went_back_iff queue based some leftQueue (by rw [acknowledged, completes]; rfl),
          goes_back_read queue data differs reads splits rfl]
        exact and_iff_right fun none => absurd precedes (none op (by simp [queue]) reads)
    · rw [if_neg reads]
      refine atExpected _ _ leftQueue (by rw [acknowledgedTo, acknowledged, completes]; rfl) ?_
        (ahead op more rfl reads) fun read => absurd read reads
      show psnAdd (nakFor expected).psn 1 = expected
      rw [named, psn_add_one, is]
  · rw [if_neg validLeft]
    have boundary : first + span config acked = last + 1 := by
      have stale : ¬ Max.max oldest (first + span config acked) ≤ last := fun behind =>
        validLeft (left.valid_iff.2 ⟨last, behind, by omega, named⟩)
      omega
    refine atExpected _ _ leftQueue (by rw [acknowledged, completes]; rfl) ?_ ?_ fun _ => by omega
    · rw [left.oldestPsn, is]
      congr 1
      omega
    · have positive := packets_pos config op
      omega

/-- A NAK for the oldest unacknowledged packet names a number before the outstanding ones, and is
ignored. -/
theorem nak_for_oldest (based : Based config context first oldest max)
    (is : expected = context.oldestUnacknowledgedPsn) :
    context.processRxAck (nakFor expected) = .ok (context, false) := by
  have stale : ¬ context.psnIsValidAtInitiator (nakFor expected).psn = true := by
    intro valid
    obtain ⟨number, above, below, same⟩ := based.valid_iff.1 valid
    have near := based.near
    have back : psnAdd (nakFor expected).psn 1 = expected := by
      simp only [nakFor, psnAdd]
      bv_omega
    rw [same, psn_add_one, is, based.oldestPsn] at back
    have := (psn_inj oldest (by omega) (by omega) le_rfl (by omega)).1 back
    omega
  unfold processRxAck
  rw [if_pos (by simpa using stale)]

theorem ignored_iff (is : expected = context.oldestUnacknowledgedPsn) :
    WentBack context expected context ↔ GoesBack context expected := by
  have none (op : RdmaOp) : ¬ WhollyBelow context expected op := by
    have here : ahead context expected = 0 := by
      rw [ahead, is, psnSubtract]
      simp
    rw [WhollyBelow, here]
    exact Nat.not_lt_zero _
  constructor
  · intro back
    exact ⟨fun _ => ⟨back.next, back.active⟩, fun differs => absurd is differs,
      fun _ _ _ _ _ op _ _ => none op⟩
  · intro goes
    obtain ⟨next, active⟩ := goes.oldest is
    exact ⟨next, fun _ => is.symm, fun op _ _ below => absurd below (none op), active⟩

/-- The NAK of a responder that expects an unacknowledged packet takes the requester back to it, or
to a read before it, in exactly the states in which the expected packet is not the oldest one, or
is the next one anyway, and no read is in the way. -/
theorem nak_goes_back_iff (based : Based config context first oldest max)
    (unacked : context.psnIsValidAtInitiator expected = true) :
    (∃ after, context.processRxPacket config (nakFor expected) = .ok after ∧
      WentBack context expected after) ↔ GoesBack context expected := by
  obtain ⟨number, above, below, is⟩ := based.valid_iff.1 unacked
  rw [processed_iff]
  rcases Nat.eq_or_lt_of_le above with rfl | later
  · have first : expected = context.oldestUnacknowledgedPsn := is.trans based.oldestPsn.symm
    rw [nak_for_oldest based first, ← ignored_iff first]
    constructor
    · rintro ⟨_, _, ⟨⟩, back⟩
      exact back
    · intro back
      exact ⟨_, _, rfl, back⟩
  · exact nak_within_iff based later below is

/-- A write of two packets of which both are sent. -/
def bothSent : List Event := [writeOf 2, .transmit .request, .transmit .request]

/-- The second of the packets is expected. -/
theorem nak_goes_back_iff_second : ∃ context : QpContext, context.nextPsn = 2 ∧
    ∃ after, context.processRxPacket oneByte (nakFor 1) = .ok after ∧ WentBack context 1 after := by
  have tested : (Runs.execute attemptSteady bothSent newQueuePair).any (fun context =>
      decide (context.psnIsValidAtInitiator 1 = true ∧ context.oldestUnacknowledgedPsn = 0 ∧
        (∀ op ∈ context.sendQueue, op.opcode = .write) ∧ context.nextPsn = 2)) = true := by
    decide +kernel
  obtain ⟨context, reached, holds⟩ :=
    Runs.reached_with steady_of_attempt initial_new_queue_pair tested
  obtain ⟨unacked, oldest, writes, next⟩ := of_decide_eq_true holds
  obtain ⟨_, _, _, _, _, _, _, placed⟩ := kept_reachable reached
  have plain (front back : List RdmaOp) (read : RdmaOp)
      (parts : context.sendQueue = front ++ read :: back) : read.opcode ≠ .read := by
    rw [writes read (parts ▸ List.mem_append_right _ List.mem_cons_self)]
    decide
  refine ⟨context, next, (nak_goes_back_iff placed.toBased unacked).2 ⟨fun same => ?_,
    fun _ front read back parts reads => absurd reads (plain front back read parts),
    fun front read back parts reads => absurd reads (plain front back read parts)⟩⟩
  rw [oldest] at same
  exact absurd same (by decide)

/-- The first of the packets is expected: the NAK is ignored, and the requester stays behind both
packets. -/
theorem nak_for_first_ignored : ∃ context : QpContext,
    Runs.Reachable Initial (Step oneByte) context ∧ context.psnIsValidAtInitiator 0 = true ∧
      context.processRxPacket oneByte (nakFor 0) = .ok context ∧ context.nextPsn = 2 ∧
      context.oldestUnacknowledgedPsn = 0 ∧ context.isRequestQueueActive = false := by
  have tested : (Runs.execute attemptAny bothSent newQueuePair).any (fun context =>
      decide (context.psnIsValidAtInitiator 0 = true ∧
        context.processRxPacket oneByte (nakFor 0) = .ok context ∧ context.nextPsn = 2 ∧
        context.oldestUnacknowledgedPsn = 0 ∧ context.isRequestQueueActive = false)) = true := by
    decide +kernel
  obtain ⟨context, reached, holds⟩ :=
    Runs.reached_with step_of_attempt_any initial_new_queue_pair tested
  exact ⟨context, reached, of_decide_eq_true holds⟩

end Isekai.RoceNakProofs
