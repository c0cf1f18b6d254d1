import Isekai.RdmaReadProofs
import Mathlib.Order.Interval.Finset.Nat

/-! The completion callbacks of a queue pair of the RDMA model. Falcon completes the packets of an
operation one at a time and in any order; a completion finds its operation under the sequence number
of the packet, and the last one calls the operation back. -/

namespace Isekai.OpCompletions
open Outcomes RdmaFalcon RdmaSchedulerProofs RdmaReadProofs
open Roce (RdmaOpcode WorkType)

/-! ## A queue pair and its packets -/

/-- A packet that was cut and has not completed: its number among all packets of the queue pair, the
sequence number that it carries, and the operation that it was cut from. -/
structure Outstanding where
  number : Nat
  rsn : UInt32
  op : Nat
  deriving DecidableEq, Repr

/-- A queue pair with what is recorded beside it: the operations posted to its send queue, the
number of packets cut so far, those that Falcon has not completed, and the operations called back,
each time that they were. -/
structure Line where
  context : QpContext
  posted : List Nat := []
  sent : Nat := 0
  outstanding : List Outstanding := []
  invoked : List Nat := []

namespace Line

/-- How many packets of an operation have not completed. -/
def left (line : Line) (id : Nat) : Nat := line.outstanding.countP (·.op = id)

/-- All packets of the operation were cut and have completed. -/
def Done (line : Line) (id : Nat) : Prop :=
  id ∈ line.posted ∧ id ∉ line.context.sendQueue ∧ ∀ packet ∈ line.outstanding, packet.op ≠ id

instance (line : Line) (id : Nat) : Decidable (line.Done id) := inferInstanceAs (Decidable (_ ∧ _))

/-- The operations were called back once if all their packets have completed, and not before. -/
def CalledOnce (line : Line) : Prop :=
  ∀ id, line.invoked.count id = if line.Done id then 1 else 0

/-- A packet that completes counts for its own operation, and one that was cut to its end is still
in the completion queue. -/
def Alive (line : Line) : Prop :=
  ∀ packet ∈ line.outstanding, line.context.rsnToOp packet.rsn = some packet.op ∧
    (packet.op ∉ line.context.sendQueue → line.context.completionQueue
      (line.context.ops packet.op).endPsn = some packet.op)

/-- What happens to a queue pair: an operation is posted, the scheduler cuts the next request or
takes the next response, Falcon completes a packet or gives credits back, or a read request
arrives. -/
inductive Event where
  | post (opcode : RdmaOpcode) (sgl : List UInt32) (inlinePayloadLength : UInt32)
  | send (now : Nat)
  | respond (now : Nat)
  | complete (packet : Outstanding)
  | returnCredit (credit : FalconCredit)
  | enqueueRead (request : InboundReadRequest)

/-- Falcon completes what was handed to it. -/
def Possible (line : Line) : Event → Prop
  | .complete packet => packet ∈ line.outstanding
  | .returnCredit credit => credit ≤ line.context.creditUsage
  | _ => True

instance (line : Line) (event : Event) : Decidable (line.Possible event) := by
  cases event <;> unfold Possible <;> infer_instance

section Events
variable (config : Config)

/-- The next request is cut and handed to Falcon. -/
def send (line : Line) (now : Nat) : Except Fault Line := do
  let (context, packet, credit) ← line.context.takeRequest config.toSizeConfig
  match line.context.sendQueue with
  | [] => .error .emptyQueue
  | id :: _ =>
    .ok { line with
      context := context.charged config packet credit now
      sent := line.sent + 1
      outstanding := line.outstanding ++ [⟨line.sent, packet.rsn, id⟩] }

/-- The next response is handed to Falcon. -/
def respond (line : Line) (now : Nat) : Except Fault Line := do
  let (context, packet, credit) ← line.context.takeResponse config.toSizeConfig
  .ok { line with context := context.charged config packet credit now }

/-- `ProcessIncomingReadResponse` for a packet of a read, and `ProcessCompletion` for others. -/
def complete (line : Line) (packet : Outstanding) : Except Fault Line :=
  match line.context.rsnToOp packet.rsn with
  | none => .error .unknownRsn
  | some id =>
    .ok { line with
      context :=
        if (line.context.ops packet.op).opcode = .read then line.context.readAnswered packet.rsn id
        else line.context.packetFinished packet.rsn id
      outstanding := line.outstanding.erase packet
      invoked :=
        if QpContext.finished (line.context.ops id) then line.invoked ++ [id] else line.invoked }

/-- `PostOp` of an operation; a receive is in no send queue. -/
def post (line : Line) (op : RdmaOp) : Line :=
  { line with
    context := line.context.post op
    posted := if op.opcode = .recv then line.posted else line.posted ++ [line.context.nextOp] }

def perform (line : Line) : Event → Except Fault Line
  | .post opcode sgl inlinePayloadLength => .ok (line.post { opcode, sgl, inlinePayloadLength })
  | .send now => line.send config now
  | .respond now => line.respond config now
  | .complete packet => line.complete packet
  | .returnCredit credit => .ok { line with context := line.context.credited credit }
  | .enqueueRead request => .ok { line with context := line.context.enqueued request }

/-- The next packet is not cut under the sequence number of an outstanding one. -/
def Free (context : QpContext) : Prop := context.rsnToOp context.nextRsn = none

/-- The next packet is not the last one of an operation whose packets are a multiple of 2^32: that
one would be cut right below the sequence number of its first one. -/
def Short (context : QpContext) : Prop :=
  ∀ id ∈ context.sendQueue.head?, (context.ops id).isScheduled = true →
    FitsPacket config.toSizeConfig (context.ops id) →
      context.nextRsn + 1 ≠ (context.ops id).psn

/-- Both are asked of a queue pair whose next request is cut. -/
def Spaced (context : QpContext) : Prop := Free context ∧ Short config context

instance (context : QpContext) : Decidable (Free context) := inferInstanceAs (Decidable (_ = _))

instance (context : QpContext) : Decidable (Short config context) :=
  inferInstanceAs (Decidable (∀ _ ∈ _, _))

instance (context : QpContext) : Decidable (Spaced config context) :=
  inferInstanceAs (Decidable (_ ∧ _))

/-- A condition on the queue pairs whose next request is cut. -/
def Cutting (condition : QpContext → Prop) (line : Line) : Event → Prop
  | .send _ => condition line.context
  | _ => True

instance (condition : QpContext → Prop) [DecidablePred condition] (line : Line) (event : Event) :
    Decidable (Cutting condition line event) := by
  cases event <;> unfold Cutting <;> infer_instance

/-- A step of the queue pair where each request that is cut meets a condition. -/
def CoveredStep (condition : QpContext → Prop) (line next : Line) : Prop :=
  ∃ event, line.Possible event ∧ Cutting condition line event ∧
    line.perform config event = .ok next

/-- A queue pair that was just created. -/
def Initial (line : Line) : Prop :=
  State.Created line.context ∧ (∀ rsn, line.context.completionQueue rsn = none) ∧
    line.posted = [] ∧ line.sent = 0 ∧ line.outstanding = [] ∧ line.invoked = []

end Events

/-! ## What the events do -/

section Outcomes
variable {config : Config} {line : Line}

theorem complete_eq {packet : Outstanding} {id : Nat}
    (mapped : line.context.rsnToOp packet.rsn = some id) : line.complete packet = .ok { line with
      context :=
        if (line.context.ops packet.op).opcode = .read then line.context.readAnswered packet.rsn id
        else line.context.packetFinished packet.rsn id
      outstanding := line.outstanding.erase packet
      invoked := if QpContext.finished (line.context.ops id) then line.invoked ++ [id]
        else line.invoked } := by
  unfold complete
  rw [mapped]

theorem send_eq {context : QpContext} {packet : Packet} {credit : FalconCredit} {id : Nat}
    {rest : List Nat} (queue : line.context.sendQueue = id :: rest)
    (request : line.context.takeRequest config.toSizeConfig = .ok (context, packet, credit))
    (now : Nat) : line.send config now = .ok { line with
      context := context.charged config packet credit now
      sent := line.sent + 1
      outstanding := line.outstanding ++ [⟨line.sent, packet.rsn, id⟩] } := by
  unfold send
  rw [request, queue]
  rfl

theorem respond_eq {context : QpContext} {packet : Packet} {credit : FalconCredit}
    (response : line.context.takeResponse config.toSizeConfig = .ok (context, packet, credit))
    (now : Nat) : line.respond config now =
      .ok { line with context := context.charged config packet credit now } := by
  unfold respond
  rw [response]
  rfl

end Outcomes

/-! ## Sequence numbers -/

/-- The sequence number of the packet with a number, after that of the first one. -/
def rsnOf (base : UInt32) (number : Nat) : UInt32 := base + UInt32.ofNat number

theorem rsn_of_succ (base : UInt32) (number : Nat) :
    rsnOf base (number + 1) = rsnOf base number + 1 := by
  unfold rsnOf
  rw [UInt32.ofNat_add, ← add_assoc]
  rfl

theorem rsn_of_eq_iff (base : UInt32) (one other : Nat) :
    rsnOf base one = rsnOf base other ↔ one % 2 ^ 32 = other % 2 ^ 32 := by
  unfold rsnOf
  rw [add_right_inj, ← UInt32.toNat_inj, UInt32.toNat_ofNat', UInt32.toNat_ofNat']

/-- The packets that have not completed were cut under the last 2^32 sequence numbers, and the queue
pair has the operation of each under its sequence number. -/
structure Mapped (base : UInt32) (line : Line) : Prop where
  numbered : line.context.nextRsn = rsnOf base line.sent
  carried : ∀ packet ∈ line.outstanding, packet.rsn = rsnOf base packet.number
  window : ∀ packet ∈ line.outstanding, packet.number < line.sent ∧
    line.sent ≤ packet.number + 2 ^ 32
  distinct : (line.outstanding.map Outstanding.number).Nodup
  mapped : ∀ rsn id, line.context.rsnToOp rsn = some id ↔
    ∃ packet ∈ line.outstanding, packet.rsn = rsn ∧ packet.op = id

section Sequence
variable {base : UInt32} {line : Line} {packet other : Outstanding}

theorem Mapped.nodup (mapped : Mapped base line) : line.outstanding.Nodup :=
  mapped.distinct.of_map _

/-- A sequence number is that of one packet only. -/
theorem Mapped.same_packet (mapped : Mapped base line) (one : packet ∈ line.outstanding)
    (two : other ∈ line.outstanding) (same : packet.rsn = other.rsn) : packet = other := by
  rw [mapped.carried _ one, mapped.carried _ two, rsn_of_eq_iff] at same
  have first := mapped.window _ one
  have second := mapped.window _ two
  have numbers : packet.number = other.number := by omega
  exact List.inj_on_of_nodup_map mapped.distinct one two numbers

theorem Mapped.own (mapped : Mapped base line) (member : packet ∈ line.outstanding) :
    line.context.rsnToOp packet.rsn = some packet.op :=
  (mapped.mapped _ _).2 ⟨packet, member, rfl, rfl⟩

/-- At most 2^32 packets have not completed. -/
theorem Mapped.length_le (mapped : Mapped base line) : line.outstanding.length ≤ 2 ^ 32 := by
  have within : (line.outstanding.map Outstanding.number).toFinset ⊆
      Finset.Ico (line.sent - 2 ^ 32) line.sent := by
    intro number member
    obtain ⟨packet, known, rfl⟩ := List.mem_map.1 (List.mem_toFinset.1 member)
    have window := mapped.window _ known
    exact Finset.mem_Ico.2 ⟨by omega, window.1⟩
  have counted := Finset.card_le_card within
  rw [List.toFinset_card_of_nodup mapped.distinct, List.length_map, Nat.card_Ico] at counted
  omega

theorem left_le_length (line : Line) (id : Nat) : line.left id ≤ line.outstanding.length :=
  List.countP_le_length

theorem left_eq_zero_iff (line : Line) (id : Nat) :
    line.left id = 0 ↔ ∀ packet ∈ line.outstanding, packet.op ≠ id := by
  unfold left
  rw [List.countP_eq_zero]
  simp

/-- A packet has not been outstanding for 2^32 others if the next sequence number is free. -/
theorem Mapped.strict (mapped : Mapped base line) (free : Free line.context)
    (member : packet ∈ line.outstanding) :
    packet.rsn ≠ line.context.nextRsn ∧ line.sent < packet.number + 2 ^ 32 := by
  have different : packet.rsn ≠ line.context.nextRsn := by
    intro same
    have own := mapped.own member
    rw [same, free] at own
    cases own
  refine ⟨different, ?_⟩
  have window := mapped.window _ member
  rw [mapped.carried _ member, mapped.numbered, Ne, rsn_of_eq_iff] at different
  omega

end Sequence

/-! ## Operations -/

/-- The operations of the send queue were posted and not cut to their end; those that were have as
many packets left as they still count, and are in the completion queue while there is one. -/
structure Tracked (base : UInt32) (line : Line) : Prop extends Mapped base line where
  older : ∀ id ∈ line.posted, id < line.context.nextOp
  queued : ∀ id ∈ line.context.sendQueue, id ∈ line.posted
  single : line.context.sendQueue.Nodup
  sources : ∀ packet ∈ line.outstanding, packet.op ∈ line.posted
  called : line.CalledOnce
  uncounted : ∀ id ∈ line.context.sendQueue, (line.context.ops id).nPkts = 0
  unsent : ∀ id ∈ line.context.sendQueue, (line.context.ops id).isScheduled = false →
    (line.context.ops id).nPktFinished = 0 ∧ line.left id = 0
  begun : ∀ id ∈ line.context.sendQueue, (line.context.ops id).isScheduled = true →
    line.context.sendQueue.head? = some id ∧ (line.context.ops id).psn +
      (line.context.ops id).nPktFinished + UInt32.ofNat (line.left id) = line.context.nextRsn
  cut : ∀ id ∈ line.posted, id ∉ line.context.sendQueue → (line.context.ops id).nPkts ≠ 0 ∧
    (line.context.ops id).nPktFinished + UInt32.ofNat (line.left id) =
      (line.context.ops id).nPkts ∧
    ∃ last < line.sent, (line.context.ops id).endPsn = rsnOf base last ∧
      ∀ packet ∈ line.outstanding, packet.op = id → packet.number ≤ last
  completing : ∀ rsn id, line.context.completionQueue rsn = some id ↔ id ∈ line.posted ∧
    id ∉ line.context.sendQueue ∧ line.left id ≠ 0 ∧ (line.context.ops id).endPsn = rsn

/-- Two queue pairs with the same operations and packets. -/
structure SameWork (context other : QpContext) : Prop where
  ops : other.ops = context.ops
  nextOp : other.nextOp = context.nextOp
  sendQueue : other.sendQueue = context.sendQueue
  completionQueue : other.completionQueue = context.completionQueue
  rsnToOp : other.rsnToOp = context.rsnToOp
  nextRsn : other.nextRsn = context.nextRsn

section Steps
variable {config : Config} {base : UInt32} {line : Line}

theorem done_iff (line : Line) (id : Nat) :
    line.Done id ↔ id ∈ line.posted ∧ id ∉ line.context.sendQueue ∧ line.left id = 0 := by
  rw [left_eq_zero_iff]
  rfl

/-- The callbacks are still the right ones if the same operations are done. -/
theorem called_of_done_iff {next : Line} (called : line.CalledOnce)
    (invoked : next.invoked = line.invoked) (same : ∀ id, next.Done id ↔ line.Done id) :
    next.CalledOnce := by
  intro id
  rw [invoked, called id]
  exact if_congr (same id).symm rfl rfl

theorem Tracked.of_same_work (tracked : Tracked base line) {context : QpContext}
    (same : SameWork line.context context) : Tracked base { line with context := context } := by
  obtain ⟨ops, nextOp, sendQueue, completionQueue, rsnToOp, nextRsn⟩ := same
  have called : CalledOnce { line with context := context } := by
    refine called_of_done_iff tracked.called rfl fun id => ?_
    unfold Done
    dsimp only
    rw [sendQueue]
  constructor
  · constructor
    · exact nextRsn.trans tracked.numbered
    · exact tracked.carried
    · exact tracked.window
    · exact tracked.distinct
    · dsimp only
      rw [rsnToOp]
      exact tracked.mapped
  · dsimp only
    rw [nextOp]
    exact tracked.older
  · dsimp only
    rw [sendQueue]
    exact tracked.queued
  · dsimp only
    rw [sendQueue]
    exact tracked.single
  · exact tracked.sources
  · exact called
  · dsimp only
    rw [sendQueue, ops]
    exact tracked.uncounted
  · dsimp only
    rw [sendQueue, ops]
    exact tracked.unsent
  · dsimp only
    rw [sendQueue, ops, nextRsn]
    exact tracked.begun
  · dsimp only
    rw [sendQueue, ops]
    exact tracked.cut
  · dsimp only
    rw [sendQueue, ops, completionQueue]
    exact tracked.completing

/-- An operation that was not posted has no packets. -/
theorem Tracked.unposted (tracked : Tracked base line) {id : Nat} (new : id ∉ line.posted) :
    line.left id = 0 := by
  rw [left_eq_zero_iff]
  rintro packet member rfl
  exact new (tracked.sources packet member)

theorem Tracked.posted (tracked : Tracked base line) {op : RdmaOp} (fresh : op.isScheduled = false)
    (unfinished : op.nPktFinished = 0) (packets : op.nPkts = 0) : Tracked base (line.post op) := by
  by_cases recv : op.opcode = .recv
  · unfold post QpContext.post
    rw [if_pos recv, if_pos recv]
    exact tracked
  have new : line.context.nextOp ∉ line.posted := fun member =>
    Nat.lt_irrefl _ (tracked.older _ member)
  have other : ∀ id ∈ line.posted, id ≠ line.context.nextOp := fun id member =>
    (tracked.older id member).ne
  unfold post QpContext.post
  rw [if_neg recv, if_neg recv]
  have waiting : ∀ id, id ∈ line.context.sendQueue ++ [line.context.nextOp] →
      id ∈ line.context.sendQueue ∧ id ≠ line.context.nextOp ∨ id = line.context.nextOp := by
    intro id member
    rcases List.mem_append.1 member with old | last
    · exact .inl ⟨old, other id (tracked.queued id old)⟩
    · exact .inr (List.mem_singleton.1 last)
  have elsewhere : ∀ id, id ∈ line.posted ++ [line.context.nextOp] →
      id ∉ line.context.sendQueue ++ [line.context.nextOp] →
      id ∈ line.posted ∧ id ∉ line.context.sendQueue ∧ id ≠ line.context.nextOp := by
    intro id known out
    rw [List.mem_append, List.mem_singleton, not_or] at out
    rcases List.mem_append.1 known with old | last
    · exact ⟨old, out⟩
    · exact absurd (List.mem_singleton.1 last) out.2
  constructor
  · exact ⟨tracked.numbered, tracked.carried, tracked.window, tracked.distinct, tracked.mapped⟩
  · intro id member
    rcases List.mem_append.1 member with old | last
    · exact Nat.lt_succ_of_lt (tracked.older id old)
    · rw [List.mem_singleton.1 last]
      exact Nat.lt_succ_self _
  · intro id member
    rcases List.mem_append.1 member with old | last
    · exact List.mem_append_left _ (tracked.queued id old)
    · exact List.mem_append_right _ last
  · refine List.nodup_append.2 ⟨tracked.single, List.nodup_singleton _, ?_⟩
    intro one first two second
    rw [List.mem_singleton.1 second]
    exact other one (tracked.queued one first)
  · exact fun packet member => List.mem_append_left _ (tracked.sources packet member)
  · refine called_of_done_iff tracked.called rfl fun id => ?_
    constructor
    · rintro ⟨known, out, completed⟩
      have old := elsewhere id known out
      exact ⟨old.1, old.2.1, completed⟩
    · rintro ⟨known, out, completed⟩
      refine ⟨List.mem_append_left _ known, ?_, completed⟩
      intro member
      rcases waiting id member with old | last
      · exact out old.1
      · exact other id known last
  · intro id member
    dsimp only
    rcases waiting id member with ⟨old, different⟩ | rfl
    · rw [Function.update_of_ne different]
      exact tracked.uncounted id old
    · rw [Function.update_self]
      exact packets
  · intro id member unscheduled
    dsimp only at unscheduled ⊢
    rcases waiting id member with ⟨old, different⟩ | rfl
    · rw [Function.update_of_ne different] at unscheduled ⊢
      exact tracked.unsent id old unscheduled
    · rw [Function.update_self]
      exact ⟨unfinished, tracked.unposted new⟩
  · intro id member scheduled
    dsimp only at scheduled ⊢
    rcases waiting id member with ⟨old, different⟩ | rfl
    · rw [Function.update_of_ne different] at scheduled ⊢
      have before := tracked.begun id old scheduled
      refine ⟨?_, before.2⟩
      rw [List.head?_append, before.1]
      rfl
    · rw [Function.update_self, fresh] at scheduled
      cases scheduled
  · intro id known out
    obtain ⟨old, outside, different⟩ := elsewhere id known out
    dsimp only
    rw [Function.update_of_ne different]
    exact tracked.cut id old outside
  · intro rsn id
    dsimp only
    rw [tracked.completing]
    constructor
    · rintro ⟨known, out, some_, last⟩
      have different := other id known
      rw [Function.update_of_ne different]
      refine ⟨List.mem_append_left _ known, fun member => ?_, some_, last⟩
      rcases waiting id member with old | rfl
      · exact out old.1
      · exact different rfl
    · rintro ⟨known, out, some_, last⟩
      obtain ⟨old, outside, different⟩ := elsewhere id known out
      rw [Function.update_of_ne different] at last
      exact ⟨old, outside, some_, last⟩

/-- The operation after a packet was cut from it. -/
theorem cut_op_spec {op : RdmaOp} {packet : Packet} {left : List UInt32} :
    (QpContext.cutOp op packet left).isScheduled = true ∧
      (QpContext.cutOp op packet left).nPktFinished = op.nPktFinished ∧
      (QpContext.cutOp op packet left).psn = (if op.isScheduled then op.psn else packet.rsn) ∧
      (packet.isLastPacket = false → (QpContext.cutOp op packet left).nPkts = op.nPkts) ∧
      (packet.isLastPacket = true → (QpContext.cutOp op packet left).endPsn = packet.rsn ∧
        (QpContext.cutOp op packet left).nPkts =
          packet.rsn - (QpContext.cutOp op packet left).psn + 1) := by
  unfold QpContext.cutOp
  by_cases last : packet.isLastPacket = true <;> simp [last]

/-- The last packet takes all that is left of the operation. -/
theorem last_fits {sizes : SizeConfig} {op : RdmaOp} {rsn : UInt32} {packet : Packet}
    {left : List UInt32} (created : createRequestPacket sizes op rsn = .ok (packet, left))
    (last : packet.isLastPacket = true) : FitsPacket sizes op := by
  intro inline
  obtain ⟨⟨opcode, dataLength, requestLength⟩, headers, rest⟩ := bind_eq_ok.1 created
  simp only [inline, ne_eq, not_true_eq_false, if_false] at rest
  obtain ⟨length, counted, made⟩ := bind_eq_ok.1 rest
  cases made
  exact List.isEmpty_iff.1 last

/-- No operation that has packets left was cut to its end with the next sequence number. -/
theorem Tracked.end_free (tracked : Tracked base line) (free : Free line.context) :
    line.context.completionQueue line.context.nextRsn = none := by
  cases found : line.context.completionQueue line.context.nextRsn with
  | none => rfl
  | some id =>
    obtain ⟨known, out, some_, ends⟩ := (tracked.completing _ id).1 found
    obtain ⟨-, -, last, before, lastRsn, bound⟩ := tracked.cut id known out
    obtain ⟨packet, member, rfl⟩ : ∃ packet ∈ line.outstanding, packet.op = id := by
      by_contra nothing
      exact some_ ((left_eq_zero_iff line id).2 fun packet member same =>
        nothing ⟨packet, member, same⟩)
    have strict := (tracked.strict free member).2
    have within := bound packet member rfl
    rw [lastRsn, tracked.numbered, rsn_of_eq_iff] at ends
    omega

/-- How a queue pair changes when a packet is cut from the operation at the head of its send
queue. -/
structure Cuts (line next : Line) (id : Nat) (last : Bool) : Prop where
  head : line.context.sendQueue.head? = some id
  posted : next.posted = line.posted
  nextOp : next.context.nextOp = line.context.nextOp
  invoked : next.invoked = line.invoked
  sent : next.sent = line.sent + 1
  outstanding : next.outstanding = line.outstanding ++ [⟨line.sent, line.context.nextRsn, id⟩]
  numbered : next.context.nextRsn = line.context.nextRsn + 1
  others : ∀ key, key ≠ id → next.context.ops key = line.context.ops key
  queue : next.context.sendQueue =
    if last then line.context.sendQueue.tail else line.context.sendQueue
  entered : next.context.rsnToOp =
    QpContext.emplace line.context.rsnToOp line.context.nextRsn id
  ends : next.context.completionQueue =
    if last then QpContext.emplace line.context.completionQueue line.context.nextRsn id
    else line.context.completionQueue
  scheduled : (next.context.ops id).isScheduled = true
  unfinished : (next.context.ops id).nPktFinished = (line.context.ops id).nPktFinished
  psn : (next.context.ops id).psn =
    if (line.context.ops id).isScheduled then (line.context.ops id).psn else line.context.nextRsn
  more : last = false → (next.context.ops id).nPkts = (line.context.ops id).nPkts
  closed : last = true → (next.context.ops id).endPsn = line.context.nextRsn ∧
    (next.context.ops id).nPkts = line.context.nextRsn - (next.context.ops id).psn + 1

theorem cuts_of_request {id : Nat} {rest : List Nat} {packet : Packet} {left : List UInt32}
    (queue : line.context.sendQueue = id :: rest) (carries : packet.rsn = line.context.nextRsn)
    (credit : FalconCredit) (now : Nat) :
    Cuts line { line with
      context := (line.context.requested id rest packet left).charged config packet credit now
      sent := line.sent + 1
      outstanding := line.outstanding ++ [⟨line.sent, packet.rsn, id⟩] } id
        packet.isLastPacket := by
  have own : (line.context.requested id rest packet left).ops id =
      QpContext.cutOp (line.context.ops id) packet left := Function.update_self ..
  obtain ⟨scheduled, unfinished, psn, more, closed⟩ :=
    @cut_op_spec (line.context.ops id) packet left
  rw [← own] at scheduled unfinished psn more closed
  rw [carries] at psn closed
  constructor
  · rw [queue]
    rfl
  · rfl
  · rfl
  · rfl
  · rfl
  · rw [carries]
  · rfl
  · exact fun key different => Function.update_of_ne different ..
  · rw [queue]
    change (if packet.isLastPacket then rest else line.context.sendQueue) = _
    rw [queue]
    rfl
  · change QpContext.emplace line.context.rsnToOp packet.rsn id = _
    rw [carries]
  · change (if packet.isLastPacket then QpContext.emplace line.context.completionQueue packet.rsn id
      else line.context.completionQueue) = _
    rw [carries]
  · exact scheduled
  · exact unfinished
  · exact psn
  · exact more
  · exact closed

section Cutting
variable {next : Line} {id : Nat} {last : Bool}

theorem Cuts.left (cuts : Cuts line next id last) (key : Nat) :
    next.left key = line.left key + if id = key then 1 else 0 := by
  unfold Line.left
  rw [cuts.outstanding, List.countP_append, List.countP_singleton]
  simp

theorem Cuts.head_mem (cuts : Cuts line next id last) : id ∈ line.context.sendQueue :=
  List.mem_of_mem_head? cuts.head

/-- The operation stays in the send queue until its last packet. -/
theorem Cuts.mem_queue (cuts : Cuts line next id last) (single : line.context.sendQueue.Nodup)
    (key : Nat) : key ∈ next.context.sendQueue ↔
      key ∈ line.context.sendQueue ∧ (key = id → last = false) := by
  obtain ⟨rest, queue⟩ := List.head?_eq_some_iff.1 cuts.head
  rw [queue] at single
  have out := (List.nodup_cons.1 single).1
  rw [cuts.queue, queue]
  cases last with
  | false => simp
  | true =>
    rw [if_pos rfl, List.tail_cons, List.mem_cons]
    constructor
    · intro member
      refine ⟨.inr member, fun same => absurd (same ▸ member) out⟩
    · rintro ⟨same | member, closed⟩
      · exact absurd (closed same) (by simp)
      · exact member

/-- What the operation counts with the packets it has left is what was cut from it. -/
theorem Cuts.counted (cuts : Cuts line next id last) (tracked : Tracked base line) :
    (next.context.ops id).psn + (next.context.ops id).nPktFinished +
      UInt32.ofNat (next.left id) = next.context.nextRsn := by
  rw [cuts.psn, cuts.unfinished, cuts.left, if_pos rfl, UInt32.ofNat_add, cuts.numbered,
    ← add_assoc]
  cases begun : (line.context.ops id).isScheduled with
  | true =>
    rw [if_pos rfl, (tracked.begun id cuts.head_mem begun).2]
    rfl
  | false =>
    obtain ⟨nothing, none_⟩ := tracked.unsent id cuts.head_mem begun
    rw [if_neg (by simp), nothing, none_]
    simp

theorem Cuts.done_iff (cuts : Cuts line next id last) (single : line.context.sendQueue.Nodup)
    (key : Nat) : next.Done key ↔ line.Done key := by
  rw [Line.done_iff, Line.done_iff, cuts.posted, cuts.mem_queue single, cuts.left]
  by_cases same : id = key
  · subst same
    simp [cuts.head_mem]
  · have different : key ≠ id := fun equal => same equal.symm
    simp [same, different]

/-- A packet under a free sequence number. -/
theorem Cuts.mapped (cuts : Cuts line next id last) (mapped : Mapped base line)
    (free : Free line.context) : Mapped base next := by
  have fresh : ∀ packet ∈ line.outstanding, packet.rsn ≠ line.context.nextRsn :=
    fun packet member => (mapped.strict free member).1
  have split_ : ∀ packet ∈ next.outstanding, packet ∈ line.outstanding ∨
      packet = ⟨line.sent, line.context.nextRsn, id⟩ := by
    intro packet member
    rw [cuts.outstanding] at member
    exact (List.mem_append.1 member).imp_right List.mem_singleton.1
  have kept : ∀ packet ∈ line.outstanding, packet ∈ next.outstanding := by
    intro packet member
    rw [cuts.outstanding]
    exact List.mem_append_left _ member
  have new : (⟨line.sent, line.context.nextRsn, id⟩ : Outstanding) ∈ next.outstanding := by
    rw [cuts.outstanding]
    exact List.mem_append_right _ List.mem_cons_self
  refine ⟨?_, fun packet member => ?_, fun packet member => ?_, ?_, fun rsn key => ?_⟩
  · rw [cuts.numbered, cuts.sent, mapped.numbered, rsn_of_succ]
  · rcases split_ packet member with old | rfl
    · exact mapped.carried _ old
    · exact mapped.numbered
  · rw [cuts.sent]
    rcases split_ packet member with old | rfl
    · have window := mapped.window _ old
      have strict := (mapped.strict free old).2
      omega
    · dsimp only
      omega
  · rw [cuts.outstanding, List.map_append]
    refine List.nodup_append.2 ⟨mapped.distinct, List.nodup_singleton _, ?_⟩
    intro one first two second
    obtain ⟨packet, old, rfl⟩ := List.mem_map.1 first
    rw [List.mem_singleton.1 second]
    exact (mapped.window _ old).1.ne
  · rw [cuts.entered]
    unfold QpContext.emplace
    rw [if_neg (by rw [free]; simp)]
    by_cases same : rsn = line.context.nextRsn
    · subst same
      rw [Function.update_self, Option.some.injEq]
      constructor
      · rintro rfl
        exact ⟨_, new, rfl, rfl⟩
      · rintro ⟨packet, member, rsns, rfl⟩
        rcases split_ packet member with old | rfl
        · exact absurd rsns (fresh packet old)
        · rfl
    · rw [Function.update_of_ne same, mapped.mapped]
      constructor
      · rintro ⟨packet, member, rsns, rfl⟩
        exact ⟨packet, kept packet member, rsns, rfl⟩
      · rintro ⟨packet, member, rsns, rfl⟩
        rcases split_ packet member with old | rfl
        · exact ⟨packet, old, rsns, rfl⟩
        · exact absurd rsns.symm same

/-- The completion queue has the operation from its last packet on. -/
theorem Cuts.completing (cuts : Cuts line next id last) (tracked : Tracked base line)
    (free : Free line.context) (rsn : UInt32) (key : Nat) :
    next.context.completionQueue rsn = some key ↔ key ∈ next.posted ∧
      key ∉ next.context.sendQueue ∧ next.left key ≠ 0 ∧ (next.context.ops key).endPsn = rsn := by
  have unended : line.context.completionQueue rsn ≠ some id := by
    intro found
    exact ((tracked.completing rsn id).1 found).2.1 cuts.head_mem
  have known : id ∈ line.posted := tracked.queued id cuts.head_mem
  rw [cuts.posted, cuts.mem_queue tracked.single, cuts.left]
  by_cases same : key = id
  · subst same
    rw [cuts.ends]
    cases last with
    | false => simp [unended, cuts.head_mem]
    | true =>
      have ended := (cuts.closed rfl).1
      unfold QpContext.emplace
      rw [if_pos rfl, if_neg (by rw [tracked.end_free free]; simp), ended]
      by_cases here : rsn = line.context.nextRsn
      · subst here
        simp [known]
      · rw [Function.update_of_ne here]
        simp [unended, Ne.symm here]
  · have different : id ≠ key := fun equal => same equal.symm
    have old : next.context.completionQueue rsn = some key ↔
        line.context.completionQueue rsn = some key := by
      rw [cuts.ends]
      split_ifs
      · unfold QpContext.emplace
        rw [if_neg (by rw [tracked.end_free free]; simp)]
        by_cases here : rsn = line.context.nextRsn
        · subst here
          rw [Function.update_self, tracked.end_free free]
          simp [different]
        · rw [Function.update_of_ne here]
      · rfl
    rw [old, tracked.completing, cuts.others key same]
    simp [same, different]

theorem Cuts.tracked (cuts : Cuts line next id last) (tracked : Tracked base line)
    (free : Free line.context) (short : last = true → (line.context.ops id).isScheduled = true →
      line.context.nextRsn + 1 ≠ (line.context.ops id).psn) : Tracked base next := by
  have mapped := cuts.mapped tracked.toMapped free
  have queue := cuts.mem_queue tracked.single
  have known : id ∈ line.posted := tracked.queued id cuts.head_mem
  constructor
  · exact mapped
  · rw [cuts.posted, cuts.nextOp]
    exact tracked.older
  · intro key member
    rw [cuts.posted]
    exact tracked.queued key ((queue key).1 member).1
  · rw [cuts.queue]
    split_ifs
    · exact tracked.single.sublist (List.tail_sublist _)
    · exact tracked.single
  · intro packet member
    rw [cuts.outstanding] at member
    rw [cuts.posted]
    rcases List.mem_append.1 member with old | new
    · exact tracked.sources packet old
    · rw [List.mem_singleton.1 new]
      exact known
  · exact called_of_done_iff tracked.called cuts.invoked (cuts.done_iff tracked.single)
  · intro key member
    obtain ⟨old, open_⟩ := (queue key).1 member
    by_cases same : key = id
    · subst same
      rw [cuts.more (open_ rfl)]
      exact tracked.uncounted key old
    · rw [cuts.others key same]
      exact tracked.uncounted key old
  · intro key member unscheduled
    by_cases same : key = id
    · subst same
      rw [cuts.scheduled] at unscheduled
      cases unscheduled
    · rw [cuts.others key same] at unscheduled ⊢
      rw [cuts.left, if_neg (fun equal => same equal.symm)]
      exact tracked.unsent key ((queue key).1 member).1 unscheduled
  · intro key member scheduled
    obtain ⟨old, open_⟩ := (queue key).1 member
    by_cases same : key = id
    · subst same
      refine ⟨?_, cuts.counted tracked⟩
      rw [cuts.queue, open_ rfl]
      exact cuts.head
    · rw [cuts.others key same] at scheduled
      have first := (tracked.begun key old scheduled).1
      rw [cuts.head, Option.some.injEq] at first
      exact absurd first.symm same
  · intro key posted out
    rw [cuts.posted] at posted
    rw [queue, not_and] at out
    by_cases same : key = id
    · subst same
      obtain rfl : last = true := by
        by_contra open_
        exact out cuts.head_mem fun _ => by simpa using open_
      have counted := cuts.counted tracked
      obtain ⟨ends, packets⟩ := cuts.closed rfl
      have first := cuts.psn
      rw [cuts.numbered] at counted
      refine ⟨?_, ?_, line.sent, by rw [cuts.sent]; omega, ?_, fun packet member same => ?_⟩
      · rw [packets, first]
        intro zero
        cases begun : (line.context.ops key).isScheduled with
        | true =>
          rw [begun, if_pos rfl] at zero
          refine short rfl begun ?_
          grind
        | false =>
          rw [begun, if_neg (by simp)] at zero
          grind
      · rw [packets]
        grind
      · rw [ends]
        exact tracked.numbered
      · have window := (mapped.window packet member).1
        rw [cuts.sent] at window
        omega
    · have outside : key ∉ line.context.sendQueue := fun member =>
        out member fun equal => absurd equal same
      obtain ⟨packets, counted, end_, before, ends, bound⟩ := tracked.cut key posted outside
      rw [cuts.others key same, cuts.left, if_neg (fun equal => same equal.symm), cuts.sent]
      refine ⟨packets, counted, end_, by omega, ends, fun packet member op => ?_⟩
      rw [cuts.outstanding] at member
      rcases List.mem_append.1 member with old | new
      · exact bound packet old op
      · rw [List.mem_singleton.1 new] at op
        exact absurd op.symm same
  · exact cuts.completing tracked free

end Cutting

/-- How a queue pair changes when Falcon completes one of its packets; whether that is the last one
of its operation is decided by what the operation counts. -/
structure Completes (line next : Line) (packet : Outstanding) : Prop where
  member : packet ∈ line.outstanding
  posted : next.posted = line.posted
  nextOp : next.context.nextOp = line.context.nextOp
  sendQueue : next.context.sendQueue = line.context.sendQueue
  numbered : next.context.nextRsn = line.context.nextRsn
  sent : next.sent = line.sent
  outstanding : next.outstanding = line.outstanding.erase packet
  others : ∀ key, key ≠ packet.op → next.context.ops key = line.context.ops key
  own : next.context.ops packet.op = { line.context.ops packet.op with
    nPktFinished := (line.context.ops packet.op).nPktFinished + 1 }
  unmapped : next.context.rsnToOp = Function.update line.context.rsnToOp packet.rsn none
  ends : next.context.completionQueue =
    if QpContext.finished (line.context.ops packet.op) then
      Function.update line.context.completionQueue (line.context.ops packet.op).endPsn none
    else line.context.completionQueue
  invoked : next.invoked =
    if QpContext.finished (line.context.ops packet.op) then line.invoked ++ [packet.op]
    else line.invoked

section Completing
variable {next : Line} {packet : Outstanding}

theorem completes_of_complete (mapped : Mapped base line) (member : packet ∈ line.outstanding) :
    ∃ next, line.complete packet = .ok next ∧ Completes line next packet := by
  refine ⟨_, complete_eq (mapped.own member), ?_⟩
  constructor
  · exact member
  · rfl
  · dsimp only
    split_ifs <;> rfl
  · dsimp only
    split_ifs <;> rfl
  · dsimp only
    split_ifs <;> rfl
  · rfl
  · rfl
  · intro key different
    dsimp only
    split_ifs <;> exact Function.update_of_ne different ..
  · dsimp only
    split_ifs <;> exact Function.update_self ..
  · dsimp only
    split_ifs <;> rfl
  · dsimp only
    by_cases read : (line.context.ops packet.op).opcode = .read
    · rw [if_pos read]
      rfl
    · rw [if_neg read]
      rfl
  · rfl

/-- A packet that completes. -/
theorem Completes.mapped (completes : Completes line next packet) (mapped : Mapped base line) :
    Mapped base next := by
  have old : ∀ other ∈ next.outstanding, other ∈ line.outstanding := by
    intro other member
    rw [completes.outstanding] at member
    exact List.mem_of_mem_erase member
  refine ⟨?_, fun other member => mapped.carried _ (old other member), fun other member => ?_, ?_,
    fun rsn key => ?_⟩
  · rw [completes.numbered, completes.sent]
    exact mapped.numbered
  · rw [completes.sent]
    exact mapped.window _ (old other member)
  · rw [completes.outstanding]
    exact mapped.distinct.sublist (List.erase_sublist.map _)
  rw [completes.unmapped]
  by_cases same : rsn = packet.rsn
  · subst same
    rw [Function.update_self]
    refine iff_of_false (by simp) ?_
    rintro ⟨other, member, rsns, -⟩
    rw [completes.outstanding] at member
    have known := mapped.nodup.mem_erase_iff.1 member
    exact known.1 (mapped.same_packet known.2 completes.member rsns)
  · rw [Function.update_of_ne same, mapped.mapped]
    constructor
    · rintro ⟨other, member, rfl, rfl⟩
      refine ⟨other, ?_, rfl, rfl⟩
      rw [completes.outstanding, List.mem_erase_of_ne]
      · exact member
      · rintro rfl
        exact same rfl
    · rintro ⟨other, member, rsns, rfl⟩
      exact ⟨other, old other member, rsns, rfl⟩

theorem Completes.left (completes : Completes line next packet) (key : Nat) :
    next.left key + (if packet.op = key then 1 else 0) = line.left key := by
  unfold Line.left
  have counted := (List.perm_cons_erase completes.member).countP_eq fun other => other.op = key
  rw [counted, List.countP_cons, completes.outstanding]
  simp

/-- The counters of the operation say that it is finished when its last packet completes. -/
theorem Completes.finished_iff (completes : Completes line next packet)
    (tracked : Tracked base line) : QpContext.finished (line.context.ops packet.op) = true ↔
      packet.op ∉ line.context.sendQueue ∧ next.left packet.op = 0 := by
  have known := tracked.sources packet completes.member
  have left := completes.left packet.op
  rw [if_pos rfl] at left
  unfold QpContext.finished
  rw [decide_eq_true_iff]
  by_cases queued : packet.op ∈ line.context.sendQueue
  · simp [queued, tracked.uncounted _ queued]
  · obtain ⟨packets, counted, -⟩ := tracked.cut _ known queued
    have bound := (left_le_length line packet.op).trans tracked.toMapped.length_le
    rw [← left, UInt32.ofNat_add, ← add_assoc, add_right_comm] at counted
    have positive : 0 < (line.context.ops packet.op).nPkts := UInt32.pos_iff_ne_zero.2 packets
    have one : UInt32.ofNat 1 = 1 := rfl
    rw [one] at counted
    constructor
    · rintro ⟨-, same⟩
      refine ⟨queued, ?_⟩
      have zero : UInt32.ofNat (next.left packet.op) = 0 := by
        rw [← counted] at same
        exact (add_eq_left.1 same.symm)
      rw [← UInt32.toNat_inj, UInt32.toNat_ofNat'] at zero
      have none_ : next.left packet.op % 2 ^ 32 = 0 := zero
      omega
    · rintro ⟨-, zero⟩
      rw [zero] at counted
      exact ⟨positive, by simpa using counted⟩

theorem Completes.done_iff (completes : Completes line next packet) (key : Nat) :
    next.Done key ↔ key ∈ line.posted ∧ key ∉ line.context.sendQueue ∧ next.left key = 0 := by
  rw [Line.done_iff, completes.posted, completes.sendQueue]

/-- The operation is called back with its last packet. -/
theorem Completes.called (completes : Completes line next packet) (tracked : Tracked base line) :
    next.CalledOnce := by
  have known := tracked.sources packet completes.member
  have finished := completes.finished_iff tracked
  intro key
  have left := completes.left key
  have before := tracked.called key
  rw [completes.invoked]
  by_cases same : packet.op = key
  · subst same
    rw [if_pos rfl] at left
    have open_ : ¬ line.Done packet.op := by
      rw [Line.done_iff, ← left]
      rintro ⟨-, -, zero⟩
      exact absurd zero (Nat.succ_ne_zero _)
    rw [if_neg open_] at before
    have done_ : next.Done packet.op ↔
        QpContext.finished (line.context.ops packet.op) = true := by
      rw [completes.done_iff, finished]
      exact and_iff_right known
    by_cases last : QpContext.finished (line.context.ops packet.op) = true
    · rw [if_pos last, if_pos (done_.2 last), List.count_append, before, List.count_singleton_self]
    · rw [if_neg last, if_neg fun is_ => last (done_.1 is_)]
      exact before
  · rw [if_neg same, add_zero] at left
    have done_ : next.Done key ↔ line.Done key := by
      rw [completes.done_iff, Line.done_iff, left]
    rw [← if_congr done_ rfl rfl] at before
    rw [← before]
    split_ifs
    · rw [List.count_append, List.count_singleton, beq_false_of_ne same]
      rfl
    · rfl

theorem Completes.completing (completes : Completes line next packet)
    (tracked : Tracked base line) (rsn : UInt32) (key : Nat) :
    next.context.completionQueue rsn = some key ↔ key ∈ next.posted ∧
      key ∉ next.context.sendQueue ∧ next.left key ≠ 0 ∧ (next.context.ops key).endPsn = rsn := by
  have known := tracked.sources packet completes.member
  have finished := completes.finished_iff tracked
  have left := completes.left key
  have ends : (next.context.ops key).endPsn = (line.context.ops key).endPsn := by
    by_cases same : key = packet.op
    · rw [same, completes.own]
    · rw [completes.others key same]
  have own : packet.op ∉ line.context.sendQueue →
      line.context.completionQueue (line.context.ops packet.op).endPsn = some packet.op := by
    intro out
    refine (tracked.completing _ _).2 ⟨known, out, ?_, rfl⟩
    have positive := completes.left packet.op
    rw [if_pos rfl] at positive
    omega
  rw [completes.posted, completes.sendQueue, ends, completes.ends]
  by_cases same : packet.op = key
  · subst same
    rw [if_pos rfl] at left
    by_cases last : QpContext.finished (line.context.ops packet.op) = true
    · obtain ⟨out, zero⟩ := finished.1 last
      rw [if_pos last]
      refine iff_of_false (fun found => ?_) fun here => here.2.2.1 zero
      by_cases at_ : rsn = (line.context.ops packet.op).endPsn
      · rw [at_, Function.update_self] at found
        cases found
      · rw [Function.update_of_ne at_] at found
        exact at_ ((tracked.completing _ _).1 found).2.2.2.symm
    · rw [if_neg last, tracked.completing]
      rw [finished, not_and] at last
      refine and_congr_right fun _ => and_congr_right fun out => and_congr_left fun _ => ?_
      exact iff_of_true (by omega) (last out)
  · rw [if_neg same, add_zero] at left
    have old : (if QpContext.finished (line.context.ops packet.op) = true then
        Function.update line.context.completionQueue (line.context.ops packet.op).endPsn none
        else line.context.completionQueue) rsn = some key ↔
          line.context.completionQueue rsn = some key := by
      split_ifs with last
      · by_cases at_ : rsn = (line.context.ops packet.op).endPsn
        · subst at_
          rw [Function.update_self, own (finished.1 last).1, Option.some.injEq]
          simp [same]
        · rw [Function.update_of_ne at_]
      · rfl
    rw [old, tracked.completing, left]

theorem Completes.tracked (completes : Completes line next packet) (tracked : Tracked base line) :
    Tracked base next := by
  have here : line.left packet.op ≠ 0 := by
    have left := completes.left packet.op
    rw [if_pos rfl] at left
    omega
  have left : ∀ key, key ≠ packet.op → next.left key = line.left key := by
    intro key different
    have counted := completes.left key
    rwa [if_neg (Ne.symm different), add_zero] at counted
  have balance : (next.context.ops packet.op).nPktFinished + UInt32.ofNat (next.left packet.op) =
      (line.context.ops packet.op).nPktFinished + UInt32.ofNat (line.left packet.op) := by
    have counted := completes.left packet.op
    rw [if_pos rfl] at counted
    rw [completes.own, ← counted, UInt32.ofNat_add]
    dsimp only
    rw [add_assoc, add_comm 1]
    rfl
  constructor
  · exact completes.mapped tracked.toMapped
  · rw [completes.posted, completes.nextOp]
    exact tracked.older
  · rw [completes.posted, completes.sendQueue]
    exact tracked.queued
  · rw [completes.sendQueue]
    exact tracked.single
  · intro other member
    rw [completes.outstanding] at member
    rw [completes.posted]
    exact tracked.sources other (List.mem_of_mem_erase member)
  · exact completes.called tracked
  · intro key member
    rw [completes.sendQueue] at member
    by_cases same : key = packet.op
    · rw [same] at member ⊢
      rw [completes.own]
      exact tracked.uncounted _ member
    · rw [completes.others key same]
      exact tracked.uncounted key member
  · intro key member unscheduled
    rw [completes.sendQueue] at member
    by_cases same : key = packet.op
    · rw [same] at member unscheduled
      rw [completes.own] at unscheduled
      exact absurd (tracked.unsent _ member unscheduled).2 here
    · rw [completes.others key same] at unscheduled ⊢
      rw [left key same]
      exact tracked.unsent key member unscheduled
  · intro key member scheduled
    rw [completes.sendQueue] at member ⊢
    rw [completes.numbered]
    by_cases same : key = packet.op
    · rw [same] at member scheduled ⊢
      rw [add_assoc, balance, ← add_assoc, completes.own]
      rw [completes.own] at scheduled
      exact tracked.begun _ member scheduled
    · rw [completes.others key same] at scheduled ⊢
      rw [left key same]
      exact tracked.begun key member scheduled
  · intro key posted out
    rw [completes.posted] at posted
    rw [completes.sendQueue] at out
    obtain ⟨packets, counted, last, before, ends, bound⟩ := tracked.cut key posted out
    have older : ∀ other ∈ next.outstanding, other.op = key → other.number ≤ last := by
      intro other member op
      rw [completes.outstanding] at member
      exact bound other (List.mem_of_mem_erase member) op
    rw [completes.sent]
    by_cases same : key = packet.op
    · rw [same] at packets counted ends ⊢
      rw [balance, completes.own]
      exact ⟨packets, counted, last, before, ends, same ▸ older⟩
    · rw [completes.others key same, left key same]
      exact ⟨packets, counted, last, before, ends, older⟩
  · exact completes.completing tracked

end Completing

/-! ## Runs -/

/-- A cut of the next request under a free sequence number, of an operation that stays short. -/
theorem send_tracked (tracked : Tracked base line) (free : Free line.context)
    (short : Short config line.context) (now : Nat) :
    Ensures (line.send config now) (Tracked base) := by
  intro next sent
  obtain ⟨⟨taken, packet, credit⟩, request, -⟩ := bind_eq_ok.1 sent
  obtain ⟨id, others, left, queue, -, created, rfl⟩ := take_request_eq_ok request
  rw [send_eq queue request] at sent
  cases sent
  have cuts := @cuts_of_request config line id others packet left queue (created_packet created).1
    credit now
  refine cuts.tracked tracked free fun last scheduled => ?_
  refine short id ?_ scheduled (last_fits created last)
  rw [queue]
  rfl

theorem respond_tracked (tracked : Tracked base line) (now : Nat) :
    Ensures (line.respond config now) (Tracked base) := by
  intro next sent
  obtain ⟨⟨taken, packet, credit⟩, response, -⟩ := bind_eq_ok.1 sent
  obtain ⟨request, others, -, rfl, -⟩ := take_response_eq_ok response
  rw [respond_eq response] at sent
  cases sent
  exact tracked.of_same_work ⟨rfl, rfl, rfl, rfl, rfl, rfl⟩

theorem tracked_step {next : Line} (tracked : Tracked base line)
    (step : CoveredStep config (Spaced config) line next) : Tracked base next := by
  obtain ⟨event, possible, covered, performed⟩ := step
  cases event with
  | post opcode sgl inlinePayloadLength =>
    cases performed
    exact tracked.posted rfl rfl rfl
  | send now => exact send_tracked tracked covered.1 covered.2 now next performed
  | respond now => exact respond_tracked tracked now next performed
  | complete packet =>
    obtain ⟨completed, done, completes⟩ := completes_of_complete tracked.toMapped possible
    obtain rfl : completed = next := Except.ok.inj (done.symm.trans performed)
    exact completes.tracked tracked
  | returnCredit credit =>
    cases performed
    exact tracked.of_same_work ⟨rfl, rfl, rfl, rfl, rfl, rfl⟩
  | enqueueRead request =>
    cases performed
    exact tracked.of_same_work ⟨rfl, rfl, rfl, rfl, rfl, rfl⟩

theorem tracked_initial (first : Initial line) : Tracked line.context.nextRsn line := by
  obtain ⟨⟨queue, -, unmapped, -⟩, uncompleted, posted, sent, outstanding, invoked⟩ := first
  have nothing : ∀ packet, packet ∉ line.outstanding := by simp [outstanding]
  have unposted : ∀ id, id ∉ line.posted := by simp [posted]
  have unqueued : ∀ id, id ∉ line.context.sendQueue := by simp [queue]
  constructor
  · constructor
    · rw [sent]
      exact (add_zero _).symm
    · exact fun packet member => absurd member (nothing packet)
    · exact fun packet member => absurd member (nothing packet)
    · simp [outstanding]
    · simp [unmapped, outstanding]
  · exact fun id member => absurd member (unposted id)
  · exact fun id member => absurd member (unqueued id)
  · simp [queue]
  · exact fun packet member => absurd member (nothing packet)
  · intro id
    rw [invoked, if_neg fun is_ => unposted id is_.1]
    rfl
  · exact fun id member => absurd member (unqueued id)
  · exact fun id member => absurd member (unqueued id)
  · exact fun id member => absurd member (unqueued id)
  · exact fun id member => absurd member (unposted id)
  · simp [uncompleted, posted]

theorem tracked_reached (reached : Runs.Reachable Initial (CoveredStep config (Spaced config))
    line) : ∃ base, Tracked base line := by
  obtain ⟨first, started, path⟩ := reached
  refine ⟨first.context.nextRsn, ?_⟩
  induction path with
  | refl => exact tracked_initial started
  | tail _ step ih => exact tracked_step ih step

/-- Falcon finds what it completes. -/
theorem Tracked.alive (tracked : Tracked base line) : line.Alive := by
  intro packet member
  refine ⟨tracked.own member, fun out => (tracked.completing _ _).2
    ⟨tracked.sources packet member, out, ?_, rfl⟩⟩
  intro zero
  exact (left_eq_zero_iff line packet.op).1 zero packet member rfl

end Steps

end Line

end Isekai.OpCompletions
