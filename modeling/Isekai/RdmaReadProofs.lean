import Isekai.RdmaWakeupProofs

/-! The outstanding reads of the RDMA model: the counter of a queue pair against the read requests
that were sent and not answered, its bound, and the bound of the inbound read requests that wait for
their responses. -/

namespace Isekai.RdmaReadProofs
open Outcomes RdmaFalcon RdmaFalcon.State RdmaSchedulerProofs
open Roce (RdmaOpcode WorkType)

variable {id now : Nat} {packet : Packet} {rsn : UInt32} {credit : FalconCredit} {taken : QpContext}

/-! ## Sending -/

section Sending
variable {sizes : SizeConfig} {op : RdmaOp} {rsn : UInt32} {packet : Packet} {left : List UInt32}

/-- The rest of the operation fits one packet. -/
def FitsPacket (sizes : SizeConfig) (op : RdmaOp) : Prop :=
  op.inlinePayloadLength = 0 → (cutPacketFromSgl op.sgl sizes.rdmaMtu).2 = []

instance : Decidable (FitsPacket sizes op) := inferInstanceAs (Decidable (_ → _))

theorem created_packet (created : createRequestPacket sizes op rsn = .ok (packet, left)) :
    packet.rsn = rsn ∧ (packet.opcode = .readRequest ↔ op.opcode = .read) ∧
      (FitsPacket sizes op → packet.isLastPacket = true) := by
  obtain ⟨⟨opcode, dataLength, requestLength⟩, headers, rest⟩ := bind_eq_ok.1 created
  have kind : opcode = .readRequest ↔ op.opcode = .read := by
    unfold requestHeaders at headers
    cases same : op.opcode <;> simp only [same] at headers <;> cases headers <;> simp
  by_cases inline : op.inlinePayloadLength = 0
  · simp only [inline, ne_eq, not_true_eq_false, if_false] at rest
    obtain ⟨length, counted, made⟩ := bind_eq_ok.1 rest
    cases made
    refine ⟨rfl, kind, fun fits => ?_⟩
    simp [fits inline]
  · simp only [inline, ne_eq, not_false_eq_true, if_true] at rest
    split_ifs at rest
    cases rest
    exact ⟨rfl, kind, fun _ => rfl⟩

theorem cut_op_opcode : (QpContext.cutOp op packet left).opcode = op.opcode := by
  unfold QpContext.cutOp
  split_ifs <;> rfl

/-- An operation that is sent in one packet. -/
theorem cut_op_whole (left : List UInt32) (last : packet.isLastPacket = true) (unsent : op.isScheduled = false) :
    (QpContext.cutOp op packet left).nPkts = 1 ∧
      (QpContext.cutOp op packet left).nPktFinished = op.nPktFinished ∧
      (QpContext.cutOp op packet left).endPsn = packet.rsn := by
  simp [QpContext.cutOp, last, unsent]

theorem emplace_eq_some {map : UInt32 → Option Nat} {other : Nat} {key : UInt32}
    (found : QpContext.emplace map rsn id key = some other) :
    map key = some other ∨ key = rsn ∧ other = id := by
  unfold QpContext.emplace at found
  split_ifs at found
  · exact .inl found
  · by_cases same : key = rsn
    · subst same
      rw [Function.update_self, Option.some.injEq] at found
      exact .inr ⟨rfl, found.symm⟩
    · rw [Function.update_of_ne same] at found
      exact .inl found

end Sending

/-! ## Operations that are known -/

/-- The numbers of the operations in the send queue and under sequence numbers were given out, and a
read that is mapped under a sequence number is outstanding. -/
structure Known (context : QpContext) : Prop where
  queued : ∀ id ∈ context.sendQueue, id < context.nextOp
  mapped : ∀ rsn id, context.rsnToOp rsn = some id → id < context.nextOp
  outstanding : ∀ rsn id, context.rsnToOp rsn = some id → (context.ops id).opcode = .read →
    rsn ∈ context.outstandingReads

section Operations
variable {config : Config} {context : QpContext}

theorem update_none_eq_some {map : UInt32 → Option Nat} {key : UInt32}
    (found : Function.update map rsn none key = some id) : key ≠ rsn ∧ map key = some id := by
  by_cases same : key = rsn
  · subst same
    simp at found
  · rw [Function.update_of_ne same] at found
    exact ⟨same, found⟩

/-- An operation that is posted does not touch the older ones. -/
theorem posted_older {op : RdmaOp} (older : id < context.nextOp) :
    (context.post op).ops id = context.ops id := by
  unfold QpContext.post
  split_ifs
  · rfl
  · exact Function.update_of_ne older.ne ..

theorem posted_known (known : Known context) (op : RdmaOp) : Known (context.post op) := by
  have older : ∀ id, id < context.nextOp → id < (context.post op).nextOp := by
    unfold QpContext.post
    split_ifs
    · exact fun id below => below
    · exact fun id below => Nat.lt_succ_of_lt below
  have maps : (context.post op).rsnToOp = context.rsnToOp ∧
      (context.post op).outstandingReads = context.outstandingReads := by
    unfold QpContext.post
    split_ifs <;> exact ⟨rfl, rfl⟩
  refine ⟨fun id member => ?_, fun rsn id mapped => ?_, fun rsn id mapped read => ?_⟩
  · unfold QpContext.post at member ⊢
    split_ifs at member ⊢
    · exact known.queued id member
    · rcases List.mem_append.1 member with old | new
      · exact Nat.lt_succ_of_lt (known.queued id old)
      · rw [List.mem_singleton.1 new]
        exact Nat.lt_succ_self _
  · rw [maps.1] at mapped
    exact older id (known.mapped rsn id mapped)
  · rw [maps.1] at mapped
    rw [posted_older (known.mapped rsn id mapped)] at read
    rw [maps.2]
    exact known.outstanding rsn id mapped read

theorem finished_opcode (rsn : UInt32) (id other : Nat) :
    ((context.packetFinished rsn id).ops other).opcode = (context.ops other).opcode := by
  rw [RdmaWakeupProofs.packet_finished_op]

theorem answered_known (known : Known context) (rsn : UInt32) (id : Nat) :
    Known (context.readAnswered rsn id) := by
  refine ⟨known.queued, fun key other mapped => ?_, fun key other mapped read => ?_⟩
  · exact known.mapped key other (update_none_eq_some mapped).2
  · obtain ⟨different, old⟩ := update_none_eq_some mapped
    have kind : ((context.packetFinished rsn id).ops other).opcode = .read := read
    rw [finished_opcode] at kind
    exact (List.mem_erase_of_ne different).2 (known.outstanding key other old kind)

theorem completed_known (known : Known context) (rsn : UInt32) (id : Nat) :
    Known (context.packetFinished rsn id) := by
  refine ⟨known.queued, fun key other mapped => ?_, fun key other mapped read => ?_⟩
  · exact known.mapped key other (update_none_eq_some mapped).2
  · rw [finished_opcode] at read
    exact known.outstanding key other (update_none_eq_some mapped).2 read

/-- The operations after a packet was cut from one of them. -/
theorem requested_ops {rest : List Nat} {left : List UInt32} (other : Nat) :
    (context.requested id rest packet left).ops other =
      if other = id then QpContext.cutOp (context.ops id) packet left else context.ops other :=
  Function.update_apply ..

theorem requested_opcode {rest : List Nat} {left : List UInt32} (other : Nat) :
    ((context.requested id rest packet left).ops other).opcode =
      (context.ops other).opcode := by
  rw [requested_ops]
  split_ifs with same
  · rw [cut_op_opcode, same]
  · rfl

theorem requested_queue {other : Nat} {rest : List Nat} (last : Bool)
    (queue : context.sendQueue = id :: rest)
    (member : other ∈ (if last then rest else context.sendQueue)) : other ∈ context.sendQueue := by
  split_ifs at member
  · exact queue ▸ List.mem_cons_of_mem _ member
  · exact member

theorem charged_outstanding (member : rsn ∈ context.outstandingReads) :
    rsn ∈ (context.charged config packet credit now).outstandingReads := by
  change rsn ∈ (if packet.opcode = .readRequest then context.outstandingReads ++ [packet.rsn]
    else context.outstandingReads)
  split_ifs
  · exact List.mem_append_left _ member
  · exact member

theorem charged_new (read : packet.opcode = .readRequest) :
    packet.rsn ∈ (context.charged config packet credit now).outstandingReads := by
  change packet.rsn ∈ (if packet.opcode = .readRequest then
    context.outstandingReads ++ [packet.rsn] else context.outstandingReads)
  rw [if_pos read]
  simp

theorem requested_known (known : Known context)
    (done : context.takeRequest config.toSizeConfig = .ok (taken, packet, credit)) :
    Known (taken.charged config packet credit now) := by
  obtain ⟨id, rest, left, queue, -, created, rfl⟩ := take_request_eq_ok done
  have head : id ∈ context.sendQueue := queue ▸ List.mem_cons_self
  refine ⟨fun key member => known.queued key (requested_queue _ queue member),
    fun rsn key mapped => ?_, fun rsn key mapped read => ?_⟩
  · rcases emplace_eq_some mapped with old | ⟨-, rfl⟩
    · exact known.mapped rsn key old
    · exact known.queued key head
  · have kind : ((context.requested id rest packet left).ops key).opcode = .read := read
    rw [requested_opcode] at kind
    rcases emplace_eq_some mapped with old | ⟨rfl, rfl⟩
    · exact charged_outstanding (known.outstanding rsn key old kind)
    · exact charged_new ((created_packet created).2.1.2 kind)

theorem responded_known (known : Known context)
    (done : context.takeResponse config.toSizeConfig = .ok (taken, packet, credit)) :
    Known (taken.charged config packet credit now) := by
  obtain ⟨request, rest, -, rfl, -⟩ := take_response_eq_ok done
  exact ⟨known.queued, known.mapped, fun rsn id mapped read =>
    charged_outstanding (known.outstanding rsn id mapped read)⟩

theorem known_of_changed {state : State} {event : Event} {qpId : Nat}
    (known : Known (state.contexts qpId)) (changed : Changed config state event qpId context) :
    Known context := by
  cases changed with
  | posted _ opcode sgl inlinePayloadLength => exact posted_known known _
  | credited _ credit => exact ⟨known.queued, known.mapped, known.outstanding⟩
  | answered _ rsn id => exact answered_known known rsn id
  | completed _ rsn id => exact completed_known known rsn id
  | sent due _ taken packet credit done =>
    cases current : state.currentWorkType <;> rw [current] at done
    · exact requested_known known done
    · exact responded_known known done
  | enqueued due _ request => exact ⟨known.queued, known.mapped, known.outstanding⟩

end Operations

/-! ## The counter -/

/-- The counter is the number of the outstanding reads. A read that was sent had one packet, of which
no answer has arrived while it is mapped, and a read that is queued has not been sent. -/
structure Counted (context : QpContext) : Prop where
  nodup : context.sendQueue.Nodup
  fresh : ∀ id ∈ context.sendQueue, (context.ops id).opcode = .read →
    (context.ops id).isScheduled = false ∧ (context.ops id).nPktFinished = 0 ∧
      ∀ rsn, context.rsnToOp rsn ≠ some id
  sent : ∀ rsn id, context.rsnToOp rsn = some id → (context.ops id).opcode = .read →
    (context.ops id).nPkts = 1 ∧ (context.ops id).nPktFinished = 0 ∧ (context.ops id).endPsn = rsn
  count : context.outboundReadRequests.toNat = context.outstandingReads.length

section Counting
variable {config : Config} {context : QpContext}

theorem posted_counted (known : Known context) (counted : Counted context) {op : RdmaOp}
    (unsent : op.isScheduled = false ∧ op.nPktFinished = 0) : Counted (context.post op) := by
  have older : ∀ id, id < context.nextOp → (context.post op).ops id = context.ops id :=
    fun id => posted_older
  unfold QpContext.post at older ⊢
  split_ifs at older ⊢
  · exact counted
  refine ⟨?_, fun id member read => ?_, fun rsn id found read => ?_, counted.count⟩
  · refine List.nodup_append.2 ⟨counted.nodup, List.nodup_singleton _, ?_⟩
    intro one first two second
    rw [List.mem_singleton.1 second]
    exact (known.queued one first).ne
  · rcases List.mem_append.1 member with old | new
    · have same := older id (known.queued id old)
      rw [same] at read ⊢
      exact counted.fresh id old read
    · rw [List.mem_singleton.1 new]
      simp only [Function.update_self]
      refine ⟨unsent.1, unsent.2, fun rsn found => ?_⟩
      exact absurd (known.mapped rsn _ found) (Nat.lt_irrefl _)
  · have same := older id (known.mapped rsn id found)
    rw [same] at read ⊢
    exact counted.sent rsn id found read

/-- The answer to a read finishes it. -/
theorem mapped_finished (counted : Counted context) (found : context.rsnToOp rsn = some id)
    (read : (context.ops id).opcode = .read) : QpContext.finished (context.ops id) = true := by
  obtain ⟨packets, finished, -⟩ := counted.sent rsn id found read
  simp [QpContext.finished, packets, finished]

theorem mapped_outstanding (known : Known context) (found : context.rsnToOp rsn = some id)
    (read : (context.ops id).opcode = .read) : 0 < context.outstandingReads.length :=
  List.length_pos_of_mem (known.outstanding rsn id found read)

theorem answered_counted (known : Known context) (counted : Counted context)
    (found : context.rsnToOp rsn = some id) (read : (context.ops id).opcode = .read) :
    Counted (context.readAnswered rsn id) := by
  have others : ∀ other, other ≠ id → (context.readAnswered rsn id).ops other = context.ops other :=
    fun other different => Function.update_of_ne different ..
  have opcodes : ∀ other, ((context.readAnswered rsn id).ops other).opcode =
      (context.ops other).opcode := finished_opcode rsn id
  refine ⟨counted.nodup, fun other member kind => ?_, fun key other mapped kind => ?_, ?_⟩
  · rw [opcodes] at kind
    obtain ⟨unsent, unfinished, unmapped⟩ := counted.fresh other member kind
    have different : other ≠ id := by
      rintro rfl
      exact unmapped rsn found
    rw [others other different]
    refine ⟨unsent, unfinished, fun key mapped => ?_⟩
    exact unmapped key (update_none_eq_some mapped).2
  · obtain ⟨different, old⟩ := update_none_eq_some mapped
    rw [opcodes] at kind
    obtain ⟨packets, finished, last⟩ := counted.sent key other old kind
    have distinct : other ≠ id := by
      rintro rfl
      exact different (last.symm.trans (counted.sent rsn other found kind).2.2)
    rw [others other distinct]
    exact ⟨packets, finished, last⟩
  · have one : 1 ≤ context.outboundReadRequests := by
      apply UInt32.le_iff_toNat_le.2
      rw [counted.count]
      exact mapped_outstanding known found read
    change (if QpContext.finished (context.ops id) = true then context.outboundReadRequests - 1
      else context.outboundReadRequests).toNat = (context.outstandingReads.erase rsn).length
    rw [if_pos (mapped_finished counted found read), UInt32.toNat_sub_of_le _ _ one, counted.count,
      List.length_erase_of_mem (known.outstanding rsn id found read)]
    rfl

theorem completed_counted (counted : Counted context) (other : (context.ops id).opcode ≠ .read) :
    Counted (context.packetFinished rsn id) := by
  have reads : ∀ key, ((context.packetFinished rsn id).ops key).opcode = .read →
      (context.packetFinished rsn id).ops key = context.ops key ∧
        (context.ops key).opcode = .read := by
    intro key read
    rw [finished_opcode] at read
    have different : key ≠ id := by
      rintro rfl
      exact other read
    exact ⟨Function.update_of_ne different .., read⟩
  refine ⟨counted.nodup, fun key member kind => ?_, fun key one mapped kind => ?_, counted.count⟩
  · obtain ⟨same, read⟩ := reads key kind
    obtain ⟨unsent, unfinished, unmapped⟩ := counted.fresh key member read
    rw [same]
    exact ⟨unsent, unfinished, fun at_ mapped => unmapped at_ (update_none_eq_some mapped).2⟩
  · obtain ⟨same, read⟩ := reads one kind
    rw [same]
    exact counted.sent key one (update_none_eq_some mapped).2 read

/-- What is asked of a queue pair whose request is sent: a read fits one packet, and the counter does
not wrap. -/
def Countable (config : Config) (context : QpContext) : Prop :=
  ∀ id ∈ context.sendQueue.head?, (context.ops id).opcode = .read →
    FitsPacket config.toSizeConfig (context.ops id) ∧
      context.outboundReadRequests.toNat + 1 < 2 ^ 32

/-- The counter goes up with the outstanding reads. -/
theorem charged_count (counted : context.outboundReadRequests.toNat = context.outstandingReads.length)
    (packet : Packet)
    (room : packet.opcode = .readRequest → context.outboundReadRequests.toNat + 1 < 2 ^ 32) :
    (if packet.opcode = .readRequest then context.outboundReadRequests + 1
      else context.outboundReadRequests).toNat = (if packet.opcode = .readRequest then
        context.outstandingReads ++ [packet.rsn] else context.outstandingReads).length := by
  split_ifs with read
  · rw [UInt32.toNat_add, List.length_append, ← counted]
    exact Nat.mod_eq_of_lt (room read)
  · exact counted

theorem requested_counted (counted : Counted context)
    (done : context.takeRequest config.toSizeConfig = .ok (taken, packet, credit))
    (countable : Countable config context) : Counted (taken.charged config packet credit now) := by
  obtain ⟨id, rest, left, queue, -, created, rfl⟩ := take_request_eq_ok done
  obtain ⟨-, kind, whole⟩ := created_packet created
  have head : id ∈ context.sendQueue := queue ▸ List.mem_cons_self
  have distinct := counted.nodup
  rw [queue, List.nodup_cons] at distinct
  have covered := countable id (by simp [queue])
  refine ⟨?_, fun key member read => ?_, fun rsn key mapped read => ?_, ?_⟩
  · change (if packet.isLastPacket then rest else context.sendQueue).Nodup
    split_ifs
    · exact distinct.2
    · exact counted.nodup
  · change ((context.requested id rest packet left).ops key).opcode = .read at read
    rw [requested_opcode] at read
    -- A read leaves the queue with its only packet.
    have different : key ≠ id := by
      rintro rfl
      change key ∈ (if packet.isLastPacket then rest else context.sendQueue) at member
      rw [if_pos (whole (covered read).1)] at member
      exact distinct.1 member
    obtain ⟨unsent, unfinished, unmapped⟩ := counted.fresh key (requested_queue _ queue member) read
    have same : (context.requested id rest packet left).ops key = context.ops key :=
      Function.update_of_ne different ..
    refine ⟨(congrArg RdmaOp.isScheduled same).trans unsent,
      (congrArg RdmaOp.nPktFinished same).trans unfinished, fun rsn mapped => ?_⟩
    rcases emplace_eq_some mapped with old | ⟨-, equal⟩
    · exact unmapped rsn old
    · exact different equal
  · change ((context.requested id rest packet left).ops key).opcode = .read at read
    rw [requested_opcode] at read
    change ((context.requested id rest packet left).ops key).nPkts = 1 ∧
      ((context.requested id rest packet left).ops key).nPktFinished = 0 ∧
        ((context.requested id rest packet left).ops key).endPsn = rsn
    rw [requested_ops]
    rcases emplace_eq_some mapped with old | ⟨rfl, rfl⟩
    · have different : key ≠ id := by
        rintro rfl
        exact (counted.fresh key head read).2.2 rsn old
      rw [if_neg different]
      exact counted.sent rsn key old read
    · obtain ⟨unsent, unfinished, -⟩ := counted.fresh key head read
      obtain ⟨packets, finished, last⟩ := cut_op_whole left (whole (covered read).1) unsent
      rw [if_pos rfl]
      exact ⟨packets, finished.trans unfinished, last⟩
  · exact charged_count counted.count packet fun read => (covered (kind.1 read)).2

theorem responded_counted (counted : Counted context)
    (done : context.takeResponse config.toSizeConfig = .ok (taken, packet, credit)) :
    Counted (taken.charged config packet credit now) := by
  obtain ⟨request, rest, -, rfl, response, -⟩ := take_response_eq_ok done
  refine ⟨counted.nodup, counted.fresh, counted.sent, charged_count counted.count packet fun read => ?_⟩
  rw [response] at read
  cases read

/-- What is asked of an event: a request that is sent is countable. -/
def SinglePacketReads (config : Config) (state : State) : Event → Prop
  | .run _ (.sendTransaction qpId) => state.currentWorkType = .request →
    Countable config (state.contexts qpId)
  | _ => True

theorem counted_of_changed {state : State} {event : Event} {qpId : Nat}
    (known : Known (state.contexts qpId)) (counted : Counted (state.contexts qpId))
    (possible : state.Possible event) (covered : SinglePacketReads config state event)
    (changed : Changed config state event qpId context) : Counted context := by
  cases changed with
  | posted _ opcode sgl inlinePayloadLength => exact posted_counted known counted ⟨rfl, rfl⟩
  | credited _ credit => exact ⟨counted.nodup, counted.fresh, counted.sent, counted.count⟩
  | answered _ rsn id mapped =>
    simp only [Possible, opcodeOf, mapped, Option.map_some, Option.some.injEq] at possible
    exact answered_counted known counted mapped possible
  | completed _ rsn id mapped =>
    simp only [Possible, opcodeOf, mapped, Option.map_some, ne_eq, Option.some.injEq] at possible
    exact completed_counted counted possible.2
  | sent due _ taken packet credit done =>
    cases current : state.currentWorkType <;> rw [current] at done
    · exact requested_counted counted done (covered current)
    · exact responded_counted counted done
  | enqueued due _ request => exact ⟨counted.nodup, counted.fresh, counted.sent, counted.count⟩

end Counting

/-- In every run in which each read that is sent fits one packet and the counter is below its largest
value then, the counter of each queue pair is the number of its outstanding reads; so it is not zero
when one is answered. -/
theorem reads_counted {config : Config} {state : State}
    (reached : Runs.Reachable State.Initial (CoveredStep config (SinglePacketReads config)) state)
    (qpId : Nat) :
    (state.contexts qpId).outboundReadRequests.toNat =
      (state.contexts qpId).outstandingReads.length ∧
    ∀ rsn, state.opcodeOf qpId rsn = some .read →
      0 < (state.contexts qpId).outboundReadRequests.toNat := by
  have kept : ∀ qpId, Known (state.contexts qpId) ∧ Counted (state.contexts qpId) := by
    apply Runs.invariant_of_reachable _ _ reached
    · intro first initial qpId
      obtain ⟨queue, -, unmapped, -, outbound, outstanding⟩ := initial.1 qpId
      refine ⟨⟨?_, ?_, ?_⟩, ?_, ?_, ?_, ?_⟩ <;> simp [queue, unmapped, outbound, outstanding]
    · rintro before after invariant ⟨event, possible, covered, done⟩ qpId
      obtain ⟨known, counted⟩ := invariant qpId
      rcases changed_of_perform after done qpId with same | changed
      · rw [same]
        exact ⟨known, counted⟩
      · exact ⟨known_of_changed known changed,
          counted_of_changed known counted possible covered changed⟩
  obtain ⟨known, counted⟩ := kept qpId
  refine ⟨counted.count, fun rsn read => ?_⟩
  obtain ⟨id, mapped, opcode⟩ := Option.map_eq_some_iff.1 read
  rw [counted.count]
  exact mapped_outstanding known mapped opcode

instance (config : Config) (context : QpContext) : Decidable (Countable config context) := by
  unfold Countable
  infer_instance

instance (config : Config) (state : State) :
    (event : Event) → Decidable (SinglePacketReads config state event)
  | .run _ (.sendTransaction _) => inferInstanceAs (Decidable (_ → _))
  | .postOp .. | .setXoff .. | .returnCredit .. | .readRequestArrives .. | .readResponseArrives ..
  | .completionArrives .. | .tick | .run _ .runWorkScheduler | .run _ (.addQpToScheduleSet ..)
  | .run _ (.readdQp ..) | .run _ (.initiateTransaction ..) | .run _ (.ackReadRequest ..)
  | .run _ (.enqueueReadRequest ..) => .isTrue trivial

/-- A read of one fragment is counted while it is outstanding. -/
theorem reads_counted_one : ∃ state : State, (state.contexts 1).outstandingReads = [0] ∧
    (state.contexts 1).outboundReadRequests.toNat = 1 := by
  have tested : (Runs.execute (tryEvent narrowConfig (SinglePacketReads narrowConfig)) firstReadSent
      freshState).any (fun state => (state.contexts 1).outstandingReads = [0]) = true := by
    decide +kernel
  obtain ⟨state, reached, passed⟩ := reached_covered fresh_state_initial tested
  have outstanding : (state.contexts 1).outstandingReads = [0] := of_decide_eq_true passed
  have counted := (reads_counted reached 1).1
  rw [outstanding] at counted
  exact ⟨state, outstanding, counted⟩

/-- Two outstanding reads are allowed. -/
def pairConfig : Config := { narrowConfig with outboundReadQueueDepth := 2 }

/-- A read of two packets is counted twice when it is sent and once when it has been answered. -/
theorem long_read_counted_twice : ∃ state, Runs.Reachable Initial (State.Step pairConfig) state ∧
    (state.contexts 1).sendQueue = [] ∧ (state.contexts 1).outstandingReads = [] ∧
      (state.contexts 1).outboundReadRequests = 1 := by
  have tested : (Runs.execute (tryEvent pairConfig fun _ _ => True)
      [.postOp 1 .read [4096, 4096] 0, .tick, .run 1 .runWorkScheduler,
        .run 1 (.sendTransaction 1), .tick, .run 2 (.readdQp 1 .request), .run 2 .runWorkScheduler,
        .run 2 (.sendTransaction 1), .readResponseArrives 1 0, .readResponseArrives 1 1]
      freshState).any (fun state => decide ((state.contexts 1).sendQueue = [] ∧
        (state.contexts 1).outstandingReads = [] ∧
        (state.contexts 1).outboundReadRequests = 1)) = true := by decide +kernel
  obtain ⟨state, reached, passed⟩ := reached_by fresh_state_initial tested
  exact ⟨state, reached, of_decide_eq_true passed⟩

end Isekai.RdmaReadProofs
