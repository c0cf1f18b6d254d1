import Isekai.RoceGoBackN

/-! Runs of a queue pair. As long as no acknowledgement gets ahead of what was sent again and going
back finds something to send, the sequence numbers are in order, the next one belongs to the
operation at the index, and no packet is made from outside of a queue. -/

namespace Isekai.RoceConsistency
open Outcomes Roce Roce.QpContext RoceNumbering RoceGoBackN

variable {config : Config} {context : QpContext}
variable {after : QpContext}

/-! ## What the responder leaves of the requester -/

/-- The part of the state that belongs to the requester. -/
structure Requester where
  sendQueue : List RdmaOp
  nextPsn : Psn
  oldestUnacknowledgedPsn : Psn
  maxPsn : Psn
  tailPsn : Psn
  highestPsnWithAckReq : Psn
  nextOpIndex : UInt32
  isRequestQueueActive : Bool
  retxTimeout : Int
  rtoTriggerTime : Int
  rtoEvents : List Int
  now : Int

def requester (context : QpContext) : Requester :=
  { sendQueue := context.sendQueue
    nextPsn := context.nextPsn
    oldestUnacknowledgedPsn := context.oldestUnacknowledgedPsn
    maxPsn := context.maxPsn
    tailPsn := context.tailPsn
    highestPsnWithAckReq := context.highestPsnWithAckReq
    nextOpIndex := context.nextOpIndex
    isRequestQueueActive := context.isRequestQueueActive
    retxTimeout := context.retxTimeout
    rtoTriggerTime := context.rtoTriggerTime
    rtoEvents := context.rtoEvents
    now := context.now }

theorem same_of_requester (same : requester after = requester context) :
    SameRequester context after :=
  ⟨congrArg Requester.sendQueue same, congrArg Requester.nextOpIndex same,
    congrArg Requester.nextPsn same, congrArg Requester.oldestUnacknowledgedPsn same,
    congrArg Requester.maxPsn same, congrArg Requester.tailPsn same,
    congrArg Requester.isRequestQueueActive same⟩

/-- The read requests and whether they are served. -/
def responder (context : QpContext) : List InboundReadRequest × Bool :=
  (context.inboundReadRequestQueue, context.isResponseQueueActive)

/-- Neither part of the state changes. -/
def Leaves (context after : QpContext) : Prop :=
  requester after = requester context ∧ responder after = responder context

theorem transmit_ack_leaves (context : QpContext) : Leaves context context.transmitAck := by
  unfold transmitAck enqueuePacket
  dsimp only
  split_ifs <;> exact ⟨rfl, rfl⟩

theorem transmit_nak_leaves (context : QpContext) :
    Leaves context context.transmitNakSequenceError := by
  unfold transmitNakSequenceError enqueuePacket
  dsimp only
  split_ifs <;> exact ⟨rfl, rfl⟩

theorem generate_ack_leaves (context : QpContext) (requested : Bool) :
    Leaves context (context.generateAckOrUpdateCoalescingState requested) := by
  unfold generateAckOrUpdateCoalescingState setupAckCoalescingTimer
  dsimp only
  split_ifs
  · exact transmit_ack_leaves _
  · exact ⟨rfl, rfl⟩
  · exact ⟨rfl, rfl⟩
  · exact ⟨rfl, rfl⟩

theorem process_write_leaves (context : QpContext) (packet : Packet) :
    Leaves context (context.processWrite packet) := by
  unfold processWrite
  split_ifs
  · exact generate_ack_leaves { context with expectedPsn := psnAdd context.expectedPsn 1 } _
  · exact transmit_ack_leaves context
  · exact transmit_nak_leaves context
  · exact ⟨rfl, rfl⟩

theorem ack_timer_leaves (context : QpContext) :
    Leaves context context.handleAckCoalescingTimeout := by
  unfold handleAckCoalescingTimeout
  dsimp only
  split_ifs
  · exact transmit_ack_leaves _
  · exact ⟨rfl, rfl⟩

theorem requester_activate_response (context : QpContext) :
    requester (context.addWorkQueueToActiveSet .response) = requester context := by
  unfold addWorkQueueToActiveSet setWorkQueueActive
  split_ifs <;> rfl

theorem requester_expect_after_read (context : QpContext) (nPkt : Psn) :
    requester (context.expectAfterRead nPkt) = requester context := by
  unfold expectAfterRead
  split_ifs
  · exact (transmit_ack_leaves context).1
  · rfl

theorem requester_enqueue_read_request (context : QpContext) (request : InboundReadRequest) :
    requester (context.enqueueReadRequest request) = requester context := by
  unfold enqueueReadRequest
  refine (requester_activate_response _).trans ?_
  split_ifs <;> rfl

theorem requester_process_read_request (context : QpContext) (packet : Packet) :
    requester (context.processReadRequest config packet) = requester context := by
  unfold processReadRequest
  split_ifs
  · exact (requester_enqueue_read_request _ _).trans (requester_expect_after_read _ _)
  · exact requester_enqueue_read_request _ _
  · exact (transmit_nak_leaves context).1
  · rfl

theorem requester_transmit_triggered (context : QpContext) :
    requester context.transmitTriggered = requester context := by
  have nak := (transmit_nak_leaves context).1
  unfold transmitTriggered
  dsimp only
  split_ifs
  · exact (transmit_ack_leaves _).1.trans nak
  · exact nak
  · exact (transmit_ack_leaves context).1
  · rfl
  · rfl

theorem requester_transmit_response (context : QpContext) :
    Ensures (context.transmitPacket config .response) fun after =>
      requester after = requester context := by
  have created : Ensures (context.createResponsePacket config) fun made =>
      requester made.2 = requester context := by
    unfold createResponsePacket
    rcases context.inboundReadRequestQueue with _ | ⟨request, rest⟩
    · exact ensures_error
    · refine ensures_ok.2 ?_
      dsimp only
      split_ifs <;> rfl
  refine ensures_map.2 (created.mono ?_)
  rintro ⟨packet, after⟩ same
  exact (requester_transmit_triggered _).trans same

/-! ## What the requester leaves of the responder -/

theorem responds_of_same (responds : Responds context)
    (same : responder after = responder context) : Responds after := by
  obtain ⟨queue, active⟩ := Prod.mk.inj same
  unfold Responds at responds ⊢
  rw [queue, active]
  exact responds

/-- After a read request is enqueued there is something to serve. -/
theorem responds_enqueue_read_request (context : QpContext) (request : InboundReadRequest) :
    Responds (context.enqueueReadRequest request) := by
  intro _
  unfold enqueueReadRequest addWorkQueueToActiveSet setWorkQueueActive
  dsimp only
  split_ifs <;> simp

theorem responds_process_read_request (responds : Responds context) (packet : Packet) :
    Responds (context.processReadRequest config packet) := by
  unfold processReadRequest
  split_ifs
  · exact responds_enqueue_read_request _ _
  · exact responds_enqueue_read_request _ _
  · exact responds_of_same responds (transmit_nak_leaves context).2
  · exact responds

theorem responder_rewound (context : QpContext) : responder (rewound context) = responder context := by
  unfold responder rewound addWorkQueueToActiveSet setWorkQueueActive
  split_ifs <;> rfl

theorem responder_go_back (context : QpContext) : responder context.goBackN = responder context := by
  unfold responder goBackN cancelRto addWorkQueueToActiveSet setWorkQueueActive
  dsimp only
  split_ifs <;> rfl

theorem responder_setup_rto (context : QpContext) :
    responder context.setupRto = responder context := by
  unfold setupRto
  split_ifs <;> rfl

theorem responder_reset_rto (context : QpContext) :
    responder context.resetRto = responder context := by
  unfold resetRto
  dsimp only
  split_ifs
  · exact responder_setup_rto _
  · rfl

theorem same_setup_rto (context : QpContext) : SameRequester context context.setupRto := by
  unfold setupRto
  split_ifs <;> exact ⟨rfl, rfl, rfl, rfl, rfl, rfl, rfl⟩

theorem same_start_rto (context : QpContext) : SameRequester context context.startRto := by
  unfold startRto
  split_ifs
  · exact same_setup_rto context
  · exact ⟨rfl, rfl, rfl, rfl, rfl, rfl, rfl⟩

theorem responder_start_rto (context : QpContext) :
    responder context.startRto = responder context := by
  unfold startRto
  split_ifs
  · exact responder_setup_rto context
  · rfl

theorem same_reset_rto (context : QpContext) : SameRequester context context.resetRto := by
  unfold resetRto
  dsimp only
  split_ifs
  · have same := same_setup_rto { context with retryCounter := 0 }.cancelRto
    exact ⟨same.queue, same.index, same.nextPsn, same.oldestPsn, same.maxPsn, same.tailPsn,
      same.active⟩
  · exact ⟨rfl, rfl, rfl, rfl, rfl, rfl, rfl⟩

theorem responder_completing (context : QpContext) (ops : List RdmaOp) :
    responder (completing context ops) = responder context := by
  unfold responder completing
  rfl

theorem responder_acknowledged_to (context : QpContext) (psn : Psn) :
    responder (acknowledgedTo context psn) = responder context := by
  unfold responder acknowledgedTo acknowledged completing
  rfl

theorem ack_outcome_responder {packet : Packet} {rest : List RdmaOp} {resetRto : Bool}
    (outcome : AckOutcome context packet rest after resetRto) :
    responder after = responder context := by
  cases outcome with
  | ignored => rfl
  | completed => exact responder_completing context _
  | advanced => exact responder_acknowledged_to context _
  | wentBack => exact (responder_go_back _).trans (responder_completing context _)
  | advancedBack => exact (responder_go_back _).trans (responder_acknowledged_to context _)

theorem responder_received (context : QpContext) (psn : Psn) (op : RdmaOp) :
    responder (received context psn op) = responder context := by
  unfold responder received completeOpAtHead
  split_ifs <;> rfl

theorem response_outcome_responder {psn : Psn} {reset : Bool} {resetRto : Bool}
    (outcome : ResponseOutcome context psn reset after resetRto) :
    responder after = responder context := by
  cases outcome with
  | expected => exact responder_received context psn _
  | wentBack =>
    refine (responder_go_back _).trans ?_
    unfold responder
    rfl
  | ignored => rfl

/-! ## Runs -/

/-- A packet does not get ahead of what was sent again. -/
def ReceiveInStep (context : QpContext) (packet : Packet) : Prop :=
  match packet.opcode with
  | .ack => AckInStep context packet
  | .readResponseFirst | .readResponseMiddle | .readResponseLast | .readResponseOnly =>
    ResponseInStep context packet
  | _ => True

/-- The condition of a step: the packets of a posted operation can be told apart from those that
are outstanding, what is received is in step, and a timeout finds an operation to resume. -/
def InStep (config : Config) (context : QpContext) : Event → Prop
  | .post op => Numbers config context op
  | .receive packet => ReceiveInStep context packet
  | .retransmissionTimer =>
    context.now - context.rtoTriggerTime = context.retxTimeout → Resumes context
  | _ => True

/-- A step that meets the condition. -/
def SteadyStep (config : Config) (before after : QpContext) : Prop :=
  ∃ event, before.Possible event ∧ InStep config before event ∧
    before.perform config event = .ok after

theorem kept_initial (initial : Initial context) : Kept config context := by
  obtain ⟨retxTimeout, ackCoalescingTimeout, ackCoalescingThreshold, _, _, rfl⟩ := initial
  refine ⟨fun active => absurd active Bool.false_ne_true, [], [], 0, 0, 0, 0, ?_⟩
  refine ⟨⟨trivial, trivial, rfl, rfl, rfl, by simp, le_rfl, le_rfl, le_rfl, ?_⟩, rfl, rfl, rfl,
    le_rfl, le_rfl, le_rfl, ?_, by simp⟩
  · rintro op rest ⟨⟩
  · rintro op rest ⟨⟩

theorem stands_same (stands : Stands config context) (same : SameRequester context after) :
    Stands config after := by
  obtain ⟨_, _, _, _, _, _, placed⟩ := stands
  exact ⟨_, _, _, _, _, _, placed.same same⟩

/-- A change of neither the requester nor the read requests. -/
theorem kept_same (kept : Kept config context) (same : SameRequester context after)
    (still : responder after = responder context) : Kept config after :=
  ⟨responds_of_same kept.1 still, stands_same kept.2 same⟩

theorem post_kept (kept : Kept config context) {op : RdmaOp}
    (numbers : Numbers config context op) : Kept config (context.postOp config op) := by
  obtain ⟨responds, _, _, _, _, _, _, placed⟩ := kept
  obtain ⟨_, _, posted⟩ := posted_placed placed numbers
  refine ⟨responds_of_same responds ?_, _, _, _, _, _, _, posted⟩
  unfold postOp responder addWorkQueueToActiveSet setWorkQueueActive
  dsimp only
  split_ifs <;> rfl

theorem transmit_request_kept (kept : Kept config context)
    (active : context.isRequestQueueActive = true) :
    Ensures (context.runWorkScheduler config .request) (Kept config) := by
  obtain ⟨responds, done, todo, first, oldest, next, max, placed⟩ := kept
  rcases todo with _ | ⟨op, more⟩
  · exact absurd rfl (placed.active.1 active)
  · obtain ⟨packet, created⟩ := placed.create
    obtain ⟨_, _, _, _, _, advanced⟩ := advanced_placed placed
    unfold runWorkScheduler transmitPacket
    rw [created]
    have same := same_start_rto ((context.advanceRequest op).enqueuePacket packet)
    have still := responder_start_rto ((context.advanceRequest op).enqueuePacket packet)
    have started : responder ((context.advanceRequest op).enqueuePacket packet) =
        responder context := by
      unfold responder enqueuePacket advanceRequest
      dsimp only
      split_ifs <;> rfl
    refine ensures_ok.2 ⟨responds_of_same responds ?_, _, _, _, _, _, _, advanced.same ?_⟩
    · exact still.trans started
    · refine ⟨same.queue, same.index, same.nextPsn, same.oldestPsn, same.maxPsn, same.tailPsn, ?_⟩
      simp only [setWorkQueueActive, hasMoreWork, same.index, same.queue]
      rfl

theorem transmit_response_kept (kept : Kept config context) :
    Ensures (context.runWorkScheduler config .response) (Kept config) := by
  refine ensures_map.2 ((requester_transmit_response context).mono fun after same => ?_)
  refine ⟨fun active => ?_, stands_same kept.2 ?_⟩
  · simpa [setWorkQueueActive, hasMoreWork] using active
  · have unchanged := same_of_requester same
    exact ⟨unchanged.queue, unchanged.index, unchanged.nextPsn, unchanged.oldestPsn,
      unchanged.maxPsn, unchanged.tailPsn, unchanged.active⟩

theorem rto_kept (kept : Kept config context)
    (inStep : context.now - context.rtoTriggerTime = context.retxTimeout → Resumes context) :
    Ensures context.handleRto (Kept config) := by
  obtain ⟨responds, done, todo, first, oldest, next, max, placed⟩ := kept
  unfold handleRto
  refine ensures_ite (fun due => ?_) fun _ => ensures_ok.2 ?_
  · refine ensures_ite (fun _ => ensures_ok.2 ?_) fun _ => ensures_error
    let fired := { context with
      rtoEvents := context.rtoEvents.erase context.now
      rtoTriggerTime := 0 }
    have based : Based config fired first oldest max :=
      placed.toBased.same ⟨rfl, rfl, rfl, rfl, rfl, rfl, rfl⟩
    have again := rewound_placed based (inStep due)
    refine ⟨responds_of_same responds ?_, _, _, _, _, _, _, again.same ?_⟩
    · exact responder_rewound fired
    · exact ⟨rfl, rfl, rfl, rfl, rfl, rfl, rfl⟩
  · exact ⟨responds, _, _, _, _, _, _, placed.same ⟨rfl, rfl, rfl, rfl, rfl, rfl, rfl⟩⟩

theorem reset_kept (kept : Kept config context) (resetRto : Bool) :
    Kept config (if resetRto then context.resetRto else context) := by
  cases resetRto with
  | true => exact kept_same kept (same_reset_rto context) (responder_reset_rto context)
  | false => exact kept

theorem receive_kept (kept : Kept config context) {packet : Packet}
    (inStep : ReceiveInStep context packet) :
    Ensures (context.processRxPacket config packet) (Kept config) := by
  obtain ⟨responds, done, todo, first, oldest, next, max, placed⟩ := kept
  have response (resetRto : Bool) (inStep : ResponseInStep context packet) :
      Ensures ((completing context (impliedBy context packet)).processReadResponse packet.psn
        resetRto) fun made => Kept config made.1 := by
    refine ((response_outcome packet.psn resetRto).and (response_stands placed inStep resetRto)).mono ?_
    rintro ⟨after, reset⟩ ⟨outcome, stands⟩
    refine ⟨responds_of_same responds ?_, stands⟩
    exact (response_outcome_responder outcome).trans (responder_completing context _)
  have finish (outcome : Except Fault (QpContext × Bool))
      (stays : Ensures outcome fun made => Kept config made.1) :
      Ensures (outcome.map fun made => if made.2 then made.1.resetRto else made.1)
        (Kept config) :=
    ensures_map.2 (stays.mono fun made kept => reset_kept kept made.2)
  refine finish _ ?_
  unfold ReceiveInStep at inStep
  cases opcode : packet.opcode with
  | ack =>
    simp only [opcode] at inStep ⊢
    obtain ⟨rest, queue, _⟩ := acked_spec placed.toBased packet.psn
    refine ((ack_outcome placed.toBased queue).and (ack_stands placed inStep)).mono ?_
    rintro ⟨after, reset⟩ ⟨outcome, stands⟩
    exact ⟨responds_of_same responds (ack_outcome_responder outcome), stands⟩
  | readRequest =>
    refine ensures_ok.2 ⟨responds_process_read_request responds packet, ?_⟩
    exact ⟨_, _, _, _, _, _,
      placed.same (same_of_requester (requester_process_read_request context packet))⟩
  | writeFirst | writeMiddle | writeLast | writeOnly =>
    refine ensures_ok.2 ⟨responds_of_same responds (process_write_leaves context packet).2, ?_⟩
    exact ⟨_, _, _, _, _, _,
      placed.same (same_of_requester (process_write_leaves context packet).1)⟩
  | readResponseFirst | readResponseOnly =>
    simp only [opcode] at inStep ⊢
    rw [complete_op_till_eq placed.toBased]
    have implied : impliedBy context packet = ackedBy context (psnAdd packet.psn (-1)) := by
      simp only [impliedBy, opcode]
    exact implied ▸ response _ inStep
  | readResponseMiddle | readResponseLast =>
    simp only [opcode] at inStep ⊢
    have implied : impliedBy context packet = [] := by
      simp only [impliedBy, opcode]
    have outcome := response false inStep
    rw [implied, completing_nil] at outcome
    exact outcome
  | sendFirst | sendMiddle | sendLast | sendOnly | congestionNotification =>
    exact ensures_ok.2 ⟨responds, _, _, _, _, _, _, placed⟩

theorem kept_step {before : QpContext} (kept : Kept config before)
    (step : SteadyStep config before after) : Kept config after := by
  obtain ⟨event, possible, inStep, performed⟩ := step
  cases event with
  | post op =>
    cases performed
    exact post_kept kept inStep
  | transmit workType =>
    cases workType with
    | request => exact transmit_request_kept kept possible after performed
    | response => exact transmit_response_kept kept after performed
  | receive packet => exact receive_kept kept inStep after performed
  | retransmissionTimer => exact rto_kept kept inStep after performed
  | ackCoalescingTimer =>
    cases performed
    exact kept_same kept (same_of_requester (ack_timer_leaves before).1)
      (ack_timer_leaves before).2
  | tick duration =>
    cases performed
    exact kept_same kept ⟨rfl, rfl, rfl, rfl, rfl, rfl, rfl⟩ rfl

theorem kept_reachable (reached : Runs.Reachable Initial (SteadyStep config) context) :
    Kept config context := by
  apply Runs.invariant_of_reachable _ _ reached
  · exact fun _ initial => kept_initial initial
  · exact fun _ _ kept step => kept_step kept step

/-! ## What the state means -/

/-- The index is in the send queue or at its end, the sequence numbers are in order, the next one is
one of the operation at the index or else the next free one, and what is active can be served. -/
structure Consistent (config : Config) (context : QpContext) : Prop where
  index : context.nextOpIndex.toNat ≤ context.sendQueue.length
  ordered : psnBetween context.nextPsn context.oldestUnacknowledgedPsn context.maxPsn = true
  current : ∀ op, context.sendQueue[context.nextOpIndex.toNat]? = some op →
    psnBetween context.nextPsn op.psn op.endPsn = true
  free : context.nextOpIndex.toNat = context.sendQueue.length → context.nextPsn = context.tailPsn
  request : context.isRequestQueueActive = true →
    ∃ packet after, context.createRequestPacket config = .ok (packet, after)
  response : context.isResponseQueueActive = true →
    ∃ packet after, context.createResponsePacket config = .ok (packet, after)

/-- The next packet is one of the operation at the index. -/
theorem next_within {done more : List RdmaOp} {op : RdmaOp} {first oldest next max : Nat}
    (placed : Placed config context done (op :: more) first oldest next max) :
    psnBetween context.nextPsn op.psn op.endPsn = true := by
  obtain ⟨_, few, psn, endPsn⟩ := placed.op_spec placed.queue
  have after := placed.nextAfter
  have within := placed.nextWithin op more rfl
  have positive := packets_pos config op
  rw [psn, endPsn, placed.nextPsn]
  exact (between_iff (by omega) (by omega)).2 ⟨next, after, by omega, rfl⟩

theorem consistent_of_kept (kept : Kept config context) : Consistent config context := by
  obtain ⟨responds, done, todo, first, oldest, next, max, placed⟩ := kept
  have near := placed.near
  have ordered := placed.oldestNext
  have covered := placed.nextMax
  have after := placed.nextAfter
  refine ⟨?_, ?_, fun op current => ?_, fun final => ?_, fun active => ?_, fun active => ?_⟩
  · rw [placed.index, placed.queue, List.length_append]
    exact Nat.le_add_right _ _
  · rw [placed.oldestPsn, placed.maxPsn, placed.nextPsn]
    exact (between_iff (ordered.trans covered) near).2 ⟨next, ordered, covered, rfl⟩
  · rw [placed.current] at current
    obtain ⟨more, rfl⟩ : ∃ more, todo = op :: more := by
      rcases todo with _ | ⟨head, more⟩
      · cases current
      · cases current
        exact ⟨more, rfl⟩
    exact next_within placed
  · have none : todo = [] := by
      rw [placed.index, placed.queue, List.length_append] at final
      exact List.length_eq_zero_iff.1 (by omega)
    have posted := placed.posted
    rw [placed.nextPsn, placed.tailPsn]
    rw [placed.queue, none, List.append_nil] at posted ⊢
    congr 1
    omega
  · rcases todo with _ | ⟨op, more⟩
    · exact absurd rfl (placed.active.1 active)
    · obtain ⟨packet, created⟩ := placed.create
      exact ⟨packet, _, created⟩
  · rcases queue : context.inboundReadRequestQueue with _ | ⟨request, rest⟩
    · exact absurd queue (responds active)
    · unfold createResponsePacket
      rw [queue]
      exact ⟨_, _, rfl⟩

/-- In every run whose steps are in step, the queue pair is consistent in all states. -/
theorem go_back_n_consistent (reached : Runs.Reachable Initial (SteadyStep config) context) :
    Consistent config context :=
  consistent_of_kept (kept_reachable reached)

/-! ## Examples -/

instance (context : QpContext) (psn : Psn) : Decidable (Behind context psn) :=
  inferInstanceAs (Decidable (_ < _))

instance (context : QpContext) : Decidable (Resumes context) :=
  inferInstanceAs (Decidable (_ ∨ _))

instance (context : QpContext) (packet : Packet) : Decidable (AckInStep context packet) :=
  inferInstanceAs (Decidable (_ = true → _))

instance (context : QpContext) (packet : Packet) : Decidable (ResponseInStep context packet) :=
  inferInstanceAs (Decidable (ite _ _ _))

instance (context : QpContext) (packet : Packet) : Decidable (ReceiveInStep context packet) := by
  delta ReceiveInStep
  split <;> infer_instance

instance (config : Config) (context : QpContext) (event : Event) :
    Decidable (InStep config context event) :=
  match event with
  | .post _ => inferInstanceAs (Decidable (_ → _))
  | .receive packet => inferInstanceAs (Decidable (ReceiveInStep context packet))
  | .retransmissionTimer => inferInstanceAs (Decidable (_ → _))
  | .transmit _ | .ackCoalescingTimer | .tick _ => .isTrue trivial

/-- Segments of one byte. -/
def oneByte : Config := ⟨1, by decide⟩

/-- A new queue pair with a timeout of a hundred nanoseconds. -/
def newQueuePair : QpContext :=
  { retxTimeout := 100
    ackCoalescingTimeout := 0
    ackCoalescingThreshold := 1 }

theorem initial_new_queue_pair : Initial newQueuePair :=
  ⟨100, 0, 1, by decide, by decide, rfl⟩

/-- The result of an event, if it is possible and in step. -/
def attemptSteady (context : QpContext) (event : Event) : Option QpContext :=
  Runs.attempt (context.Possible event ∧ InStep oneByte context event)
    (context.perform oneByte event)

theorem steady_of_attempt (context : QpContext) (event : Event) (next : QpContext)
    (done : attemptSteady context event = some next) : SteadyStep oneByte context next := by
  obtain ⟨⟨possible, inStep⟩, performed⟩ := Runs.attempt_eq_some.1 done
  exact ⟨event, possible, inStep, performed⟩

/-- A write of the given length. -/
def writeOf (length : UInt32) : Event :=
  .post { opcode := .write, length := length, completionCallback := 0 }

/-- An acknowledgement up to a sequence number. -/
def ackOf (psn : Psn) : Event :=
  .receive { opcode := .ack, psn := psn }

/-- Two packets are sent again after a timeout before the delayed acknowledgement arrives. -/
theorem go_back_n_consistent_timeout : ∃ context, Consistent oneByte context ∧
    context.nextOpIndex = 0 ∧ context.completed.length = 1 := by
  have tested : (Runs.execute attemptSteady
      [writeOf 2, .tick 1, .transmit .request, .transmit .request, .tick 100, .retransmissionTimer,
        .transmit .request, .transmit .request, ackOf 1] newQueuePair).any (fun context =>
          decide (context.nextOpIndex = 0 ∧ context.completed.length = 1)) = true := by
    decide +kernel
  obtain ⟨context, reached, holds⟩ :=
    Runs.reached_with steady_of_attempt initial_new_queue_pair tested
  exact ⟨context, go_back_n_consistent reached, of_decide_eq_true holds⟩

/-- The result of an event, if it is possible. -/
def attemptAny (context : QpContext) (event : Event) : Option QpContext :=
  Runs.attempt (context.Possible event) (context.perform oneByte event)

theorem step_of_attempt_any (context : QpContext) (event : Event) (next : QpContext)
    (done : attemptAny context event = some next) : Step oneByte context next :=
  ⟨event, Runs.attempt_eq_some.1 done⟩

/-- When the acknowledgement of a packet arrives after the timeout that has it sent again, the index
falls below zero, and the next packet is made from outside of the send queue. -/
theorem delayed_ack_inconsistent : ∃ context, Runs.Reachable Initial (Step oneByte) context ∧
    ¬ Consistent oneByte context ∧ context.isRequestQueueActive = true ∧
    context.createRequestPacket oneByte = .error .indexOutOfRange := by
  have tested : (Runs.execute attemptAny
      [writeOf 1, .tick 1, .transmit .request, .tick 100, .retransmissionTimer, ackOf 0]
      newQueuePair).any (fun context => decide (context.sendQueue.length < context.nextOpIndex.toNat ∧
          context.isRequestQueueActive = true ∧ context.sendQueue = [])) = true := by
    decide +kernel
  obtain ⟨context, reached, holds⟩ :=
    Runs.reached_with step_of_attempt_any initial_new_queue_pair tested
  obtain ⟨outside, active, empty⟩ := of_decide_eq_true holds
  refine ⟨context, reached, fun consistent => ?_, active, ?_⟩
  · have inside := consistent.index
    omega
  · unfold createRequestPacket
    rw [empty]
    rfl

end Isekai.RoceConsistency
