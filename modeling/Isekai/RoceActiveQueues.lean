import Isekai.RoceConsistency

/-! The active work queues of a queue pair. Whatever happens to a queue pair, a work queue that has
work is active, and only the work scheduler makes one inactive. -/

namespace Isekai.RoceActiveQueues
open Outcomes Roce Roce.QpContext RoceConsistency

variable {config : Config} {context after : QpContext}

/-- Every work queue that has work is active. -/
def Busy (context : QpContext) : Prop :=
  ∀ workType, context.hasMoreWork workType = true → context.isWorkQueueActive workType = true

/-- What an event of a queue pair keeps: active work queues, and that those with work are active. -/
structure Serves (before after : QpContext) : Prop where
  stays : ∀ workType, before.isWorkQueueActive workType = true →
    after.isWorkQueueActive workType = true
  busy : Busy before → Busy after

/-- The part of the state that says which work queues have work and which are active. -/
def work (context : QpContext) : (List RdmaOp × UInt32 × Bool) × List InboundReadRequest × Bool :=
  ((context.sendQueue, context.nextOpIndex, context.isRequestQueueActive), responder context)

theorem has_more_work_eq (same : work after = work context) (workType : WorkType) :
    after.hasMoreWork workType = context.hasMoreWork workType := by
  obtain ⟨request, response⟩ := Prod.mk.inj same
  obtain ⟨queue, index, -⟩ := by simpa using request
  obtain ⟨inbound, -⟩ := Prod.mk.inj response
  cases workType with
  | request =>
    unfold hasMoreWork
    rw [queue, index]
  | response =>
    unfold hasMoreWork
    rw [inbound]

theorem is_active_eq (same : work after = work context) (workType : WorkType) :
    after.isWorkQueueActive workType = context.isWorkQueueActive workType := by
  obtain ⟨request, response⟩ := Prod.mk.inj same
  obtain ⟨-, -, requests⟩ := by simpa using request
  obtain ⟨-, responses⟩ := Prod.mk.inj response
  cases workType with
  | request => exact requests
  | response => exact responses

theorem work_of_parts (requests : requester after = requester context)
    (responses : responder after = responder context) : work after = work context := by
  have same := same_of_requester requests
  unfold work
  rw [same.queue, same.index, same.active, responses]

theorem work_of_same (requests : RoceGoBackN.SameRequester context after)
    (responses : responder after = responder context) : work after = work context := by
  unfold work
  rw [requests.queue, requests.index, requests.active, responses]

namespace Serves

theorem refl (context : QpContext) : Serves context context :=
  ⟨fun _ active => active, fun busy => busy⟩

theorem trans {middle : QpContext} (one : Serves context middle) (two : Serves middle after) :
    Serves context after :=
  ⟨fun workType active => two.stays workType (one.stays workType active),
    fun busy => two.busy (one.busy busy)⟩

theorem of_same (same : work after = work context) : Serves context after := by
  constructor
  · intro workType active
    rw [is_active_eq same]
    exact active
  · intro busy workType more
    rw [has_more_work_eq same] at more
    rw [is_active_eq same]
    exact busy workType more

/-- A request work queue is put into the active set when it may have got more work. -/
theorem activate_request (stays : context.isRequestQueueActive = true →
      after.isRequestQueueActive = true)
    (responses : responder after = responder context) :
    Serves context (after.addWorkQueueToActiveSet .request) := by
  obtain ⟨inbound, active⟩ := Prod.mk.inj responses
  unfold addWorkQueueToActiveSet
  split_ifs with none_left
  · constructor
    · intro workType
      cases workType with
      | request => exact stays
      | response =>
        unfold isWorkQueueActive
        rw [active]
        exact id
    · intro busy workType more
      cases workType with
      | request => exact absurd (of_decide_eq_true more) (not_lt.2 none_left.1)
      | response =>
        unfold hasMoreWork at more
        dsimp only at more
        rw [none_left.2] at more
        cases more
  · constructor
    · intro workType
      cases workType with
      | request => exact fun _ => rfl
      | response =>
        unfold isWorkQueueActive setWorkQueueActive
        dsimp only
        rw [active]
        exact id
    · intro busy workType more
      cases workType with
      | request => rfl
      | response =>
        have before := busy .response
        unfold hasMoreWork isWorkQueueActive setWorkQueueActive at *
        dsimp only at *
        rw [inbound] at more
        rw [active]
        exact before more

/-- The head of the send queue goes, and the index moves with it. -/
theorem complete (context : QpContext) : Serves context context.completeOpAtHead := by
  constructor
  · intro workType active
    cases workType <;> exact active
  · intro busy workType more
    cases workType with
    | response => exact busy .response more
    | request =>
      apply busy .request
      apply decide_eq_true
      have left : (context.nextOpIndex - 1).toNat < context.sendQueue.tail.length :=
        of_decide_eq_true more
      rw [List.length_tail] at left
      -- an index of zero wraps around, with work at the head
      by_cases first : context.nextOpIndex = 0
      · rw [first]
        change 0 < context.sendQueue.length
        omega
      · have moved : (context.nextOpIndex - 1).toNat = context.nextOpIndex.toNat - 1 := by
          apply UInt32.toNat_sub_of_le
          rw [UInt32.le_iff_toNat_le]
          have positive : context.nextOpIndex.toNat ≠ 0 := fun zero =>
            first (UInt32.toNat_inj.1 zero)
          change 1 ≤ context.nextOpIndex.toNat
          omega
        omega

theorem complete_ops (psn : Psn) (ops : List RdmaOp) (context : QpContext) (opCompleted : Bool) :
    Serves context (completeOps psn ops context opCompleted).1 := by
  induction ops generalizing context opCompleted with
  | nil => exact refl context
  | cons op rest ih =>
    unfold completeOps
    split_ifs
    · have moved : Serves context
          { context with oldestUnacknowledgedPsn := psnAdd op.endPsn 1 } := of_same rfl
      exact (moved.trans (complete _)).trans (ih _ _)
    · exact refl context

theorem go_back (context : QpContext) : Serves context context.goBackN := by
  have rewound : Serves context ({ context with
      nextPsn := context.oldestUnacknowledgedPsn
      nextOpIndex := 0 }.addWorkQueueToActiveSet .request) := activate_request id rfl
  refine rewound.trans (of_same ?_)
  unfold goBackN cancelRto work responder
  rfl

/-- The outcome of an acknowledgement or of a response: parts of the above, one after the other. -/
theorem process_ack (context : QpContext) (packet : Packet) :
    Ensures (context.processRxAck packet) fun outcome => Serves context outcome.1 := by
  have completed : Serves context (context.completeOpTillPsn packet.psn).1 :=
    complete_ops packet.psn context.sendQueue context false
  unfold processRxAck
  refine ensures_ite (fun _ => ensures_ok.2 (refl context)) fun _ => ?_
  refine ensures_ite (fun _ => ?_) fun _ => ensures_ok.2 (refl context)
  generalize context.completeOpTillPsn packet.psn = outcome at completed
  obtain ⟨done, resetRto⟩ := outcome
  refine ensures_ite (fun _ => ?_) fun _ => ensures_ok.2 ?_
  · cases done.sendQueue.head? with
    | none => exact ensures_error
    | some op =>
      refine ensures_ite (fun _ => ?_) fun _ => ensures_ok.2 ?_
      · refine ensures_ite (fun _ => ensures_error) fun _ => ?_
        refine ensures_ite (fun _ => ensures_ok.2 ?_) fun _ => ensures_ok.2 completed
        exact completed.trans (go_back done)
      · have acked : Serves context
            { done with oldestUnacknowledgedPsn := psnAdd packet.psn 1 } :=
          completed.trans (of_same rfl)
        dsimp only
        split_ifs
        · exact acked.trans (go_back _)
        · exact acked
  · dsimp only
    split_ifs
    · exact completed.trans (go_back done)
    · exact completed

theorem process_response (context : QpContext) (psn : Psn) (resetRto : Bool) :
    Ensures (context.processReadResponse psn resetRto) fun outcome => Serves context outcome.1 := by
  unfold processReadResponse
  refine ensures_ite (fun _ => ?_) fun _ => ensures_ite (fun _ => ?_) fun _ =>
    ensures_ok.2 (refl context)
  · cases context.sendQueue.head? with
    | none => exact ensures_error
    | some op =>
      refine ensures_ite (fun _ => ensures_ok.2 ?_) fun _ => ensures_error
      have advanced : Serves context { context with
          oldestUnacknowledgedPsn := psnAdd context.oldestUnacknowledgedPsn 1 } := of_same rfl
      dsimp only
      split_ifs
      · exact (advanced.trans (complete _)).trans (of_same rfl)
      · exact advanced.trans (of_same rfl)
  · refine ensures_ite (fun _ => ensures_ok.2 (refl context)) fun _ => ensures_ok.2 ?_
    have retried : Serves context { context with readRetried := true } := of_same rfl
    exact retried.trans (go_back _)

/-- A read request is enqueued, and the response work queue is put into the active set. -/
theorem enqueue_request (requests : requester after = requester context)
    (request : InboundReadRequest) : Serves context (after.enqueueReadRequest request) := by
  have same := same_of_requester ((requester_enqueue_read_request after request).trans requests)
  have responds : (after.enqueueReadRequest request).isResponseQueueActive = true := by
    unfold enqueueReadRequest addWorkQueueToActiveSet setWorkQueueActive
    dsimp only
    split_ifs with first none_left some_left
    · exact absurd none_left.2 (by simp)
    · rfl
    · exact absurd some_left.2 (by simp)
    · rfl
  constructor
  · intro workType active
    cases workType with
    | request =>
      unfold isWorkQueueActive
      rw [same.active]
      exact active
    | response => exact responds
  · intro busy workType more
    cases workType with
    | request =>
      unfold hasMoreWork at more
      unfold isWorkQueueActive
      rw [same.index, same.queue] at more
      rw [same.active]
      exact busy .request more
    | response => exact responds

theorem process_read_request (context : QpContext) (packet : Packet) :
    Serves context (context.processReadRequest config packet) := by
  unfold processReadRequest
  dsimp only
  split_ifs
  · exact enqueue_request (requester_expect_after_read context _) _
  · have dropped : requester (context.dropReadRequests packet.psn) = requester context := rfl
    exact enqueue_request dropped _
  · exact of_same (work_of_parts (transmit_nak_leaves context).1 (transmit_nak_leaves context).2)
  · exact refl context

theorem receive (context : QpContext) (packet : Packet) :
    Ensures (context.processRxPacket config packet) (Serves context) := by
  have finish (outcome : Except Fault (QpContext × Bool))
      (served : Ensures outcome fun made => Serves context made.1) :
      Ensures (outcome.map fun made => if made.2 then made.1.resetRto else made.1)
        (Serves context) := by
    refine ensures_map.2 (served.mono fun made serves => ?_)
    split_ifs
    · exact serves.trans (of_same (work_of_same (same_reset_rto _) (responder_reset_rto _)))
    · exact serves
  apply finish
  cases packet.opcode with
  | ack => exact process_ack context packet
  | readRequest => exact ensures_ok.2 (process_read_request context packet)
  | writeFirst | writeMiddle | writeLast | writeOnly =>
    refine ensures_ok.2 (of_same (work_of_parts ?_ ?_))
    · exact (process_write_leaves context packet).1
    · exact (process_write_leaves context packet).2
  | readResponseFirst | readResponseOnly =>
    have completed : Serves context (context.completeOpTillPsn (psnAdd packet.psn (-1))).1 :=
      complete_ops _ context.sendQueue context false
    exact (process_response _ _ _).mono fun made serves => completed.trans serves
  | readResponseMiddle | readResponseLast => exact process_response context packet.psn false
  | sendFirst | sendMiddle | sendLast | sendOnly | congestionNotification =>
    exact ensures_ok.2 (refl context)

theorem post (context : QpContext) (op : RdmaOp) : Serves context (context.postOp config op) := by
  unfold postOp
  by_cases received : op.opcode = .recv
  · rw [if_pos received]
    exact of_same rfl
  · rw [if_neg received]
    exact activate_request id rfl

theorem timeout (context : QpContext) : Ensures context.handleRto (Serves context) := by
  unfold handleRto
  refine ensures_ite (fun _ => ?_) fun _ => ensures_ok.2 (of_same rfl)
  refine ensures_ite (fun _ => ensures_ok.2 ?_) fun _ => ensures_error
  have rewound : Serves context ({ context with
      rtoEvents := context.rtoEvents.erase context.now
      rtoTriggerTime := 0
      nextPsn := context.oldestUnacknowledgedPsn
      nextOpIndex := 0 }.addWorkQueueToActiveSet .request) := activate_request id rfl
  exact rewound.trans (of_same rfl)

/-- The events of a queue pair that are not the scheduler's. -/
theorem perform (context : QpContext) {event : Event}
    (own : ∀ workType, event ≠ .transmit workType) :
    Ensures (context.perform config event) (Serves context) := by
  cases event with
  | post op => exact ensures_ok.2 (post context op)
  | transmit workType => exact absurd rfl (own workType)
  | receive packet => exact receive context packet
  | retransmissionTimer => exact timeout context
  | ackCoalescingTimer =>
    refine ensures_ok.2 (of_same (work_of_parts ?_ ?_))
    · exact (ack_timer_leaves context).1
    · exact (ack_timer_leaves context).2
  | tick duration => exact ensures_ok.2 (of_same rfl)

end Serves

theorem busy_initial (initial : context.Initial) : Busy context := by
  obtain ⟨retxTimeout, ackCoalescingTimeout, ackCoalescingThreshold, -, -, rfl⟩ := initial
  intro workType more
  cases workType <;> cases more

/-- What is left of one work queue when a packet of the other is sent. -/
def Aside (served : WorkType) (before after : QpContext) : Prop :=
  ∀ workType, workType ≠ served →
    after.hasMoreWork workType = before.hasMoreWork workType ∧
      after.isWorkQueueActive workType = before.isWorkQueueActive workType

theorem transmit_aside (config : Config) (context : QpContext) (served : WorkType) :
    Ensures (context.transmitPacket config served) (Aside served context) := by
  cases served with
  | request =>
    have created : Ensures (context.createRequestPacket config) fun made =>
        responder made.2 = responder context := by
      unfold createRequestPacket
      cases context.sendQueue[context.nextOpIndex.toNat]? with
      | none => exact ensures_error
      | some op =>
        refine ensures_map.2 fun packet _ => ?_
        unfold responder advanceRequest
        dsimp only
        split_ifs <;> rfl
    refine ensures_map.2 (created.mono ?_)
    rintro ⟨packet, after⟩ same workType other
    have whole := (responder_start_rto (after.enqueuePacket packet)).trans same
    obtain ⟨inbound, active⟩ := Prod.mk.inj whole
    cases workType with
    | request => exact absurd rfl other
    | response =>
      unfold hasMoreWork isWorkQueueActive
      rw [← inbound, ← active]
      exact ⟨rfl, rfl⟩
  | response =>
    refine (requester_transmit_response context).mono fun after whole workType other => ?_
    have same := same_of_requester whole
    cases workType with
    | response => exact absurd rfl other
    | request =>
      unfold hasMoreWork isWorkQueueActive
      rw [same.index, same.queue, same.active]
      exact ⟨rfl, rfl⟩

end Isekai.RoceActiveQueues
