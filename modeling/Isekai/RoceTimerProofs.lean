import Isekai.RoceConsistency

/-! The retransmission timer of a queue pair. While packets are outstanding, there is something to
send or a timer event that will be accepted, in every run that is in step and in which the response
to the last read does not stop the timer before the last of its packets. -/

namespace Isekai.RoceTimerProofs
open Outcomes Roce Roce.QpContext RoceNumbering RoceGoBackN RoceConsistency

variable {config : Config} {context : QpContext}
variable {op : RdmaOp}

/-- The event of a timer that was started is pending. -/
def Armed (context : QpContext) : Prop :=
  context.rtoTriggerTime + context.retxTimeout ∈ context.rtoEvents

/-- What is outstanding is sent again sooner or later. -/
def Recovers (context : QpContext) : Prop :=
  context.oldestUnacknowledgedPsn ≠ context.maxPsn →
    context.isRequestQueueActive = true ∨ Armed context

/-- The timer events are still to come. -/
structure Timed (context : QpContext) : Prop where
  positive : 0 < context.retxTimeout
  pending : ∀ due ∈ context.rtoEvents, context.now ≤ due

/-- The last sequence number for which an acknowledgement was requested is one of the last
operation, and its last one unless this is a read. -/
def Highest (context : QpContext) : Prop :=
  ∀ op ∈ context.sendQueue.getLast?,
    psnBetween context.highestPsnWithAckReq op.psn op.endPsn = true ∧
      (op.opcode ≠ .read → context.highestPsnWithAckReq = op.endPsn)

/-- The state of the timer. Once everything is sent, it depends on `highestPsnWithAckReq`. -/
structure Watched (context : QpContext) : Prop extends Timed context where
  started : context.rtoTriggerTime ≠ 0 → Armed context
  recovers : Recovers context
  highest : context.isRequestQueueActive = false → Highest context

theorem Watched.same (watched : Watched context) {after : QpContext}
    (same : requester after = requester context) : Watched after := by
  have queue := congrArg Requester.sendQueue same
  have oldestPsn := congrArg Requester.oldestUnacknowledgedPsn same
  have maxPsn := congrArg Requester.maxPsn same
  have highest := congrArg Requester.highestPsnWithAckReq same
  have active := congrArg Requester.isRequestQueueActive same
  have timeout := congrArg Requester.retxTimeout same
  have trigger := congrArg Requester.rtoTriggerTime same
  have events := congrArg Requester.rtoEvents same
  have now := congrArg Requester.now same
  simp only [requester] at queue oldestPsn maxPsn highest active timeout trigger events now
  obtain ⟨⟨positive, pending⟩, started, recovers, last⟩ := watched
  unfold Recovers Armed at recovers
  unfold Armed at started
  unfold Highest at last
  refine ⟨⟨?_, ?_⟩, ?_, ?_, ?_⟩
  · rwa [timeout]
  · rwa [events, now]
  · unfold Armed
    rwa [trigger, timeout, events]
  · unfold Recovers Armed
    rwa [oldestPsn, maxPsn, active, trigger, timeout, events]
  · unfold Highest
    rwa [active, queue, highest]

theorem armed_setup (positive : 0 < context.retxTimeout) : Armed context.setupRto := by
  unfold Armed setupRto
  rw [if_pos (by omega)]
  simp

theorem highest_setup : Highest context.setupRto ↔ Highest context := by
  unfold Highest setupRto
  split_ifs <;> rfl

theorem timed_setup (timed : Timed context) : Timed context.setupRto := by
  have positive : context.retxTimeout ≠ 0 := by
    have := timed.positive
    omega
  unfold setupRto
  rw [if_pos positive]
  refine ⟨timed.positive, fun due member => ?_⟩
  rcases List.mem_append.1 member with old | new
  · exact timed.pending due old
  · rw [List.mem_singleton.1 new]
    have := timed.positive
    change context.now ≤ context.now + context.retxTimeout
    omega

/-- A timer that is stopped covers what is outstanding if it is started again, if there is something
to send, or if an event is pending that a stopped timer accepts. -/
theorem reset_watched (timed : Timed context)
    (highest : context.isRequestQueueActive = false → Highest context)
    (covered : context.oldestUnacknowledgedPsn ≠ context.maxPsn →
      context.isRequestQueueActive = true ∨
        context.psnIsValidAtInitiator context.highestPsnWithAckReq = true ∨
        context.retxTimeout ∈ context.rtoEvents) : Watched context.resetRto := by
  unfold resetRto
  dsimp only
  split_ifs with valid
  · have stopped : Timed { context with retryCounter := 0 }.cancelRto := ⟨timed.1, timed.2⟩
    have armed := armed_setup stopped.positive
    have same := same_setup_rto { context with retryCounter := 0 }.cancelRto
    refine ⟨timed_setup stopped, fun _ => armed, fun _ => .inr armed, fun inactive => ?_⟩
    exact highest_setup.2 (highest (same.active.symm.trans inactive))
  · refine ⟨⟨timed.1, timed.2⟩, fun started => absurd rfl started, fun outstanding => ?_, highest⟩
    rcases covered outstanding with active | still | event
    · exact .inl active
    · exact absurd still valid
    · refine .inr ?_
      unfold Armed cancelRto
      simpa using event

section Steps
variable {first oldest max : Nat} {done todo : List RdmaOp} {next : Nat}

/-- What was sent last is outstanding if everything is sent, unless it is a read of which a part is
acknowledged. -/
theorem highest_valid (based : Based config context first oldest max)
    (sent : max = first + span config context.sendQueue) (highest : Highest context)
    {front : List RdmaOp} (last : context.sendQueue = front ++ [op])
    (whole : op.opcode = .read → oldest ≤ first + span config front) :
    context.psnIsValidAtInitiator context.highestPsnWithAckReq = true := by
  obtain ⟨between, final⟩ := highest op (by simp [last])
  obtain ⟨_, few, psn, endPsn⟩ := based.op_spec last
  have within := based.before_end last
  have positive := packets_pos config op
  rw [last, span_append, span_cons, span_nil] at sent
  by_cases read : op.opcode = .read
  · rw [psn, endPsn] at between
    obtain ⟨number, above, below, same⟩ := (between_iff (by omega) (by omega)).1 between
    have early := whole read
    exact based.valid_iff.2 ⟨number, by omega, by omega, same⟩
  · exact based.valid_iff.2 ⟨_, by omega, by omega, (final read).trans endPsn⟩

/-- Once everything is sent, the next packet is the next free one. -/
theorem all_sent (placed : Placed config context done todo first oldest next max)
    (inactive : context.isRequestQueueActive = false) :
    todo = [] ∧ max = first + span config context.sendQueue ∧ next = max := by
  have none : todo = [] := by
    by_contra some
    have active := placed.active.2 some
    rw [inactive] at active
    cases active
  have posted := placed.posted
  have after := placed.nextAfter
  have covered := placed.nextMax
  rw [placed.queue, none, List.append_nil] at posted ⊢
  exact ⟨rfl, by omega, by omega⟩

theorem outstanding_iff (based : Based config context first oldest max) :
    context.oldestUnacknowledgedPsn ≠ context.maxPsn ↔ oldest < max := by
  have sent := based.sent
  rw [based.oldestPsn, based.maxPsn, ne_eq,
    psn_inj oldest le_rfl (by omega) based.sent based.near]
  omega

/-- The last operation stays the last one when others before it are completed. -/
theorem highest_completing {ops rest : List RdmaOp} (queue : context.sendQueue = ops ++ rest)
    (highest : Highest context) : Highest (completing context ops) := by
  intro op last
  have left : (completing context ops).sendQueue = rest := by simp [completing, queue]
  rw [left] at last
  refine highest op ?_
  rw [queue, List.getLast?_append, last]
  rfl

theorem go_back_stopped (context : QpContext) : context.goBackN.rtoTriggerTime = 0 := by
  unfold goBackN cancelRto
  rfl

theorem rewound_trigger (context : QpContext) :
    (rewound context).rtoTriggerTime = context.rtoTriggerTime := by
  unfold rewound addWorkQueueToActiveSet setWorkQueueActive
  split_ifs <;> rfl

theorem timed_rewound (timed : Timed context) : Timed (rewound context) := by
  unfold rewound addWorkQueueToActiveSet setWorkQueueActive
  split_ifs <;> exact ⟨timed.1, timed.2⟩

theorem timed_go_back (timed : Timed context) : Timed context.goBackN := by
  unfold goBackN addWorkQueueToActiveSet setWorkQueueActive
  dsimp only
  split_ifs <;> exact ⟨timed.1, timed.2⟩

/-- What starts over has something to send, or there is nothing in the queue. -/
theorem resumed_watched (placed : Placed config context [] todo first oldest next max)
    (timed : Timed context) (stopped : context.rtoTriggerTime = 0) (resetRto : Bool) :
    Watched (if resetRto then context.resetRto else context) := by
  have covered : context.oldestUnacknowledgedPsn ≠ context.maxPsn →
      context.isRequestQueueActive = true := by
    intro outstanding
    rw [outstanding_iff placed.toBased] at outstanding
    rw [placed.active]
    rintro rfl
    have posted := placed.posted
    have begun := placed.begun
    rw [placed.queue, List.append_nil, span_nil] at posted
    omega
  have highest : context.isRequestQueueActive = false → Highest context := by
    intro inactive op last
    obtain ⟨none, _⟩ := all_sent placed inactive
    rw [placed.queue, none] at last
    cases last
  cases resetRto with
  | true =>
    rw [if_pos rfl]
    refine reset_watched timed highest fun outstanding => ?_
    exact .inl (covered outstanding)
  | false =>
    rw [if_neg Bool.false_ne_true]
    refine ⟨timed, fun running => absurd stopped running, fun outstanding => ?_, highest⟩
    exact .inl (covered outstanding)

/-- A state at the start of its queue. -/
theorem stands_at_start (stands : Stands config context) (start : context.nextOpIndex = 0) :
    ∃ todo first oldest next max, Placed config context [] todo first oldest next max := by
  obtain ⟨done, todo, first, oldest, next, max, placed⟩ := stands
  have index := placed.index
  rw [start] at index
  obtain rfl : done = [] := List.length_eq_zero_iff.1 index.symm
  exact ⟨todo, first, oldest, next, max, placed⟩

theorem go_back_start (context : QpContext) : context.goBackN.nextOpIndex = 0 := by
  unfold goBackN cancelRto addWorkQueueToActiveSet setWorkQueueActive
  dsimp only
  split_ifs <;> rfl

theorem went_back_watched (stands : Stands config context.goBackN) (timed : Timed context)
    (resetRto : Bool) :
    Watched (if resetRto then context.goBackN.resetRto else context.goBackN) := by
  obtain ⟨_, _, _, _, _, placed⟩ := stands_at_start stands (go_back_start context)
  exact resumed_watched placed (timed_go_back timed) (go_back_stopped context) resetRto

/-- Operations before the last one are completed, and the timer is reset. -/
theorem completed_watched (placed : Placed config context done todo first oldest next max)
    (watched : Watched context) {ops rest : List RdmaOp} (some : ops ≠ [])
    (queue : context.sendQueue = ops ++ rest)
    (based : Based config (completing context ops) (first + span config ops)
      (Max.max oldest (first + span config ops)) max) :
    Watched (completing context ops).resetRto := by
  have left : (completing context ops).sendQueue = rest := by simp [completing, queue]
  have behind : oldest ≤ first + span config ops := by
    obtain ⟨before, op, rfl⟩ := (List.eq_nil_or_concat' ops).resolve_left some
    have within := placed.before_end (show context.sendQueue = before ++ op :: rest by simp [queue])
    rw [span_append, span_cons, span_nil]
    omega
  refine reset_watched ⟨watched.positive, watched.pending⟩
    (fun inactive => highest_completing queue (watched.highest inactive)) fun outstanding => ?_
  by_cases active : context.isRequestQueueActive = true
  · exact .inl active
  · have inactive : context.isRequestQueueActive = false := by simpa using active
    obtain ⟨_, sent, _⟩ := all_sent placed inactive
    rw [queue, span_append] at sent
    rw [outstanding_iff based] at outstanding
    rcases List.eq_nil_or_concat' rest with rfl | ⟨front, op, rfl⟩
    · rw [span_nil] at sent
      omega
    · refine .inr (.inl (highest_valid based ?_ ?_ left fun _ => ?_))
      · rw [left]
        omega
      · exact highest_completing queue (watched.highest inactive)
      · rw [Nat.max_eq_right behind]
        omega

theorem ack_watched (placed : Placed config context done todo first oldest next max)
    (watched : Watched context) {packet : Packet} (inStep : AckInStep context packet) :
    Ensures (context.processRxAck packet) fun (after, resetRto) =>
      Watched (if resetRto then after.resetRto else after) := by
  by_cases valid : context.psnIsValidAtInitiator packet.psn = true
  · obtain ⟨number, rest, same, above, below, queue, reached, based, outstanding, ahead⟩ :=
      acked_based placed.toBased valid
    refine ((ack_outcome placed.toBased queue).and (ack_stands placed inStep)).mono ?_
    rintro ⟨after, resetRto⟩ ⟨outcome, stands⟩
    cases outcome with
    | ignored => exact watched
    | completed plain stops =>
      by_cases none : ackedBy context packet.psn = []
      · simpa [none, acknowledged, completing_nil] using watched
      · simpa [none, acknowledged] using completed_watched placed watched none queue based
    | advanced op more plain split data valid =>
      have left : (acknowledged context packet.psn).sendQueue = op :: more :=
        (acknowledged_queue queue).trans split
      have within := ahead op more split data
      have further : Based config (acknowledgedTo context packet.psn)
          (first + span config (ackedBy context packet.psn)) (number + 1) max := by
        refine based.advance left (outstanding valid) below within rfl rfl rfl ?_
        show psnAdd packet.psn 1 = _
        rw [same, psn_add_one]
      have last (inactive : context.isRequestQueueActive = false) :
          Highest (acknowledgedTo context packet.psn) :=
        highest_completing queue (watched.highest inactive)
      refine reset_watched ⟨watched.positive, watched.pending⟩ last fun unfinished => ?_
      by_cases active : context.isRequestQueueActive = true
      · exact .inl active
      · have inactive : context.isRequestQueueActive = false := by simpa using active
        obtain ⟨_, sent, _⟩ := all_sent placed inactive
        have still : (acknowledgedTo context packet.psn).sendQueue = op :: more := left
        rw [queue, split, span_append] at sent
        rcases List.eq_nil_or_concat' more with rfl | ⟨front, other, rfl⟩
        · refine .inr (.inl (highest_valid further ?_ (last inactive)
            (show (acknowledgedTo context packet.psn).sendQueue = [] ++ [op] from still)
            fun read => absurd read data))
          rw [still]
          omega
        · refine .inr (.inl (highest_valid further ?_ (last inactive)
            (show (acknowledgedTo context packet.psn).sendQueue = (op :: front) ++ [other] from
              still) fun _ => ?_))
          · rw [still]
            omega
          · rw [span_cons]
            omega
    | wentBack flag reason => exact went_back_watched stands ⟨watched.positive, watched.pending⟩ _
    | advancedBack op more split data valid =>
      exact went_back_watched stands ⟨watched.positive, watched.pending⟩ _
  · unfold processRxAck
    rw [if_pos (by simpa using valid)]
    exact ensures_ok.2 watched

/-- The response that is expected leaves nothing outstanding, or there is something to send, or the
timer is started again, or an event is pending that a stopped timer accepts. -/
def ResponseCovered (context : QpContext) (packet : Packet) : Prop :=
  packet.psn = oldestAfter context (impliedBy context packet) →
    psnAdd packet.psn 1 = context.maxPsn ∨ context.isRequestQueueActive = true ∨
      psnBetween context.highestPsnWithAckReq (psnAdd packet.psn 1)
        (psnAdd context.maxPsn (-1)) = true ∨
      context.retxTimeout ∈ context.rtoEvents

/-- What a response to the read at the head of the queue leaves of the timer. -/
theorem received_facts (context : QpContext) (psn : Psn) (op : RdmaOp) :
    (received context psn op).oldestUnacknowledgedPsn =
        psnAdd context.oldestUnacknowledgedPsn 1 ∧
      (received context psn op).maxPsn = context.maxPsn ∧
      (received context psn op).isRequestQueueActive = context.isRequestQueueActive ∧
      (received context psn op).highestPsnWithAckReq = context.highestPsnWithAckReq ∧
      (received context psn op).retxTimeout = context.retxTimeout ∧
      (received context psn op).rtoEvents = context.rtoEvents ∧
      (received context psn op).now = context.now ∧
      ((received context psn op).sendQueue = context.sendQueue ∨
        (received context psn op).sendQueue = context.sendQueue.tail) := by
  unfold received completeOpAtHead
  dsimp only
  split_ifs
  · exact ⟨rfl, rfl, rfl, rfl, rfl, rfl, rfl, .inr rfl⟩
  · exact ⟨rfl, rfl, rfl, rfl, rfl, rfl, rfl, .inl rfl⟩

theorem highest_received {psn : Psn} (highest : Highest context) :
    Highest (received context psn op) := by
  obtain ⟨_, _, _, same, _, _, _, queue⟩ := received_facts context psn op
  unfold Highest at highest ⊢
  rw [same]
  intro other last
  refine highest other ?_
  rcases queue with whole | shorter
  · rwa [whole] at last
  · rw [shorter] at last
    generalize context.sendQueue = ops at last ⊢
    rcases ops with _ | ⟨head, _ | ⟨next, more⟩⟩
    · cases last
    · cases last
    · exact last

theorem received_watched {psn : Psn} (timed : Timed context)
    (highest : context.isRequestQueueActive = false → Highest context)
    (inOrder : psn = context.oldestUnacknowledgedPsn)
    (covered : psnAdd psn 1 = context.maxPsn ∨ context.isRequestQueueActive = true ∨
      psnBetween context.highestPsnWithAckReq (psnAdd psn 1) (psnAdd context.maxPsn (-1)) = true ∨
      context.retxTimeout ∈ context.rtoEvents) : Watched (received context psn op).resetRto := by
  have last (inactive : context.isRequestQueueActive = false) :
      Highest (received context psn op) := highest_received (highest inactive)
  obtain ⟨oldestPsn, maxPsn, active, same, timeout, events, now, _⟩ := received_facts context psn op
  rw [← inOrder] at oldestPsn
  refine reset_watched ⟨timeout ▸ timed.positive, ?_⟩ (fun inactive => last (active ▸ inactive))
    fun outstanding => ?_
  · rw [events, now]
    exact timed.pending
  · rw [oldestPsn, maxPsn] at outstanding
    rw [active, timeout, events]
    unfold psnIsValidAtInitiator
    rw [oldestPsn, maxPsn, same]
    rcases covered with none | running | ahead | event
    · exact absurd none outstanding
    · exact .inl running
    · refine .inr (.inl ?_)
      exact Bool.and_eq_true_iff.2 ⟨bne_iff_ne.2 outstanding, ahead⟩
    · exact .inr (.inr event)

theorem response_watched (placed : Placed config context done todo first oldest next max)
    (watched : Watched context) {packet : Packet} (inStep : ResponseInStep context packet)
    (covered : ResponseCovered context packet) :
    Ensures ((completing context (impliedBy context packet)).processReadResponse packet.psn
      (!(impliedBy context packet).isEmpty)) fun (after, resetRto) =>
        Watched (if resetRto then after.resetRto else after) := by
  obtain ⟨rest, queue, reached, _⟩ := implied_spec placed.toBased packet
  have based := placed.toBased.complete queue reached
  have timed : Timed (completing context (impliedBy context packet)) :=
    ⟨watched.positive, watched.pending⟩
  refine ((response_outcome packet.psn _).and (response_stands placed inStep _)).mono ?_
  rintro ⟨after, resetRto⟩ ⟨outcome, stands⟩
  cases outcome with
  | expected op more inOrder split read =>
    refine received_watched timed (fun inactive => ?_) inOrder (covered inOrder)
    exact highest_completing queue (watched.highest inactive)
  | wentBack other valid fresh =>
    exact went_back_watched stands ⟨watched.positive, watched.pending⟩ _
  | ignored other retried =>
    by_cases none : impliedBy context packet = []
    · simpa [none, completing_nil] using watched
    · simpa [none] using completed_watched placed watched none queue based

end Steps

/-! ## Runs -/

/-- No read response leaves something outstanding that the timer does not cover. -/
def ReceiveCovered (context : QpContext) (packet : Packet) : Prop :=
  match packet.opcode with
  | .readResponseFirst | .readResponseMiddle | .readResponseLast | .readResponseOnly =>
    ResponseCovered context packet
  | _ => True

def Covered (context : QpContext) : Event → Prop
  | .receive packet => ReceiveCovered context packet
  | _ => True

/-- A step that is in step and covered. -/
def CoveredStep (config : Config) (before after : QpContext) : Prop :=
  ∃ event, before.Possible event ∧ InStep config before event ∧ Covered before event ∧
    before.perform config event = .ok after

theorem receive_watched (kept : Kept config context) (watched : Watched context) {packet : Packet}
    (inStep : ReceiveInStep context packet) (covered : Covered context (.receive packet)) :
    Ensures (context.processRxPacket config packet) Watched := by
  obtain ⟨responds, done, todo, first, oldest, next, max, placed⟩ := kept
  have finish (outcome : Except Fault (QpContext × Bool))
      (stays : Ensures outcome fun (after, resetRto) =>
        Watched (if resetRto then after.resetRto else after)) :
      Ensures (outcome.map fun (after, resetRto) => if resetRto then after.resetRto else after)
        Watched := ensures_map.2 stays
  refine finish _ ?_
  unfold ReceiveInStep at inStep
  unfold Covered ReceiveCovered at covered
  cases opcode : packet.opcode with
  | ack =>
    simp only [opcode] at inStep ⊢
    exact ack_watched placed watched inStep
  | readRequest => exact ensures_ok.2 (watched.same (requester_process_read_request context packet))
  | writeFirst | writeMiddle | writeLast | writeOnly =>
    exact ensures_ok.2 (watched.same (process_write_leaves context packet).1)
  | readResponseFirst | readResponseOnly =>
    simp only [opcode] at inStep covered ⊢
    rw [complete_op_till_eq placed.toBased]
    have implied : impliedBy context packet = ackedBy context (psnAdd packet.psn (-1)) := by
      simp only [impliedBy, opcode]
    exact implied ▸ response_watched placed watched inStep covered
  | readResponseMiddle | readResponseLast =>
    simp only [opcode] at inStep covered ⊢
    have implied : impliedBy context packet = [] := by
      simp only [impliedBy, opcode]
    have outcome := response_watched placed watched inStep covered
    rw [implied, completing_nil] at outcome
    exact outcome
  | sendFirst | sendMiddle | sendLast | sendOnly | congestionNotification =>
    exact ensures_ok.2 watched

theorem rto_watched (kept : Kept config context) (watched : Watched context)
    (inStep : context.now - context.rtoTriggerTime = context.retxTimeout → Resumes context) :
    Ensures context.handleRto Watched := by
  obtain ⟨responds, done, todo, first, oldest, next, max, placed⟩ := kept
  have pending : ∀ due ∈ context.rtoEvents.erase context.now, context.now ≤ due :=
    fun due member => watched.pending due (List.mem_of_mem_erase member)
  unfold handleRto
  refine ensures_ite (fun due => ?_) fun early => ensures_ok.2 ?_
  · refine ensures_ite (fun _ => ensures_ok.2 ?_) fun _ => ensures_error
    let fired := { context with
      rtoEvents := context.rtoEvents.erase context.now
      rtoTriggerTime := 0 }
    have based : Based config fired first oldest max :=
      placed.toBased.same ⟨rfl, rfl, rfl, rfl, rfl, rfl, rfl⟩
    have again := rewound_placed based (inStep due)
    have timed : Timed fired := ⟨watched.positive, pending⟩
    have resumed := resumed_watched again (timed_rewound timed) (rewound_trigger fired) false
    rw [if_neg Bool.false_ne_true] at resumed
    refine resumed.same ?_
    rfl
  · have still (armed : Armed context) :
        Armed { context with rtoEvents := context.rtoEvents.erase context.now } := by
      refine (List.mem_erase_of_ne fun same => early ?_).2 armed
      change context.rtoTriggerTime + context.retxTimeout = context.now at same
      change context.now - context.rtoTriggerTime = context.retxTimeout
      omega
    refine ⟨⟨watched.positive, pending⟩, fun started => still (watched.started started),
      fun outstanding => (watched.recovers outstanding).imp_right still, watched.highest⟩

/-- A request starts the timer unless it runs already. -/
theorem start_armed (timed : Timed context)
    (started : context.rtoTriggerTime ≠ 0 → Armed context)
    (valid : context.psnIsValidAtInitiator context.highestPsnWithAckReq = true) :
    Timed context.startRto ∧ Armed context.startRto := by
  unfold startRto
  by_cases stopped : context.rtoTriggerTime = 0
  · rw [if_pos ⟨stopped, valid⟩]
    exact ⟨timed_setup timed, armed_setup timed.positive⟩
  · rw [if_neg fun both => stopped both.1]
    exact ⟨timed, started stopped⟩

theorem start_highest : Highest context.startRto ↔ Highest context := by
  unfold startRto
  split_ifs
  · exact highest_setup
  · rfl

/-- The last packet of the last operation was sent last, or a part of it if it is a read. -/
theorem advanced_highest {done more : List RdmaOp} {first oldest next max : Nat}
    (placed : Placed config context done (op :: more) first oldest next max)
    (finished : (context.advanceRequest op).hasMoreWork .request = false) :
    Highest (context.advanceRequest op) := by
  have within := next_within placed
  have index := placed.index
  have bound : (context.nextOpIndex + 1).toNat ≤ context.nextOpIndex.toNat + 1 := by
    rw [UInt32.toNat_add]
    exact Nat.mod_le _ _
  have length : context.sendQueue.length = done.length + (more.length + 1) := by
    rw [placed.queue, List.length_append, List.length_cons]
  have last (alone : more = []) : ∀ other ∈ context.sendQueue.getLast?, other = op := by
    rw [placed.queue, alone, List.getLast?_concat]
    rintro other ⟨⟩
    rfl
  unfold hasMoreWork advanceRequest at finished
  unfold Highest advanceRequest
  by_cases read : op.opcode = .read
  · simp only [read, if_true, decide_eq_false_iff_not, not_lt] at finished ⊢
    intro other member
    rw [last (List.length_eq_zero_iff.1 (by omega)) other member]
    exact ⟨within, fun data => absurd read data⟩
  · by_cases final : context.nextPsn = op.endPsn
    · simp only [read, final, if_true, if_false, decide_eq_false_iff_not, not_lt] at finished ⊢
      intro other member
      rw [last (List.length_eq_zero_iff.1 (by omega)) other member]
      exact ⟨final ▸ within, fun _ => rfl⟩
    · simp only [read, final, if_false, decide_eq_false_iff_not, not_lt] at finished
      omega

theorem transmit_watched (kept : Kept config context) (watched : Watched context)
    (active : context.isRequestQueueActive = true) :
    Ensures (context.runWorkScheduler config .request) Watched := by
  obtain ⟨responds, done, todo, first, oldest, next, max, placed⟩ := kept
  rcases todo with _ | ⟨op, more⟩
  · exact absurd rfl (placed.active.1 active)
  · obtain ⟨packet, created⟩ := placed.create
    obtain ⟨_, _, further, _, onward, advanced⟩ := advanced_placed placed
    unfold runWorkScheduler transmitPacket
    rw [created]
    refine ensures_ok.2 ?_
    let moved := (context.advanceRequest op).enqueuePacket packet
    have ordered := placed.oldestNext
    have covered := advanced.nextMax
    have valid : moved.psnIsValidAtInitiator moved.highestPsnWithAckReq = true := by
      have highest : moved.highestPsnWithAckReq = context.nextPsn := by
        unfold moved enqueuePacket advanceRequest
        dsimp only
        split_ifs <;> rfl
      rw [highest]
      exact advanced.valid_iff.2 ⟨next, ordered, by omega, placed.nextPsn⟩
    have same : moved.retxTimeout = context.retxTimeout ∧ moved.rtoEvents = context.rtoEvents ∧
        moved.now = context.now ∧ moved.rtoTriggerTime = context.rtoTriggerTime := by
      unfold moved enqueuePacket advanceRequest
      dsimp only
      split_ifs <;> exact ⟨rfl, rfl, rfl, rfl⟩
    obtain ⟨timeout, events, now, trigger⟩ := same
    have timed : Timed moved := by
      refine ⟨timeout ▸ watched.positive, ?_⟩
      rw [events, now]
      exact watched.pending
    have started : moved.rtoTriggerTime ≠ 0 → Armed moved := by
      unfold Armed
      rw [trigger, timeout, events]
      exact watched.started
    obtain ⟨timedStart, armed⟩ := start_armed timed started valid
    refine ⟨⟨timedStart.1, timedStart.2⟩, fun _ => armed, fun _ => .inr armed, fun inactive => ?_⟩
    have finished : (context.advanceRequest op).hasMoreWork .request = false := by
      have same := same_start_rto moved
      have inactive : moved.startRto.hasMoreWork .request = false := inactive
      simp only [hasMoreWork, same.index, same.queue] at inactive
      exact inactive
    exact start_highest.2 (advanced_highest placed finished)

theorem post_watched (kept : Kept config context) (watched : Watched context)
    (numbers : Numbers config context op) : Watched (context.postOp config op) := by
  obtain ⟨responds, done, todo, first, oldest, next, max, placed⟩ := kept
  obtain ⟨more, added, posted⟩ := posted_placed placed numbers
  by_cases receives : op.opcode = .recv
  · refine watched.same ?_
    unfold postOp
    rw [if_pos receives]
    rfl
  · have active : (context.postOp config op).isRequestQueueActive = true :=
      posted.active.2 fun none => added receives (List.append_eq_nil_iff.1 none).2
    have same : (context.postOp config op).retxTimeout = context.retxTimeout ∧
        (context.postOp config op).rtoEvents = context.rtoEvents ∧
        (context.postOp config op).now = context.now ∧
        (context.postOp config op).rtoTriggerTime = context.rtoTriggerTime := by
      unfold postOp addWorkQueueToActiveSet setWorkQueueActive
      dsimp only
      split_ifs <;> exact ⟨rfl, rfl, rfl, rfl⟩
    obtain ⟨timeout, events, now, trigger⟩ := same
    refine ⟨⟨timeout ▸ watched.positive, ?_⟩, ?_, fun _ => .inl active, fun inactive => ?_⟩
    · rw [events, now]
      exact watched.pending
    · unfold Armed
      rw [trigger, timeout, events]
      exact watched.started
    · rw [active] at inactive
      cases inactive

theorem watched_step {before after : QpContext} (kept : Kept config before)
    (watched : Watched before) (step : CoveredStep config before after) : Watched after := by
  obtain ⟨event, possible, inStep, covered, performed⟩ := step
  cases event with
  | post op =>
    cases performed
    exact post_watched kept watched inStep
  | transmit workType =>
    cases workType with
    | request => exact transmit_watched kept watched possible after performed
    | response =>
      have sent : Ensures (before.runWorkScheduler config .response) Watched :=
        ensures_map.2 ((requester_transmit_response before).mono fun _ same => watched.same same)
      exact sent after performed
  | receive packet => exact receive_watched kept watched inStep covered after performed
  | retransmissionTimer => exact rto_watched kept watched inStep after performed
  | ackCoalescingTimer =>
    cases performed
    exact watched.same (ack_timer_leaves before).1
  | tick duration =>
    cases performed
    refine ⟨⟨watched.positive, fun due member => ?_⟩, watched.started, watched.recovers,
      watched.highest⟩
    exact possible.2 due (List.mem_append_left _ member)

/-- A new queue pair that sends again what is not acknowledged. -/
def Retransmitting (context : QpContext) : Prop :=
  Initial context ∧ context.retxTimeout ≠ 0

theorem kept_watched (reached : Runs.Reachable Retransmitting (CoveredStep config) context) :
    Kept config context ∧ Watched context := by
  apply Runs.invariant_of_reachable _ _ reached
  · rintro state ⟨initial, runs⟩
    refine ⟨kept_initial initial, ?_⟩
    obtain ⟨retxTimeout, ackCoalescingTimeout, ackCoalescingThreshold, low, _, rfl⟩ := initial
    refine ⟨⟨?_, ?_⟩, ?_, ?_, ?_⟩
    · change retxTimeout ≠ 0 at runs
      change 0 < retxTimeout
      omega
    · rintro due ⟨⟩
    · exact fun started => absurd rfl started
    · exact fun outstanding => absurd rfl outstanding
    · rintro _ op ⟨⟩
  · rintro before after ⟨kept, watched⟩ step
    have steady : SteadyStep config before after := by
      obtain ⟨event, possible, inStep, _, performed⟩ := step
      exact ⟨event, possible, inStep, performed⟩
    exact ⟨kept_step kept steady, watched_step kept watched step⟩

/-- In every run whose steps are in step and covered, while something is outstanding there is a
packet to send, or a timer event is pending that will be accepted. -/
theorem outstanding_recovers (reached : Runs.Reachable Retransmitting (CoveredStep config) context)
    (outstanding : context.oldestUnacknowledgedPsn ≠ context.maxPsn) :
    (context.isRequestQueueActive = true ∧
        context.nextOpIndex.toNat < context.sendQueue.length) ∨
      ∃ due ∈ context.rtoEvents, context.now ≤ due ∧
        due - context.rtoTriggerTime = context.retxTimeout := by
  obtain ⟨kept, watched⟩ := kept_watched reached
  rcases watched.recovers outstanding with active | armed
  · obtain ⟨_, done, todo, _, _, _, _, placed⟩ := kept
    refine .inl ⟨active, ?_⟩
    have some := List.length_pos_iff.2 (placed.active.1 active)
    rw [placed.index, placed.queue, List.length_append]
    omega
  · exact .inr ⟨_, armed, watched.pending _ armed, by omega⟩

/-! ## Examples -/

instance (context : QpContext) (packet : Packet) : Decidable (ResponseCovered context packet) :=
  inferInstanceAs (Decidable (_ = _ → _))

instance (context : QpContext) (packet : Packet) : Decidable (ReceiveCovered context packet) := by
  delta ReceiveCovered
  exact match packet.opcode with
  | .readResponseFirst | .readResponseMiddle | .readResponseLast | .readResponseOnly =>
    inferInstanceAs (Decidable (ResponseCovered context packet))
  | .sendFirst | .sendMiddle | .sendLast | .sendOnly | .writeFirst | .writeMiddle | .writeLast
  | .writeOnly | .readRequest | .ack | .congestionNotification => .isTrue trivial

instance (context : QpContext) : (event : Event) → Decidable (Covered context event)
  | .receive packet => inferInstanceAs (Decidable (ReceiveCovered context packet))
  | .post _ | .transmit _ | .retransmissionTimer | .ackCoalescingTimer | .tick _ => .isTrue trivial

/-- The result of an event, if it is possible, in step and covered. -/
def attemptCovered (context : QpContext) (event : Event) : Option QpContext :=
  Runs.attempt (context.Possible event ∧ InStep oneByte context event ∧ Covered context event)
    (context.perform oneByte event)

theorem covered_of_attempt (context : QpContext) (event : Event) (next : QpContext)
    (done : attemptCovered context event = some next) : CoveredStep oneByte context next := by
  obtain ⟨⟨possible, inStep, covered⟩, performed⟩ := Runs.attempt_eq_some.1 done
  exact ⟨event, possible, inStep, covered, performed⟩

/-- A read of two packets. -/
def readOfTwo : Event :=
  .post { opcode := .read, length := 2, completionCallback := 0 }

/-- The first packet of the response to it. -/
def firstResponse : Event :=
  .receive { opcode := .readResponseFirst, psn := 0, payloadLength := 1 }

theorem retransmitting_new_queue_pair : Retransmitting newQueuePair :=
  ⟨initial_new_queue_pair, by decide⟩

/-- After a write and its first acknowledgement, the timer runs for the rest. -/
theorem outstanding_recovers_write : ∃ context : QpContext,
    ((context.isRequestQueueActive = true ∧
        context.nextOpIndex.toNat < context.sendQueue.length) ∨
      ∃ due ∈ context.rtoEvents, context.now ≤ due ∧
        due - context.rtoTriggerTime = context.retxTimeout) ∧
    context.isRequestQueueActive = false ∧ context.rtoTriggerTime = 5 := by
  have tested : (Runs.execute attemptCovered
      [writeOf 2, .tick 1, .transmit .request, .transmit .request, .tick 4, ackOf 0]
      newQueuePair).any (fun context =>
        decide (context.oldestUnacknowledgedPsn ≠ context.maxPsn ∧
          context.isRequestQueueActive = false ∧ context.rtoTriggerTime = 5)) = true := by
    decide +kernel
  obtain ⟨context, reached, holds⟩ :=
    Runs.reached_with covered_of_attempt retransmitting_new_queue_pair tested
  obtain ⟨outstanding, idle⟩ := of_decide_eq_true holds
  exact ⟨context, outstanding_recovers reached outstanding, idle⟩

/-- When the first packet of the response to a read arrives and the second one is lost, nothing is
ever sent again. -/
theorem lost_read_response_stuck : ∃ context : QpContext,
    Runs.Reachable Retransmitting (Step oneByte) context ∧
    context.oldestUnacknowledgedPsn ≠ context.maxPsn ∧ context.isRequestQueueActive = false ∧
    ∀ due ∈ context.rtoEvents, due - context.rtoTriggerTime ≠ context.retxTimeout := by
  have tested : (Runs.execute attemptAny
      [readOfTwo, .tick 1, .transmit .request, .tick 4, firstResponse] newQueuePair).any
        (fun context => decide (context.oldestUnacknowledgedPsn ≠ context.maxPsn ∧
          context.isRequestQueueActive = false ∧
          ∀ due ∈ context.rtoEvents, due - context.rtoTriggerTime ≠ context.retxTimeout)) = true := by
    decide +kernel
  obtain ⟨context, reached, holds⟩ :=
    Runs.reached_with step_of_attempt_any retransmitting_new_queue_pair tested
  exact ⟨context, reached, of_decide_eq_true holds⟩

end Isekai.RoceTimerProofs
