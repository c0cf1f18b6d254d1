import Isekai.RoceConsistency

/-! The acknowledgements that a responder owes: of every write packet that asked for one, it was
passed on, or a timer will see to it, or the end of the read requests will. Beside the queue pair
stand the numbers of the write packets that it accepted, without a bound, and the acknowledgements
that it passed on, each with the number that was expected then. -/

namespace Isekai.RoceAckProofs
open Outcomes Roce Roce.QpContext RoceNumbering RoceGoBackN RoceConsistency

variable {config : Config} {context : QpContext}
variable {after : QpContext} {packet : Packet}

/-! ## What the responder owes -/

/-- An ACK or a NAK of a sequence error. -/
def isAnswer (packet : Packet) : Bool :=
  packet.opcode = .ack ∧ (packet.ackType = .ack ∨ isNak packet = true)

/-- The acknowledgements that were passed to the packet builder. -/
def answersOf (context : QpContext) : List Packet :=
  context.sent.filter isAnswer

/-- An acknowledgement is held back. -/
def Promised (context : QpContext) : Prop :=
  0 < context.ackCoalescingCounter ∨ context.ackTriggered = true ∨
    context.nakSequenceErrorTriggered = true

/-- Timers are not overdue, and read requests are being served. -/
structure Timely (context : QpContext) : Prop where
  timeout : 0 ≤ context.ackCoalescingTimeout
  due : ∀ due ∈ context.ackCoalescingEvents, context.now ≤ due
  served : context.inboundReadRequestQueue ≠ [] → context.isResponseQueueActive = true

/-- The counter is below its threshold, and while it counts there is a timer for it. -/
structure Timed (context : QpContext) : Prop extends Timely context where
  below : 0 < context.ackCoalescingCounter →
    context.ackCoalescingCounter < context.ackCoalescingThreshold
  stopped : context.ackCoalescingCounter = 0 → context.ackCoalescingTimerTriggerTime = 0
  timer : 0 < context.ackCoalescingCounter →
    context.ackCoalescingTimerTriggerTime + context.ackCoalescingTimeout ∈
      context.ackCoalescingEvents

/-- What is held back will be passed on: an acknowledgement that is triggered waits for read
requests. -/
structure Guarded (context : QpContext) : Prop extends Timed context where
  waits : context.ackTriggered = true ∨ context.nakSequenceErrorTriggered = true →
    context.inboundReadRequestQueue ≠ []

/-- What becomes of the acknowledgements in a step: one is passed on that names the number before
`expected`, or none is and what is owed is still held back. -/
structure Settles (expected : Psn) (owed : Prop) (before after : QpContext) : Prop where
  guarded : Guarded after
  outcome : (∃ packet, packet.psn = psnAdd expected (-1) ∧
      answersOf after = answersOf before ++ [packet]) ∨
    answersOf after = answersOf before ∧ (owed ∨ Promised before → Promised after)

/-- The part of a queue pair that acknowledgements depend on. -/
structure Acking where
  inboundReadRequestQueue : List InboundReadRequest
  isResponseQueueActive : Bool
  expectedPsn : Psn
  ackTriggered : Bool
  nakSequenceErrorTriggered : Bool
  ackCoalescingTimeout : Int
  ackCoalescingTimerTriggerTime : Int
  ackCoalescingThreshold : UInt32
  ackCoalescingCounter : UInt32
  ackCoalescingEvents : List Int
  now : Int
  answers : List Packet

def acking (context : QpContext) : Acking where
  inboundReadRequestQueue := context.inboundReadRequestQueue
  isResponseQueueActive := context.isResponseQueueActive
  expectedPsn := context.expectedPsn
  ackTriggered := context.ackTriggered
  nakSequenceErrorTriggered := context.nakSequenceErrorTriggered
  ackCoalescingTimeout := context.ackCoalescingTimeout
  ackCoalescingTimerTriggerTime := context.ackCoalescingTimerTriggerTime
  ackCoalescingThreshold := context.ackCoalescingThreshold
  ackCoalescingCounter := context.ackCoalescingCounter
  ackCoalescingEvents := context.ackCoalescingEvents
  now := context.now
  answers := answersOf context

theorem timed_same (timed : Timed context) (same : acking after = acking context) :
    Timed after := by
  injection same with queue active _ _ _ timeout trigger threshold counter events now _
  refine ⟨⟨timeout ▸ timed.timeout, ?_, ?_⟩, ?_, ?_, ?_⟩
  · rw [events, now]
    exact timed.due
  · rw [queue, active]
    exact timed.served
  · rw [counter, threshold]
    exact timed.below
  · rw [counter, trigger]
    exact timed.stopped
  · rw [counter, trigger, timeout, events]
    exact timed.timer

theorem guarded_same (guarded : Guarded context) (same : acking after = acking context) :
    Guarded after := by
  refine ⟨timed_same guarded.toTimed same, ?_⟩
  injection same with queue _ _ acks naks
  rw [acks, naks, queue]
  exact guarded.waits

theorem promised_same (same : acking after = acking context) :
    Promised after ↔ Promised context := by
  injection same with _ _ _ acks naks _ _ _ counter _ _ _
  rw [Promised, Promised, acks, naks, counter]

/-- What does not touch the acknowledgements. -/
theorem settles_same (guarded : Guarded context) (same : acking after = acking context)
    (expected : Psn) : Settles expected False context after := by
  refine ⟨guarded_same guarded same, .inr ⟨congrArg Acking.answers same, fun held => ?_⟩⟩
  exact (promised_same same).2 (held.resolve_left id)

/-! ## The responder -/

theorem answers_enqueue (packet : Packet) :
    answersOf (context.enqueuePacket packet) =
      answersOf context ++ (if isAnswer packet then [packet] else []) := by
  unfold answersOf enqueuePacket
  rw [List.filter_append]
  by_cases answer : isAnswer packet = true <;> simp [answer]

/-- An answer that is passed on while no read request waits. -/
theorem settles_answer (timely : Timely context)
    (waits : context.ackTriggered = true ∨ context.nakSequenceErrorTriggered = true →
      context.inboundReadRequestQueue ≠ []) (counter : context.ackCoalescingCounter = 0)
    (trigger : context.ackCoalescingTimerTriggerTime = 0) {before : QpContext} {expected : Psn}
    (answer : isAnswer packet = true) (named : packet.psn = psnAdd expected (-1)) (owed : Prop)
    (same : answersOf before = answersOf context) :
    Settles expected owed before (context.enqueuePacket packet) := by
  have stopped : ¬0 < context.ackCoalescingCounter := by
    rw [counter]
    decide
  refine ⟨⟨⟨⟨timely.timeout, timely.due, timely.served⟩, fun counts => absurd counts stopped,
    fun _ => trigger, fun counts => absurd counts stopped⟩, waits⟩, .inl ⟨packet, named, ?_⟩⟩
  rw [answers_enqueue, if_pos answer, same]

/-- An answer that read requests hold back. -/
theorem settles_triggered (timely : Timely after) (waits : after.inboundReadRequestQueue ≠ [])
    (counter : after.ackCoalescingCounter = 0) (trigger : after.ackCoalescingTimerTriggerTime = 0)
    {before : QpContext} {expected : Psn} (owed : Prop)
    (same : answersOf after = answersOf before)
    (triggered : after.ackTriggered = true ∨ after.nakSequenceErrorTriggered = true) :
    Settles expected owed before after := by
  have stopped : ¬0 < after.ackCoalescingCounter := by
    rw [counter]
    decide
  exact ⟨⟨⟨timely, fun counts => absurd counts stopped, fun _ => trigger,
    fun counts => absurd counts stopped⟩, fun _ => waits⟩, .inr ⟨same, fun _ => .inr triggered⟩⟩

/-- An acknowledgement is passed on or triggered. -/
theorem transmit_ack_settles (timely : Timely context)
    (naks : context.nakSequenceErrorTriggered = true → context.inboundReadRequestQueue ≠ [])
    (owed : Prop) :
    Settles context.expectedPsn owed context context.transmitAck := by
  unfold transmitAck
  dsimp only
  by_cases none : context.inboundReadRequestQueue = []
  · rw [if_pos (by rw [none]; rfl)]
    apply settles_answer
    · exact ⟨timely.timeout, timely.due, timely.served⟩
    · rintro (triggered | triggered)
      · cases triggered
      · exact naks triggered
    all_goals rfl
  · rw [if_neg (by simpa using none)]
    apply settles_triggered
    · exact ⟨timely.timeout, timely.due, timely.served⟩
    · exact none
    · rfl
    · rfl
    · rfl
    · exact .inl rfl

/-- A NAK is passed on or triggered. -/
theorem transmit_nak_settles (timely : Timely context)
    (acks : context.ackTriggered = true → context.inboundReadRequestQueue ≠ []) (owed : Prop) :
    Settles context.expectedPsn owed context context.transmitNakSequenceError := by
  unfold transmitNakSequenceError
  dsimp only
  by_cases none : context.inboundReadRequestQueue = []
  · rw [if_pos (by rw [none]; rfl)]
    apply settles_answer
    · exact ⟨timely.timeout, timely.due, timely.served⟩
    · rintro (triggered | triggered)
      · exact acks triggered
      · cases triggered
    all_goals rfl
  · rw [if_neg (by simpa using none)]
    apply settles_triggered
    · exact ⟨timely.timeout, timely.due, timely.served⟩
    · exact none
    · rfl
    · rfl
    · rfl
    · exact .inr rfl

/-- A counter below its threshold counts one more. -/
theorem counts_up
    (counter : 0 < context.ackCoalescingCounter →
      context.ackCoalescingCounter < context.ackCoalescingThreshold) :
    0 < context.ackCoalescingCounter + 1 := by
  by_cases counts : 0 < context.ackCoalescingCounter
  · have limit := UInt32.toNat_lt context.ackCoalescingThreshold
    have under := counter counts
    rw [UInt32.lt_iff_toNat_lt] at under ⊢
    rw [UInt32.toNat_add]
    have one : (1 : UInt32).toNat = 1 := rfl
    have zero : (0 : UInt32).toNat = 0 := rfl
    omega
  · have none : context.ackCoalescingCounter = 0 := by
      rw [UInt32.lt_iff_toNat_lt] at counts
      apply UInt32.toNat_inj.1
      have zero : (0 : UInt32).toNat = 0 := rfl
      omega
    rw [none]
    decide

/-- A packet that was accepted: it is acknowledged at once, or counted. -/
theorem generate_settles (guarded : Guarded context) (requested : Bool) :
    Settles context.expectedPsn (requested = true) context
      (context.generateAckOrUpdateCoalescingState requested) := by
  unfold generateAckOrUpdateCoalescingState
  by_cases counts : requested = true ∨ 0 < context.ackCoalescingCounter
  · rw [if_pos counts]
    dsimp only
    by_cases full : context.ackCoalescingThreshold ≤ context.ackCoalescingCounter + 1
    · rw [if_pos full]
      have timely : Timely { context with
          ackCoalescingCounter := context.ackCoalescingCounter + 1 } :=
        ⟨guarded.timeout, guarded.due, guarded.served⟩
      have settles := transmit_ack_settles timely (fun naks => guarded.waits (.inr naks))
        (requested = true ∨ Promised context)
      exact ⟨settles.guarded, settles.outcome.imp id (.imp id fun promised held =>
        promised (.inl held))⟩
    · rw [if_neg full]
      have raised := counts_up guarded.below
      have below : context.ackCoalescingCounter + 1 < context.ackCoalescingThreshold :=
        UInt32.not_le.1 full
      have started : context.ackCoalescingCounter + 1 ≠ 0 := fun none =>
        absurd (none ▸ raised) (UInt32.lt_irrefl _)
      by_cases stopped : context.ackCoalescingTimerTriggerTime = 0
      · rw [if_pos stopped]
        refine ⟨⟨⟨⟨guarded.timeout, ?_, guarded.served⟩, fun _ => below,
          fun none => absurd none started,
          fun _ => List.mem_append_right _ (List.mem_singleton_self _)⟩, guarded.waits⟩,
          .inr ⟨rfl, fun _ => .inl raised⟩⟩
        intro due member
        rcases List.mem_append.1 member with earlier | new
        · exact guarded.due due earlier
        · rw [List.mem_singleton.1 new]
          exact Int.le_add_of_nonneg_right guarded.timeout
      · rw [if_neg stopped]
        have running : 0 < context.ackCoalescingCounter := by
          by_contra none
          exact stopped (guarded.stopped (UInt32.le_zero_iff.1 (UInt32.not_lt.1 none)))
        exact ⟨⟨⟨⟨guarded.timeout, guarded.due, guarded.served⟩, fun _ => below,
          fun none => absurd none started, fun _ => guarded.timer running⟩, guarded.waits⟩,
          .inr ⟨rfl, fun _ => .inl raised⟩⟩
  · rw [if_neg counts]
    exact ⟨guarded, .inr ⟨rfl, fun held => held.resolve_left fun asked => counts (.inl asked)⟩⟩

/-- The number that is expected does not matter to what is held back. -/
theorem guarded_expecting (guarded : Guarded context) (expected : Psn) (sent : Bool) :
    Guarded { context with expectedPsn := expected, nakSequenceErrorSent := sent } :=
  ⟨⟨⟨guarded.timeout, guarded.due, guarded.served⟩, guarded.below, guarded.stopped,
    guarded.timer⟩, guarded.waits⟩

theorem settles_expecting {answered : Psn} {owed : Prop}
    (settles : Settles answered owed context after) (expected : Psn) (sent : Bool) :
    Settles answered owed context
      { after with expectedPsn := expected, nakSequenceErrorSent := sent } :=
  ⟨guarded_expecting settles.guarded expected sent, settles.outcome⟩

/-- A NAK, unless one was sent already. -/
theorem nak_settles (guarded : Guarded context) :
    Settles context.expectedPsn False context
      (if !context.nakSequenceErrorSent then context.transmitNakSequenceError else context) := by
  split_ifs
  · exact transmit_nak_settles guarded.toTimely (fun acks => guarded.waits (.inl acks)) False
  · exact settles_same guarded rfl context.expectedPsn

theorem expected_transmit_ack (context : QpContext) :
    context.transmitAck.expectedPsn = context.expectedPsn := by
  unfold transmitAck enqueuePacket
  dsimp only
  split_ifs <;> rfl

theorem expected_transmit_nak (context : QpContext) :
    context.transmitNakSequenceError.expectedPsn = context.expectedPsn := by
  unfold transmitNakSequenceError enqueuePacket
  dsimp only
  split_ifs <;> rfl

theorem expected_generate_ack (context : QpContext) (requested : Bool) :
    (context.generateAckOrUpdateCoalescingState requested).expectedPsn = context.expectedPsn := by
  unfold generateAckOrUpdateCoalescingState setupAckCoalescingTimer
  dsimp only
  split_ifs
  · exact expected_transmit_ack _
  · rfl
  · rfl
  · rfl

/-- The expected packet is valid. -/
theorem valid_expected (context : QpContext) :
    context.psnIsValidAtTarget context.expectedPsn = true := by
  unfold psnIsValidAtTarget
  rw [BitVec.sub_self]
  rfl

/-- A write packet in order is acknowledged with the number after it. -/
theorem write_in_order_settles (guarded : Guarded context)
    (inOrder : packet.psn = context.expectedPsn) :
    Settles (psnAdd context.expectedPsn 1) (packet.ackReq = true) context
        (context.processWrite packet) ∧
      (context.processWrite packet).expectedPsn = psnAdd context.expectedPsn 1 := by
  unfold processWrite
  rw [inOrder, if_pos (valid_expected context), if_pos rfl]
  have moved := guarded_expecting guarded (psnAdd context.expectedPsn 1)
    context.nakSequenceErrorSent
  have settles := generate_settles moved packet.ackReq
  have expected := expected_generate_ack
    { context with expectedPsn := psnAdd context.expectedPsn 1 } packet.ackReq
  exact ⟨⟨guarded_expecting settles.guarded _ false, settles.outcome⟩, expected⟩

/-- A write packet that is not in order. -/
theorem write_out_of_order_settles (guarded : Guarded context)
    (other : packet.psn ≠ context.expectedPsn) :
    Settles context.expectedPsn False context (context.processWrite packet) ∧
      (context.processWrite packet).expectedPsn = context.expectedPsn := by
  unfold processWrite
  rw [if_neg other]
  by_cases valid : context.psnIsValidAtTarget packet.psn = true
  · rw [if_pos valid]
    exact ⟨transmit_ack_settles guarded.toTimely (fun naks => guarded.waits (.inr naks)) False,
      expected_transmit_ack context⟩
  · rw [if_neg valid]
    refine ⟨nak_settles guarded, ?_⟩
    split_ifs
    · exact expected_transmit_nak context
    · rfl

/-- A read request is served. -/
theorem enqueue_read_settles {before : QpContext} {answered : Psn} {owed : Prop}
    (settles : Settles answered owed before context) (queue : List InboundReadRequest)
    (request : InboundReadRequest) :
    Settles answered owed before
      ({ context with inboundReadRequestQueue := queue }.enqueueReadRequest request) := by
  unfold enqueueReadRequest addWorkQueueToActiveSet setWorkQueueActive
  have guarded := settles.guarded
  have filled : queue ++ [request] ≠ [] := by simp
  dsimp only
  split_ifs with _ idle idle
  · simp at idle
  · exact ⟨⟨⟨⟨guarded.timeout, guarded.due, fun _ => rfl⟩, guarded.below, guarded.stopped,
      guarded.timer⟩, fun _ => filled⟩, settles.outcome⟩
  · simp at idle
  · exact ⟨⟨⟨⟨guarded.timeout, guarded.due, fun _ => rfl⟩, guarded.below, guarded.stopped,
      guarded.timer⟩, fun _ => filled⟩, settles.outcome⟩

theorem expected_enqueue_read (context : QpContext) (request : InboundReadRequest) :
    (context.enqueueReadRequest request).expectedPsn = context.expectedPsn := by
  unfold enqueueReadRequest addWorkQueueToActiveSet setWorkQueueActive
  dsimp only
  split_ifs <;> rfl

/-- A read request in order is acknowledged by its responses, and what was held back goes out. -/
theorem expect_after_read_settles (guarded : Guarded context) (nPkt : Psn) :
    Settles context.expectedPsn False context (context.expectAfterRead nPkt) := by
  unfold expectAfterRead
  dsimp only
  split_ifs
  · exact settles_expecting (transmit_ack_settles guarded.toTimely
      (fun naks => guarded.waits (.inr naks)) False) _ false
  · exact settles_expecting (settles_same guarded rfl context.expectedPsn) _ false

theorem expected_expect_after_read (context : QpContext) (nPkt : Psn) :
    (context.expectAfterRead nPkt).expectedPsn = psnAdd context.expectedPsn nPkt := by
  unfold expectAfterRead
  split_ifs
  · exact congrArg (psnAdd · nPkt) (expected_transmit_ack context)
  · rfl

theorem read_request_settles (guarded : Guarded context) (packet : Packet) :
    Settles context.expectedPsn False context (context.processReadRequest config packet) := by
  unfold processReadRequest
  by_cases valid : context.psnIsValidAtTarget packet.psn = true
  · rw [if_pos valid]
    split_ifs
    · exact enqueue_read_settles (expect_after_read_settles guarded _) _ _
    · exact enqueue_read_settles (settles_same guarded rfl context.expectedPsn) _ _
  · rw [if_neg valid]
    exact nak_settles guarded

theorem expected_read_request (context : QpContext) (packet : Packet) :
    (context.processReadRequest config packet).expectedPsn =
      if packet.psn = context.expectedPsn then
        psnAdd context.expectedPsn
          (BitVec.ofNat 24 (numberOfPackets config packet.requestLength).toNat)
      else context.expectedPsn := by
  unfold processReadRequest
  dsimp only
  by_cases inOrder : packet.psn = context.expectedPsn
  · rw [inOrder, if_pos (valid_expected context), if_pos rfl, if_pos rfl, expected_enqueue_read,
      expected_expect_after_read]
  · rw [if_neg inOrder, if_neg inOrder]
    split_ifs
    · exact expected_enqueue_read _ _
    · exact expected_transmit_nak context
    · rfl

/-- The timer of the counter passes an acknowledgement on. A timer that was set before does not
change anything. -/
theorem ack_timer_settles (guarded : Guarded context) :
    Settles context.expectedPsn False context context.handleAckCoalescingTimeout := by
  unfold handleAckCoalescingTimeout
  dsimp only
  have timely : Timely { context with
      ackCoalescingEvents := context.ackCoalescingEvents.erase context.now } :=
    ⟨guarded.timeout, fun due member => guarded.due due (List.mem_of_mem_erase member),
      guarded.served⟩
  split_ifs with accepted
  · have settles := transmit_ack_settles timely (fun naks => guarded.waits (.inr naks)) False
    exact ⟨settles.guarded, settles.outcome⟩
  · refine ⟨⟨⟨timely, guarded.below, guarded.stopped, fun counts => ?_⟩, guarded.waits⟩,
      .inr ⟨rfl, fun held => held.resolve_left id⟩⟩
    have later : context.ackCoalescingTimerTriggerTime + context.ackCoalescingTimeout ≠
        context.now := fun due => accepted ⟨by omega, counts⟩
    exact (List.mem_erase_of_ne later).2 (guarded.timer counts)

theorem expected_ack_timer (context : QpContext) :
    context.handleAckCoalescingTimeout.expectedPsn = context.expectedPsn := by
  unfold handleAckCoalescingTimeout
  dsimp only
  split_ifs
  · exact expected_transmit_ack _
  · rfl

/-! ### Responses -/

/-- The last response of the queued read requests is followed by what they held back. -/
theorem transmit_triggered_settles (timed : Timed context) :
    Settles context.expectedPsn False context context.transmitTriggered := by
  unfold transmitTriggered
  by_cases done : context.inboundReadRequestQueue = []
  · rw [if_pos (by rw [done]; rfl)]
    dsimp only
    by_cases naks : context.nakSequenceErrorTriggered = true
    · rw [if_pos naks, if_neg (by simp)]
      have quiet : Timely { context with ackTriggered := false } :=
        ⟨timed.timeout, timed.due, timed.served⟩
      have settles := transmit_nak_settles quiet (fun acks => by cases acks) (Promised context)
      have same : { context.transmitNakSequenceError with ackTriggered := false } =
          { context with ackTriggered := false }.transmitNakSequenceError := by
        unfold transmitNakSequenceError enqueuePacket
        dsimp only
        split_ifs <;> rfl
      rw [same]
      exact ⟨settles.guarded, settles.outcome.imp id (.imp id fun promised held =>
        promised (.inl (held.resolve_left id)))⟩
    · rw [if_neg naks]
      split_ifs with acks
      · exact transmit_ack_settles timed.toTimely (fun triggered => absurd triggered naks) False
      · refine ⟨⟨timed, ?_⟩, .inr ⟨rfl, fun held => held.resolve_left id⟩⟩
        rintro (triggered | triggered)
        · exact absurd triggered acks
        · exact absurd triggered naks
  · rw [if_neg (by simpa using done)]
    exact ⟨⟨timed, fun _ => done⟩, .inr ⟨rfl, fun held => held.resolve_left id⟩⟩

theorem expected_transmit_triggered (context : QpContext) :
    context.transmitTriggered.expectedPsn = context.expectedPsn := by
  have nak := expected_transmit_nak context
  unfold transmitTriggered
  dsimp only
  split_ifs
  · exact (expected_transmit_ack _).trans nak
  · exact nak
  · exact expected_transmit_ack context
  · rfl
  · rfl

/-- The opcode of a packet is one of those for its places. -/
theorem place_opcode (psn endPsn current : Psn) {only first last middle : Opcode}
    (kind : Opcode → Prop) (onlyOf : kind only) (firstOf : kind first) (lastOf : kind last)
    (middleOf : kind middle) : kind (placeOpcode psn endPsn current only first last middle) := by
  unfold placeOpcode
  split_ifs
  · exact onlyOf
  · exact firstOf
  · exact lastOf
  · exact middleOf

theorem not_answer (data : packet.opcode ≠ .ack) : isAnswer packet = false := by
  simp [isAnswer, data]

theorem answers_enqueue_data (data : isAnswer packet = false) :
    answersOf (context.enqueuePacket packet) = answersOf context := by
  rw [answers_enqueue, data]
  exact List.append_nil _

/-- A response is no answer, and only the read requests change. -/
theorem response_created (context : QpContext) :
    Ensures (context.createResponsePacket config) fun (packet, after) =>
      isAnswer packet = false ∧ ∃ queue psn,
        after = { context with inboundReadRequestQueue := queue, irrqPsn := psn } := by
  unfold createResponsePacket
  rcases queue : context.inboundReadRequestQueue with _ | ⟨request, rest⟩
  · exact ensures_error
  · refine ensures_ok.2 ⟨not_answer ?_, ?_⟩
    · exact place_opcode _ _ _ (· ≠ Opcode.ack) nofun nofun nofun nofun
    · split_ifs
      · exact ⟨rest, _, rfl⟩
      · exact ⟨request :: rest, _, rfl⟩

/-- A turn of the responses. -/
theorem transmit_response_settles (guarded : Guarded context)
    (active : context.isResponseQueueActive = true) :
    Ensures (context.runWorkScheduler config .response) fun after =>
      Settles context.expectedPsn False context after ∧
        after.expectedPsn = context.expectedPsn := by
  refine ensures_map.2 (ensures_map.2 ((response_created context).mono ?_))
  rintro ⟨packet, _⟩ ⟨data, queue, psn, rfl⟩
  have timed : Timed ({ context with inboundReadRequestQueue := queue, irrqPsn := psn
      }.enqueuePacket packet) :=
    ⟨⟨guarded.timeout, guarded.due, fun _ => active⟩, guarded.below, guarded.stopped,
      guarded.timer⟩
  have settles := transmit_triggered_settles timed
  have expected := expected_transmit_triggered ({ context with
    inboundReadRequestQueue := queue, irrqPsn := psn }.enqueuePacket packet)
  have same : answersOf ({ context with inboundReadRequestQueue := queue, irrqPsn := psn
      }.enqueuePacket packet) = answersOf context := answers_enqueue_data data
  have ended := settles.guarded
  refine ⟨⟨⟨⟨⟨ended.timeout, ended.due, fun filled => ?_⟩, ended.below, ended.stopped,
    ended.timer⟩, ended.waits⟩, ?_⟩, expected⟩
  · simpa [setWorkQueueActive, hasMoreWork] using filled
  · have outcome := settles.outcome
    rw [same] at outcome
    exact outcome

/-! ## The requester -/

theorem acking_activate_request (context : QpContext) :
    acking (context.addWorkQueueToActiveSet .request) = acking context := by
  unfold addWorkQueueToActiveSet setWorkQueueActive
  split_ifs <;> rfl

theorem acking_setup_rto (context : QpContext) : acking context.setupRto = acking context := by
  unfold setupRto
  split_ifs <;> rfl

theorem acking_start_rto (context : QpContext) : acking context.startRto = acking context := by
  unfold startRto
  split_ifs
  · exact acking_setup_rto context
  · rfl

theorem acking_reset_rto (context : QpContext) : acking context.resetRto = acking context := by
  unfold resetRto
  dsimp only
  split_ifs
  · exact acking_setup_rto _
  · rfl

theorem acking_go_back (context : QpContext) : acking context.goBackN = acking context := by
  unfold goBackN cancelRto addWorkQueueToActiveSet setWorkQueueActive
  dsimp only
  split_ifs <;> rfl

theorem acking_complete_ops (psn : Psn) (ops : List RdmaOp) (context : QpContext)
    (completed : Bool) : acking (completeOps psn ops context completed).1 = acking context := by
  induction ops generalizing context completed with
  | nil => rfl
  | cons op rest ih =>
    unfold completeOps
    split_ifs
    · exact ih _ true
    · rfl

theorem acking_complete_till (context : QpContext) (psn : Psn) :
    acking (context.completeOpTillPsn psn).1 = acking context :=
  acking_complete_ops psn context.sendQueue context false

theorem acking_process_ack (context : QpContext) (packet : Packet) :
    Ensures (context.processRxAck packet) fun (after, _) => acking after = acking context := by
  have completed := acking_complete_till context packet.psn
  unfold processRxAck
  dsimp only
  refine ensures_ite (fun _ => ensures_ok.2 rfl) fun _ =>
    ensures_ite (fun _ => ?_) fun _ => ensures_ok.2 rfl
  refine ensures_ite (fun _ => ?_) fun _ => ensures_ok.2 ?_
  · rcases (context.completeOpTillPsn packet.psn).1.sendQueue.head? with _ | op
    · exact ensures_error
    · refine ensures_ite (fun _ => ensures_ite (fun _ => ensures_error) fun _ =>
        ensures_ite (fun _ => ensures_ok.2 ?_) fun _ => ensures_ok.2 completed)
        fun _ => ensures_ok.2 ?_
      · exact (acking_go_back _).trans completed
      · dsimp only
        split_ifs
        · exact (acking_go_back _).trans completed
        · exact completed
  · dsimp only
    split_ifs
    · exact (acking_go_back _).trans completed
    · exact completed

theorem acking_process_response (context : QpContext) (psn : Psn) (reset : Bool) :
    Ensures (context.processReadResponse psn reset) fun (after, _) =>
      acking after = acking context := by
  refine (response_outcome psn reset).mono ?_
  rintro ⟨after, _⟩ outcome
  cases outcome with
  | expected =>
    unfold received completeOpAtHead
    split_ifs <;> rfl
  | wentBack => exact acking_go_back _
  | ignored => rfl

theorem acking_post (context : QpContext) (op : RdmaOp) :
    acking (context.postOp config op) = acking context := by
  unfold postOp
  split_ifs
  · rfl
  · exact acking_activate_request _
  · exact acking_activate_request _

theorem acking_rto (context : QpContext) :
    Ensures context.handleRto fun after => acking after = acking context := by
  unfold handleRto
  dsimp only
  refine ensures_ite (fun _ => ?_) fun _ => ensures_ok.2 rfl
  refine ensures_ite (fun _ => ensures_ok.2 ?_) fun _ => ensures_error
  exact acking_activate_request _

theorem acking_enqueue (context : QpContext) (data : isAnswer packet = false) :
    acking (context.enqueuePacket packet) = acking context := by
  unfold acking
  rw [answers_enqueue_data data]
  rfl

theorem request_opcode {op : RdmaOp} {nextPsn : Psn} :
    Ensures (requestPacket config op nextPsn) fun packet => packet.opcode ≠ .ack := by
  unfold requestPacket
  cases op.opcode with
  | recv => exact ensures_error
  | read => exact ensures_ok.2 nofun
  | send => exact ensures_ok.2 (place_opcode _ _ _ (· ≠ Opcode.ack) nofun nofun nofun nofun)
  | write => exact ensures_ok.2 (place_opcode _ _ _ (· ≠ Opcode.ack) nofun nofun nofun nofun)

/-- A turn of the requests. -/
theorem acking_transmit_request (context : QpContext) :
    Ensures (context.runWorkScheduler config .request) fun after =>
      acking after = acking context := by
  unfold runWorkScheduler transmitPacket createRequestPacket
  refine ensures_map.2 (ensures_map.2 ?_)
  rcases context.sendQueue[context.nextOpIndex.toNat]? with _ | op
  · exact ensures_error
  · refine ensures_map.2 (request_opcode.mono fun packet data => ?_)
    have started := acking_start_rto ((context.advanceRequest op).enqueuePacket packet)
    refine started.trans ((acking_enqueue _ (not_answer data)).trans ?_)
    unfold advanceRequest
    dsimp only
    split_ifs <;> rfl

/-! ## One step -/

/-- A write packet that the responder accepts. -/
def accepts (context : QpContext) : Event → Bool
  | .receive packet => packet.psn = context.expectedPsn ∧
    packet.opcode ∈ [.writeFirst, .writeMiddle, .writeLast, .writeOnly]
  | _ => false

/-- An accepted write packet that asks for an acknowledgement. -/
def asks (context : QpContext) : Event → Bool
  | .receive packet => accepts context (.receive packet) && packet.ackReq
  | _ => false

/-- The number of packets that the responder moves past. -/
def movedBy (config : Config) (context : QpContext) : Event → Nat
  | .receive packet =>
    if packet.psn = context.expectedPsn then
      match packet.opcode with
      | .writeFirst | .writeMiddle | .writeLast | .writeOnly => 1
      | .readRequest => (numberOfPackets config packet.requestLength).toNat
      | _ => 0
    else 0
  | _ => 0

/-- How far the responder has moved when it answers: past a write packet, and not yet past a read
request. -/
def answeredBy (context : QpContext) (event : Event) : Nat :=
  if accepts context event then 1 else 0

/-- What an event does to the responder. -/
structure Answering (config : Config) (event : Event) (before after : QpContext) : Prop where
  settles : Settles (psnAdd before.expectedPsn (BitVec.ofNat 24 (answeredBy before event)))
    (asks before event = true) before after
  expected : after.expectedPsn =
    psnAdd before.expectedPsn (BitVec.ofNat 24 (movedBy config before event))

theorem moved_accepted {event : Event} (accepted : accepts context event = true) :
    movedBy config context event = 1 := by
  cases event with
  | receive packet =>
    obtain ⟨inOrder, write⟩ := of_decide_eq_true accepted
    rw [movedBy, if_pos inOrder]
    simp only [List.mem_cons, List.not_mem_nil, or_false] at write
    rcases write with kind | kind | kind | kind <;> rw [kind]
  | _ => cases accepted

theorem answered_le_moved (config : Config) (context : QpContext) (event : Event) :
    answeredBy context event ≤ movedBy config context event := by
  unfold answeredBy
  split_ifs with accepted
  · rw [moved_accepted accepted]
  · exact Nat.zero_le _

/-- A packet that asks for an acknowledgement was accepted. -/
theorem answered_asks {event : Event} (asked : asks context event = true) :
    answeredBy context event = 1 := by
  cases event with
  | receive packet =>
    rw [asks, Bool.and_eq_true] at asked
    exact if_pos asked.1
  | _ => cases asked

theorem psn_add_zero (psn : Psn) : psnAdd psn (BitVec.ofNat 24 0) = psn := by
  simp only [psnAdd]
  bv_omega

/-- An event that is no accepted write packet. -/
theorem answering_other {event : Event}
    (settles : Settles context.expectedPsn False context after)
    (other : accepts context event = false) (expected : after.expectedPsn =
      psnAdd context.expectedPsn (BitVec.ofNat 24 (movedBy config context event))) :
    Answering config event context after := by
  have quiet : asks context event = false := by
    cases event with
    | receive packet =>
      rw [asks, other]
      rfl
    | _ => rfl
  refine ⟨⟨settles.guarded, ?_⟩, expected⟩
  rw [answeredBy, if_neg (by simp [other]), psn_add_zero]
  refine settles.outcome.imp id (.imp id fun promised held => promised (.inr ?_))
  exact held.resolve_left (by simp [quiet])

/-- An event of the requester. -/
theorem answering_same {event : Event} (guarded : Guarded context)
    (same : acking after = acking context) (other : accepts context event = false)
    (still : movedBy config context event = 0) : Answering config event context after := by
  refine answering_other (settles_same guarded same context.expectedPsn) other ?_
  rw [still, psn_add_zero]
  exact congrArg Acking.expectedPsn same

/-- The retransmission timer does not matter to the responder. -/
theorem answering_reset {event : Event} (answering : Answering config event context after)
    (resetRto : Bool) :
    Answering config event context (if resetRto then after.resetRto else after) := by
  have same := acking_reset_rto after
  cases resetRto with
  | false => exact answering
  | true =>
    have settles := answering.settles
    refine ⟨⟨guarded_same settles.guarded same, ?_⟩, ?_⟩
    · have answers : answersOf after.resetRto = answersOf after := congrArg Acking.answers same
      rw [if_pos rfl, answers, promised_same same]
      exact settles.outcome
    · exact (congrArg Acking.expectedPsn same).trans answering.expected

theorem write_answering (guarded : Guarded context)
    (write : packet.opcode ∈ [Opcode.writeFirst, .writeMiddle, .writeLast, .writeOnly]) :
    Answering config (.receive packet) context (context.processWrite packet) := by
  by_cases inOrder : packet.psn = context.expectedPsn
  · have accepted : accepts context (.receive packet) = true := decide_eq_true ⟨inOrder, write⟩
    have moved : movedBy config context (.receive packet) = 1 := moved_accepted accepted
    obtain ⟨settles, expected⟩ := write_in_order_settles guarded inOrder
    refine ⟨?_, moved ▸ expected⟩
    rw [answeredBy, if_pos accepted, asks, accepted, Bool.true_and]
    exact settles
  · obtain ⟨settles, expected⟩ := write_out_of_order_settles guarded inOrder
    refine answering_other settles (decide_eq_false fun accepted => inOrder accepted.1) ?_
    rw [expected, movedBy, if_neg inOrder, psn_add_zero]

theorem read_answering (guarded : Guarded context) (read : packet.opcode = .readRequest) :
    Answering config (.receive packet) context (context.processReadRequest config packet) := by
  apply answering_other (read_request_settles guarded packet)
  · simp [accepts, read]
  · rw [expected_read_request, movedBy, read]
    split_ifs
    · rfl
    · exact (psn_add_zero _).symm

theorem receive_answering (guarded : Guarded context) (packet : Packet) :
    Ensures (context.processRxPacket config packet)
      (Answering config (.receive packet) context) := by
  have requester {after : QpContext} (same : acking after = acking context)
      (other : packet.opcode ∉ [Opcode.writeFirst, .writeMiddle, .writeLast, .writeOnly,
        .readRequest]) : Answering config (.receive packet) context after := by
    simp only [List.mem_cons, List.not_mem_nil, or_false, not_or] at other
    apply answering_same guarded same
    · simp [accepts, other]
    · rw [movedBy]
      split_ifs
      · split <;> simp_all
      · rfl
  unfold processRxPacket
  refine ensures_map.2 (@Ensures.mono _ _ _ _
    (fun (after, _) => Answering config (.receive packet) context after) ?_ ?_)
  · rcases kind : packet.opcode with _ | _ | _ | _ | _ | _ | _ | _ | _ | _ | _ | _ | _ | _ | _
    case writeFirst | writeMiddle | writeLast | writeOnly =>
      exact ensures_ok.2 (write_answering guarded (by rw [kind]; decide))
    case readRequest => exact ensures_ok.2 (read_answering guarded kind)
    case readResponseFirst | readResponseOnly =>
      refine (acking_process_response _ _ _).mono fun (after, _) same => ?_
      exact requester (same.trans (acking_complete_till context _)) (by rw [kind]; decide)
    case readResponseMiddle | readResponseLast =>
      refine (acking_process_response context _ _).mono fun (after, _) same => ?_
      exact requester same (by rw [kind]; decide)
    case ack =>
      refine (acking_process_ack context packet).mono fun (after, _) same => ?_
      exact requester same (by rw [kind]; decide)
    all_goals exact ensures_ok.2 (requester rfl (by rw [kind]; decide))
  · rintro ⟨after, resetRto⟩ answering
    exact answering_reset answering resetRto

/-- One event. -/
theorem perform_answering (guarded : Guarded context) {event : Event}
    (possible : context.Possible event) :
    Ensures (context.perform config event) (Answering config event context) := by
  cases event with
  | post op => exact ensures_ok.2 (answering_same guarded (acking_post context op) rfl rfl)
  | transmit workType =>
    cases workType with
    | request =>
      refine (acking_transmit_request context).mono fun after same => ?_
      exact answering_same guarded same rfl rfl
    | response =>
      refine (transmit_response_settles guarded possible).mono ?_
      rintro after ⟨settles, expected⟩
      exact answering_other settles rfl (expected.trans (psn_add_zero _).symm)
  | receive packet => exact receive_answering guarded packet
  | retransmissionTimer =>
    exact (acking_rto context).mono fun after same => answering_same guarded same rfl rfl
  | ackCoalescingTimer =>
    refine ensures_ok.2 (answering_other (ack_timer_settles guarded) rfl ?_)
    exact (expected_ack_timer context).trans (psn_add_zero _).symm
  | tick duration =>
    obtain ⟨_, due⟩ := possible
    refine ensures_ok.2 (answering_other ⟨⟨⟨⟨guarded.timeout, ?_, guarded.served⟩,
      guarded.below, guarded.stopped, guarded.timer⟩, guarded.waits⟩,
      .inr ⟨rfl, fun held => held.resolve_left id⟩⟩ rfl (psn_add_zero _).symm)
    exact fun timer member => due timer (List.mem_append_right _ member)

/-! ## Runs -/

/-- A queue pair, the number that its responder expects, those of the accepted write packets that
asked for an acknowledgement, and the answers that were passed on, each with the number that was
expected then. -/
structure Observed where
  context : QpContext
  expected : Nat := 0
  accepted : List Nat := []
  answers : List (Packet × Nat) := []

/-- What an event adds to the observation. -/
def observe (config : Config) (before : Observed) (event : Event) (after : QpContext) :
    Observed where
  context := after
  expected := before.expected + movedBy config before.context event
  accepted :=
    if asks before.context event then before.accepted ++ [before.expected] else before.accepted
  answers := before.answers ++
    ((answersOf after).drop (answersOf before.context).length).map fun answer =>
      (answer, before.expected + answeredBy before.context event)

def InitialObserved (observed : Observed) : Prop :=
  Initial observed.context ∧ observed = { context := observed.context }

/-- Any event of the queue pair. -/
def ObservedStep (config : Config) (before after : Observed) : Prop :=
  ∃ event, before.context.Possible event ∧ ∃ next,
    before.context.perform config event = .ok next ∧ after = observe config before event next

/-- Every run can be observed. -/
theorem observed_of_run (reached : Runs.Reachable Initial (Step config) context) :
    ∃ observed, Runs.Reachable InitialObserved (ObservedStep config) observed ∧
      observed.context = context := by
  apply @Runs.invariant_of_reachable _ _ _ (fun context => ∃ observed,
    Runs.Reachable InitialObserved (ObservedStep config) observed ∧
      observed.context = context) _ _ _ reached
  · exact fun first initial => ⟨⟨first, 0, [], []⟩, Runs.reachable_initial ⟨initial, rfl⟩, rfl⟩
  · rintro _ next ⟨before, known, rfl⟩ ⟨event, possible, performed⟩
    exact ⟨observe config before event next,
      Runs.reachable_step known ⟨event, possible, next, performed, rfl⟩, rfl⟩

/-- The counter counts, and there is an event for which `handleAckCoalescingTimeout` passes an
acknowledgement on. -/
def Coalescing (context : QpContext) : Prop :=
  0 < context.ackCoalescingCounter ∧ ∃ due ∈ context.ackCoalescingEvents, context.now ≤ due ∧
    due - context.ackCoalescingTimerTriggerTime = context.ackCoalescingTimeout

/-- An acknowledgement is triggered, and the read requests that it waits for are being served. -/
def Postponed (context : QpContext) : Prop :=
  (context.ackTriggered = true ∨ context.nakSequenceErrorTriggered = true) ∧
    context.inboundReadRequestQueue ≠ [] ∧ context.isResponseQueueActive = true

/-- No acknowledgement is forgotten. -/
structure Remembered (observed : Observed) : Prop where
  expected : observed.context.expectedPsn = psnOf observed.expected
  passed : observed.answers.map Prod.fst = answersOf observed.context
  named : ∀ answer ∈ observed.answers, answer.2 ≤ observed.expected ∧
    answer.1.psn = psnAdd (psnOf answer.2) (-1)
  accepted : ∀ number ∈ observed.accepted, number < observed.expected
  covered : ∀ number ∈ observed.accepted,
    (∃ answer ∈ observed.answers, number < answer.2) ∨ Coalescing observed.context ∨
      Postponed observed.context

/-- What a run keeps: an accepted packet is acknowledged, or what it is owed is held back. -/
structure Accounted (observed : Observed) : Prop where
  guarded : Guarded observed.context
  expected : observed.context.expectedPsn = psnOf observed.expected
  passed : observed.answers.map Prod.fst = answersOf observed.context
  named : ∀ answer ∈ observed.answers, answer.2 ≤ observed.expected ∧
    answer.1.psn = psnAdd (psnOf answer.2) (-1)
  accepted : ∀ number ∈ observed.accepted, number < observed.expected
  owed : ∀ number ∈ observed.accepted,
    (∃ answer ∈ observed.answers, number < answer.2) ∨ Promised observed.context

theorem accounted_initial {observed : Observed} (initial : InitialObserved observed) :
    Accounted observed := by
  obtain ⟨⟨_, _, _, _, timeout, started⟩, fresh⟩ := initial
  rw [fresh, started]
  have stopped : ¬(0 : UInt32) < 0 := by decide
  refine ⟨⟨⟨⟨timeout, nofun, fun filled => absurd rfl filled⟩, fun counts => absurd counts stopped,
    fun _ => rfl, fun counts => absurd counts stopped⟩, ?_⟩, rfl, rfl, nofun, nofun, nofun⟩
  rintro (triggered | triggered) <;> cases triggered

/-- The numbers of the packets accepted by the end of a step. -/
theorem mem_accepted {before : Observed} {event : Event} {number : Nat} :
    number ∈ (observe config before event after).accepted ↔ number ∈ before.accepted ∨
      asks before.context event = true ∧ number = before.expected := by
  unfold observe
  dsimp only
  split_ifs with asked <;> simp [asked]

theorem answers_same {before : Observed} {event : Event} {after : QpContext}
    (same : answersOf after = answersOf before.context) :
    (observe config before event after).answers = before.answers := by
  unfold observe
  simp [same]

theorem answers_appended {before : Observed} {event : Event} {after : QpContext} {packet : Packet}
    (appended : answersOf after = answersOf before.context ++ [packet]) :
    (observe config before event after).answers = before.answers ++
      [(packet, before.expected + answeredBy before.context event)] := by
  unfold observe
  simp [appended]

/-- The numbers of the packets accepted by the end of a step are below the one that an answer in
this step names. -/
theorem accepted_below {before : Observed} (accounted : Accounted before) {event : Event}
    {after : QpContext} : ∀ number ∈ (observe config before event after).accepted,
      number < before.expected + answeredBy before.context event := by
  intro number member
  rcases mem_accepted.1 member with earlier | ⟨asked, rfl⟩
  · exact Nat.lt_of_lt_of_le (accounted.accepted number earlier) (Nat.le_add_right _ _)
  · rw [answered_asks asked]
    exact Nat.lt_succ_self _

theorem accounted_step {before after : Observed} (accounted : Accounted before)
    (taken : ObservedStep config before after) : Accounted after := by
  obtain ⟨event, possible, next, performed, rfl⟩ := taken
  have answering : Answering config event before.context next :=
    perform_answering accounted.guarded possible next performed
  have reach := answered_le_moved config before.context event
  have below := @accepted_below config _ accounted event next
  have expected : next.expectedPsn =
      psnOf (before.expected + movedBy config before.context event) := by
    rw [answering.expected, accounted.expected, psn_add_of]
  have answered : psnAdd before.context.expectedPsn
      (BitVec.ofNat 24 (answeredBy before.context event)) =
        psnOf (before.expected + answeredBy before.context event) := by
    rw [accounted.expected, psn_add_of]
  have settles := answering.settles
  rw [answered] at settles
  have named : ∀ answer ∈ before.answers,
      answer.2 ≤ before.expected + movedBy config before.context event ∧
        answer.1.psn = psnAdd (psnOf answer.2) (-1) := fun answer member =>
    (accounted.named answer member).imp_left fun earlier => Nat.le_add_right_of_le earlier
  have accepted : ∀ number ∈ (observe config before event next).accepted,
      number < before.expected + movedBy config before.context event := fun number member =>
    Nat.lt_of_lt_of_le (below number member) (Nat.add_le_add_left reach _)
  rcases settles.outcome with ⟨packet, psn, appended⟩ | ⟨same, promised⟩
  · have answers := @answers_appended config _ event _ _ appended
    refine ⟨settles.guarded, expected, ?_, ?_, accepted, ?_⟩
    · rw [answers, List.map_append, accounted.passed]
      exact appended.symm
    · rw [answers]
      intro answer member
      rcases List.mem_append.1 member with earlier | new
      · exact named answer earlier
      · rw [List.mem_singleton.1 new]
        exact ⟨Nat.add_le_add_left reach _, psn⟩
    · rw [answers]
      intro number member
      exact .inl ⟨_, List.mem_append_right _ (List.mem_singleton_self _), below number member⟩
  · have answers := @answers_same config _ event _ same
    refine ⟨settles.guarded, expected, ?_, ?_, accepted, ?_⟩
    · rw [answers, accounted.passed]
      exact same.symm
    · rw [answers]
      exact named
    · rw [answers]
      intro number member
      rcases mem_accepted.1 member with earlier | ⟨asked, _⟩
      · exact (accounted.owed number earlier).imp id fun held => promised (.inr held)
      · exact .inr (promised (.inl asked))

theorem accounted_reachable {observed : Observed}
    (reached : Runs.Reachable InitialObserved (ObservedStep config) observed) :
    Accounted observed := by
  apply Runs.invariant_of_reachable _ _ reached
  · exact fun _ initial => accounted_initial initial
  · exact fun _ _ accounted taken => accounted_step accounted taken

/-- What is held back will be passed on. -/
theorem remembered_of_accounted {observed : Observed} (accounted : Accounted observed) :
    Remembered observed := by
  have guarded := accounted.guarded
  refine ⟨accounted.expected, accounted.passed, accounted.named, accounted.accepted, ?_⟩
  intro number member
  rcases accounted.owed number member with answered | counts | triggered
  · exact .inl answered
  · refine .inr (.inl ⟨counts, _, guarded.timer counts, guarded.due _ (guarded.timer counts), ?_⟩)
    exact add_sub_cancel_left _ _
  · have waits := guarded.waits triggered
    exact .inr (.inr ⟨triggered, waits, guarded.served waits⟩)

/-- In every run, an accepted write packet that asked for an acknowledgement is covered by one that
was passed on, or a timer or the end of the read requests will see to it. -/
theorem acknowledgements_remembered {observed : Observed}
    (reached : Runs.Reachable InitialObserved (ObservedStep config) observed) :
    Remembered observed :=
  remembered_of_accounted (accounted_reachable reached)

/-- A new queue pair that acknowledges two packets at once. -/
def coalescing : QpContext :=
  { retxTimeout := 100
    ackCoalescingTimeout := 5
    ackCoalescingThreshold := 2 }

/-- The result of an event, if it is possible. -/
def attemptObserved (observed : Observed) (event : Event) : Option Observed :=
  (attemptAny observed.context event).map (observe oneByte observed event)

theorem step_of_attempt_observed (observed : Observed) (event : Event) (next : Observed)
    (done : attemptObserved observed event = some next) : ObservedStep oneByte observed next := by
  obtain ⟨context, attempted, rfl⟩ := Option.map_eq_some_iff.1 done
  obtain ⟨possible, performed⟩ := Runs.attempt_eq_some.1 attempted
  exact ⟨event, possible, context, performed, rfl⟩

/-- A write packet that asks for an acknowledgement arrives. -/
def arrives (psn : Psn) : Event :=
  .receive { opcode := .writeOnly, psn := psn, ackReq := true }

/-- The acknowledgement of the packet before a read request is passed on, that of the packet after
it is triggered by the timer. -/
theorem acknowledgements_remembered_read : ∃ observed, Remembered observed ∧
    observed.accepted = [0, 2] ∧ observed.answers.map Prod.snd = [1] ∧
      Postponed observed.context := by
  have tested : (Runs.execute attemptObserved
      [arrives 0, .receive { opcode := .readRequest, psn := 1, ackReq := true, requestLength := 1 },
        arrives 2, .tick 5, .ackCoalescingTimer, .ackCoalescingTimer]
      { context := coalescing }).any (fun observed => decide (observed.accepted = [0, 2] ∧
        observed.answers.map Prod.snd = [1] ∧ observed.context.ackTriggered = true ∧
          observed.context.inboundReadRequestQueue ≠ [] ∧
          observed.context.isResponseQueueActive = true)) = true := by
    decide +kernel
  have started : InitialObserved { context := coalescing } :=
    ⟨⟨100, 5, 2, by decide, by decide, rfl⟩, rfl⟩
  obtain ⟨observed, reached, holds⟩ :=
    Runs.reached_with step_of_attempt_observed started tested
  obtain ⟨accepted, answers, triggered, waits, served⟩ := of_decide_eq_true holds
  exact ⟨observed, acknowledgements_remembered reached, accepted, answers, .inl triggered, waits,
    served⟩

end Isekai.RoceAckProofs
