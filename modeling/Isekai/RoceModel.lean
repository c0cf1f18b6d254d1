import Isekai.Runs
import Mathlib.Data.List.DropRight

/-! One queue pair of the RoCE model, as requester and as responder: the packets that it makes of
the operations and of the read requests, the acknowledgements, and the retransmission timer. What
decides only when an active work queue is served is left out: the rate, PFC, and the other queue
pairs. So is the congestion control. -/

namespace Isekai.Roce

/-! ## Packet sequence numbers -/

/-- A packet sequence number, always reduced modulo `kPsnRange`. -/
abbrev Psn := BitVec 24

/-- `kValidPsnRange`. -/
def validPsnRange : Nat := 8388608

def psnAdd (a b : Psn) : Psn :=
  a + b

def psnSubtract (a b : Psn) : Psn :=
  a - b

/-- Whether `a` is between `b` and `c`. -/
def psnBetween (a b c : Psn) : Bool :=
  (psnSubtract a b).toNat + (psnSubtract c a).toNat == (psnSubtract c b).toNat

/-- Between two numbers is what is no further from the first than the second. -/
theorem psn_between_iff {a b c : Psn} :
    psnBetween a b c = true ↔ (a - b).toNat ≤ (c - b).toNat := by
  simp only [psnBetween, psnSubtract, beq_iff_eq]
  bv_omega

/-! ## Packets and operations -/

/-- The opcodes of the packets that the model sends or receives. -/
inductive Opcode where
  | sendFirst | sendMiddle | sendLast | sendOnly
  | writeFirst | writeMiddle | writeLast | writeOnly
  | readRequest
  | readResponseFirst | readResponseMiddle | readResponseLast | readResponseOnly
  | ack
  | congestionNotification
  deriving DecidableEq, Repr

/-- `Packet::Roce::Ack::Type`. -/
inductive AckType where
  | ack | nak | rnrNak
  deriving DecidableEq, Repr

/-- `Packet::Roce::Ack::NakType`. -/
inductive NakType where
  | psnSequenceError | invalidRequest | remoteAccessError | remoteOperationalError
  | invalidRdRequest | reserved
  deriving DecidableEq, Repr

structure Packet where
  opcode : Opcode
  psn : Psn
  ackReq : Bool := false
  requestLength : UInt32 := 0
  payloadLength : UInt32 := 0
  ackType : AckType := .ack
  nakType : NakType := .reserved
  deriving DecidableEq, Repr

inductive RdmaOpcode where
  | recv | read | send | write
  deriving DecidableEq, Repr

/-- `completionCallback` tells the operations apart. -/
structure RdmaOp where
  opcode : RdmaOpcode
  length : UInt32
  completionCallback : Nat
  psn : Psn := 0
  endPsn : Psn := 0
  deriving DecidableEq, Repr

structure InboundReadRequest where
  psn : Psn
  endPsn : Psn
  length : UInt32
  deriving DecidableEq, Repr

/-- The size of a data segment. -/
structure Config where
  rdmaMtu : UInt32
  positive : 0 < rdmaMtu

/-- Why the model stops: a check that fails, or an access outside of a queue. -/
inductive Fault where
  | indexOutOfRange | emptySendQueue | cannotSendRecv | headIsNotRead | ackInsideRead
  | tooManyRetries
  deriving DecidableEq, Repr

/-- `WorkType`. -/
inductive WorkType where
  | request | response
  deriving DecidableEq, Repr

/-! ## The queue pair -/

/-- `RoceQpContext`, with the activity of its two work queues, the time, and the events that are
scheduled. `sent` are the packets that were passed to the packet builder, and `completed` the
operations whose completion was called. -/
structure QpContext where
  sendQueue : List RdmaOp := []
  receiveQueue : List RdmaOp := []
  inboundReadRequestQueue : List InboundReadRequest := []
  nextPsn : Psn := 0
  oldestUnacknowledgedPsn : Psn := 0
  maxPsn : Psn := 0
  tailPsn : Psn := 0
  highestPsnWithAckReq : Psn := 0
  nextOpIndex : UInt32 := 0
  retxTimeout : Int
  rtoTriggerTime : Int := 0
  retryCounter : UInt32 := 0
  maxRetry : UInt32 := 8
  readRetried : Bool := false
  expectedPsn : Psn := 0
  irrqPsn : Psn := 0
  ackTriggered : Bool := false
  ackCoalescingTimeout : Int
  ackCoalescingTimerTriggerTime : Int := 0
  ackCoalescingThreshold : UInt32
  ackCoalescingCounter : UInt32 := 0
  nakSequenceErrorSent : Bool := false
  nakSequenceErrorTriggered : Bool := false
  isRequestQueueActive : Bool := false
  isResponseQueueActive : Bool := false
  now : Int := 0
  rtoEvents : List Int := []
  ackCoalescingEvents : List Int := []
  sent : List Packet := []
  completed : List RdmaOp := []
  deriving DecidableEq, Repr

namespace QpContext

def psnIsValidAtTarget (context : QpContext) (psn : Psn) : Bool :=
  (context.expectedPsn - psn).toNat < validPsnRange

/-- Whether `psn1` is behind `psn2`, as its distance to the expected one is larger. -/
def psnSmallerAtTarget (context : QpContext) (psn1 psn2 : Psn) : Bool :=
  (context.expectedPsn - psn1).toNat > (context.expectedPsn - psn2).toNat

def psnGeAtInitiator (context : QpContext) (psn1 psn2 : Psn) : Bool :=
  psnBetween psn1 psn2 (psnAdd context.maxPsn (-1))

def psnIsValidAtInitiator (context : QpContext) (psn : Psn) : Bool :=
  context.oldestUnacknowledgedPsn != context.maxPsn &&
    psnBetween psn context.oldestUnacknowledgedPsn (psnAdd context.maxPsn (-1))

/-! ### Work queues -/

def isWorkQueueActive (context : QpContext) : WorkType → Bool
  | .request => context.isRequestQueueActive
  | .response => context.isResponseQueueActive

def setWorkQueueActive (context : QpContext) (active : Bool) : WorkType → QpContext
  | .request => { context with isRequestQueueActive := active }
  | .response => { context with isResponseQueueActive := active }

/-- Nothing happens if neither of the two queues has work. -/
def addWorkQueueToActiveSet (context : QpContext) (workType : WorkType) : QpContext :=
  if context.sendQueue.length ≤ context.nextOpIndex.toNat ∧
      context.inboundReadRequestQueue.isEmpty then context
  else context.setWorkQueueActive true workType

/-! ### Timers -/

def setupRto (context : QpContext) : QpContext :=
  if context.retxTimeout ≠ 0 then
    { context with
      rtoTriggerTime := context.now
      rtoEvents := context.rtoEvents ++ [context.now + context.retxTimeout] }
  else context

def cancelRto (context : QpContext) : QpContext :=
  { context with rtoTriggerTime := 0 }

/-- What a request does: the timer runs from then on unless it runs already. -/
def startRto (context : QpContext) : QpContext :=
  if context.rtoTriggerTime = 0 ∧
      context.psnIsValidAtInitiator context.highestPsnWithAckReq then context.setupRto
  else context

/-- What a packet does that resets the timer: it runs again for packets that are outstanding. -/
def resetRto (context : QpContext) : QpContext :=
  let context := { context with retryCounter := 0 }.cancelRto
  if context.psnIsValidAtInitiator context.highestPsnWithAckReq then context.setupRto
  else context

/-- `HandleRto`. The lookup of the context takes no time. -/
def handleRto (context : QpContext) : Except Fault QpContext :=
  let context := { context with rtoEvents := context.rtoEvents.erase context.now }
  if context.now - context.rtoTriggerTime = context.retxTimeout then
    let context := { context with rtoTriggerTime := 0 }
    if context.retryCounter < context.maxRetry then
      let rewound := { context with
        nextPsn := context.oldestUnacknowledgedPsn
        nextOpIndex := 0 }
      let active := rewound.addWorkQueueToActiveSet .request
      .ok { active with retryCounter := active.retryCounter + 1 }
    else .error .tooManyRetries
  else .ok context

/-! ### Acknowledgements of the responder -/

/-- Passes a packet to the packet builder. -/
def enqueuePacket (context : QpContext) (packet : Packet) : QpContext :=
  { context with sent := context.sent ++ [packet] }

def transmitAck (context : QpContext) : QpContext :=
  let context := { context with ackCoalescingTimerTriggerTime := 0, ackCoalescingCounter := 0 }
  if context.inboundReadRequestQueue.isEmpty then
    { context with ackTriggered := false }.enqueuePacket
      { opcode := .ack, psn := psnAdd context.expectedPsn (-1) }
  else { context with ackTriggered := true }

def transmitNakSequenceError (context : QpContext) : QpContext :=
  let context := { context with
    nakSequenceErrorSent := true
    ackCoalescingTimerTriggerTime := 0
    ackCoalescingCounter := 0 }
  if context.inboundReadRequestQueue.isEmpty then
    { context with nakSequenceErrorTriggered := false }.enqueuePacket
      { opcode := .ack
        psn := psnAdd context.expectedPsn (-1)
        ackType := .nak
        nakType := .psnSequenceError }
  else { context with nakSequenceErrorTriggered := true }

def setupAckCoalescingTimer (context : QpContext) : QpContext :=
  { context with
    ackCoalescingTimerTriggerTime := context.now
    ackCoalescingEvents := context.ackCoalescingEvents ++
      [context.now + context.ackCoalescingTimeout] }

def handleAckCoalescingTimeout (context : QpContext) : QpContext :=
  let context := { context with
    ackCoalescingEvents := context.ackCoalescingEvents.erase context.now }
  if context.now - context.ackCoalescingTimerTriggerTime = context.ackCoalescingTimeout ∧
      0 < context.ackCoalescingCounter then context.transmitAck
  else context

def generateAckOrUpdateCoalescingState (context : QpContext) (ackRequested : Bool) : QpContext :=
  if ackRequested ∨ 0 < context.ackCoalescingCounter then
    let context := { context with ackCoalescingCounter := context.ackCoalescingCounter + 1 }
    if context.ackCoalescingThreshold ≤ context.ackCoalescingCounter then context.transmitAck
    else if context.ackCoalescingTimerTriggerTime = 0 then context.setupAckCoalescingTimer
    else context
  else context

/-! ### Completions -/

/-- `CompleteOpAtHead`. The index is unsigned. -/
def completeOpAtHead (context : QpContext) : QpContext :=
  { context with
    sendQueue := context.sendQueue.tail
    nextOpIndex := context.nextOpIndex - 1
    completed := context.completed ++ context.sendQueue.head?.toList }

/-- The loop of `CompleteOpTillPsn` over the operations in the send queue, and whether it completed
one of them. -/
def completeOps (psn : Psn) : List RdmaOp → QpContext → Bool → QpContext × Bool
  | [], context, opCompleted => (context, opCompleted)
  | op :: rest, context, opCompleted =>
    if op.opcode ≠ .read ∧ context.psnIsValidAtInitiator op.endPsn ∧
        context.psnGeAtInitiator psn op.endPsn then
      completeOps psn rest
        { context with oldestUnacknowledgedPsn := psnAdd op.endPsn 1 }.completeOpAtHead true
    else (context, opCompleted)

def completeOpTillPsn (context : QpContext) (psn : Psn) : QpContext × Bool :=
  completeOps psn context.sendQueue context false

/-- Sends everything again from the oldest unacknowledged packet on. -/
def goBackN (context : QpContext) : QpContext :=
  let rewound := { context with
    nextPsn := context.oldestUnacknowledgedPsn
    nextOpIndex := 0 }
  let active := rewound.addWorkQueueToActiveSet .request
  { active with
    highestPsnWithAckReq := psnAdd active.oldestUnacknowledgedPsn (-1) }.cancelRto

/-- `ProcessRxAck`, and whether it resets the retransmission timer. -/
def processRxAck (context : QpContext) (packet : Packet) : Except Fault (QpContext × Bool) :=
  if !context.psnIsValidAtInitiator packet.psn then .ok (context, false)
  else
    let nakSeq := decide (packet.ackType = .nak ∧ packet.nakType = .psnSequenceError)
    if packet.ackType = .ack ∨ nakSeq then
      let (context, resetRto) := context.completeOpTillPsn packet.psn
      if context.psnIsValidAtInitiator packet.psn then
        match context.sendQueue.head? with
        | none => .error .emptySendQueue
        | some op =>
          if op.opcode = .read then
            if psnBetween packet.psn op.psn op.endPsn ∧ packet.psn ≠ op.endPsn then
              .error .ackInsideRead
            -- Beyond the read, its response is missing.
            else if nakSeq ∨ packet.psn ≠ op.endPsn then .ok (context.goBackN, resetRto)
            else .ok (context, resetRto)
          else
            let acked := { context with oldestUnacknowledgedPsn := psnAdd packet.psn 1 }
            .ok (if nakSeq then acked.goBackN else acked, true)
      else .ok (if nakSeq then context.goBackN else context, resetRto)
    else .ok (context, false)

/-- What a read response does after the implicit acknowledgement, and whether the retransmission
timer is reset. -/
def processReadResponse (context : QpContext) (psn : Psn) (resetRto : Bool) :
    Except Fault (QpContext × Bool) :=
  if psn = context.oldestUnacknowledgedPsn then
    match context.sendQueue.head? with
    | none => .error .emptySendQueue
    | some op =>
      if op.opcode = .read then
        let advanced := { context with
          oldestUnacknowledgedPsn := psnAdd context.oldestUnacknowledgedPsn 1 }
        let completed := if psn = op.endPsn then advanced.completeOpAtHead else advanced
        .ok ({ completed with readRetried := false }, true)
      else .error .headIsNotRead
  else if context.psnIsValidAtInitiator psn then
    if context.readRetried then .ok (context, resetRto)
    else .ok ({ context with readRetried := true }.goBackN, resetRto)
  else .ok (context, resetRto)

/-! ### Requests at the responder -/

/-- The number of packets of a transfer. -/
def numberOfPackets (config : Config) (length : UInt32) : UInt32 :=
  if length = 0 then 1 else 1 + (length - 1) / config.rdmaMtu

/-- A write packet. -/
def processWrite (context : QpContext) (packet : Packet) : QpContext :=
  if context.psnIsValidAtTarget packet.psn then
    if packet.psn = context.expectedPsn then
      { ({ context with
          expectedPsn := psnAdd context.expectedPsn 1 }.generateAckOrUpdateCoalescingState
            packet.ackReq) with nakSequenceErrorSent := false }
    else context.transmitAck
  else if !context.nakSequenceErrorSent then context.transmitNakSequenceError
  else context

/-- Moves past a new read request. An acknowledgement that is held back goes out before it. -/
def expectAfterRead (context : QpContext) (nPkt : Psn) : QpContext :=
  let context :=
    if context.inboundReadRequestQueue.isEmpty ∧ 0 < context.ackCoalescingCounter then
      context.transmitAck
    else context
  { context with
    expectedPsn := psnAdd context.expectedPsn nPkt
    nakSequenceErrorSent := false }

/-- Drops the read requests that a retry makes void. -/
def dropReadRequests (context : QpContext) (psn : Psn) : QpContext :=
  { context with
    inboundReadRequestQueue := context.inboundReadRequestQueue.rdropWhile fun request =>
      context.psnSmallerAtTarget psn request.psn }

/-- Enqueues a read request, and has it served. -/
def enqueueReadRequest (context : QpContext) (request : InboundReadRequest) : QpContext :=
  let queued := { context with
    inboundReadRequestQueue := context.inboundReadRequestQueue ++ [request] }
  (if queued.inboundReadRequestQueue.length = 1 then { queued with irrqPsn := request.psn }
    else queued).addWorkQueueToActiveSet .response

/-- A read request. -/
def processReadRequest (config : Config) (context : QpContext) (packet : Packet) : QpContext :=
  let nPkt := BitVec.ofNat 24 (numberOfPackets config packet.requestLength).toNat
  if context.psnIsValidAtTarget packet.psn then
    (if packet.psn = context.expectedPsn then context.expectAfterRead nPkt
      else context.dropReadRequests packet.psn).enqueueReadRequest
        ⟨packet.psn, psnAdd packet.psn (nPkt - 1), packet.requestLength⟩
  else if !context.nakSequenceErrorSent then context.transmitNakSequenceError
  else context

/-- `ProcessRxPacket`. -/
def processRxPacket (config : Config) (context : QpContext) (packet : Packet) :
    Except Fault QpContext :=
  let outcome : Except Fault (QpContext × Bool) :=
    match packet.opcode with
    | .writeFirst | .writeMiddle | .writeLast | .writeOnly =>
      .ok (context.processWrite packet, false)
    | .readRequest => .ok (context.processReadRequest config packet, false)
    | .readResponseFirst | .readResponseOnly =>
      let (context, resetRto) := context.completeOpTillPsn (psnAdd packet.psn (-1))
      context.processReadResponse packet.psn resetRto
    | .readResponseMiddle | .readResponseLast => context.processReadResponse packet.psn false
    | .ack => context.processRxAck packet
    | .sendFirst | .sendMiddle | .sendLast | .sendOnly | .congestionNotification =>
      .ok (context, false)
  outcome.map fun (context, resetRto) => if resetRto then context.resetRto else context

/-! ### Posting and sending -/

/-- `PostOp` of a connected queue pair. -/
def postOp (config : Config) (context : QpContext) (op : RdmaOp) : QpContext :=
  if op.opcode = .recv then { context with receiveQueue := context.receiveQueue ++ [op] }
  else
    let packets := (if op.length = 0 then 0 else op.length - 1) / config.rdmaMtu
    let endPsn := psnAdd context.tailPsn (BitVec.ofNat 24 packets.toNat)
    { context with
      tailPsn := psnAdd endPsn 1
      sendQueue := context.sendQueue ++ [{ op with psn := context.tailPsn, endPsn := endPsn }]
      }.addWorkQueueToActiveSet .request

/-- The opcode of a packet, by its place among the packets of a transfer. -/
def placeOpcode (psn endPsn current : Psn) (only first last middle : Opcode) : Opcode :=
  if psn = endPsn then only
  else if current = psn then first
  else if current = endPsn then last
  else middle

/-- The payload of a packet of a transfer. -/
def placePayload (config : Config) (length : UInt32) (psn endPsn current : Psn) : UInt32 :=
  if psn = endPsn then length
  else if current = endPsn then length % config.rdmaMtu
  else config.rdmaMtu

/-- The packet that `CreateRequestPacket` makes for an operation. -/
def requestPacket (config : Config) (op : RdmaOp) (nextPsn : Psn) : Except Fault Packet :=
  match op.opcode with
  | .recv => .error .cannotSendRecv
  | .read => .ok
      { opcode := .readRequest
        psn := nextPsn
        ackReq := true
        requestLength :=
          op.length - config.rdmaMtu * UInt32.ofNat (psnSubtract nextPsn op.psn).toNat }
  | .send => .ok
      { opcode := placeOpcode op.psn op.endPsn nextPsn .sendOnly .sendFirst .sendLast .sendMiddle
        psn := nextPsn
        ackReq := true
        payloadLength := placePayload config op.length op.psn op.endPsn nextPsn }
  | .write => .ok
      { opcode :=
          placeOpcode op.psn op.endPsn nextPsn .writeOnly .writeFirst .writeLast .writeMiddle
        psn := nextPsn
        ackReq := true
        payloadLength := placePayload config op.length op.psn op.endPsn nextPsn }

/-- How `CreateRequestPacket` moves on after a packet of an operation. A read has one packet. -/
def advanceRequest (context : QpContext) (op : RdmaOp) : QpContext :=
  let context := { context with highestPsnWithAckReq := context.nextPsn }
  if op.opcode = .read then
    { context with
      maxPsn := if context.maxPsn = context.nextPsn then psnAdd op.endPsn 1 else context.maxPsn
      nextOpIndex := context.nextOpIndex + 1
      nextPsn := psnAdd op.endPsn 1 }
  else
    { context with
      maxPsn :=
        if context.maxPsn = context.nextPsn then psnAdd context.maxPsn 1 else context.maxPsn
      nextOpIndex :=
        if context.nextPsn = op.endPsn then context.nextOpIndex + 1 else context.nextOpIndex
      nextPsn := psnAdd context.nextPsn 1 }

def createRequestPacket (config : Config) (context : QpContext) :
    Except Fault (Packet × QpContext) :=
  match context.sendQueue[context.nextOpIndex.toNat]? with
  | none => .error .indexOutOfRange
  | some op =>
    (requestPacket config op context.nextPsn).map fun packet => (packet, context.advanceRequest op)

def createResponsePacket (config : Config) (context : QpContext) :
    Except Fault (Packet × QpContext) :=
  match context.inboundReadRequestQueue with
  | [] => .error .indexOutOfRange
  | request :: rest =>
    let packet : Packet :=
      { opcode := placeOpcode request.psn request.endPsn context.irrqPsn .readResponseOnly
          .readResponseFirst .readResponseLast .readResponseMiddle
        psn := context.irrqPsn
        payloadLength :=
          placePayload config request.length request.psn request.endPsn context.irrqPsn }
    .ok (packet,
      if context.irrqPsn = request.endPsn then
        { context with
          inboundReadRequestQueue := rest
          irrqPsn := (rest.head?.map InboundReadRequest.psn).getD context.irrqPsn }
      else { context with irrqPsn := psnAdd context.irrqPsn 1 })

/-- The acknowledgements that wait for the read requests to be served. -/
def transmitTriggered (context : QpContext) : QpContext :=
  if context.inboundReadRequestQueue.isEmpty then
    let context :=
      if context.nakSequenceErrorTriggered then
        { context.transmitNakSequenceError with ackTriggered := false }
      else context
    if context.ackTriggered then context.transmitAck else context
  else context

/-- `TransmitPacket`. -/
def transmitPacket (config : Config) (context : QpContext) :
    WorkType → Except Fault QpContext
  | .request => (context.createRequestPacket config).map fun (packet, context) =>
    (context.enqueuePacket packet).startRto
  | .response => (context.createResponsePacket config).map fun (packet, context) =>
    (context.enqueuePacket packet).transmitTriggered

def hasMoreWork (context : QpContext) : WorkType → Bool
  | .request => context.nextOpIndex.toNat < context.sendQueue.length
  | .response => !context.inboundReadRequestQueue.isEmpty

/-- A turn of `RunWorkScheduler` that serves one of the two work queues. -/
def runWorkScheduler (config : Config) (context : QpContext) (workType : WorkType) :
    Except Fault QpContext :=
  (context.transmitPacket config workType).map fun context =>
    context.setWorkQueueActive (context.hasMoreWork workType) workType

/-! ### Runs -/

/-- What can happen to a queue pair: an operation is posted, one of its active work queues is
served, a packet arrives from the network, a timer event is due, or time passes. -/
inductive Event where
  | post (op : RdmaOp)
  | transmit (workType : WorkType)
  | receive (packet : Packet)
  | retransmissionTimer
  | ackCoalescingTimer
  | tick (duration : Int)
  deriving DecidableEq, Repr

/-- Only active work queues are served, events are due at their time, and time does not pass them
by. -/
def Possible (context : QpContext) : Event → Prop
  | .post _ => True
  | .transmit workType => context.isWorkQueueActive workType = true
  | .receive _ => True
  | .retransmissionTimer => context.now ∈ context.rtoEvents
  | .ackCoalescingTimer => context.now ∈ context.ackCoalescingEvents
  | .tick duration => 0 < duration ∧
    ∀ due ∈ context.rtoEvents ++ context.ackCoalescingEvents, context.now + duration ≤ due

instance (context : QpContext) : (event : Event) → Decidable (context.Possible event)
  | .post _ => .isTrue trivial
  | .transmit _ => inferInstanceAs (Decidable (_ = true))
  | .receive _ => .isTrue trivial
  | .retransmissionTimer => inferInstanceAs (Decidable (_ ∈ _))
  | .ackCoalescingTimer => inferInstanceAs (Decidable (_ ∈ _))
  | .tick _ => inferInstanceAs (Decidable (_ ∧ _))

def perform (config : Config) (context : QpContext) : Event → Except Fault QpContext
  | .post op => .ok (context.postOp config op)
  | .transmit workType => context.runWorkScheduler config workType
  | .receive packet => context.processRxPacket config packet
  | .retransmissionTimer => context.handleRto
  | .ackCoalescingTimer => .ok context.handleAckCoalescingTimeout
  | .tick duration => .ok { context with now := context.now + duration }

def Step (config : Config) (before after : QpContext) : Prop :=
  ∃ event, before.Possible event ∧ before.perform config event = .ok after

/-- A queue pair that was just created. -/
def Initial (context : QpContext) : Prop :=
  ∃ retxTimeout ackCoalescingTimeout ackCoalescingThreshold,
    0 ≤ retxTimeout ∧ 0 ≤ ackCoalescingTimeout ∧ context =
      { retxTimeout := retxTimeout
        ackCoalescingTimeout := ackCoalescingTimeout
        ackCoalescingThreshold := ackCoalescingThreshold }

end QpContext
end Isekai.Roce
