import Isekai.FastRetransmissionScheduler
import Isekai.SchedulerSystem

/-! A Falcon host with both of its fast schedulers, its acks and its arbiter. A gating variable that
changes has both schedulers recompute who is eligible; the arbiter goes round the schedulers and
has the first one with work hand a packet down. When the arbiter runs is left open: an arbitration
may come at any time. -/

namespace Isekai.RoundRobinArbiter
open FastConnectionScheduler FastRetransmissionScheduler SchedulerSystem AdmissionControl

inductive SchedulerType where
  | connection | retransmission | ackNack
  deriving DecidableEq, Repr

/-- A packet that a scheduler handed to `TransmitPacket`, and whether the packet builder was
paused then. -/
structure Handed where
  scheduler : SchedulerType
  scid : UInt32
  item : WorkId
  packetBuilderXoff : Bool
  deriving DecidableEq, Repr

/-- `inserted` holds the packets in the reorder engine whose callbacks are still to come.
`tlpBypassesCc` is whether probes are enabled and bypass congestion control, and `earlyTlp` says
which PSNs of a connection's windows were last to be sent again as probes. The acks and NACKs that
wait are known by their connections. -/
structure FastSystem where
  host : Host
  inserted : List (UInt32 × UInt32 × PacketType) := []
  retransmission : RetransmissionScheduler := {}
  tlpBypassesCc : Bool
  earlyTlp : UInt32 → WindowTypeQueue → UInt32 → Bool := fun _ _ _ => false
  opRateEvents : List (Nat × UInt32) := []
  ackNackQueue : List UInt32 := []
  schedulerOrdering : List SchedulerType
  candidateSchedulerIndex : Nat := 0
  handed : List Handed := []

/-- `kPerConnectionInterOpGap` in nanoseconds, the ticks of the clock. -/
def perConnectionInterOpGap : Nat := 25

namespace FastSystem

variable (fast : FastSystem)

def withHost (host : Host) : FastSystem := { fast with host := host }

/-! ## Gating variables -/

/-- Whether a packet to be sent again passes the windows as a probe. -/
def bypasses (scid : UInt32) (item : RetransmissionWorkId) : Bool :=
  fast.tlpBypassesCc &&
    fast.earlyTlp scid (if belongsToRequestWindow item.type then .request else .data) item.psn

/-- `RecomputeEligibility` of the retransmission scheduler. -/
def recomputeRetransmission (scid : UInt32) : Except Abort FastSystem :=
  match fast.retransmission.connectionQueues scid with
  | none => .ok fast
  | some queues => do
    let connection ← fast.host.lookup scid
    let scheduler ← fast.retransmission.recomputeConnection connection (fast.bypasses scid) scid
      queues
    return { fast with retransmission := scheduler }

/-- A write to a gating variable of the connection, after which both schedulers recompute its
eligibility. -/
def writeGating (scid : UInt32) (connection : ConnectionState) : Except Abort FastSystem := do
  let host ← fast.host.writeGating scid connection
  (fast.withHost host).recomputeRetransmission scid

/-! ## Transmissions -/

/-- The first part of `TransmitPacket`: the attempt is counted, and a first transmission gets
its PSN, and a push request its SSN. -/
def assignPsnAndSsn (scid : UInt32) (item : WorkId) : Except Abort (Bool × FastSystem) := do
  let connection ← fast.host.lookup scid
  let (key, transaction, packet) ← connection.lookupPacket item.rsn item.type
  let packet := { packet with transmitAttempts := packet.transmitAttempts + 1 }
  if packet.transmitAttempts = 1 then
    let packet := { packet with psn := (connection.txWindow item.type).nextPsn }
    let connection :=
      connection.setTransaction key (transaction.createPacket item.type packet)
    let fast ← fast.writeGating scid (connection.modifyTxWindow item.type fun window =>
      { window with nextPsn := window.nextPsn + 1 })
    if item.type = .pushRequest then
      let connection ← fast.host.lookup scid
      return (true, fast.withHost (fast.host.setConnection scid { connection with
        currentSolicitationSequenceNumber := connection.currentSolicitationSequenceNumber + 1 }))
    else return (true, fast)
  else
    return (false, fast.withHost
      (fast.host.setPacket scid connection key transaction item.type packet))

/-- `IncrementOutstandingRequestCount`, or its sibling for retransmitted requests. -/
def incrementRequestCount (scid : UInt32) (type : PacketType) (first : Bool) :
    Except Abort FastSystem := do
  let connection ← fast.host.lookup scid
  if ConnectionState.countsAsRequest type then
    fast.writeGating scid (connection.modifyTxWindow type fun window =>
      if first then
        { window with outstandingRequestsCounter := window.outstandingRequestsCounter + 1 }
      else
        { window with
          outstandingRetransmissionRequestsCounter :=
            window.outstandingRetransmissionRequestsCounter + 1 })
  else return fast

/-- `TransmitPacket`, as far as gating variables, transactions and the wire are concerned. -/
def transmitPacket (scid : UInt32) (item : WorkId) : Except Abort FastSystem := do
  let (first, fast) ← fast.assignPsnAndSsn scid item
  let fast ← fast.incrementRequestCount scid item.type first
  let connection ← fast.host.lookup scid
  let (key, transaction, _) ← connection.lookupPacket item.rsn item.type
  let transaction ← Host.transmittedTransaction transaction item.type first
  let host := fast.host.setConnection scid (connection.setTransaction key transaction)
  return fast.withHost { host with network := host.network ++ [(scid, item)] }

/-- The call of `TransmitPacket` by a scheduler. -/
def handOver (scheduler : SchedulerType) (scid : UInt32) (item : WorkId) :
    Except Abort FastSystem :=
  let entry : Handed := ⟨scheduler, scid, item, fast.host.packetBuilderXoff⟩
  { fast with handed := fast.handed ++ [entry] }.transmitPacket scid item

/-- A connection that sends a packet becomes limited in its op rate. -/
def setOpRateLimited (scid : UInt32) : Except Abort FastSystem := do
  let connection ← fast.host.lookup scid
  if connection.isOpRateLimited then return fast
  else fast.writeGating scid { connection with isOpRateLimited := true }

/-- The connection is about to send a packet, and pauses for the inter-op gap. -/
def limitOpRate (scid : UInt32) : Except Abort FastSystem := do
  let fast ← fast.setOpRateLimited scid
  return { fast with
    opRateEvents := fast.opRateEvents ++ [(fast.host.now + perConnectionInterOpGap, scid)] }

/-! ## The connection scheduler -/

/-- `SchedulePacket` of the connection scheduler. -/
def schedulePacket (scid : UInt32) (queueType : PacketTypeQueue) (item : WorkId) :
    Except Abort FastSystem := do
  let connection ← fast.host.lookup scid
  let (_, transaction, _) ← connection.lookupPacket item.rsn item.type
  let admission ← fast.host.admission.reserveAdmissionControlResource
    transaction.requestLength.toUInt64 item.type
  let fast := fast.withHost { fast.host with
    admission := admission, scheduler := fast.host.scheduler.countDequeued queueType }
  let fast ← fast.limitOpRate scid
  let fast ← fast.handOver .connection scid item
  let host ← fast.host.pop scid queueType
  let host ← host.recomputeEligibility scid
  return fast.withHost host

/-- `ScheduleWork` of the connection scheduler. -/
def scheduleConnectionWork : Except Abort FastSystem := do
  let (queueType, scid, item, host) ← fast.host.nextWork
  if item.type = .invalid then
    let host ← host.handlePhantomRequest scid queueType item
    return fast.withHost host
  else
    let (sendable, host) ← host.canSend scid item
    if sendable then (fast.withHost host).schedulePacket scid queueType item
    else .error .cannotSend

/-! ## The retransmission scheduler -/

/-- The packet metadata of an outgoing packet. -/
def lookupPacket (scid rsn : UInt32) (type : PacketType) : Except Abort PacketMetadata := do
  let connection ← fast.host.lookup scid
  let (_, _, packet) ← connection.lookupPacket rsn type
  return packet

/-- `EnqueuePacket` of the retransmission scheduler, which tells whether the packet was added. -/
def enqueueRetransmission (scid rsn : UInt32) (type : PacketType) :
    Except Abort (Bool × FastSystem) := do
  let packet ← fast.lookupPacket scid rsn type
  let queueType ← FastRetransmissionScheduler.queueOf type
  match insertWork ⟨rsn, packet.psn, type⟩ (fast.retransmission.queue scid queueType) with
  | none => return (false, fast)
  | some items =>
    let fast ← { fast with
      retransmission := fast.retransmission.setQueue scid queueType items
    }.recomputeRetransmission scid
    return (true, fast)

/-- `DequeuePacket` of the retransmission scheduler. -/
def dequeueRetransmission (scid rsn : UInt32) (type : PacketType) : Except Abort FastSystem := do
  let packet ← fast.lookupPacket scid rsn type
  let queueType ← FastRetransmissionScheduler.queueOf type
  { fast with
    retransmission := fast.retransmission.setQueue scid queueType
      (eraseWork ⟨rsn, packet.psn, type⟩ (fast.retransmission.queue scid queueType))
  }.recomputeRetransmission scid

/-- `DecrementOutstandingRetransmittedRequestCount` for a packet that was not acked. -/
def decrementRetransmittedRequestCount (scid : UInt32) (type : PacketType) :
    Except Abort FastSystem := do
  let connection ← fast.host.lookup scid
  if ConnectionState.countsAsRequest type then
    fast.writeGating scid (connection.modifyTxWindow type fun window =>
      { window with
        outstandingRetransmissionRequestsCounter :=
          window.outstandingRetransmissionRequestsCounter - 1 })
  else return fast

/-- `InitiateRetransmission`, after its caller has set the reason. -/
def initiateRetransmission (scid rsn : UInt32) (type : PacketType) (probe : Bool) :
    Except Abort FastSystem := do
  let packet ← fast.lookupPacket scid rsn type
  let queueType ← FastRetransmissionScheduler.queueOf type
  let (added, fast) ← { fast with
    earlyTlp := Function.update fast.earlyTlp scid (Function.update (fast.earlyTlp scid) queueType
      (Function.update (fast.earlyTlp scid queueType) packet.psn probe))
  }.enqueueRetransmission scid rsn type
  let packet ← fast.lookupPacket scid rsn type
  if 1 < packet.transmitAttempts ∧ added then fast.decrementRetransmittedRequestCount scid type
  else return fast

/-- `SchedulePacket` of the retransmission scheduler. -/
def scheduleRetransmission (scid : UInt32) (queueType : WindowTypeQueue)
    (item : RetransmissionWorkId) : Except Abort FastSystem := do
  let _ ← fast.lookupPacket scid item.rsn item.type
  let fast ← fast.limitOpRate scid
  let fast ← fast.handOver .retransmission scid ⟨item.rsn, item.type⟩
  { fast with
    retransmission := fast.retransmission.setQueue scid queueType
      (eraseWork item (fast.retransmission.queue scid queueType))
  }.recomputeRetransmission scid

/-- `ScheduleWork` of the retransmission scheduler. -/
def scheduleRetransmissionWork : Except Abort FastSystem := do
  let (scid, queueType, item, scheduler) ← fast.retransmission.nextWork
  let connection ← fast.host.lookup scid
  if FastRetransmissionScheduler.canSend connection (fast.bypasses scid item) item then
    let fast := { fast with retransmission := scheduler.setNextWindowType scid queueType.next }
    fast.scheduleRetransmission scid queueType item
  else .error .cannotSend

/-! ## The arbiter -/

/-- `HasWork` of a scheduler. -/
def schedulerHasWork : SchedulerType → Bool × FastSystem
  | .connection =>
    let (work, host) := fast.host.hasWork
    (work, fast.withHost host)
  | .retransmission =>
    if fast.host.packetBuilderXoff then (false, fast)
    else
      let (work, scheduler) := fast.retransmission.hasPolicyWork
      (work, { fast with retransmission := scheduler })
  | .ackNack => (!fast.host.packetBuilderXoff && !fast.ackNackQueue.isEmpty, fast)

/-- `ScheduleWork` of a scheduler. -/
def scheduleWork : SchedulerType → Except Abort FastSystem
  | .connection => fast.scheduleConnectionWork
  | .retransmission => fast.scheduleRetransmissionWork
  | .ackNack =>
    match fast.ackNackQueue with
    | [] => .error .emptyQueue
    | _ :: rest => .ok { fast with ackNackQueue := rest }

/-- `HasWork` of the arbiter, which asks the schedulers until one has work. -/
def hasWork : Bool × FastSystem :=
  let (connection, fast) := fast.schedulerHasWork .connection
  if connection then (true, fast)
  else
    let (retransmission, fast) := fast.schedulerHasWork .retransmission
    if retransmission then (true, fast) else fast.schedulerHasWork .ackNack

/-- The loop of `DoArbitration`, from one position of the ordering on. -/
def arbitrate (fast : FastSystem) (current : Nat) : Nat → Except Abort FastSystem
  | 0 => .ok fast
  | positions + 1 =>
    match fast.schedulerOrdering[current]? with
    | none => .error .noCandidate
    | some scheduler =>
      let (work, fast) := fast.schedulerHasWork scheduler
      let following := (current + 1) % fast.schedulerOrdering.length
      if work then
        (fast.scheduleWork scheduler).map fun (served : FastSystem) =>
          { served with candidateSchedulerIndex := following }
      else fast.arbitrate following positions

/-- `DoArbitration`. -/
def doArbitration : Except Abort FastSystem :=
  let (work, fast) := fast.hasWork
  if work then
    (fast.arbitrate fast.candidateSchedulerIndex fast.schedulerOrdering.length).map
      fun (served : FastSystem) => served.hasWork.2
  else .ok fast

/-! ## Runs -/

/-- What can happen to a host. A gating event writes the windows of a connection or its congestion
control, as acks and rate updates do; the other gating variable belongs to the schedulers. -/
inductive Event where
  | connect (scid : UInt32) (mode : OrderingMode) (congestionControl : CongestionControlMetadata)
  | submit (scid : UInt32) (op : UlpOp)
  | receive (scid : UInt32) (packet : NetworkPacket)
  | callback (scid rsn : UInt32) (type : PacketType)
  | ulpAck (scid rsn : UInt32)
  | ulpRnrNack (scid rsn : UInt32)
  | networkAck (scid rsn : UInt32) (type : PacketType)
  | gating (scid : UInt32) (requestWindow dataWindow : TransmitterWindow)
      (congestionControl : CongestionControlMetadata)
  | initiateRetransmission (scid rsn : UInt32) (type : PacketType) (probe : Bool)
  | dequeueRetransmission (scid rsn : UInt32) (type : PacketType)
  | enqueueAckNack (scid : UInt32)
  | opRate (due : Nat) (scid : UInt32)
  | setXoff (xoff : Bool)
  | arbitrate
  | tick

/-- A transaction that begins takes the place of no other one. -/
def unused (scid : UInt32) (key : ConnectionState → TransactionKey) : Bool :=
  (fast.host.connections scid).all fun connection =>
    (connection.transactions (key connection)).isNone

/-- A packet is sent again when it was sent before and does not wait to be sent again already. -/
def mayRetransmit (scid rsn : UInt32) (type : PacketType) : Bool :=
  match fast.lookupPacket scid rsn type, FastRetransmissionScheduler.queueOf type with
  | .ok packet, .ok queueType =>
    packet.transmitAttempts ≠ 0 &&
      (fast.retransmission.queue scid queueType).all fun item => item.psn ≠ packet.psn
  | _, _ => false

def possible : Event → Bool
  | .connect scid _ _ => (fast.host.connections scid).isNone
  | .submit scid op => (requestKind fast.host.thresholdSolicit op).isNone ||
      fast.unused scid fun connection => ⟨connection.nextRequestSequenceNumber, .initiator⟩
  | .receive scid packet => !beginsTransaction packet.type ||
      fast.unused scid fun _ => ⟨packet.rsn, .target⟩
  | .callback scid rsn type => decide ((scid, rsn, type) ∈ fast.inserted)
  | .initiateRetransmission scid rsn type _ => fast.mayRetransmit scid rsn type
  | .opRate due scid => decide ((due, scid) ∈ fast.opRateEvents) && decide (due ≤ fast.host.now)
  | .tick => fast.opRateEvents.all fun event => decide (fast.host.now < event.1)
  | _ => true

def perform : Event → Except Abort FastSystem
  | .connect scid mode congestionControl => do
    let retransmission ← fast.retransmission.initConnectionSchedulerQueues scid
    let scheduler ← fast.host.scheduler.initConnectionSchedulerQueues scid
    let host := { fast.host with scheduler := scheduler }.setConnection scid
      { orderedMode := mode, congestionControl := congestionControl }
    return { fast with host := host, retransmission := retransmission }
  | .submit scid op => do
    let host ← initiateTransaction fast.host scid op
    return fast.withHost host
  | .receive scid packet => do
    let host ← transferRxPacket fast.host scid packet
    return { fast with
      host := host, inserted := fast.inserted ++ [(scid, packet.rsn, packet.type)] }
  | .callback scid rsn type => do
    let host ← reorderCallback fast.host scid rsn type
    return { fast with host := host, inserted := fast.inserted.erase (scid, rsn, type) }
  | .ulpAck scid rsn => do
    let host ← ackTransaction fast.host scid rsn
    return fast.withHost host
  | .ulpRnrNack scid rsn => do
    let (type, host) ← rnrNackTransaction fast.host scid rsn
    return { fast with host := host, inserted := fast.inserted ++ [(scid, rsn, type)] }
  | .networkAck scid rsn type => do
    let host ← ackFromNetwork fast.host scid rsn type
    return { fast with
      host := host
      inserted := if type = .pushSolicitedData ∨ type = .pushUnsolicitedData then
        fast.inserted ++ [(scid, rsn, .ack)] else fast.inserted }
  | .gating scid requestWindow dataWindow congestionControl => do
    let connection ← fast.host.lookup scid
    fast.writeGating scid { connection with
      requestWindow := requestWindow, dataWindow := dataWindow
      congestionControl := congestionControl }
  | .initiateRetransmission scid rsn type probe => fast.initiateRetransmission scid rsn type probe
  | .dequeueRetransmission scid rsn type => fast.dequeueRetransmission scid rsn type
  | .enqueueAckNack scid => .ok { fast with ackNackQueue := fast.ackNackQueue ++ [scid] }
  | .opRate due scid => do
    let connection ← fast.host.lookup scid
    let fast := { fast with opRateEvents := fast.opRateEvents.erase (due, scid) }
    if connection.isOpRateLimited then
      fast.writeGating scid { connection with isOpRateLimited := false }
    else return fast
  | .setXoff xoff => .ok (fast.withHost { fast.host with packetBuilderXoff := xoff })
  | .arbitrate => fast.doArbitration
  | .tick => .ok (fast.withHost { fast.host with now := fast.host.now + 1 })

/-- The order in which the arbiter goes round the schedulers, by their weights. -/
def weightedOrdering (connection retransmission ackNack : Nat) : List SchedulerType :=
  List.replicate connection .connection ++ List.replicate retransmission .retransmission ++
    List.replicate ackNack .ackNack

/-- A host before any connection is set up. -/
structure Initial : Prop where
  host : SchedulerSystem.Initial { host := fast.host }
  ordering : ∃ connection retransmission ackNack,
    fast.schedulerOrdering = weightedOrdering connection retransmission ackNack ∧
      fast.schedulerOrdering ≠ []
  fresh : fast = { host := fast.host, tlpBypassesCc := fast.tlpBypassesCc
                   schedulerOrdering := fast.schedulerOrdering }

/-- The state after some events, if each of them is possible and succeeds. -/
def run (events : List Event) : Option FastSystem :=
  Runs.execute (fun (fast : FastSystem) event =>
    Runs.attempt (fast.possible event = true) (fast.perform event)) events fast

end FastSystem
end Isekai.RoundRobinArbiter
