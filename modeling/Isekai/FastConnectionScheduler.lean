import Isekai.AdmissionControl
import Isekai.SequenceNumber
import Isekai.Transactions
import Isekai.WeightedRoundRobin

/-! The fast connection scheduler: the queues of every connection, the round robin policies
that choose among them, and the recomputation of who is eligible, which the engine runs after
each enqueue and each change of a gating variable. -/

namespace Isekai.FastConnectionScheduler
open AdmissionControl WeightedRoundRobin

/-! ## Connections as the scheduler sees them -/

/-- `kTxBitmapWidth`, the size of a transmitter window. -/
def txBitmapWidth : Nat := 1024

/-- `falcon_rue::kFractionalBits` of a fixed point congestion window. -/
def fractionalBits : Nat := 10

/-- The fabric congestion window in packets, at least one. -/
def roundedFcwnd (fabricCongestionWindow : UInt32) : Nat :=
  if 2 ^ fractionalBits < fabricCongestionWindow.toNat then
    fabricCongestionWindow.toNat / 2 ^ fractionalBits
  else 1

/-- `CongestionControlMetadata`. The configuration keeps the window within the bitmap. -/
structure CongestionControlMetadata where
  fabricCongestionWindow : UInt32
  nicCongestionWindow : UInt32
  withinWindow : roundedFcwnd fabricCongestionWindow ≤ txBitmapWidth

/-- The gating variables of `TransmitterReliabilityWindowMetadata`. -/
structure TransmitterWindow where
  basePsn : UInt32 := 0
  nextPsn : UInt32 := 0
  outstandingRequestsCounter : UInt32 := 0
  outstandingRetransmissionRequestsCounter : UInt32 := 0
  oowNotificationReceived : Bool := false
  deriving DecidableEq, Repr

structure ConnectionState where
  orderedMode : OrderingMode
  transactions : TransactionKey → Option TransactionMetadata := fun _ => none
  nextRequestSequenceNumber : UInt32 := 0
  currentSolicitationSequenceNumber : UInt32 := 0
  requestWindow : TransmitterWindow := {}
  dataWindow : TransmitterWindow := {}
  congestionControl : CongestionControlMetadata
  isOpRateLimited : Bool := false

namespace ConnectionState

def getTransaction (connection : ConnectionState) (key : TransactionKey) :
    Except Abort TransactionMetadata :=
  match connection.transactions key with
  | none => .error .unknownTransaction
  | some transaction => .ok transaction

def setTransaction (connection : ConnectionState) (key : TransactionKey)
    (transaction : TransactionMetadata) : ConnectionState :=
  { connection with
    transactions := Function.update connection.transactions key (some transaction) }

/-- The transaction and the packet that an outgoing work item stands for. -/
def lookupPacket (connection : ConnectionState) (rsn : UInt32) (type : PacketType) :
    Except Abort (TransactionKey × TransactionMetadata × PacketMetadata) :=
  match getTransactionLocation type false with
  | .error abort => .error abort
  | .ok location =>
    match connection.transactions ⟨rsn, location⟩ with
    | none => .error .unknownTransaction
    | some transaction =>
      match transaction.packets type with
      | none => .error .unknownPacket
      | some packet => .ok (⟨rsn, location⟩, transaction, packet)

/-- `GetAppropriateTxWindow`. -/
def txWindow (connection : ConnectionState) (type : PacketType) : TransmitterWindow :=
  if belongsToRequestWindow type then connection.requestWindow else connection.dataWindow

def modifyTxWindow (connection : ConnectionState) (type : PacketType)
    (change : TransmitterWindow → TransmitterWindow) : ConnectionState :=
  if belongsToRequestWindow type then
    { connection with requestWindow := change connection.requestWindow }
  else { connection with dataWindow := change connection.dataWindow }

/-- `GetOpenFcwnd`: the PSNs that the fabric window still has room for. -/
def getOpenFcwnd (connection : ConnectionState) (type : PacketType) : UInt32 :=
  let window := connection.txWindow type
  let psnBound := window.basePsn +
    UInt32.ofNat (roundedFcwnd connection.congestionControl.fabricCongestionWindow)
  if SequenceNumber.seqLT window.nextPsn psnBound then psnBound - window.nextPsn else 0

/-- Packets that count as outstanding requests. -/
def countsAsRequest (type : PacketType) : Bool :=
  type = .pullRequest ∨ type = .pushRequest ∨ type = .pushUnsolicitedData

/-- `MeetsInitialTransmissionCCTxGatingCriteria`. -/
def meetsCcCriteria (connection : ConnectionState) (type : PacketType) : Bool :=
  if connection.getOpenFcwnd type = 0 then false
  else if countsAsRequest type then
    decide ((connection.txWindow type).outstandingRequestsCounter <
      connection.congestionControl.nicCongestionWindow)
  else true

/-- `MeetsInitialTransmissionOowTxGatingCriteria`, under the flag that enables the pause. -/
def meetsOowCriteria (connection : ConnectionState) (enablePause : Bool) (type : PacketType) :
    Bool :=
  !(enablePause && (connection.txWindow type).oowNotificationReceived)

end ConnectionState

/-! ## The scheduler and its host -/

/-- A packet of a transaction that waits for its first transmission. A phantom request, which
stands for an ordered unsolicited push, has the type `invalid`. -/
structure WorkId where
  rsn : UInt32
  type : PacketType
  deriving DecidableEq, Repr

inductive PacketTypeQueue where
  | pullAndOrderedPushRequest | unorderedPushRequest | pushData | pushGrant | pullData
  deriving DecidableEq, Repr

instance : LT PacketTypeQueue where
  lt first second := first.ctorIdx < second.ctorIdx

instance : DecidableLT PacketTypeQueue := fun first second =>
  inferInstanceAs (Decidable (first.ctorIdx < second.ctorIdx))

/-- `kQueueTypes`. -/
def queueTypes : List PacketTypeQueue :=
  [.pullAndOrderedPushRequest, .unorderedPushRequest, .pushData, .pushGrant, .pullData]

/-- `kMaxRequestLength`. -/
def maxRequestLength : UInt64 := 4200

abbrev ConnectionSchedulerQueues := PacketTypeQueue → List WorkId

structure Scheduler where
  packetQueueWisePktCount : PacketTypeQueue → Nat
  packetTypePolicy : Policy PacketTypeQueue
  connectionPolicy : PacketTypeQueue → Policy UInt32
  phantomConnectionPolicy : Policy UInt32 := {}
  orderedPushReqConnectionPolicy : Policy UInt32 := {}
  connectionQueues : UInt32 → Option ConnectionSchedulerQueues := fun _ => none

/-- The part of the Falcon model that the scheduler works with. `network` is what was handed
to the traffic shaper, oldest first. -/
structure Host where
  connections : UInt32 → Option ConnectionState := fun _ => none
  scheduler : Scheduler
  admission : AdmissionControlManager
  thresholdSolicit : UInt32
  enablePauseInitialTransmissionOnOowDrops : Bool
  packetBuilderXoff : Bool := false
  now : Nat := 0
  network : List (UInt32 × WorkId) := []

/-- `ComputePacketTypeWeight`: one credit for every 64 packets, rounded up. -/
def computePacketTypeWeight (count : PacketTypeQueue → Nat) (queueType : PacketTypeQueue) : Nat :=
  (count queueType + 63) / 64

/-- An error of a policy is one that its caller checks for. -/
def checked {α : Type} : Except PolicyError α → Except Abort α
  | .error .unavailable => .error .noCandidate
  | .error _ => .error .policyEntity
  | .ok value => .ok value

namespace Scheduler

/-- The constructor. -/
def initialPacketTypePolicy : Except PolicyError (Policy PacketTypeQueue) :=
  queueTypes.foldlM (fun policy queueType => policy.initializeEntity (fun _ => 0) queueType)
    { enforceOrder := true }

def weight (scheduler : Scheduler) : PacketTypeQueue → Nat :=
  computePacketTypeWeight scheduler.packetQueueWisePktCount

def queue (scheduler : Scheduler) (scid : UInt32) (queueType : PacketTypeQueue) : List WorkId :=
  match scheduler.connectionQueues scid with
  | none => []
  | some queues => queues queueType

def setQueue (scheduler : Scheduler) (scid : UInt32) (queueType : PacketTypeQueue)
    (items : List WorkId) : Scheduler :=
  { scheduler with
    connectionQueues := Function.update scheduler.connectionQueues scid
      (some (Function.update (scheduler.queue scid) queueType items)) }

def setConnectionPolicy (scheduler : Scheduler) (queueType : PacketTypeQueue)
    (policy : Policy UInt32) : Scheduler :=
  { scheduler with
    connectionPolicy := Function.update scheduler.connectionPolicy queueType policy }

/-- `UpdateOutstandingPacketCount` for an enqueued packet. -/
def countEnqueued (scheduler : Scheduler) (queueType : PacketTypeQueue) : Scheduler :=
  { scheduler with
    packetQueueWisePktCount := Function.update scheduler.packetQueueWisePktCount queueType
      (scheduler.packetQueueWisePktCount queueType + 1) }

/-- `UpdateOutstandingPacketCount` for a dequeued packet. -/
def countDequeued (scheduler : Scheduler) (queueType : PacketTypeQueue) : Scheduler :=
  { scheduler with
    packetQueueWisePktCount := Function.update scheduler.packetQueueWisePktCount queueType
      (scheduler.packetQueueWisePktCount queueType - 1) }

/-- `InitConnectionSchedulerQueues`. -/
def initConnectionSchedulerQueues (scheduler : Scheduler) (scid : UInt32) :
    Except Abort Scheduler :=
  match scheduler.connectionQueues scid with
  | some _ => .error .unknownQueues
  | none => do
    let scheduler :=
      { scheduler with
        connectionQueues := Function.update scheduler.connectionQueues scid (some fun _ => []) }
    let scheduler ← queueTypes.foldlM (fun (scheduler : Scheduler) queueType => do
      let policy ← checked ((scheduler.connectionPolicy queueType).initializeEntity equalWeights scid)
      return scheduler.setConnectionPolicy queueType policy) scheduler
    let ordered ← checked (scheduler.orderedPushReqConnectionPolicy.initializeEntity equalWeights scid)
    let phantom ← checked (scheduler.phantomConnectionPolicy.initializeEntity equalWeights scid)
    return { scheduler with
      orderedPushReqConnectionPolicy := ordered, phantomConnectionPolicy := phantom }

end Scheduler

namespace Host

/-- `PerformDirectLookup`. -/
def lookup (host : Host) (scid : UInt32) : Except Abort ConnectionState :=
  match host.connections scid with
  | none => .error .unknownConnection
  | some connection => .ok connection

def setConnection (host : Host) (scid : UInt32) (connection : ConnectionState) : Host :=
  { host with connections := Function.update host.connections scid (some connection) }

end Host

/-! ## Eligibility -/

/-- What `RecomputeEligibility` finds for one queue of a connection: whether its policy entry
is active, and what to do with the phantom and the ordered push request policies. -/
structure QueueMarks where
  active : Bool
  phantom : Option Bool := none
  orderedPush : Option Bool := none
  deriving DecidableEq, Repr

/-- Whether the head of a queue may be sent as far as its own flag goes, which only push data
is asked for. -/
def headEligible (connection : ConnectionState) (queueType : PacketTypeQueue) (head : WorkId) :
    Except Abort Bool :=
  if queueType = .pushData then
    match connection.lookupPacket head.rsn head.type with
    | .error abort => .error abort
    | .ok (_, _, packet) => .ok packet.isTransmissionEligible
  else .ok true

/-- The marks of a queue with the given items. -/
def queueMarks (connection : ConnectionState) (enablePause : Bool) (queueType : PacketTypeQueue)
    (items : List WorkId) : Except Abort QueueMarks :=
  let shared := queueType = .pullAndOrderedPushRequest
  match items with
  | [] =>
    .ok (if shared then ⟨false, some false, some false⟩ else ⟨false, none, none⟩)
  | head :: _ =>
    if shared ∧ head.type = .invalid then .ok ⟨true, some true, none⟩
    else if connection.isOpRateLimited then
      .ok ⟨false, if shared then some false else none, none⟩
    else
      match headEligible connection queueType head with
      | .error abort => .error abort
      | .ok eligible =>
        let meetsCriteria := connection.meetsCcCriteria head.type &&
          connection.meetsOowCriteria enablePause head.type
        .ok ⟨eligible && meetsCriteria, if shared then some false else none,
          if shared then some (head.type = .pushRequest && meetsCriteria) else none⟩

def mark (policy : Policy UInt32) (scid : UInt32) : Option Bool → Except Abort (Policy UInt32)
  | none => .ok policy
  | some true => checked (policy.markEntityActive scid)
  | some false => checked (policy.markEntityInactive scid)

namespace Scheduler

def applyMarks (scheduler : Scheduler) (scid : UInt32) (queueType : PacketTypeQueue)
    (marks : QueueMarks) : Except Abort Scheduler := do
  let policy ← mark (scheduler.connectionPolicy queueType) scid (some marks.active)
  let phantom ← mark scheduler.phantomConnectionPolicy scid marks.phantom
  let orderedPush ← mark scheduler.orderedPushReqConnectionPolicy scid marks.orderedPush
  return { scheduler.setConnectionPolicy queueType policy with
    phantomConnectionPolicy := phantom
    orderedPushReqConnectionPolicy := orderedPush }

/-- Marks the queues of a connection, one after the other. -/
def recomputeConnection (scheduler : Scheduler) (connection : ConnectionState)
    (enablePause : Bool) (scid : UInt32) (queues : ConnectionSchedulerQueues) :
    List PacketTypeQueue → Except Abort Scheduler
  | [] => .ok scheduler
  | queueType :: rest => do
    let marks ← queueMarks connection enablePause queueType (queues queueType)
    let scheduler ← scheduler.applyMarks scid queueType marks
    scheduler.recomputeConnection connection enablePause scid queues rest

def phantomHasWork (scheduler : Scheduler) : Bool × Scheduler :=
  let (work, policy) := scheduler.phantomConnectionPolicy.hasWork equalWeights
  (work, { scheduler with phantomConnectionPolicy := policy })

def orderedPushHasWork (scheduler : Scheduler) : Bool × Scheduler :=
  let (work, policy) := scheduler.orderedPushReqConnectionPolicy.hasWork equalWeights
  (work, { scheduler with orderedPushReqConnectionPolicy := policy })

def connectionHasWork (scheduler : Scheduler) (queueType : PacketTypeQueue) : Bool × Scheduler :=
  let (work, policy) := (scheduler.connectionPolicy queueType).hasWork equalWeights
  (work, scheduler.setConnectionPolicy queueType policy)

def packetTypeHasWork (scheduler : Scheduler) : Bool × Scheduler :=
  let (work, policy) := scheduler.packetTypePolicy.hasWork scheduler.weight
  (work, { scheduler with packetTypePolicy := policy })

def markPacketType (scheduler : Scheduler) (queueType : PacketTypeQueue) (active : Bool) :
    Except Abort Scheduler := do
  let policy ← checked (if active then scheduler.packetTypePolicy.markEntityActive queueType
    else scheduler.packetTypePolicy.markEntityInactive queueType)
  return { scheduler with packetTypePolicy := policy }

end Scheduler

namespace Host

/-- The global criterion of a queue type. The shared request queue passes it without a look at
admission control when some connection has an ordered push request or a phantom to send. -/
def meetsGlobalCriteria (host : Host) (queueType : PacketTypeQueue) : Bool × Host :=
  match queueType with
  | .pushGrant =>
    let (meets, admission) :=
      host.admission.meetsAdmissionControlCriteria maxRequestLength .pushGrant host.now
    (meets, { host with admission := admission })
  | .pullAndOrderedPushRequest =>
    let (ordered, scheduler) := host.scheduler.orderedPushHasWork
    if ordered then (true, { host with scheduler := scheduler })
    else
      let (phantom, scheduler) := scheduler.phantomHasWork
      if phantom then (true, { host with scheduler := scheduler })
      else
        let (meets, admission) :=
          host.admission.meetsAdmissionControlCriteria maxRequestLength .pullRequest host.now
        (meets, { host with scheduler := scheduler, admission := admission })
  | .unorderedPushRequest | .pushData | .pullData => (true, host)

/-- The second step of `RecomputeEligibility` for one queue type. -/
def recomputeQueueType (host : Host) (queueType : PacketTypeQueue) : Except Abort Host :=
  let (meets, host) := host.meetsGlobalCriteria queueType
  let (work, scheduler) :=
    if meets then host.scheduler.connectionHasWork queueType else (false, host.scheduler)
  match scheduler.markPacketType queueType work with
  | .error abort => .error abort
  | .ok scheduler => .ok { host with scheduler := scheduler }

/-- `HasWork`. -/
def hasWork (host : Host) : Bool × Host :=
  let (phantom, scheduler) := host.scheduler.phantomHasWork
  let host := { host with scheduler := scheduler }
  if phantom then (true, host)
  else if host.packetBuilderXoff then (false, host)
  else
    let (work, scheduler) := host.scheduler.packetTypeHasWork
    (work, { host with scheduler := scheduler })

/-- The first step of `RecomputeEligibility`, for connections that have queues. -/
def recomputeOwnQueues (host : Host) (scid : UInt32) : Except Abort Scheduler :=
  match host.scheduler.connectionQueues scid with
  | none => .ok host.scheduler
  | some queues =>
    match host.lookup scid with
    | .error abort => .error abort
    | .ok connection =>
      host.scheduler.recomputeConnection connection
        host.enablePauseInitialTransmissionOnOowDrops scid queues queueTypes

/-- `RecomputeEligibility`. At its end it asks whether there is work, to wake the arbiter. -/
def recomputeEligibility (host : Host) (scid : UInt32) : Except Abort Host := do
  let scheduler ← host.recomputeOwnQueues scid
  let host ← queueTypes.foldlM recomputeQueueType { host with scheduler := scheduler }
  return host.hasWork.2

/-- A write to a gating variable of the connection, which recomputes its eligibility. -/
def writeGating (host : Host) (scid : UInt32) (connection : ConnectionState) :
    Except Abort Host :=
  (host.setConnection scid connection).recomputeEligibility scid

/-! ## Enqueueing -/

def enqueue (host : Host) (scid : UInt32) (queueType : PacketTypeQueue) (item : WorkId) : Host :=
  { host with
    scheduler :=
      host.scheduler.setQueue scid queueType (host.scheduler.queue scid queueType ++ [item]) }

def countEnqueued (host : Host) (queueType : PacketTypeQueue) : Host :=
  { host with scheduler := host.scheduler.countEnqueued queueType }

/-- Replaces the metadata of a packet of a connection's transaction. -/
def setPacket (host : Host) (scid : UInt32) (connection : ConnectionState) (key : TransactionKey)
    (transaction : TransactionMetadata) (type : PacketType) (packet : PacketMetadata) : Host :=
  host.setConnection scid
    (connection.setTransaction key (transaction.createPacket type packet))

/-- The queue that packets of a type wait in. -/
def queueOf (ordered : Bool) : PacketType → Except Abort PacketTypeQueue
  | .pullRequest => .ok .pullAndOrderedPushRequest
  | .pushRequest => .ok (if ordered then .pullAndOrderedPushRequest else .unorderedPushRequest)
  | .pullData => .ok .pullData
  | .pushGrant => .ok .pushGrant
  | .pushSolicitedData | .pushUnsolicitedData => .ok .pushData
  | _ => .error .unexpectedPacketType

/-- `AddPacketToQueue`. On an ordered connection, solicited data only becomes eligible here: its
work item joined the queue together with the push request. An unsolicited push adds a phantom to
the request queue, and a push request adds the work item of its data. -/
def addPacketToQueue (host : Host) (scid : UInt32) (rsn : UInt32) (type : PacketType) :
    Except Abort Host := do
  let connection ← host.lookup scid
  let (key, transaction, packet) ← connection.lookupPacket rsn type
  let ordered := connection.orderedMode = .ordered
  let queueType ← queueOf ordered type
  if ordered ∧ type = .pushSolicitedData then
    return (host.setPacket scid connection key transaction type
      { packet with isTransmissionEligible := true }).countEnqueued queueType
  else
    let host := (host.enqueue scid queueType ⟨rsn, type⟩).countEnqueued queueType
    if ordered ∧ type = .pushUnsolicitedData then
      let _ ← transaction.getPacketMetadata .invalid
      return (host.countEnqueued .pullAndOrderedPushRequest).enqueue scid
        .pullAndOrderedPushRequest ⟨rsn, .invalid⟩
    else if ordered ∧ type = .pushRequest then
      let _ ← transaction.getPacketMetadata .pushSolicitedData
      return host.enqueue scid .pushData ⟨rsn, .pushSolicitedData⟩
    else return host

/-- `EnqueuePacket`. -/
def enqueuePacket (host : Host) (scid : UInt32) (rsn : UInt32) (type : PacketType) :
    Except Abort Host := do
  let host ← host.addPacketToQueue scid rsn type
  host.recomputeEligibility scid

/-! ## Scheduling -/

/-- `CanSend`. -/
def canSend (host : Host) (scid : UInt32) (item : WorkId) : Except Abort (Bool × Host) := do
  let connection ← host.lookup scid
  let (_, transaction, packet) ← connection.lookupPacket item.rsn item.type
  let admission := host.admission.meetsAdmissionControlCriteria
    transaction.requestLength.toUInt64 item.type host.now
  let sendable := packet.isTransmissionEligible && !connection.isOpRateLimited &&
    connection.meetsCcCriteria item.type && admission.1 &&
    connection.meetsOowCriteria host.enablePauseInitialTransmissionOnOowDrops item.type
  return (sendable, { host with admission := admission.2 })

/-- The first part of `TransmitPacket`: the attempt is counted, and a first transmission gets
its PSN, and a push request its SSN. -/
def assignPsnAndSsn (host : Host) (scid : UInt32) (item : WorkId) :
    Except Abort (Bool × Host) := do
  let connection ← host.lookup scid
  let (key, transaction, packet) ← connection.lookupPacket item.rsn item.type
  let packet := { packet with transmitAttempts := packet.transmitAttempts + 1 }
  if packet.transmitAttempts = 1 then
    let packet := { packet with psn := (connection.txWindow item.type).nextPsn }
    let connection :=
      connection.setTransaction key (transaction.createPacket item.type packet)
    let host ← host.writeGating scid (connection.modifyTxWindow item.type fun window =>
      { window with nextPsn := window.nextPsn + 1 })
    if item.type = .pushRequest then
      let connection ← host.lookup scid
      return (true, host.setConnection scid { connection with
        currentSolicitationSequenceNumber := connection.currentSolicitationSequenceNumber + 1 })
    else return (true, host)
  else return (false, host.setPacket scid connection key transaction item.type packet)

/-- `IncrementOutstandingRequestCount`, or its sibling for retransmitted requests. -/
def incrementRequestCount (host : Host) (scid : UInt32) (type : PacketType) (first : Bool) :
    Except Abort Host := do
  let connection ← host.lookup scid
  if ConnectionState.countsAsRequest type then
    host.writeGating scid (connection.modifyTxWindow type fun window =>
      if first then
        { window with outstandingRequestsCounter := window.outstandingRequestsCounter + 1 }
      else
        { window with
          outstandingRetransmissionRequestsCounter :=
            window.outstandingRetransmissionRequestsCounter + 1 })
  else return host

/-- The transaction moves on with the first transmission of its packet. -/
def transmittedTransaction (transaction : TransactionMetadata) (type : PacketType) (first : Bool) :
    Except Abort TransactionMetadata :=
  if first then transaction.updateState type .ntwkTx else .ok transaction

/-- `TransmitPacket`, as far as gating variables, transactions and the wire are concerned. -/
def transmitPacket (host : Host) (scid : UInt32) (item : WorkId) : Except Abort Host := do
  let (first, host) ← host.assignPsnAndSsn scid item
  let host ← host.incrementRequestCount scid item.type first
  let connection ← host.lookup scid
  let (key, transaction, _) ← connection.lookupPacket item.rsn item.type
  let transaction ← transmittedTransaction transaction item.type first
  let host := host.setConnection scid (connection.setTransaction key transaction)
  return { host with network := host.network ++ [(scid, item)] }

/-- `ConnectionSchedulerQueues::Pop`. -/
def pop (host : Host) (scid : UInt32) (queueType : PacketTypeQueue) : Except Abort Host :=
  match host.scheduler.queue scid queueType with
  | [] => .error .emptyQueue
  | _ :: rest => .ok { host with scheduler := host.scheduler.setQueue scid queueType rest }

/-- The connection has sent a packet, and pauses for the inter-op gap. -/
def limitOpRate (host : Host) (scid : UInt32) : Except Abort Host := do
  let connection ← host.lookup scid
  if connection.isOpRateLimited then return host
  else host.writeGating scid { connection with isOpRateLimited := true }

/-- `SchedulePacket`. -/
def schedulePacket (host : Host) (scid : UInt32) (queueType : PacketTypeQueue) (item : WorkId) :
    Except Abort Host := do
  let connection ← host.lookup scid
  let (_, transaction, _) ← connection.lookupPacket item.rsn item.type
  let admission ← host.admission.reserveAdmissionControlResource
    transaction.requestLength.toUInt64 item.type
  let host := { host with
    admission := admission, scheduler := host.scheduler.countDequeued queueType }
  let host ← host.limitOpRate scid
  let host ← host.transmitPacket scid item
  let host ← host.pop scid queueType
  host.recomputeEligibility scid

/-- `HandlePhantomRequest`: the unsolicited data that the phantom stands for becomes eligible. -/
def handlePhantomRequest (host : Host) (scid : UInt32) (queueType : PacketTypeQueue)
    (item : WorkId) : Except Abort Host := do
  let connection ← host.lookup scid
  let (key, transaction, packet) ← connection.lookupPacket item.rsn .pushUnsolicitedData
  let _ ← transaction.getPacketMetadata item.type
  let host := host.setPacket scid connection key transaction .pushUnsolicitedData
    { packet with isTransmissionEligible := true }
  let host ← host.pop scid queueType
  let host := { host with scheduler := host.scheduler.countDequeued queueType }
  host.recomputeEligibility scid

/-- The queue type, the connection and the work item that come next. -/
def nextWork (host : Host) : Except Abort (PacketTypeQueue × UInt32 × WorkId × Host) := do
  let (queueType, packetTypePolicy) ←
    checked (host.scheduler.packetTypePolicy.getNextEntity host.scheduler.weight)
  let scheduler := { host.scheduler with packetTypePolicy := packetTypePolicy }
  let (scid, policy) ←
    checked ((scheduler.connectionPolicy queueType).getNextEntity equalWeights)
  let scheduler := scheduler.setConnectionPolicy queueType policy
  match scheduler.queue scid queueType with
  | [] => .error .emptyQueue
  | item :: _ => return (queueType, scid, item, { host with scheduler := scheduler })

/-- `ScheduleWork`. -/
def scheduleWork (host : Host) : Except Abort Host := do
  let (queueType, scid, item, host) ← host.nextWork
  if item.type = .invalid then host.handlePhantomRequest scid queueType item
  else
    let (sendable, host) ← host.canSend scid item
    if sendable then host.schedulePacket scid queueType item else .error .cannotSend

end Host
end Isekai.FastConnectionScheduler
