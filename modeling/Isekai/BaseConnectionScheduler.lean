import Isekai.SchedulerSystem

/-! The base connection scheduler. It has the queues and the packet counts of the fast one, but no
cached eligibility: whatever its policies offer is looked at, and sent if it can be. Which head of a
queue they offer, and when the inter-op gap lets a connection send, is left open here. -/

namespace Isekai.BaseConnectionScheduler
open FastConnectionScheduler SchedulerSystem AdmissionControl

/-! ## Queues -/

/-- `InitConnectionSchedulerQueues`. -/
def initConnectionSchedulerQueues (scheduler : Scheduler) (scid : UInt32) :
    Except Abort Scheduler :=
  match scheduler.connectionQueues scid with
  | some _ => .error .unknownQueues
  | none =>
    .ok { scheduler with
      connectionQueues := Function.update scheduler.connectionQueues scid (some fun _ => []) }

/-- `AddPacketToQueue`, which `EnqueuePacket` calls. Ordered unsolicited data is not counted before
its phantom request is served. -/
def addPacketToQueue (host : Host) (scid rsn : UInt32) (type : PacketType) :
    Except Abort Host := do
  let connection ← host.lookup scid
  let (key, transaction, packet) ← connection.lookupPacket rsn type
  let ordered := connection.orderedMode = .ordered
  let queueType ← Host.queueOf ordered type
  if ordered ∧ type = .pushSolicitedData then
    return (host.setPacket scid connection key transaction type
      { packet with isTransmissionEligible := true }).countEnqueued queueType
  else
    let host := host.enqueue scid queueType ⟨rsn, type⟩
    if ordered ∧ type = .pushUnsolicitedData then
      let _ ← transaction.getPacketMetadata .invalid
      return (host.countEnqueued .pullAndOrderedPushRequest).enqueue scid
        .pullAndOrderedPushRequest ⟨rsn, .invalid⟩
    else
      let host := host.countEnqueued queueType
      if ordered ∧ type = .pushRequest then
        let _ ← transaction.getPacketMetadata .pushSolicitedData
        return host.enqueue scid .pushData ⟨rsn, .pushSolicitedData⟩
      else return host

/-! ## Transmission

The reliability manager transmits as it does under the fast scheduler, but nothing is recomputed
when a gating variable changes. -/

/-- The first part of `TransmitPacket`. -/
def assignPsnAndSsn (connection : ConnectionState) (item : WorkId) :
    Except Abort (Bool × ConnectionState) := do
  let (key, transaction, packet) ← connection.lookupPacket item.rsn item.type
  let packet := { packet with transmitAttempts := packet.transmitAttempts + 1 }
  if packet.transmitAttempts = 1 then
    let packet := { packet with psn := (connection.txWindow item.type).nextPsn }
    let connection := connection.setTransaction key (transaction.createPacket item.type packet)
    let connection := connection.modifyTxWindow item.type fun window =>
      { window with nextPsn := window.nextPsn + 1 }
    if item.type = .pushRequest then
      return (true, { connection with
        currentSolicitationSequenceNumber := connection.currentSolicitationSequenceNumber + 1 })
    else return (true, connection)
  else
    return (false, connection.setTransaction key (transaction.createPacket item.type packet))

/-- `IncrementOutstandingRequestCount`, or its sibling for retransmitted requests. -/
def incrementRequestCount (connection : ConnectionState) (type : PacketType) (first : Bool) :
    ConnectionState :=
  if ConnectionState.countsAsRequest type then
    connection.modifyTxWindow type fun window =>
      if first then
        { window with outstandingRequestsCounter := window.outstandingRequestsCounter + 1 }
      else
        { window with
          outstandingRetransmissionRequestsCounter :=
            window.outstandingRetransmissionRequestsCounter + 1 }
  else connection

/-- `TransmitPacket`, as far as its connection is concerned. -/
def transmitConnection (connection : ConnectionState) (item : WorkId) :
    Except Abort ConnectionState := do
  let (first, connection) ← assignPsnAndSsn connection item
  let connection := incrementRequestCount connection item.type first
  let (key, transaction, _) ← connection.lookupPacket item.rsn item.type
  let transaction ← Host.transmittedTransaction transaction item.type first
  return connection.setTransaction key transaction

/-- `TransmitPacket`. -/
def transmitPacket (host : Host) (scid : UInt32) (item : WorkId) : Except Abort Host := do
  let connection ← host.lookup scid
  let connection ← transmitConnection connection item
  return { host.setConnection scid connection with network := host.network ++ [(scid, item)] }

/-! ## Scheduling -/

/-- `CanSend`. -/
def canSend (host : Host) (scid : UInt32) (item : WorkId) : Except Abort (Bool × Host) := do
  let connection ← host.lookup scid
  let (_, transaction, packet) ← connection.lookupPacket item.rsn item.type
  let admission := host.admission.meetsAdmissionControlCriteria
    transaction.requestLength.toUInt64 item.type host.now
  let sendable := packet.isTransmissionEligible && (connection.meetsCcCriteria item.type &&
    admission.1 &&
    connection.meetsOowCriteria host.enablePauseInitialTransmissionOnOowDrops item.type)
  return (sendable, { host with admission := admission.2 })

/-- `SchedulePacket`, with the pop of `UpdatePolicyStates`. -/
def schedulePacket (host : Host) (scid : UInt32) (queueType : PacketTypeQueue) (item : WorkId) :
    Except Abort Host := do
  let connection ← host.lookup scid
  let (_, transaction, _) ← connection.lookupPacket item.rsn item.type
  let admission ← host.admission.reserveAdmissionControlResource
    transaction.requestLength.toUInt64 item.type
  let host := { host with
    admission := admission, scheduler := host.scheduler.countDequeued queueType }
  let host ← transmitPacket host scid item
  host.pop scid queueType

/-- `HandlePhantomRequest`: the data that the phantom stands for becomes eligible and is counted. -/
def handlePhantomRequest (host : Host) (scid : UInt32) (queueType : PacketTypeQueue)
    (item : WorkId) : Except Abort Host := do
  let connection ← host.lookup scid
  let (key, transaction, packet) ← connection.lookupPacket item.rsn .pushUnsolicitedData
  let host := (host.setPacket scid connection key transaction .pushUnsolicitedData
    { packet with isTransmissionEligible := true }).countEnqueued .pushData
  let _ ← transaction.getPacketMetadata item.type
  let host ← host.pop scid queueType
  return { host with scheduler := host.scheduler.countDequeued queueType }

/-! ## Runs of a host with the base scheduler -/

/-- `FalconModel::InitiateTransaction`. -/
def initiateTransaction (host : Host) (scid : UInt32) (op : UlpOp) : Except Abort Host := do
  let connection ← host.lookup scid
  let (rsn, type, connection) ← createOrUpdateTransactionFromUlp connection host.thresholdSolicit op
  addPacketToQueue (host.setConnection scid connection) scid rsn type

/-- `FalconModel::ReorderCallback`. The answers to push requests and grants go to the scheduler. -/
def reorderCallback (host : Host) (scid rsn : UInt32) (type : PacketType) : Except Abort Host :=
  match type with
  | .pushRequest | .pushGrant => do
    let next ← getNextFalconPacket type
    let location ← getTransactionLocation type true
    let connection ← host.lookup scid
    let transaction ← connection.getTransaction ⟨rsn, location⟩
    let _ ← transaction.getPacketMetadata next
    addPacketToQueue host scid rsn next
  | _ => SchedulerSystem.reorderCallback host scid rsn type

/-- The steps of a host. -/
inductive Step : System → System → Prop where
  | connect {system : System} {host : Host} (scid : UInt32) (mode : OrderingMode)
      (congestionControl : CongestionControlMetadata) (scheduler : Scheduler)
      (fresh : system.host.connections scid = none)
      (done : initConnectionSchedulerQueues system.host.scheduler scid = .ok scheduler)
      (established : host = { system.host with scheduler := scheduler }.setConnection scid
        { orderedMode := mode, congestionControl := congestionControl }) :
      Step system { system with host := host }
  | submit {system : System} {host : Host} {connection : ConnectionState} (scid : UInt32)
      (op : UlpOp) (known : system.host.connections scid = some connection)
      (unused : (requestKind system.host.thresholdSolicit op).isSome →
        connection.transactions ⟨connection.nextRequestSequenceNumber, .initiator⟩ = none)
      (done : initiateTransaction system.host scid op = .ok host) :
      Step system { system with
        host := host
        history := Function.update system.history scid ((system.history scid).submit
          connection.nextRequestSequenceNumber (requestKind system.host.thresholdSolicit op)) }
  | receive {system : System} {host : Host} {connection : ConnectionState} (scid : UInt32)
      (packet : NetworkPacket) (known : system.host.connections scid = some connection)
      (unused : beginsTransaction packet.type = true →
        connection.transactions ⟨packet.rsn, .target⟩ = none)
      (done : transferRxPacket system.host scid packet = .ok host) :
      Step system { system with
        host := host
        inserted := system.inserted ++ [(scid, packet.rsn, packet.type)]
        history :=
          if packet.type = .pushGrant then
            Function.update system.history scid ((system.history scid).record
              (.granted ((system.history scid).number packet.rsn)))
          else system.history }
  | callback {system : System} {host : Host} (scid rsn : UInt32) (type : PacketType)
      (due : (scid, rsn, type) ∈ system.inserted)
      (done : reorderCallback system.host scid rsn type = .ok host) :
      Step system { system with
        host := host, inserted := system.inserted.erase (scid, rsn, type) }
  | ulpAck {system : System} {host : Host} (scid rsn : UInt32)
      (done : ackTransaction system.host scid rsn = .ok host) :
      Step system { system with host := host }
  | ulpRnrNack {system : System} {host : Host} {type : PacketType} (scid rsn : UInt32)
      (done : rnrNackTransaction system.host scid rsn = .ok (type, host)) :
      Step system { system with host := host, inserted := system.inserted ++ [(scid, rsn, type)] }
  | networkAck {system : System} {host : Host} (scid rsn : UInt32) (type : PacketType)
      (done : ackFromNetwork system.host scid rsn type = .ok host) :
      Step system { system with
        host := host
        inserted := if type = .pushSolicitedData ∨ type = .pushUnsolicitedData then
          system.inserted ++ [(scid, rsn, .ack)] else system.inserted }
  | gating {system : System} {before after : ConnectionState} (scid : UInt32)
      (known : system.host.connections scid = some before) (write : GatingWrite before after) :
      Step system { system with host := system.host.setConnection scid after }
  | retransmit {system : System} {host : Host} {connection : ConnectionState}
      {key : TransactionKey} {transaction : TransactionMetadata} {packet : PacketMetadata}
      (scid : UInt32) (item : WorkId) (known : system.host.connections scid = some connection)
      (located : connection.lookupPacket item.rsn item.type = .ok (key, transaction, packet))
      (sent : packet.transmitAttempts ≠ 0)
      (done : transmitPacket system.host scid item = .ok host) :
      Step system { system with host := host }
  | tick {system : System} :
      Step system { system with host := { system.host with now := system.host.now + 1 } }
  | xoff {system : System} (xoff : Bool) :
      Step system { system with host := { system.host with packetBuilderXoff := xoff } }
  | refuse {system : System} {host : Host} {item : WorkId} {rest : List WorkId} (scid : UInt32)
      (queueType : PacketTypeQueue)
      (head : system.host.scheduler.queue scid queueType = item :: rest)
      (real : item.type ≠ .invalid) (asked : canSend system.host scid item = .ok (false, host)) :
      Step system { system with host := host }
  | schedule {system : System} {ready host : Host} {item : WorkId} {rest : List WorkId}
      (scid : UInt32) (queueType : PacketTypeQueue)
      (head : system.host.scheduler.queue scid queueType = item :: rest)
      (real : item.type ≠ .invalid) (asked : canSend system.host scid item = .ok (true, ready))
      (done : schedulePacket ready scid queueType item = .ok host) :
      Step system { system with
        host := host
        history := Function.update system.history scid ((system.history scid).record
          (.transmitted ((system.history scid).number item.rsn) item.type)) }
  | phantom {system : System} {host : Host} {item : WorkId} {rest : List WorkId} (scid : UInt32)
      (queueType : PacketTypeQueue)
      (head : system.host.scheduler.queue scid queueType = item :: rest)
      (phantom : item.type = .invalid)
      (done : handlePhantomRequest system.host scid queueType item = .ok host) :
      Step system { system with host := host }

def Reachable : System → Prop := Runs.Reachable Initial Step

end Isekai.BaseConnectionScheduler
