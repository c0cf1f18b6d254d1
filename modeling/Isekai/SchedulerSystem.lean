import Isekai.FastConnectionScheduler
import Isekai.Runs

/-! One Falcon host with its ULP and its network: the entry points of the Falcon model around
the connection scheduler and admission control, and the runs that any order of submissions,
arrivals, callbacks, acks, gating changes and scheduling produces. -/

namespace Isekai.SchedulerSystem
open FastConnectionScheduler AdmissionControl WeightedRoundRobin

/-! ## Transactions from the ULP and from the network -/

/-- What the ULP submits: a read request, the response to one, or a write. -/
inductive UlpOp where
  | readRequest (requestLength dataLength sglLength : UInt32)
  | readResponse (rsn dataLength sglLength : UInt32)
  | write (requestLength dataLength sglLength : UInt32)
  deriving DecidableEq, Repr

/-- The fields of an incoming transaction packet that the transaction layer reads. -/
structure NetworkPacket where
  type : PacketType
  rsn : UInt32
  requestLength : UInt32 := 0
  payloadLength : UInt32 := 0
  deriving DecidableEq, Repr

/-- The packets of a new push: for a solicited one the push request and its data, for an
unsolicited one the data, and on an ordered connection the phantom request. -/
def createPushPackets (ordered solicited : Bool) (dataLength sglLength : UInt32)
    (transaction : TransactionMetadata) : TransactionMetadata :=
  let packet : PacketMetadata := { dataLength := dataLength, sglLength := sglLength }
  if solicited then
    (transaction.createPacket .pushSolicitedData
      { packet with isTransmissionEligible := !ordered }).createPacket .pushRequest packet
  else if ordered then
    (transaction.createPacket .invalid {}).createPacket .pushUnsolicitedData
      { packet with isTransmissionEligible := false }
  else transaction.createPacket .pushUnsolicitedData packet

/-- `CreateOrUpdateTransactionFromUlp`. -/
def createOrUpdateTransactionFromUlp (connection : ConnectionState) (threshold : UInt32) :
    UlpOp → Except Abort (UInt32 × PacketType × ConnectionState)
  | .readRequest requestLength dataLength sglLength => do
    let rsn := connection.nextRequestSequenceNumber
    let transaction : TransactionMetadata :=
      { rsn := rsn, type := .pull, location := .initiator, requestLength := requestLength }
    let transaction := transaction.createPacket .pullRequest
      { dataLength := dataLength, sglLength := sglLength }
    let transaction ← transaction.updateState .pullRequest .ulpRx
    return (rsn, .pullRequest,
      { connection with nextRequestSequenceNumber := rsn + 1 }.setTransaction
        ⟨rsn, .initiator⟩ transaction)
  | .write requestLength dataLength sglLength => do
    let rsn := connection.nextRequestSequenceNumber
    let solicited := decide (threshold ≤ requestLength)
    let packetType := if solicited then .pushRequest else .pushUnsolicitedData
    let transaction : TransactionMetadata :=
      { rsn := rsn, type := if solicited then .pushSolicited else .pushUnsolicited,
        location := .initiator, requestLength := requestLength }
    let transaction := createPushPackets (connection.orderedMode = .ordered) solicited dataLength
      sglLength transaction
    let transaction ← transaction.updateState packetType .ulpRx
    return (rsn, packetType,
      { connection with nextRequestSequenceNumber := rsn + 1 }.setTransaction
        ⟨rsn, .initiator⟩ transaction)
  | .readResponse rsn dataLength sglLength => do
    let transaction ← connection.getTransaction ⟨rsn, .target⟩
    let transaction := transaction.createPacket .pullData
      { dataLength := dataLength, sglLength := sglLength }
    let transaction ← transaction.updateState .pullData .ulpRx
    return (rsn, .pullData, connection.setTransaction ⟨rsn, .target⟩ transaction)

/-- `try_emplace` of the transaction that an incoming request begins. -/
def emplaceTransaction (connection : ConnectionState) (packet : NetworkPacket) :
    Except Abort TransactionMetadata :=
  match packet.type with
  | .pullRequest =>
    .ok ((connection.transactions ⟨packet.rsn, .target⟩).getD
      { rsn := packet.rsn, type := .pull, location := .target,
        requestLength := packet.requestLength })
  | .pushRequest =>
    .ok ((connection.transactions ⟨packet.rsn, .target⟩).getD
      ({ rsn := packet.rsn, type := .pushSolicited, location := .target,
         requestLength := packet.requestLength : TransactionMetadata }.createPacket .pushGrant {}))
  | .pushUnsolicitedData =>
    .ok ((connection.transactions ⟨packet.rsn, .target⟩).getD
      { rsn := packet.rsn, type := .pushUnsolicited, location := .target })
  | .pullData | .pushGrant => connection.getTransaction ⟨packet.rsn, .initiator⟩
  | .pushSolicitedData => connection.getTransaction ⟨packet.rsn, .target⟩
  | _ => .error .unexpectedPacketType

/-- The length that a response or a grant states, in 16 bits. -/
def actualLength (packet : NetworkPacket) : UInt16 :=
  if packet.type = .pushGrant then packet.requestLength.toUInt16 else packet.payloadLength.toUInt16

/-- `CreateOrUpdateTransactionFromNetwork`, with the length check that its caller makes. -/
def createOrUpdateTransactionFromNetwork (connection : ConnectionState) (packet : NetworkPacket) :
    Except Abort ConnectionState := do
  let transaction ← emplaceTransaction connection packet
  let location ← getTransactionLocation packet.type true
  let transaction := transaction.createPacket packet.type { payloadLength := packet.payloadLength }
  let transaction ← transaction.updateState packet.type .ntwkRx
  if packet.type ∈ [.pullData, .pushGrant, .pushSolicitedData] ∧
      transaction.requestLength.toUInt16 ≠ actualLength packet then
    .error .unexpectedLength
  else return connection.setTransaction ⟨packet.rsn, location⟩ transaction

/-! ## Entry points -/

/-- `FalconModel::InitiateTransaction`. -/
def initiateTransaction (host : Host) (scid : UInt32) (op : UlpOp) : Except Abort Host := do
  let connection ← host.lookup scid
  let (rsn, type, connection) ← createOrUpdateTransactionFromUlp connection host.thresholdSolicit op
  (host.setConnection scid connection).enqueuePacket scid rsn type

/-- `FalconModel::TransferRxPacket` of a packet that the receive window accepted. -/
def transferRxPacket (host : Host) (scid : UInt32) (packet : NetworkPacket) : Except Abort Host := do
  let connection ← host.lookup scid
  let connection ← createOrUpdateTransactionFromNetwork connection packet
  return host.setConnection scid connection

def eraseTransaction (connection : ConnectionState) (key : TransactionKey) : ConnectionState :=
  { connection with transactions := Function.update connection.transactions key none }

/-- `transaction->UpdateState` on a transaction of a connection. -/
def updateTransaction (host : Host) (scid : UInt32) (key : TransactionKey) (type : PacketType)
    (stage : TransactionStage) : Except Abort (TransactionMetadata × Host) := do
  let connection ← host.lookup scid
  let transaction ← connection.getTransaction key
  let transaction ← transaction.updateState type stage
  return (transaction, host.setConnection scid (connection.setTransaction key transaction))

/-- A refund of a transaction's bytes to the solicitation window. -/
def refund (host : Host) (transaction : TransactionMetadata) : Except Abort Host := do
  let admission ← host.admission.refundAdmissionControlResource
    transaction.requestLength.toUInt64 (transaction.type = .pushUnsolicited)
  return { host with admission := admission }

def erase (host : Host) (scid : UInt32) (key : TransactionKey) : Except Abort Host := do
  let connection ← host.lookup scid
  return host.setConnection scid (eraseTransaction connection key)

/-- `FalconModel::ReorderCallback`. -/
def reorderCallback (host : Host) (scid rsn : UInt32) (type : PacketType) : Except Abort Host := do
  match type with
  | .pullRequest | .pushSolicitedData | .pushUnsolicitedData => do
    let (transaction, host) ← updateTransaction host scid ⟨rsn, .target⟩ type .ulpTx
    let _ ← transaction.getPacketMetadata type
    return host
  | .pullData => do
    let (transaction, host) ← updateTransaction host scid ⟨rsn, .initiator⟩ .pullData .ulpTx
    let _ ← transaction.getPacketMetadata .pullData
    let host ← refund host transaction
    erase host scid ⟨rsn, .initiator⟩
  | .pushRequest | .pushGrant => do
    let next ← getNextFalconPacket type
    let location ← getTransactionLocation type true
    let connection ← host.lookup scid
    let transaction ← connection.getTransaction ⟨rsn, location⟩
    let _ ← transaction.getPacketMetadata next
    host.enqueuePacket scid rsn next
  | .ack => do
    let connection ← host.lookup scid
    let transaction ← connection.getTransaction ⟨rsn, .initiator⟩
    match transaction.type with
    | .pushSolicited => do
      let (_, host) ← updateTransaction host scid ⟨rsn, .initiator⟩ .pushSolicitedData .ulpCompletionTx
      erase host scid ⟨rsn, .initiator⟩
    | .pushUnsolicited => do
      let (_, host) ← updateTransaction host scid ⟨rsn, .initiator⟩ .pushUnsolicitedData
        .ulpCompletionTx
      erase host scid ⟨rsn, .initiator⟩
    | .pull => .error .unexpectedPacketType
  | _ => .error .unsupportedPacketType

/-- The packet of a transaction that its target hands to the ULP. -/
def ulpPacket : TransactionType → PacketType
  | .pull => .pullRequest
  | .pushSolicited => .pushSolicitedData
  | .pushUnsolicited => .pushUnsolicitedData

/-- `FalconModel::AckTransaction` for an ack. The transaction of a push ends with it. -/
def ackTransaction (host : Host) (scid rsn : UInt32) : Except Abort Host := do
  let connection ← host.lookup scid
  let transaction ← connection.getTransaction ⟨rsn, .target⟩
  let (transaction, host) ← updateTransaction host scid ⟨rsn, .target⟩ (ulpPacket transaction.type)
    .ulpAckRx
  match transaction.type with
  | .pull => return host
  | .pushSolicited => do
    let host ← refund host transaction
    erase host scid ⟨rsn, .target⟩
  | .pushUnsolicited => erase host scid ⟨rsn, .target⟩

/-- `FalconModel::AckTransaction` for an RNR NACK: the packet is handed to the ULP again later. -/
def rnrNackTransaction (host : Host) (scid rsn : UInt32) : Except Abort (PacketType × Host) := do
  let connection ← host.lookup scid
  let transaction ← connection.getTransaction ⟨rsn, .target⟩
  let (_, host) ← updateTransaction host scid ⟨rsn, .target⟩ (ulpPacket transaction.type) .ulpRnrRx
  return (ulpPacket transaction.type, host)

/-- What `EnqueueAckToUlp` does to the transaction of a packet that the peer acked: pull data
ends its transaction, push data waits for its completion. -/
def ackFromNetwork (host : Host) (scid rsn : UInt32) (type : PacketType) : Except Abort Host := do
  let location ← getTransactionLocation type false
  let (_, host) ← updateTransaction host scid ⟨rsn, location⟩ type .ntwkAckRx
  if type = .pullData then erase host scid ⟨rsn, location⟩ else return host

/-! ## The system -/

inductive RequestKind where
  | pull | solicitedPush | unsolicitedPush
  deriving DecidableEq, Repr

/-- What happens on a connection. Requests are numbered in the order of their submission. -/
inductive Event where
  | requested (number : Nat) (kind : RequestKind)
  | granted (number : Nat)
  | transmitted (number : Nat) (type : PacketType)
  deriving DecidableEq, Repr

/-- The events of a connection, oldest first, the count of its requests, and the number of the
request that was last given an RSN. -/
structure History where
  events : List Event := []
  requests : Nat := 0
  number : UInt32 → Nat := fun _ => 0

instance : LawfulBEq (UInt32 × UInt32 × PacketType) := inferInstance

/-- `inserted` holds the packets in the reorder engine and the completions whose callbacks are
still to come. -/
structure System where
  host : Host
  inserted : List (UInt32 × UInt32 × PacketType) := []
  history : UInt32 → History := fun _ => {}

def History.record (history : History) (event : Event) : History :=
  { history with events := history.events ++ [event] }

/-- The kind of request that a submission begins, if it begins one. -/
def requestKind (threshold : UInt32) : UlpOp → Option RequestKind
  | .readRequest _ _ _ => some .pull
  | .write requestLength _ _ =>
    some (if threshold ≤ requestLength then .solicitedPush else .unsolicitedPush)
  | .readResponse _ _ _ => none

/-- Records a submission of the connection. -/
def History.submit (history : History) (rsn : UInt32) : Option RequestKind → History
  | none => history
  | some kind =>
    { events := history.events ++ [.requested history.requests kind]
      requests := history.requests + 1
      number := Function.update history.number rsn history.requests }

/-- Records the packets that were handed to the traffic shaper. -/
def recordTransmissions (history : UInt32 → History) (sent : List (UInt32 × WorkId)) :
    UInt32 → History :=
  sent.foldl (fun history entry =>
    Function.update history entry.1 ((history entry.1).record
      (.transmitted ((history entry.1).number entry.2.rsn) entry.2.type))) history

/-- The gating variables of a connection may be written at any time, also by other components. -/
def GatingWrite (before after : ConnectionState) : Prop :=
  after = { before with
    requestWindow := after.requestWindow, dataWindow := after.dataWindow,
    congestionControl := after.congestionControl, isOpRateLimited := after.isOpRateLimited }

/-- A network packet that begins a transaction. -/
def beginsTransaction (type : PacketType) : Bool :=
  type = .pullRequest ∨ type = .pushRequest ∨ type = .pushUnsolicitedData

/-- The steps of a host. RSNs are not used again while their transactions live. Packets that the
receive window drops, such as duplicates, do not reach the host. -/
inductive Step : System → System → Prop where
  | connect {system : System} {host : Host} (scid : UInt32) (mode : OrderingMode)
      (congestionControl : CongestionControlMetadata) (scheduler : Scheduler)
      (fresh : system.host.connections scid = none)
      (done : system.host.scheduler.initConnectionSchedulerQueues scid = .ok scheduler)
      (established : host = { system.host with scheduler := scheduler }.setConnection scid
        { orderedMode := mode, congestionControl := congestionControl }) :
      Step system { system with host := host }
  | submit {system : System} {host : Host} {connection : ConnectionState} (scid : UInt32)
      (op : UlpOp) (known : system.host.connections scid = some connection)
      (unused : (requestKind system.host.thresholdSolicit op).isSome →
        connection.transactions ⟨connection.nextRequestSequenceNumber, .initiator⟩ = none)
      (done : initiateTransaction system.host scid op = .ok host) :
      Step system { system with
        host := host
        history := Function.update system.history scid ((system.history scid).submit
          connection.nextRequestSequenceNumber (requestKind system.host.thresholdSolicit op)) }
  | receive {system : System} {host : Host} {connection : ConnectionState} (scid : UInt32)
      (packet : NetworkPacket) (known : system.host.connections scid = some connection)
      (unused : beginsTransaction packet.type = true →
        connection.transactions ⟨packet.rsn, .target⟩ = none)
      (done : transferRxPacket system.host scid packet = .ok host) :
      Step system { system with
        host := host
        inserted := system.inserted ++ [(scid, packet.rsn, packet.type)]
        history :=
          if packet.type = .pushGrant then
            Function.update system.history scid ((system.history scid).record
              (.granted ((system.history scid).number packet.rsn)))
          else system.history }
  | callback {system : System} {host : Host} (scid rsn : UInt32) (type : PacketType)
      (due : (scid, rsn, type) ∈ system.inserted)
      (done : reorderCallback system.host scid rsn type = .ok host) :
      Step system { system with
        host := host, inserted := system.inserted.erase (scid, rsn, type) }
  | ulpAck {system : System} {host : Host} (scid rsn : UInt32)
      (done : ackTransaction system.host scid rsn = .ok host) :
      Step system { system with host := host }
  | ulpRnrNack {system : System} {host : Host} {type : PacketType} (scid rsn : UInt32)
      (done : rnrNackTransaction system.host scid rsn = .ok (type, host)) :
      Step system { system with host := host, inserted := system.inserted ++ [(scid, rsn, type)] }
  | networkAck {system : System} {host : Host} (scid rsn : UInt32) (type : PacketType)
      (done : ackFromNetwork system.host scid rsn type = .ok host) :
      Step system { system with
        host := host
        inserted := if type = .pushSolicitedData ∨ type = .pushUnsolicitedData then
          system.inserted ++ [(scid, rsn, .ack)] else system.inserted }
  | gating {system : System} {host : Host} {before after : ConnectionState} (scid : UInt32)
      (known : system.host.connections scid = some before) (write : GatingWrite before after)
      (done : system.host.writeGating scid after = .ok host) :
      Step system { system with host := host }
  | retransmit {system : System} {host : Host} {connection : ConnectionState}
      {key : TransactionKey} {transaction : TransactionMetadata} {packet : PacketMetadata}
      (scid : UInt32) (item : WorkId) (known : system.host.connections scid = some connection)
      (located : connection.lookupPacket item.rsn item.type = .ok (key, transaction, packet))
      (sent : packet.transmitAttempts ≠ 0)
      (done : system.host.transmitPacket scid item = .ok host) :
      Step system { system with host := host }
  | tick {system : System} :
      Step system { system with host := { system.host with now := system.host.now + 1 } }
  | xoff {system : System} (xoff : Bool) :
      Step system { system with host := { system.host with packetBuilderXoff := xoff } }
  | idle {system : System} {host : Host} (done : system.host.hasWork = (false, host)) :
      Step system { system with host := host }
  | schedule {system : System} {ready host : Host} (work : system.host.hasWork = (true, ready))
      (done : ready.scheduleWork = .ok host) :
      Step system { system with
        host := host
        history := recordTransmissions system.history
          (host.network.drop system.host.network.length) }

/-- A host before any connection is set up. -/
structure Initial (system : System) : Prop where
  connections : system.host.connections = fun _ => none
  policy : Scheduler.initialPacketTypePolicy = .ok system.host.scheduler.packetTypePolicy
  scheduler : system.host.scheduler = {
    packetQueueWisePktCount := fun _ => 0
    packetTypePolicy := system.host.scheduler.packetTypePolicy
    connectionPolicy := fun _ => { enforceOrder := true } }
  unsolicited : system.host.admission.solicitedDataBytes = 0
  network : system.host.network = []
  inserted : system.inserted = []
  history : system.history = fun _ => {}

def Reachable : System → Prop := Runs.Reachable Initial Step

end Isekai.SchedulerSystem
