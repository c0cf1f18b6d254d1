import Isekai.SchedulerTransactionProofs
import Isekai.FalconCredits

/-! The lengths of one transaction on their way through both of its hosts: from the packet of the
ULP, where they have 32 bits, to the metadata of the initiator, through the header of a Falcon
packet, where they have 16, to the metadata of the target. -/

namespace Isekai.TransactionLengths
open FastConnectionScheduler
open SchedulerSystem hiding Step

/-- The lengths of a packet of the ULP. In a read response the first one is its response length. -/
structure RdmaLengths where
  requestLength : UInt32
  dataLength : UInt32
  sglLength : UInt32
  deriving DecidableEq, Repr

inductive Operation where
  | read | write
  deriving DecidableEq, Repr

/-- What the ULP of the initiator submits, and what the ULP of the target answers a read with. -/
structure Submission where
  operation : Operation
  request : RdmaLengths
  response : RdmaLengths
  deriving DecidableEq, Repr

variable (submission : Submission)

namespace Submission

/-- The operation as the initiator hands it to Falcon. -/
def op : UlpOp :=
  match submission.operation with
  | .read => .readRequest submission.request.requestLength submission.request.dataLength
      submission.request.sglLength
  | .write => .write submission.request.requestLength submission.request.dataLength
      submission.request.sglLength

/-- The answer as the target hands it to Falcon. -/
def answer (rsn : UInt32) : UlpOp :=
  .readResponse rsn submission.response.dataLength submission.response.sglLength

/-- The lengths in the active packet of a transaction. -/
def active (type : PacketType) : RdmaLengths :=
  if type = .pullData then submission.response else submission.request

end Submission

/-- A length that is assigned to a header field of type `uint16_t`. -/
def inHeader (length : UInt32) : UInt32 := length.toUInt16.toUInt32

/-- `SetOutgoingPacketHeader`, as far as it sets lengths. -/
def setOutgoingPacketHeader (transaction : TransactionMetadata) (rsn : UInt32)
    (type : PacketType) (rdma : RdmaLengths) : NetworkPacket :=
  match type with
  | .pullRequest =>
    { type, rsn, requestLength := inHeader rdma.requestLength
      payloadLength := inHeader rdma.dataLength }
  | .pushRequest | .pushGrant =>
    { type, rsn, requestLength := inHeader transaction.requestLength, payloadLength := 0 }
  | .pullData => { type, rsn, payloadLength := inHeader rdma.requestLength }
  | .pushSolicitedData | .pushUnsolicitedData =>
    { type, rsn, payloadLength := inHeader rdma.requestLength }
  | _ => { type, rsn }

/-! ## Runs of a transaction -/

/-- The connection on both hosts, and the packets of the transaction that were ever sent. -/
structure Exchange where
  connection : TransactionLocation → ConnectionState
  network : List NetworkPacket := []

/-- The record of the transaction on a host. -/
def Exchange.record (exchange : Exchange) (rsn : UInt32) (side : TransactionLocation) :
    Option TransactionMetadata :=
  (exchange.connection side).transactions ⟨rsn, side⟩

/-- The connection of a host afterwards. -/
def Exchange.at (exchange : Exchange) (side : TransactionLocation)
    (connection : ConnectionState) : Exchange :=
  { exchange with connection := Function.update exchange.connection side connection }

/-- The request was just submitted, and the target has not seen it. -/
structure Submitted (threshold rsn : UInt32) (exchange : Exchange) : Prop where
  created : ∃ before type, createOrUpdateTransactionFromUlp before threshold submission.op =
    .ok (rsn, type, exchange.connection .initiator)
  unseen : exchange.record rsn .target = none
  unsent : exchange.network = []

/-- What may happen to the transaction. A packet that was sent may be lost, or arrive any number of
times; other transactions of the connection do not change its record. -/
inductive Step (rsn : UInt32) : Exchange → Exchange → Prop
  | transmit {exchange : Exchange} {side : TransactionLocation} {type : PacketType}
      {transaction moved : TransactionMetadata} {packet : PacketMetadata}
      (located : getTransactionLocation type false = .ok side)
      (found : exchange.record rsn side = some transaction)
      (present : transaction.packets type = some packet)
      (updated : transaction.updateState type .ntwkTx = .ok moved) :
      Step rsn exchange
        { exchange.at side ((exchange.connection side).setTransaction ⟨rsn, side⟩ moved) with
          network := setOutgoingPacketHeader transaction rsn type (submission.active type) ::
            exchange.network }
  | receive {exchange : Exchange} {side : TransactionLocation} {packet : NetworkPacket}
      {connection : ConnectionState} (sent : packet ∈ exchange.network)
      (located : getTransactionLocation packet.type true = .ok side)
      (accepted : createOrUpdateTransactionFromNetwork (exchange.connection side) packet =
        .ok connection) :
      Step rsn exchange (exchange.at side connection)
  | answer {exchange : Exchange} {threshold : UInt32} {type : PacketType}
      {connection : ConnectionState} (reads : submission.operation = .read)
      (accepted : createOrUpdateTransactionFromUlp (exchange.connection .target) threshold
        (submission.answer rsn) = .ok (rsn, type, connection)) :
      Step rsn exchange (exchange.at .target connection)
  | progress {exchange : Exchange} {side : TransactionLocation}
      {transaction moved : TransactionMetadata} (type : PacketType) (stage : TransactionStage)
      (found : exchange.record rsn side = some transaction)
      (updated : transaction.updateState type stage = .ok moved) :
      Step rsn exchange
        (exchange.at side ((exchange.connection side).setTransaction ⟨rsn, side⟩ moved))
  | erase {exchange : Exchange} (side : TransactionLocation) :
      Step rsn exchange
        (exchange.at side (eraseTransaction (exchange.connection side) ⟨rsn, side⟩))
  | elsewhere {exchange : Exchange} (side : TransactionLocation) (connection : ConnectionState)
      (same : connection.transactions ⟨rsn, side⟩ = exchange.record rsn side) :
      Step rsn exchange (exchange.at side connection)

/-! ## What is recorded -/

/-- The lengths in the metadata of a packet. -/
structure PacketLengths where
  dataLength : UInt32 := 0
  sglLength : UInt32 := 0
  payloadLength : UInt32 := 0
  deriving DecidableEq, Repr

/-- The lengths of a packet. -/
def lengthsOf (packet : PacketMetadata) : PacketLengths :=
  ⟨packet.dataLength, packet.sglLength, packet.payloadLength⟩

/-- The lengths that each host knows of a packet, of which those that came over the network have
passed through `wire`. -/
def knownLengths (wire : UInt32 → UInt32) : TransactionLocation → PacketType → PacketLengths
  | .initiator, .pullRequest | .initiator, .pushRequest | .initiator, .pushSolicitedData
  | .initiator, .pushUnsolicitedData =>
    { dataLength := submission.request.dataLength, sglLength := submission.request.sglLength }
  | .initiator, .pullData => { payloadLength := wire submission.response.requestLength }
  | .target, .pullRequest => { payloadLength := wire submission.request.dataLength }
  | .target, .pushSolicitedData | .target, .pushUnsolicitedData =>
    { payloadLength := wire submission.request.requestLength }
  | .target, .pullData =>
    { dataLength := submission.response.dataLength, sglLength := submission.response.sglLength }
  | _, _ => {}

/-- The request length that each host knows. -/
def knownRequestLength (wire : UInt32 → UInt32) : TransactionLocation → UInt32
  | .initiator => submission.request.requestLength
  | .target => wire submission.request.requestLength

/-- The records of the transaction hold these lengths. The target is told no request length for
unsolicited data. -/
structure Recorded (wire : UInt32 → UInt32) (rsn : UInt32) (exchange : Exchange) : Prop where
  request : ∀ side transaction, exchange.record rsn side = some transaction →
    side = .initiator ∨ transaction.type ≠ .pushUnsolicited →
      transaction.requestLength = knownRequestLength submission wire side
  packets : ∀ side transaction type packet, exchange.record rsn side = some transaction →
    transaction.packets type = some packet →
      lengthsOf packet = knownLengths submission wire side type

/-- The credits that the lengths of a packet stand for, in the tx buffer and in the rx buffer. -/
def buffersOf (config : RdmaFalcon.SizeConfig) (lengths : PacketLengths) : Int32 × Int32 :=
  (RdmaFalcon.heldTxBuffer config lengths.dataLength lengths.sglLength,
    RdmaFalcon.heldRxBuffer config lengths.payloadLength)

/-- Both hosts have recorded the lengths that were submitted, and the credits of a packet are those
of the submitted lengths. -/
structure Sound (rsn : UInt32) (exchange : Exchange) : Prop where
  lengths : Recorded submission id rsn exchange
  credits : ∀ config side transaction type packet,
    exchange.record rsn side = some transaction → transaction.packets type = some packet →
      buffersOf config (lengthsOf packet) =
        buffersOf config (knownLengths submission id side type)

/-- The lengths that are sent fit the fields of the header. A response whose length does not agree
with the request in these fields is refused. -/
def Fits : Prop :=
  submission.request.requestLength.toNat < 2 ^ 16 ∧
    (submission.operation = .read → submission.request.dataLength.toNat < 2 ^ 16 ∧
      (submission.response.requestLength.toUInt16 = submission.request.requestLength.toUInt16 →
        submission.response.requestLength.toNat < 2 ^ 16))

end Isekai.TransactionLengths
