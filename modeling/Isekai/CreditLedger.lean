import Isekai.FalconCredits

/-! The transactions between the RDMA model and Falcon: the work scheduler charges a queue pair and
the global pool for each packet it sends, Falcon keeps the transaction until its packets are
released, and RDMA takes the credits back that come with a release. -/

namespace Isekai.RdmaFalcon
open Roce (RdmaOpcode)

/-! ## Transactions -/

/-- A transaction of a Falcon connection with the queue pair it belongs to. `sgl` is what the
packet of RDMA carries, which the other side answers with, and `charged` what the work scheduler
took for the packet. -/
structure HeldTransaction where
  qpId : Nat
  type : TransactionType
  packets : Packets
  sgl : List UInt32 := []
  charged : FalconCredit := 0

/-- A packet that comes from RDMA. -/
def ulpPacket (packet : Packet) : HeldPacket :=
  { dataLength := packet.dataLength, sglLength := packet.sglLength, direction := .outgoing }

/-- A packet that comes from the network. -/
def networkPacket (payloadLength : UInt16) : HeldPacket :=
  { payloadLength := payloadLength.toUInt32, direction := .incoming }

/-- The length of the data that answers a pull request, as Falcon carries it. -/
def pulledLength (sgl : List UInt32) : UInt16 := (responseHeaderSize + sgl.sum).toUInt16

/-- `CreateOrUpdateTransactionFromUlp` for a request. -/
def requestTransaction (config : SizeConfig) (qpId : Nat) (packet : Packet)
    (charged : FalconCredit) : HeldTransaction :=
  let none_ : Packets := fun _ => none
  if packet.opcode = .readRequest then
    { qpId, charged, sgl := packet.sgl, type := .pull
      packets := Function.update none_ .pullRequest (some (ulpPacket packet)) }
  else if config.solicitedWriteThreshold ≤ packet.requestLength then
    { qpId, charged, sgl := packet.sgl, type := .pushSolicited
      packets := Function.update (Function.update none_ .pushSolicitedData
        (some (ulpPacket packet))) .pushRequest (some (ulpPacket packet)) }
  else
    { qpId, charged, sgl := packet.sgl, type := .pushUnsolicited
      packets := Function.update none_ .pushUnsolicitedData (some (ulpPacket packet)) }

namespace HeldTransaction

def createPacket (transaction : HeldTransaction) (type : PacketType) (packet : HeldPacket) :
    HeldTransaction :=
  { transaction with packets := Function.update transaction.packets type (some packet) }

/-- `CreateOrUpdateTransactionFromUlp` for the response to a pull request. -/
def respond (transaction : HeldTransaction) (packet : Packet) (charged : FalconCredit) :
    HeldTransaction :=
  { transaction.createPacket .pullData (ulpPacket packet) with
    sgl := packet.sgl, charged := charged }

end HeldTransaction

/-- What `PerformOp` checks of an operation, and cutting packets from it keeps. -/
structure RdmaOp.Checked (config : SizeConfig) (op : RdmaOp) : Prop where
  segments : ∀ segment ∈ op.sgl, 0 < segment ∧ segment ≤ config.maxSegmentLength
  exclusive : op.inlinePayloadLength ≠ 0 → op.sgl = []
  notInline : op.opcode = .read → op.inlinePayloadLength = 0

/-! ## Both sides of the interface -/

/-- A connection and a transaction of it. -/
abbrev HeldKey := Nat × TransactionKey

/-- `credit_usage` of the queue pairs, `remaining_global_credits_` of the work scheduler, and the
transactions of the connections. -/
structure CreditState where
  creditUsage : Nat → FalconCredit
  remainingGlobalCredits : FalconCredit
  transactions : HeldKey → Option HeldTransaction

namespace CreditState
variable (config : SizeConfig)

def find (state : CreditState) (key : HeldKey) : Except Fault HeldTransaction :=
  (state.transactions key).elim (.error .unknownTransaction) .ok

def put (state : CreditState) (key : HeldKey) (transaction : Option HeldTransaction) :
    CreditState :=
  { state with transactions := Function.update state.transactions key transaction }

/-- `ReturnFalconCredit` of the model and of the work scheduler. -/
def returnFalconCredit (state : CreditState) (qpId : Nat) (credit : FalconCredit) :
    Except Fault CreditState :=
  if credit ≤ state.creditUsage qpId then
    .ok { state with
      creditUsage :=
        Function.update state.creditUsage qpId (state.creditUsage qpId - credit)
      remainingGlobalCredits := state.remainingGlobalCredits + credit }
  else .error .creditAboveUsage

/-- `SendTransaction`, as far as credits go. -/
def charge (state : CreditState) (qpId : Nat) (credit : FalconCredit) : CreditState :=
  { state with
    creditUsage := Function.update state.creditUsage qpId (state.creditUsage qpId + credit)
    remainingGlobalCredits := state.remainingGlobalCredits - credit }

/-- `ReturnRdmaManagedFalconResourceCredits`. -/
def returnRdmaManaged (state : CreditState) (qpId : Nat) (credit : FalconCredit) :
    Except Fault CreditState :=
  if credit.isInitialized then state.returnFalconCredit qpId credit else .ok state

/-- `ReleaseResources` of a packet, after which the transaction may be erased. -/
def release (state : CreditState) (key : HeldKey) (type : PacketType) (erase : Bool) :
    Except Fault CreditState := do
  let transaction ← state.find key
  let (packets, credit) ← releaseResources config transaction.packets type
  let returned ← state.returnRdmaManaged transaction.qpId credit
  .ok (returned.put key (if erase then none else some { transaction with packets := packets }))

/-- The side on which a packet of the type is outgoing. -/
def senderOf : PacketType → TransactionLocation
  | .pushGrant | .pullData => .target
  | _ => .initiator

/-- What happens to the transactions: RDMA sends a request or a response, a packet arrives from the
network, or one is acknowledged, delivered or completed. -/
inductive Event where
  | sendRequest (qpId : Nat) (rsn : UInt32) (op : RdmaOp)
  | sendResponse (qpId : Nat) (request : InboundReadRequest)
  | pullRequestArrives (qpId : Nat) (rsn : UInt32) (payloadLength : UInt16)
  | pullRequestAccepted (qpId : Nat) (rsn : UInt32)
  | packetAcknowledged (qpId : Nat) (rsn : UInt32) (type : PacketType)
  | pushGrantArrives (qpId : Nat) (rsn : UInt32)
  | pullDataArrives (qpId : Nat) (rsn : UInt32)
  | pullDataDelivered (qpId : Nat) (rsn : UInt32)
  | pushCompleted (qpId : Nat) (rsn : UInt32)
  deriving Repr

/-- A packet that arrives for a transaction of the initiator. A transaction of another type is in
no state in which such a packet is expected. -/
def arrives (state : CreditState) (key : HeldKey) (expected : TransactionType)
    (type : PacketType) (payloadLength : HeldTransaction → UInt16) :
    Except Fault CreditState := do
  let transaction ← state.find key
  if transaction.type = expected then
    .ok (state.put key
      (some (transaction.createPacket type (networkPacket (payloadLength transaction)))))
  else .error .unknownTransaction

/-- A pull request that arrives at the target, where the transaction may be known already. -/
def pullRequestArrives (state : CreditState) (qpId : Nat) (rsn : UInt32)
    (payloadLength : UInt16) : CreditState :=
  let key := (qpId, ⟨rsn, .target⟩)
  let transaction :=
    (state.transactions key).getD { qpId, type := .pull, packets := fun _ => none }
  state.put key (some (transaction.createPacket .pullRequest (networkPacket payloadLength)))

/-- The completion of a push, which releases its data and erases it. -/
def pushCompleted (state : CreditState) (key : HeldKey) : Except Fault CreditState := do
  let transaction ← state.find key
  match transaction.type with
  | .pull => .error .unknownTransaction
  | .pushSolicited => state.release config key .pushSolicitedData true
  | .pushUnsolicited => state.release config key .pushUnsolicitedData true

def perform (state : CreditState) : Event → Except Fault CreditState
  | .sendRequest qpId rsn op => do
    let credit ← computeRequestCredit config op
    let (packet, _) ← createRequestPacket config op rsn
    .ok ((state.charge qpId credit).put (qpId, ⟨rsn, .initiator⟩)
      (some (requestTransaction config qpId packet credit)))
  | .sendResponse qpId request => do
    let credit := computeResponseCredit config request
    let packet ← createResponsePacket request
    let transaction ← state.find (qpId, ⟨request.rsn, .target⟩)
    .ok ((state.charge qpId credit).put (qpId, ⟨request.rsn, .target⟩)
      (some (transaction.respond packet credit)))
  | .pullRequestArrives qpId rsn payloadLength =>
    .ok (state.pullRequestArrives qpId rsn payloadLength)
  | .pullRequestAccepted qpId rsn =>
    state.release config (qpId, ⟨rsn, .target⟩) .pullRequest false
  | .packetAcknowledged qpId rsn type =>
    if type = .pullRequest ∨ type = .pushRequest ∨ type = .pullData then
      state.release config (qpId, ⟨rsn, senderOf type⟩) type (type = .pullData)
    else .ok state
  | .pushGrantArrives qpId rsn =>
    state.arrives (qpId, ⟨rsn, .initiator⟩) .pushSolicited .pushGrant fun _ => 0
  | .pullDataArrives qpId rsn =>
    state.arrives (qpId, ⟨rsn, .initiator⟩) .pull .pullData fun transaction =>
      pulledLength transaction.sgl
  | .pullDataDelivered qpId rsn =>
    state.release config (qpId, ⟨rsn, .initiator⟩) .pullData true
  | .pushCompleted qpId rsn => state.pushCompleted config (qpId, ⟨rsn, .initiator⟩)

/-- What can happen: requests of checked operations are sent under sequence numbers that are not in
use, and each pull request is answered once. -/
def Possible (state : CreditState) : Event → Prop
  | .sendRequest qpId rsn op =>
    op.Checked config ∧ state.transactions (qpId, ⟨rsn, .initiator⟩) = none
  | .sendResponse qpId request =>
    ∀ transaction, state.transactions (qpId, ⟨request.rsn, .target⟩) = some transaction →
      transaction.packets .pullData = none
  | _ => True

/-- A step of the two components. -/
def Step (state next : CreditState) : Prop :=
  ∃ event, state.Possible config event ∧ state.perform config event = .ok next

/-- No transaction is held. -/
def Idle (state : CreditState) : Prop := ∀ key, state.transactions key = none

end CreditState

/-! ## What comes back for one transaction -/

section Lifetime
variable (config : SizeConfig)

/-- What RDMA gets back when first one packet of a transaction is released, and then another. -/
def releasedInTurn (packets : Packets) (first : PacketType) (between : Packets → Packets)
    (last : PacketType) : Except Fault FalconCredit := do
  let (middle, early) ← releaseResources config packets first
  let (_, late) ← releaseResources config (between middle) last
  .ok (early + late)

/-- What RDMA gets back for a transaction of the initiator over its life: a pull request is
released when it is acknowledged and the data when it is delivered; a push request when it is
acknowledged, and the data of a push with the completion. -/
def returnedForRequest (transaction : HeldTransaction) : Except Fault FalconCredit :=
  match transaction.type with
  | .pull => releasedInTurn config transaction.packets .pullRequest
      (Function.update · .pullData (some (networkPacket (pulledLength transaction.sgl)))) .pullData
  | .pushSolicited => releasedInTurn config transaction.packets .pushRequest id .pushSolicitedData
  | .pushUnsolicited => do
    let (_, credit) ← releaseResources config transaction.packets .pushUnsolicitedData
    .ok credit

/-- What RDMA gets back for a response, when it is acknowledged. -/
def returnedForResponse (packet : Packet) : Except Fault FalconCredit := do
  let packets : Packets := Function.update (fun _ => none) .pullData (some (ulpPacket packet))
  let (_, credit) ← releaseResources config packets .pullData
  .ok credit

end Lifetime

end Isekai.RdmaFalcon
