import Isekai.FalconTypes

/-! The transactions of a connection: a pull, a solicited push or an unsolicited push, kept on
both of its sides, with the packets that make it up and the state that each packet moves on. -/

namespace Isekai

inductive TransactionLocation where
  | initiator | target
  deriving DecidableEq, Repr

inductive TransactionType where
  | pull | pushSolicited | pushUnsolicited
  deriving DecidableEq, Repr

structure TransactionKey where
  rsn : UInt32
  location : TransactionLocation
  deriving DecidableEq, Repr

inductive TransactionState where
  | invalid
  | pullReqUlpRx | pullDataUlpRx | pushSolicitedReqUlpRx | pushUnsolicitedReqUlpRx
  | pullReqUlpTx | pullDataUlpTx | pushSolicitedDataUlpTx | pushUnsolicitedDataUlpTx
  | pushCompletionUlpTx
  | pullReqAckUlpRx | pushSolicitedDataAckUlpRx | pushUnsolicitedDataAckUlpRx
  | pullReqRnrUlpRx | pushSolicitedDataRnrUlpRx | pushUnsolicitedDataRnrUlpRx
  | pullReqNtwkRx | pullDataNtwkRx | pushReqNtwkRx | pushGrantNtwkRx | pushSolicitedDataNtwkRx
  | pushUnsolicitedDataNtwkRx
  | pullReqNtwkTx | pullDataNtwkTx | pushReqNtwkTx | pushGrantNtwkTx | pushSolicitedDataNtwkTx
  | pushUnsolicitedDataNtwkTx
  | pullDataAckNtwkRx | pushSolicitedDataAckNtwkRx | pushUnsolicitedDataAckNtwkRx
  deriving DecidableEq, Repr

inductive TransactionStage where
  | ulpRx | ulpTx | ulpAckRx | ulpCompletionTx | ntwkRx | ntwkTx | ntwkAckRx | ulpRnrRx
  deriving DecidableEq, Repr

namespace TransactionState

/-- `CHECK(state == ..)`, and the state that follows. -/
def expect (state : TransactionState) (allowed : List TransactionState)
    (next : TransactionState) : Except Abort TransactionState :=
  if state ∈ allowed then .ok next else .error .unexpectedTransactionState

/-- `TransactionMetadata::UpdateState`: what a packet of the type does at the stage. -/
def update (state : TransactionState) : PacketType → TransactionStage →
    Except Abort TransactionState
  | .pullRequest, .ulpRx => .ok .pullReqUlpRx
  | .pullRequest, .ulpTx => state.expect [.pullReqNtwkRx, .pullReqRnrUlpRx] .pullReqUlpTx
  | .pullRequest, .ulpAckRx => state.expect [.pullReqUlpTx] .pullReqAckUlpRx
  | .pullRequest, .ntwkRx => .ok .pullReqNtwkRx
  | .pullRequest, .ntwkTx => state.expect [.pullReqUlpRx] .pullReqNtwkTx
  | .pullRequest, .ntwkAckRx => .ok state
  | .pullRequest, .ulpRnrRx => state.expect [.pullReqUlpTx, .pullReqNtwkRx] .pullReqRnrUlpRx
  | .pullData, .ulpRx => state.expect [.pullReqAckUlpRx] .pullDataUlpRx
  | .pullData, .ulpTx => state.expect [.pullDataNtwkRx] .pullDataUlpTx
  | .pullData, .ntwkRx => state.expect [.pullReqNtwkTx] .pullDataNtwkRx
  | .pullData, .ntwkTx => state.expect [.pullDataUlpRx] .pullDataNtwkTx
  | .pullData, .ntwkAckRx => state.expect [.pullDataNtwkTx] .pullDataAckNtwkRx
  | .pushRequest, .ulpRx => .ok .pushSolicitedReqUlpRx
  | .pushRequest, .ntwkRx => .ok .pushReqNtwkRx
  | .pushRequest, .ntwkTx => state.expect [.pushSolicitedReqUlpRx] .pushReqNtwkTx
  | .pushRequest, .ntwkAckRx => .ok state
  | .pushGrant, .ntwkRx => state.expect [.pushReqNtwkTx] .pushGrantNtwkRx
  | .pushGrant, .ntwkTx => state.expect [.pushReqNtwkRx] .pushGrantNtwkTx
  | .pushGrant, .ntwkAckRx => .ok state
  | .pushSolicitedData, .ulpTx =>
    state.expect [.pushSolicitedDataNtwkRx, .pushSolicitedDataRnrUlpRx] .pushSolicitedDataUlpTx
  | .pushSolicitedData, .ulpAckRx =>
    state.expect [.pushSolicitedDataUlpTx] .pushSolicitedDataAckUlpRx
  | .pushSolicitedData, .ulpCompletionTx =>
    state.expect [.pushSolicitedDataAckNtwkRx] .pushCompletionUlpTx
  | .pushSolicitedData, .ntwkRx => state.expect [.pushGrantNtwkTx] .pushSolicitedDataNtwkRx
  | .pushSolicitedData, .ntwkTx => state.expect [.pushGrantNtwkRx] .pushSolicitedDataNtwkTx
  | .pushSolicitedData, .ntwkAckRx =>
    state.expect [.pushSolicitedDataNtwkTx] .pushSolicitedDataAckNtwkRx
  | .pushSolicitedData, .ulpRnrRx =>
    state.expect [.pushSolicitedDataUlpTx, .pushSolicitedDataNtwkRx] .pushSolicitedDataRnrUlpRx
  | .pushUnsolicitedData, .ulpRx => .ok .pushUnsolicitedReqUlpRx
  | .pushUnsolicitedData, .ulpTx =>
    state.expect [.pushUnsolicitedDataNtwkRx, .pushUnsolicitedDataRnrUlpRx]
      .pushUnsolicitedDataUlpTx
  | .pushUnsolicitedData, .ulpAckRx =>
    state.expect [.pushUnsolicitedDataUlpTx] .pushUnsolicitedDataAckUlpRx
  | .pushUnsolicitedData, .ulpCompletionTx =>
    state.expect [.pushUnsolicitedDataAckNtwkRx] .pushCompletionUlpTx
  | .pushUnsolicitedData, .ntwkRx => .ok .pushUnsolicitedDataNtwkRx
  | .pushUnsolicitedData, .ntwkTx =>
    state.expect [.pushUnsolicitedReqUlpRx] .pushUnsolicitedDataNtwkTx
  | .pushUnsolicitedData, .ntwkAckRx =>
    state.expect [.pushUnsolicitedDataNtwkTx] .pushUnsolicitedDataAckNtwkRx
  | .pushUnsolicitedData, .ulpRnrRx =>
    state.expect [.pushUnsolicitedDataUlpTx, .pushUnsolicitedDataNtwkRx]
      .pushUnsolicitedDataRnrUlpRx
  | _, _ => .error .unexpectedPacketType

end TransactionState

/-- `PacketMetadata`: a packet of a pending transaction. -/
structure PacketMetadata where
  psn : UInt32 := 0
  transmitAttempts : UInt32 := 0
  dataLength : UInt32 := 0
  sglLength : UInt32 := 0
  payloadLength : UInt32 := 0
  isTransmissionEligible : Bool := true
  deriving DecidableEq, Repr

/-- `TransactionMetadata`. -/
structure TransactionMetadata where
  rsn : UInt32
  type : TransactionType
  location : TransactionLocation
  requestLength : UInt32 := 0
  state : TransactionState := .invalid
  packets : PacketType → Option PacketMetadata := fun _ => none

namespace TransactionMetadata

def createPacket (transaction : TransactionMetadata) (type : PacketType)
    (packet : PacketMetadata) : TransactionMetadata :=
  { transaction with packets := Function.update transaction.packets type (some packet) }

def updateState (transaction : TransactionMetadata) (type : PacketType)
    (stage : TransactionStage) : Except Abort TransactionMetadata :=
  match transaction.state.update type stage with
  | .error abort => .error abort
  | .ok state => .ok { transaction with state := state }

def getPacketMetadata (transaction : TransactionMetadata) (type : PacketType) :
    Except Abort PacketMetadata :=
  match transaction.packets type with
  | none => .error .unknownPacket
  | some packet => .ok packet

end TransactionMetadata

/-- `GetTransactionLocation`: the side of a transaction that a packet belongs to. -/
def getTransactionLocation (type : PacketType) (incoming : Bool) :
    Except Abort TransactionLocation :=
  match type with
  | .pullRequest | .pushRequest | .pushSolicitedData | .pushUnsolicitedData =>
    .ok (if incoming then .target else .initiator)
  | .pullData | .pushGrant => .ok (if incoming then .initiator else .target)
  | _ => .error .unexpectedPacketType

/-- `BelongsToRequestWindow`. -/
def belongsToRequestWindow (type : PacketType) : Bool :=
  type = .pullRequest ∨ type = .pushRequest

/-- `GetNextFalconPacket`: what a push request or a grant is answered with. -/
def getNextFalconPacket : PacketType → Except Abort PacketType
  | .pushRequest => .ok .pushGrant
  | .pushGrant => .ok .pushSolicitedData
  | _ => .error .unexpectedPacketType

end Isekai
