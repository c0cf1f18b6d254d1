import Isekai.RoceModel
import Isekai.Transactions

/-! The Falcon credits of an RDMA transaction: what the work scheduler charges a queue pair for the
packet it cuts from an operation, and what the resource manager of Falcon gives back when it
releases the packets of the transaction. -/

namespace Isekai.RdmaFalcon
open Roce (RdmaOpcode)

/-- Why the model stops: a check that fails, or an access to what is not there. -/
inductive Fault where
  | cannotSendRecv | sglAndInline | sglTooLong | creditAboveUsage | nothingToRelease
  | unknownTransaction | unknownPacket | notReserved | emptyQueue | unknownRsn
  | tokensUnavailable
  deriving DecidableEq, Repr

/-! ## Credits -/

/-- `FalconCredit`: one counter for each resource pool of the interface. -/
@[ext] structure FalconCredit where
  requestTxPacket : UInt32 := 0
  requestTxBuffer : UInt32 := 0
  requestRxPacket : UInt32 := 0
  requestRxBuffer : UInt32 := 0
  responseTxPacket : UInt32 := 0
  responseTxBuffer : UInt32 := 0
  deriving DecidableEq, Repr

namespace FalconCredit

instance : Zero FalconCredit := ⟨{}⟩

instance : Add FalconCredit where
  add one other :=
    { requestTxPacket := one.requestTxPacket + other.requestTxPacket
      requestTxBuffer := one.requestTxBuffer + other.requestTxBuffer
      requestRxPacket := one.requestRxPacket + other.requestRxPacket
      requestRxBuffer := one.requestRxBuffer + other.requestRxBuffer
      responseTxPacket := one.responseTxPacket + other.responseTxPacket
      responseTxBuffer := one.responseTxBuffer + other.responseTxBuffer }

instance : Sub FalconCredit where
  sub one other :=
    { requestTxPacket := one.requestTxPacket - other.requestTxPacket
      requestTxBuffer := one.requestTxBuffer - other.requestTxBuffer
      requestRxPacket := one.requestRxPacket - other.requestRxPacket
      requestRxBuffer := one.requestRxBuffer - other.requestRxBuffer
      responseTxPacket := one.responseTxPacket - other.responseTxPacket
      responseTxBuffer := one.responseTxBuffer - other.responseTxBuffer }

/-- One is within another if it is in every pool. -/
instance : LE FalconCredit where
  le one other :=
    one.requestTxPacket ≤ other.requestTxPacket ∧ one.requestTxBuffer ≤ other.requestTxBuffer ∧
    one.requestRxPacket ≤ other.requestRxPacket ∧ one.requestRxBuffer ≤ other.requestRxBuffer ∧
    one.responseTxPacket ≤ other.responseTxPacket ∧
      one.responseTxBuffer ≤ other.responseTxBuffer

instance (one other : FalconCredit) : Decidable (one ≤ other) :=
  inferInstanceAs (Decidable (_ ∧ _ ∧ _ ∧ _ ∧ _ ∧ _))

/-- `IsInitialized`. -/
def isInitialized (credit : FalconCredit) : Bool := credit ≠ 0

/-- The six pools. -/
inductive Pool where
  | requestTxPacket | requestTxBuffer | requestRxPacket | requestRxBuffer | responseTxPacket
  | responseTxBuffer

/-- The counter of a pool. -/
def of (credit : FalconCredit) : Pool → UInt32
  | .requestTxPacket => credit.requestTxPacket
  | .requestTxBuffer => credit.requestTxBuffer
  | .requestRxPacket => credit.requestRxPacket
  | .requestRxBuffer => credit.requestRxBuffer
  | .responseTxPacket => credit.responseTxPacket
  | .responseTxBuffer => credit.responseTxBuffer

theorem ext_of {one other : FalconCredit} (same : ∀ pool, one.of pool = other.of pool) :
    one = other :=
  FalconCredit.ext (same .requestTxPacket) (same .requestTxBuffer) (same .requestRxPacket)
    (same .requestRxBuffer) (same .responseTxPacket) (same .responseTxBuffer)

@[simp] theorem of_zero (pool : Pool) : (0 : FalconCredit).of pool = 0 := by
  cases pool <;> rfl

@[simp] theorem of_add (one other : FalconCredit) (pool : Pool) :
    (one + other).of pool = one.of pool + other.of pool := by
  cases pool <;> rfl

@[simp] theorem of_sub (one other : FalconCredit) (pool : Pool) :
    (one - other).of pool = one.of pool - other.of pool := by
  cases pool <;> rfl

theorem le_iff (one other : FalconCredit) :
    one ≤ other ↔ ∀ pool, (one.of pool).toNat ≤ (other.of pool).toNat := by
  constructor
  · rintro ⟨first, second, third, fourth, fifth, sixth⟩ pool
    cases pool <;> assumption
  · intro each
    exact ⟨each .requestTxPacket, each .requestTxBuffer, each .requestRxPacket,
      each .requestRxBuffer, each .responseTxPacket, each .responseTxBuffer⟩

instance : Neg FalconCredit := ⟨fun credit => 0 - credit⟩

@[simp] theorem of_neg (credit : FalconCredit) (pool : Pool) :
    (-credit).of pool = -credit.of pool := by
  change ((0 : FalconCredit) - credit).of pool = -credit.of pool
  simp

/-- The counters wrap, so that credits form a group. -/
instance : AddCommGroup FalconCredit where
  add_assoc one other last := ext_of fun pool => by simp [add_assoc]
  zero_add credit := ext_of fun pool => by simp
  add_zero credit := ext_of fun pool => by simp
  add_comm one other := ext_of fun pool => by simp [add_comm]
  neg_add_cancel credit := ext_of fun pool => by simp
  sub_eq_add_neg one other := ext_of fun pool => by simp [sub_eq_add_neg]
  nsmul := nsmulRec
  zsmul := zsmulRec

end FalconCredit

/-! ## Operations and packets -/

/-- `RdmaOp`: exactly one of the scatter-gather list and the inline payload is set. -/
structure RdmaOp where
  opcode : RdmaOpcode
  sgl : List UInt32 := []
  inlinePayloadLength : UInt32 := 0
  psn : UInt32 := 0
  endPsn : UInt32 := 0
  nPkts : UInt32 := 0
  nPktFinished : UInt32 := 0
  isScheduled : Bool := false
  deriving DecidableEq, Repr

/-- `InboundReadRequest`. -/
structure InboundReadRequest where
  rsn : UInt32
  sgl : List UInt32
  deriving DecidableEq, Repr

/-- `Packet::Rdma::Opcode`, as far as the model sends it to Falcon. -/
inductive PacketOpcode where
  | sendOnly | writeOnly | readRequest | readResponseOnly
  deriving DecidableEq, Repr

/-- The RDMA part of a packet and its metadata. `requestLength` is `response_length` in a read
response. -/
structure Packet where
  opcode : PacketOpcode
  rsn : UInt32
  sgl : List UInt32 := []
  inlinePayloadLength : UInt32 := 0
  dataLength : UInt32
  requestLength : UInt32
  sglLength : UInt32 := 0
  isLastPacket : Bool := false
  deriving DecidableEq, Repr

/-- `FalconConfig::ResourceReservationMode`. -/
inductive ResourceReservationMode where
  | firstPhaseReservation | bypassReservation
  deriving DecidableEq, Repr

/-- The sizes that the two components are configured with. The allocation units are positive
numbers of the C++ type `int`, and so is the length of a segment with its headers. -/
structure SizeConfig where
  rdmaMtu : UInt32
  maxSegmentLength : UInt32
  txBufferMinimumAllocationUnit : UInt32
  rxBufferMinimumAllocationUnit : UInt32
  solicitedWriteThreshold : UInt32
  resourceReservationMode : ResourceReservationMode
  txUnitRange : 0 < txBufferMinimumAllocationUnit.toNat ∧
    txBufferMinimumAllocationUnit.toNat < 2 ^ 31
  rxUnitRange : 0 < rxBufferMinimumAllocationUnit.toNat ∧
    rxBufferMinimumAllocationUnit.toNat < 2 ^ 31
  mtuRange : rdmaMtu.toNat + 24 < 2 ^ 31
  segmentRange : rdmaMtu.toNat + maxSegmentLength.toNat ≤ 2 ^ 32

/-- `kReadHeaderSize`. -/
def readHeaderSize : UInt32 := 12 + 16 + 4 + 12

/-- `kWriteHeaderSize`. -/
def writeHeaderSize : UInt32 := 12 + 16

/-- `kResponseHeaderSize`. -/
def responseHeaderSize : UInt32 := 12 + 12

/-- `kSendHeaderSize`. -/
def sendHeaderSize : UInt32 := 12 + 4 + 4

/-- `kSglHeaderSize`. -/
def sglHeaderSize : UInt32 := 8

/-- `kSglFragmentHeaderSize`. -/
def sglFragmentHeaderSize : UInt32 := 16

/-! ### Buffer credits -/

/-- `max(x - y, 0)`. -/
def subtract (x y : Int) : Int := if y ≤ x then x - y else 0

/-- `ceil(n / q)`. -/
def ceilDiv (n q : Int) : Int := (n + q - 1).tdiv q

/-- A length as a parameter of type `int`. -/
def asInt (length : UInt32) : Int := length.toInt32.toInt

def calculateFalconTxBufferCredits (txPktDataLen txPmdSglLen unit : UInt32) : UInt32 :=
  UInt32.ofInt (ceilDiv (subtract (asInt txPktDataLen) 64) (asInt unit) +
    ceilDiv (subtract (asInt txPmdSglLen) 8) (asInt unit))

def calculateFalconRxBufferCredits (length unit : UInt32) : UInt32 :=
  UInt32.ofInt (ceilDiv (subtract (asInt length) 0) (asInt unit)) + 0

/-! ### What the work scheduler sends and charges -/

/-- The loop of `CutPacketFromSgl`: the fragments that go into the packet, and what is left. -/
def cutFrom (mtu : UInt32) : UInt32 → List UInt32 → List UInt32 × List UInt32
  | _, [] => ([], [])
  | accumulated, fragment :: rest =>
    if accumulated < mtu then
      if accumulated + fragment ≤ mtu then
        let cut := cutFrom mtu (accumulated + fragment) rest
        (fragment :: cut.1, cut.2)
      else ([mtu - accumulated], (fragment - (mtu - accumulated)) :: rest)
    else ([], fragment :: rest)

/-- `CutPacketFromSgl`. -/
def cutPacketFromSgl (input : List UInt32) (mtu : UInt32) : List UInt32 × List UInt32 :=
  cutFrom mtu 0 input

/-- The number of entries that an SGL of the packet takes, rounded up. -/
def sglEntries (fragments : Nat) : Option UInt32 :=
  if fragments ≤ 1 then some 1
  else if fragments ≤ 4 then some 4
  else if fragments ≤ 8 then some 8
  else if fragments ≤ 16 then some 16
  else if fragments ≤ 32 then some 32
  else none

/-- `GetSglLength`. -/
def getSglLength (sgl : List UInt32) : Except Fault UInt32 :=
  match sglEntries sgl.length with
  | some entries => .ok (sglHeaderSize + entries * sglFragmentHeaderSize)
  | none => .error .sglTooLong

/-- The lengths of the headers and the inline payload of a request, and the length that it announces
apart from its fragments. -/
def requestHeaders (op : RdmaOp) : Except Fault (PacketOpcode × UInt32 × UInt32) :=
  match op.opcode with
  | .recv => .error .cannotSendRecv
  | .read => .ok (.readRequest, readHeaderSize, responseHeaderSize)
  | .send => .ok (.sendOnly, sendHeaderSize + op.inlinePayloadLength,
      sendHeaderSize + op.inlinePayloadLength)
  | .write => .ok (.writeOnly, writeHeaderSize + op.inlinePayloadLength,
      writeHeaderSize + op.inlinePayloadLength)

/-- `CreateRequestPacket`: the packet, and the fragments of the operation that are left. -/
def createRequestPacket (config : SizeConfig) (op : RdmaOp) (rsn : UInt32) :
    Except Fault (Packet × List UInt32) := do
  let (opcode, dataLength, requestLength) ← requestHeaders op
  if op.inlinePayloadLength ≠ 0 then
    if op.sgl ≠ [] then .error .sglAndInline
    else .ok ({ opcode, rsn, dataLength, requestLength
                inlinePayloadLength := op.inlinePayloadLength, isLastPacket := true }, [])
  else
    let (cut, rest) := cutPacketFromSgl op.sgl config.rdmaMtu
    let sglLength ← getSglLength cut
    .ok ({ opcode, rsn, dataLength, sglLength, sgl := cut
           requestLength := requestLength + cut.sum, isLastPacket := rest.isEmpty }, rest)

/-- `CreateResponsePacket`. -/
def createResponsePacket (request : InboundReadRequest) : Except Fault Packet := do
  let sglLength ← getSglLength request.sgl
  .ok { opcode := .readResponseOnly, rsn := request.rsn, sgl := request.sgl
        dataLength := responseHeaderSize
        requestLength := responseHeaderSize + request.sgl.sum, sglLength }

/-- The tx buffer credits of the fragments, by their number. -/
def chargedTxBuffer (config : SizeConfig) (dataLength : UInt32) (sgl : List UInt32) : UInt32 :=
  calculateFalconTxBufferCredits dataLength (UInt32.ofNat sgl.length * sglFragmentHeaderSize)
    config.txBufferMinimumAllocationUnit

/-- `ComputeRequestCredit`. -/
def computeRequestCredit (config : SizeConfig) (op : RdmaOp) : Except Fault FalconCredit :=
  match op.opcode with
  | .send => .ok
      { requestTxPacket := 1
        requestTxBuffer :=
          chargedTxBuffer config (sendHeaderSize + op.inlinePayloadLength) op.sgl
        requestRxPacket := 1 }
  | .write => .ok
      { requestTxPacket := 1
        requestTxBuffer :=
          chargedTxBuffer config (writeHeaderSize + op.inlinePayloadLength) op.sgl
        requestRxPacket := 1 }
  | .read => .ok
      { requestTxPacket := 1
        requestTxBuffer := chargedTxBuffer config readHeaderSize op.sgl
        requestRxPacket := 1
        requestRxBuffer := calculateFalconRxBufferCredits
          (responseHeaderSize + min config.rdmaMtu op.sgl.sum)
          config.rxBufferMinimumAllocationUnit }
  | .recv => .error .cannotSendRecv

/-- `ComputeResponseCredit`. -/
def computeResponseCredit (config : SizeConfig) (request : InboundReadRequest) : FalconCredit :=
  { responseTxPacket := 1
    responseTxBuffer := chargedTxBuffer config responseHeaderSize request.sgl }

/-! ### How sending fails -/

theorem compute_request_fault {config : SizeConfig} {op : RdmaOp} {fault : Fault}
    (failed : computeRequestCredit config op = .error fault) : fault = .cannotSendRecv := by
  unfold computeRequestCredit at failed
  split at failed <;> cases failed
  rfl

theorem sgl_length_fault {sgl : List UInt32} {fault : Fault}
    (failed : getSglLength sgl = .error fault) : fault = .sglTooLong := by
  unfold getSglLength at failed
  split at failed <;> cases failed
  rfl

theorem create_request_fault {config : SizeConfig} {op : RdmaOp} {rsn : UInt32} {fault : Fault}
    (failed : createRequestPacket config op rsn = .error fault) :
    fault = .cannotSendRecv ∨ fault = .sglAndInline ∨ fault = .sglTooLong := by
  unfold createRequestPacket requestHeaders at failed
  cases opcode : op.opcode with
  | recv =>
    simp only [opcode, bind, Except.bind, Except.error.injEq] at failed
    exact .inl failed.symm
  | read | send | write =>
    simp only [opcode, bind, Except.bind] at failed
    split_ifs at failed
    · cases failed
      exact .inr (.inl rfl)
    · cases counted : getSglLength (cutPacketFromSgl op.sgl config.rdmaMtu).1 with
      | ok length => simp [counted] at failed
      | error reason =>
        rw [counted] at failed
        cases failed
        exact .inr (.inr (sgl_length_fault counted))

theorem create_response_fault {request : InboundReadRequest} {fault : Fault}
    (failed : createResponsePacket request = .error fault) : fault = .sglTooLong := by
  unfold createResponsePacket at failed
  cases counted : getSglLength request.sgl with
  | ok length => simp [counted, bind, Except.bind] at failed
  | error reason =>
    simp only [counted, bind, Except.bind] at failed
    cases failed
    exact sgl_length_fault counted

/-! ## The resource manager -/

/-- The counters of `TxPacketCredits` and the like. -/
@[ext] structure PoolCredits where
  ulpRequests : Int32 := 0
  ulpData : Int32 := 0
  networkRequests : Int32 := 0
  deriving DecidableEq, Repr

instance : Add PoolCredits where
  add one other := ⟨one.ulpRequests + other.ulpRequests, one.ulpData + other.ulpData,
    one.networkRequests + other.networkRequests⟩

instance : Sub PoolCredits where
  sub one other := ⟨one.ulpRequests - other.ulpRequests, one.ulpData - other.ulpData,
    one.networkRequests - other.networkRequests⟩

namespace PoolCredits
variable (one other : PoolCredits)

@[simp] theorem add_ulp_requests :
    (one + other).ulpRequests = one.ulpRequests + other.ulpRequests := rfl

@[simp] theorem add_ulp_data : (one + other).ulpData = one.ulpData + other.ulpData := rfl

@[simp] theorem sub_ulp_requests :
    (one - other).ulpRequests = one.ulpRequests - other.ulpRequests := rfl

@[simp] theorem sub_ulp_data : (one - other).ulpData = one.ulpData - other.ulpData := rfl

end PoolCredits

/-- `FalconResourceCredits` without oversubscription of the pools, which only the global credits of
Falcon can have. -/
@[ext] structure FalconResourceCredits where
  txPacketCredits : PoolCredits := {}
  txBufferCredits : PoolCredits := {}
  rxPacketCredits : PoolCredits := {}
  rxBufferCredits : PoolCredits := {}
  deriving DecidableEq, Repr

namespace FalconResourceCredits

instance : Add FalconResourceCredits where
  add one other := ⟨one.txPacketCredits + other.txPacketCredits,
    one.txBufferCredits + other.txBufferCredits, one.rxPacketCredits + other.rxPacketCredits,
    one.rxBufferCredits + other.rxBufferCredits⟩

instance : Sub FalconResourceCredits where
  sub one other := ⟨one.txPacketCredits - other.txPacketCredits,
    one.txBufferCredits - other.txBufferCredits, one.rxPacketCredits - other.rxPacketCredits,
    one.rxBufferCredits - other.rxBufferCredits⟩

section Pools
variable (one other : FalconResourceCredits)

@[simp] theorem add_tx_packet :
    (one + other).txPacketCredits = one.txPacketCredits + other.txPacketCredits := rfl

@[simp] theorem add_tx_buffer :
    (one + other).txBufferCredits = one.txBufferCredits + other.txBufferCredits := rfl

@[simp] theorem add_rx_packet :
    (one + other).rxPacketCredits = one.rxPacketCredits + other.rxPacketCredits := rfl

@[simp] theorem add_rx_buffer :
    (one + other).rxBufferCredits = one.rxBufferCredits + other.rxBufferCredits := rfl

@[simp] theorem sub_tx_packet :
    (one - other).txPacketCredits = one.txPacketCredits - other.txPacketCredits := rfl

@[simp] theorem sub_tx_buffer :
    (one - other).txBufferCredits = one.txBufferCredits - other.txBufferCredits := rfl

@[simp] theorem sub_rx_packet :
    (one - other).rxPacketCredits = one.rxPacketCredits - other.rxPacketCredits := rfl

@[simp] theorem sub_rx_buffer :
    (one - other).rxBufferCredits = one.rxBufferCredits - other.rxBufferCredits := rfl

end Pools

/-- The assignment of resource credits to a `FalconCredit`. -/
def toFalconCredit (credits : FalconResourceCredits) : FalconCredit :=
  { requestTxPacket := credits.txPacketCredits.ulpRequests.toUInt32
    requestTxBuffer := credits.txBufferCredits.ulpRequests.toUInt32
    requestRxPacket := credits.rxPacketCredits.ulpRequests.toUInt32
    requestRxBuffer := credits.rxBufferCredits.ulpRequests.toUInt32
    responseTxPacket := credits.txPacketCredits.ulpData.toUInt32
    responseTxBuffer := credits.txBufferCredits.ulpData.toUInt32 }

end FalconResourceCredits

section Resources
variable (config : SizeConfig)

/-- The tx buffer credits of a packet with these lengths. -/
def heldTxBuffer (dataLength sglLength : UInt32) : Int32 :=
  (calculateFalconTxBufferCredits dataLength sglLength
    config.txBufferMinimumAllocationUnit).toInt32

/-- The rx buffer credits of a packet with this length. -/
def heldRxBuffer (length : UInt32) : Int32 :=
  (calculateFalconRxBufferCredits length config.rxBufferMinimumAllocationUnit).toInt32

def computeOutgoingPullRequestResources (dataLength sglLength : UInt32) : FalconResourceCredits :=
  { txPacketCredits := { ulpRequests := 1 }
    txBufferCredits := { ulpRequests := heldTxBuffer config dataLength sglLength } }

def computeIncomingPullRequestResources (payloadLength : UInt32) : FalconResourceCredits :=
  { rxPacketCredits := { networkRequests := 1 }
    rxBufferCredits := { networkRequests := heldRxBuffer config payloadLength } }

def computeOutgoingPullDataResources (dataLength sglLength : UInt32) : FalconResourceCredits :=
  { txPacketCredits := { ulpData := 1 }
    txBufferCredits := { ulpData := heldTxBuffer config dataLength sglLength } }

def computeIncomingPullDataResources (requestLength : UInt32) : FalconResourceCredits :=
  { rxPacketCredits := { ulpRequests := 1 }
    rxBufferCredits := { ulpRequests := heldRxBuffer config requestLength } }

def computeOutgoingPushRequestResources (dataLength sglLength : UInt32) : FalconResourceCredits :=
  { txPacketCredits := { ulpRequests := 1 }
    txBufferCredits := { ulpRequests := heldTxBuffer config dataLength sglLength } }

def computeIncomingPushRequestResources : FalconResourceCredits :=
  { rxPacketCredits := { networkRequests := 1 } }

def computeOutgoingPushGrantResources : FalconResourceCredits :=
  { txPacketCredits := { networkRequests := 1 } }

def computeIncomingPushGrantResources : FalconResourceCredits :=
  { rxPacketCredits := { ulpRequests := 1 } }

def computeOutgoingPushSolicitedDataResources (dataLength sglLength : UInt32) :
    FalconResourceCredits :=
  let credits : FalconResourceCredits :=
    { txPacketCredits := { ulpRequests := 1 }
      txBufferCredits := { ulpRequests := heldTxBuffer config dataLength sglLength } }
  if config.resourceReservationMode = .firstPhaseReservation then
    credits - computeOutgoingPushRequestResources config dataLength sglLength
  else credits

def computeIncomingPushUnsolicitedCompletionResources : FalconResourceCredits :=
  { rxPacketCredits := { ulpRequests := 1 } }

def computeIncomingPushSolicitedDataResources (requestLength : UInt32) : FalconResourceCredits :=
  let credits : FalconResourceCredits :=
    { rxPacketCredits := { networkRequests := 1 }
      rxBufferCredits := { networkRequests := heldRxBuffer config requestLength } }
  if config.resourceReservationMode = .firstPhaseReservation then
    credits - computeIncomingPushRequestResources
  else credits

def computeOutgoingPushUnsolicitedDataResources (dataLength sglLength : UInt32) :
    FalconResourceCredits :=
  { txPacketCredits := { ulpRequests := 1 }
    txBufferCredits := { ulpRequests := heldTxBuffer config dataLength sglLength } }

def computeIncomingPushUnsolicitedDataResources (requestLength : UInt32) : FalconResourceCredits :=
  { rxPacketCredits := { networkRequests := 1 }
    rxBufferCredits := { networkRequests := heldRxBuffer config requestLength } }

end Resources

inductive PacketDirection where
  | incoming | outgoing
  deriving DecidableEq, Repr

/-- A packet of a transaction with its direction, and whether it still holds its resources. -/
structure HeldPacket extends PacketMetadata where
  direction : PacketDirection
  resourcesReserved : Bool := true
  deriving DecidableEq, Repr

/-- The packets of a transaction. -/
abbrev Packets := PacketType → Option HeldPacket

/-- What releasing a packet gives back: to the pools of Falcon, and to RDMA. -/
def releasedCredits (config : SizeConfig) (packets : Packets) (type : PacketType)
    (packet : HeldPacket) : Except Fault (FalconResourceCredits × FalconCredit) :=
  let data := packet.dataLength
  let sgl := packet.sglLength
  let payload := packet.payloadLength
  let firstPhase := config.resourceReservationMode = .firstPhaseReservation
  match type, packet.direction with
  | .pullRequest, .outgoing => .ok (computeOutgoingPullRequestResources config data sgl, 0)
  | .pullRequest, .incoming => .ok (computeIncomingPullRequestResources config payload, 0)
  | .pullData, .outgoing =>
    let released := computeOutgoingPullDataResources config data sgl
    .ok (released, released.toFalconCredit)
  | .pullData, .incoming =>
    let released := computeIncomingPullDataResources config payload
    match packets .pullRequest with
    | none => .error .unknownPacket
    | some request =>
      .ok (released, (computeOutgoingPullRequestResources config request.dataLength
        request.sglLength + released).toFalconCredit)
  | .pushRequest, _ => .ok ({}, 0)
  | .pushGrant, .outgoing => .ok (computeOutgoingPushGrantResources, 0)
  | .pushGrant, .incoming => .ok ({}, 0)
  | .pushSolicitedData, .outgoing =>
    let data' := computeOutgoingPushSolicitedDataResources config data sgl +
      computeIncomingPushGrantResources
    let released := if firstPhase then
      data' + computeOutgoingPushRequestResources config data sgl else data'
    .ok (released, released.toFalconCredit)
  | .pushSolicitedData, .incoming =>
    let data' := computeIncomingPushSolicitedDataResources config payload
    .ok (if firstPhase then data' + computeIncomingPushRequestResources else data', 0)
  | .pushUnsolicitedData, .outgoing =>
    let released := computeOutgoingPushUnsolicitedDataResources config data sgl +
      computeIncomingPushUnsolicitedCompletionResources
    .ok (released, released.toFalconCredit)
  | .pushUnsolicitedData, .incoming =>
    .ok (computeIncomingPushUnsolicitedDataResources config payload, 0)
  | _, _ => .error .nothingToRelease

/-- `ReleaseResources`: the packets of the transaction afterwards, and what is given back to
RDMA. -/
def releaseResources (config : SizeConfig) (packets : Packets) (type : PacketType) :
    Except Fault (Packets × FalconCredit) :=
  if config.resourceReservationMode = .bypassReservation then .ok (packets, 0)
  else
    match packets type with
    | none => .error .unknownPacket
    | some packet =>
      if !packet.resourcesReserved then .error .notReserved
      else (releasedCredits config packets type packet).map fun released =>
        (Function.update packets type (some { packet with resourcesReserved := false }),
          released.2)

end Isekai.RdmaFalcon
