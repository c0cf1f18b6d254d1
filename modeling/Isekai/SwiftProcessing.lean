import Isekai.Swift

/-! How `rue::Swift` answers an event: the two congestion windows and their guards, PLB, the gaps
and timeouts that follow from the windows, and the four functions that put a response together,
for connections of one path and for the flows of a connection of several. -/

namespace Isekai.RateUpdate

instance flows_neZero : NeZero 4 := ⟨by decide⟩

/-! ## Responses and state -/

/-- What `SetResponse` is called with. -/
structure SwiftResponse where
  connectionId : BitVec connectionIdBits
  /-- DNA only. -/
  randomizePath : Bool
  ccMetadata : BitVec ccMetadataBits
  fabricCongestionWindow : Nat
  fabricInterPacketGap : Nat
  nicCongestionWindow : Nat
  retransmitTimeout : Nat
  fabricWindowTimeMarker : BitVec 32
  nicWindowTimeMarker : BitVec 32
  /-- DNA only. -/
  nicWindowDirection : WindowDirection
  delaySelect : DelaySelect
  delayState : Nat
  rttState : Nat
  ccOpaque : BitVec bnaCcOpaqueBits
  /-- BNA only, as are the fields below. -/
  plbState : BitVec plbStateBits
  alphaRequest : Nat
  alphaResponse : Nat
  flows : Fin 4 → FlowUpdate
  wrrRestartRound : Bool
  flowId : BitVec flowIdBits

/-- `SetResponse` of DNA. -/
def SwiftResponse.dna (response : SwiftResponse) : ResponseDna where
  connectionId := response.connectionId
  randomizePath := response.randomizePath
  ccMetadata := response.ccMetadata
  fabricCongestionWindow := BitVec.ofNat _ response.fabricCongestionWindow
  interPacketGap := BitVec.ofNat _ response.fabricInterPacketGap
  nicCongestionWindow := BitVec.ofNat _ response.nicCongestionWindow
  retransmitTimeout := BitVec.ofNat _ response.retransmitTimeout
  delaySelect := response.delaySelect
  fabricWindowTimeMarker := response.fabricWindowTimeMarker.setWidth _
  nicWindowTimeMarker := response.nicWindowTimeMarker.setWidth _
  nicWindowDirection := response.nicWindowDirection
  delayState := BitVec.ofNat _ response.delayState
  rttState := BitVec.ofNat _ response.rttState
  ccOpaque := response.ccOpaque.setWidth _

/-- `SetResponse` of BNA. -/
def SwiftResponse.bna (response : SwiftResponse) : ResponseBna where
  connectionId := response.connectionId
  fabricCongestionWindow := BitVec.ofNat _ response.fabricCongestionWindow
  interPacketGap := BitVec.ofNat _ response.fabricInterPacketGap
  nicCongestionWindow := BitVec.ofNat _ response.nicCongestionWindow
  ccMetadata := response.ccMetadata
  alphaRequest := BitVec.ofNat _ response.alphaRequest
  alphaResponse := BitVec.ofNat _ response.alphaResponse
  fabricWindowTimeMarker := response.fabricWindowTimeMarker.setWidth _
  nicWindowTimeMarker := response.nicWindowTimeMarker.setWidth _
  delayState := BitVec.ofNat _ response.delayState
  plbState := response.plbState
  ccOpaque := response.ccOpaque
  delaySelect := response.delaySelect
  rttState := BitVec.ofNat _ response.rttState
  flow1 := response.flows 0
  flow2 := response.flows 1
  flow3 := response.flows 2
  flow4 := response.flows 3
  wrrRestartRound := response.wrrRestartRound
  flowId := response.flowId
  retransmitTimeout := BitVec.ofNat _ response.retransmitTimeout

/-- `RuePerFlowState`. -/
structure RuePerFlowState where
  fcwndTimeMarker : BitVec 32
  plbState : BitVec plbStateBits
  rttState : Nat
  deriving DecidableEq, Repr

/-- `RueConnectionState`. The source keeps the states of flows 1 to 3 only; the one of flow 0 is
never used here either, since it is carried by the events and responses. -/
structure RueConnectionState where
  fcwnd : Fin 4 → Nat
  perFlowStates : Fin 4 → RuePerFlowState

/-- `kInitialFlowRttState`. -/
def initialFlowRttState : Nat := 191

/-- The state before the first event, with the window that each flow begins with. -/
def RueConnectionState.initial (flowFcwnd : Nat) : RueConnectionState where
  fcwnd _ := flowFcwnd
  perFlowStates _ := { fcwndTimeMarker := 0, plbState := 0, rttState := initialFlowRttState }

/-- The sum of the windows of the flows, a `uint32_t`. -/
def RueConnectionState.totalFcwnd (state : RueConnectionState) : Nat :=
  (state.fcwnd 0 + state.fcwnd 1 + state.fcwnd 2 + state.fcwnd 3) % 2 ^ 32

/-- The algorithm: the event format and the parameters of its profile. -/
structure Swift where
  format : Format
  parameters : SwiftParameters

namespace Swift
variable (swift : Swift)

/-! ## Windows -/

/-- `UseMaxFabricDecrease` of the formats with EACK. -/
def useMaxFabricDecrease (event : SwiftEvent) : Bool :=
  swift.parameters.maxDecreaseOnEackNackDrop &&
    ((event.eventType = .nack && event.nackCode = .rxWindowError) ||
      (event.eventType = .ack && event.eack && event.eackDrop))

/-- The bounds that each function puts its fabric window between. -/
def clampFabric (window : ℚ) : ℚ :=
  clamp window swift.parameters.minFabricCongestionWindow
    swift.parameters.maxFabricCongestionWindow

/-- The bounds that each function puts its NIC window between. -/
def clampNic (window : ℚ) : ℚ :=
  clamp window swift.parameters.minNicCongestionWindow swift.parameters.maxNicCongestionWindow

/-- A multiplicative decrease by a share of the window. -/
def decreasedBy (window amount : ℚ) : ℚ := Binary64.round (window * Binary64.round (1 - amount))

/-- The share that a window is decreased by for a measure that is above its target. -/
def decreaseAmount (measure target : Nat) (factor most : ℚ) : ℚ :=
  min most (Binary64.round (Binary64.round ((measure - target : Nat) / measure) * factor))

/-- `ComputeAckFabricCongestionWindow`. -/
def computeAckFabricCongestionWindow (event : SwiftEvent) (window : ℚ)
    (smoothedDelay targetDelay : Nat) (timing : PacketTiming) (fabricDecreaseDelta : Nat) : ℚ :=
  let parameters := swift.parameters
  swift.clampFabric <|
    if smoothedDelay < targetDelay then
      let increase := Binary64.round
        (parameters.fabricAdditiveIncrementFactor * event.numPacketsAcked.toNat)
      let increase := if 1 ≤ window then Binary64.round (increase / window) else increase
      Binary64.round (window + increase)
    else if timing.rtt ≤ fabricDecreaseDelta then
      decreasedBy window (decreaseAmount smoothedDelay targetDelay
        parameters.fabricMultiplicativeDecreaseFactor parameters.maxFabricMultiplicativeDecrease)
    else window

/-- `ComputeNackFabricCongestionWindow`. -/
def computeNackFabricCongestionWindow (window : ℚ) (timing : PacketTiming)
    (fabricDecreaseDelta : Nat) : ℚ :=
  swift.clampFabric <|
    if timing.rtt ≤ fabricDecreaseDelta then
      decreasedBy window swift.parameters.maxFabricMultiplicativeDecrease
    else window

/-- `ComputeTimeoutFabricCongestionWindow`. -/
def computeTimeoutFabricCongestionWindow (event : SwiftEvent) (rttState : Nat) (window : ℚ)
    (fabricDecreaseDelta : Nat) : ℚ :=
  swift.clampFabric <|
    if rttState ≤ fabricDecreaseDelta then
      if event.retransmitCount = 1 then
        decreasedBy window swift.parameters.maxFabricMultiplicativeDecrease
      else if swift.parameters.retransmitLimit ≤ event.retransmitCount then
        swift.parameters.minFabricCongestionWindow
      else window
    else window

/-- `ComputeAckNicCongestionWindow`: a DNA window increases if it was decreased last or has not
changed for a round trip, a BNA window on every ACK. -/
def computeAckNicCongestionWindow (event : SwiftEvent) (window : ℚ) (nicChangeDelta : Nat)
    (timing : PacketTiming) : ℚ :=
  let parameters := swift.parameters
  let level := event.rxBufferLevel.toNat
  swift.clampNic <|
    if level < parameters.targetRxBufferLevel then
      if swift.format = .bna ∨ event.nicWindowDirection = .decrease ∨
          timing.rtt ≤ nicChangeDelta then
        Binary64.round (window + parameters.nicAdditiveIncrementFactor)
      else window
    else if timing.rtt ≤ nicChangeDelta then
      decreasedBy window (decreaseAmount level parameters.targetRxBufferLevel
        parameters.nicMultiplicativeDecreaseFactor parameters.maxNicMultiplicativeDecrease)
    else window

/-- `ComputeNackNicCongestionWindow`: a DNA window decreases also if it was increased last. -/
def computeNackNicCongestionWindow (event : SwiftEvent) (window : ℚ) (nicChangeDelta : Nat)
    (timing : PacketTiming) : ℚ :=
  swift.clampNic <|
    if (swift.format = .dna ∧ event.nicWindowDirection = .increase) ∨
        timing.rtt ≤ nicChangeDelta then
      decreasedBy window swift.parameters.maxNicMultiplicativeDecrease
    else window

/-- The NIC window of an ACK or a NACK. -/
def nicCongestionWindow (event : SwiftEvent) (window : ℚ) (nicChangeDelta : Nat)
    (timing : PacketTiming) : ℚ :=
  if event.eventType = .nack ∧ event.nackCode = .rxResourceExhaustion then
    swift.computeNackNicCongestionWindow event window nicChangeDelta timing
  else swift.computeAckNicCongestionWindow event window nicChangeDelta timing

/-- The fabric window of an ACK or a NACK. -/
def fabricCongestionWindow (event : SwiftEvent) (window : ℚ) (smoothedDelay targetDelay : Nat)
    (timing : PacketTiming) (fabricDecreaseDelta : Nat) : ℚ :=
  if swift.useMaxFabricDecrease event then
    swift.computeNackFabricCongestionWindow window timing fabricDecreaseDelta
  else swift.computeAckFabricCongestionWindow event window smoothedDelay targetDelay timing
    fabricDecreaseDelta

/-- `GetNicWindowGuardInfo` of the class: in BNA the guard is that of the fabric window. -/
def getNicWindowGuardInfo (event : SwiftEvent) (now : BitVec 32) (calcRtt : Nat)
    (last next : ℚ) : NicWindowGuardInfo :=
  let marker := event.nicWindowTimeMarker.setWidth 32
  let min := swift.parameters.minNicCongestionWindow
  match swift.format with
  | .dna => RateUpdate.getNicWindowGuardInfo now marker calcRtt event.nicWindowDirection last next
      min swift.parameters.maxNicCongestionWindow
  | .bna => { timeMarker := getFabricWindowTimeMarker now marker calcRtt last next min
              direction := .decrease }

/-- `GetFloatNcwndFromEvent`. -/
def getFloatNcwndFromEvent (event : SwiftEvent) : ℚ :=
  match swift.format with
  | .dna => event.nicCongestionWindow.toNat
  | .bna => fixedToFloat event.nicCongestionWindow.toNat fractionalBits

/-- `ConvertFloatNcwndToFixed`. -/
def convertFloatNcwndToFixed (window : ℚ) : Nat :=
  match swift.format with
  | .dna => (roundAway window).toNat
  | .bna => floatToFixed window fractionalBits

/-! ## Delays, gaps and timeouts -/

/-- `GetSmoothed` of numbers that are not negative. -/
def getSmoothed (alpha : ℚ) (smoothedValue value : Nat) : Nat :=
  (truncate (Binary64.round (Binary64.round (smoothedValue * alpha) +
    Binary64.round (value * Binary64.round (1 - alpha))))).toNat

/-- `GetTargetDelay`. -/
def getTargetDelay (window : ℚ) (hops : Nat) : Except Fatal Nat := do
  let parameters := swift.parameters
  if window = 0 then throw .conversion
  let flowScaling ← toUint32 (Binary64.round
    (Binary64.round (parameters.flowScalingAlpha / Binary64.sqrt window) +
      parameters.flowScalingBeta))
  let total := parameters.fabricBaseDelay + min flowScaling parameters.maxFlowScaling +
    parameters.topoScalingPerHop * hops
  pure (saturateHigh timeBits (total % 2 ^ 32))

/-- `GetInterPacketGap`. -/
def getInterPacketGap (window : ℚ) (rtt : Nat) : Except Fatal Nat := do
  if window ≤ 0 then throw .dividedByZero
  if 1 ≤ window then pure 0
  else
    let gap := Binary64.round (Binary64.round (rtt / window) * swift.parameters.ipgTimeScalar)
    let gap ← toUint64 (roundAway gap)
    pure (saturateHigh swift.parameters.ipgBits gap)

/-- `GetNicInterPacketGap`. -/
def getNicInterPacketGap (window : ℚ) (rtt : Nat) : Except Fatal Nat :=
  match swift.format with
  | .dna => pure 0
  | .bna => swift.getInterPacketGap window rtt

/-- `GetNipgFromEvent`, for the round-trip time of the connection. -/
def getNipgFromEvent (event : SwiftEvent) (rtt : Nat) : Except Fatal Nat :=
  swift.getNicInterPacketGap (swift.clampNic (swift.getFloatNcwndFromEvent event)) rtt

/-- `GetRetransmitTimeout`. -/
def getRetransmitTimeout (rtt interPacketGap : Nat) : Except Fatal Nat := do
  let parameters := swift.parameters
  let rto ← toUint32 (Binary64.round (rtt * parameters.retransmitTimeoutScalar))
  let rto ← toUint32 (Binary64.round
    (rto + Binary64.round (interPacketGap / parameters.ipgTimeScalar)))
  pure (max (saturateHigh timeBits rto) parameters.minRetransmitTimeout)

/-! ## Backpressure -/

/-- `kPerConnectionBackpressureBaseAlpha`. -/
def perConnectionBackpressureBaseAlpha : ℚ := 1 / 8

/-- `kPerConnectionBackpressureRetransmitAlpha`. -/
def perConnectionBackpressureRetransmitAlpha : ℚ := 1 / 16

/-- `ConvertPerConnectionAlphaToShift`. -/
def convertPerConnectionAlphaToShift (alpha : ℚ) : Nat :=
  if 8 ≤ alpha then 0 else if alpha ≤ 1 / 4096 then 15 else (3 - Int.clog 2 alpha).toNat

/-- `ComputePerConnectionBackpressureVariables`, the shifts of requests and of responses. -/
def computePerConnectionBackpressureVariables (event : SwiftEvent) (timing : PacketTiming)
    (targetDelay : Nat) : Nat × Nat :=
  match swift.format with
  | .dna => (0, 0)
  | .bna =>
    let rttBeta := Binary64.round (targetDelay / max timing.delay 1)
    let bufferLevelBeta := Binary64.round
      (swift.parameters.targetRxBufferLevel / max event.rxBufferLevel.toNat 1)
    let shift (beta : ℚ) := convertPerConnectionAlphaToShift
      (Binary64.round (perConnectionBackpressureBaseAlpha * beta))
    (shift (min 1 (min rttBeta bufferLevelBeta)), shift (min 1 rttBeta))

/-! ## Paths -/

/-- Whether the congested share of a round is below the threshold; the quotient of a round without
packets is not a number, and not below anything. -/
def belowThreshold (acknowledged congestionAcknowledged : Nat) : Bool :=
  acknowledged ≠ 0 ∧
    Binary64.round (congestionAcknowledged / acknowledged) < swift.parameters.plbCongestionThreshold

/-- Whether the packets of an event count as congested. -/
def congested (smoothedDelay targetDelay : Nat) : Bool :=
  Binary64.round (targetDelay * swift.parameters.plbTargetRttMultiplier) < smoothedDelay

/-- `ComputePlb`: whether to reroute, and the new state. -/
def computePlb (event : SwiftEvent) (smoothedDelay targetDelay : Nat) (plbState : PlbState)
    (oldWindowSize : ℚ) : Bool × PlbState :=
  if event.nackCode ≠ .notANack then (false, plbState)
  else if swift.parameters.randomizePath then
    let acked := event.numPacketsAcked.toNat
    let acknowledged := plbState.packetsAcknowledged.toNat + acked
    let congestionAcknowledged := plbState.packetsCongestionAcknowledged.toNat +
      if swift.congested smoothedDelay targetDelay then acked else 0
    if oldWindowSize ≤ acknowledged then
      if swift.belowThreshold acknowledged congestionAcknowledged then (false, ⟨0, 0, 0⟩)
      else
        let attempted := plbState.plbRerouteAttempted + 1
        if swift.parameters.plbAttemptThreshold ≤ attempted.toNat then (true, ⟨0, 0, 0⟩)
        else (false, ⟨0, 0, attempted⟩)
    else
      (false, { plbState with
        packetsCongestionAcknowledged := BitVec.ofNat _ congestionAcknowledged
        packetsAcknowledged := BitVec.ofNat _ acknowledged })
  else (false, plbState)

/-- `ComputeRandomizePath`. -/
def computeRandomizePath (event : SwiftEvent) : Bool :=
  match swift.format with
  | .dna => swift.parameters.randomizePath && event.ccOpaque.getLsbD 0
  | .bna => false

/-- `GetPlbStateFromEvent`. -/
def getPlbStateFromEvent (event : SwiftEvent) : BitVec plbStateBits :=
  match swift.format with
  | .dna => event.delayState
  | .bna => event.plbState

/-- `GetDelayStateInResponse`. -/
def getDelayStateInResponse (delayState : Nat) (plbState : BitVec plbStateBits) : Nat :=
  match swift.format with
  | .dna => if swift.parameters.randomizePath then plbState.toNat else delayState
  | .bna => delayState

/-- `RandomFlowLabel`; `label` is what the generator returns. -/
def randomFlowLabel (label : BitVec (flowLabelBits - flowIdBits)) (flowId : BitVec flowIdBits) :
    BitVec flowLabelBits :=
  label ++ flowId

/-- `UpdateFlowLabels`, over the labels of the flows if there is no reroute. -/
def updateFlowLabels (reroute : Bool) (label : BitVec (flowLabelBits - flowIdBits))
    (flowId : BitVec flowIdBits) (labels : Fin 4 → BitVec flowLabelBits) (flow : Fin 4) :
    BitVec flowLabelBits × Bool :=
  if swift.format = .bna ∧ reroute ∧ flowId.toFin = flow then (randomFlowLabel label flowId, true)
  else (labels flow, false)

/-- `kDefaultFlowLabel1` to `kDefaultFlowLabel4`. -/
def defaultFlowLabels : Fin 4 → BitVec flowLabelBits
  | 0 => 0x01230
  | 1 => 0x45671
  | 2 => 0x89012
  | 3 => 0x23453

/-- `ComputeFlowWeight`. -/
def computeFlowWeight (flowFcwnd connectionFcwnd : ℚ) : Nat :=
  let scaledRatio := Binary64.round (Binary64.round (15 * flowFcwnd) / connectionFcwnd)
  max 1 (saturateHigh 4 (roundAway scaledRatio).toNat)

/-! ## Connections of one path -/

/-- `ProcessAckNack`. -/
def processAckNack (event : SwiftEvent) (now : BitVec 32)
    (label : BitVec (flowLabelBits - flowIdBits)) : Except Fatal SwiftResponse := do
  let parameters := swift.parameters
  let timing := event.packetTiming
  let oldFabric := fixedToFloat event.fabricCongestionWindow.toNat fractionalBits
  let oldNic := swift.getFloatNcwndFromEvent event
  let targetDelay ← swift.getTargetDelay oldFabric event.forwardHops.toNat
  let smoothedRtt := getSmoothed parameters.rttSmoothingAlpha event.rttState.toNat timing.rtt
  let smoothedDelay :=
    getSmoothed parameters.delaySmoothingAlpha event.delayState.toNat timing.delay
  let calcRtt := if parameters.calcRttSmooth then smoothedRtt else timing.rtt
  let fabricMarker := event.fabricWindowTimeMarker.setWidth 32
  let newFabric := swift.fabricCongestionWindow event oldFabric smoothedDelay targetDelay timing
    (getWindowDelta now fabricMarker)
  let fabricGap ← swift.getInterPacketGap newFabric calcRtt
  let newNic := swift.nicCongestionWindow event oldNic
    (getWindowDelta now (event.nicWindowTimeMarker.setWidth 32)) timing
  let nicGuardInfo := swift.getNicWindowGuardInfo event now calcRtt oldNic newNic
  let nicGap ← swift.getNicInterPacketGap newNic calcRtt
  let retransmitTimeout ← swift.getRetransmitTimeout smoothedRtt (max fabricGap nicGap)
  let plb := swift.computePlb event smoothedDelay targetDelay
    (PlbState.ofValue (swift.getPlbStateFromEvent event)) (min oldFabric oldNic)
  let labels := swift.updateFlowLabels plb.1 label event.flowId fun _ => 0
  let alpha := swift.computePerConnectionBackpressureVariables event timing targetDelay
  pure {
    connectionId := event.connectionId
    randomizePath := plb.1 || swift.computeRandomizePath event
    ccMetadata := event.ccMetadata
    fabricCongestionWindow := floatToFixed newFabric fractionalBits
    fabricInterPacketGap := fabricGap
    nicCongestionWindow := swift.convertFloatNcwndToFixed newNic
    retransmitTimeout
    fabricWindowTimeMarker := getFabricWindowTimeMarker now fabricMarker calcRtt oldFabric newFabric
      parameters.minFabricCongestionWindow
    nicWindowTimeMarker := nicGuardInfo.timeMarker
    nicWindowDirection := nicGuardInfo.direction
    delaySelect := event.delaySelect
    delayState := swift.getDelayStateInResponse smoothedDelay plb.2.value
    rttState := smoothedRtt
    ccOpaque := event.ccOpaque
    plbState := plb.2.value
    alphaRequest := alpha.1
    alphaResponse := alpha.2
    flows := fun flow => { label := (labels flow).1, valid := (labels flow).2, weight := 0 }
    wrrRestartRound := false
    flowId := event.flowId }

/-- `ProcessRetransmit`. -/
def processRetransmit (event : SwiftEvent) (now : BitVec 32) : Except Fatal SwiftResponse := do
  let rtt := event.rttState.toNat
  let marker := event.fabricWindowTimeMarker.setWidth 32
  let oldFabric := fixedToFloat event.fabricCongestionWindow.toNat fractionalBits
  let newFabric := swift.computeTimeoutFabricCongestionWindow event rtt oldFabric
    (getWindowDelta now marker)
  let nicGap ← swift.getNipgFromEvent event rtt
  let fabricGap ← swift.getInterPacketGap newFabric rtt
  let retransmitTimeout ← swift.getRetransmitTimeout rtt (max fabricGap nicGap)
  let alpha := convertPerConnectionAlphaToShift perConnectionBackpressureRetransmitAlpha
  pure {
    connectionId := event.connectionId
    randomizePath := swift.computeRandomizePath event
    ccMetadata := event.ccMetadata
    fabricCongestionWindow := floatToFixed newFabric fractionalBits
    fabricInterPacketGap := fabricGap
    nicCongestionWindow := event.nicCongestionWindow.toNat
    retransmitTimeout
    fabricWindowTimeMarker := getFabricWindowTimeMarker now marker rtt oldFabric newFabric
      swift.parameters.minFabricCongestionWindow
    nicWindowTimeMarker := event.nicWindowTimeMarker.setWidth 32
    nicWindowDirection := event.nicWindowDirection
    delaySelect := event.delaySelect
    delayState := event.delayState.toNat
    rttState := rtt
    ccOpaque := event.ccOpaque
    plbState := swift.getPlbStateFromEvent event
    alphaRequest := alpha
    alphaResponse := alpha
    flows := fun _ => { label := 0, valid := false, weight := 0 }
    wrrRestartRound := false
    flowId := event.flowId }

/-! ## Flows -/

/-- What an event of a flow finds: of flow 0 in the event, of the others in the state. -/
def flowState (event : SwiftEvent) (state : RueConnectionState) : RuePerFlowState :=
  if event.flowId = 0 then
    { fcwndTimeMarker := event.fabricWindowTimeMarker.setWidth 32
      plbState := swift.getPlbStateFromEvent event
      rttState := event.rttState.toNat }
  else state.perFlowStates event.flowId.toFin

/-- The round-trip times of the four flows. -/
def rttStates (event : SwiftEvent) (state : RueConnectionState) (flow : Fin 4) : Nat :=
  if flow = 0 then event.rttState.toNat else (state.perFlowStates flow).rttState

/-- The largest of the round-trip times. -/
def maxRttState (states : Fin 4 → Nat) : Nat :=
  max (max (states 0) (states 1)) (max (states 2) (states 3))

/-- The state after an event of a flow, whose own state is kept unless it is flow 0. -/
def writeBack (event : SwiftEvent) (state : RueConnectionState) (fcwnd : Nat)
    (flow : RuePerFlowState) : RueConnectionState where
  fcwnd := Function.update state.fcwnd event.flowId.toFin fcwnd
  perFlowStates :=
    if event.flowId = 0 then state.perFlowStates
    else Function.update state.perFlowStates event.flowId.toFin flow

/-- The window of the connection. -/
def connectionWindow (state : RueConnectionState) : ℚ :=
  swift.clampFabric (fixedToFloat state.totalFcwnd fractionalBits)

/-- The weight of a flow, for the windows of the flows and of the connection. -/
def flowWeight (state : RueConnectionState) (flow : Fin 4) : BitVec 4 :=
  BitVec.ofNat _ (computeFlowWeight (fixedToFloat (state.fcwnd flow) fractionalBits)
    (swift.connectionWindow state))

/-- `ProcessAckNackMultipath`. -/
def processAckNackMultipath (event : SwiftEvent) (state : RueConnectionState) (now : BitVec 32)
    (label : BitVec (flowLabelBits - flowIdBits)) :
    Except Fatal (SwiftResponse × RueConnectionState) := do
  let parameters := swift.parameters
  let old := swift.flowState event state
  let timing := event.packetTiming
  let newRttState := getSmoothed parameters.rttSmoothingAlpha old.rttState timing.rtt
  let calcRtt := if parameters.calcRttSmooth then newRttState else timing.rtt
  let maxRtt := maxRttState
    (Function.update (rttStates event state) event.flowId.toFin newRttState)
  let oldFabric := fixedToFloat (state.fcwnd event.flowId.toFin) fractionalBits
  let targetDelay ← swift.getTargetDelay oldFabric event.forwardHops.toNat
  let newFabric := swift.fabricCongestionWindow event oldFabric timing.delay targetDelay timing
    (getWindowDelta now old.fcwndTimeMarker)
  let newMarker := getFabricWindowTimeMarker now old.fcwndTimeMarker calcRtt oldFabric newFabric
    parameters.minFabricCongestionWindow
  let oldNic := swift.getFloatNcwndFromEvent event
  let newNic := swift.nicCongestionWindow event oldNic
    (getWindowDelta now (event.nicWindowTimeMarker.setWidth 32)) timing
  let nicGuardInfo := swift.getNicWindowGuardInfo event now calcRtt oldNic newNic
  let plb := swift.computePlb event timing.delay targetDelay (PlbState.ofValue old.plbState)
    (min oldFabric oldNic)
  let next := writeBack event state (floatToFixed newFabric fractionalBits)
    { fcwndTimeMarker := newMarker, plbState := plb.2.value, rttState := newRttState }
  let fabricGap ← swift.getInterPacketGap (swift.connectionWindow next) maxRtt
  let nicGap ← swift.getNicInterPacketGap newNic maxRtt
  let retransmitTimeout ← swift.getRetransmitTimeout maxRtt (max fabricGap nicGap)
  let labels := swift.updateFlowLabels plb.1 label event.flowId defaultFlowLabels
  let alpha := swift.computePerConnectionBackpressureVariables event timing targetDelay
  let first := event.flowId = 0
  pure ({
    connectionId := event.connectionId
    randomizePath := false
    ccMetadata := event.ccMetadata
    fabricCongestionWindow := floatToFixed (swift.connectionWindow next) fractionalBits
    fabricInterPacketGap := fabricGap
    nicCongestionWindow := swift.convertFloatNcwndToFixed newNic
    retransmitTimeout
    fabricWindowTimeMarker :=
      if first then newMarker else event.fabricWindowTimeMarker.setWidth 32
    nicWindowTimeMarker := nicGuardInfo.timeMarker
    nicWindowDirection := nicGuardInfo.direction
    delaySelect := event.delaySelect
    delayState := 0
    rttState := if first then newRttState else event.rttState.toNat
    ccOpaque := event.ccOpaque
    plbState := if first then plb.2.value else event.plbState
    alphaRequest := alpha.1
    alphaResponse := alpha.2
    flows := fun flow => {
      label := (labels flow).1, valid := (labels flow).2, weight := swift.flowWeight next flow }
    wrrRestartRound := false
    flowId := event.flowId }, next)

/-- `ProcessRetransmitMultipath`. -/
def processRetransmitMultipath (event : SwiftEvent) (state : RueConnectionState)
    (now : BitVec 32) : Except Fatal (SwiftResponse × RueConnectionState) := do
  let old := swift.flowState event state
  let oldFabric := fixedToFloat (state.fcwnd event.flowId.toFin) fractionalBits
  -- The guard of a timeout compares with the round-trip time of the event, whatever the flow.
  let newFabric := swift.computeTimeoutFabricCongestionWindow event event.rttState.toNat oldFabric
    (getWindowDelta now old.fcwndTimeMarker)
  let newMarker := getFabricWindowTimeMarker now old.fcwndTimeMarker old.rttState oldFabric
    newFabric swift.parameters.minFabricCongestionWindow
  let next := writeBack event state (floatToFixed newFabric fractionalBits)
    { old with fcwndTimeMarker := newMarker }
  let maxRtt := maxRttState (rttStates event state)
  let fabricGap ← swift.getInterPacketGap (swift.connectionWindow next) maxRtt
  let nicGap ← swift.getNipgFromEvent event maxRtt
  let retransmitTimeout ← swift.getRetransmitTimeout maxRtt (max fabricGap nicGap)
  let alpha := convertPerConnectionAlphaToShift perConnectionBackpressureRetransmitAlpha
  pure ({
    connectionId := event.connectionId
    randomizePath := false
    ccMetadata := event.ccMetadata
    fabricCongestionWindow := floatToFixed (swift.connectionWindow next) fractionalBits
    fabricInterPacketGap := fabricGap
    nicCongestionWindow := event.nicCongestionWindow.toNat
    retransmitTimeout
    fabricWindowTimeMarker :=
      if event.flowId = 0 then newMarker else event.fabricWindowTimeMarker.setWidth 32
    nicWindowTimeMarker := event.nicWindowTimeMarker.setWidth 32
    nicWindowDirection := .decrease
    delaySelect := event.delaySelect
    delayState := event.delayState.toNat
    rttState := event.rttState.toNat
    ccOpaque := event.ccOpaque
    plbState := event.plbState
    alphaRequest := alpha
    alphaResponse := alpha
    flows := fun flow => {
      label := defaultFlowLabels flow, valid := false, weight := swift.flowWeight next flow }
    wrrRestartRound := false
    flowId := event.flowId }, next)

/-- `Process`, and `ProcessMultipath` for an event of a connection with several paths. -/
def process (event : SwiftEvent) (state : RueConnectionState) (now : BitVec 32)
    (label : BitVec (flowLabelBits - flowIdBits)) :
    Except Fatal (SwiftResponse × RueConnectionState) :=
  match event.multipathEnable, event.eventType with
  | false, .retransmit => (swift.processRetransmit event now).map (·, state)
  | false, _ => (swift.processAckNack event now label).map (·, state)
  | true, .retransmit => swift.processRetransmitMultipath event state now
  | true, _ => swift.processAckNackMultipath event state now label

end Swift

end Isekai.RateUpdate
