import Isekai.RueFormat

/-! `EventResponseFormatAdapter`: how a response changes the state of its connection, and how the
three kinds of events are filled from that state, for the formats of both generations. -/

namespace Isekai.RateUpdate

/-! ## Responses -/

/-- An assignment to an element of a vector, undefined past its end. -/
def assign {A : Type} (vector : List A) (index : Nat) (value : A) : Except Fatal (List A) :=
  if index < vector.length then .ok (vector.set index value) else .error .flowIndex

/-- The update of one flow label if the response marks it valid. -/
def updateFlowLabel (labels : List (BitVec 32)) (index : Nat) (flow : FlowUpdate) :
    Except Fatal (List (BitVec 32)) :=
  if flow.valid then assign labels index (flow.label.setWidth 32) else .ok labels

/-- The sum of the four weights of a response. -/
def ResponseBna.weights (response : ResponseBna) : Nat :=
  response.flow1.weight.toNat + response.flow2.weight.toNat + response.flow3.weight.toNat +
    response.flow4.weight.toNat

/-- The flow labels after a response of a connection with several paths. -/
def updateFlowLabels (labels : List (BitVec 32)) (response : ResponseBna) :
    Except Fatal (List (BitVec 32)) := do
  let labels ← updateFlowLabel labels 0 response.flow1
  let labels ← updateFlowLabel labels 1 response.flow2
  let labels ← updateFlowLabel labels 2 response.flow3
  updateFlowLabel labels 3 response.flow4

/-- The flow weights after a response of a connection with several paths. -/
def updateFlowWeights (weights : List (BitVec 8)) (response : ResponseBna) :
    Except Fatal (List (BitVec 8)) := do
  let weights ← assign weights 0 (response.flow1.weight.setWidth 8)
  let weights ← assign weights 1 (response.flow2.weight.setWidth 8)
  let weights ← assign weights 2 (response.flow3.weight.setWidth 8)
  assign weights 3 (response.flow4.weight.setWidth 8)

/-- The flow labels and weights after a response. The round robin of the flows that
`wrr_restart_round` restarts belongs to the reliability manager. -/
def updateFlows (metadata : CongestionControlMetadata) (response : ResponseBna) :
    Except Fatal (List (BitVec 32) × List (BitVec 8)) :=
  if metadata.gen2FlowLabels.length % 256 = 1 then
    (updateFlowLabel metadata.gen2FlowLabels 0 response.flow1).map fun labels =>
      (labels, metadata.gen2FlowWeights)
  else
    updateFlowLabels metadata.gen2FlowLabels response >>= fun labels =>
      if response.weights = 0 then .error .flowWeights
      else (updateFlowWeights metadata.gen2FlowWeights response).map fun weights =>
        (labels, weights)

/-- `UpdateConnectionStateFromResponse` of DNA; `flowLabel` is what `GenerateRandomFlowLabel`
returns. -/
def updateConnectionStateFromResponseDna (units : TimeUnits) (flowLabel : BitVec flowLabelBits)
    (connection : ConnectionState) (response : ResponseDna) : ConnectionState :=
  let metadata := connection.congestionControlMetadata
  { connection with
    congestionControlMetadata := { metadata with
      flowLabel := if response.randomizePath then flowLabel else metadata.flowLabel
      fabricCongestionWindow := response.fabricCongestionWindow.setWidth 32
      interPacketGap := units.fromFalconTimeUnits (response.interPacketGap.setWidth 32)
      nicCongestionWindow := response.nicCongestionWindow.setWidth 32
      retransmitTimeout := units.fromFalconTimeUnits (response.retransmitTimeout.setWidth 32)
      ccMetadata := response.ccMetadata
      fabricWindowTimeMarker := response.fabricWindowTimeMarker
      nicWindowTimeMarker := response.nicWindowTimeMarker
      nicWindowDirection := response.nicWindowDirection
      delaySelect := response.delaySelect
      delayState := response.delayState
      rttState := response.rttState
      -- The source assigns the field of the connection to itself.
      ccOpaque := metadata.ccOpaque } }

/-- `FixedToUint`. -/
def fixedToUint (num : BitVec 32) (frac : Nat) : BitVec 32 := num >>> frac

/-- `UintToFixed`. -/
def uintToFixed (num : BitVec 32) (frac : Nat) : BitVec 32 := num <<< frac

/-- The integer NIC congestion window that a BNA response sets, at least one. -/
def integerCongestionWindow (window : BitVec bnaNicCongestionWindowBits) : BitVec 32 :=
  let whole := fixedToUint (window.setWidth 32) fractionalBits
  if 1 < whole then whole else 1

/-- `UpdateConnectionStateFromResponse` of BNA. -/
def updateConnectionStateFromResponseBna (units : TimeUnits) (connection : ConnectionState)
    (response : ResponseBna) : Except Fatal ConnectionState := do
  let metadata := connection.congestionControlMetadata
  let flows ← updateFlows metadata response
  pure {
    congestionControlMetadata := { metadata with
      gen2FlowLabels := flows.1
      gen2FlowWeights := flows.2
      fabricCongestionWindow := response.fabricCongestionWindow.setWidth 32
      interPacketGap := units.fromFalconTimeUnits (response.interPacketGap.setWidth 32)
      nicCongestionWindow := integerCongestionWindow response.nicCongestionWindow
      retransmitTimeout := units.fromFalconTimeUnits (response.retransmitTimeout.setWidth 32)
      ccMetadata := response.ccMetadata
      fabricWindowTimeMarker := response.fabricWindowTimeMarker
      nicWindowTimeMarker := response.nicWindowTimeMarker
      delaySelect := response.delaySelect
      delayState := response.delayState
      rttState := response.rttState
      -- The source assigns the field of the connection to itself.
      ccOpaque := metadata.ccOpaque
      gen2PlbState := response.plbState }
    alphaRequest := response.alphaRequest.setWidth 8
    alphaResponse := response.alphaResponse.setWidth 8 }

/-! ## Events -/

/-- The header of an event for a connection. -/
def EventDetails.header (details : EventDetails) (scid : BitVec 32) : EventHeader where
  connectionId := scid.setWidth connectionIdBits
  eventType := details.eventType
  timestamp1 := details.timestamp1.setWidth timeBits
  timestamp2 := details.timestamp2.setWidth timeBits
  timestamp3 := details.timestamp3.setWidth timeBits
  timestamp4 := details.timestamp4.setWidth timeBits
  retransmitReason := details.retransmitReason
  nackCode := details.nackCode
  forwardHops := details.forwardHops
  rxBufferLevel := details.rxBufferLevel
  ccMetadata := details.ccMetadata
  numPacketsAcked := details.numPacketsAcked.setWidth numPacketsAckedBits
  eack := details.eack
  eackDrop := details.eackDrop

/-- What the three functions that fill a DNA event share. -/
def fillEventDna (units : TimeUnits) (scid : BitVec 32) (ccmeta : CongestionControlMetadata)
    (details : EventDetails) : Except Fatal EventDna := do
  let interPacketGap ← units.toTimingWheelTimeUnits ccmeta.interPacketGap
  let retransmitTimeout ← units.toFalconTimeUnits ccmeta.retransmitTimeout
  pure {
    details.header scid with
    retransmitCount := details.retransmitCount.setWidth 3
    fabricCongestionWindow := ccmeta.fabricCongestionWindow.setWidth fabricCongestionWindowBits
    interPacketGap := interPacketGap.setWidth interPacketGapBits
    nicCongestionWindow := ccmeta.nicCongestionWindow.setWidth dnaNicCongestionWindowBits
    retransmitTimeout := retransmitTimeout.setWidth timeBits
    eventQueueSelect := 0
    delaySelect := ccmeta.delaySelect
    fabricWindowTimeMarker := ccmeta.fabricWindowTimeMarker
    nicWindowTimeMarker := ccmeta.nicWindowTimeMarker
    nicWindowDirection := ccmeta.nicWindowDirection
    baseDelay := ccmeta.baseDelay
    delayState := ccmeta.delayState
    rttState := ccmeta.rttState
    ccOpaque := ccmeta.ccOpaque }

/-- What the three functions that fill a BNA event share. -/
def fillEventBna (scid : BitVec 32) (packet : Packet) (ccmeta : CongestionControlMetadata)
    (details : EventDetails) : EventBna :=
  { details.header scid with
    retransmitCount := details.retransmitCount
    fabricCongestionWindow := ccmeta.fabricCongestionWindow.setWidth fabricCongestionWindowBits
    nicCongestionWindow :=
      (uintToFixed ccmeta.nicCongestionWindow fractionalBits).setWidth bnaNicCongestionWindowBits
    multipathEnable := ccmeta.gen2FlowLabels.length ≠ 1
    flowLabel := packet.flowLabel
    eventQueueSelect := 0
    delaySelect := ccmeta.delaySelect
    fabricWindowTimeMarker := ccmeta.fabricWindowTimeMarker
    nicWindowTimeMarker := ccmeta.nicWindowTimeMarker
    baseDelay := ccmeta.baseDelay
    delayState := ccmeta.delayState
    rttState := ccmeta.rttState
    ccOpaque := ccmeta.ccOpaque.setWidth bnaCcOpaqueBits
    plbState := ccmeta.gen2PlbState
    eackOwn := 0 }

/-- What a retransmission timeout reports. -/
def timeoutDetails (retransmitCount : BitVec 8) : EventDetails where
  eventType := .retransmit
  timestamp1 := 0
  timestamp2 := 0
  timestamp3 := 0
  timestamp4 := 0
  retransmitCount := retransmitCount
  retransmitReason := .timeout
  nackCode := .notANack
  forwardHops := 0
  rxBufferLevel := 0
  ccMetadata := 0
  numPacketsAcked := 0
  eack := false
  eackDrop := false

/-- What the feedback of an ACK or a NACK reports, with the four timestamps converted. -/
def feedbackDetails (units : TimeUnits) (packet : Packet) (feedback : Feedback)
    (eventType : RueEventType) (nackCode : NackCode) (numPacketsAcked : BitVec 32)
    (eack eackDrop : Bool) : Except Fatal EventDetails := do
  let timestamp1 ← units.toFalconTimeUnits feedback.timestamp1
  let timestamp2 ← units.toFalconTimeUnits feedback.timestamp2
  let timestamp3 ← units.toFalconTimeUnits packet.sentTimestamp
  let timestamp4 ← units.toFalconTimeUnits packet.receivedTimestamp
  pure {
    eventType, timestamp1, timestamp2, timestamp3, timestamp4, nackCode, eack, eackDrop
    retransmitCount := 0
    retransmitReason := .early
    forwardHops := feedback.forwardHops
    rxBufferLevel := feedback.rxBufferLevel
    ccMetadata := feedback.ccMetadata
    numPacketsAcked := numPacketsAcked.setWidth 16 }

/-- The values of a NACK event. -/
def nackDetails (units : TimeUnits) (packet : Packet) (numPacketsAcked : BitVec 32) :
    Except Fatal EventDetails :=
  feedbackDetails units packet packet.nack .nack packet.nackCode numPacketsAcked false false

/-- The values of an ACK event. -/
def ackDetails (units : TimeUnits) (packet : Packet) (numPacketsAcked : BitVec 32)
    (eack eackDrop : Bool) : Except Fatal EventDetails :=
  feedbackDetails units packet packet.ack .ack .notANack numPacketsAcked eack eackDrop

/-- `FillTimeoutRetransmittedEvent` of DNA. -/
def fillTimeoutRetransmittedEventDna (units : TimeUnits) (scid : BitVec 32)
    (ccmeta : CongestionControlMetadata) (retransmitCount : BitVec 8) : Except Fatal EventDna :=
  fillEventDna units scid ccmeta (timeoutDetails retransmitCount)

/-- `FillNackEvent` of DNA. -/
def fillNackEventDna (units : TimeUnits) (scid : BitVec 32) (packet : Packet)
    (ccmeta : CongestionControlMetadata) (numPacketsAcked : BitVec 32) : Except Fatal EventDna :=
  nackDetails units packet numPacketsAcked >>= fillEventDna units scid ccmeta

/-- `FillExplicitAckEvent` of DNA. -/
def fillExplicitAckEventDna (units : TimeUnits) (scid : BitVec 32) (packet : Packet)
    (ccmeta : CongestionControlMetadata) (numPacketsAcked : BitVec 32) (eack eackDrop : Bool) :
    Except Fatal EventDna :=
  ackDetails units packet numPacketsAcked eack eackDrop >>= fillEventDna units scid ccmeta

/-- `FillTimeoutRetransmittedEvent` of BNA. -/
def fillTimeoutRetransmittedEventBna (scid : BitVec 32) (packet : Packet)
    (ccmeta : CongestionControlMetadata) (retransmitCount : BitVec 8) : EventBna :=
  fillEventBna scid packet ccmeta (timeoutDetails retransmitCount)

/-- `FillNackEvent` of BNA. -/
def fillNackEventBna (units : TimeUnits) (scid : BitVec 32) (packet : Packet)
    (ccmeta : CongestionControlMetadata) (numPacketsAcked : BitVec 32) : Except Fatal EventBna :=
  (nackDetails units packet numPacketsAcked).map (fillEventBna scid packet ccmeta)

/-- `FillExplicitAckEvent` of BNA. -/
def fillExplicitAckEventBna (units : TimeUnits) (scid : BitVec 32) (packet : Packet)
    (ccmeta : CongestionControlMetadata) (numPacketsAcked : BitVec 32) (eack eackDrop : Bool) :
    Except Fatal EventBna :=
  (ackDetails units packet numPacketsAcked eack eackDrop).map (fillEventBna scid packet ccmeta)

/-- A call of one of the three functions that fill an event, with its arguments. -/
inductive FillCall where
  | timeoutRetransmitted (retransmitCount : BitVec 8)
  | nack (numPacketsAcked : BitVec 32)
  | explicitAck (numPacketsAcked : BitVec 32) (eack eackDrop : Bool)
  deriving DecidableEq, Repr

namespace FillCall

/-- The DNA event of a call. -/
def fillDna (call : FillCall) (units : TimeUnits) (scid : BitVec 32) (packet : Packet)
    (ccmeta : CongestionControlMetadata) : Except Fatal EventDna :=
  match call with
  | timeoutRetransmitted retransmitCount =>
    fillTimeoutRetransmittedEventDna units scid ccmeta retransmitCount
  | nack numPacketsAcked => fillNackEventDna units scid packet ccmeta numPacketsAcked
  | explicitAck numPacketsAcked eack eackDrop =>
    fillExplicitAckEventDna units scid packet ccmeta numPacketsAcked eack eackDrop

/-- The BNA event of a call. -/
def fillBna (call : FillCall) (units : TimeUnits) (scid : BitVec 32) (packet : Packet)
    (ccmeta : CongestionControlMetadata) : Except Fatal EventBna :=
  match call with
  | timeoutRetransmitted retransmitCount =>
    .ok (fillTimeoutRetransmittedEventBna scid packet ccmeta retransmitCount)
  | nack numPacketsAcked => fillNackEventBna units scid packet ccmeta numPacketsAcked
  | explicitAck numPacketsAcked eack eackDrop =>
    fillExplicitAckEventBna units scid packet ccmeta numPacketsAcked eack eackDrop

end FillCall

end Isekai.RateUpdate
