import Isekai.Binary64
import Isekai.FalconTypes

/-! The events and responses that the rate update engine exchanges with a congestion control
algorithm, in the formats of the two generations, and the adapter that fills an event from the
state of a connection and updates that state from a response.

Reserved and padding bits, and fields that no function sets, are left out. -/

namespace Isekai.RateUpdate

/-- Why a run stops: a failed `CHECK`, a conversion or an index that is out of range, or a
division by zero. -/
inductive Fatal where
  | tooManyBits
  | conversion
  | dividedByZero
  | flowIndex
  | flowWeights
  | unknownConnection
  | packetType
  | notScheduled
  | outstandingEvent
  | noResponse
  deriving DecidableEq, Repr

/-! ## Fields -/

/-- `falcon::RueEventType`. -/
inductive RueEventType where
  | ack | nack | retransmit
  deriving DecidableEq, Repr

/-- `falcon::DelaySelect`. -/
inductive DelaySelect where
  | full | fabric | forward | reverse
  deriving DecidableEq, Repr

/-- `falcon::WindowDirection`. -/
inductive WindowDirection where
  | decrease | increase
  deriving DecidableEq, Repr

/-- `falcon::RetransmitReason`. -/
inductive RetransmitReason where
  | timeout | early
  deriving DecidableEq, Repr

/-- `falcon::NackCode`. -/
inductive NackCode where
  | notANack | rxResourceExhaustion | ulpReceiverNotReady | xlrDrop | rxWindowError
  | ulpCompletionInError | ulpNonRecoverableError | invalidCidError
  deriving DecidableEq, Repr

/-- `kTimeBits`. -/
abbrev timeBits : Nat := 24

/-- `kInterPacketGapBits`. -/
abbrev interPacketGapBits : Nat := 20

/-- `kFabricCongestionWindowBits`. -/
abbrev fabricCongestionWindowBits : Nat := 21

/-- `kDnaNicCongestionWindowBits`. -/
abbrev dnaNicCongestionWindowBits : Nat := 11

/-- `kBnaNicCongestionWindowBits`. -/
abbrev bnaNicCongestionWindowBits : Nat := 21

/-- `kFractionalBits`. -/
abbrev fractionalBits : Nat := 10

/-- `kDnaCcOpaqueBits`. -/
abbrev dnaCcOpaqueBits : Nat := 2

/-- `kBnaCcOpaqueBits`. -/
abbrev bnaCcOpaqueBits : Nat := 18

/-- `kPlbStateBits`. -/
abbrev plbStateBits : Nat := 24

/-- `kCcMetadataBits`. -/
abbrev ccMetadataBits : Nat := 22

/-- `kConnectionIdBits`. -/
abbrev connectionIdBits : Nat := 24

/-- `kFlowLabelBits`, which is also `kIpv6FlowLabelNumBits`. -/
abbrev flowLabelBits : Nat := 20

/-- `kFlowIdBits`. -/
abbrev flowIdBits : Nat := 2

/-- `kNumPacketsAckedBits`. -/
abbrev numPacketsAckedBits : Nat := 10

/-- `CheckBits`. -/
def checkBits (bits num : Nat) : Except Fatal Unit :=
  if num < 2 ^ bits then .ok () else .error .tooManyBits

/-- `SaturateHigh`. -/
def saturateHigh (bits num : Nat) : Nat := if num < 2 ^ bits then num else 2 ^ bits - 1

/-! ## Time units -/

/-- A finite `absl::Duration`, in quarters of a nanosecond. -/
abbrev Span := Int

/-- The quotient by `absl::Nanoseconds(1)`, which saturates as a 64-bit integer does. -/
def wholeNanoseconds (time : Span) : Int := max (-2 ^ 63) (min (2 ^ 63 - 1) (time.tdiv 4))

/-- The time units that are configured, and how a duration is made from a double. -/
structure TimeUnits where
  /-- `nanoseconds_per_falcon_time_unit_`, a double. -/
  nanosecondsPerFalconTimeUnit : ℚ
  /-- `nanoseconds_per_timing_wheel_unit_`. -/
  nanosecondsPerTimingWheelUnit : UInt64
  /-- `absl::Nanoseconds` of a double. -/
  nanoseconds : ℚ → Span

/-- The whole nanoseconds of a duration as a `uint64_t`. -/
def unsignedNanoseconds (time : Span) : Nat := (wholeNanoseconds time % 2 ^ 64).toNat

/-- A number without its fractional part. -/
def truncate (value : ℚ) : Int := if 0 ≤ value then ⌊value⌋ else ⌈value⌉

/-- The conversion of a double to a `uint64_t`, which is undefined out of range. -/
def toUint64 (value : ℚ) : Except Fatal Nat :=
  if 0 ≤ truncate value ∧ truncate value < 2 ^ 64 then .ok (truncate value).toNat
  else .error .conversion

namespace TimeUnits

/-- The quotient of a number of nanoseconds by the Falcon time unit, as a double. -/
def falconQuotient (units : TimeUnits) (nanoseconds : Nat) : ℚ :=
  Binary64.round (Binary64.round nanoseconds / units.nanosecondsPerFalconTimeUnit)

/-- `ToFalconTimeUnits`. -/
def toFalconTimeUnits (units : TimeUnits) (time : Span) : Except Fatal (BitVec 32) :=
  if units.nanosecondsPerFalconTimeUnit = 0 then .error .conversion
  else do
    let falconUnits ← toUint64 (units.falconQuotient (unsignedNanoseconds time))
    checkBits timeBits falconUnits
    pure (BitVec.ofNat 32 falconUnits)

/-- `FromFalconTimeUnits`. -/
def fromFalconTimeUnits (units : TimeUnits) (time : BitVec 32) : Span :=
  units.nanoseconds (Binary64.round (time.toNat * units.nanosecondsPerFalconTimeUnit))

/-- `ToTimingWheelTimeUnits`. -/
def toTimingWheelTimeUnits (units : TimeUnits) (time : Span) : Except Fatal (BitVec 32) :=
  if units.nanosecondsPerTimingWheelUnit = 0 then .error .dividedByZero
  else do
    let wheelUnits := unsignedNanoseconds time / units.nanosecondsPerTimingWheelUnit.toNat
    checkBits interPacketGapBits wheelUnits
    pure (BitVec.ofNat 32 wheelUnits)

end TimeUnits

/-! ## Packets and connections -/

/-- What an ACK or a NACK carries for congestion control. -/
structure Feedback where
  destCid : BitVec 32
  timestamp1 : Span
  timestamp2 : Span
  forwardHops : BitVec 4
  rxBufferLevel : BitVec 5
  ccMetadata : BitVec ccMetadataBits
  deriving DecidableEq, Repr

/-- The parts of a `Packet` that rate updates read. -/
structure Packet where
  packetType : PacketType
  flowLabel : BitVec flowLabelBits
  sentTimestamp : Span
  receivedTimestamp : Span
  ack : Feedback
  nack : Feedback
  nackCode : NackCode
  deriving DecidableEq, Repr

/-- `ConnectionState::CongestionControlMetadata`, less what counts acknowledged packets and
outstanding events, which the engine keeps for each of its keys. -/
structure CongestionControlMetadata where
  flowLabel : BitVec flowLabelBits
  fabricCongestionWindow : BitVec 32
  interPacketGap : Span
  nicCongestionWindow : BitVec 32
  retransmitTimeout : Span
  ccMetadata : BitVec ccMetadataBits
  fabricWindowTimeMarker : BitVec timeBits
  nicWindowTimeMarker : BitVec timeBits
  nicWindowDirection : WindowDirection
  delaySelect : DelaySelect
  baseDelay : BitVec timeBits
  delayState : BitVec timeBits
  rttState : BitVec timeBits
  ccOpaque : BitVec dnaCcOpaqueBits
  gen2PlbState : BitVec plbStateBits
  gen2FlowWeights : List (BitVec 8)
  gen2FlowLabels : List (BitVec 32)
  deriving DecidableEq, Repr

/-- The state of a connection that a response changes. -/
structure ConnectionState where
  congestionControlMetadata : CongestionControlMetadata
  /-- `alpha_request` of the connection's xoff metadata. -/
  alphaRequest : BitVec 8
  /-- `alpha_response` of the connection's xoff metadata. -/
  alphaResponse : BitVec 8
  deriving DecidableEq, Repr

/-! ## Events -/

/-- The fields of an event that depend on what the event reports. -/
structure EventDetails where
  eventType : RueEventType
  timestamp1 : BitVec 32
  timestamp2 : BitVec 32
  timestamp3 : BitVec 32
  timestamp4 : BitVec 32
  retransmitCount : BitVec 8
  retransmitReason : RetransmitReason
  nackCode : NackCode
  forwardHops : BitVec 4
  rxBufferLevel : BitVec 5
  ccMetadata : BitVec ccMetadataBits
  numPacketsAcked : BitVec 16
  eack : Bool
  eackDrop : Bool
  deriving DecidableEq, Repr

/-- What all three functions that fill an event set from the notification. -/
structure EventHeader where
  connectionId : BitVec connectionIdBits
  eventType : RueEventType
  timestamp1 : BitVec timeBits
  timestamp2 : BitVec timeBits
  timestamp3 : BitVec timeBits
  timestamp4 : BitVec timeBits
  retransmitReason : RetransmitReason
  nackCode : NackCode
  forwardHops : BitVec 4
  rxBufferLevel : BitVec 5
  ccMetadata : BitVec ccMetadataBits
  numPacketsAcked : BitVec numPacketsAckedBits
  eack : Bool
  eackDrop : Bool
  deriving DecidableEq, Repr

/-- `Event_DNA_C`. -/
structure EventDna extends EventHeader where
  retransmitCount : BitVec 3
  fabricCongestionWindow : BitVec fabricCongestionWindowBits
  interPacketGap : BitVec interPacketGapBits
  nicCongestionWindow : BitVec dnaNicCongestionWindowBits
  retransmitTimeout : BitVec timeBits
  eventQueueSelect : BitVec 2
  delaySelect : DelaySelect
  fabricWindowTimeMarker : BitVec timeBits
  nicWindowTimeMarker : BitVec timeBits
  nicWindowDirection : WindowDirection
  baseDelay : BitVec timeBits
  delayState : BitVec timeBits
  rttState : BitVec timeBits
  ccOpaque : BitVec dnaCcOpaqueBits
  deriving DecidableEq, Repr

/-- `Event_BNA`. -/
structure EventBna extends EventHeader where
  retransmitCount : BitVec 8
  fabricCongestionWindow : BitVec fabricCongestionWindowBits
  nicCongestionWindow : BitVec bnaNicCongestionWindowBits
  multipathEnable : Bool
  flowLabel : BitVec flowLabelBits
  eventQueueSelect : BitVec 2
  delaySelect : DelaySelect
  fabricWindowTimeMarker : BitVec timeBits
  nicWindowTimeMarker : BitVec timeBits
  baseDelay : BitVec timeBits
  delayState : BitVec timeBits
  rttState : BitVec timeBits
  ccOpaque : BitVec bnaCcOpaqueBits
  plbState : BitVec plbStateBits
  eackOwn : BitVec 2
  deriving DecidableEq, Repr

/-! ## Responses -/

/-- `Response_DNA_C`. -/
structure ResponseDna where
  connectionId : BitVec connectionIdBits
  randomizePath : Bool
  ccMetadata : BitVec ccMetadataBits
  fabricCongestionWindow : BitVec fabricCongestionWindowBits
  interPacketGap : BitVec interPacketGapBits
  nicCongestionWindow : BitVec dnaNicCongestionWindowBits
  retransmitTimeout : BitVec timeBits
  delaySelect : DelaySelect
  fabricWindowTimeMarker : BitVec timeBits
  nicWindowTimeMarker : BitVec timeBits
  nicWindowDirection : WindowDirection
  delayState : BitVec timeBits
  rttState : BitVec timeBits
  ccOpaque : BitVec dnaCcOpaqueBits
  deriving DecidableEq, Repr

/-- A flow of a `Response_BNA`: its label, whether the label is valid, and its weight. -/
structure FlowUpdate where
  label : BitVec flowLabelBits
  valid : Bool
  weight : BitVec 4
  deriving DecidableEq, Repr

/-- `Response_BNA`. -/
structure ResponseBna where
  connectionId : BitVec connectionIdBits
  fabricCongestionWindow : BitVec fabricCongestionWindowBits
  interPacketGap : BitVec interPacketGapBits
  nicCongestionWindow : BitVec bnaNicCongestionWindowBits
  ccMetadata : BitVec ccMetadataBits
  alphaRequest : BitVec 4
  alphaResponse : BitVec 4
  fabricWindowTimeMarker : BitVec timeBits
  nicWindowTimeMarker : BitVec timeBits
  delayState : BitVec timeBits
  plbState : BitVec plbStateBits
  ccOpaque : BitVec bnaCcOpaqueBits
  delaySelect : DelaySelect
  rttState : BitVec timeBits
  flow1 : FlowUpdate
  flow2 : FlowUpdate
  flow3 : FlowUpdate
  flow4 : FlowUpdate
  wrrRestartRound : Bool
  flowId : BitVec flowIdBits
  retransmitTimeout : BitVec timeBits
  deriving DecidableEq, Repr

end Isekai.RateUpdate
