import Isekai.FormatAdapter

/-! `rue::Swift`, the congestion control algorithm: its configuration, the windows it computes, the
guards against decreasing a window twice in one round trip, and the rerouting of congested paths.

The class is a template over the event format. What its specialisations change is decided by the
format of the object. There is one profile, and CSIG and the AR rate, which the responses of this
development do not carry, are left out. -/

namespace Isekai.RateUpdate

/-! ## Conversions -/

/-- `std::round`: the nearest integer, and of two nearest ones the one further from zero. -/
def roundAway (value : ℚ) : Int := if 0 ≤ value then ⌊value + 1 / 2⌋ else ⌈value - 1 / 2⌉

/-- `FixedToFloat`, which is exact. -/
def fixedToFloat (num frac : Nat) : ℚ := num / 2 ^ frac

/-- `FloatToFixed` of a number that is not negative and fits. -/
def floatToFixed (num : ℚ) (frac : Nat) : Nat := (roundAway (num * 2 ^ frac)).toNat

/-- The conversion of a double to a `uint32_t`, which is undefined out of range. -/
def toUint32 (value : ℚ) : Except Fatal Nat :=
  if 0 ≤ truncate value ∧ truncate value < 2 ^ 32 then .ok (truncate value).toNat
  else .error .conversion

/-- `std::clamp`. -/
def clamp (value low high : ℚ) : ℚ :=
  if value < low then low else if high < value then high else value

/-! ## Configuration -/

/-- The event formats of the two generations. -/
inductive Format where
  | dna | bna
  deriving DecidableEq, Repr

/-- `kMaxFabricCongestionWindow`. -/
def maxFabricCongestionWindow : ℚ := fixedToFloat (2 ^ fabricCongestionWindowBits - 1) fractionalBits

/-- `kMinFabricCongestionWindow`. -/
def minFabricCongestionWindow : ℚ := fixedToFloat 1 fractionalBits

/-- `kMaxDnaNicCongestionWindow` and `kMaxBnaNicCongestionWindow`. -/
def maxNicCongestionWindow : Format → ℚ
  | .dna => 2 ^ dnaNicCongestionWindowBits - 1
  | .bna => fixedToFloat (2 ^ bnaNicCongestionWindowBits - 1) fractionalBits

/-- `kMinDnaNicCongestionWindow` and `kMinBnaNicCongestionWindow`. -/
def minNicCongestionWindow : Format → ℚ
  | .dna => 1
  | .bna => fixedToFloat 1 fractionalBits

/-- `kMaxRxBufferLevel`. -/
abbrev maxRxBufferLevel : Nat := 31

/-- `kMaxTopoScalingPerHop`. -/
abbrev maxTopoScalingPerHop : Nat := 4095

/-- `kBitsOfPlbAckCounter`. -/
abbrev bitsOfPlbAckCounter : Nat := 10

/-- `kBitsOfPlbAttemptCounter`. -/
abbrev bitsOfPlbAttemptCounter : Nat := 4

/-- `kMaxPlbAckCount`. -/
def maxPlbAckCount : Nat := 2 ^ bitsOfPlbAckCounter - 1

/-- `kMaxPlbAttemptCount`. -/
def maxPlbAttemptCount : Nat := 2 ^ bitsOfPlbAttemptCounter - 1

/-- `SwiftConfiguration`; its numbers are `double` and `uint32`, and what is not set is zero. -/
structure SwiftConfiguration where
  maxFabricCongestionWindow : ℚ
  minFabricCongestionWindow : ℚ
  fabricAdditiveIncrementFactor : ℚ
  fabricMultiplicativeDecreaseFactor : ℚ
  maxFabricMultiplicativeDecrease : ℚ
  maxDecreaseOnEackNackDrop : Bool
  fabricBaseDelay : Nat
  maxNicCongestionWindow : ℚ
  minNicCongestionWindow : ℚ
  nicAdditiveIncrementFactor : ℚ
  nicMultiplicativeDecreaseFactor : ℚ
  maxNicMultiplicativeDecrease : ℚ
  targetRxBufferLevel : Nat
  rttSmoothingAlpha : ℚ
  delaySmoothingAlpha : ℚ
  topoScalingPerHop : Nat
  minRetransmitTimeout : Nat
  retransmitTimeoutScalar : ℚ
  retransmitLimit : Nat
  minFlowScalingWindow : ℚ
  maxFlowScalingWindow : ℚ
  maxFlowScaling : Nat
  calcRttSmooth : Bool
  ipgTimeScalar : ℚ
  ipgBits : Nat
  randomizePath : Bool
  plbTargetRttMultiplier : ℚ
  plbCongestionThreshold : ℚ
  plbAttemptThreshold : Nat
  deriving DecidableEq, Repr

/-- `SwiftParameters`: the settings of the configuration, and two that are computed from it. -/
structure SwiftParameters extends SwiftConfiguration where
  flowScalingAlpha : ℚ
  flowScalingBeta : ℚ
  deriving DecidableEq, Repr

/-- An invalid argument if a check fails. -/
def refuse (fails : Bool) (message : String) : Except String Unit :=
  if fails then .error message else .ok ()

namespace SwiftConfiguration
variable (config : SwiftConfiguration)

/-- `CalculateFlowScalingAlpha`, whose first argument is an `int`. -/
def calculateFlowScalingAlpha : Except String ℚ := do
  refuse (config.minFlowScalingWindow ≤ 0) "min_flow_scaling_window must be > 0"
  refuse (config.maxFlowScalingWindow ≤ 0) "max_flow_scaling_window must be > 0"
  refuse (config.maxFlowScalingWindow ≤ config.minFlowScalingWindow)
    "min_flow_scaling_window must be < max_flow_scaling_window"
  refuse (2 ^ 31 ≤ config.maxFlowScaling) "max_flow_scaling must be >= 0"
  let inverse (window : ℚ) := Binary64.round (1 / Binary64.sqrt window)
  let spread := Binary64.round
    (inverse config.minFlowScalingWindow - inverse config.maxFlowScalingWindow)
  pure (Binary64.round (config.maxFlowScaling / spread))

/-- `CalculateFlowScalingBeta`. -/
def calculateFlowScalingBeta (flowScalingAlpha : ℚ) : Except String ℚ := do
  refuse (flowScalingAlpha < 0) "flow_scaling_alpha must be >= 0"
  refuse (config.maxFabricCongestionWindow ≤ 0) "max_flow_scaling_window must be > 0"
  pure (Binary64.round (-flowScalingAlpha / Binary64.sqrt config.maxFabricCongestionWindow))

/-- `ValidateNicCongestionWindowBounds`. -/
def validateNicCongestionWindowBounds (format : Format) : Except String Unit := do
  refuse (config.maxNicCongestionWindow < RateUpdate.minNicCongestionWindow format ∨
    RateUpdate.maxNicCongestionWindow format < config.maxNicCongestionWindow)
    "max_nic_congestion_window out of bounds"
  refuse (config.minNicCongestionWindow < RateUpdate.minNicCongestionWindow format ∨
    RateUpdate.maxNicCongestionWindow format < config.minNicCongestionWindow)
    "min_nic_congestion_window out of bounds"

/-- `ValidateDelayStateConfig`: in DNA the state that smooths delays holds the state of PLB. -/
def validateDelayStateConfig : Format → Except String Unit
  | .dna => refuse (config.randomizePath && 0 < config.delaySmoothingAlpha)
      " Cannot smooth delay while PLB is on"
  | .bna => .ok ()

/-- The checks of `ConvertProfileToParameters` on the two windows. -/
def checkWindows (format : Format) : Except String Unit := do
  refuse (config.maxFabricCongestionWindow < RateUpdate.minFabricCongestionWindow ∨
    RateUpdate.maxFabricCongestionWindow < config.maxFabricCongestionWindow)
    "max_fabric_congestion_window out of bounds"
  refuse (config.minFabricCongestionWindow < RateUpdate.minFabricCongestionWindow ∨
    RateUpdate.maxFabricCongestionWindow < config.minFabricCongestionWindow)
    "min_fabric_congestion_window out of bounds"
  refuse (config.maxFabricCongestionWindow < config.minFabricCongestionWindow)
    "fabric_congestion_window min/max reversed"
  refuse (config.fabricAdditiveIncrementFactor ≤ 0) "fabric_additive_increment_factor must be > 0"
  refuse (config.fabricMultiplicativeDecreaseFactor ≤ 0 ∨
    1 ≤ config.fabricMultiplicativeDecreaseFactor)
    "fabric_multiplication_decrease_factor must be > 0 and < 1"
  refuse (config.maxFabricMultiplicativeDecrease ≤ 0 ∨ 1 ≤ config.maxFabricMultiplicativeDecrease)
    "max_fabric_multiplication_decrease must be > 0 and < 1"
  config.validateNicCongestionWindowBounds format
  refuse (config.maxNicCongestionWindow < config.minNicCongestionWindow)
    "nic_congestion_window min/max reversed"
  refuse (config.nicAdditiveIncrementFactor < 1) "nic_additive_increment_factor must be >= 1"
  refuse (config.nicMultiplicativeDecreaseFactor ≤ 0 ∨ 1 ≤ config.nicMultiplicativeDecreaseFactor)
    "nic_multiplication_decrease_factor must be > 0 and < 1"
  refuse (config.maxNicMultiplicativeDecrease ≤ 0 ∨ 1 ≤ config.maxNicMultiplicativeDecrease)
    "max_nic_multiplication_decrease must be > 0 and < 1"
  refuse (maxRxBufferLevel < config.targetRxBufferLevel) "target_rx_buffer_level out of bounds"

/-- The checks of `ConvertProfileToParameters` on smoothing, delays and timeouts. -/
def checkDelays : Except String Unit := do
  refuse (config.rttSmoothingAlpha < 0 ∨ 1 ≤ config.rttSmoothingAlpha)
    "rtt_smoothing_alpha must be >= 0 and < 1"
  refuse (config.delaySmoothingAlpha < 0 ∨ 1 ≤ config.delaySmoothingAlpha)
    "delay_smoothing_alpha must be >= 0 and < 1"
  refuse (config.topoScalingPerHop = 0 ∨ maxTopoScalingPerHop < config.topoScalingPerHop)
    "topo_scaling_per_hop out of bounds"
  refuse (config.minRetransmitTimeout = 0) "min_retransmit_timeout must be > 0"
  refuse (config.retransmitTimeoutScalar < 1) "retransmit_timeout_scalar must be >= 1.0"
  refuse (config.retransmitLimit = 0 ∨ 255 < config.retransmitLimit)
    "retransmit_limit must be > 0 and < 2^8"

/-- The checks of `ConvertProfileToParameters` on the path randomization of PLB. -/
def checkPlb (format : Format) : Except String Unit := do
  refuse (config.randomizePath && (maxPlbAckCount + 1 < config.maxFabricCongestionWindow ∨
    maxPlbAckCount + 1 < config.maxNicCongestionWindow))
    "max fcwnd/ncwnd size must be <= kMaxPlbAckCount + 1"
  refuse (maxPlbAttemptCount < config.plbAttemptThreshold)
    "plb_attempt_threshold should be <= kMaxPlbAttemptCount"
  config.validateDelayStateConfig format

/-- `ConvertProfileToParameters`. -/
def convertProfileToParameters (format : Format) : Except String SwiftParameters := do
  config.checkWindows format
  config.checkDelays
  let flowScalingAlpha ← config.calculateFlowScalingAlpha
  let flowScalingBeta ← config.calculateFlowScalingBeta flowScalingAlpha
  refuse (config.ipgTimeScalar ≤ 0) "ipg_time_scalar must be > 0"
  refuse (config.ipgBits = 0 ∨ interPacketGapBits < config.ipgBits) "ipg_bits out of bounds"
  config.checkPlb format
  refuse (config.fabricBaseDelay = 0) "fabric_base_delay must be > 0"
  pure { config with flowScalingAlpha, flowScalingBeta }

end SwiftConfiguration

/-! ## Events -/

/-- What the algorithm reads of an event of either format. -/
structure SwiftEvent extends EventHeader where
  retransmitCount : Nat
  fabricCongestionWindow : BitVec fabricCongestionWindowBits
  /-- An integer in DNA, a fixed-point number in BNA. -/
  nicCongestionWindow : BitVec bnaNicCongestionWindowBits
  delaySelect : DelaySelect
  fabricWindowTimeMarker : BitVec timeBits
  nicWindowTimeMarker : BitVec timeBits
  /-- DNA only. -/
  nicWindowDirection : WindowDirection
  delayState : BitVec timeBits
  rttState : BitVec timeBits
  ccOpaque : BitVec bnaCcOpaqueBits
  /-- BNA only, as are the next two. -/
  plbState : BitVec plbStateBits
  multipathEnable : Bool
  flowLabel : BitVec flowLabelBits
  deriving DecidableEq, Repr

/-- What the algorithm reads of a DNA event. -/
def EventDna.swift (event : EventDna) : SwiftEvent :=
  { event.toEventHeader with
    retransmitCount := event.retransmitCount.toNat
    fabricCongestionWindow := event.fabricCongestionWindow
    nicCongestionWindow := event.nicCongestionWindow.setWidth bnaNicCongestionWindowBits
    delaySelect := event.delaySelect
    fabricWindowTimeMarker := event.fabricWindowTimeMarker
    nicWindowTimeMarker := event.nicWindowTimeMarker
    nicWindowDirection := event.nicWindowDirection
    delayState := event.delayState
    rttState := event.rttState
    ccOpaque := event.ccOpaque.setWidth bnaCcOpaqueBits
    plbState := 0
    multipathEnable := false
    flowLabel := 0 }

/-- What the algorithm reads of a BNA event. -/
def EventBna.swift (event : EventBna) : SwiftEvent :=
  { event.toEventHeader with
    retransmitCount := event.retransmitCount.toNat
    fabricCongestionWindow := event.fabricCongestionWindow
    nicCongestionWindow := event.nicCongestionWindow
    delaySelect := event.delaySelect
    fabricWindowTimeMarker := event.fabricWindowTimeMarker
    nicWindowTimeMarker := event.nicWindowTimeMarker
    nicWindowDirection := .increase
    delayState := event.delayState
    rttState := event.rttState
    ccOpaque := event.ccOpaque
    plbState := event.plbState
    multipathEnable := event.multipathEnable
    flowLabel := event.flowLabel }

/-- `GetFlowIdFromEvent`. -/
def SwiftEvent.flowId (event : SwiftEvent) : BitVec flowIdBits :=
  if event.multipathEnable then event.flowLabel.setWidth flowIdBits else 0

/-! ## Timing and guards -/

/-- `PacketTiming`. -/
structure PacketTiming where
  rtt : Nat
  delay : Nat
  deriving DecidableEq, Repr

/-- `GetPacketTiming`; the timestamps and their differences have 24 bits. -/
def SwiftEvent.packetTiming (event : SwiftEvent) : PacketTiming :=
  let rtt := event.timestamp4 - event.timestamp1
  let delay := match event.delaySelect with
    | .full => rtt
    | .fabric => rtt - (event.timestamp3 - event.timestamp2)
    | .forward => event.timestamp2 - event.timestamp1
    | .reverse => event.timestamp4 - event.timestamp3
  { rtt := rtt.toNat, delay := delay.toNat }

/-- `GetWindowDelta`. -/
def getWindowDelta (now marker : BitVec 32) : Nat := ((now - marker).setWidth timeBits).toNat

/-- `TimeBits` of the time one round trip before. -/
def trailing (now : BitVec 32) (rtt : Nat) : BitVec 32 :=
  ((now - BitVec.ofNat 32 rtt).setWidth timeBits).setWidth 32

/-- `GetFabricWindowTimeMarker`. -/
def getFabricWindowTimeMarker (now marker : BitVec 32) (rtt : Nat) (last next min : ℚ) :
    BitVec 32 :=
  if next < last ∨ next = min then now
  else if rtt < getWindowDelta now marker then trailing now rtt
  else marker

/-- `NicWindowGuardInfo`. -/
structure NicWindowGuardInfo where
  timeMarker : BitVec 32
  direction : WindowDirection
  deriving DecidableEq, Repr

/-- `GetNicWindowGuardInfo` of DNA. -/
def getNicWindowGuardInfo (now marker : BitVec 32) (rtt : Nat) (direction : WindowDirection)
    (last next min max : ℚ) : NicWindowGuardInfo :=
  if next < last ∨ next = min then ⟨now, .decrease⟩
  else if last < next ∨ next = max then ⟨now, .increase⟩
  else if rtt < getWindowDelta now marker then ⟨trailing now rtt, direction⟩
  else ⟨marker, direction⟩

/-! ## PLB state -/

/-- `PlbState`, the fields of a word of 24 bits. -/
structure PlbState where
  packetsCongestionAcknowledged : BitVec bitsOfPlbAckCounter
  packetsAcknowledged : BitVec bitsOfPlbAckCounter
  plbRerouteAttempted : BitVec bitsOfPlbAttemptCounter
  deriving DecidableEq, Repr

namespace PlbState

/-- The fields of a word. -/
def ofValue (value : BitVec plbStateBits) : PlbState where
  packetsCongestionAcknowledged := value.extractLsb' 0 10
  packetsAcknowledged := value.extractLsb' 10 10
  plbRerouteAttempted := value.extractLsb' 20 4

/-- The word of the fields. -/
def value (state : PlbState) : BitVec plbStateBits :=
  state.plbRerouteAttempted ++ state.packetsAcknowledged ++ state.packetsCongestionAcknowledged

end PlbState

end Isekai.RateUpdate
