import Isekai.FormatAdapter

/-! What of a response the next event of its connection carries back to the algorithm.

Every field goes through the state of the connection. The event reproduces the response exactly
when the fields that the adapter drops or converts with another unit on the way happen to survive:
`cc_opaque`, and in DNA the inter-packet gap and the retransmission timeout. -/

namespace Isekai.RateUpdate

variable {units : TimeUnits} {response : ResponseBna}

/-! ## Conversions -/

theorem checkBits_eq_ok {bits num : Nat} {value : Unit} :
    checkBits bits num = .ok value ↔ num < 2 ^ bits := by
  unfold checkBits
  by_cases fits : num < 2 ^ bits <;> simp [fits]

/-- The fields of an event that hold durations are narrower than a word. -/
theorem time_lt_word : 2 ^ timeBits < 2 ^ 32 := by decide

theorem gap_lt_word : 2 ^ interPacketGapBits < 2 ^ 32 := by decide

theorem toUint64_eq_ok {value : ℚ} {whole : Nat} :
    toUint64 value = .ok whole ↔ truncate value = whole ∧ whole < 2 ^ 64 := by
  unfold toUint64
  by_cases range : 0 ≤ truncate value ∧ truncate value < 2 ^ 64
  · rw [if_pos range, Except.ok.injEq]
    omega
  · rw [if_neg range]
    simp only [reduceCtorEq, false_iff]
    omega

/-- A field is what is left of a word that has no more bits than it. -/
theorem setWidth_eq_iff {wide narrow : Nat} (le : narrow ≤ wide) {value : BitVec wide}
    {field : BitVec narrow} (small : value.toNat < 2 ^ narrow) :
    value.setWidth narrow = field ↔ value = field.setWidth wide := by
  have fits : field.toNat < 2 ^ wide :=
    field.isLt.trans_le (Nat.pow_le_pow_right (by omega) le)
  rw [← BitVec.toNat_inj, ← BitVec.toNat_inj, BitVec.toNat_setWidth, BitVec.toNat_setWidth,
    Nat.mod_eq_of_lt small, Nat.mod_eq_of_lt fits]

theorem toNat_widened {wide narrow : Nat} (le : narrow ≤ wide) (field : BitVec narrow) :
    (field.setWidth wide).toNat = field.toNat := by
  rw [BitVec.toNat_setWidth]
  exact Nat.mod_eq_of_lt (field.isLt.trans_le (Nat.pow_le_pow_right (by omega) le))

namespace TimeUnits
variable (units : TimeUnits)

theorem toFalconTimeUnits_eq_ok {time : Span} {value : BitVec 32} :
    units.toFalconTimeUnits time = .ok value ↔
      units.nanosecondsPerFalconTimeUnit ≠ 0 ∧ value.toNat < 2 ^ timeBits ∧
        truncate (units.falconQuotient (unsignedNanoseconds time)) = value.toNat := by
  unfold toFalconTimeUnits
  by_cases zero : units.nanosecondsPerFalconTimeUnit = 0
  · simp [zero]
  · simp only [zero, if_false, ne_eq, not_false_eq_true, true_and, bind_eq_ok, toUint64_eq_ok,
      checkBits_eq_ok, pure, Except.pure, Except.ok.injEq]
    constructor
    · rintro ⟨whole, ⟨quotient, _⟩, _, small, rfl⟩
      have same : whole % 2 ^ 32 = whole := Nat.mod_eq_of_lt (small.trans time_lt_word)
      rw [BitVec.toNat_ofNat, same]
      exact ⟨small, quotient⟩
    · rintro ⟨small, quotient⟩
      have range : value.toNat < 2 ^ 64 := value.isLt.trans (by decide)
      exact ⟨value.toNat, ⟨quotient, range⟩, (), small, BitVec.ofNat_toNat 32 value⟩

theorem toTimingWheelTimeUnits_eq_ok {time : Span} {value : BitVec 32} :
    units.toTimingWheelTimeUnits time = .ok value ↔
      units.nanosecondsPerTimingWheelUnit ≠ 0 ∧ value.toNat < 2 ^ interPacketGapBits ∧
        unsignedNanoseconds time / units.nanosecondsPerTimingWheelUnit.toNat = value.toNat := by
  unfold toTimingWheelTimeUnits
  by_cases zero : units.nanosecondsPerTimingWheelUnit = 0
  · simp [zero]
  · simp only [zero, if_false, ne_eq, not_false_eq_true, true_and, bind_eq_ok, checkBits_eq_ok,
      pure, Except.pure, Except.ok.injEq, exists_and_left, exists_const]
    constructor
    · rintro ⟨small, rfl⟩
      rw [BitVec.toNat_ofNat, Nat.mod_eq_of_lt (small.trans gap_lt_word)]
      exact ⟨small, rfl⟩
    · rintro ⟨small, quotient⟩
      rw [quotient]
      exact ⟨small, BitVec.ofNat_toNat 32 value⟩

/-- A duration whose number of Falcon time units fits the bits of an event. -/
def Fits (time : Span) : Prop :=
  units.nanosecondsPerFalconTimeUnit ≠ 0 ∧
    0 ≤ truncate (units.falconQuotient (unsignedNanoseconds time)) ∧
    (truncate (units.falconQuotient (unsignedNanoseconds time))).toNat < 2 ^ timeBits

theorem toFalconTimeUnits_succeeds {time : Span} :
    (∃ value, units.toFalconTimeUnits time = .ok value) ↔ units.Fits time := by
  simp only [toFalconTimeUnits_eq_ok]
  constructor
  · rintro ⟨value, nonzero, small, quotient⟩
    rw [Fits, quotient, Int.toNat_natCast]
    exact ⟨nonzero, Int.natCast_nonneg _, small⟩
  · rintro ⟨nonzero, positive, small⟩
    refine ⟨BitVec.ofNat 32 (truncate (units.falconQuotient (unsignedNanoseconds time))).toNat,
      nonzero, ?_, ?_⟩ <;>
      rw [BitVec.toNat_ofNat, Nat.mod_eq_of_lt (small.trans time_lt_word)]
    · exact small
    · exact (Int.toNat_of_nonneg positive).symm

end TimeUnits

/-! ## Filled events -/

namespace FillCall

/-- The values of the call's event that do not come from the connection. -/
def details (call : FillCall) (units : TimeUnits) (packet : Packet) : Except Fatal EventDetails :=
  match call with
  | timeoutRetransmitted retransmitCount => .ok (timeoutDetails retransmitCount)
  | nack numPacketsAcked => nackDetails units packet numPacketsAcked
  | explicitAck numPacketsAcked eack eackDrop =>
    ackDetails units packet numPacketsAcked eack eackDrop

/-- The timestamps that the call converts. -/
def timestamps (call : FillCall) (packet : Packet) : List Span :=
  match call with
  | timeoutRetransmitted _ => []
  | nack _ => [packet.nack.timestamp1, packet.nack.timestamp2, packet.sentTimestamp,
      packet.receivedTimestamp]
  | explicitAck _ _ _ => [packet.ack.timestamp1, packet.ack.timestamp2, packet.sentTimestamp,
      packet.receivedTimestamp]

theorem fillDna_eq (call : FillCall) (units : TimeUnits) (scid : BitVec 32) (packet : Packet)
    (ccmeta : CongestionControlMetadata) :
    call.fillDna units scid packet ccmeta =
      call.details units packet >>= fillEventDna units scid ccmeta := by
  cases call <;> rfl

theorem fillBna_eq (call : FillCall) (units : TimeUnits) (scid : BitVec 32) (packet : Packet)
    (ccmeta : CongestionControlMetadata) :
    call.fillBna units scid packet ccmeta =
      (call.details units packet).map (fillEventBna scid packet ccmeta) := by
  cases call <;> rfl

end FillCall

theorem feedbackDetails_succeeds {packet : Packet} {feedback : Feedback}
    {eventType : RueEventType} {nackCode : NackCode} {numPacketsAcked : BitVec 32}
    {eack eackDrop : Bool} :
    (∃ details, feedbackDetails units packet feedback eventType nackCode numPacketsAcked eack
        eackDrop = .ok details) ↔
      ∀ time ∈ [feedback.timestamp1, feedback.timestamp2, packet.sentTimestamp,
        packet.receivedTimestamp], units.Fits time := by
  simp only [feedbackDetails, bind_eq_ok, pure, Except.pure, List.forall_mem_cons,
    ← TimeUnits.toFalconTimeUnits_succeeds]
  constructor
  · rintro ⟨_, first, one, second, two, third, three, fourth, four, _⟩
    exact ⟨⟨first, one⟩, ⟨second, two⟩, ⟨third, three⟩, ⟨fourth, four⟩, by simp⟩
  · rintro ⟨⟨first, one⟩, ⟨second, two⟩, ⟨third, three⟩, ⟨fourth, four⟩, _⟩
    exact ⟨_, first, one, second, two, third, three, fourth, four, rfl⟩

/-- The values that do not come from the connection exist exactly when the timestamps fit. -/
theorem FillCall.details_succeeds (call : FillCall) (units : TimeUnits) (packet : Packet) :
    (∃ details, call.details units packet = .ok details) ↔
      ∀ time ∈ call.timestamps packet, units.Fits time := by
  cases call with
  | timeoutRetransmitted retransmitCount => simp [FillCall.details, FillCall.timestamps]
  | nack numPacketsAcked => exact feedbackDetails_succeeds
  | explicitAck numPacketsAcked eack eackDrop => exact feedbackDetails_succeeds

/-! ## The DNA format -/

/-- An event carries every congestion control field that a response set. -/
structure EventDna.Reproduces (event : EventDna) (response : ResponseDna) : Prop where
  fabricCongestionWindow : event.fabricCongestionWindow = response.fabricCongestionWindow
  nicCongestionWindow : event.nicCongestionWindow = response.nicCongestionWindow
  interPacketGap : event.interPacketGap = response.interPacketGap
  retransmitTimeout : event.retransmitTimeout = response.retransmitTimeout
  fabricWindowTimeMarker : event.fabricWindowTimeMarker = response.fabricWindowTimeMarker
  nicWindowTimeMarker : event.nicWindowTimeMarker = response.nicWindowTimeMarker
  nicWindowDirection : event.nicWindowDirection = response.nicWindowDirection
  delaySelect : event.delaySelect = response.delaySelect
  delayState : event.delayState = response.delayState
  rttState : event.rttState = response.rttState
  ccOpaque : event.ccOpaque = response.ccOpaque

/-- The gap of a response, in nanoseconds of Falcon time units, is as many timing wheel units. -/
def GapSurvives (units : TimeUnits) (gap : BitVec interPacketGapBits) : Prop :=
  units.nanosecondsPerTimingWheelUnit ≠ 0 ∧
    gap.toNat * units.nanosecondsPerTimingWheelUnit.toNat ≤
      unsignedNanoseconds (units.fromFalconTimeUnits (gap.setWidth 32)) ∧
    unsignedNanoseconds (units.fromFalconTimeUnits (gap.setWidth 32)) <
      (gap.toNat + 1) * units.nanosecondsPerTimingWheelUnit.toNat

/-- The whole nanoseconds of a timeout of a response still are its number of Falcon time units. -/
def TimeoutSurvives (units : TimeUnits) (timeout : BitVec timeBits) : Prop :=
  units.nanosecondsPerFalconTimeUnit ≠ 0 ∧
    truncate (units.falconQuotient
      (unsignedNanoseconds (units.fromFalconTimeUnits (timeout.setWidth 32)))) = timeout.toNat

theorem unit_positive {unit : UInt64} (nonzero : unit ≠ 0) : 0 < unit.toNat := by
  rw [Nat.pos_iff_ne_zero, ne_eq, ← UInt64.toNat_zero, UInt64.toNat_inj]
  exact nonzero

theorem quotient_eq_iff {value unit quotient : Nat} (positive : 0 < unit) :
    value / unit = quotient ↔ quotient * unit ≤ value ∧ value < (quotient + 1) * unit := by
  rw [Nat.div_eq_iff positive, Nat.succ_mul]
  omega

theorem gap_survives_iff (units : TimeUnits) (gap : BitVec interPacketGapBits) :
    (∃ value, units.toTimingWheelTimeUnits (units.fromFalconTimeUnits (gap.setWidth 32)) =
        .ok value ∧ value.setWidth interPacketGapBits = gap) ↔ GapSurvives units gap := by
  have width : (gap.setWidth 32).toNat = gap.toNat := toNat_widened (by decide) gap
  have small : (gap.setWidth 32).toNat < 2 ^ interPacketGapBits := by
    rw [width]
    exact gap.isLt
  simp only [TimeUnits.toTimingWheelTimeUnits_eq_ok, GapSurvives]
  constructor
  · rintro ⟨value, ⟨nonzero, narrow, quotient⟩, same⟩
    rw [setWidth_eq_iff (by decide) narrow] at same
    rw [same, width, quotient_eq_iff (unit_positive nonzero)] at quotient
    exact ⟨nonzero, quotient⟩
  · rintro ⟨nonzero, bounds⟩
    refine ⟨gap.setWidth 32, ⟨nonzero, small, ?_⟩, (setWidth_eq_iff (by decide) small).2 rfl⟩
    rw [width, quotient_eq_iff (unit_positive nonzero)]
    exact bounds

theorem timeout_survives_iff (units : TimeUnits) (timeout : BitVec timeBits) :
    (∃ value, units.toFalconTimeUnits (units.fromFalconTimeUnits (timeout.setWidth 32)) =
        .ok value ∧ value.setWidth timeBits = timeout) ↔ TimeoutSurvives units timeout := by
  have width : (timeout.setWidth 32).toNat = timeout.toNat := toNat_widened (by decide) timeout
  have small : (timeout.setWidth 32).toNat < 2 ^ timeBits := by
    rw [width]
    exact timeout.isLt
  simp only [TimeUnits.toFalconTimeUnits_eq_ok, TimeoutSurvives]
  constructor
  · rintro ⟨value, ⟨nonzero, narrow, quotient⟩, same⟩
    rw [setWidth_eq_iff (by decide) narrow] at same
    rw [same, width] at quotient
    exact ⟨nonzero, quotient⟩
  · rintro ⟨nonzero, quotient⟩
    refine ⟨timeout.setWidth 32, ⟨nonzero, small, ?_⟩, (setWidth_eq_iff (by decide) small).2 rfl⟩
    rw [width]
    exact quotient

/-- When a DNA response comes back in the next event of its connection. -/
structure DnaSurvives (units : TimeUnits) (metadata : CongestionControlMetadata)
    (response : ResponseDna) : Prop where
  ccOpaque : metadata.ccOpaque = response.ccOpaque
  interPacketGap : GapSurvives units response.interPacketGap
  retransmitTimeout : TimeoutSurvives units response.retransmitTimeout

theorem fillEventDna_eq_ok {scid : BitVec 32} {ccmeta : CongestionControlMetadata}
    {details : EventDetails} {event : EventDna}
    (filled : fillEventDna units scid ccmeta details = .ok event) :
    event.ccOpaque = ccmeta.ccOpaque ∧
      (∃ gap, units.toTimingWheelTimeUnits ccmeta.interPacketGap = .ok gap ∧
        gap.setWidth interPacketGapBits = event.interPacketGap) ∧
      ∃ timeout, units.toFalconTimeUnits ccmeta.retransmitTimeout = .ok timeout ∧
        timeout.setWidth timeBits = event.retransmitTimeout := by
  obtain ⟨gap, spaced, after⟩ := bind_eq_ok.1 filled
  obtain ⟨timeout, timed, built⟩ := bind_eq_ok.1 after
  cases built
  exact ⟨rfl, ⟨gap, spaced, rfl⟩, ⟨timeout, timed, rfl⟩⟩

theorem setWidth_widened {wide narrow : Nat} (le : narrow ≤ wide) (field : BitVec narrow) :
    (field.setWidth wide).setWidth narrow = field := by
  rw [BitVec.setWidth_setWidth_of_le field le, BitVec.setWidth_eq]

/-- An event filled after a DNA response. -/
theorem fillEventDna_reproduces_iff (units : TimeUnits) (flowLabel : BitVec flowLabelBits)
    (connection : ConnectionState) (response : ResponseDna) (scid : BitVec 32)
    (details : EventDetails) :
    (∃ event, fillEventDna units scid (updateConnectionStateFromResponseDna units flowLabel
        connection response).congestionControlMetadata details = .ok event ∧
        event.Reproduces response) ↔
      DnaSurvives units connection.congestionControlMetadata response := by
  constructor
  · rintro ⟨event, filled, same⟩
    obtain ⟨opaque_, ⟨gap, spaced, gapField⟩, timeout, timed, timeoutField⟩ :=
      fillEventDna_eq_ok filled
    rw [same.interPacketGap] at gapField
    rw [same.retransmitTimeout] at timeoutField
    exact ⟨opaque_.symm.trans same.ccOpaque,
      (gap_survives_iff units response.interPacketGap).1 ⟨gap, spaced, gapField⟩,
      (timeout_survives_iff units response.retransmitTimeout).1 ⟨timeout, timed, timeoutField⟩⟩
  · rintro ⟨opaque_, gapSurvives, timeoutSurvives⟩
    obtain ⟨gap, spaced, gapField⟩ := (gap_survives_iff units _).2 gapSurvives
    obtain ⟨timeout, timed, timeoutField⟩ := (timeout_survives_iff units _).2 timeoutSurvives
    refine ⟨_, bind_eq_ok.2 ⟨gap, spaced, bind_eq_ok.2 ⟨timeout, timed, rfl⟩⟩, ?_⟩
    exact {
      fabricCongestionWindow := setWidth_widened (by decide : 21 ≤ 32) _
      nicCongestionWindow := setWidth_widened (by decide : 11 ≤ 32) _
      interPacketGap := gapField
      retransmitTimeout := timeoutField
      fabricWindowTimeMarker := rfl
      nicWindowTimeMarker := rfl
      nicWindowDirection := rfl
      delaySelect := rfl
      delayState := rfl
      rttState := rfl
      ccOpaque := opaque_ }

/-! ## The BNA format -/

/-- The NIC congestion window of a BNA response, rounded down to an integer of at least one. -/
def roundedWindow (window : BitVec bnaNicCongestionWindowBits) : Nat :=
  max 1 (window.toNat / 2 ^ fractionalBits) * 2 ^ fractionalBits

/-- An event carries every congestion control field that a response set. -/
structure EventBna.Reproduces (event : EventBna) (response : ResponseBna) : Prop where
  fabricCongestionWindow : event.fabricCongestionWindow = response.fabricCongestionWindow
  nicCongestionWindow : event.nicCongestionWindow.toNat = roundedWindow response.nicCongestionWindow
  fabricWindowTimeMarker : event.fabricWindowTimeMarker = response.fabricWindowTimeMarker
  nicWindowTimeMarker : event.nicWindowTimeMarker = response.nicWindowTimeMarker
  delaySelect : event.delaySelect = response.delaySelect
  delayState : event.delayState = response.delayState
  rttState : event.rttState = response.rttState
  ccOpaque : event.ccOpaque = response.ccOpaque
  plbState : event.plbState = response.plbState

/-- The flows of a response have a place in the vectors of its connection, and for a connection
with several paths some weight is positive. -/
structure FlowsFit (metadata : CongestionControlMetadata) (response : ResponseBna) : Prop where
  labels : metadata.gen2FlowLabels.length % 256 ≠ 1 →
    (response.flow1.valid → 0 < metadata.gen2FlowLabels.length) ∧
    (response.flow2.valid → 1 < metadata.gen2FlowLabels.length) ∧
    (response.flow3.valid → 2 < metadata.gen2FlowLabels.length) ∧
    (response.flow4.valid → 3 < metadata.gen2FlowLabels.length)
  weights : metadata.gen2FlowLabels.length % 256 ≠ 1 →
    response.weights ≠ 0 ∧ 4 ≤ metadata.gen2FlowWeights.length

theorem integerCongestionWindow_toNat (window : BitVec bnaNicCongestionWindowBits) :
    (integerCongestionWindow window).toNat = max 1 (window.toNat / 2 ^ fractionalBits) := by
  have whole : (fixedToUint (window.setWidth 32) fractionalBits).toNat =
      window.toNat / 2 ^ fractionalBits := by
    rw [fixedToUint, BitVec.toNat_ushiftRight, toNat_widened (by decide),
      Nat.shiftRight_eq_div_pow]
  have one : (1 : BitVec 32).toNat = 1 := rfl
  simp only [integerCongestionWindow]
  by_cases large : 1 < fixedToUint (window.setWidth 32) fractionalBits
  · rw [if_pos large, whole]
    rw [BitVec.lt_def, whole, one] at large
    exact (max_eq_right (le_of_lt large)).symm
  · rw [if_neg large, one]
    rw [BitVec.lt_def, whole, one] at large
    exact (max_eq_left (not_lt.1 large)).symm

/-- The integer window fits the bits of the event, as a fixed-point number. -/
theorem window_reproduced (window : BitVec bnaNicCongestionWindowBits) :
    ((uintToFixed (integerCongestionWindow window) fractionalBits).setWidth
      bnaNicCongestionWindowBits).toNat = roundedWindow window := by
  have bound : window.toNat < 2 ^ 21 := window.isLt
  have whole : max 1 (window.toNat / 2 ^ 10) < 2 ^ 11 := by omega
  have narrow (value : Nat) (small : value < 2 ^ 11) :
      value * 2 ^ 10 % 2 ^ 32 % 2 ^ 21 = value * 2 ^ 10 := by omega
  rw [uintToFixed, BitVec.toNat_setWidth, BitVec.toNat_shiftLeft, integerCongestionWindow_toNat,
    Nat.shiftLeft_eq]
  exact narrow _ whole

theorem assign_eq_ok {A : Type} {vector next : List A} {index : Nat} {value : A} :
    assign vector index value = .ok next ↔
      index < vector.length ∧ vector.set index value = next := by
  unfold assign
  by_cases inside : index < vector.length <;> simp [inside]

theorem updateFlowLabel_succeeds {labels : List (BitVec 32)} {index : Nat} {flow : FlowUpdate} :
    (∃ next, updateFlowLabel labels index flow = .ok next) ↔
      (flow.valid → index < labels.length) := by
  unfold updateFlowLabel
  by_cases valid : flow.valid <;> simp [valid, assign_eq_ok]

theorem updateFlowLabel_length {labels next : List (BitVec 32)} {index : Nat} {flow : FlowUpdate}
    (done : updateFlowLabel labels index flow = .ok next) : next.length = labels.length := by
  unfold updateFlowLabel at done
  by_cases valid : flow.valid
  · rw [if_pos valid] at done
    rw [← (assign_eq_ok.1 done).2, List.length_set]
  · rw [if_neg valid] at done
    cases done
    rfl

theorem updateFlowLabels_succeeds {labels : List (BitVec 32)} :
    (∃ next, updateFlowLabels labels response = .ok next) ↔
      (response.flow1.valid → 0 < labels.length) ∧ (response.flow2.valid → 1 < labels.length) ∧
        (response.flow3.valid → 2 < labels.length) ∧
        (response.flow4.valid → 3 < labels.length) := by
  simp only [updateFlowLabels, bind_eq_ok]
  constructor
  · rintro ⟨last, first, one, second, two, third, three, four⟩
    have length1 := updateFlowLabel_length one
    have length2 := updateFlowLabel_length two
    have length3 := updateFlowLabel_length three
    have valid1 := updateFlowLabel_succeeds.1 ⟨first, one⟩
    have valid2 := updateFlowLabel_succeeds.1 ⟨second, two⟩
    have valid3 := updateFlowLabel_succeeds.1 ⟨third, three⟩
    have valid4 := updateFlowLabel_succeeds.1 ⟨last, four⟩
    rw [length1] at valid2
    rw [length2, length1] at valid3
    rw [length3, length2, length1] at valid4
    exact ⟨valid1, valid2, valid3, valid4⟩
  · rintro ⟨valid1, valid2, valid3, valid4⟩
    obtain ⟨first, one⟩ := updateFlowLabel_succeeds.2 valid1
    rw [← updateFlowLabel_length one] at valid2 valid3 valid4
    obtain ⟨second, two⟩ := updateFlowLabel_succeeds.2 valid2
    rw [← updateFlowLabel_length two] at valid3 valid4
    obtain ⟨third, three⟩ := updateFlowLabel_succeeds.2 valid3
    rw [← updateFlowLabel_length three] at valid4
    obtain ⟨last, four⟩ := updateFlowLabel_succeeds.2 valid4
    exact ⟨last, first, one, second, two, third, three, four⟩

theorem updateFlowWeights_succeeds {weights : List (BitVec 8)} :
    (∃ next, updateFlowWeights weights response = .ok next) ↔ 4 ≤ weights.length := by
  simp only [updateFlowWeights, bind_eq_ok, assign_eq_ok]
  constructor
  · rintro ⟨last, first, ⟨_, rfl⟩, second, ⟨_, rfl⟩, third, ⟨_, rfl⟩, inside, _⟩
    simp only [List.length_set] at inside
    omega
  · intro long
    refine ⟨_, _, ⟨by omega, rfl⟩, _, ⟨?_, rfl⟩, _, ⟨?_, rfl⟩, ?_, rfl⟩ <;>
      simp only [List.length_set] <;> omega

theorem updateFlows_succeeds (metadata : CongestionControlMetadata) (response : ResponseBna) :
    (∃ flows, updateFlows metadata response = .ok flows) ↔ FlowsFit metadata response := by
  unfold updateFlows
  by_cases single : metadata.gen2FlowLabels.length % 256 = 1
  · have place : response.flow1.valid → 0 < metadata.gen2FlowLabels.length := fun _ => by omega
    obtain ⟨labels, updated⟩ := updateFlowLabel_succeeds.2 place
    rw [if_pos single, updated]
    exact ⟨fun _ => ⟨fun several => absurd single several, fun several => absurd single several⟩,
      fun _ => ⟨_, rfl⟩⟩
  · simp only [if_neg single, bind_eq_ok]
    constructor
    · rintro ⟨flows, labels, labelled, weighted⟩
      by_cases zero : response.weights = 0
      · rw [if_pos zero] at weighted
        exact absurd weighted nofun
      · rw [if_neg zero] at weighted
        obtain ⟨weights, assigned, _⟩ := map_eq_ok.1 weighted
        exact ⟨fun _ => updateFlowLabels_succeeds.1 ⟨labels, labelled⟩,
          fun _ => ⟨zero, updateFlowWeights_succeeds.1 ⟨weights, assigned⟩⟩⟩
    · intro fit
      obtain ⟨labels, labelled⟩ := updateFlowLabels_succeeds.2 (fit.labels single)
      obtain ⟨positive, long⟩ := fit.weights single
      obtain ⟨weights, assigned⟩ := updateFlowWeights_succeeds.2 long
      refine ⟨(labels, weights), labels, labelled, ?_⟩
      rw [if_neg positive]
      exact map_eq_ok.2 ⟨weights, assigned, rfl⟩

theorem updateConnectionStateFromResponseBna_succeeds {connection : ConnectionState} :
    (∃ next, updateConnectionStateFromResponseBna units connection response = .ok next) ↔
      FlowsFit connection.congestionControlMetadata response := by
  rw [← updateFlows_succeeds]
  simp only [updateConnectionStateFromResponseBna, bind_eq_ok]
  constructor
  · rintro ⟨_, flows, placed, _⟩
    exact ⟨flows, placed⟩
  · rintro ⟨flows, placed⟩
    exact ⟨_, flows, placed, rfl⟩

/-- An event filled after a BNA response reproduces it exactly when `cc_opaque` is the same. -/
theorem fillEventBna_reproduces_iff {connection next : ConnectionState} (scid : BitVec 32)
    (packet : Packet) (details : EventDetails)
    (updated : updateConnectionStateFromResponseBna units connection response = .ok next) :
    (fillEventBna scid packet next.congestionControlMetadata details).Reproduces response ↔
      connection.congestionControlMetadata.ccOpaque.setWidth bnaCcOpaqueBits =
        response.ccOpaque := by
  obtain ⟨flows, _, built⟩ := bind_eq_ok.1 updated
  cases built
  constructor
  · intro same
    exact same.ccOpaque
  · intro same
    exact {
      fabricCongestionWindow := setWidth_widened (by decide : 21 ≤ 32) _
      nicCongestionWindow := window_reproduced _
      fabricWindowTimeMarker := rfl
      nicWindowTimeMarker := rfl
      delaySelect := rfl
      delayState := rfl
      rttState := rfl
      ccOpaque := same
      plbState := rfl }

/-- When a BNA response comes back in the next event of its connection. -/
structure BnaSurvives (metadata : CongestionControlMetadata) (response : ResponseBna) : Prop where
  flows : FlowsFit metadata response
  ccOpaque : metadata.ccOpaque.setWidth bnaCcOpaqueBits = response.ccOpaque

/-! ## The next event of a connection -/

/-- The next DNA event of a connection after a response. -/
def nextEventDna (units : TimeUnits) (flowLabel : BitVec flowLabelBits)
    (connection : ConnectionState) (response : ResponseDna) (scid : BitVec 32) (packet : Packet)
    (call : FillCall) : Except Fatal EventDna :=
  call.fillDna units scid packet (updateConnectionStateFromResponseDna units flowLabel connection
    response).congestionControlMetadata

/-- The next BNA event of a connection after a response. -/
def nextEventBna (units : TimeUnits) (connection : ConnectionState) (response : ResponseBna)
    (scid : BitVec 32) (packet : Packet) (call : FillCall) : Except Fatal EventBna :=
  updateConnectionStateFromResponseBna units connection response >>= fun updated =>
    call.fillBna units scid packet updated.congestionControlMetadata

theorem nextEventDna_reproduces_iff (units : TimeUnits) (flowLabel : BitVec flowLabelBits)
    (connection : ConnectionState) (response : ResponseDna) (scid : BitVec 32) (packet : Packet)
    (call : FillCall) :
    (∃ event, nextEventDna units flowLabel connection response scid packet call = .ok event ∧
        event.Reproduces response) ↔
      DnaSurvives units connection.congestionControlMetadata response ∧
        ∀ time ∈ call.timestamps packet, units.Fits time := by
  rw [nextEventDna, call.fillDna_eq, ← call.details_succeeds]
  simp only [bind_eq_ok]
  constructor
  · rintro ⟨event, ⟨details, known, filled⟩, same⟩
    have survives := (fillEventDna_reproduces_iff units flowLabel connection response scid
      details).1 ⟨event, filled, same⟩
    exact ⟨survives, details, known⟩
  · rintro ⟨survives, details, known⟩
    obtain ⟨event, filled, same⟩ := (fillEventDna_reproduces_iff units flowLabel connection
      response scid details).2 survives
    exact ⟨event, ⟨details, known, filled⟩, same⟩

theorem nextEventBna_reproduces_iff (units : TimeUnits) (connection : ConnectionState)
    (response : ResponseBna) (scid : BitVec 32) (packet : Packet) (call : FillCall) :
    (∃ event, nextEventBna units connection response scid packet call = .ok event ∧
        event.Reproduces response) ↔
      BnaSurvives connection.congestionControlMetadata response ∧
        ∀ time ∈ call.timestamps packet, units.Fits time := by
  rw [nextEventBna, ← call.details_succeeds]
  simp only [bind_eq_ok, call.fillBna_eq, map_eq_ok]
  constructor
  · rintro ⟨_, ⟨next, updated, details, known, rfl⟩, same⟩
    exact ⟨⟨updateConnectionStateFromResponseBna_succeeds.1 ⟨next, updated⟩,
      (fillEventBna_reproduces_iff scid packet details updated).1 same⟩, details, known⟩
  · rintro ⟨⟨fit, same⟩, details, known⟩
    obtain ⟨next, updated⟩ := updateConnectionStateFromResponseBna_succeeds.2 fit
    exact ⟨_, ⟨next, updated, details, known, rfl⟩,
      (fillEventBna_reproduces_iff scid packet details updated).2 same⟩

/-- The next event of a connection shows the algorithm what its last response set, exactly when
`cc_opaque` is what the connection had before, the timestamps fit, and in DNA the gap and the
timeout survive their conversions and in BNA the flows have a place in the connection. -/
theorem next_event_reproduces_iff (units : TimeUnits) (flowLabel : BitVec flowLabelBits)
    (connection : ConnectionState) (dna : ResponseDna) (bna : ResponseBna) (scid : BitVec 32)
    (packet : Packet) (call : FillCall) :
    ((∃ event, nextEventDna units flowLabel connection dna scid packet call = .ok event ∧
        event.Reproduces dna) ↔
      DnaSurvives units connection.congestionControlMetadata dna ∧
        ∀ time ∈ call.timestamps packet, units.Fits time) ∧
    ((∃ event, nextEventBna units connection bna scid packet call = .ok event ∧
        event.Reproduces bna) ↔
      BnaSurvives connection.congestionControlMetadata bna ∧
        ∀ time ∈ call.timestamps packet, units.Fits time) :=
  ⟨nextEventDna_reproduces_iff units flowLabel connection dna scid packet call,
    nextEventBna_reproduces_iff units connection bna scid packet call⟩

/-- The units of the default configuration, with durations rounded to quarters of a
nanosecond. -/
def defaultTimeUnits : TimeUnits where
  nanosecondsPerFalconTimeUnit := Binary64.round (131072 / 1000)
  nanosecondsPerTimingWheelUnit := 512
  nanoseconds value := ⌊4 * value + 1 / 2⌋

/-- A connection before its first response. -/
def freshConnection : ConnectionState where
  congestionControlMetadata := {
    flowLabel := 0, fabricCongestionWindow := 32768, interPacketGap := 0
    nicCongestionWindow := 64, retransmitTimeout := 4000000, ccMetadata := 0
    fabricWindowTimeMarker := 0, nicWindowTimeMarker := 0, nicWindowDirection := .decrease
    delaySelect := .fabric, baseDelay := 0, delayState := 190, rttState := 190, ccOpaque := 0
    gen2PlbState := 0, gen2FlowWeights := [1, 1, 1, 1], gen2FlowLabels := [0, 1, 2, 3] }
  alphaRequest := 0
  alphaResponse := 0

/-- A packet that timed out. -/
def timedOutPacket : Packet where
  packetType := .pullRequest
  flowLabel := 0
  sentTimestamp := 0
  receivedTimestamp := 0
  ack := ⟨0, 0, 0, 0, 0, 0⟩
  nack := ⟨0, 0, 0, 0, 0, 0⟩
  nackCode := .notANack

/-- A response that sets `cc_opaque`, a gap of ten units and a timeout of a thousand. -/
def markedResponse : ResponseDna where
  connectionId := 1
  randomizePath := false
  ccMetadata := 0
  fabricCongestionWindow := 16384
  interPacketGap := 10
  nicCongestionWindow := 64
  retransmitTimeout := 1001
  delaySelect := .fabric
  fabricWindowTimeMarker := 5
  nicWindowTimeMarker := 6
  nicWindowDirection := .increase
  delayState := 200
  rttState := 210
  ccOpaque := 1

/-- With the default units the next event has lost `cc_opaque`, shows a gap of two units instead
of ten, and a timeout that is one unit shorter. -/
theorem marked_response_lost :
    ¬ (∃ event, nextEventDna defaultTimeUnits 0 freshConnection markedResponse 1 timedOutPacket
        (.timeoutRetransmitted 1) = .ok event ∧ event.Reproduces markedResponse) ∧
      (nextEventDna defaultTimeUnits 0 freshConnection markedResponse 1 timedOutPacket
        (.timeoutRetransmitted 1)).toOption.map (fun event =>
          (event.ccOpaque, event.interPacketGap, event.retransmitTimeout)) =
        some (0, 2, 1000) := by
  refine ⟨?_, by decide +kernel⟩
  rintro ⟨event, filled, same⟩
  obtain ⟨survives, _⟩ := (nextEventDna_reproduces_iff _ _ _ _ _ _ _).1 ⟨event, filled, same⟩
  exact absurd survives.ccOpaque (by decide)

end Isekai.RateUpdate
