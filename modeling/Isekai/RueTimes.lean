import Isekai.FormatRoundTrip
import Isekai.RoundingOrder
import Isekai.Swift

/-! The times of a packet and its feedback as a RUE event has them: converted one by one to Falcon
time units, refused when they have more than 24 bits, and subtracted by the algorithm. -/

namespace Isekai.RateUpdate

/-- A simulation time or a delay, of whole nanoseconds. -/
def simulated (nanoseconds : ℕ) : Span := 4 * nanoseconds

/-- When a packet was sent and received, and when its feedback was sent and received. The
nanoseconds are of 64-bit integers. -/
structure Journey where
  sent : ℕ
  received : ℕ
  answered : ℕ
  returned : ℕ
  forward : sent ≤ received
  held : received ≤ answered
  back : answered ≤ returned
  counted : returned < 2 ^ 63

def Journey.times (journey : Journey) : List Span :=
  [journey.sent, journey.received, journey.answered, journey.returned].map simulated

/-- A value is the converted delay between two times up to one unit, if the delay has at most 24
bits. -/
def Measured (units : TimeUnits) (value earlier later : ℕ) : Prop :=
  ∀ delay, units.toFalconTimeUnits (simulated (later - earlier)) = .ok delay →
    value ≤ delay.toNat + 1 ∧ delay.toNat ≤ value + 1

/-- The round-trip time and the delays that are differences of two timestamps. -/
structure SwiftEvent.Measures (event : SwiftEvent) (units : TimeUnits) (journey : Journey) :
    Prop where
  rtt : Measured units event.packetTiming.rtt journey.sent journey.returned
  full : event.delaySelect = .full →
    Measured units event.packetTiming.delay journey.sent journey.returned
  forward : event.delaySelect = .forward →
    Measured units event.packetTiming.delay journey.sent journey.received
  reverse : event.delaySelect = .reverse →
    Measured units event.packetTiming.delay journey.answered journey.returned

/-- All times of the event are converted, in DNA with the retransmission timeout, and every event
that has them measures the delays. -/
def Kept (units : TimeUnits) (format : Format) (call : FillCall) (packet : Packet)
    (ccmeta : CongestionControlMetadata) (scid : BitVec 32) (journey : Journey) : Prop :=
  (format = .dna → ∃ timeout, units.toFalconTimeUnits ccmeta.retransmitTimeout = .ok timeout) ∧
  ∃ details, call.details units packet = .ok details ∧
    ∀ event : SwiftEvent, event.toEventHeader = details.header scid → event.Measures units journey

/-- What the conversion loses of a number of units: a fraction of a unit, unless the quotient is so
close below a whole number that its double is that number. -/
def TimeUnits.lost (units : TimeUnits) (nanoseconds : ℕ) : ℚ :=
  nanoseconds / units.nanosecondsPerFalconTimeUnit - truncate (units.falconQuotient nanoseconds)

/-- The conversions of the earlier time and of the delay lose as much as that of the later time, up
to one unit. -/
def TimeUnits.RoundingsCancel (units : TimeUnits) (earlier later : ℕ) : Prop :=
  units.Fits (simulated (later - earlier)) →
    |units.lost earlier + units.lost (later - earlier) - units.lost later| ≤ 1

/-! ## Conversions -/

theorem unsigned_simulated {nanoseconds : ℕ} (counted : nanoseconds < 2 ^ 63) :
    unsignedNanoseconds (simulated nanoseconds) = nanoseconds := by
  have whole : (simulated nanoseconds).tdiv 4 = nanoseconds :=
    Int.mul_tdiv_cancel_left _ (by decide)
  unfold unsignedNanoseconds wholeNanoseconds
  rw [whole]
  omega

theorem truncate_nonpos {value : ℚ} (nonpos : value ≤ 0) : truncate value ≤ 0 := by
  unfold truncate
  by_cases zero : 0 ≤ value
  · rw [if_pos zero, le_antisymm nonpos zero, Int.floor_zero]
  · rw [if_neg zero]
    exact Int.ceil_le.2 (by simpa using nonpos)

theorem truncate_mono {lower upper : ℚ} (nonneg : 0 ≤ lower) (le : lower ≤ upper) :
    truncate lower ≤ truncate upper := by
  unfold truncate
  rw [if_pos nonneg, if_pos (nonneg.trans le)]
  exact Int.floor_le_floor le

namespace TimeUnits

variable {units : TimeUnits}

/-- More nanoseconds are not converted to fewer units. -/
theorem units_mono {earlier later : ℕ} (order : earlier ≤ later)
    (converted : 0 ≤ truncate (units.falconQuotient later)) :
    truncate (units.falconQuotient earlier) ≤ truncate (units.falconQuotient later) := by
  have doubles : Binary64.round earlier ≤ Binary64.round later :=
    Binary64.round_mono (Nat.cast_nonneg _) (by exact_mod_cast order)
  have nonneg : 0 ≤ Binary64.round earlier := Binary64.round_nonneg (Nat.cast_nonneg _)
  rcases le_total 0 units.nanosecondsPerFalconTimeUnit with positive | negative
  · have quotients := div_le_div_of_nonneg_right doubles positive
    have quotient := div_nonneg nonneg positive
    exact truncate_mono (Binary64.round_nonneg quotient) (Binary64.round_mono quotient quotients)
  · -- all quotients of a negative unit are truncated to zero
    refine (truncate_nonpos (Binary64.round_nonpos ?_)).trans converted
    exact div_nonpos_of_nonneg_of_nonpos nonneg negative

/-- The difference of two converted times is measured exactly if what the conversions lose
cancels. -/
theorem measured_iff {earlier later : ℕ} {first last : BitVec 32} (order : earlier ≤ later)
    (counted : later < 2 ^ 63)
    (firstConverted : units.toFalconTimeUnits (simulated earlier) = .ok first)
    (lastConverted : units.toFalconTimeUnits (simulated later) = .ok last) :
    Measured units (last.setWidth timeBits - first.setWidth timeBits).toNat earlier later ↔
      units.RoundingsCancel earlier later := by
  obtain ⟨nonzero, firstSmall, firstUnits⟩ := (toFalconTimeUnits_eq_ok units).1 firstConverted
  obtain ⟨-, lastSmall, lastUnits⟩ := (toFalconTimeUnits_eq_ok units).1 lastConverted
  rw [unsigned_simulated (by omega)] at firstUnits lastUnits
  have ascending := @units_mono units earlier later order (by omega)
  rw [firstUnits, lastUnits] at ascending
  have difference : (last.setWidth timeBits - first.setWidth timeBits).toNat =
      last.toNat - first.toNat := by
    rw [BitVec.toNat_sub, BitVec.toNat_setWidth, BitVec.toNat_setWidth,
      Nat.mod_eq_of_lt firstSmall, Nat.mod_eq_of_lt lastSmall]
    have width : 2 ^ timeBits = 16777216 := by decide
    rw [width] at firstSmall lastSmall ⊢
    omega
  -- what is lost adds up to the difference of whole numbers of units
  have balance : units.lost earlier + units.lost (later - earlier) - units.lost later =
      (last.toNat - first.toNat - truncate (units.falconQuotient (later - earlier)) : ℤ) := by
    unfold lost
    rw [firstUnits, lastUnits, Nat.cast_sub order]
    push_cast
    ring
  unfold Measured RoundingsCancel
  rw [balance, difference]
  constructor
  · intro measured fits
    obtain ⟨delay, converted⟩ := (units.toFalconTimeUnits_succeeds).2 fits
    obtain ⟨upper, lower⟩ := measured delay converted
    obtain ⟨-, -, delayUnits⟩ := (toFalconTimeUnits_eq_ok units).1 converted
    rw [unsigned_simulated (by omega)] at delayUnits
    rw [delayUnits]
    have within : |(last.toNat - first.toNat - delay.toNat : ℤ)| ≤ 1 := by
      rw [abs_le]
      omega
    exact_mod_cast within
  · intro cancel delay converted
    have close := cancel ((units.toFalconTimeUnits_succeeds).1 ⟨delay, converted⟩)
    obtain ⟨-, -, delayUnits⟩ := (toFalconTimeUnits_eq_ok units).1 converted
    rw [unsigned_simulated (by omega)] at delayUnits
    rw [delayUnits] at close
    have within : |(last.toNat - first.toNat - delay.toNat : ℤ)| ≤ 1 := by exact_mod_cast close
    rw [abs_le] at within
    omega

end TimeUnits

/-! ## Events -/

/-- An ACK or a NACK of a packet with these times. -/
theorem details_of_feedback {call : FillCall} {units : TimeUnits} {packet : Packet}
    {times : List Span} (timed : call.timestamps packet = times) (some : times ≠ [])
    {details : EventDetails} (filled : call.details units packet = .ok details) :
    ∃ first second third fourth,
      times = [first, second, third, fourth] ∧
      units.toFalconTimeUnits first = .ok details.timestamp1 ∧
      units.toFalconTimeUnits second = .ok details.timestamp2 ∧
      units.toFalconTimeUnits third = .ok details.timestamp3 ∧
      units.toFalconTimeUnits fourth = .ok details.timestamp4 := by
  subst timed
  cases call with
  | timeoutRetransmitted retransmitCount => exact absurd rfl some
  | nack numPacketsAcked =>
    simp only [FillCall.details, nackDetails, feedbackDetails, bind_eq_ok, pure, Except.pure,
      Except.ok.injEq] at filled
    obtain ⟨_, one, _, two, _, three, _, four, rfl⟩ := filled
    exact ⟨_, _, _, _, rfl, one, two, three, four⟩
  | explicitAck numPacketsAcked eack eackDrop =>
    simp only [FillCall.details, ackDetails, feedbackDetails, bind_eq_ok, pure, Except.pure,
      Except.ok.injEq] at filled
    obtain ⟨_, one, _, two, _, three, _, four, rfl⟩ := filled
    exact ⟨_, _, _, _, rfl, one, two, three, four⟩

/-- An event with a header of which only the timestamps matter. -/
def timedEvent (header : EventHeader) (delaySelect : DelaySelect) : SwiftEvent where
  toEventHeader := header
  retransmitCount := 0
  fabricCongestionWindow := 0
  nicCongestionWindow := 0
  delaySelect
  fabricWindowTimeMarker := 0
  nicWindowTimeMarker := 0
  nicWindowDirection := .increase
  delayState := 0
  rttState := 0
  ccOpaque := 0
  plbState := 0
  multipathEnable := false
  flowLabel := 0

/-- A NACK on its way: a time of one microsecond for each leg. -/
def shortJourney : Journey where
  sent := 1000
  received := 2000
  answered := 3000
  returned := 4000
  forward := by decide
  held := by decide
  back := by decide
  counted := by decide

/-- The same round trip at a later time. -/
def Journey.after (journey : Journey) (time : ℕ) (counted : journey.returned + time < 2 ^ 63) :
    Journey where
  sent := journey.sent + time
  received := journey.received + time
  answered := journey.answered + time
  returned := journey.returned + time
  forward := Nat.add_le_add_right journey.forward time
  held := Nat.add_le_add_right journey.held time
  back := Nat.add_le_add_right journey.back time
  counted

/-- A packet whose NACK has the times of a journey. -/
def nackOf (journey : Journey) : Packet where
  packetType := .nack
  flowLabel := 0
  sentTimestamp := simulated journey.answered
  receivedTimestamp := simulated journey.returned
  ack := ⟨0, 0, 0, 0, 0, 0⟩
  nack := ⟨0, simulated journey.sent, simulated journey.received, 0, 0, 0⟩
  nackCode := .rxResourceExhaustion

instance (units : TimeUnits) (time : Span) : Decidable (units.Fits time) :=
  inferInstanceAs (Decidable (_ ∧ _ ∧ _))

instance (units : TimeUnits) (earlier later : ℕ) : Decidable (units.RoundingsCancel earlier later) :=
  inferInstanceAs (Decidable (_ → _))

/-- The same round trip after 2.2 seconds. -/
def lateJourney : Journey := shortJourney.after 2200000000 (by decide)

end Isekai.RateUpdate
