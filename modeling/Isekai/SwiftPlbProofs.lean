import Isekai.RateUpdateProofs
import Isekai.SwiftConnection

/-! PLB of `rue::Swift`. Its counters are the numbers that they stand for, because a round ends
before they can exceed their fields: the window that ends it is at most 1024 packets from the first
response on. A reroute is requested exactly if the number of consecutive congested rounds that is
configured is reached, as long as no response writes an older state of flow 0 back; responses for
the other flows of a connection of several paths may do that. -/

namespace Isekai.RateUpdate
open CongestionRounds

/-! ## The fields of the state -/

namespace PlbState

@[simp] theorem of_value_value (state : PlbState) : ofValue state.value = state := by
  obtain ⟨congestion, acknowledged, attempted⟩ := state
  unfold ofValue value
  congr 1 <;>
  · apply BitVec.eq_of_getLsbD_eq
    intro place inside
    simp [BitVec.getLsbD_append, inside]
    try grind

@[simp] theorem value_of_value (word : BitVec plbStateBits) : (ofValue word).value = word := by
  unfold ofValue value
  apply BitVec.eq_of_getLsbD_eq
  intro place inside
  simp [BitVec.getLsbD_extractLsb', BitVec.getLsbD_append]
  grind

end PlbState

/-- The numbers of a state that is written. -/
theorem counters_value (state : PlbState) :
    RueLoop.counters state.value =
      { acknowledged := state.packetsAcknowledged.toNat
        congested := state.packetsCongestionAcknowledged.toNat
        attempts := state.plbRerouteAttempted.toNat } := by
  simp [RueLoop.counters]

theorem counters_zero : RueLoop.counters 0 = {} := by decide

/-! ## Windows -/

theorem clamp_le {value low high : ℚ} (order : low ≤ high) : clamp value low high ≤ high := by
  unfold clamp
  split_ifs with below above
  · exact order
  · exact le_refl high
  · exact le_of_not_gt above

theorem float_to_fixed_le {num : ℚ} {bound : ℕ} (small : num ≤ bound) :
    floatToFixed num fractionalBits ≤ bound * 1024 := by
  have scaled : num * 2 ^ fractionalBits ≤ (bound * 1024 : ℕ) := by
    push_cast
    norm_num
    linarith
  unfold floatToFixed roundAway
  rw [Int.toNat_le]
  split_ifs with positive
  · have below : num * 2 ^ fractionalBits + 1 / 2 < ((bound * 1024 : ℕ) : ℤ) + 1 := by
      push_cast at scaled ⊢
      linarith
    exact Int.lt_add_one_iff.1 (Int.floor_lt.2 (by exact_mod_cast below))
  · apply Int.ceil_le.2
    push_cast at scaled ⊢
    linarith

theorem fixed_to_float_le {num bound : ℕ} (small : num ≤ bound * 1024) :
    fixedToFloat num fractionalBits ≤ bound := by
  have cast : (num : ℚ) ≤ bound * 1024 := by exact_mod_cast small
  unfold fixedToFloat
  norm_num
  linarith

/-! ## The configuration -/

@[simp] theorem refuse_eq_ok {fails : Bool} {message : String} {done : Unit} :
    refuse fails message = .ok done ↔ fails = false := by
  cases fails <;> simp [refuse]

/-- What PLB needs of its configuration. -/
structure PlbFits (swift : Swift) : Prop where
  window : swift.parameters.randomizePath = true → ∀ window, swift.clampFabric window ≤ (1024 : ℕ)
  threshold : swift.parameters.plbAttemptThreshold ≤ 15

theorem plb_fits {config : SwiftConfiguration} {format : Format} {parameters : SwiftParameters}
    (accepted : config.convertProfileToParameters format = .ok parameters) :
    PlbFits ⟨format, parameters⟩ := by
  simp only [SwiftConfiguration.convertProfileToParameters, bind_eq_ok] at accepted
  obtain ⟨_, windows, _, -, alpha, -, beta, -, _, -, _, -, _, plb, _, -, made⟩ := accepted
  cases made
  simp only [SwiftConfiguration.checkWindows, bind_eq_ok, refuse_eq_ok] at windows
  obtain ⟨_, -, _, -, _, ordered, -⟩ := windows
  simp only [SwiftConfiguration.checkPlb, bind_eq_ok, refuse_eq_ok] at plb
  obtain ⟨_, small, _, few, -⟩ := plb
  refine ⟨fun enabled window => ?_, ?_⟩
  · have most : config.maxFabricCongestionWindow ≤ (1024 : ℕ) := by
      simp [show config.randomizePath = true from enabled, maxPlbAckCount] at small
      norm_num at small
      exact_mod_cast small.1
    exact le_trans (clamp_le (by simpa using ordered)) most
  · exact Nat.not_lt.1 (of_decide_eq_false few)

/-! ## One event -/

/-- A state of PLB that the counters can go on from, for the window of its path as a fixed-point
number: if packets were counted, the window is within its bounds. -/
structure Within (swift : Swift) (window : ℕ) (word : BitVec plbStateBits) : Prop where
  ordered : (RueLoop.counters word).congested ≤ (RueLoop.counters word).acknowledged
  few : (RueLoop.counters word).attempts < max 1 swift.parameters.plbAttemptThreshold
  small : (RueLoop.counters word).acknowledged = 0 ∨ window ≤ 1024 * 1024

section
variable {swift : Swift} {window : ℕ} {word : BitVec plbStateBits}

theorem within_zero : Within swift window 0 := by
  refine ⟨?_, ?_, .inl ?_⟩ <;> rw [counters_zero]
  exact lt_of_lt_of_le Nat.one_pos (le_max_left 1 _)

theorem within_clamped {next : ℕ} (within : Within swift window word) (small : next ≤ 1024 * 1024) :
    Within swift next word :=
  ⟨within.ordered, within.few, .inr small⟩

/-- A round that goes on counts fewer packets than fit the field. -/
theorem counted_fits (within : Within swift window word) {packets : BitVec numPacketsAckedBits}
    {size : ℚ} (bounded : size ≤ fixedToFloat window fractionalBits)
    (unfinished : ((RueLoop.counters word).acknowledged + packets.toNat : ℕ) < size) :
    (RueLoop.counters word).acknowledged + packets.toNat < 1024 := by
  rcases within.small with none_counted | small
  · have at_most : packets.toNat < 1024 := packets.isLt
    omega
  · have limit := lt_of_lt_of_le unfinished (le_trans bounded (fixed_to_float_le small))
    exact_mod_cast limit

/-- What is added for an event, and one more attempt, fit the fields that they are written to. -/
structure Fit (swift : Swift) (state : PlbState) (packets : ℕ) (size : ℚ) : Prop where
  ordered : state.packetsCongestionAcknowledged.toNat ≤ state.packetsAcknowledged.toNat
  attempts : state.plbRerouteAttempted.toNat < 15
  packets : (state.packetsAcknowledged.toNat + packets : ℕ) < size →
    state.packetsAcknowledged.toNat + packets < 1024

theorem attempted_next {attempted : BitVec bitsOfPlbAttemptCounter} (few : attempted.toNat < 15) :
    (attempted + 1).toNat = attempted.toNat + 1 := by
  rw [BitVec.toNat_add]
  exact Nat.mod_eq_of_lt (by
    change attempted.toNat + 1 < 16
    omega)

/-- `computePlb` does to the fields what a step of the counters does. -/
theorem compute_plb_steps {state : PlbState} {event : SwiftEvent} {size : ℚ}
    (fit : Fit swift state event.numPacketsAcked.toNat size)
    (enabled : swift.parameters.randomizePath = true) (acked : event.nackCode = .notANack)
    (smoothedDelay targetDelay : ℕ) :
    let plb := swift.computePlb event smoothedDelay targetDelay state size
    (plb.1, RueLoop.counters plb.2.value) = (RueLoop.counters state.value).step
      swift.congestedRound swift.parameters.plbAttemptThreshold
      { packets := event.numPacketsAcked.toNat
        congested := swift.congested smoothedDelay targetDelay
        size } := by
  simp only [counters_value]
  unfold Swift.computePlb Counters.step Swift.congestedRound
  rw [if_neg (not_not.2 acked), if_pos enabled]
  dsimp only
  generalize marked : (if swift.congested smoothedDelay targetDelay = true then
    event.numPacketsAcked.toNat else 0) = congestion
  have some_of_them : congestion ≤ event.numPacketsAcked.toNat := by
    rw [← marked]
    split <;> omega
  by_cases complete :
      size ≤ (state.packetsAcknowledged.toNat + event.numPacketsAcked.toNat : ℕ)
  · rw [if_pos complete, if_pos complete]
    cases below : swift.belowThreshold
        (state.packetsAcknowledged.toNat + event.numPacketsAcked.toNat)
        (state.packetsCongestionAcknowledged.toNat + congestion) with
    | true => simp
    | false =>
      rw [attempted_next fit.attempts]
      by_cases enough : swift.parameters.plbAttemptThreshold ≤ state.plbRerouteAttempted.toNat + 1
      · simp [enough]
      · simpa [enough] using attempted_next fit.attempts
  · have room := fit.packets (Rat.not_le.1 complete)
    have ordered := fit.ordered
    rw [if_neg complete, if_neg complete]
    have all : (BitVec.ofNat bitsOfPlbAckCounter
        (state.packetsAcknowledged.toNat + event.numPacketsAcked.toNat)).toNat =
          state.packetsAcknowledged.toNat + event.numPacketsAcked.toNat :=
      (BitVec.toNat_ofNat _ _).trans (Nat.mod_eq_of_lt room)
    have part : (BitVec.ofNat bitsOfPlbAckCounter
        (state.packetsCongestionAcknowledged.toNat + congestion)).toNat =
          state.packetsCongestionAcknowledged.toNat + congestion :=
      (BitVec.toNat_ofNat _ _).trans (Nat.mod_eq_of_lt (by
        change _ < 1024
        omega))
    rw [all, part]

theorem fit_of_within (fits : PlbFits swift) (within : Within swift window word)
    (packets : BitVec numPacketsAckedBits) {size : ℚ}
    (bounded : size ≤ fixedToFloat window fractionalBits) :
    Fit swift (PlbState.ofValue word) packets.toNat size where
  ordered := within.ordered
  attempts := by
    have few := within.few
    have threshold := fits.threshold
    simp only [RueLoop.counters] at few
    omega
  packets := counted_fits within bounded

/-- The state after a step is one to go on from, once the window is within its bounds. -/
theorem within_step (within : Within swift window word) {next : BitVec plbStateBits}
    {small : ℕ} (clamped : small ≤ 1024 * 1024) {report : Report}
    (stepped : RueLoop.counters next = ((RueLoop.counters word).step swift.congestedRound
      swift.parameters.plbAttemptThreshold report).2) : Within swift small next := by
  refine ⟨?_, ?_, .inr clamped⟩ <;> rw [stepped]
  · exact step_ordered within.ordered
  · exact step_attempts within.few

end

/-! ## Processing -/

namespace Swift
variable {swift : Swift} {event : SwiftEvent} {state next : RueConnectionState}
  {response : SwiftResponse} {now : BitVec 32} {label : BitVec (flowLabelBits - flowIdBits)}

/-- What PLB made of an event: nothing, or the answer of `computePlb` to what is reported. -/
def Answered (swift : Swift) (event : SwiftEvent) (state : RueConnectionState)
    (plb : Bool × PlbState) : Prop :=
  let old := PlbState.ofValue (swift.flowState event state).plbState
  (swift.report event state = none ∧ plb = (false, old)) ∨
  ∃ targetDelay, swift.parameters.randomizePath = true ∧ event.nackCode = .notANack ∧
    swift.report event state = some {
      packets := event.numPacketsAcked.toNat
      congested := swift.congested (swift.flowDelay event) targetDelay
      size := min (flowWindow event state) (swift.getFloatNcwndFromEvent event) } ∧
    plb = swift.computePlb event (swift.flowDelay event) targetDelay old
      (min (flowWindow event state) (swift.getFloatNcwndFromEvent event))

/-- An ACK or a NACK is answered by `computePlb` in any case. -/
theorem answered_of_target {targetDelay : ℕ} (feedback : event.eventType ≠ .retransmit)
    (target : swift.getTargetDelay (flowWindow event state) event.forwardHops.toNat =
      .ok targetDelay) :
    swift.Answered event state (swift.computePlb event (swift.flowDelay event) targetDelay
      (PlbState.ofValue (swift.flowState event state).plbState)
      (min (flowWindow event state) (swift.getFloatNcwndFromEvent event))) := by
  by_cases enabled : swift.parameters.randomizePath = true
  · by_cases acked : event.nackCode = .notANack
    · refine .inr ⟨targetDelay, enabled, acked, ?_, rfl⟩
      rw [report, if_pos ⟨enabled, feedback, acked⟩, target]
      rfl
    · refine .inl ⟨if_neg fun met => acked met.2.2, ?_⟩
      rw [computePlb, if_pos acked]
  · refine .inl ⟨if_neg fun met => enabled met.1, ?_⟩
    by_cases acked : event.nackCode = .notANack
    · rw [computePlb, if_neg (not_not.2 acked), if_neg enabled]
    · rw [computePlb, if_pos acked]

/-- A retransmission is no report. -/
theorem answered_retransmit (retransmit : event.eventType = .retransmit) :
    swift.Answered event state
      (false, PlbState.ofValue (swift.flowState event state).plbState) :=
  .inl ⟨if_neg fun met => met.2.1 retransmit, rfl⟩

theorem fabric_window_clamped (event : SwiftEvent) (window : ℚ) (smoothedDelay targetDelay : ℕ)
    (timing : PacketTiming) (delta : ℕ) :
    ∃ free, swift.fabricCongestionWindow event window smoothedDelay targetDelay timing delta =
      swift.clampFabric free := by
  unfold fabricCongestionWindow
  by_cases most : swift.useMaxFabricDecrease event = true
  · rw [if_pos most]
    exact ⟨_, rfl⟩
  · rw [if_neg most]
    exact ⟨_, rfl⟩

/-- What processing an event of a path does to the state of PLB and the window of the path. -/
structure Effect (swift : Swift) (event : SwiftEvent) (state : RueConnectionState)
    (response : SwiftResponse) (next : RueConnectionState) : Prop where
  flowId : response.flowId = event.flowId
  plb : ∃ plb, swift.Answered event state plb ∧ plbAfter event response next = plb.2.value ∧
    ((swift.parameters.randomizePath = true → event.ccOpaque = 0) → swift.reroutes response = plb.1)
  window : ∃ free, (if event.multipathEnable then next.fcwnd event.flowId.toFin
    else response.fabricCongestionWindow) = floatToFixed (swift.clampFabric free) fractionalBits
  others : ∀ flow, flow ≠ event.flowId.toFin → next.fcwnd flow = state.fcwnd flow ∧
    next.perFlowStates flow = state.perFlowStates flow
  stored : swift.format = .dna → swift.parameters.randomizePath = true →
    response.delayState = response.plbState.toNat
  reflected : event.flowId ≠ 0 → response.plbState = event.plbState

theorem flow_id_single (single : event.multipathEnable = false) : event.flowId = 0 := by
  simp [SwiftEvent.flowId, single]

/-- Some flow gets a new label exactly if the path is to be left. -/
theorem reroutes_flows (bna : swift.format = .bna) {reroute : Bool}
    {flowId : BitVec flowIdBits} {labels : Fin 4 → BitVec flowLabelBits}
    (valid : ∀ flow, (response.flows flow).valid =
      (swift.updateFlowLabels reroute label flowId labels flow).2) :
    swift.reroutes response = reroute := by
  have marked : ∀ flow, (response.flows flow).valid = decide (reroute ∧ flowId.toFin = flow) := by
    intro flow
    rw [valid flow, updateFlowLabels]
    by_cases here : reroute = true ∧ flowId.toFin = flow <;> simp [bna, here]
  simp only [reroutes, bna, SwiftResponse.bna, marked]
  cases reroute with
  | false => rfl
  | true =>
    generalize flowId.toFin = flow
    revert flow
    decide

/-- A DNA connection is not made to change its path otherwise. -/
theorem reroutes_dna (dna : swift.format = .dna) {reroute : Bool}
    (quiet : swift.parameters.randomizePath = true → event.ccOpaque = 0)
    (asked : response.randomizePath = (reroute || swift.computeRandomizePath event)) :
    swift.reroutes response = reroute := by
  have unforced : swift.computeRandomizePath event = false := by
    cases enabled : swift.parameters.randomizePath with
    | false => simp [computeRandomizePath, dna, enabled]
    | true => simp [computeRandomizePath, dna, quiet enabled]
  simp [reroutes, dna, SwiftResponse.dna, asked, unforced]

theorem effect_ack_nack (single : event.multipathEnable = false)
    (feedback : event.eventType ≠ .retransmit)
    (done : swift.processAckNack event now label = .ok response) :
    swift.Effect event state response state := by
  have first := flow_id_single single
  simp only [processAckNack, bind_eq_ok] at done
  obtain ⟨targetDelay, target, fabricGap, -, nicGap, -, timeout, -, made⟩ := done
  cases made
  have window : flowWindow event state =
      fixedToFloat event.fabricCongestionWindow.toNat fractionalBits := by
    simp [flowWindow, single]
  have delay : swift.flowDelay event = getSmoothed swift.parameters.delaySmoothingAlpha
      event.delayState.toNat event.packetTiming.delay := by
    simp [flowDelay, single]
  have found : (swift.flowState event state).plbState = swift.getPlbStateFromEvent event := by
    simp [flowState, first]
  rw [← window] at target
  have answered := answered_of_target feedback target
  rw [window, delay, found] at answered
  refine ⟨rfl, ⟨_, answered, ?_, fun quiet => ?_⟩, ?_, fun _ _ => ⟨rfl, rfl⟩, ?_, ?_⟩
  · simp [plbAfter, first]
  · cases kind : swift.format with
    | dna => exact reroutes_dna kind quiet rfl
    | bna => exact reroutes_flows kind fun _ => rfl
  · obtain ⟨free, clamped⟩ := swift.fabric_window_clamped event
      (fixedToFloat event.fabricCongestionWindow.toNat fractionalBits)
      (getSmoothed swift.parameters.delaySmoothingAlpha event.delayState.toNat
        event.packetTiming.delay) targetDelay event.packetTiming
      (getWindowDelta now (event.fabricWindowTimeMarker.setWidth 32))
    exact ⟨free, by simp [single, clamped]⟩
  · intro dna enabled
    simp [getDelayStateInResponse, dna, enabled]
  · intro other
    exact absurd first other

theorem effect_retransmit (single : event.multipathEnable = false)
    (retransmit : event.eventType = .retransmit)
    (done : swift.processRetransmit event now = .ok response) :
    swift.Effect event state response state := by
  have first := flow_id_single single
  simp only [processRetransmit, bind_eq_ok] at done
  obtain ⟨nicGap, -, fabricGap, -, timeout, -, made⟩ := done
  cases made
  have found : (swift.flowState event state).plbState = swift.getPlbStateFromEvent event := by
    simp [flowState, first]
  refine ⟨rfl, ⟨_, answered_retransmit retransmit, ?_, fun quiet => ?_⟩, ?_,
    fun _ _ => ⟨rfl, rfl⟩, ?_, ?_⟩
  · simp [plbAfter, first, found]
  · cases kind : swift.format with
    | dna => exact reroutes_dna kind quiet rfl
    | bna => simp [reroutes, kind, SwiftResponse.bna]
  · exact ⟨_, by simp [single, computeTimeoutFabricCongestionWindow]; rfl⟩
  · intro dna enabled
    simp [getPlbStateFromEvent, dna]
  · intro other
    exact absurd first other

theorem write_back_other {fcwnd : ℕ} {flow : RuePerFlowState} {other : Fin 4}
    (elsewhere : other ≠ event.flowId.toFin) :
    (writeBack event state fcwnd flow).fcwnd other = state.fcwnd other ∧
      (writeBack event state fcwnd flow).perFlowStates other = state.perFlowStates other := by
  refine ⟨Function.update_of_ne elsewhere _ _, ?_⟩
  unfold writeBack
  dsimp only
  by_cases first : event.flowId = 0
  · rw [if_pos first]
  · rw [if_neg first, Function.update_of_ne elsewhere]

theorem write_back_window {fcwnd : ℕ} {flow : RuePerFlowState} :
    (writeBack event state fcwnd flow).fcwnd event.flowId.toFin = fcwnd :=
  Function.update_self ..

theorem plb_after_write_back {fcwnd : ℕ} {flow : RuePerFlowState}
    (first : event.flowId = 0 → response.plbState = flow.plbState) :
    plbAfter event response (writeBack event state fcwnd flow) = flow.plbState := by
  unfold plbAfter writeBack
  by_cases zero : event.flowId = 0
  · rw [if_pos zero, first zero]
  · dsimp only
    rw [if_neg zero, if_neg zero, Function.update_self]

theorem effect_ack_nack_multipath (bna : swift.format = .bna) (several : event.multipathEnable)
    (feedback : event.eventType ≠ .retransmit)
    (done : swift.processAckNackMultipath event state now label = .ok (response, next)) :
    swift.Effect event state response next := by
  simp only [processAckNackMultipath, bind_eq_ok] at done
  obtain ⟨targetDelay, target, fabricGap, -, nicGap, -, timeout, -, made⟩ := done
  cases made
  have window : flowWindow event state =
      fixedToFloat (state.fcwnd event.flowId.toFin) fractionalBits := by
    simp [flowWindow, several]
  have delay : swift.flowDelay event = event.packetTiming.delay := by
    simp [flowDelay, several]
  rw [← window] at target
  have answered := answered_of_target feedback target
  rw [window, delay] at answered
  refine ⟨rfl, ⟨_, answered, ?_, fun _ => reroutes_flows bna fun _ => rfl⟩, ?_,
    fun _ => write_back_other, ?_, ?_⟩
  · exact plb_after_write_back fun first => if_pos first
  · obtain ⟨free, clamped⟩ := swift.fabric_window_clamped event
      (fixedToFloat (state.fcwnd event.flowId.toFin) fractionalBits) event.packetTiming.delay
      targetDelay event.packetTiming
      (getWindowDelta now (swift.flowState event state).fcwndTimeMarker)
    refine ⟨free, ?_⟩
    rw [if_pos several, write_back_window, clamped]
  · intro dna
    simp [dna] at bna
  · exact fun other => if_neg other

theorem effect_retransmit_multipath (bna : swift.format = .bna) (several : event.multipathEnable)
    (retransmit : event.eventType = .retransmit)
    (done : swift.processRetransmitMultipath event state now = .ok (response, next)) :
    swift.Effect event state response next := by
  simp only [processRetransmitMultipath, bind_eq_ok] at done
  obtain ⟨fabricGap, -, nicGap, -, timeout, -, made⟩ := done
  cases made
  refine ⟨rfl, ⟨_, answered_retransmit retransmit, ?_, fun _ => ?_⟩, ?_,
    fun _ => write_back_other, ?_, fun _ => rfl⟩
  · rw [PlbState.value_of_value]
    refine plb_after_write_back fun first => ?_
    simp [flowState, first, getPlbStateFromEvent, bna]
  · simp [reroutes, bna, SwiftResponse.bna]
  · have window := @write_back_window event state
    simp only [computeTimeoutFabricCongestionWindow, if_pos several, window]
    exact ⟨_, rfl⟩
  · intro dna
    simp [dna] at bna

theorem process_effect (kind : event.multipathEnable = true → swift.format = .bna)
    (done : swift.process event state now label = .ok (response, next)) :
    swift.Effect event state response next := by
  unfold process at done
  cases several : event.multipathEnable <;> cases type : event.eventType <;>
    simp only [several, type] at done
  case false.retransmit =>
    obtain ⟨_, answered, same⟩ := map_eq_ok.1 done
    cases same
    exact effect_retransmit several type answered
  case true.retransmit => exact effect_retransmit_multipath (kind several) several type done
  case true.ack | true.nack =>
    exact effect_ack_nack_multipath (kind several) several (by rw [type]; nofun) done
  all_goals
    obtain ⟨_, answered, same⟩ := map_eq_ok.1 done
    cases same
    exact effect_ack_nack several (by rw [type]; nofun) answered

/-! ## Filling and updating -/

/-- Whether a connection has several paths. -/
def several (swift : Swift) (metadata : CongestionControlMetadata) : Bool :=
  swift.format = .bna && metadata.gen2FlowLabels.length ≠ 1

/-- What an event is filled with. -/
structure Filled (swift : Swift) (metadata : CongestionControlMetadata) (event : SwiftEvent) :
    Prop where
  plb : swift.getPlbStateFromEvent event = swift.plbField metadata
  window : event.fabricCongestionWindow =
    metadata.fabricCongestionWindow.setWidth fabricCongestionWindowBits
  multipathEnable : event.multipathEnable = swift.several metadata
  quiet : metadata.ccOpaque = 0 → event.ccOpaque = 0

theorem fill_filled {units : TimeUnits} {scid : BitVec 32} {packet : Packet}
    {metadata : CongestionControlMetadata} {call : FillCall}
    (done : swift.fill units scid packet metadata call = .ok event) :
    swift.Filled metadata event := by
  cases format : swift.format with
  | dna =>
    simp only [fill, format, map_eq_ok, FillCall.fillDna_eq, bind_eq_ok, fillEventDna] at done
    obtain ⟨_, ⟨details, -, gap, -, timeout, -, built⟩, rfl⟩ := done
    cases built
    refine ⟨by simp [getPlbStateFromEvent, plbField, format, EventDna.swift], rfl,
      by simp [Swift.several, format, EventDna.swift], fun quiet => ?_⟩
    simp [EventDna.swift, quiet]
  | bna =>
    simp only [fill, format, map_eq_ok, FillCall.fillBna_eq] at done
    obtain ⟨_, ⟨details, -, rfl⟩, rfl⟩ := done
    refine ⟨by simp [getPlbStateFromEvent, plbField, format, EventBna.swift, fillEventBna], rfl,
      by simp [Swift.several, format, EventBna.swift, fillEventBna], fun quiet => ?_⟩
    simp [EventBna.swift, fillEventBna, quiet]

theorem window_kept (window : ℕ) :
    (((BitVec.ofNat fabricCongestionWindowBits window).setWidth 32).setWidth
      fabricCongestionWindowBits).toNat = window % 2 ^ fabricCongestionWindowBits := by
  simp only [BitVec.toNat_setWidth, BitVec.toNat_ofNat]
  have narrow : window % 2 ^ fabricCongestionWindowBits < 2 ^ fabricCongestionWindowBits :=
    Nat.mod_lt _ (Nat.two_pow_pos _)
  rw [Nat.mod_eq_of_lt (lt_trans narrow (by decide : 2 ^ fabricCongestionWindowBits < 2 ^ 32)),
    Nat.mod_mod]

/-- What a connection is updated with. -/
structure Updated (swift : Swift) (before after : CongestionControlMetadata)
    (response : SwiftResponse) : Prop where
  plb : (swift.format = .dna → response.delayState = response.plbState.toNat) →
    swift.plbField after = response.plbState
  window : (after.fabricCongestionWindow.setWidth fabricCongestionWindowBits).toNat =
    response.fabricCongestionWindow % 2 ^ fabricCongestionWindowBits
  several : swift.several after = swift.several before
  quiet : after.ccOpaque = before.ccOpaque

theorem update_updated {units : TimeUnits} {flowLabel : BitVec flowLabelBits}
    {before after : ConnectionState}
    (done : swift.update units flowLabel before response = .ok after) :
    swift.Updated before.congestionControlMetadata after.congestionControlMetadata response := by
  cases format : swift.format with
  | dna =>
    simp only [update, format] at done
    cases done
    refine ⟨fun stored => ?_, ?_, ?_, rfl⟩
    · simp [plbField, format, updateConnectionStateFromResponseDna, SwiftResponse.dna,
        stored format]
    · exact window_kept _
    · simp [Swift.several, format]
  | bna =>
    simp only [update, format, updateConnectionStateFromResponseBna, bind_eq_ok] at done
    obtain ⟨flows, placed, built⟩ := done
    cases built
    refine ⟨fun _ => ?_, ?_, ?_, rfl⟩
    · simp [plbField, format, SwiftResponse.bna]
    · exact window_kept _
    · simp [Swift.several, format, (updateFlows_length placed).1]

end Swift

/-! ## States to go on from -/

namespace RueLoop
variable {swift : Swift} {units : TimeUnits} {scid : BitVec 32} {loop next : RueLoop}

/-- The window that goes with a state of PLB of flow 0, which the algorithm keeps if the connection
has several paths. -/
def carrier (swift : Swift) (loop : RueLoop) (own : ℕ) : ℕ :=
  if swift.several loop.connection.congestionControlMetadata then loop.state.fcwnd 0 else own

/-- Every state of PLB, wherever it is, is one that the counters can go on from. -/
structure Sound (swift : Swift) (loop : RueLoop) : Prop where
  quiet : loop.connection.congestionControlMetadata.ccOpaque = 0
  connection : Within swift (carrier swift loop
    (loop.connection.congestionControlMetadata.fabricCongestionWindow.setWidth
      fabricCongestionWindowBits).toNat)
    (swift.plbField loop.connection.congestionControlMetadata)
  events : ∀ event ∈ loop.events,
    event.multipathEnable = swift.several loop.connection.congestionControlMetadata ∧
    event.ccOpaque = 0 ∧ Within swift (carrier swift loop event.fabricCongestionWindow.toNat)
      (swift.getPlbStateFromEvent event)
  responses : ∀ response ∈ loop.responses,
    (swift.format = .dna → response.delayState = response.plbState.toNat) ∧
    Within swift (carrier swift loop
      (response.fabricCongestionWindow % 2 ^ fabricCongestionWindowBits)) response.plbState
  flows : ∀ flow, flow ≠ 0 →
    Within swift (loop.state.fcwnd flow) (loop.state.perFlowStates flow).plbState

theorem sound_initial (enabled : swift.parameters.randomizePath = true)
    (initial : Initial swift loop) : Sound swift loop := by
  obtain ⟨flowFcwnd, state⟩ := initial.state
  refine ⟨initial.ccOpaque, ?_, ?_, ?_, fun flow _ => ?_⟩
  · rw [initial.plb enabled]
    exact within_zero
  · simp [initial.events]
  · simp [initial.responses]
  · rw [state]
    exact within_zero

section
variable {event : SwiftEvent} {response : SwiftResponse} {state after : RueConnectionState}

theorem bna_of_several {metadata : CongestionControlMetadata}
    (kind : event.multipathEnable = swift.several metadata) (multipath : event.multipathEnable) :
    swift.format = .bna := by
  rw [kind, Swift.several, Bool.and_eq_true] at multipath
  exact of_decide_eq_true multipath.1

theorem several_of_flow (other : event.flowId ≠ 0) : event.multipathEnable = true := by
  cases multipath : event.multipathEnable with
  | false => exact absurd (Swift.flow_id_single multipath) other
  | true => rfl

theorem to_fin_ne_zero (other : event.flowId ≠ 0) : event.flowId.toFin ≠ 0 :=
  fun zero => other (BitVec.eq_of_toFin_eq zero)

/-- What is found for an event can be gone on from, for the window of its path. -/
theorem within_found (sound : Sound swift loop) (queued : event ∈ loop.events) :
    Within swift (if event.multipathEnable then loop.state.fcwnd event.flowId.toFin
      else event.fabricCongestionWindow.toNat) (swift.flowState event loop.state).plbState := by
  obtain ⟨kind, -, within⟩ := sound.events event queued
  unfold Swift.flowState
  by_cases first : event.flowId = 0
  · rw [if_pos first, first]
    rw [carrier, ← kind] at within
    exact within
  · rw [if_neg first, if_pos (several_of_flow first)]
    exact sound.flows _ (to_fin_ne_zero first)

theorem window_small (fits : PlbFits swift) (enabled : swift.parameters.randomizePath = true)
    (effect : swift.Effect event state response after) :
    (if event.multipathEnable then after.fcwnd event.flowId.toFin
      else response.fabricCongestionWindow) ≤ 1024 * 1024 := by
  obtain ⟨free, clamped⟩ := effect.window
  rw [clamped]
  exact float_to_fixed_le (fits.window enabled free)

/-- The state of PLB after an event is that of the counters. -/
theorem counters_after (fits : PlbFits swift) (sound : Sound swift loop)
    (queued : event ∈ loop.events) (effect : swift.Effect event loop.state response after) :
    counters (Swift.plbAfter event response after) =
      match swift.report event loop.state with
      | none => counters (swift.flowState event loop.state).plbState
      | some report => ((counters (swift.flowState event loop.state).plbState).step
          swift.congestedRound swift.parameters.plbAttemptThreshold report).2 := by
  obtain ⟨plb, answered, written, -⟩ := effect.plb
  rw [written]
  rcases answered with ⟨unreported, rfl⟩ | ⟨targetDelay, enabled, acked, reported, rfl⟩
  · rw [unreported, PlbState.value_of_value]
  · have fit := fit_of_within fits (within_found sound queued) event.numPacketsAcked
      (min_le_left (Swift.flowWindow event loop.state) (swift.getFloatNcwndFromEvent event))
    have stepped := compute_plb_steps fit enabled acked (swift.flowDelay event) targetDelay
    rw [PlbState.value_of_value] at stepped
    rw [reported]
    exact congrArg Prod.snd stepped

theorem reroutes_after (fits : PlbFits swift) (sound : Sound swift loop)
    (queued : event ∈ loop.events) (effect : swift.Effect event loop.state response after) :
    swift.reroutes response = match swift.report event loop.state with
      | none => false
      | some report => ((counters (swift.flowState event loop.state).plbState).step
          swift.congestedRound swift.parameters.plbAttemptThreshold report).1 := by
  obtain ⟨plb, answered, -, rerouted⟩ := effect.plb
  rw [rerouted fun _ => (sound.events event queued).2.1]
  rcases answered with ⟨unreported, rfl⟩ | ⟨targetDelay, enabled, acked, reported, rfl⟩
  · rw [unreported]
  · have fit := fit_of_within fits (within_found sound queued) event.numPacketsAcked
      (min_le_left (Swift.flowWindow event loop.state) (swift.getFloatNcwndFromEvent event))
    have stepped := compute_plb_steps fit enabled acked (swift.flowDelay event) targetDelay
    rw [PlbState.value_of_value] at stepped
    rw [reported]
    exact congrArg Prod.fst stepped

theorem within_after (fits : PlbFits swift) (sound : Sound swift loop)
    (queued : event ∈ loop.events) (effect : swift.Effect event loop.state response after)
    {small : ℕ} (clamped : small ≤ 1024 * 1024) :
    Within swift small (Swift.plbAfter event response after) := by
  have found := within_found sound queued
  have counted := counters_after fits sound queued effect
  cases reported : swift.report event loop.state with
  | none =>
    rw [reported] at counted
    exact ⟨counted ▸ found.ordered, counted ▸ found.few, .inr clamped⟩
  | some report =>
    rw [reported] at counted
    exact within_step found clamped counted

/-- The states of PLB that the algorithm does not write stay such, as windows only come into
their bounds. -/
theorem within_carried (fits : PlbFits swift) (enabled : swift.parameters.randomizePath = true)
    (kind : event.multipathEnable = swift.several loop.connection.congestionControlMetadata)
    (effect : swift.Effect event loop.state response after) {own : ℕ}
    {word : BitVec plbStateBits} (within : Within swift (carrier swift loop own) word) :
    Within swift (carrier swift { loop with state := after } own) word := by
  unfold carrier at within ⊢
  dsimp only
  by_cases several : swift.several loop.connection.congestionControlMetadata = true
  · rw [if_pos several] at within ⊢
    by_cases first : event.flowId = 0
    · have small := window_small fits enabled effect
      rw [if_pos (kind.trans several), first] at small
      exact within_clamped within small
    · rw [(effect.others 0 fun zero => to_fin_ne_zero first zero.symm).1]
      exact within
  · rw [if_neg several] at within ⊢
    exact within

/-- What an event of another flow writes back was found in it. -/
theorem reflected_found (sound : Sound swift loop) (queued : event ∈ loop.events)
    (effect : swift.Effect event loop.state response after) (other : event.flowId ≠ 0) :
    response.plbState = swift.getPlbStateFromEvent event := by
  have bna := bna_of_several (sound.events event queued).1 (several_of_flow other)
  rw [effect.reflected other, Swift.getPlbStateFromEvent, bna]

theorem within_response (fits : PlbFits swift) (enabled : swift.parameters.randomizePath = true)
    (sound : Sound swift loop) (queued : event ∈ loop.events)
    (effect : swift.Effect event loop.state response after) :
    Within swift (carrier swift { loop with state := after }
      (response.fabricCongestionWindow % 2 ^ fabricCongestionWindowBits)) response.plbState := by
  obtain ⟨kind, -, within⟩ := sound.events event queued
  have small := window_small fits enabled effect
  by_cases first : event.flowId = 0
  · have written : Swift.plbAfter event response after = response.plbState := if_pos first
    rw [← written]
    refine within_after fits sound queued effect ?_
    unfold carrier
    dsimp only
    rw [← kind]
    by_cases multipath : event.multipathEnable = true
    · rw [if_pos multipath] at small ⊢
      rw [first] at small
      exact small
    · rw [if_neg multipath] at small ⊢
      exact le_trans (Nat.mod_le _ _) small
  · rw [reflected_found sound queued effect first]
    have several : swift.several loop.connection.congestionControlMetadata = true :=
      kind.symm.trans (several_of_flow first)
    have carried := within_carried fits enabled kind effect within
    unfold carrier at carried ⊢
    dsimp only at carried ⊢
    rw [if_pos several] at carried ⊢
    exact carried

theorem within_flow (fits : PlbFits swift) (enabled : swift.parameters.randomizePath = true)
    (sound : Sound swift loop) (queued : event ∈ loop.events)
    (effect : swift.Effect event loop.state response after) {flow : Fin 4} (other : flow ≠ 0) :
    Within swift (after.fcwnd flow) (after.perFlowStates flow).plbState := by
  by_cases here : flow = event.flowId.toFin
  · have elsewhere : event.flowId ≠ 0 := by
      intro zero
      rw [here, zero] at other
      exact other rfl
    have written : Swift.plbAfter event response after =
        (after.perFlowStates event.flowId.toFin).plbState := if_neg elsewhere
    have small := window_small fits enabled effect
    rw [if_pos (several_of_flow elsewhere)] at small
    rw [here, ← written]
    exact within_after fits sound queued effect small
  · obtain ⟨window, states⟩ := effect.others flow here
    rw [window, states]
    exact sound.flows flow other

end

/-! ## Actions -/

theorem perform_fill {packet : Packet} {call : FillCall}
    (done : loop.perform swift units scid (.fill packet call) = some next) :
    ∃ event, swift.fill units scid packet loop.connection.congestionControlMetadata call =
        .ok event ∧
      loop.outstanding event.flowId = false ∧
      next = { loop with events := loop.events ++ [event] } := by
  obtain ⟨event, filled, placed⟩ := Option.bind_eq_some_iff.1 done
  refine ⟨event, toOption_eq_some.1 filled, ?_⟩
  cases waiting : loop.outstanding event.flowId with
  | false =>
    rw [waiting] at placed
    exact ⟨rfl, (Option.some.inj placed).symm⟩
  | true =>
    rw [waiting] at placed
    exact absurd placed nofun

theorem perform_process {now : BitVec 32} {label : BitVec (flowLabelBits - flowIdBits)}
    (done : loop.perform swift units scid (.process now label) = some next) :
    ∃ event rest response after, loop.events = event :: rest ∧
      swift.process event loop.state now label = .ok (response, after) ∧
      next = { loop with
        state := after
        events := rest
        responses := loop.responses ++ [response]
        history := swift.historyAfter loop.history event loop.state response } := by
  simp only [perform] at done
  split at done
  · exact absurd done nofun
  · rename_i event rest queued
    obtain ⟨⟨response, after⟩, processed, same⟩ := Option.map_eq_some_iff.1 done
    exact ⟨event, rest, response, after, queued, toOption_eq_some.1 processed, same.symm⟩

theorem perform_update {flowLabel : BitVec flowLabelBits}
    (done : loop.perform swift units scid (.update flowLabel) = some next) :
    ∃ response rest connection, loop.responses = response :: rest ∧
      swift.update units flowLabel loop.connection response = .ok connection ∧
      next = { loop with connection, responses := rest } := by
  simp only [perform] at done
  split at done
  · exact absurd done nofun
  · rename_i response rest queued
    obtain ⟨connection, updated, same⟩ := Option.map_eq_some_iff.1 done
    exact ⟨response, rest, connection, queued, toOption_eq_some.1 updated, same.symm⟩

theorem sound_step (fits : PlbFits swift) (enabled : swift.parameters.randomizePath = true)
    (sound : Sound swift loop) (taken : Step swift units scid loop next) : Sound swift next := by
  obtain ⟨action, done⟩ := taken
  cases action with
  | fill packet call =>
    obtain ⟨event, built, -, rfl⟩ := perform_fill done
    have filled := Swift.fill_filled built
    refine ⟨sound.quiet, sound.connection, ?_, sound.responses, sound.flows⟩
    intro queued member
    rcases List.mem_append.1 member with before | new
    · exact sound.events queued before
    · obtain rfl := List.mem_singleton.1 new
      refine ⟨filled.multipathEnable, filled.quiet sound.quiet, ?_⟩
      rw [filled.plb, filled.window]
      exact sound.connection
  | process now label =>
    obtain ⟨event, rest, response, after, queued, processed, rfl⟩ := perform_process done
    have member : event ∈ loop.events := queued ▸ List.mem_cons_self
    have kind := (sound.events event member).1
    have effect := Swift.process_effect (bna_of_several kind) processed
    refine ⟨sound.quiet, within_carried fits enabled kind effect sound.connection, ?_, ?_,
      fun flow => within_flow fits enabled sound member effect⟩
    · intro other waiting
      obtain ⟨same, quiet, within⟩ := sound.events other (queued ▸ List.mem_cons_of_mem _ waiting)
      exact ⟨same, quiet, within_carried fits enabled kind effect within⟩
    · intro answer waiting
      rcases List.mem_append.1 waiting with before | new
      · obtain ⟨stored, within⟩ := sound.responses answer before
        exact ⟨stored, within_carried fits enabled kind effect within⟩
      · obtain rfl := List.mem_singleton.1 new
        exact ⟨fun dna => effect.stored dna enabled,
          within_response fits enabled sound member effect⟩
  | update flowLabel =>
    obtain ⟨response, rest, connection, queued, changed, rfl⟩ := perform_update done
    have updated := Swift.update_updated changed
    have member : response ∈ loop.responses := queued ▸ List.mem_cons_self
    obtain ⟨stored, within⟩ := sound.responses response member
    have carried : carrier swift { loop with connection, responses := rest } = carrier swift loop := by
      funext own
      unfold carrier
      dsimp only
      rw [updated.several]
    refine ⟨updated.quiet.trans sound.quiet, ?_, ?_, ?_, sound.flows⟩
    · rw [carried]
      dsimp only
      rw [updated.plb stored, updated.window]
      exact within
    · intro event waiting
      rw [carried]
      dsimp only
      rw [updated.several]
      exact sound.events event waiting
    · intro answer waiting
      rw [carried]
      exact sound.responses answer (queued ▸ List.mem_cons_of_mem _ waiting)

/-- Every state of PLB that is reached can be gone on from. -/
theorem reachable_sound (fits : PlbFits swift) (enabled : swift.parameters.randomizePath = true)
    (reached : Runs.Reachable (Initial swift) (Step swift units scid) loop) : Sound swift loop := by
  refine Runs.invariant_of_reachable ?_ ?_ reached
  · intro first initial
    exact sound_initial enabled initial
  · intro before after sound taken
    exact sound_step fits enabled sound taken

theorem counted_of_sound (fits : PlbFits swift) (sound : Sound swift loop) :
    Counted swift units loop where
  ordered word member := by
    unfold plbWords at member
    simp only [List.mem_append, List.mem_cons, List.mem_map] at member
    rcases member with ((rfl | ⟨event, queued, rfl⟩) | ⟨response, queued, rfl⟩) | ⟨flow, among, rfl⟩
    · exact sound.connection.ordered
    · exact (sound.events event queued).2.2.ordered
    · exact (sound.responses response queued).2.ordered
    · refine (sound.flows flow ?_).ordered
      rintro rfl
      simp at among
  untruncated event rest now label response after queued processed := by
    have member : event ∈ loop.events := queued ▸ List.mem_cons_self
    have effect := Swift.process_effect (bna_of_several (sound.events event member).1) processed
    exact counters_after fits sound member effect
  stored response rest flowLabel connection queued done := by
    have member : response ∈ loop.responses := queued ▸ List.mem_cons_self
    exact (Swift.update_updated done).plb (sound.responses response member).1

/-! ## Counters and histories -/

/-- At most one event or response of flow 0 is on its way, and the last state of PLB of each path
has the numbers of its history. -/
structure Followed (swift : Swift) (loop : RueLoop) : Prop where
  single : loop.events.countP (·.flowId = 0) + loop.responses.countP (·.flowId = 0) ≤ 1
  idle : loop.outstanding 0 = false →
    Follows (counters (swift.plbField loop.connection.congestionControlMetadata)) (loop.history 0)
  events : ∀ event ∈ loop.events, event.flowId = 0 →
    Follows (counters (swift.getPlbStateFromEvent event)) (loop.history 0)
  responses : ∀ response ∈ loop.responses, response.flowId = 0 →
    Follows (counters response.plbState) (loop.history 0)
  flows : ∀ flow, flow ≠ 0 →
    Follows (counters (loop.state.perFlowStates flow).plbState) (loop.history flow)

theorem followed_initial (enabled : swift.parameters.randomizePath = true)
    (initial : Initial swift loop) : Followed swift loop := by
  obtain ⟨flowFcwnd, state⟩ := initial.state
  refine ⟨by simp [initial.events, initial.responses], fun _ => ?_, ?_, ?_, fun flow _ => ?_⟩
  · rw [initial.plb enabled, initial.history, counters_zero]
    exact follows_empty
  · simp [initial.events]
  · simp [initial.responses]
  · rw [state, initial.history]
    exact counters_zero ▸ follows_empty

theorem outstanding_eq_false {flowId : BitVec flowIdBits} :
    loop.outstanding flowId = false ↔ loop.events.countP (·.flowId = flowId) = 0 ∧
      loop.responses.countP (·.flowId = flowId) = 0 := by
  simp [outstanding, List.countP_eq_zero]

section
variable {event : SwiftEvent} {response : SwiftResponse} {after : RueConnectionState}

theorem history_after_other {flow : Fin 4} (other : flow ≠ event.flowId.toFin) :
    swift.historyAfter loop.history event loop.state response flow = loop.history flow := by
  unfold Swift.historyAfter
  cases swift.report event loop.state with
  | none => rfl
  | some report => exact Function.update_of_ne other _ _

theorem follows_found (followed : Followed swift loop) (queued : event ∈ loop.events) :
    Follows (counters (swift.flowState event loop.state).plbState)
      (loop.history event.flowId.toFin) := by
  unfold Swift.flowState
  by_cases first : event.flowId = 0
  · rw [if_pos first]
    have follows := followed.events event queued first
    rw [first]
    exact follows
  · rw [if_neg first]
    exact followed.flows _ (to_fin_ne_zero first)

theorem follows_after (fits : PlbFits swift) (sound : Sound swift loop)
    (followed : Followed swift loop) (queued : event ∈ loop.events)
    (effect : swift.Effect event loop.state response after) :
    Follows (counters (Swift.plbAfter event response after))
      (swift.historyAfter loop.history event loop.state response event.flowId.toFin) := by
  have found := follows_found followed queued
  have counted := counters_after fits sound queued effect
  have rerouted := reroutes_after fits sound queued effect
  unfold Swift.historyAfter
  cases reported : swift.report event loop.state with
  | none =>
    rw [reported] at counted
    dsimp only at counted ⊢
    rw [counted]
    exact found
  | some report =>
    rw [reported] at counted rerouted
    dsimp only at counted rerouted ⊢
    rw [Function.update_self, counted, rerouted]
    exact step_follows found

/-- The counters of a path decide on a reroute as its history does. -/
theorem reroutes_iff_due (fits : PlbFits swift) (sound : Sound swift loop)
    (followed : Followed swift loop) (queued : event ∈ loop.events)
    (effect : swift.Effect event loop.state response after) :
    swift.reroutes response = true ↔ ∃ report, swift.report event loop.state = some report ∧
      (loop.history event.flowId.toFin).Due report swift.congestedRound
        swift.parameters.plbAttemptThreshold := by
  rw [reroutes_after fits sound queued effect]
  cases reported : swift.report event loop.state with
  | none => simp
  | some report =>
    simp only [Option.some.injEq, exists_eq_left']
    exact step_decides (follows_found followed queued)

end

theorem followed_fill {event : SwiftEvent}
    (filled : swift.Filled loop.connection.congestionControlMetadata event)
    (free : loop.outstanding event.flowId = false) (followed : Followed swift loop) :
    Followed swift { loop with events := loop.events ++ [event] } := by
  obtain ⟨noEvent, noResponse⟩ := outstanding_eq_false.1 free
  refine ⟨?_, ?_, ?_, followed.responses, followed.flows⟩
  · dsimp only
    rw [List.countP_append]
    by_cases first : event.flowId = 0
    · rw [first] at noEvent noResponse
      rw [noEvent, noResponse]
      simp [first]
    · rw [List.countP_singleton, if_neg (by simpa using first)]
      exact followed.single
  · intro idle
    obtain ⟨noFirst, noAnswer⟩ := outstanding_eq_false.1 idle
    rw [List.countP_append] at noFirst
    exact followed.idle (outstanding_eq_false.2 ⟨by omega, noAnswer⟩)
  · intro queued member first
    rcases List.mem_append.1 member with before | new
    · exact followed.events queued before first
    · obtain rfl := List.mem_singleton.1 new
      rw [filled.plb]
      rw [first] at free
      exact followed.idle free

theorem followed_process (fits : PlbFits swift) (sound : Sound swift loop)
    (followed : Followed swift loop) {event : SwiftEvent} {rest : List SwiftEvent}
    {response : SwiftResponse} {after : RueConnectionState} (queued : loop.events = event :: rest)
    (effect : swift.Effect event loop.state response after) :
    Followed swift { loop with
      state := after
      events := rest
      responses := loop.responses ++ [response]
      history := swift.historyAfter loop.history event loop.state response } := by
  have member : event ∈ loop.events := queued ▸ List.mem_cons_self
  have follows := follows_after fits sound followed member effect
  have single := followed.single
  rw [queued, List.countP_cons] at single
  refine ⟨?_, ?_, ?_, ?_, ?_⟩
  · dsimp only
    rw [List.countP_append, List.countP_singleton, effect.flowId]
    omega
  · intro idle
    obtain ⟨noEvent, noResponse⟩ := outstanding_eq_false.1 idle
    dsimp only at noEvent noResponse ⊢
    rw [List.countP_append, List.countP_singleton, effect.flowId] at noResponse
    have other : event.flowId ≠ 0 := by
      intro first
      simp [first] at noResponse
    rw [history_after_other fun zero => to_fin_ne_zero other zero.symm]
    refine followed.idle (outstanding_eq_false.2 ⟨?_, by omega⟩)
    rw [queued, List.countP_cons_of_neg (by simpa using other)]
    exact noEvent
  · intro waiting among first
    have other : event.flowId ≠ 0 := by
      intro zero
      have counted : 0 < rest.countP (·.flowId = 0) :=
        List.countP_pos_iff.2 ⟨waiting, among, decide_eq_true first⟩
      rw [if_pos (decide_eq_true zero)] at single
      omega
    dsimp only
    rw [history_after_other fun zero => to_fin_ne_zero other zero.symm]
    exact followed.events waiting (queued ▸ List.mem_cons_of_mem _ among) first
  · intro answer among first
    dsimp only
    rcases List.mem_append.1 among with before | new
    · have other : event.flowId ≠ 0 := by
        intro zero
        have counted : 0 < loop.responses.countP (·.flowId = 0) :=
          List.countP_pos_iff.2 ⟨answer, before, decide_eq_true first⟩
        rw [if_pos (decide_eq_true zero)] at single
        omega
      rw [history_after_other fun zero => to_fin_ne_zero other zero.symm]
      exact followed.responses answer before first
    · obtain rfl := List.mem_singleton.1 new
      rw [effect.flowId] at first
      rw [Swift.plbAfter, if_pos first, first] at follows
      exact follows
  · intro flow other
    dsimp only
    by_cases here : flow = event.flowId.toFin
    · have elsewhere : event.flowId ≠ 0 := by
        intro zero
        rw [here, zero] at other
        exact other rfl
      rw [Swift.plbAfter, if_neg elsewhere] at follows
      rw [here]
      exact follows
    · rw [history_after_other here, (effect.others flow here).2]
      exact followed.flows flow other

theorem followed_update (sound : Sound swift loop) (followed : Followed swift loop)
    {response : SwiftResponse} {rest : List SwiftResponse} {connection : ConnectionState}
    (queued : loop.responses = response :: rest)
    (updated : swift.Updated loop.connection.congestionControlMetadata
      connection.congestionControlMetadata response)
    (current : response.flowId ≠ 0 →
      response.plbState = swift.plbField loop.connection.congestionControlMetadata) :
    Followed swift { loop with connection, responses := rest } := by
  have member : response ∈ loop.responses := queued ▸ List.mem_cons_self
  have stored := updated.plb (sound.responses response member).1
  have single := followed.single
  rw [queued, List.countP_cons] at single
  refine ⟨by dsimp only; omega, ?_, followed.events, ?_, followed.flows⟩
  · intro idle
    obtain ⟨noEvent, noResponse⟩ := outstanding_eq_false.1 idle
    dsimp only at noEvent noResponse ⊢
    rw [stored]
    by_cases first : response.flowId = 0
    · exact followed.responses response member first
    · rw [current first]
      refine followed.idle (outstanding_eq_false.2 ⟨noEvent, ?_⟩)
      rw [queued, List.countP_cons_of_neg (by simpa using first)]
      exact noResponse
  · intro answer among first
    exact followed.responses answer (queued ▸ List.mem_cons_of_mem _ among) first

theorem step_of_current (taken : CurrentStep swift units scid loop next) :
    Step swift units scid loop next := by
  obtain ⟨action, -, done⟩ := taken
  exact ⟨action, done⟩

/-- While nothing older is written back, the counters follow the histories. -/
theorem reachable_followed (fits : PlbFits swift) (enabled : swift.parameters.randomizePath = true)
    (reached : Runs.Reachable (Initial swift) (CurrentStep swift units scid) loop) :
    Sound swift loop ∧ Followed swift loop := by
  refine @Runs.invariant_of_reachable _ _ _ (fun loop => Sound swift loop ∧ Followed swift loop)
    ?_ ?_ _ reached
  · intro first initial
    exact ⟨sound_initial enabled initial, followed_initial enabled initial⟩
  · rintro before after ⟨sound, followed⟩ taken
    refine ⟨sound_step fits enabled sound (step_of_current taken), ?_⟩
    obtain ⟨action, current, done⟩ := taken
    cases action with
    | fill packet call =>
      obtain ⟨event, built, free, rfl⟩ := perform_fill done
      exact followed_fill (Swift.fill_filled built) free followed
    | process now label =>
      obtain ⟨event, rest, response, state, queued, processed, rfl⟩ := perform_process done
      have member : event ∈ before.events := queued ▸ List.mem_cons_self
      have kind := (sound.events event member).1
      exact followed_process fits sound followed queued
        (Swift.process_effect (bna_of_several kind) processed)
    | update flowLabel =>
      obtain ⟨response, rest, connection, queued, changed, rfl⟩ := perform_update done
      have same : response.flowId ≠ 0 → response.plbState =
          swift.plbField before.connection.congestionControlMetadata :=
        current response (by rw [queued]; rfl)
      exact followed_update sound followed queued (Swift.update_updated changed) same

/-! ## Connections of one path -/

/-- What is on its way belongs to the connection: if that has one path, to flow 0. -/
structure Paths (swift : Swift) (loop : RueLoop) : Prop where
  events : ∀ event ∈ loop.events,
    event.multipathEnable = swift.several loop.connection.congestionControlMetadata
  responses : ∀ response ∈ loop.responses, response.flowId ≠ 0 →
    swift.several loop.connection.congestionControlMetadata = true

theorem paths_step (paths : Paths swift loop) (taken : Step swift units scid loop next) :
    Paths swift next ∧ swift.several next.connection.congestionControlMetadata =
      swift.several loop.connection.congestionControlMetadata := by
  obtain ⟨action, done⟩ := taken
  cases action with
  | fill packet call =>
    obtain ⟨event, built, -, rfl⟩ := perform_fill done
    have filled := Swift.fill_filled built
    refine ⟨⟨?_, paths.responses⟩, rfl⟩
    intro queued member
    rcases List.mem_append.1 member with before | new
    · exact paths.events queued before
    · obtain rfl := List.mem_singleton.1 new
      exact filled.multipathEnable
  | process now label =>
    obtain ⟨event, rest, response, after, queued, processed, rfl⟩ := perform_process done
    have kind := paths.events event (queued ▸ List.mem_cons_self)
    have effect := Swift.process_effect (bna_of_several kind) processed
    refine ⟨⟨fun other among => paths.events other (queued ▸ List.mem_cons_of_mem _ among), ?_⟩,
      rfl⟩
    intro answer among other
    rcases List.mem_append.1 among with before | new
    · exact paths.responses answer before other
    · obtain rfl := List.mem_singleton.1 new
      rw [effect.flowId] at other
      exact kind.symm.trans (several_of_flow other)
  | update flowLabel =>
    obtain ⟨response, rest, connection, queued, changed, rfl⟩ := perform_update done
    have same := (Swift.update_updated changed).several
    refine ⟨⟨fun event among => (paths.events event among).trans same.symm, ?_⟩, same⟩
    intro answer among other
    exact same.trans (paths.responses answer (queued ▸ List.mem_cons_of_mem _ among) other)

theorem paths_initial (initial : Initial swift loop) : Paths swift loop :=
  ⟨by simp [initial.events], by simp [initial.responses]⟩

theorem reachable_paths (reached : Runs.Reachable (Initial swift) (Step swift units scid) loop) :
    Paths swift loop := by
  refine Runs.invariant_of_reachable ?_ ?_ reached
  · intro first initial
    exact paths_initial initial
  · intro before after paths taken
    exact (paths_step paths taken).1

/-- If the connection has one path, nothing older is ever written back. -/
theorem current_of_single (paths : Paths swift loop)
    (single : swift.several loop.connection.congestionControlMetadata = false)
    (taken : Step swift units scid loop next) : CurrentStep swift units scid loop next := by
  obtain ⟨action, done⟩ := taken
  refine ⟨action, ?_, done⟩
  cases action with
  | fill packet call => exact trivial
  | process now label => exact trivial
  | update flowLabel =>
    intro response first other
    have several := paths.responses response (List.mem_of_mem_head? first) other
    rw [single] at several
    exact absurd several nofun

/-! ## Main results -/

theorem reachable_of_current
    (reached : Runs.Reachable (Initial swift) (CurrentStep swift units scid) loop) :
    Runs.Reachable (Initial swift) (Step swift units scid) loop := by
  obtain ⟨first, initial, path⟩ := reached
  exact ⟨first, initial, Relation.ReflTransGen.mono (fun _ _ => step_of_current) _ _ path⟩

theorem reroutes_when_due (fits : PlbFits swift)
    (reached : Runs.Reachable (Initial swift) (CurrentStep swift units scid) loop) :
    ReroutesWhenDue swift loop := by
  intro event rest now label response after queued processed
  have member : event ∈ loop.events := queued ▸ List.mem_cons_self
  have kind := (reachable_paths (reachable_of_current reached)).events event member
  have effect := Swift.process_effect (bna_of_several kind) processed
  cases enabled : swift.parameters.randomizePath with
  | true =>
    obtain ⟨sound, followed⟩ := reachable_followed fits enabled reached
    exact reroutes_iff_due fits sound followed member effect
  | false =>
    obtain ⟨plb, answered, -, rerouted⟩ := effect.plb
    have disabled : swift.report event loop.state = none := by simp [Swift.report, enabled]
    rcases answered with ⟨-, rfl⟩ | ⟨-, on, -⟩
    · rw [rerouted (by rw [enabled]; nofun)]
      simp [disabled]
    · rw [enabled] at on
      exact absurd on nofun

/-- In every run the state of PLB stays within its fields and no more packets count as congested
than as acknowledged. In every run without a response that writes an older state of flow 0 back, a
reroute is requested exactly if the configured number of consecutive congested rounds is reached. -/
theorem plb_sound_while_current {config : SwiftConfiguration} {format : Format}
    {parameters : SwiftParameters}
    (accepted : config.convertProfileToParameters format = .ok parameters)
    (units : TimeUnits) (scid : BitVec 32) :
    (parameters.randomizePath = true → ∀ loop,
      Runs.Reachable (Initial ⟨format, parameters⟩) (Step ⟨format, parameters⟩ units scid) loop →
        Counted ⟨format, parameters⟩ units loop) ∧
    ∀ loop, Runs.Reachable (Initial ⟨format, parameters⟩)
        (CurrentStep ⟨format, parameters⟩ units scid) loop →
      ReroutesWhenDue ⟨format, parameters⟩ loop := by
  have fits := plb_fits accepted
  refine ⟨fun enabled loop reached => ?_, fun loop reached => reroutes_when_due fits reached⟩
  exact counted_of_sound fits (reachable_sound fits enabled reached)

/-- A connection of one path asks for another exactly when it is due in every run. -/
theorem single_path_reroutes_when_due (fits : PlbFits swift)
    (reached : Runs.Reachable (fun first => Initial swift first ∧
      swift.several first.connection.congestionControlMetadata = false)
      (Step swift units scid) loop) : ReroutesWhenDue swift loop := by
  obtain ⟨first, ⟨initial, single⟩, path⟩ := reached
  have current : Runs.Reachable (Initial swift) (CurrentStep swift units scid) loop ∧
      swift.several loop.connection.congestionControlMetadata = false := by
    induction path with
    | refl => exact ⟨Runs.reachable_initial initial, single⟩
    | tail _ taken ih =>
      obtain ⟨reached, one⟩ := ih
      have paths := reachable_paths (reachable_of_current reached)
      exact ⟨Runs.reachable_step reached (current_of_single paths one taken),
        (paths_step paths taken).2.trans one⟩
  exact reroutes_when_due fits current.1

/-! ## A state that is written back -/

/-- A configuration with PLB, which leaves a path after two congested rounds. -/
def twoRounds : SwiftConfiguration where
  maxFabricCongestionWindow := 1024
  minFabricCongestionWindow := 1 / 64
  fabricAdditiveIncrementFactor := 1
  fabricMultiplicativeDecreaseFactor := 1 / 2
  maxFabricMultiplicativeDecrease := 1 / 2
  maxDecreaseOnEackNackDrop := false
  fabricBaseDelay := 191
  maxNicCongestionWindow := 1024
  minNicCongestionWindow := 1
  nicAdditiveIncrementFactor := 1
  nicMultiplicativeDecreaseFactor := 1 / 2
  maxNicMultiplicativeDecrease := 1 / 2
  targetRxBufferLevel := 15
  rttSmoothingAlpha := 3 / 4
  delaySmoothingAlpha := 0
  topoScalingPerHop := 8
  minRetransmitTimeout := 7629
  retransmitTimeoutScalar := 2
  retransmitLimit := 3
  minFlowScalingWindow := 1
  maxFlowScalingWindow := 256
  maxFlowScaling := 763
  calcRttSmooth := false
  ipgTimeScalar := 1 / 4
  ipgBits := 16
  randomizePath := true
  plbTargetRttMultiplier := 1
  plbCongestionThreshold := 1 / 2
  plbAttemptThreshold := 2

def twoRoundsParameters : SwiftParameters :=
  { twoRounds with
    flowScalingAlpha := 7158846907674351 / 8796093022208
    flowScalingBeta := -7158846907674351 / 281474976710656 }

theorem two_rounds_accepted (format : Format) :
    twoRounds.convertProfileToParameters format = .ok twoRoundsParameters := by
  cases format <;> decide +kernel

/-- One unit of time is a nanosecond. -/
def nanosecondUnits : TimeUnits where
  nanosecondsPerFalconTimeUnit := 1
  nanosecondsPerTimingWheelUnit := 1
  nanoseconds value := ⌊value * 4⌋

theorem plb_sound_two_rounds :
    (∀ loop, Runs.Reachable (Initial ⟨.bna, twoRoundsParameters⟩)
      (Step ⟨.bna, twoRoundsParameters⟩ nanosecondUnits 0) loop →
        Counted ⟨.bna, twoRoundsParameters⟩ nanosecondUnits loop) ∧
    ∀ loop, Runs.Reachable (Initial ⟨.bna, twoRoundsParameters⟩)
        (CurrentStep ⟨.bna, twoRoundsParameters⟩ nanosecondUnits 0) loop →
      ReroutesWhenDue ⟨.bna, twoRoundsParameters⟩ loop :=
  have both := plb_sound_while_current (two_rounds_accepted .bna) nanosecondUnits 0
  ⟨both.1 (by decide), both.2⟩

/-- A connection of four paths, with windows of 32 packets each. -/
def fourPaths : RueLoop where
  connection := {
    congestionControlMetadata := {
      flowLabel := 0
      fabricCongestionWindow := 128 * 1024
      interPacketGap := 0
      nicCongestionWindow := 64
      retransmitTimeout := 0
      ccMetadata := 0
      fabricWindowTimeMarker := 0
      nicWindowTimeMarker := 0
      nicWindowDirection := .decrease
      delaySelect := .full
      baseDelay := 0
      delayState := 0
      rttState := 0
      ccOpaque := 0
      gen2PlbState := 0
      gen2FlowWeights := [1, 1, 1, 1]
      gen2FlowLabels := [0, 1, 2, 3] }
    alphaRequest := 0
    alphaResponse := 0 }
  state := .initial (32 * 1024)

/-- An ACK on a path for 40 packets, with a round trip of 5000 ns. -/
def lateAck (flowLabel : BitVec flowLabelBits) : RueAction :=
  let feedback : Feedback := ⟨0, 0, 0, 1, 0, 0⟩
  .fill ⟨.ack, flowLabel, 0, 20000, feedback, feedback, .notANack⟩ (.explicitAck 40 false false)

/-- Path 0 is left after its second congested round, and the response for path 1 brings back the
count of the first. -/
def writtenBack : List RueAction :=
  [lateAck 0, .process 6000 0, .update 0, lateAck 0, lateAck 1, .process 12000 0,
    .process 12000 0, .update 0, .update 0, lateAck 0]

/-- The next response asks for another path although it is not due. -/
def reroutesEarly (swift : Swift) (loop : RueLoop) : Bool :=
  match loop.events with
  | [] => false
  | event :: _ =>
    match swift.process event loop.state 18000 0, swift.report event loop.state with
    | .ok (response, _), some _ => swift.reroutes response &&
        streak (loop.history event.flowId.toFin).rounds + 1 < swift.parameters.plbAttemptThreshold
    | _, _ => false

theorem not_when_due_of_early (early : reroutesEarly swift loop = true) :
    ¬ ReroutesWhenDue swift loop := by
  intro timely
  unfold reroutesEarly at early
  split at early
  · exact absurd early nofun
  · rename_i event rest queued
    split at early
    · rename_i response after _ processed reported
      obtain ⟨rerouted, few⟩ := (Bool.and_eq_true _ _ ▸ early : _ ∧ _)
      obtain ⟨same, found, due⟩ := (timely event rest _ _ response after queued processed).1 rerouted
      have below := of_decide_eq_true few
      have reached := due.2.2
      omega
    · exact absurd early nofun

/-- The path of flow 0 is left again after one more congested round instead of two. -/
theorem written_back_reroutes_early : ∃ loop,
    Runs.Reachable (Initial ⟨.bna, twoRoundsParameters⟩)
      (Step ⟨.bna, twoRoundsParameters⟩ nanosecondUnits 0) loop ∧
    ¬ ReroutesWhenDue ⟨.bna, twoRoundsParameters⟩ loop := by
  have started : Initial ⟨.bna, twoRoundsParameters⟩ fourPaths :=
    ⟨fun _ => rfl, rfl, ⟨_, rfl⟩, rfl, rfl, rfl⟩
  have tested : (Runs.execute (perform ⟨.bna, twoRoundsParameters⟩ nanosecondUnits 0) writtenBack
      fourPaths).any (reroutesEarly ⟨.bna, twoRoundsParameters⟩) = true := by decide +kernel
  have taken (loop : RueLoop) (action : RueAction) (next : RueLoop)
      (done : loop.perform ⟨.bna, twoRoundsParameters⟩ nanosecondUnits 0 action = some next) :
      Step ⟨.bna, twoRoundsParameters⟩ nanosecondUnits 0 loop next := ⟨action, done⟩
  obtain ⟨loop, reached, early⟩ := Runs.reached_with taken started tested
  exact ⟨loop, reached, not_when_due_of_early early⟩

end RueLoop

end Isekai.RateUpdate
