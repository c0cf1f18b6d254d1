import Isekai.SwiftGuard
import Isekai.SwiftPlbProofs
import Isekai.TimeGuard

/-! The guards of `rue::Swift` against decreasing a window twice in one round trip. A marker always
stands for a time from the last decrease on, since it is set to the present by a decrease and only
moves forward otherwise, so that the clock may wrap any number of times. That a decrease is not held
back longer needs round trips of at most half a period, markers that are not refreshed otherwise,
and updates of the window that follow each other within half a period. -/

namespace Isekai.RateUpdate
open TimeGuard

variable {rtt time : ℕ} {window : GuardedWindow}

/-! ## Decreases that the guard lets pass -/

namespace Swift
variable {swift : Swift} {event : SwiftEvent} {state next : RueConnectionState}
  {response : SwiftResponse} {now : BitVec 32} {label : BitVec (flowLabelBits - flowIdBits)}
  {update : WindowUpdate}

theorem fabric_open (done : swift.fabricUpdate event state now = .ok update)
    (wanted : update.wanted = true) (passes : update.Open (roundTrip event) now) :
    update.next = update.reduced := by
  unfold fabricUpdate at done
  unfold WindowUpdate.Open roundTrip at passes
  cases type : event.eventType
  case retransmit =>
    simp only [type, Except.ok.injEq] at done passes
    subst done
    dsimp only at wanted passes ⊢
    unfold computeTimeoutFabricCongestionWindow
    rw [if_pos passes]
    by_cases first : event.retransmitCount = 1
    · rw [if_pos first, if_pos first]
    · have often : swift.parameters.retransmitLimit ≤ event.retransmitCount := by
        simpa [first] using wanted
      rw [if_neg first, if_neg first, if_pos often]
  all_goals
    simp only [type] at done passes
    obtain ⟨targetDelay, -, rfl⟩ := map_eq_ok.1 done
    dsimp only at wanted passes ⊢
    unfold fabricCongestionWindow
    by_cases most : swift.useMaxFabricDecrease event = true
    · rw [if_pos most, if_pos most, computeNackFabricCongestionWindow, if_pos passes]
    · have late : ¬ swift.flowDelay event < targetDelay := by simpa [most] using wanted
      rw [if_neg most, if_neg most]
      unfold computeAckFabricCongestionWindow
      dsimp only
      rw [if_neg late, if_pos passes]

theorem round_trip_feedback (feedback : event.eventType ≠ .retransmit) :
    roundTrip event = event.packetTiming.rtt := by
  unfold roundTrip
  split
  · exact absurd ‹_› feedback
  · rfl

theorem nic_open (done : swift.nicUpdate event now = some update)
    (wanted : update.wanted = true) (passes : update.Open (roundTrip event) now) :
    update.next = update.reduced := by
  unfold nicUpdate at done
  split at done
  · exact absurd done nofun
  · rename_i feedback
    cases done
    unfold WindowUpdate.Open at passes
    rw [round_trip_feedback feedback] at passes
    dsimp only at wanted passes ⊢
    unfold nicCongestionWindow
    by_cases exhausted : event.eventType = .nack ∧ event.nackCode = .rxResourceExhaustion
    · rw [if_pos exhausted, if_pos (decide_eq_true exhausted), computeNackNicCongestionWindow,
        if_pos (.inr passes)]
    · have full : ¬ event.rxBufferLevel.toNat < swift.parameters.targetRxBufferLevel := by
        simpa [exhausted] using wanted
      rw [if_neg exhausted, if_neg (by simpa using exhausted)]
      unfold computeAckNicCongestionWindow
      dsimp only
      rw [if_neg full, if_pos passes]

/-- What an update of the fabric window of a flow is. -/
theorem update_fabric {flow : Fin 4} :
    swift.windowUpdate event state now (.fabric flow) = some update ↔
      flow = event.flowId.toFin ∧ swift.fabricUpdate event state now = .ok update := by
  rw [windowUpdate]
  by_cases here : flow = event.flowId.toFin
  · rw [if_pos here]
    exact ⟨fun found => ⟨here, toOption_eq_some.1 found⟩, fun found => toOption_eq_some.2 found.2⟩
  · rw [if_neg here]
    exact ⟨nofun, fun found => absurd found.1 here⟩

/-- A decrease that is wanted is taken if the guard lets it pass. -/
theorem taken_of_open (done : swift.windowUpdate event state now window = some update)
    (wanted : update.wanted = true) (passes : update.Open (roundTrip event) now) :
    update.next = update.reduced := by
  cases window with
  | fabric flow => exact fabric_open (update_fabric.1 done).2 wanted passes
  | nic => exact nic_open done wanted passes

/-! ## Decreases that have passed the guard -/

theorem le_clamp {value low high : ℚ} (within : value ≤ high) : value ≤ clamp value low high := by
  unfold clamp
  by_cases below : value < low
  · rw [if_pos below]
    exact below.le
  · rw [if_neg below, if_neg (not_lt.2 within)]

theorem fabric_passed (done : swift.fabricUpdate event state now = .ok update)
    (wanted : update.wanted = true) (decreases : update.Decreases)
    (within : update.last ≤ swift.parameters.maxFabricCongestionWindow) :
    update.Open (roundTrip event) now := by
  by_contra closed
  have kept : update.next = swift.clampFabric update.last := by
    unfold fabricUpdate at done
    unfold WindowUpdate.Open roundTrip at closed
    cases type : event.eventType
    case retransmit =>
      simp only [type, Except.ok.injEq] at done closed
      subst done
      dsimp only at closed ⊢
      unfold computeTimeoutFabricCongestionWindow
      rw [if_neg closed]
    all_goals
      simp only [type] at done closed
      obtain ⟨targetDelay, -, rfl⟩ := map_eq_ok.1 done
      dsimp only at wanted closed ⊢
      unfold fabricCongestionWindow
      by_cases most : swift.useMaxFabricDecrease event = true
      · rw [if_pos most, computeNackFabricCongestionWindow, if_neg closed]
      · have late : ¬ swift.flowDelay event < targetDelay := by simpa [most] using wanted
        rw [if_neg most]
        unfold computeAckFabricCongestionWindow
        dsimp only
        rw [if_neg late, if_neg closed]
  unfold WindowUpdate.Decreases at decreases
  rw [kept] at decreases
  exact absurd (le_clamp within) (not_le.2 decreases)

theorem nic_passed (done : swift.nicUpdate event now = some update)
    (wanted : update.wanted = true) (decreases : update.Decreases)
    (within : update.last ≤ swift.parameters.maxNicCongestionWindow)
    (guarded : ¬ swift.unguarded event .nic) : update.Open (roundTrip event) now := by
  by_contra closed
  have kept : update.next = swift.clampNic update.last := by
    unfold nicUpdate at done
    split at done
    · exact absurd done nofun
    · rename_i feedback
      cases done
      unfold WindowUpdate.Open at closed
      rw [round_trip_feedback feedback] at closed
      dsimp only at wanted closed ⊢
      unfold nicCongestionWindow
      by_cases exhausted : event.eventType = .nack ∧ event.nackCode = .rxResourceExhaustion
      · have shut : ¬ ((swift.format = .dna ∧ event.nicWindowDirection = .increase) ∨
            event.packetTiming.rtt ≤
              getWindowDelta now (event.nicWindowTimeMarker.setWidth 32)) := by
          rintro (⟨dna, increased⟩ | passes)
          · exact guarded ⟨dna, exhausted.1, exhausted.2, increased⟩
          · exact closed passes
        rw [if_pos exhausted, computeNackNicCongestionWindow, if_neg shut]
      · have full : ¬ event.rxBufferLevel.toNat < swift.parameters.targetRxBufferLevel := by
          simpa [exhausted] using wanted
        rw [if_neg exhausted]
        unfold computeAckNicCongestionWindow
        dsimp only
        rw [if_neg full, if_neg closed]
  unfold WindowUpdate.Decreases at decreases
  rw [kept] at decreases
  exact absurd (le_clamp within) (not_le.2 decreases)

/-- A guarded decrease has passed the guard. -/
theorem open_of_guarded (done : swift.windowUpdate event state now window = some update)
    (guarded : Guarded swift event window update) : update.Open (roundTrip event) now := by
  cases window with
  | fabric flow =>
    exact fabric_passed (update_fabric.1 done).2 guarded.wanted guarded.decreases guarded.within
  | nic => exact nic_passed done guarded.wanted guarded.decreases guarded.within guarded.guarded

/-! ## Markers -/

/-- What processing an event does to the time markers of its path and of the NIC window. -/
structure Marked (swift : Swift) (event : SwiftEvent) (state : RueConnectionState)
    (now : BitVec 32) (response : SwiftResponse) (next : RueConnectionState) : Prop where
  fabric : ∃ update, swift.fabricUpdate event state now = .ok update ∧
    (if event.flowId = 0 then response.fabricWindowTimeMarker
      else (next.perFlowStates event.flowId.toFin).fcwndTimeMarker) =
        update.markerAfter now (swift.markerRtt event state)
  reflected : event.flowId ≠ 0 →
    response.fabricWindowTimeMarker = event.fabricWindowTimeMarker.setWidth 32
  nic : response.nicWindowTimeMarker = match swift.nicUpdate event now with
    | some update => update.markerAfter now (swift.markerRtt event state)
    | none => event.nicWindowTimeMarker.setWidth 32
  others : ∀ flow, flow ≠ event.flowId.toFin → next.perFlowStates flow = state.perFlowStates flow

theorem marker_rtt_feedback (swift : Swift) (state : RueConnectionState)
    (feedback : event.eventType ≠ .retransmit) :
    swift.markerRtt event state = if swift.parameters.calcRttSmooth then
      getSmoothed swift.parameters.rttSmoothingAlpha (swift.flowState event state).rttState
        event.packetTiming.rtt
    else event.packetTiming.rtt := by
  unfold markerRtt
  dsimp only
  split
  · exact absurd ‹_› feedback
  · rfl

theorem nic_guard_marker (done : swift.nicUpdate event now = some update) :
    (swift.getNicWindowGuardInfo event now rtt update.last update.next).timeMarker =
      update.markerAfter now rtt := by
  unfold nicUpdate at done
  split at done
  · exact absurd done nofun
  · cases done
    unfold getNicWindowGuardInfo WindowUpdate.markerAfter
    dsimp only
    generalize swift.nicCongestionWindow event _ _ _ = next
    generalize swift.getFloatNcwndFromEvent event = last
    by_cases lower : next < last ∨ next = swift.parameters.minNicCongestionWindow
    · rw [if_pos (decide_eq_true (.inl lower))]
      cases swift.format with
      | dna => exact congrArg NicWindowGuardInfo.timeMarker (if_pos lower)
      | bna => exact if_pos lower
    · cases swift.format with
      | dna =>
        dsimp only
        rw [RateUpdate.getNicWindowGuardInfo, if_neg lower]
        by_cases upper : last < next ∨ next = swift.parameters.maxNicCongestionWindow
        · rw [if_pos upper, if_pos (decide_eq_true (.inr ⟨rfl, upper⟩))]
        · have idle : ¬ ((next < last ∨ next = swift.parameters.minNicCongestionWindow) ∨
              Format.dna = .dna ∧
                (last < next ∨ next = swift.parameters.maxNicCongestionWindow)) := by tauto
          rw [if_neg upper, if_neg (mt of_decide_eq_true idle)]
          split <;> rfl
      | bna =>
        have idle : ¬ ((next < last ∨ next = swift.parameters.minNicCongestionWindow) ∨
            Format.bna = .dna ∧
              (last < next ∨ next = swift.parameters.maxNicCongestionWindow)) := by
          rintro (below | ⟨dna, -⟩)
          · exact lower below
          · exact absurd dna nofun
        rw [if_neg (mt of_decide_eq_true idle)]
        exact if_neg lower

theorem fabric_guard_marker {marker : BitVec 32} {last next reduced min : ℚ} {wanted : Bool} :
    getFabricWindowTimeMarker now marker rtt last next min = WindowUpdate.markerAfter
      ⟨marker, last, next, wanted, reduced, next < last ∨ next = min⟩ now rtt := by
  unfold getFabricWindowTimeMarker WindowUpdate.markerAfter
  by_cases lower : next < last ∨ next = min
  · rw [if_pos lower, if_pos (decide_eq_true lower)]
  · rw [if_neg lower, if_neg (mt of_decide_eq_true lower)]

theorem nic_marked (feedback : event.eventType ≠ .retransmit)
    (trails : swift.markerRtt event state = rtt) :
    (swift.getNicWindowGuardInfo event now rtt (swift.getFloatNcwndFromEvent event)
      (swift.nicCongestionWindow event (swift.getFloatNcwndFromEvent event)
        (getWindowDelta now (event.nicWindowTimeMarker.setWidth 32)) event.packetTiming)).timeMarker =
      match swift.nicUpdate event now with
      | some update => update.markerAfter now (swift.markerRtt event state)
      | none => event.nicWindowTimeMarker.setWidth 32 := by
  rw [trails]
  cases found : swift.nicUpdate event now with
  | none =>
    unfold nicUpdate at found
    split at found
    · exact absurd ‹_› feedback
    · exact absurd found nofun
  | some update =>
    dsimp only
    rw [← nic_guard_marker found]
    unfold nicUpdate at found
    split at found
    · exact absurd ‹_› feedback
    · cases found
      rfl

theorem fabric_update_feedback (now : BitVec 32) (feedback : event.eventType ≠ .retransmit) {targetDelay : ℕ}
    (target : swift.getTargetDelay (flowWindow event state) event.forwardHops.toNat =
      .ok targetDelay) :
    ∃ update, swift.fabricUpdate event state now = .ok update ∧ ∀ rtt,
      update.markerAfter now rtt = getFabricWindowTimeMarker now
        (swift.flowState event state).fcwndTimeMarker rtt (flowWindow event state)
        (swift.fabricCongestionWindow event (flowWindow event state) (swift.flowDelay event)
          targetDelay event.packetTiming
          (getWindowDelta now (swift.flowState event state).fcwndTimeMarker))
        swift.parameters.minFabricCongestionWindow := by
  unfold fabricUpdate
  dsimp only
  split
  · exact absurd ‹_› feedback
  · rw [target]
    exact ⟨_, rfl, fun _ => fabric_guard_marker.symm⟩

theorem fabric_update_retransmit (swift : Swift) (state : RueConnectionState) (now : BitVec 32)
    (retransmit : event.eventType = .retransmit) :
    ∃ update, swift.fabricUpdate event state now = .ok update ∧ ∀ rtt,
      update.markerAfter now rtt = getFabricWindowTimeMarker now
        (swift.flowState event state).fcwndTimeMarker rtt (flowWindow event state)
        (swift.computeTimeoutFabricCongestionWindow event event.rttState.toNat
          (flowWindow event state)
          (getWindowDelta now (swift.flowState event state).fcwndTimeMarker))
        swift.parameters.minFabricCongestionWindow := by
  unfold fabricUpdate
  rw [retransmit]
  exact ⟨_, rfl, fun _ => fabric_guard_marker.symm⟩

theorem nic_update_retransmit (retransmit : event.eventType = .retransmit) :
    swift.nicUpdate event now = none := by
  unfold nicUpdate
  rw [retransmit]

theorem marked_ack_nack (single : event.multipathEnable = false)
    (feedback : event.eventType ≠ .retransmit)
    (done : swift.processAckNack event now label = .ok response) :
    Marked swift event state now response state := by
  have first := flow_id_single single
  have trails := marker_rtt_feedback swift state feedback
  have window : flowWindow event state =
      fixedToFloat event.fabricCongestionWindow.toNat fractionalBits := by
    simp [flowWindow, single]
  have delay : swift.flowDelay event = getSmoothed swift.parameters.delaySmoothingAlpha
      event.delayState.toNat event.packetTiming.delay := by
    simp [flowDelay, single]
  have found : swift.flowState event state =
      ⟨event.fabricWindowTimeMarker.setWidth 32, swift.getPlbStateFromEvent event,
        event.rttState.toNat⟩ := if_pos first
  simp only [processAckNack, bind_eq_ok] at done
  obtain ⟨targetDelay, target, fabricGap, -, nicGap, -, timeout, -, made⟩ := done
  cases made
  rw [← window] at target
  obtain ⟨update, computed, marker⟩ := fabric_update_feedback now feedback target
  rw [found] at trails
  refine ⟨⟨update, computed, ?_⟩, absurd first, nic_marked feedback trails, fun _ _ => rfl⟩
  rw [if_pos first, marker, window, delay, found, trails]

theorem marked_retransmit (single : event.multipathEnable = false)
    (retransmit : event.eventType = .retransmit)
    (done : swift.processRetransmit event now = .ok response) :
    Marked swift event state now response state := by
  have first := flow_id_single single
  have window : flowWindow event state =
      fixedToFloat event.fabricCongestionWindow.toNat fractionalBits := by
    simp [flowWindow, single]
  have found : swift.flowState event state =
      ⟨event.fabricWindowTimeMarker.setWidth 32, swift.getPlbStateFromEvent event,
        event.rttState.toNat⟩ := if_pos first
  have trails : swift.markerRtt event state = event.rttState.toNat := by
    simp [markerRtt, retransmit, found]
  simp only [processRetransmit, bind_eq_ok] at done
  obtain ⟨nicGap, -, fabricGap, -, timeout, -, made⟩ := done
  cases made
  obtain ⟨update, computed, marker⟩ := fabric_update_retransmit swift state now retransmit
  refine ⟨⟨update, computed, ?_⟩, absurd first, ?_, fun _ _ => rfl⟩
  · rw [if_pos first, marker, window, found, trails]
  · rw [nic_update_retransmit retransmit]

theorem marker_after_write_back {fcwnd : ℕ} {flow : RuePerFlowState} {marker : BitVec 32}
    (first : event.flowId = 0 → marker = flow.fcwndTimeMarker) :
    (if event.flowId = 0 then marker
      else ((writeBack event state fcwnd flow).perFlowStates event.flowId.toFin).fcwndTimeMarker) =
      flow.fcwndTimeMarker := by
  unfold writeBack
  by_cases zero : event.flowId = 0
  · rw [if_pos zero, first zero]
  · dsimp only
    rw [if_neg zero, if_neg zero, Function.update_self]

theorem marked_ack_nack_multipath (several : event.multipathEnable)
    (feedback : event.eventType ≠ .retransmit)
    (done : swift.processAckNackMultipath event state now label = .ok (response, next)) :
    Marked swift event state now response next := by
  have trails := marker_rtt_feedback swift state feedback
  have window : flowWindow event state =
      fixedToFloat (state.fcwnd event.flowId.toFin) fractionalBits := by
    simp [flowWindow, several]
  have delay : swift.flowDelay event = event.packetTiming.delay := by
    simp [flowDelay, several]
  simp only [processAckNackMultipath, bind_eq_ok] at done
  obtain ⟨targetDelay, target, fabricGap, -, nicGap, -, timeout, -, made⟩ := done
  cases made
  rw [← window] at target
  obtain ⟨update, computed, marker⟩ := fabric_update_feedback now feedback target
  refine ⟨⟨update, computed, ?_⟩, fun other => if_neg other, nic_marked feedback trails,
    fun _ elsewhere => (write_back_other elsewhere).2⟩
  rw [marker, window, delay, trails]
  exact marker_after_write_back fun first => if_pos first

theorem marked_retransmit_multipath (several : event.multipathEnable)
    (retransmit : event.eventType = .retransmit)
    (done : swift.processRetransmitMultipath event state now = .ok (response, next)) :
    Marked swift event state now response next := by
  have window : flowWindow event state =
      fixedToFloat (state.fcwnd event.flowId.toFin) fractionalBits := by
    simp [flowWindow, several]
  have trails : swift.markerRtt event state = (swift.flowState event state).rttState := by
    simp [markerRtt, retransmit]
  simp only [processRetransmitMultipath, bind_eq_ok] at done
  obtain ⟨fabricGap, -, nicGap, -, timeout, -, made⟩ := done
  cases made
  obtain ⟨update, computed, marker⟩ := fabric_update_retransmit swift state now retransmit
  refine ⟨⟨update, computed, ?_⟩, fun other => if_neg other, ?_,
    fun _ elsewhere => (write_back_other elsewhere).2⟩
  · rw [marker, window, trails]
    exact marker_after_write_back fun first => if_pos first
  · rw [nic_update_retransmit retransmit]

theorem process_marked (done : swift.process event state now label = .ok (response, next)) :
    Marked swift event state now response next := by
  unfold process at done
  cases several : event.multipathEnable <;> cases type : event.eventType <;>
    simp only [several, type] at done
  case false.retransmit =>
    obtain ⟨_, answered, same⟩ := map_eq_ok.1 done
    cases same
    exact marked_retransmit several type answered
  case true.retransmit => exact marked_retransmit_multipath several type done
  case true.ack | true.nack =>
    exact marked_ack_nack_multipath several (by rw [type]; nofun) done
  all_goals
    obtain ⟨_, answered, same⟩ := map_eq_ok.1 done
    cases same
    exact marked_ack_nack several (by rw [type]; nofun) answered

/-! ## Updates of windows -/

theorem fabric_update_marker (done : swift.fabricUpdate event state now = .ok update) :
    update.marker = (swift.flowState event state).fcwndTimeMarker := by
  unfold fabricUpdate at done
  dsimp only at done
  split at done
  · cases done
    rfl
  · obtain ⟨_, _, rfl⟩ := map_eq_ok.1 done
    rfl

theorem nic_update_marker (done : swift.nicUpdate event now = some update) :
    update.marker = event.nicWindowTimeMarker.setWidth 32 := by
  unfold nicUpdate at done
  split at done
  · exact absurd done nofun
  · cases done
    rfl

theorem fabric_refreshes (done : swift.fabricUpdate event state now = .ok update)
    (decreases : update.Decreases) : update.refreshes = true := by
  unfold fabricUpdate at done
  dsimp only at done
  split at done
  · cases done
    exact decide_eq_true (.inl decreases)
  · obtain ⟨_, _, rfl⟩ := map_eq_ok.1 done
    exact decide_eq_true (.inl decreases)

theorem nic_refreshes (done : swift.nicUpdate event now = some update)
    (decreases : update.Decreases) : update.refreshes = true := by
  unfold nicUpdate at done
  split at done
  · exact absurd done nofun
  · cases done
    exact decide_eq_true (.inl (.inl decreases))

/-- A decrease sets the marker to the present. -/
theorem refreshes_of_decreases (done : swift.windowUpdate event state now window = some update)
    (decreases : update.Decreases) : update.refreshes = true := by
  cases window with
  | fabric flow => exact fabric_refreshes (update_fabric.1 done).2 decreases
  | nic => exact nic_refreshes done decreases

end Swift

/-! ## The clock -/

theorem marks_of_shown {left right : BitVec 32}
    (shown : left.setWidth timeBits = right.setWidth timeBits) :
    (left.toNat : ℤ) ≡ right.toNat [ZMOD 2 ^ 24] := by
  have same := congrArg BitVec.toNat shown
  simp only [BitVec.toNat_setWidth] at same
  have modulo : left.toNat % 2 ^ 24 = right.toNat % 2 ^ 24 := same
  unfold Int.ModEq
  omega

theorem marks_of_clock {now : BitVec 32}
    (clock : now.setWidth timeBits = BitVec.ofNat timeBits time) :
    (now.toNat : ℤ) ≡ time [ZMOD 2 ^ 24] := by
  have same := congrArg BitVec.toNat clock
  simp only [BitVec.toNat_setWidth, BitVec.toNat_ofNat] at same
  have modulo : now.toNat % 2 ^ 24 = time % 2 ^ 24 := same
  unfold Int.ModEq
  omega

theorem marks_of_trailing {now : BitVec 32} :
    ((trailing now rtt).toNat : ℤ) ≡ now.toNat - rtt [ZMOD 2 ^ 24] := by
  have shown : (trailing now rtt).toNat = (2 ^ 32 - rtt % 2 ^ 32 + now.toNat) % 2 ^ 32 % 2 ^ 24 := by
    unfold trailing
    rw [BitVec.toNat_setWidth, BitVec.toNat_setWidth, BitVec.toNat_sub, BitVec.toNat_ofNat]
    exact Nat.mod_eq_of_lt (lt_of_lt_of_le (Nat.mod_lt _ (by decide)) (by decide))
  rw [shown]
  unfold Int.ModEq
  omega

/-- What a guard sees is the age of its marker. -/
theorem delta_eq_age {now marker : BitVec 32} {time : ℕ}
    (clock : now.setWidth timeBits = BitVec.ofNat timeBits time) :
    (getWindowDelta now marker : ℤ) = age (2 ^ 24) time marker.toNat := by
  have delta : getWindowDelta now marker =
      (2 ^ 32 - marker.toNat + now.toNat) % 2 ^ 32 % 2 ^ 24 := by
    unfold getWindowDelta
    rw [BitVec.toNat_setWidth, BitVec.toNat_sub]
  have marks := marks_of_clock clock
  have small := marker.isLt
  unfold Int.ModEq at marks
  unfold age
  omega

/-! ## Markers in sequences of events -/

namespace Guards
variable {swift : Swift} {guards next : Guards} {event : SwiftEvent} {time : ℕ} {now : BitVec 32}
  {label : BitVec (flowLabelBits - flowIdBits)} {response : SwiftResponse}
  {state : RueConnectionState} {window : GuardedWindow} {update : WindowUpdate}

/-- The time marker of a window. -/
def marker (guards : Guards) : GuardedWindow → BitVec 32
  | .fabric flow => if flow = 0 then guards.fabricMarker.setWidth 32
      else (guards.state.perFlowStates flow).fcwndTimeMarker
  | .nic => guards.nicMarker.setWidth 32

theorem to_fin_eq_zero {flowId : BitVec flowIdBits} : flowId.toFin = 0 ↔ flowId = 0 :=
  ⟨fun zero => BitVec.toFin_inj.1 zero, fun zero => by rw [zero]; rfl⟩

/-- An event finds the marker of the window. -/
theorem marker_found (carried : Carried guards event)
    (found : swift.windowUpdate event guards.state now window = some update) :
    update.marker = guards.marker window := by
  cases window with
  | fabric flow =>
    obtain ⟨rfl, computed⟩ := Swift.update_fabric.1 found
    rw [Swift.fabric_update_marker computed]
    unfold Swift.flowState marker
    dsimp only
    by_cases first : event.flowId = 0
    · rw [if_pos first, if_pos (to_fin_eq_zero.2 first), carried.fabric]
    · rw [if_neg first, if_neg (mt to_fin_eq_zero.1 first)]
  | nic =>
    rw [Swift.nic_update_marker found, carried.nic]
    rfl

theorem set_width_twice {word : BitVec 32} :
    ((word.setWidth timeBits).setWidth 32).setWidth timeBits = word.setWidth timeBits := by
  refine BitVec.eq_of_toNat_eq ?_
  have small : word.toNat % 2 ^ 24 % 2 ^ 32 % 2 ^ 24 = word.toNat % 2 ^ 24 := by omega
  simpa only [BitVec.toNat_setWidth] using small

/-- What an update leaves as the marker, as far as the clock shows it. -/
theorem marker_updated (time : ℕ)
    (done : swift.process event guards.state now label = .ok (response, state))
    (found : swift.windowUpdate event guards.state now window = some update) :
    ((guards.after swift event time now response state).marker window).setWidth timeBits =
      (update.markerAfter now (swift.markerRtt event guards.state)).setWidth timeBits := by
  have marked := Swift.process_marked done
  cases window with
  | fabric flow =>
    obtain ⟨rfl, computed⟩ := Swift.update_fabric.1 found
    obtain ⟨same, again, kept⟩ := marked.fabric
    cases computed.symm.trans again
    rw [← kept]
    unfold marker after
    dsimp only
    by_cases first : event.flowId = 0
    · rw [if_pos first, if_pos (to_fin_eq_zero.2 first)]
      exact set_width_twice
    · rw [if_neg first, if_neg (mt to_fin_eq_zero.1 first)]
  | nic =>
    have nic : swift.nicUpdate event now = some update := found
    have kept := marked.nic
    rw [nic] at kept
    dsimp only at kept
    rw [← kept]
    exact set_width_twice

theorem marker_kept (time : ℕ) (carried : Carried guards event)
    (done : swift.process event guards.state now label = .ok (response, state))
    (none : swift.windowUpdate event guards.state now window = none) :
    ((guards.after swift event time now response state).marker window).setWidth timeBits =
      (guards.marker window).setWidth timeBits := by
  have marked := Swift.process_marked done
  cases window with
  | fabric flow =>
    have elsewhere : flow ≠ event.flowId.toFin := by
      rintro rfl
      obtain ⟨update, computed, -⟩ := marked.fabric
      exact absurd (Swift.update_fabric.2 ⟨rfl, computed⟩) (by rw [none]; nofun)
    unfold marker after
    dsimp only
    by_cases first : flow = 0
    · have other : event.flowId ≠ 0 := fun zero => elsewhere (first.trans (to_fin_eq_zero.2 zero).symm)
      rw [if_pos first, if_pos first, marked.reflected other, carried.fabric]
      exact set_width_twice
    · rw [if_neg first, if_neg first, marked.others flow elsewhere]
  | nic =>
    have nic : swift.nicUpdate event now = Option.none := none
    have kept := marked.nic
    rw [nic, carried.nic] at kept
    unfold marker after
    dsimp only
    rw [kept]
    exact set_width_twice

/-! ## Decreases are apart -/

/-- Each marker stands for a time since the last decrease of its window. -/
def Past (guards : Guards) : Prop :=
  ∀ window time, guards.decreased window = some time →
    Since (2 ^ 24) (guards.marker window).toNat guards.time time

theorem past_initial (initial : Initial guards) : guards.Past := by
  intro window time decreased
  rw [initial.decreased] at decreased
  exact absurd decreased nofun

/-- A marker that stands for a time since some time still does after an update. -/
theorem since_updated {marker : BitVec 32} {floor last : ℕ} (later : last ≤ time)
    (clock : now.setWidth timeBits = BitVec.ofNat timeBits time)
    (at_marker : update.marker = marker) (since : Since (2 ^ 24) marker.toNat last floor) :
    Since (2 ^ 24) (update.markerAfter now rtt).toNat time floor := by
  have marks := marks_of_clock clock
  have shown := @delta_eq_age now marker time clock
  have present : (last : ℤ) ≤ time := by exact_mod_cast later
  unfold WindowUpdate.markerAfter
  rw [at_marker]
  by_cases refreshes : update.refreshes = true
  · obtain ⟨_, _, after, before⟩ := since
    rw [if_pos refreshes]
    exact since_now marks (le_trans (le_trans after before) present)
  · rw [if_neg refreshes]
    by_cases old : rtt < getWindowDelta now marker
    · rw [if_pos old]
      have trails := marks_of_trailing.trans (Int.ModEq.sub marks (Int.ModEq.refl (rtt : ℤ)))
      exact since_trailing (by decide) since present (Int.natCast_nonneg rtt) (by omega) trails
    · rw [if_neg old]
      exact since_later since present

theorem past_step (past : guards.Past) (taken : Step swift guards next) : next.Past := by
  obtain ⟨event, time, now, label, response, state, carried, clocked, done, rfl⟩ := taken
  intro window instant decreased
  unfold after at decreased
  dsimp only at decreased
  cases found : swift.windowUpdate event guards.state now window with
  | none =>
    rw [found] at decreased
    exact since_congr (marks_of_shown (marker_kept time carried done found))
      (since_later (past window instant decreased) (by exact_mod_cast clocked.later))
  | some update =>
    have same := marks_of_shown (marker_updated time done found)
    rw [found] at decreased
    dsimp only at decreased
    refine since_congr same ?_
    by_cases decreases : update.Decreases
    · rw [if_pos decreases] at decreased
      cases decreased
      have refreshes := Swift.refreshes_of_decreases found decreases
      rw [WindowUpdate.markerAfter, if_pos refreshes]
      exact since_now (marks_of_clock clocked.shown) le_rfl
    · rw [if_neg decreases] at decreased
      exact since_updated clocked.later clocked.shown (marker_found carried found)
        (past window instant decreased)

theorem reachable_past (reached : Runs.Reachable Initial (Step swift) guards) : guards.Past := by
  refine Runs.invariant_of_reachable ?_ ?_ reached
  · exact fun _ initial => past_initial initial
  · exact fun _ _ past taken => past_step past taken

/-- A guarded decrease is a round trip after the last decrease. -/
theorem apart_of_guarded (past : guards.Past) (carried : Carried guards event)
    (clocked : Clocked guards time now)
    (found : swift.windowUpdate event guards.state now window = some update)
    (guarded : swift.Guarded event window update) {earlier : ℕ}
    (decreased : guards.decreased window = some earlier) :
    earlier + Swift.roundTrip event ≤ time := by
  have passes := Swift.open_of_guarded found guarded
  have shown := @delta_eq_age now (guards.marker window) time clocked.shown
  unfold WindowUpdate.Open at passes
  rw [marker_found carried found] at passes
  have later : (guards.time : ℤ) ≤ time := by exact_mod_cast clocked.later
  have allowed : (Swift.roundTrip event : ℤ) ≤
      age (2 ^ 24) time (guards.marker window).toNat := by omega
  have apart := apart_of_allowed (by decide) (past window earlier decreased) later allowed
  exact_mod_cast apart

/-! ## Decreases are not held back -/

/-- Each marker that has been set to the present is tight since its last update. -/
def Fresh (guards : Guards) (rtt : ℕ) : Prop :=
  ∀ window time, guards.refreshed window = some time →
    ∃ last, guards.updated window = some last ∧ last ≤ guards.time ∧
      Tight (2 ^ 24) rtt (guards.marker window).toNat last time

theorem fresh_initial (initial : Initial guards) : guards.Fresh rtt := by
  intro window time refreshed
  rw [initial.refreshed] at refreshed
  exact absurd refreshed nofun

/-- A tight marker that is not set to the present is tight after an update. -/
theorem tight_updated {marker : BitVec 32} {base last : ℕ} (later : last ≤ time)
    (soon : time < last + 2 ^ 23) (fits : rtt ≤ 2 ^ 23)
    (clock : now.setWidth timeBits = BitVec.ofNat timeBits time)
    (at_marker : update.marker = marker) (tight : Tight (2 ^ 24) rtt marker.toNat last base)
    (quiet : update.refreshes ≠ true) :
    Tight (2 ^ 24) rtt (update.markerAfter now rtt).toNat time base := by
  have marks := marks_of_clock clock
  have shown := @delta_eq_age now marker time clock
  unfold WindowUpdate.markerAfter
  rw [at_marker, if_neg quiet]
  by_cases old : rtt < getWindowDelta now marker
  · rw [if_pos old]
    have trails := marks_of_trailing.trans (Int.ModEq.sub marks (Int.ModEq.refl (rtt : ℤ)))
    exact tight_trailing (Int.natCast_nonneg rtt) trails
  · rw [if_neg old]
    have young : age (2 ^ 24) time marker.toNat ≤ rtt := by omega
    have gap : (time : ℤ) < last + 2 ^ 23 := by exact_mod_cast soon
    exact tight_kept tight (by exact_mod_cast later) gap (by omega) young

theorem fresh_step (fits : rtt ≤ 2 ^ 23) (fresh : guards.Fresh rtt)
    (taken : SteadyStep swift rtt guards next) : next.Fresh rtt := by
  obtain ⟨event, time, now, label, response, state, carried, clocked, steady, done, rfl⟩ := taken
  intro window instant refreshed
  unfold after at refreshed ⊢
  dsimp only at refreshed ⊢
  cases found : swift.windowUpdate event guards.state now window with
  | none =>
    rw [found] at refreshed
    obtain ⟨last, updated, before, tight⟩ := fresh window instant refreshed
    have same := marks_of_shown (marker_kept time carried done found)
    exact ⟨last, updated, before.trans clocked.later, tight_congr same tight⟩
  | some update =>
    have same := marks_of_shown (marker_updated time done found)
    rw [found] at refreshed
    dsimp only at refreshed
    refine ⟨time, rfl, le_rfl, tight_congr same ?_⟩
    rw [steady.markerRtt]
    by_cases refreshes : update.refreshes = true
    · rw [if_pos refreshes] at refreshed
      cases refreshed
      rw [WindowUpdate.markerAfter, if_pos refreshes]
      exact tight_now (Int.natCast_nonneg rtt) (marks_of_clock clocked.shown)
    · rw [if_neg refreshes] at refreshed
      obtain ⟨last, updated, before, tight⟩ := fresh window instant refreshed
      have soon := steady.soon window update found last updated
      exact tight_updated (before.trans clocked.later) soon fits clocked.shown
        (marker_found carried found) tight refreshes

theorem reachable_fresh (fits : rtt ≤ 2 ^ 23)
    (reached : Runs.Reachable Initial (SteadyStep swift rtt) guards) : guards.Fresh rtt := by
  refine @Runs.invariant_of_reachable _ _ _ (fun guards => guards.Fresh rtt) ?_ ?_ _ reached
  · exact fun _ initial => fresh_initial initial
  · exact fun _ _ fresh taken => fresh_step fits fresh taken

/-- A round trip after its marker has been set to the present the guard of a window is open. -/
theorem open_of_fresh (fits : rtt ≤ 2 ^ 23) (fresh : guards.Fresh rtt)
    (carried : Carried guards event) (clocked : Clocked guards time now)
    (steady : Steady swift guards rtt event time now)
    (found : swift.windowUpdate event guards.state now window = some update) {earlier : ℕ}
    (refreshed : guards.refreshed window = some earlier) (due : earlier + rtt ≤ time) :
    update.Open rtt now := by
  obtain ⟨last, updated, before, tight⟩ := fresh window earlier refreshed
  have shown := @delta_eq_age now (guards.marker window) time clocked.shown
  have later : (last : ℤ) ≤ time := by exact_mod_cast before.trans clocked.later
  have gap : (time : ℤ) < last + 2 ^ 23 := by
    exact_mod_cast steady.soon window update found last updated
  have allowed := allowed_of_tight tight later gap (by omega) (by exact_mod_cast due)
  unfold WindowUpdate.Open
  rw [marker_found carried found]
  omega

end Guards

/-! ## A connection in real time -/

namespace GuardedLoop
variable {swift : Swift} {units : TimeUnits} {scid : BitVec 32} {guarded next : GuardedLoop}
  {event : SwiftEvent}

/-- An action changes the guards only by processing an event. -/
theorem perform_guards {timed : ℕ × RueAction}
    (done : guarded.perform swift units scid timed = some next) :
    guarded.loop.perform swift units scid timed.2 = some next.loop ∧
      guarded.Timely timed.1 timed.2 ∧ next.guards = guarded.observe swift timed.1 timed.2 := by
  unfold perform at done
  by_cases timely : guarded.Timely timed.1 timed.2
  · rw [if_pos timely] at done
    obtain ⟨loop, performed, rfl⟩ := Option.map_eq_some_iff.1 done
    exact ⟨performed, timely, rfl⟩
  · rw [if_neg timely] at done
    exact absurd done nofun

theorem perform_process {now : BitVec 32} {label : BitVec (flowLabelBits - flowIdBits)}
    (done : guarded.perform swift units scid (time, .process now label) = some next) :
    ∃ event rest response state, guarded.loop.events = event :: rest ∧
      guarded.guards.Clocked time now ∧
      swift.process event guarded.loop.state now label = .ok (response, state) ∧
      next.guards = guarded.guards.after swift event time now response state ∧
      next.loop = { guarded.loop with
        state
        events := rest
        responses := guarded.loop.responses ++ [response]
        history := swift.historyAfter guarded.loop.history event guarded.loop.state response } := by
  obtain ⟨performed, timely, observed⟩ := perform_guards done
  obtain ⟨event, rest, response, state, queued, processed, same⟩ :=
    RueLoop.perform_process performed
  refine ⟨event, rest, response, state, queued, timely, processed, ?_, same⟩
  rw [observed]
  simp only [observe, queued, processed]

theorem perform_other {action : RueAction}
    (done : guarded.perform swift units scid (time, action) = some next)
    (other : ∀ now label, action ≠ .process now label) :
    guarded.loop.perform swift units scid action = some next.loop ∧
      next.guards = guarded.guards := by
  obtain ⟨performed, -, observed⟩ := perform_guards done
  refine ⟨performed, observed.trans ?_⟩
  cases action with
  | process now label => exact absurd rfl (other now label)
  | fill | update => rfl

/-- The guards see the state that the algorithm keeps. -/
theorem state_step (same : guarded.guards.state = guarded.loop.state) {timed : ℕ × RueAction}
    (done : guarded.perform swift units scid timed = some next) :
    next.guards.state = next.loop.state := by
  obtain ⟨time, action⟩ := timed
  cases action with
  | fill packet call =>
    obtain ⟨performed, kept⟩ := perform_other done nofun
    obtain ⟨event, -, -, moved⟩ := RueLoop.perform_fill performed
    rw [kept, moved]
    exact same
  | process now label =>
    obtain ⟨event, rest, response, state, -, -, -, made, moved⟩ := perform_process done
    rw [made, moved]
    rfl
  | update flowLabel =>
    obtain ⟨performed, kept⟩ := perform_other done nofun
    obtain ⟨response, rest, connection, -, -, moved⟩ := RueLoop.perform_update performed
    rw [kept, moved]
    exact same

/-- What the guards take part in is a sequence of events. -/
theorem guards_step (same : guarded.guards.state = guarded.loop.state)
    (taken : CurrentStep swift units scid guarded next) :
    next.guards = guarded.guards ∨ Guards.Step swift guarded.guards next.guards := by
  obtain ⟨⟨time, action⟩, current, done⟩ := taken
  cases action with
  | fill packet call => exact .inl (perform_other done nofun).2
  | process now label =>
    obtain ⟨event, rest, response, state, queued, clocked, processed, made, -⟩ :=
      perform_process done
    have carried : guarded.guards.Carried event := current event (by rw [queued]; rfl)
    rw [← same] at processed
    exact .inr ⟨event, time, now, label, response, state, carried, clocked, processed, made⟩
  | update flowLabel => exact .inl (perform_other done nofun).2

theorem guards_steady_step (same : guarded.guards.state = guarded.loop.state)
    (taken : SteadyStep swift units scid rtt guarded next) :
    next.guards = guarded.guards ∨ Guards.SteadyStep swift rtt guarded.guards next.guards := by
  obtain ⟨⟨time, action⟩, current, steady, done⟩ := taken
  cases action with
  | fill packet call => exact .inl (perform_other done nofun).2
  | process now label =>
    obtain ⟨event, rest, response, state, queued, clocked, processed, made, -⟩ :=
      perform_process done
    have carried : guarded.guards.Carried event := current event (by rw [queued]; rfl)
    have regular : guarded.guards.Steady swift rtt event time now :=
      steady event (by rw [queued]; rfl)
    rw [← same] at processed
    exact .inr ⟨event, time, now, label, response, state, carried, clocked, regular, processed,
      made⟩
  | update flowLabel => exact .inl (perform_other done nofun).2

theorem reachable_guards
    (reached : Runs.Reachable (Initial swift) (CurrentStep swift units scid) guarded) :
    Runs.Reachable Guards.Initial (Guards.Step swift) guarded.guards ∧
      guarded.guards.state = guarded.loop.state := by
  refine @Runs.invariant_of_reachable _ _ _ (fun guarded =>
    Runs.Reachable Guards.Initial (Guards.Step swift) guarded.guards ∧
      guarded.guards.state = guarded.loop.state) ?_ ?_ _ reached
  · intro first initial
    exact ⟨Runs.reachable_initial initial.guards, initial.state⟩
  · rintro before after ⟨known, same⟩ taken
    refine ⟨?_, state_step same taken.choose_spec.2⟩
    rcases guards_step same taken with kept | stepped
    · rw [kept]
      exact known
    · exact Runs.reachable_step known stepped

theorem reachable_steady_guards
    (reached : Runs.Reachable (Initial swift) (SteadyStep swift units scid rtt) guarded) :
    Runs.Reachable Guards.Initial (Guards.SteadyStep swift rtt) guarded.guards ∧
      guarded.guards.state = guarded.loop.state := by
  refine @Runs.invariant_of_reachable _ _ _ (fun guarded =>
    Runs.Reachable Guards.Initial (Guards.SteadyStep swift rtt) guarded.guards ∧
      guarded.guards.state = guarded.loop.state) ?_ ?_ _ reached
  · intro first initial
    exact ⟨Runs.reachable_initial initial.guards, initial.state⟩
  · rintro before after ⟨known, same⟩ taken
    refine ⟨?_, state_step same taken.choose_spec.2.2⟩
    rcases guards_steady_step same taken with kept | stepped
    · rw [kept]
      exact known
    · exact Runs.reachable_step known stepped

/-! ## Connections of one path -/

/-- Where the markers of the last response are, in a connection of one path: at most one event or
response is on its way. -/
inductive Single (guarded : GuardedLoop) : Prop where
  | idle (events : guarded.loop.events = []) (responses : guarded.loop.responses = [])
      (fabric : guarded.guards.fabricMarker =
        guarded.loop.connection.congestionControlMetadata.fabricWindowTimeMarker)
      (nic : guarded.guards.nicMarker =
        guarded.loop.connection.congestionControlMetadata.nicWindowTimeMarker)
  | waiting (event : SwiftEvent) (events : guarded.loop.events = [event])
      (responses : guarded.loop.responses = []) (carried : guarded.guards.Carried event)
  | answered (response : SwiftResponse) (events : guarded.loop.events = [])
      (responses : guarded.loop.responses = [response])
      (fabric : guarded.guards.fabricMarker = response.fabricWindowTimeMarker.setWidth timeBits)
      (nic : guarded.guards.nicMarker = response.nicWindowTimeMarker.setWidth timeBits)

theorem fill_markers {packet : Packet} {metadata : CongestionControlMetadata} {call : FillCall}
    (done : swift.fill units scid packet metadata call = .ok event) :
    event.fabricWindowTimeMarker = metadata.fabricWindowTimeMarker ∧
      event.nicWindowTimeMarker = metadata.nicWindowTimeMarker := by
  cases format : swift.format with
  | dna =>
    simp only [Swift.fill, format, map_eq_ok, FillCall.fillDna_eq, bind_eq_ok, fillEventDna] at done
    obtain ⟨_, ⟨details, -, gap, -, timeout, -, built⟩, rfl⟩ := done
    cases built
    exact ⟨rfl, rfl⟩
  | bna =>
    simp only [Swift.fill, format, map_eq_ok, FillCall.fillBna_eq] at done
    obtain ⟨_, ⟨details, -, rfl⟩, rfl⟩ := done
    exact ⟨rfl, rfl⟩

theorem update_markers {flowLabel : BitVec flowLabelBits} {before after : ConnectionState}
    {response : SwiftResponse}
    (done : swift.update units flowLabel before response = .ok after) :
    after.congestionControlMetadata.fabricWindowTimeMarker =
        response.fabricWindowTimeMarker.setWidth timeBits ∧
      after.congestionControlMetadata.nicWindowTimeMarker =
        response.nicWindowTimeMarker.setWidth timeBits := by
  cases format : swift.format with
  | dna =>
    simp only [Swift.update, format] at done
    cases done
    exact ⟨rfl, rfl⟩
  | bna =>
    simp only [Swift.update, format, updateConnectionStateFromResponseBna, bind_eq_ok] at done
    obtain ⟨flows, -, built⟩ := done
    cases built
    exact ⟨rfl, rfl⟩

/-- What is on its way takes flow 0. -/
theorem flow_zero_of_single (paths : RueLoop.Paths swift guarded.loop)
    (single : swift.several guarded.loop.connection.congestionControlMetadata = false) :
    (∀ event ∈ guarded.loop.events, event.flowId = 0) ∧
      ∀ response ∈ guarded.loop.responses, response.flowId = 0 := by
  refine ⟨fun event among => ?_, fun response among => ?_⟩
  · exact Swift.flow_id_single ((paths.events event among).trans single)
  · by_contra other
    have several := paths.responses response among other
    rw [single] at several
    exact absurd several nofun

theorem single_step (paths : RueLoop.Paths swift guarded.loop)
    (one : swift.several guarded.loop.connection.congestionControlMetadata = false)
    (single : Single guarded) (taken : Step swift units scid guarded next) : Single next := by
  obtain ⟨⟨time, action⟩, done⟩ := taken
  cases action with
  | fill packet call =>
    obtain ⟨performed, kept⟩ := perform_other done nofun
    obtain ⟨event, built, free, moved⟩ := RueLoop.perform_fill performed
    have own : event.flowId = 0 :=
      Swift.flow_id_single ((Swift.fill_filled built).multipathEnable.trans one)
    have none := RueLoop.outstanding_eq_false.1 free
    have flows := flow_zero_of_single paths one
    have markers := fill_markers built
    cases single with
    | idle events responses fabric nic =>
      refine .waiting event (by rw [moved, events]; rfl) (by rw [moved, responses]) ?_
      rw [kept]
      exact ⟨markers.1.trans fabric.symm, markers.2.trans nic.symm⟩
    | waiting other events responses carried =>
      have among : other ∈ guarded.loop.events := by simp [events]
      have same := decide_eq_true ((flows.1 other among).trans own.symm)
      exact absurd same (List.countP_eq_zero.1 none.1 other among)
    | answered other events responses fabric nic =>
      have among : other ∈ guarded.loop.responses := by simp [responses]
      have same := decide_eq_true ((flows.2 other among).trans own.symm)
      exact absurd same (List.countP_eq_zero.1 none.2 other among)
  | process now label =>
    obtain ⟨event, rest, response, state, queued, -, -, made, moved⟩ := perform_process done
    cases single with
    | idle events responses fabric nic => simp [queued] at events
    | waiting other events responses carried =>
      obtain ⟨rfl, rfl⟩ := List.cons.inj (queued.symm.trans events)
      refine .answered response (by rw [moved]) (by rw [moved, responses]; rfl) ?_ ?_ <;>
        rw [made] <;> rfl
    | answered other events responses fabric nic => simp [queued] at events
  | update flowLabel =>
    obtain ⟨performed, kept⟩ := perform_other done nofun
    obtain ⟨response, rest, connection, queued, changed, moved⟩ :=
      RueLoop.perform_update performed
    have markers := update_markers changed
    cases single with
    | idle events responses fabric nic => simp [queued] at responses
    | waiting other events responses carried => simp [queued] at responses
    | answered other events responses fabric nic =>
      obtain ⟨rfl, rfl⟩ := List.cons.inj (queued.symm.trans responses)
      refine .idle (by rw [moved, events]) (by rw [moved]) ?_ ?_
      · rw [kept, moved]
        exact fabric.trans markers.1.symm
      · rw [kept, moved]
        exact nic.trans markers.2.symm

theorem loop_step (taken : Step swift units scid guarded next) :
    RueLoop.Step swift units scid guarded.loop next.loop := by
  obtain ⟨timed, done⟩ := taken
  exact ⟨timed.2, (perform_guards done).1⟩

/-- In a connection of one path every event carries the markers of the response before it. -/
theorem single_path_current
    (reached : Runs.Reachable (Initial swift) (Step swift units scid) guarded)
    (one : swift.several guarded.loop.connection.congestionControlMetadata = false)
    (taken : Step swift units scid guarded next) : CurrentStep swift units scid guarded next := by
  have known := @Runs.invariant_of_reachable _ _ _ (fun guarded =>
    RueLoop.Paths swift guarded.loop ∧
      (swift.several guarded.loop.connection.congestionControlMetadata = false →
        Single guarded)) ?_ ?_ _ reached
  · obtain ⟨timed, done⟩ := taken
    refine ⟨timed, ?_, done⟩
    obtain ⟨time, action⟩ := timed
    cases action with
    | fill | update => exact trivial
    | process now label =>
      intro event first
      cases known.2 one with
      | idle events _ _ _ | answered _ events _ _ _ => simp [events] at first
      | waiting other events _ carried =>
        rw [events] at first
        cases first
        exact carried
  · intro first initial
    refine ⟨RueLoop.paths_initial initial.loop, fun _ => ?_⟩
    exact .idle initial.loop.events initial.loop.responses initial.fabric initial.nic
  · rintro before after ⟨paths, single⟩ stepped
    obtain ⟨kept, same⟩ := RueLoop.paths_step paths (loop_step stepped)
    refine ⟨kept, fun still => ?_⟩
    exact single_step paths (same.symm.trans still) (single (same.symm.trans still)) stepped

/-! ## Main results -/

section
open RueLoop (twoRoundsParameters nanosecondUnits fourPaths)

instance (guarded : GuardedLoop) : (action : RueAction) → Decidable (guarded.Current action)
  | .process _ _ => inferInstanceAs
      (Decidable (∀ event ∈ guarded.loop.events.head?, guarded.guards.Carried event))
  | .fill _ _ | .update _ => .isTrue trivial

instance (rtt : ℕ) (guarded : GuardedLoop) (time : ℕ) : (action : RueAction) →
    Decidable (Close rtt guarded time action)
  | .process _ _ => inferInstanceAs (Decidable (time < guarded.guards.time + 2 ^ 23 ∧
      ∀ event ∈ guarded.loop.events.head?, Swift.roundTrip event = rtt))
  | .fill _ _ | .update _ => .isTrue trivial

/-- An action at a time, in a sequence of events that are close. -/
def performClose (swift : Swift) (rtt : ℕ) (guarded : GuardedLoop) (timed : ℕ × RueAction) :
    Option GuardedLoop :=
  if guarded.Current timed.2 ∧ Close rtt guarded timed.1 timed.2 then
    guarded.perform swift nanosecondUnits 0 timed
  else none

/-- What the next event does to a window at a time. -/
def nextUpdate (swift : Swift) (window : GuardedWindow) (time : ℕ) (guarded : GuardedLoop) :
    Option (SwiftEvent × WindowUpdate × ℕ) := do
  let event ← guarded.loop.events.head?
  let update ← swift.windowUpdate event guarded.loop.state (BitVec.ofNat 32 time) window
  let earlier ← guarded.guards.decreased window
  pure (event, update, earlier)

theorem next_update {earlier : ℕ} {update : WindowUpdate}
    (found : guarded.nextUpdate swift window time = some (event, update, earlier)) :
    (∃ rest, guarded.loop.events = event :: rest) ∧
      swift.windowUpdate event guarded.loop.state (BitVec.ofNat 32 time) window = some update ∧
      guarded.guards.decreased window = some earlier := by
  unfold nextUpdate at found
  simp only [Option.bind_eq_bind, Option.bind_eq_some_iff, Option.pure_def, Option.some.injEq,
    Prod.mk.injEq] at found
  obtain ⟨_, first, _, updated, _, decreased, rfl, rfl, rfl⟩ := found
  obtain ⟨rest, queued⟩ := List.head?_eq_some_iff.1 first
  exact ⟨⟨rest, queued⟩, updated, decreased⟩

/-- The next event is to decrease a window, at a time, and does not. -/
def holdsBack (swift : Swift) (rtt : ℕ) (window : GuardedWindow) (time : ℕ)
    (guarded : GuardedLoop) : Bool :=
  (guarded.nextUpdate swift window time).any fun (event, update, earlier) =>
    guarded.guards.Carried event ∧ guarded.guards.Clocked time (BitVec.ofNat 32 time) ∧
      time < guarded.guards.time + 2 ^ 23 ∧ Swift.roundTrip event = rtt ∧
      update.wanted = true ∧ earlier + rtt ≤ time ∧ update.last ≤ update.next ∧
      update.reduced < update.last

/-- The next event decreases a window early, at a time. -/
def repeats (swift : Swift) (window : GuardedWindow) (time : ℕ) (guarded : GuardedLoop) : Bool :=
  (guarded.nextUpdate swift window time).any fun (event, update, earlier) =>
    guarded.guards.Clocked time (BitVec.ofNat 32 time) ∧ update.wanted = true ∧
      update.Decreases ∧ update.last ≤ swift.maxWindow window ∧ swift.format = .bna ∧
      time < earlier + Swift.roundTrip event

theorem unguarded_dna (unguarded : swift.unguarded event window) : swift.format = .dna := by
  cases window with
  | fabric flow => exact absurd unguarded nofun
  | nic => exact unguarded.1

theorem held_back {rtt time : ℕ} {window : GuardedWindow} {first : GuardedLoop}
    {run : List (ℕ × RueAction)} (initial : Initial swift first)
    (tested : (Runs.execute (performClose swift rtt) run first).any
      (holdsBack swift rtt window time) = true) :
    HeldBack swift nanosecondUnits 0 rtt window := by
  have taken (guarded : GuardedLoop) (timed : ℕ × RueAction) (next : GuardedLoop)
      (done : performClose swift rtt guarded timed = some next) :
      CloseStep swift nanosecondUnits 0 rtt guarded next := by
    unfold performClose at done
    by_cases allowed : guarded.Current timed.2 ∧ Close rtt guarded timed.1 timed.2
    · rw [if_pos allowed] at done
      exact ⟨timed, allowed.1, allowed.2, done⟩
    · rw [if_neg allowed] at done
      exact absurd done nofun
  obtain ⟨guarded, reached, late⟩ := Runs.reached_with taken initial tested
  obtain ⟨⟨event, update, earlier⟩, found, holds⟩ := (Option.any_eq_true _ _).1 late
  obtain ⟨⟨rest, queued⟩, updated, decreased⟩ := next_update found
  obtain ⟨carried, clocked, close, steady, wanted, due, kept, lower⟩ := of_decide_eq_true holds
  exact ⟨guarded, event, rest, time, _, update, earlier, reached, queued, carried, clocked, close,
    steady, updated, wanted, decreased, due, kept, lower⟩

theorem repeated {time : ℕ} {window : GuardedWindow} {first : GuardedLoop}
    {run : List (ℕ × RueAction)} (initial : Initial swift first)
    (tested : (Runs.execute (perform swift nanosecondUnits 0) run first).any
      (repeats swift window time) = true) :
    Repeated swift nanosecondUnits 0 window := by
  have taken (guarded : GuardedLoop) (timed : ℕ × RueAction) (next : GuardedLoop)
      (done : guarded.perform swift nanosecondUnits 0 timed = some next) :
      Step swift nanosecondUnits 0 guarded next := ⟨timed, done⟩
  obtain ⟨guarded, reached, early⟩ := Runs.reached_with taken initial tested
  obtain ⟨⟨event, update, earlier⟩, found, holds⟩ := (Option.any_eq_true _ _).1 early
  obtain ⟨⟨rest, queued⟩, updated, decreased⟩ := next_update found
  obtain ⟨clocked, wanted, decreases, within, bna, soon⟩ := of_decide_eq_true holds
  refine ⟨guarded, event, rest, time, _, update, earlier, reached, queued, clocked, updated,
    ⟨wanted, decreases, within, fun unguarded => ?_⟩, decreased, soon⟩
  rw [unguarded_dna unguarded] at bna
  exact absurd bna nofun

/-- A connection with a path for each label, before an event at a time. -/
def connected (labels : List (BitVec 32)) (fabricCongestionWindow : BitVec 32)
    (rttState : BitVec timeBits) (time : ℕ) : GuardedLoop where
  loop := { fourPaths with
    connection.congestionControlMetadata := {
      fourPaths.connection.congestionControlMetadata with
      fabricCongestionWindow, rttState
      gen2FlowWeights := labels.map fun _ => 1
      gen2FlowLabels := labels } }
  guards := { fabricMarker := 0, nicMarker := 0, state := .initial (32 * 1024), time }

theorem connected_initial {labels : List (BitVec 32)} {fabricCongestionWindow : BitVec 32}
    {rttState : BitVec timeBits} :
    Initial swift (connected labels fabricCongestionWindow rttState time) := by
  refine ⟨⟨fun _ => ?_, rfl, ⟨_, rfl⟩, rfl, rfl, rfl⟩, ⟨rfl, rfl, rfl⟩, rfl, rfl, rfl⟩
  unfold Swift.plbField
  split <;> rfl

/-- A packet on a path with a level of the receive buffer, after a round trip of 900 ns. -/
def received (packetType : PacketType) (nackCode : NackCode) (rxBufferLevel : BitVec 5)
    (flowLabel : BitVec flowLabelBits) : Packet :=
  let feedback : Feedback := ⟨0, 0, 0, 1, rxBufferLevel, 0⟩
  ⟨packetType, flowLabel, 0, 3600, feedback, feedback, nackCode⟩

/-- An ACK of two packets. -/
def acknowledged (rxBufferLevel : BitVec 5) : RueAction :=
  .fill (received .ack .notANack rxBufferLevel 0) (.explicitAck 2 false false)

/-- A NACK for want of resources. -/
def exhausted (flowLabel : BitVec flowLabelBits) : RueAction :=
  .fill (received .nack .rxResourceExhaustion 0 flowLabel) (.nack 0)

/-- A timeout of a packet. -/
def timedOut (retransmitCount : BitVec 8) (flowLabel : BitVec flowLabelBits) : RueAction :=
  .fill (received .ack .notANack 0 flowLabel) (.timeoutRetransmitted retransmitCount)

/-- An event that is processed at a time and answered. -/
def answered (timed : ℕ × RueAction) : List (ℕ × RueAction) :=
  [timed, (timed.1, .process (BitVec.ofNat 32 timed.1) 0), (timed.1, .update 0)]

/-- In a connection of several paths a response can bring back an older marker of flow 0, and two
events can find the same marker of the NIC window. -/
theorem repeated_of_overlap :
    Repeated ⟨.bna, twoRoundsParameters⟩ nanosecondUnits 0 (.fabric 0) ∧
      Repeated ⟨.bna, twoRoundsParameters⟩ nanosecondUnits 0 .nic := by
  constructor
  · refine @repeated _ 10001 _ (connected [0, 1, 2, 3] (128 * 1024) 900 10000)
      [(10000, timedOut 1 0), (10000, timedOut 1 1), (10000, .process 10000 0),
        (10000, .process 10000 0), (10000, .update 0), (10000, .update 0), (10001, timedOut 1 0)]
      connected_initial ?_
    decide +kernel
  · refine @repeated _ 10001 _ (connected [0, 1, 2, 3] (128 * 1024) 900 10000)
      [(10000, exhausted 0), (10000, exhausted 1), (10000, .process 10000 0)] connected_initial ?_
    decide +kernel

/-- A DNA NIC window is not decreased within a round trip of an increase. -/
theorem held_back_after_increase :
    HeldBack ⟨.dna, twoRoundsParameters⟩ nanosecondUnits 0 900 .nic := by
  refine @held_back _ _ 10900 _ (connected [] (64 * 1024) 900 10000)
    (answered (10000, exhausted 0) ++ answered (10001, acknowledged 0) ++
      [(10900, acknowledged 20)]) connected_initial ?_
  decide +kernel

/-- A window is not decreased within a round trip of an event that left it at its minimum. -/
theorem held_back_after_minimum :
    HeldBack ⟨.bna, twoRoundsParameters⟩ nanosecondUnits 0 900 (.fabric 0) := by
  refine @held_back _ _ 10900 _ (connected [0] 32 900 10000)
    (answered (10000, timedOut 1 0) ++ answered (10001, timedOut 1 0) ++
      answered (10002, acknowledged 0) ++ [(10900, timedOut 1 0)]) connected_initial ?_
  decide +kernel

/-- A marker that is kept for more than half a period and then for half a period is shown as a new
one. -/
theorem held_back_of_long_round_trip :
    HeldBack ⟨.bna, twoRoundsParameters⟩ nanosecondUnits 0 (2 ^ 23 + 1) (.fabric 0) := by
  refine @held_back _ _ (2 ^ 25 - 1) _ (connected [0] (64 * 1024) (2 ^ 23 + 1) (2 ^ 24 - 1))
    (answered (2 ^ 24 - 1, timedOut 1 0) ++ answered (2 ^ 24 + 2 ^ 22, timedOut 2 0) ++
      answered (2 ^ 24 + 2 ^ 23, timedOut 2 0) ++ [(2 ^ 25 - 1, timedOut 1 0)])
    connected_initial ?_
  decide +kernel

/-- Timeouts do not make the marker of the NIC window trail. -/
theorem held_back_after_timeouts :
    HeldBack ⟨.bna, twoRoundsParameters⟩ nanosecondUnits 0 900 .nic := by
  refine @held_back _ _ (10000 + 2 ^ 24) _ (connected [0] (64 * 1024) 900 10000)
    (answered (10000, exhausted 0) ++ answered (10000 + 2 ^ 23 - 1, timedOut 2 0) ++
      answered (10000 + 2 ^ 24 - 2, timedOut 2 0) ++ [(10000 + 2 ^ 24, exhausted 0)])
    connected_initial ?_
  decide +kernel

/-- A marker can trail by a smoothed round-trip time that has not yet grown to the measured one. -/
theorem held_back_of_smoothed_round_trip :
    HeldBack ⟨.bna, { twoRoundsParameters with calcRttSmooth := true }⟩ nanosecondUnits 0 900
      .nic := by
  refine @held_back _ _ 12100 _ (connected [0] (64 * 1024) 0 10000)
    (answered (10000, exhausted 0) ++ answered (12000, acknowledged 0) ++ [(12100, exhausted 0)])
    connected_initial ?_
  decide +kernel

end

end GuardedLoop

end Isekai.RateUpdate
