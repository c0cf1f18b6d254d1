import Isekai.TrafficShaper
import Mathlib.Data.List.Nodup
import Mathlib.Tactic.Linarith

/-! Every packet leaves the timing wheel at its boundary as long as none meets another one in its slot
that leaves a horizon before or after it, which the checks do not exclude. -/

namespace Isekai.TrafficShaper
open Runs Shaper

variable {options : Options} {shaper next : Shaper}

/-! ## Boundaries -/

/-- Rounding up gives the first multiple of the granularity. -/
theorem ceil_least {time unit : ℤ} (positive : 0 < unit) :
    IsLeast {boundary | unit ∣ boundary ∧ time ≤ boundary} (ceil time unit) := by
  have split := Int.mul_tdiv_add_tmod time unit
  have above := Int.lt_tmod_of_pos time positive
  have below := Int.tmod_lt_of_pos time positive
  have multiple : time - time.tmod unit = unit * time.tdiv unit := by omega
  unfold ceil
  dsimp only
  rw [multiple]
  split_ifs with reached
  · refine ⟨⟨dvd_mul_right _ _, reached⟩, ?_⟩
    rintro boundary ⟨⟨count, rfl⟩, later⟩
    have less : unit * (time.tdiv unit - 1) < unit * count := by
      rw [mul_sub, mul_one]
      omega
    have more := lt_of_mul_lt_mul_left less positive.le
    exact mul_le_mul_of_nonneg_left (by omega) positive.le
  · refine ⟨⟨⟨time.tdiv unit + 1, by rw [mul_add, mul_one]⟩, by omega⟩, ?_⟩
    rintro boundary ⟨⟨count, rfl⟩, later⟩
    have less : unit * time.tdiv unit < unit * count := by omega
    have more := lt_of_mul_lt_mul_left less positive.le
    have next : unit * (time.tdiv unit + 1) ≤ unit * count :=
      mul_le_mul_of_nonneg_left (by omega) positive.le
    rwa [mul_add, mul_one] at next

/-- A packet leaves at the first boundary that is neither before its timestamp nor before now. -/
theorem departure_least (options : Options) (now timestamp : ℤ) :
    IsLeast {boundary | options.timingWheelSlotGranularity ∣ boundary ∧
      max timestamp now ≤ boundary} (departureRoundupTime options now timestamp) := by
  unfold departureRoundupTime
  split_ifs with past
  · rw [max_eq_right past.le]
    exact ceil_least options.granularity_pos
  · rw [max_eq_left (not_lt.1 past)]
    exact ceil_least options.granularity_pos

theorem now_le_departure (options : Options) (now timestamp : ℤ) :
    now ≤ departureRoundupTime options now timestamp :=
  (le_max_right _ _).trans (departure_least options now timestamp).1.2

/-! ## The wheel -/

/-- What waits when one slot of the wheel has changed. -/
theorem queue_at_update {slot : ℤ} {entry : Option (List Waiting)}
    (wheel : next.wheel = Function.update shaper.wheel slot entry) (other : ℤ) :
    next.queueAt other = if other = slot then entry.getD [] else shaper.queueAt other := by
  unfold queueAt
  rw [wheel]
  split_ifs with same
  · rw [same, Function.update_self]
  · rw [Function.update_of_ne same]

/-- What has left at some time when a queue leaves now. -/
theorem left_at_append {queue : List Waiting}
    (timed : ∀ waiting ∈ queue, waiting.packet.timingWheelTimestamp ≠ 0)
    (enqueued : next.enqueued = shaper.enqueued ++
      queue.map fun waiting => Enqueued.mk waiting.packet shaper.now) (time : ℤ) :
    next.leftAt time =
      shaper.leftAt time ++ if shaper.now = time then queue.map (·.packet) else [] := by
  unfold leftAt
  rw [enqueued, List.filter_append, List.map_append]
  congr 1
  split_ifs with now
  · rw [List.filter_eq_self.2, List.map_map]
    · rfl
    · intro leaving listed
      obtain ⟨waiting, waits, rfl⟩ := List.mem_map.1 listed
      exact decide_eq_true ⟨now, timed waiting waits⟩
  · rw [List.filter_eq_nil_iff.2, List.map_nil]
    intro leaving listed leaves
    obtain ⟨waiting, -, rfl⟩ := List.mem_map.1 listed
    exact now (of_decide_eq_true leaves).1

/-- What holds of the wheel as long as packets of a slot leave together. -/
structure Kept (options : Options) (shaper : Shaper) : Prop where
  filled : ∀ slot queue, shaper.wheel slot = some queue → queue ≠ []
  placed : ∀ slot, ∀ waiting ∈ shaper.queueAt slot, options.slotOf waiting.departure = slot
  ahead : ∀ slot, ∀ waiting ∈ shaper.queueAt slot, shaper.now ≤ waiting.departure
  shaped : ∀ slot, ∀ waiting ∈ shaper.queueAt slot, waiting.packet.timingWheelTimestamp ≠ 0
  together : ∀ slot, ∀ one ∈ shaper.queueAt slot, ∀ two ∈ shaper.queueAt slot,
    one.departure = two.departure
  scheduled : ∀ time, time ∈ shaper.scheduled ↔
    ∃ waiting ∈ shaper.queueAt (options.slotOf time), waiting.departure = time
  distinct : shaper.scheduled.Nodup
  accounted : ∀ time, shaper.dueAt time = shaper.leftAt time ++
    ((shaper.queueAt (options.slotOf time)).filter (·.departure = time)).map (·.packet)
  boundaries : ∀ arrival ∈ shaper.handedIn,
    IsLeast {boundary | options.timingWheelSlotGranularity ∣ boundary ∧
      max arrival.packet.timingWheelTimestamp arrival.time ≤ boundary} arrival.departure

namespace Kept

theorem initial (options : Options) : Kept options start := by
  constructor
  · intro slot queue present
    cases present
  · intro slot waiting listed
    cases listed
  · intro slot waiting listed
    cases listed
  · intro slot waiting listed
    cases listed
  · intro slot waiting listed
    cases listed
  · intro time
    constructor
    · intro listed
      cases listed
    · rintro ⟨waiting, listed, -⟩
      cases listed
  · exact List.nodup_nil
  · intro time
    rfl
  · intro arrival listed
    cases listed

/-- What is left on the wheel leaves from now on. -/
theorem on_time (kept : Kept options shaper) : OnTime options shaper := by
  refine ⟨kept.boundaries, fun time => ?_, fun time past => ?_⟩
  · rw [kept.accounted time]
    exact List.prefix_append _ _
  · have none_left : (shaper.queueAt (options.slotOf time)).filter (·.departure = time) = [] := by
      apply List.filter_eq_nil_iff.2
      intro waiting listed leaves
      have ahead := kept.ahead _ waiting listed
      have now := of_decide_eq_true leaves
      omega
    rw [kept.accounted time, none_left]
    exact (List.append_nil _).symm

/-- Packets with no timestamp pass the wheel by. -/
theorem bypass (kept : Kept options shaper) {packet : Packet}
    (untimed : packet.timingWheelTimestamp = 0) :
    Kept options
      { shaper with enqueued := shaper.enqueued ++ [Enqueued.mk packet shaper.now] } := by
  obtain ⟨filled, placed, ahead, shaped, together, scheduled, distinct, accounted, boundaries⟩ :=
    kept
  refine ⟨filled, placed, ahead, shaped, together, scheduled, distinct, fun time => ?_, boundaries⟩
  have same : leftAt { shaper with enqueued := shaper.enqueued ++ [Enqueued.mk packet shaper.now] }
      time = shaper.leftAt time := by
    simp [leftAt, untimed]
  rw [same]
  exact accounted time

/-- A packet joins those of its slot, which leave when it does. -/
theorem place (kept : Kept options shaper) {packet : Packet} {departure : ℤ} {scheduled : List ℤ}
    (timed : packet.timingWheelTimestamp ≠ 0)
    (least : IsLeast {boundary | options.timingWheelSlotGranularity ∣ boundary ∧
      max packet.timingWheelTimestamp shaper.now ≤ boundary} departure)
    (alike : ∀ waiting ∈ shaper.queueAt (options.slotOf departure), waiting.departure = departure)
    (events : ∀ time, time ∈ scheduled ↔ time ∈ shaper.scheduled ∨ time = departure)
    (distinct : scheduled.Nodup) :
    Kept options
      { shaper with
        handedIn := shaper.handedIn ++ [Arrival.mk packet shaper.now departure]
        wheel := Function.update shaper.wheel (options.slotOf departure)
          (some (shaper.queueAt (options.slotOf departure) ++ [Waiting.mk packet departure]))
        scheduled := scheduled } := by
  set placed := { shaper with
    handedIn := shaper.handedIn ++ [Arrival.mk packet shaper.now departure]
    wheel := Function.update shaper.wheel (options.slotOf departure)
      (some (shaper.queueAt (options.slotOf departure) ++ [Waiting.mk packet departure]))
    scheduled := scheduled } with result
  have queues := queue_at_update (congrArg Shaper.wheel result)
  have own : placed.queueAt (options.slotOf departure) =
      shaper.queueAt (options.slotOf departure) ++ [Waiting.mk packet departure] :=
    (queues _).trans (if_pos rfl)
  have others : ∀ slot, slot ≠ options.slotOf departure →
      placed.queueAt slot = shaper.queueAt slot :=
    fun slot other => (queues slot).trans (if_neg other)
  have members : ∀ slot, ∀ waiting ∈ placed.queueAt slot, waiting ∈ shaper.queueAt slot ∨
      slot = options.slotOf departure ∧ waiting = Waiting.mk packet departure := by
    intro slot waiting listed
    by_cases same : slot = options.slotOf departure
    · rw [same, own] at listed
      rcases List.mem_append.1 listed with old | new
      · rw [same]
        exact .inl old
      · exact .inr ⟨same, List.mem_singleton.1 new⟩
    · rw [others slot same] at listed
      exact .inl listed
  have kept_members : ∀ slot, ∀ waiting ∈ shaper.queueAt slot, waiting ∈ placed.queueAt slot := by
    intro slot waiting listed
    by_cases same : slot = options.slotOf departure
    · rw [same] at listed ⊢
      rw [own]
      exact List.mem_append_left _ listed
    · rwa [others slot same]
  have new_listed : Waiting.mk packet departure ∈ placed.queueAt (options.slotOf departure) := by
    rw [own]
    exact List.mem_append_right _ List.mem_cons_self
  have departs : ∀ waiting ∈ placed.queueAt (options.slotOf departure),
      waiting.departure = departure := by
    intro waiting listed
    rcases members _ waiting listed with old | ⟨-, rfl⟩
    · exact alike waiting old
    · rfl
  constructor
  · intro slot queue present
    by_cases same : slot = options.slotOf departure
    · rw [result, same] at present
      dsimp only at present
      rw [Function.update_self] at present
      cases Option.some.inj present
      exact List.append_ne_nil_of_right_ne_nil _ (List.cons_ne_nil _ _)
    · rw [result] at present
      dsimp only at present
      rw [Function.update_of_ne same] at present
      exact kept.filled slot queue present
  · intro slot waiting listed
    rcases members slot waiting listed with old | ⟨rfl, rfl⟩
    · exact kept.placed slot waiting old
    · rfl
  · intro slot waiting listed
    rcases members slot waiting listed with old | ⟨rfl, rfl⟩
    · exact kept.ahead slot waiting old
    · exact (le_max_right _ _).trans least.1.2
  · intro slot waiting listed
    rcases members slot waiting listed with old | ⟨rfl, rfl⟩
    · exact kept.shaped slot waiting old
    · exact timed
  · intro slot one first two second
    by_cases same : slot = options.slotOf departure
    · rw [same] at first second
      rw [departs one first, departs two second]
    · rw [others slot same] at first second
      exact kept.together slot one first two second
  · intro time
    refine (events time).trans ⟨?_, ?_⟩
    · rintro (old | rfl)
      · obtain ⟨waiting, listed, leaves⟩ := (kept.scheduled time).1 old
        exact ⟨waiting, kept_members _ waiting listed, leaves⟩
      · exact ⟨_, new_listed, rfl⟩
    · rintro ⟨waiting, listed, leaves⟩
      rcases members _ waiting listed with old | ⟨-, rfl⟩
      · exact .inl ((kept.scheduled time).2 ⟨waiting, old, leaves⟩)
      · exact .inr leaves.symm
  · exact distinct
  · intro time
    have before := kept.accounted time
    have left : placed.leftAt time = shaper.leftAt time := rfl
    by_cases same : departure = time
    · have due : placed.dueAt time = shaper.dueAt time ++ [packet] := by
        simp [result, dueAt, same]
      rw [due, before, left, ← same, own, same]
      simp
    · have due : placed.dueAt time = shaper.dueAt time := by
        simp [result, dueAt, same]
      rw [due, before, left]
      by_cases slot : options.slotOf time = options.slotOf departure
      · rw [slot, own]
        simp [same]
      · rw [others _ slot]
  · intro arrival listed
    rcases List.mem_append.1 listed with old | new
    · exact kept.boundaries arrival old
    · rw [List.mem_singleton.1 new]
      exact least

theorem transfer (kept : Kept options shaper) {packet : Packet}
    (clear : shaper.Clear options (.transfer packet))
    (done : shaper.transferTxPacket options packet = .ok next) : Kept options next := by
  unfold transferTxPacket at done
  dsimp only at done
  split_ifs at done with untimed tooEarly tooLate
  · cases done
    exact kept.bypass untimed
  · have alike := clear untimed
    have least := departure_least options shaper.now packet.timingWheelTimestamp
    have later := now_le_departure options shaper.now packet.timingWheelTimestamp
    generalize departureRoundupTime options shaper.now packet.timingWheelTimestamp = departure
      at done alike least later
    cases slot : shaper.wheel (options.slotOf departure) with
    | some queue =>
      -- the event of the slot is that of the packets already in it
      have waits : shaper.queueAt (options.slotOf departure) = queue := by
        unfold queueAt
        rw [slot]
        rfl
      obtain ⟨first, listed⟩ := List.exists_mem_of_ne_nil queue (kept.filled _ queue slot)
      rw [← waits] at listed
      have pending : departure ∈ shaper.scheduled :=
        (kept.scheduled departure).2 ⟨first, listed, alike first listed⟩
      have events : ∀ time, time ∈ shaper.scheduled ↔
          time ∈ shaper.scheduled ∨ time = departure := by
        intro time
        refine ⟨.inl, ?_⟩
        rintro (old | rfl)
        · exact old
        · exact pending
      rw [slot] at done
      cases done
      rw [← waits]
      exact kept.place untimed least alike events kept.distinct
    | none =>
      have empty : shaper.queueAt (options.slotOf departure) = [] := by
        unfold queueAt
        rw [slot]
        rfl
      have fresh : departure ∉ shaper.scheduled := by
        intro pending
        obtain ⟨waiting, listed, -⟩ := (kept.scheduled departure).1 pending
        rw [empty] at listed
        cases listed
      have delay : ¬ departure - shaper.now < 0 := by omega
      have due : shaper.now + (departure - shaper.now) = departure := by omega
      have events : ∀ time, time ∈ shaper.scheduled ++ [departure] ↔
          time ∈ shaper.scheduled ∨ time = departure := by simp
      have distinct : (shaper.scheduled ++ [departure]).Nodup :=
        List.nodup_append'.2 ⟨kept.distinct, List.nodup_singleton _, by simpa using fresh⟩
      have placed := kept.place untimed least alike events distinct
      rw [empty] at placed
      rw [slot] at done
      dsimp only at done
      unfold scheduleEvent at done
      rw [if_neg delay] at done
      cases done
      dsimp only
      rw [due]
      exact placed

/-- The event of a slot finds packets in it, and they are those that leave now. -/
theorem drain (kept : Kept options shaper) (listed : shaper.now ∈ shaper.scheduled) :
    ∃ drained, shaper.startEvent.drainTimingWheelSlot options = .ok drained ∧
      Kept options drained := by
  obtain ⟨waiting, waits, leaves⟩ := (kept.scheduled shaper.now).1 listed
  have departs : ∀ other ∈ shaper.queueAt (options.slotOf shaper.now),
      other.departure = shaper.now := by
    intro other also
    rw [← leaves]
    exact kept.together _ other also waiting waits
  obtain ⟨first, rest, slot⟩ : ∃ first rest,
      shaper.wheel (options.slotOf shaper.now) = some (first :: rest) := by
    unfold queueAt at waits
    cases slot : shaper.wheel (options.slotOf shaper.now) with
    | none =>
      rw [slot] at waits
      cases waits
    | some queue =>
      cases queue with
      | nil => exact absurd rfl (kept.filled _ _ slot)
      | cons first rest => exact ⟨first, rest, rfl⟩
  have queue : shaper.queueAt (options.slotOf shaper.now) = first :: rest := by
    unfold queueAt
    rw [slot]
    rfl
  set drained := { shaper.startEvent with
    wheel := Function.update shaper.wheel (options.slotOf shaper.now) none
    enqueued := shaper.enqueued ++
      (first :: rest).map fun waiting : Waiting => Enqueued.mk waiting.packet shaper.now } with result
  have queues := queue_at_update (congrArg Shaper.wheel result)
  have own : drained.queueAt (options.slotOf shaper.now) = [] := (queues _).trans (if_pos rfl)
  have others : ∀ slot, slot ≠ options.slotOf shaper.now →
      drained.queueAt slot = shaper.queueAt slot :=
    fun slot other => (queues slot).trans (if_neg other)
  have members : ∀ slot, ∀ waiting ∈ drained.queueAt slot, waiting ∈ shaper.queueAt slot := by
    intro slot waiting listed
    by_cases same : slot = options.slotOf shaper.now
    · rw [same, own] at listed
      cases listed
    · rwa [others slot same] at listed
  refine ⟨drained, ?_, ?_⟩
  · unfold drainTimingWheelSlot
    dsimp only [startEvent]
    rw [slot]
    rfl
  constructor
  · intro slot queue present
    by_cases same : slot = options.slotOf shaper.now
    · rw [result, same] at present
      dsimp only at present
      rw [Function.update_self] at present
      cases present
    · rw [result] at present
      dsimp only at present
      rw [Function.update_of_ne same] at present
      exact kept.filled slot queue present
  · exact fun slot waiting listed => kept.placed slot waiting (members slot waiting listed)
  · exact fun slot waiting listed => kept.ahead slot waiting (members slot waiting listed)
  · exact fun slot waiting listed => kept.shaped slot waiting (members slot waiting listed)
  · exact fun slot one listed two also =>
      kept.together slot one (members slot one listed) two (members slot two also)
  · intro time
    refine (kept.distinct.mem_erase_iff).trans ⟨?_, ?_⟩
    · rintro ⟨other, pending⟩
      obtain ⟨waiting, listed, leaves⟩ := (kept.scheduled time).1 pending
      refine ⟨waiting, ?_, leaves⟩
      by_cases same : options.slotOf time = options.slotOf shaper.now
      · rw [same] at listed
        exact absurd (leaves.symm.trans (departs waiting listed)) other
      · rwa [others _ same]
    · rintro ⟨waiting, listed, leaves⟩
      refine ⟨?_, (kept.scheduled time).2 ⟨waiting, members _ waiting listed, leaves⟩⟩
      rintro rfl
      rw [own] at listed
      cases listed
  · exact kept.distinct.erase _
  · intro time
    have before := kept.accounted time
    have due : drained.dueAt time = shaper.dueAt time := rfl
    have timed : ∀ waiting ∈ first :: rest, waiting.packet.timingWheelTimestamp ≠ 0 := by
      rw [← queue]
      exact kept.shaped _
    have left := left_at_append timed (congrArg Shaper.enqueued result) time
    rw [due, before, left]
    by_cases same : shaper.now = time
    · have all : (first :: rest).filter (·.departure = shaper.now) = first :: rest := by
        apply List.filter_eq_self.2
        intro other listed
        rw [← queue] at listed
        exact decide_eq_true (departs other listed)
      rw [if_pos same, ← same, own, queue, all]
      exact (List.append_nil _).symm
    · rw [if_neg same, List.append_nil]
      by_cases slots : options.slotOf time = options.slotOf shaper.now
      · have none_later : (first :: rest).filter (·.departure = time) = [] := by
          apply List.filter_eq_nil_iff.2
          intro other listed leaves
          rw [← queue] at listed
          exact same ((departs other listed).symm.trans (of_decide_eq_true leaves))
        rw [slots, own, queue, none_later]
        rfl
      · rw [others _ slots]
  · exact kept.boundaries

theorem elapse (kept : Kept options shaper) {later : ℤ}
    (waits : ∀ due ∈ shaper.scheduled, later ≤ due) :
    Kept options { shaper with now := later } := by
  obtain ⟨filled, placed, ahead, shaped, together, scheduled, distinct, accounted, boundaries⟩ :=
    kept
  refine ⟨filled, placed, fun slot waiting listed => ?_, shaped, together, scheduled, distinct,
    accounted, boundaries⟩
  apply waits
  apply (scheduled _).2
  refine ⟨waiting, ?_, rfl⟩
  rwa [placed slot waiting listed]

theorem perform (kept : Kept options shaper) {action : Action}
    (clear : shaper.Clear options action) (done : shaper.perform options action = some next) :
    Kept options next := by
  cases action with
  | transfer packet =>
    unfold Shaper.perform at done
    dsimp only at done
    cases result : shaper.transferTxPacket options packet with
    | error fault =>
      rw [result] at done
      cases done
    | ok after =>
      rw [result] at done
      cases done
      exact kept.transfer clear result
  | drain =>
    obtain ⟨listed, drained⟩ := attempt_eq_some.1 done
    obtain ⟨expected, result, after⟩ := kept.drain listed
    rw [drained] at result
    cases result
    exact after
  | elapse later =>
    unfold Shaper.perform at done
    dsimp only at done
    split_ifs at done with allowed
    cases Option.some.inj done
    exact kept.elapse allowed.2

end Kept

/-! ## Runs -/

theorem kept_of_reachable (reached : Reachable (· = start) (ClearStep options) shaper) :
    Kept options shaper := by
  apply invariant_of_reachable _ _ reached
  · rintro initial rfl
    exact Kept.initial options
  · rintro before after kept ⟨action, clear, done⟩
    exact kept.perform clear done

/-- Where no packet meets one in its slot that leaves at another time, each leaves once and on time,
and the checks of the drain function hold. -/
theorem packets_on_time (reached : Reachable (· = start) (ClearStep options) shaper) :
    OnTime options shaper ∧ (shaper.now ∈ shaper.scheduled →
      ∃ drained, shaper.startEvent.drainTimingWheelSlot options = .ok drained) := by
  have kept := kept_of_reachable reached
  refine ⟨kept.on_time, fun due => ?_⟩
  obtain ⟨drained, done, -⟩ := kept.drain due
  exact ⟨drained, done⟩

/-- Two slots of a nanosecond. -/
def twoSlots : Options where
  timingWheelSlotGranularity := 4
  timingWheelNumberOfSlots := 2
  granularity_pos := by decide
  slots_pos := by decide

theorem packets_on_time_one_packet :
    ∃ shaper : Shaper, shaper.dueAt 4 = [⟨0, 1⟩] ∧ shaper.now ∈ shaper.scheduled ∧
      OnTime twoSlots shaper ∧
      ∃ drained, shaper.startEvent.drainTimingWheelSlot twoSlots = .ok drained := by
  have transferred : Reachable (· = start) (ClearStep twoSlots) _ :=
    reachable_step (reachable_initial rfl)
      ⟨.transfer ⟨0, 1⟩, fun _ waiting listed => absurd listed List.not_mem_nil, rfl⟩
  have due : Reachable (· = start) (ClearStep twoSlots) _ :=
    reachable_step transferred ⟨.elapse 4, trivial, rfl⟩
  obtain ⟨onTime, drains⟩ := packets_on_time due
  exact ⟨_, by decide, by decide, onTime, drains (by decide)⟩

/-- A packet for the end of this slot, and one whose timestamp is a horizon ahead. -/
def horizonActions : List Action :=
  [.elapse 1, .transfer ⟨0, 1⟩, .transfer ⟨1, 9⟩, .elapse 4, .drain]

/-- The second packet leaves with the first one, a horizon too early. -/
theorem horizon_packet_leaves_early :
    ∃ shaper, Reachable (· = start) (Shaper.Step twoSlots) shaper ∧ ¬ OnTime twoSlots shaper := by
  have executed : (execute (Shaper.perform twoSlots) horizonActions start).any (fun shaper =>
      decide (shaper.leftAt 4 = [⟨0, 1⟩, ⟨1, 9⟩] ∧ shaper.dueAt 4 = [⟨0, 1⟩])) = true := by
    decide
  have taken : ∀ before action after, Shaper.perform twoSlots before action = some after →
      Shaper.Step twoSlots before after := fun _ action _ done => ⟨action, done⟩
  obtain ⟨shaper, reached, differs⟩ := @reached_with _ (· = start) _ _ _ taken _ _ rfl _ executed
  obtain ⟨left, due⟩ := of_decide_eq_true differs
  refine ⟨shaper, reached, fun onTime => ?_⟩
  have ordered := (onTime.inOrder 4).length_le
  rw [left, due] at ordered
  exact absurd ordered (by decide)

end Isekai.TrafficShaper
