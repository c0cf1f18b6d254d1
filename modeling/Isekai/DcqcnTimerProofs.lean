import Isekai.DcqcnTimers

/-! Rate increases by the timer of a queue pair are apart, and from a decrease, as long as no decrease
comes while an increase is under way or at the instant of one. The timer of the last start is then
the only one that is valid, and all others are stale. -/

namespace Isekai.DcqcnTimers
open Dcqcn Runs

variable {Qp : Type} [DecidableEq Qp]
variable {options : Options} {simulation next : Simulation Qp} {qpId : Qp}

/-! ## The events of a queue pair's increases -/

/-- Whether an event is about the rate increase of a queue pair. -/
def Increases (qpId : Qp) (event : Scheduled Qp) : Prop :=
  event.callback = .rateIncreaseTimer qpId ∨ event.callback = .rateIncreaseLookup qpId

instance (qpId : Qp) : DecidablePred (Increases qpId) :=
  fun _ => inferInstanceAs (Decidable (_ ∨ _))

namespace Simulation

def increaseEvents (simulation : Simulation Qp) (qpId : Qp) : List (Scheduled Qp) :=
  simulation.scheduled.filter (Increases qpId)

/-- The start time that the queue pair has stored. -/
def startTime (simulation : Simulation Qp) (qpId : Qp) : ℕ :=
  (simulation.contexts qpId).rateIncreaseTimerStartTime

theorem chains_eq (options : Options) (simulation : Simulation Qp) (qpId : Qp) :
    simulation.chains options qpId =
      (simulation.increaseEvents qpId).countP (simulation.Alive options qpId) := by
  unfold chains increaseEvents
  rw [List.countP_filter]
  apply List.countP_congr
  intro event _
  simp only [decide_eq_true_eq, Bool.and_eq_true]
  unfold Alive Increases
  tauto

theorem increase_events_schedule {delay : ℕ} {callback : Callback Qp}
    (increases : Increases qpId (Scheduled.mk (simulation.now + delay) callback)) :
    (simulation.scheduleEvent delay callback).increaseEvents qpId =
      simulation.increaseEvents qpId ++ [Scheduled.mk (simulation.now + delay) callback] := by
  simp [scheduleEvent, increaseEvents, increases]

theorem increase_events_schedule_other {delay : ℕ} {callback : Callback Qp}
    (other : ¬ Increases qpId (Scheduled.mk (simulation.now + delay) callback)) :
    (simulation.scheduleEvent delay callback).increaseEvents qpId =
      simulation.increaseEvents qpId := by
  simp [scheduleEvent, increaseEvents, other]

@[simp] theorem increase_events_set_context (owner : Qp) (context : QpContext) :
    (simulation.setContext owner context).increaseEvents qpId =
      simulation.increaseEvents qpId :=
  rfl

@[simp] theorem increase_events_record (owner : Qp) (change : RateChange) :
    (simulation.record owner change).increaseEvents qpId = simulation.increaseEvents qpId :=
  rfl

@[simp] theorem start_time_set_context (context : QpContext) :
    (simulation.setContext qpId context).startTime qpId = context.rateIncreaseTimerStartTime := by
  simp [startTime, setContext]

@[simp] theorem contexts_set_context (context : QpContext) :
    (simulation.setContext qpId context).contexts qpId = context := by
  simp [setContext]

@[simp] theorem changes_record (change : RateChange) :
    (simulation.record qpId change).changes qpId = change :: simulation.changes qpId := by
  simp [record]

theorem increase_events_erase {event : Scheduled Qp} (listed : event ∈ simulation.scheduled)
    (increases : Increases qpId event) :
    (simulation.increaseEvents qpId).Perm
      (event :: (simulation.scheduled.erase event).filter (Increases qpId)) := by
  have split := (List.perm_cons_erase listed).filter (Increases qpId)
  rwa [List.filter_cons_of_pos (by simpa using increases)] at split

theorem increase_events_erase_other {event : Scheduled Qp} (listed : event ∈ simulation.scheduled)
    (other : ¬ Increases qpId event) :
    (simulation.increaseEvents qpId).Perm
      ((simulation.scheduled.erase event).filter (Increases qpId)) := by
  have split := (List.perm_cons_erase listed).filter (Increases qpId)
  rwa [List.filter_cons_of_neg (by simpa using other)] at split

/-- A decrease starts the increase timer, whatever else is ahead. -/
theorem decrease_events (options : Options)
    (arrived : (simulation.contexts qpId).decreaseCnpArrived = true) :
    (simulation.run options (.rateDecreaseLookup qpId)).increaseEvents qpId =
      simulation.increaseEvents qpId ++
        [Scheduled.mk (simulation.now + microseconds options.timeReset)
          (.rateIncreaseTimer qpId)] := by
  unfold run
  dsimp only
  rw [if_pos arrived, increase_events_record, increase_events_schedule (.inl rfl),
    increase_events_set_context, increase_events_schedule_other (by simp [Increases])]
  rfl

theorem decrease_start_time (options : Options)
    (arrived : (simulation.contexts qpId).decreaseCnpArrived = true) :
    (simulation.run options (.rateDecreaseLookup qpId)).startTime qpId = simulation.now := by
  unfold run
  dsimp only
  rw [if_pos arrived]
  exact start_time_set_context _

end Simulation

/-! ## Steps that do not concern the increases of a queue pair -/

/-- The queue pair of an event. -/
def Callback.owner : Callback Qp → Qp
  | .alphaUpdateTimer qpId | .rateDecreaseTimer qpId | .rateIncreaseTimer qpId
  | .alphaUpdateLookup qpId | .rateDecreaseLookup qpId | .rateIncreaseLookup qpId => qpId

omit [DecidableEq Qp] in
theorem not_increases_other {due : ℕ} {callback : Callback Qp} (other : qpId ≠ callback.owner) :
    ¬ Increases qpId (Scheduled.mk due callback) := by
  rintro (increases | increases)
  · exact other (congrArg Callback.owner increases).symm
  · exact other (congrArg Callback.owner increases).symm

structure Quiet (simulation next : Simulation Qp) (qpId : Qp) : Prop where
  now : next.now = simulation.now
  startTime : next.startTime qpId = simulation.startTime qpId
  firstCnp : (next.contexts qpId).firstCnp = (simulation.contexts qpId).firstCnp
  arrived : (next.contexts qpId).firstCnp = true →
    (next.contexts qpId).decreaseCnpArrived = (simulation.contexts qpId).decreaseCnpArrived
  events : (simulation.increaseEvents qpId).Perm (next.increaseEvents qpId)
  changes : next.changes qpId = simulation.changes qpId

namespace Quiet

theorem refl (simulation : Simulation Qp) (qpId : Qp) : Quiet simulation simulation qpId :=
  ⟨rfl, rfl, rfl, fun _ => rfl, .refl _, rfl⟩

theorem trans {middle : Simulation Qp} (one : Quiet simulation middle qpId)
    (two : Quiet middle next qpId) : Quiet simulation next qpId := by
  constructor
  · exact two.now.trans one.now
  · exact two.startTime.trans one.startTime
  · exact two.firstCnp.trans one.firstCnp
  · intro first
    rw [two.arrived first]
    exact one.arrived (two.firstCnp ▸ first)
  · exact one.events.trans two.events
  · exact two.changes.trans one.changes

theorem erase {event : Scheduled Qp} (listed : event ∈ simulation.scheduled)
    (other : ¬ Increases qpId event) :
    Quiet simulation { simulation with scheduled := simulation.scheduled.erase event } qpId :=
  ⟨rfl, rfl, rfl, fun _ => rfl, Simulation.increase_events_erase_other listed other, rfl⟩

theorem schedule (simulation : Simulation Qp) (delay : ℕ) {callback : Callback Qp}
    (other : ¬ Increases qpId (Scheduled.mk (simulation.now + delay) callback)) :
    Quiet simulation (simulation.scheduleEvent delay callback) qpId := by
  refine ⟨rfl, rfl, rfl, fun _ => rfl, ?_, rfl⟩
  exact .of_eq (Simulation.increase_events_schedule_other other).symm

theorem schedule_other (simulation : Simulation Qp) (delay : ℕ) {callback : Callback Qp}
    (other : qpId ≠ callback.owner) :
    Quiet simulation (simulation.scheduleEvent delay callback) qpId :=
  schedule simulation delay (not_increases_other other)

theorem set_other {owner : Qp} (simulation : Simulation Qp) (context : QpContext)
    (other : qpId ≠ owner) : Quiet simulation (simulation.setContext owner context) qpId := by
  have same : (simulation.setContext owner context).contexts qpId = simulation.contexts qpId :=
    Function.update_of_ne other _ _
  refine ⟨rfl, ?_, ?_, fun _ => ?_, .refl _, rfl⟩
  · exact congrArg QpContext.rateIncreaseTimerStartTime same
  · exact congrArg QpContext.firstCnp same
  · exact congrArg QpContext.decreaseCnpArrived same

theorem set_own {context : QpContext}
    (startTime : context.rateIncreaseTimerStartTime = simulation.startTime qpId)
    (firstCnp : context.firstCnp = (simulation.contexts qpId).firstCnp)
    (arrived : context.firstCnp = true →
      context.decreaseCnpArrived = (simulation.contexts qpId).decreaseCnpArrived) :
    Quiet simulation (simulation.setContext qpId context) qpId := by
  have same : (simulation.setContext qpId context).contexts qpId = context :=
    Function.update_self _ _ _
  refine ⟨rfl, ?_, ?_, ?_, .refl _, rfl⟩
  · exact (congrArg QpContext.rateIncreaseTimerStartTime same).trans startTime
  · rwa [same]
  · rwa [same]

theorem record_other {owner : Qp} (simulation : Simulation Qp) (change : RateChange)
    (other : qpId ≠ owner) : Quiet simulation (simulation.record owner change) qpId :=
  ⟨rfl, rfl, rfl, fun _ => rfl, .refl _, Function.update_of_ne other _ _⟩

/-- A packet for another queue pair. -/
theorem packet_other {owner : Qp} (simulation : Simulation Qp) (opcode : Roce.Opcode)
    (other : qpId ≠ owner) :
    Quiet simulation (simulation.handleRxPacket options owner opcode) qpId := by
  unfold Simulation.handleRxPacket
  dsimp only
  split_ifs
  · exact .refl _ _
  · refine trans ?_ (record_other _ _ other)
    refine trans ?_ (schedule_other _ _ other)
    refine trans ?_ (schedule_other _ _ other)
    refine trans ?_ (schedule_other _ _ other)
    exact set_other simulation _ other
  · exact set_other simulation _ other

end Quiet

theorem Quiet.run_other {callback : Callback Qp} (simulation : Simulation Qp)
    (other : qpId ≠ callback.owner) :
    Quiet simulation (simulation.run options callback) qpId := by
  cases callback with
  | alphaUpdateTimer owner => exact schedule_other _ _ other
  | alphaUpdateLookup owner => exact trans (set_other _ _ other) (schedule_other _ _ other)
  | rateDecreaseTimer owner => exact schedule_other _ _ other
  | rateDecreaseLookup owner =>
    unfold Simulation.run
    dsimp only
    split_ifs
    · refine trans ?_ (record_other _ _ other)
      refine trans ?_ (schedule_other _ _ other)
      refine trans ?_ (set_other _ _ other)
      exact schedule_other _ _ other
    · exact schedule_other _ _ other
  | rateIncreaseTimer owner =>
    unfold Simulation.run
    dsimp only
    split_ifs
    · exact .refl _ _
    · exact schedule_other _ _ other
  | rateIncreaseLookup owner =>
    refine trans ?_ (record_other _ _ other)
    refine trans ?_ (set_other _ _ other)
    exact schedule_other _ _ other

/-- No event is overdue. -/
def Ahead (simulation : Simulation Qp) : Prop :=
  ∀ event ∈ simulation.scheduled, simulation.now ≤ event.due

namespace Ahead

omit [DecidableEq Qp] in
theorem schedule (ahead : Ahead simulation) (delay : ℕ) (callback : Callback Qp) :
    Ahead (simulation.scheduleEvent delay callback) := by
  intro event listed
  rcases List.mem_append.1 listed with old | new
  · exact ahead event old
  · rw [List.mem_singleton.1 new]
    exact Nat.le_add_right _ _

theorem erase (ahead : Ahead simulation) (event : Scheduled Qp) :
    Ahead { simulation with scheduled := simulation.scheduled.erase event } :=
  fun kept listed => ahead kept (List.mem_of_mem_erase listed)

theorem packet (ahead : Ahead simulation) (qpId : Qp) (opcode : Roce.Opcode) :
    Ahead (simulation.handleRxPacket options qpId opcode) := by
  have notified : Ahead (simulation.setContext qpId
      (receiveCnp options simulation.now (simulation.contexts qpId))) := ahead
  unfold Simulation.handleRxPacket
  dsimp only
  split_ifs
  · exact ahead
  · exact ((notified.schedule _ _).schedule _ _).schedule _ _
  · exact ahead

theorem run (ahead : Ahead simulation) (callback : Callback Qp) :
    Ahead (simulation.run options callback) := by
  cases callback with
  | alphaUpdateTimer qpId => exact ahead.schedule _ _
  | rateDecreaseTimer qpId => exact ahead.schedule _ _
  | rateIncreaseTimer qpId =>
    unfold Simulation.run
    dsimp only
    split_ifs
    · exact ahead
    · exact ahead.schedule _ _
  | alphaUpdateLookup qpId =>
    have updated : Ahead (simulation.setContext qpId
        (updateAlpha options (simulation.contexts qpId))) := ahead
    exact updated.schedule _ _
  | rateDecreaseLookup qpId =>
    have monitored := ahead.schedule (microseconds options.rateReduceMonitorPeriod)
      (.rateDecreaseTimer qpId)
    unfold Simulation.run
    dsimp only
    split_ifs
    · have decreased : Ahead ((simulation.scheduleEvent
          (microseconds options.rateReduceMonitorPeriod) (.rateDecreaseTimer qpId)).setContext qpId
          (decreaseRate options simulation.now (simulation.contexts qpId))) := monitored
      exact decreased.schedule _ _
    · exact monitored
  | rateIncreaseLookup qpId => exact ahead.schedule _ _

end Ahead

theorem increase_by_bytes_keeps (options : Options) (positive : 0 < options.byteThreshold)
    (context : QpContext) :
    let after := increaseByBytes options positive context
    after.rateIncreaseTimerStartTime = context.rateIncreaseTimerStartTime ∧
      after.firstCnp = context.firstCnp ∧
      after.decreaseCnpArrived = context.decreaseCnpArrived := by
  induction context using increaseByBytes.induct options positive with
  | case1 context reached ih =>
    rw [increaseByBytes, if_pos reached]
    exact ih
  | case2 context below =>
    rw [increaseByBytes, if_neg below]
    exact ⟨rfl, rfl, rfl⟩

theorem sent_bytes_keeps {count : UInt32} {context after : QpContext}
    (done : sentBytes options count context = some after) :
    after.rateIncreaseTimerStartTime = context.rateIncreaseTimerStartTime ∧
      after.firstCnp = context.firstCnp ∧
      after.decreaseCnpArrived = context.decreaseCnpArrived := by
  unfold sentBytes at done
  split_ifs at done with positive
  cases Option.some.inj done
  exact increase_by_bytes_keeps options positive _

/-! ## One chain -/

/-- What holds of a queue pair as long as its increase timer is the only one. -/
structure Single (options : Options) (simulation : Simulation Qp) (qpId : Qp) : Prop where
  started : simulation.startTime qpId ≤ simulation.now
  timers : ∀ event ∈ simulation.increaseEvents qpId,
    event.due ≤ simulation.startTime qpId + microseconds options.timeReset
  lookups : ∀ event ∈ simulation.increaseEvents qpId,
    event.callback = .rateIncreaseLookup qpId → event.due = simulation.now ∧
      simulation.now = simulation.startTime qpId + microseconds options.timeReset
  fresh : (simulation.contexts qpId).firstCnp = true →
    (simulation.contexts qpId).decreaseCnpArrived = false ∧ simulation.increaseEvents qpId = []
  single : (simulation.contexts qpId).firstCnp = false → simulation.chains options qpId = 1
  recorded : ∀ change ∈ simulation.changes qpId, change.time ≤ simulation.startTime qpId
  apart : (simulation.changes qpId).Pairwise (Apart options)

namespace Single

theorem initial (options : Options) (qpId : Qp) :
    Single options (Simulation.start options) qpId := by
  constructor
  · exact le_refl _
  · intro event listed
    cases listed
  · intro event listed
    cases listed
  · intro _
    exact ⟨rfl, rfl⟩
  · intro notified
    cases notified
  · intro change listed
    cases listed
  · exact .nil

theorem of_quiet (known : Single options simulation qpId) (quiet : Quiet simulation next qpId) :
    Single options next qpId := by
  obtain ⟨started, timers, lookups, fresh, single, recorded, apart⟩ := known
  obtain ⟨now, startTime, firstCnp, arrived, events, changes⟩ := quiet
  constructor
  · rwa [startTime, now]
  · intro event listed
    rw [startTime]
    exact timers event (events.mem_iff.2 listed)
  · intro event listed callback
    rw [startTime, now]
    exact lookups event (events.mem_iff.2 listed) callback
  · intro first
    have none_yet := fresh (firstCnp ▸ first)
    rw [arrived first]
    rw [none_yet.2] at events
    exact ⟨none_yet.1, events.nil_eq.symm⟩
  · intro notified
    have one := single (firstCnp ▸ notified)
    have same : next.Alive options qpId = simulation.Alive options qpId := by
      funext event
      unfold Simulation.Alive
      unfold Simulation.startTime at startTime
      rw [startTime]
    rw [Simulation.chains_eq] at one ⊢
    rw [← one, events.countP_eq]
    simp only [same]
  · rwa [changes, startTime]
  · rwa [changes]

/-- A timer started now is the only one if no other is valid any more. -/
theorem restarted (before : List (Scheduled Qp)) (now : next.startTime qpId = next.now)
    (notified : (next.contexts qpId).firstCnp = false)
    (events : next.increaseEvents qpId = before ++
      [Scheduled.mk (next.now + microseconds options.timeReset) (.rateIncreaseTimer qpId)])
    (stale : ∀ event ∈ before, event.callback ≠ .rateIncreaseLookup qpId ∧
      event.due < next.now + microseconds options.timeReset)
    (recorded : ∀ change ∈ next.changes qpId, change.time ≤ next.now)
    (apart : (next.changes qpId).Pairwise (Apart options)) : Single options next qpId := by
  constructor
  · exact now.le
  · intro event listed
    rw [events] at listed
    rw [now]
    rcases List.mem_append.1 listed with old | new
    · exact (stale event old).2.le
    · rw [List.mem_singleton.1 new]
  · intro event listed callback
    rw [events] at listed
    rcases List.mem_append.1 listed with old | new
    · exact absurd callback (stale event old).1
    · rw [List.mem_singleton.1 new] at callback
      cases callback
  · intro first
    rw [notified] at first
    cases first
  · intro _
    have none_before : before.countP (next.Alive options qpId) = 0 := by
      apply List.countP_eq_zero.2
      intro event old alive
      obtain ⟨other, early⟩ := stale event old
      rcases of_decide_eq_true alive with lookup | ⟨-, due⟩
      · exact other lookup
      · change event.due = next.startTime qpId + microseconds options.timeReset at due
        omega
    have valid : next.Alive options qpId
        (Scheduled.mk (next.now + microseconds options.timeReset) (.rateIncreaseTimer qpId)) := by
      right
      exact ⟨rfl, congrArg (· + microseconds options.timeReset) now.symm⟩
    rw [Simulation.chains_eq, events, List.countP_append, none_before,
      List.countP_singleton, if_pos (decide_eq_true valid)]
  · rwa [now]
  · exact apart

/-- The changes before were no later than the start time, and so not after now. -/
theorem not_after {change latest : RateChange} (known : Single options simulation qpId)
    (listed : change ∈ latest :: simulation.changes qpId)
    (now : latest.time = simulation.now) : change.time ≤ simulation.now := by
  rcases List.mem_cons.1 listed with rfl | old
  · exact now.le
  · exact (known.recorded change old).trans known.started

theorem packet (known : Single options simulation qpId) (opcode : Roce.Opcode) :
    Single options (simulation.handleRxPacket options qpId opcode) qpId := by
  unfold Simulation.handleRxPacket
  dsimp only
  split_ifs with other first
  · exact known
  · -- the first notification starts the timer of a queue pair that had none
    have received : receiveCnp options simulation.now (simulation.contexts qpId) =
        { simulation.contexts qpId with
          alpha := options.initialAlphaValue
          alphaCnpArrived := false
          targetRate := options.rateToSetOnFirstCnp
          rate := options.rateToSetOnFirstCnp
          decreaseCnpArrived := false
          firstCnp := false
          rateIncreaseTimerStartTime := simulation.now } := if_pos first
    have none_yet := (known.fresh first).2
    rw [received]
    apply restarted []
    · exact Simulation.start_time_set_context _
    · exact congrArg QpContext.firstCnp (Simulation.contexts_set_context _)
    · rw [Simulation.increase_events_record, Simulation.increase_events_schedule (.inl rfl),
        Simulation.increase_events_schedule_other (by simp [Increases]),
        Simulation.increase_events_schedule_other (by simp [Increases]),
        Simulation.increase_events_set_context, none_yet]
      rfl
    · intro event listed
      cases listed
    · intro change listed
      rw [Simulation.changes_record] at listed
      exact known.not_after listed rfl
    · rw [Simulation.changes_record]
      exact List.pairwise_cons.2 ⟨fun _ _ => trivial, known.apart⟩
  · have received : receiveCnp options simulation.now (simulation.contexts qpId) =
        { simulation.contexts qpId with
          alphaCnpArrived := true
          decreaseCnpArrived := true } := if_neg first
    rw [received]
    exact known.of_quiet (.set_own rfl rfl fun again => absurd again first)

/-- A decrease makes the timer of an earlier instant stale. -/
theorem decrease (known : Single options simulation qpId)
    (arrived : (simulation.contexts qpId).decreaseCnpArrived = true)
    (earlier : simulation.startTime qpId ≠ simulation.now)
    (none_under_way : ∀ event ∈ simulation.increaseEvents qpId,
      event.callback ≠ .rateIncreaseLookup qpId) :
    Single options (simulation.run options (.rateDecreaseLookup qpId)) qpId := by
  have notified : (simulation.contexts qpId).firstCnp = false := by
    by_contra first
    have unset := (known.fresh (Bool.eq_true_of_not_eq_false first)).1
    rw [arrived] at unset
    cases unset
  have before := known.started
  have events := Simulation.decrease_events options arrived
  have startTime := Simulation.decrease_start_time options arrived
  unfold Simulation.run at events startTime ⊢
  dsimp only at events startTime ⊢
  rw [if_pos arrived] at events startTime ⊢
  apply restarted (simulation.increaseEvents qpId)
  · exact startTime
  · exact (congrArg QpContext.firstCnp (Simulation.contexts_set_context _)).trans notified
  · exact events
  · intro event listed
    have due := known.timers event listed
    refine ⟨none_under_way event listed, ?_⟩
    change event.due < simulation.now + microseconds options.timeReset
    omega
  · intro change listed
    rw [Simulation.changes_record] at listed
    exact known.not_after listed rfl
  · rw [Simulation.changes_record]
    exact List.pairwise_cons.2 ⟨fun _ _ => trivial, known.apart⟩

/-- Queue pairs that have an increase event were notified of congestion. -/
theorem notified_of_mem (known : Single options simulation qpId) {event : Scheduled Qp}
    (listed : event ∈ simulation.increaseEvents qpId) :
    (simulation.contexts qpId).firstCnp = false := by
  by_contra first
  have none_yet := (known.fresh (Bool.eq_true_of_not_eq_false first)).2
  rw [none_yet] at listed
  cases listed

/-- An event goes, and if it was valid another one takes its place. -/
theorem exchange (known : Single options simulation qpId) {event : Scheduled Qp}
    {rest added : List (Scheduled Qp)} (now : next.now = simulation.now)
    (contexts : next.contexts = simulation.contexts) (changes : next.changes = simulation.changes)
    (before : (simulation.increaseEvents qpId).Perm (event :: rest))
    (after : next.increaseEvents qpId = rest ++ added)
    (valid : ∀ new ∈ added, new.due = simulation.now ∧
      simulation.now = simulation.startTime qpId + microseconds options.timeReset)
    (counts : added.countP (simulation.Alive options qpId) =
      [event].countP (simulation.Alive options qpId)) : Single options next qpId := by
  have startTime : next.startTime qpId = simulation.startTime qpId := by
    unfold Simulation.startTime
    rw [contexts]
  have notified := known.notified_of_mem (before.mem_iff.2 List.mem_cons_self)
  have old : ∀ kept ∈ rest, kept ∈ simulation.increaseEvents qpId :=
    fun kept listed => before.mem_iff.2 (List.mem_cons_of_mem _ listed)
  constructor
  · rw [startTime, now]
    exact known.started
  · intro kept listed
    rw [after] at listed
    rw [startTime]
    rcases List.mem_append.1 listed with stays | new
    · exact known.timers kept (old kept stays)
    · obtain ⟨due, valid⟩ := valid kept new
      omega
  · intro kept listed callback
    rw [after] at listed
    rw [startTime, now]
    rcases List.mem_append.1 listed with stays | new
    · exact known.lookups kept (old kept stays) callback
    · exact valid kept new
  · intro first
    rw [contexts, notified] at first
    cases first
  · intro _
    have one := known.single notified
    have same : next.Alive options qpId = simulation.Alive options qpId := by
      funext kept
      unfold Simulation.Alive
      rw [contexts]
    rw [Simulation.chains_eq, before.countP_eq, ← List.singleton_append,
      List.countP_append] at one
    rw [Simulation.chains_eq, after, List.countP_append]
    simp only [same]
    omega
  · rw [changes, startTime]
    exact known.recorded
  · rw [changes]
    exact known.apart

/-- A stale timer does nothing, and a valid one initiates the lookup. -/
theorem timer (known : Single options simulation qpId)
    (listed : Scheduled.mk simulation.now (.rateIncreaseTimer qpId) ∈ simulation.scheduled) :
    Single options
      (Simulation.run options
        { simulation with
          scheduled := simulation.scheduled.erase
            (Scheduled.mk simulation.now (.rateIncreaseTimer qpId)) }
        (.rateIncreaseTimer qpId)) qpId := by
  have before : (simulation.increaseEvents qpId).Perm _ :=
    Simulation.increase_events_erase listed (.inl rfl)
  unfold Simulation.run
  dsimp only
  split_ifs with stale
  · have dead : ¬ simulation.Alive options qpId
        (Scheduled.mk simulation.now (.rateIncreaseTimer qpId)) := by
      rintro (lookup | ⟨-, due⟩)
      · cases lookup
      · exact stale due.symm
    refine known.exchange rfl rfl rfl before (List.append_nil _).symm ?_ ?_
    · intro new listed
      cases listed
    · rw [List.countP_singleton, if_neg (by simpa using dead)]
      rfl
  · have valid := not_not.1 stale
    have alive : simulation.Alive options qpId
        (Scheduled.mk simulation.now (.rateIncreaseTimer qpId)) :=
      .inr ⟨rfl, valid.symm⟩
    have under_way : simulation.Alive options qpId
        (Scheduled.mk (simulation.now + 0) (.rateIncreaseLookup qpId)) :=
      .inl rfl
    refine known.exchange rfl rfl rfl before (Simulation.increase_events_schedule (.inr rfl)) ?_ ?_
    · intro new listed
      rw [List.mem_singleton.1 listed]
      exact ⟨rfl, valid.symm⟩
    · rw [List.countP_singleton, List.countP_singleton, if_pos (by simpa using under_way),
        if_pos (by simpa using alive)]

/-- An increase starts the timer anew when no other is left. -/
theorem increase (known : Single options simulation qpId)
    (ahead : Ahead simulation)
    (listed : Scheduled.mk simulation.now (.rateIncreaseLookup qpId) ∈ simulation.scheduled) :
    Single options
      (Simulation.run options
        { simulation with
          scheduled := simulation.scheduled.erase
            (Scheduled.mk simulation.now (.rateIncreaseLookup qpId)) }
        (.rateIncreaseLookup qpId)) qpId := by
  have before : (simulation.increaseEvents qpId).Perm _ :=
    Simulation.increase_events_erase listed (.inr rfl)
  have first := before.mem_iff.2 List.mem_cons_self
  have notified := known.notified_of_mem first
  have reset := (known.lookups _ first rfl).2
  have one := known.single notified
  rw [Simulation.chains_eq, before.countP_eq, List.countP_cons_of_pos (by simp [Simulation.Alive])]
    at one
  have others := List.countP_eq_zero.1 (Nat.succ.inj one)
  unfold Simulation.run
  dsimp only
  apply restarted ((simulation.scheduled.erase
    (Scheduled.mk simulation.now (.rateIncreaseLookup qpId))).filter (Increases qpId))
  · exact Simulation.start_time_set_context _
  · exact (congrArg QpContext.firstCnp (Simulation.contexts_set_context _)).trans notified
  · rw [Simulation.increase_events_record, Simulation.increase_events_set_context,
      Simulation.increase_events_schedule (.inl rfl)]
    rfl
  · intro event kept
    have due := known.timers event (before.mem_iff.2 (List.mem_cons_of_mem _ kept))
    have dead : ¬ simulation.Alive options qpId event := by simpa using others event kept
    have due_ahead := ahead event (List.mem_of_mem_erase (List.mem_filter.1 kept).1)
    have increases : Increases qpId event := by simpa using (List.mem_filter.1 kept).2
    rcases increases with timer | lookup
    · have unequal : event.due ≠ simulation.startTime qpId + microseconds options.timeReset :=
        fun same => dead (.inr ⟨timer, same⟩)
      omega
    · exact absurd (.inl lookup) dead
  · intro change listed
    rw [Simulation.changes_record] at listed
    exact known.not_after listed rfl
  · rw [Simulation.changes_record]
    refine List.pairwise_cons.2 ⟨fun earlier recorded => ?_, known.apart⟩
    have started := known.recorded earlier recorded
    change earlier.time + microseconds options.timeReset ≤ simulation.now
    omega

theorem bytes (known : Single options simulation qpId) {count : UInt32} {context : QpContext}
    (done : sentBytes options count (simulation.contexts qpId) = some context) :
    Single options (simulation.setContext qpId context) qpId := by
  obtain ⟨startTime, firstCnp, arrived⟩ := sent_bytes_keeps done
  exact known.of_quiet (.set_own startTime firstCnp fun _ => arrived)

theorem elapse (known : Single options simulation qpId) {later : ℕ}
    (forward : simulation.now ≤ later)
    (waits : ∀ event ∈ simulation.scheduled, later ≤ event.due) :
    Single options { simulation with now := later } qpId := by
  obtain ⟨started, timers, lookups, fresh, single, recorded, apart⟩ := known
  refine ⟨started.trans forward, timers, fun event listed callback => ?_, fresh, single, recorded,
    apart⟩
  -- a lookup is due at once, so time does not go on before it
  obtain ⟨due, reset⟩ := lookups event listed callback
  have no_later := waits event (List.mem_filter.1 listed).1
  have same : later = simulation.now := by omega
  change event.due = later ∧ later = _
  rw [same]
  exact ⟨due, reset⟩

/-- What a queue pair keeps when an event that is due runs. -/
theorem event (known : Single options simulation qpId) {callback : Callback Qp}
    (ahead : Ahead simulation)
    (listed : Scheduled.mk simulation.now callback ∈ simulation.scheduled)
    (undisturbed : simulation.Undisturbed (.event callback)) :
    Single options
      (Simulation.run options
        { simulation with
          scheduled := simulation.scheduled.erase (Scheduled.mk simulation.now callback) }
        callback) qpId := by
  by_cases other : qpId ≠ callback.owner
  · have erased := known.of_quiet (.erase listed (not_increases_other other))
    exact erased.of_quiet (.run_other _ other)
  · cases not_not.1 other
    cases callback with
    | alphaUpdateTimer owner =>
      have erased := known.of_quiet (.erase listed (by simp [Increases, Callback.owner]))
      exact erased.of_quiet (.schedule _ _ (by simp [Increases]))
    | rateDecreaseTimer owner =>
      have erased := known.of_quiet (.erase listed (by simp [Increases, Callback.owner]))
      exact erased.of_quiet (.schedule _ _ (by simp [Increases]))
    | rateIncreaseTimer owner => exact known.timer listed
    | alphaUpdateLookup owner =>
      have erased := known.of_quiet (.erase listed (by simp [Increases, Callback.owner]))
      refine erased.of_quiet (.trans ?_ (.schedule _ _ (by simp [Increases])))
      exact .set_own rfl rfl fun _ => rfl
    | rateDecreaseLookup owner =>
      have erased := known.of_quiet (.erase listed (by simp [Increases, Callback.owner]))
      cases arrived : (simulation.contexts owner).decreaseCnpArrived with
      | false =>
        unfold Simulation.run
        dsimp only
        rw [arrived, if_neg (by decide)]
        exact erased.of_quiet (.schedule _ _ (by simp [Increases]))
      | true =>
        obtain ⟨earlier, none_under_way⟩ := undisturbed arrived
        apply erased.decrease arrived earlier
        intro event kept
        exact none_under_way event (List.mem_of_mem_erase (List.mem_filter.1 kept).1)
    | rateIncreaseLookup owner => exact known.increase ahead listed

end Single

/-! ## Runs -/

/-- No event is overdue, and each queue pair has one chain of timers from its first notification
on. -/
structure Sound (options : Options) (simulation : Simulation Qp) : Prop where
  ahead : Ahead simulation
  single : ∀ qpId, Single options simulation qpId

namespace Sound

theorem initial (options : Options) : Sound options (Simulation.start options : Simulation Qp) := by
  constructor
  · intro event listed
    cases listed
  · exact Single.initial options

theorem perform (sound : Sound options simulation) {action : Simulation.Action Qp}
    (undisturbed : simulation.Undisturbed action)
    (done : simulation.perform options action = some next) : Sound options next := by
  obtain ⟨ahead, single⟩ := sound
  cases action with
  | packet owner opcode =>
    cases Option.some.inj done
    refine ⟨ahead.packet owner opcode, fun qpId => ?_⟩
    by_cases other : qpId = owner
    · rw [other]
      exact (single owner).packet opcode
    · exact (single qpId).of_quiet (.packet_other simulation opcode other)
  | bytes owner count =>
    obtain ⟨context, counted, rfl⟩ := Option.map_eq_some_iff.1 done
    refine ⟨ahead, fun qpId => ?_⟩
    by_cases other : qpId = owner
    · rw [other]
      exact (single owner).bytes counted
    · exact (single qpId).of_quiet (.set_other simulation context other)
  | event callback =>
    unfold Simulation.perform at done
    dsimp only at done
    split_ifs at done with listed
    cases Option.some.inj done
    exact ⟨(ahead.erase _).run callback, fun qpId => (single qpId).event ahead listed undisturbed⟩
  | elapse later =>
    unfold Simulation.perform at done
    dsimp only at done
    split_ifs at done with allowed
    cases Option.some.inj done
    exact ⟨allowed.2, fun qpId => (single qpId).elapse allowed.1 allowed.2⟩

end Sound

/-- The rate changes of a queue pair are apart, and no more than one chain of timers goes on. -/
def OneChain (options : Options) (simulation : Simulation Qp) : Prop :=
  ∀ qpId, (simulation.changes qpId).Pairwise (Apart options) ∧ simulation.chains options qpId ≤ 1

theorem Sound.one_chain (sound : Sound options simulation) : OneChain options simulation := by
  intro qpId
  obtain ⟨started, timers, lookups, fresh, single, recorded, apart⟩ := sound.single qpId
  refine ⟨apart, ?_⟩
  cases first : (simulation.contexts qpId).firstCnp with
  | false => exact (single first).le
  | true =>
    rw [Simulation.chains_eq, (fresh first).2]
    exact Nat.zero_le _

/-- A decrease while an increase is under way, or at the instant of the last one, starts a second
chain. -/
theorem Single.doubled (known : Single options simulation qpId)
    (arrived : (simulation.contexts qpId).decreaseCnpArrived = true)
    (disturbed : simulation.startTime qpId = simulation.now ∨
      ∃ event ∈ simulation.increaseEvents qpId, event.callback = .rateIncreaseLookup qpId) :
    1 < (simulation.run options (.rateDecreaseLookup qpId)).chains options qpId := by
  have notified : (simulation.contexts qpId).firstCnp = false := by
    by_contra first
    have unset := (known.fresh (Bool.eq_true_of_not_eq_false first)).1
    rw [arrived] at unset
    cases unset
  have one := known.single notified
  have events := Simulation.decrease_events options arrived
  have startTime := Simulation.decrease_start_time options arrived
  set next := simulation.run options (.rateDecreaseLookup qpId) with result
  have valid : next.Alive options qpId
      (Scheduled.mk (simulation.now + microseconds options.timeReset)
        (.rateIncreaseTimer qpId)) :=
    .inr ⟨rfl, congrArg (· + microseconds options.timeReset) startTime.symm⟩
  have survivor : 0 < (simulation.increaseEvents qpId).countP (next.Alive options qpId) := by
    rcases disturbed with now | ⟨event, listed, lookup⟩
    · have same : next.Alive options qpId = simulation.Alive options qpId := by
        funext event
        unfold Simulation.Alive
        unfold Simulation.startTime at startTime now
        rw [startTime, now]
      rw [Simulation.chains_eq] at one
      simp only [same]
      omega
    · exact List.countP_pos_iff.2 ⟨event, listed, decide_eq_true (.inl lookup)⟩
  rw [Simulation.chains_eq, events, List.countP_append, List.countP_singleton,
    if_pos (decide_eq_true valid)]
  omega

/-- An action that disturbs the increase timer leaves two chains. -/
theorem Sound.not_one_chain (sound : Sound options simulation) {action : Simulation.Action Qp}
    (disturbed : ¬ simulation.Undisturbed action)
    (done : simulation.perform options action = some next) : ¬ OneChain options next := by
  cases action with
  | packet owner opcode => exact absurd trivial disturbed
  | bytes owner count => exact absurd trivial disturbed
  | elapse later => exact absurd trivial disturbed
  | event callback =>
    cases callback with
    | alphaUpdateTimer owner => exact absurd trivial disturbed
    | rateDecreaseTimer owner => exact absurd trivial disturbed
    | rateIncreaseTimer owner => exact absurd trivial disturbed
    | alphaUpdateLookup owner => exact absurd trivial disturbed
    | rateIncreaseLookup owner => exact absurd trivial disturbed
    | rateDecreaseLookup owner =>
      unfold Simulation.perform at done
      dsimp only at done
      split_ifs at done with listed
      cases Option.some.inj done
      unfold Simulation.Undisturbed at disturbed
      push Not at disturbed
      obtain ⟨arrived, lookup⟩ := disturbed
      have other : ¬ Increases owner
          (Scheduled.mk simulation.now (.rateDecreaseLookup owner)) := by simp [Increases]
      have erased := (sound.single owner).of_quiet (.erase listed other)
      have two := erased.doubled arrived (by
        by_cases same : simulation.startTime owner = simulation.now
        · exact .inl same
        · obtain ⟨event, pending, callback⟩ := lookup same
          refine .inr ⟨event, ?_, callback⟩
          have kept := (Simulation.increase_events_erase_other listed other).mem_iff (a := event)
          exact kept.1 (List.mem_filter.2 ⟨pending, decide_eq_true (.inr callback)⟩))
      intro one
      have bounded := (one owner).2
      omega

theorem sound_of_reachable
    (reached : Reachable (· = Simulation.start options) (Simulation.UndisturbedStep options)
      simulation) : Sound options simulation := by
  apply invariant_of_reachable _ _ reached
  · rintro initial rfl
    exact Sound.initial options
  · rintro before after sound ⟨action, undisturbed, done⟩
    exact sound.perform undisturbed done

/-- Options for which the first decrease and the first increase of a queue pair are due at once. -/
def alignedOptions : Options where
  dceAlphaUpdatePeriod := 300
  rateReduceMonitorPeriod := 300

/-- A second notification, and then both timers, with their checks before the two lookups. -/
def alignedActions : List (Simulation.Action Unit) :=
  [.packet () .congestionNotification, .packet () .congestionNotification,
    .elapse (microseconds 300), .event (.rateDecreaseTimer ()), .event (.rateIncreaseTimer ()),
    .event (.rateDecreaseLookup ()), .event (.rateIncreaseLookup ())]

/-- The rate is increased at the instant of the decrease, and two timers go on. -/
theorem aligned_timers_differ :
    ∃ simulation : Simulation Unit,
      Reachable (· = Simulation.start alignedOptions) (Simulation.Step alignedOptions)
        simulation ∧
      ¬ (simulation.changes ()).Pairwise (Apart alignedOptions) ∧
      simulation.chains alignedOptions () = 2 := by
  have executed : (execute (Simulation.perform alignedOptions) alignedActions
      (Simulation.start alignedOptions)).any (fun simulation =>
        decide (¬ (simulation.changes ()).Pairwise (Apart alignedOptions) ∧
          simulation.chains alignedOptions () = 2)) = true := by
    decide
  have taken : ∀ (before : Simulation Unit) action after,
      before.perform alignedOptions action = some after → before.Step alignedOptions after :=
    fun _ action _ done => ⟨action, done⟩
  obtain ⟨simulation, reached, differs⟩ := @reached_with _
    (· = Simulation.start alignedOptions) _ _ _ taken _ _ rfl _ executed
  exact ⟨simulation, reached, of_decide_eq_true differs⟩

/-- As long as no decrease disturbs an increase, the increases are apart and one chain of timers goes
on, and the first decrease that does starts a second one. -/
theorem one_timer_chain
    (reached : Reachable (· = Simulation.start options) (Simulation.UndisturbedStep options)
      simulation) :
    OneChain options simulation ∧
      ∀ action next, simulation.perform options action = some next →
        (OneChain options next ↔ simulation.Undisturbed action) := by
  have sound := sound_of_reachable reached
  refine ⟨sound.one_chain, fun action next done => ⟨fun one => ?_, fun undisturbed => ?_⟩⟩
  · by_contra disturbed
    exact sound.not_one_chain disturbed done one
  · exact (sound.perform undisturbed done).one_chain

theorem one_timer_chain_at_start :
    OneChain alignedOptions (Simulation.start alignedOptions : Simulation Unit) ∧
      ∀ action next, (Simulation.start alignedOptions).perform alignedOptions action = some next →
        (OneChain alignedOptions next ↔
          (Simulation.start alignedOptions : Simulation Unit).Undisturbed action) :=
  one_timer_chain (reachable_initial rfl)

end Isekai.DcqcnTimers
