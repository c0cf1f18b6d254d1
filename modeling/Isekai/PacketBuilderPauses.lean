import Isekai.PacketBuilder
import Isekai.RouterPauses

/-! The pauses of a host's packet builder. Every PFC frame has an event of its own, so no frame
comes too early, and the end of the pause is that of the frame processed last. The wake-up of a
pause that a later frame replaced finds another end recorded and does nothing. -/

namespace Isekai.PacketBuilderPauses
open PacketBuilder

variable {config : PacketBuilder.Config} {builder next : Builder}
variable {priority : ℕ}

/-! ## Sending leaves pauses alone -/

/-- The events scheduled anew only send packets, and the paused queues are the same. -/
structure Sends (builder next : Builder) : Prop where
  now : next.now = builder.now
  unpauseTimes : next.txQueueUnpauseTimes = builder.txQueueUnpauseTimes
  paused : ∀ priority, next.queueStates priority = .paused ↔ builder.queueStates priority = .paused
  kept : ∀ event ∈ builder.scheduled, event ∈ next.scheduled
  added : ∀ event ∈ next.scheduled, event ∈ builder.scheduled ∨
    ∃ priority, event.callback = .encapsulateAndSend priority

/-- Nothing is scheduled, and the queues are as before. -/
theorem Sends.of_same (now : next.now = builder.now)
    (unpauseTimes : next.txQueueUnpauseTimes = builder.txQueueUnpauseTimes)
    (queueStates : next.queueStates = builder.queueStates)
    (scheduled : next.scheduled = builder.scheduled) : Sends builder next := by
  refine ⟨now, unpauseTimes, fun priority => ?_, fun event listed => ?_, fun event listed => ?_⟩
  · rw [queueStates]
  · rwa [scheduled]
  · rw [scheduled] at listed
    exact .inl listed

theorem Sends.refl (builder : Builder) : Sends builder builder := .of_same rfl rfl rfl rfl

theorem Sends.trans {builder middle next : Builder} (one : Sends builder middle)
    (two : Sends middle next) : Sends builder next := by
  refine ⟨two.now.trans one.now, two.unpauseTimes.trans one.unpauseTimes,
    fun priority => (two.paused priority).trans (one.paused priority),
    fun event listed => two.kept event (one.kept event listed), fun event listed => ?_⟩
  rcases two.added event listed with before | sends
  · exact one.added event before
  · exact .inr sends

theorem set_state_sends {state : QueueState} (awake : builder.queueStates priority ≠ .paused)
    (unpaused : state ≠ .paused) : Sends builder (builder.setQueueState priority state) := by
  refine ⟨rfl, rfl, fun other => ?_, fun _ listed => listed, fun _ listed => .inl listed⟩
  unfold Builder.setQueueState
  dsimp only
  by_cases same : other = priority
  · rw [same, Function.update_self]
    exact iff_of_false unpaused awake
  · rw [Function.update_of_ne same]

theorem flow_control_sends (config : PacketBuilder.Config) (builder : Builder) (xoff : Bool) :
    Sends builder (builder.setFalconFlowControl config xoff) := by
  unfold Builder.setFalconFlowControl
  split_ifs
  · exact .of_same rfl rfl rfl rfl
  · exact .refl builder

theorem pfc_xoff_sends (config : PacketBuilder.Config) (builder : Builder) (xoff : Bool) :
    Sends builder (builder.setPfcXoff config xoff) := by
  unfold Builder.setPfcXoff
  split_ifs
  · exact .of_same rfl rfl rfl rfl
  · exact .refl builder

theorem schedule_event_eq_ok {delay : ℤ} {callback : Callback} :
    builder.scheduleEvent delay callback = .ok next ↔ 0 ≤ delay ∧
      { builder with
        scheduled := builder.scheduled ++ [Scheduled.mk (builder.now + delay) callback] } =
        next := by
  unfold Builder.scheduleEvent
  by_cases negative : delay < 0
  · have refused : ¬ 0 ≤ delay := by omega
    simp [negative, refused]
  · have allowed : 0 ≤ delay := by omega
    simp [negative, allowed]

theorem encapsulate_sends (done : builder.encapsulateAndSend config priority = .ok next) :
    Sends builder next := by
  unfold Builder.encapsulateAndSend at done
  by_cases paused : builder.queueStates priority = .paused
  · rw [if_pos paused] at done
    cases done
    exact .refl builder
  rw [if_neg paused] at done
  cases queue : builder.txQueue with
  | nil =>
    rw [queue] at done
    cases done
    exact set_state_sends paused (by decide)
  | cons packet rest =>
    rw [queue] at done
    obtain ⟨-, rfl⟩ := schedule_event_eq_ok.1 done
    have dequeued : Sends builder
        { builder with txQueue := rest, sent := builder.sent ++ [packet] } :=
      .of_same rfl rfl rfl rfl
    have relieved : Sends builder
        (if !packet.isRoce && rest.length + 1 = config.txQueueLengthThreshold then
          Builder.setFalconFlowControl config
            { builder with txQueue := rest, sent := builder.sent ++ [packet] } false
        else { builder with txQueue := rest, sent := builder.sent ++ [packet] }) := by
      split_ifs
      · exact dequeued.trans (flow_control_sends config _ false)
      · exact dequeued
    refine ⟨relieved.now, relieved.unpauseTimes, relieved.paused, fun event listed => ?_,
      fun event listed => ?_⟩
    · exact List.mem_append_left _ (relieved.kept event listed)
    · rcases List.mem_append.1 listed with before | new
      · exact relieved.added event before
      · rw [List.mem_singleton.1 new]
        exact .inr ⟨priority, rfl⟩

theorem enqueue_packet_sends {packet : TxPacket}
    (done : builder.enqueuePacket config packet = .ok next) : Sends builder next := by
  unfold Builder.enqueuePacket at done
  dsimp only at done
  generalize limitation : (if (builder.txQueue ++ [packet]).length = config.txQueueLengthThreshold
    then Builder.setFalconFlowControl config
      { builder with txQueue := builder.txQueue ++ [packet] } true
    else { builder with txQueue := builder.txQueue ++ [packet] }) = limited at done
  have enqueued : Sends builder { builder with txQueue := builder.txQueue ++ [packet] } :=
    .of_same rfl rfl rfl rfl
  have filled : Sends builder limited := by
    rw [← limitation]
    split_ifs
    · exact enqueued.trans (flow_control_sends config _ true)
    · exact enqueued
  by_cases idle : limited.queueStates 0 = .idle
  · rw [if_pos idle] at done
    have awake : limited.queueStates 0 ≠ .paused := by
      rw [idle]
      nofun
    have active : Sends limited (limited.setQueueState 0 .active) :=
      set_state_sends awake (by decide)
    exact (filled.trans active).trans (encapsulate_sends done)
  · rw [if_neg idle] at done
    cases done
    exact filled

/-! ## Received frames -/

/-- The event that sets the pause of a frame in one of its classes. -/
def eventOf (config : PacketBuilder.Config) (now : ℤ) (frame : PacketBuilder.PfcFrame)
    (priority : ℕ) : Scheduled where
  due := now + config.rxPfcDelay
  callback := .setPfcPaused priority (config.pauseDuration (frame.timeClass priority))

/-- No frame is refused, and each has its own events. -/
theorem handle_classes (config : PacketBuilder.Config) (frame : PacketBuilder.PfcFrame)
    (classes : List ℕ) (builder : Builder) :
    classes.foldlM (Builder.handleClass config frame) builder =
      .ok { builder with
        scheduled := builder.scheduled ++
          (classes.filter frame.classEnable).map (eventOf config builder.now frame) } := by
  induction classes generalizing builder with
  | nil => simp [pure, Except.pure]
  | cons first rest ih =>
    rw [List.foldlM_cons]
    cases enabled : frame.classEnable first with
    | false =>
      have skipped : builder.handleClass config frame first = .ok builder := by
        simp [Builder.handleClass, enabled]
      rw [skipped, List.filter_cons_of_neg (by simp [enabled])]
      exact ih builder
    | true =>
      have scheduled : builder.handleClass config frame first =
          .ok { builder with
            scheduled := builder.scheduled ++ [eventOf config builder.now frame first] } := by
        unfold Builder.handleClass
        rw [if_pos enabled]
        exact schedule_event_eq_ok.2 ⟨Int.natCast_nonneg _, rfl⟩
      rw [scheduled, List.filter_cons_of_pos enabled]
      refine (ih _).trans ?_
      simp

/-! ## The end of a pause -/

/-- A paused queue has the wake-up of its pause ahead, and a queue whose pause is not over is
paused. -/
structure Timed (builder : Builder) : Prop where
  wakeUps : ∀ event ∈ builder.scheduled, ∀ priority unpausedTime,
    event.callback = .wakeUpTxQueue priority unpausedTime → event.due = unpausedTime
  paused : ∀ priority, builder.now < builder.txQueueUnpauseTimes priority →
    builder.queueStates priority = .paused
  waits : ∀ priority, builder.queueStates priority = .paused →
    Scheduled.mk (builder.txQueueUnpauseTimes priority)
      (.wakeUpTxQueue priority (builder.txQueueUnpauseTimes priority)) ∈ builder.scheduled

theorem Timed.sends (timed : Timed builder) (sends : Sends builder next) : Timed next := by
  refine ⟨fun event listed priority unpausedTime wakes => ?_, fun priority => ?_,
    fun priority => ?_⟩
  · rcases sends.added event listed with before | ⟨other, encapsulates⟩
    · exact timed.wakeUps event before priority unpausedTime wakes
    · rw [encapsulates] at wakes
      cases wakes
  · rw [sends.now, sends.unpauseTimes, sends.paused priority]
    exact timed.paused priority
  · rw [sends.unpauseTimes, sends.paused priority]
    exact fun paused => sends.kept _ (timed.waits priority paused)

/-- An event that no paused queue waits for is taken out. -/
theorem Timed.take (timed : Timed builder) {event : Scheduled}
    (spare : ∀ priority, builder.queueStates priority = .paused →
      event.callback ≠ .wakeUpTxQueue priority (builder.txQueueUnpauseTimes priority)) :
    Timed { builder with scheduled := builder.scheduled.erase event } := by
  refine ⟨fun other listed => timed.wakeUps other (List.mem_of_mem_erase listed), timed.paused,
    fun priority paused => ?_⟩
  have apart : Scheduled.mk (builder.txQueueUnpauseTimes priority)
      (.wakeUpTxQueue priority (builder.txQueueUnpauseTimes priority)) ≠ event := by
    rintro rfl
    exact spare priority paused rfl
  exact (List.mem_erase_of_ne apart).2 (timed.waits priority paused)

theorem Timed.set_paused (timed : Timed builder) {pauseDuration : ℤ}
    (done : builder.setPfcPaused config priority pauseDuration = .ok next) :
    Timed next ∧ next.now = builder.now ∧
      (∀ other, builder.queueStates other = .paused → next.queueStates other = .paused) ∧
      next.txQueueUnpauseTimes =
        Function.update builder.txQueueUnpauseTimes priority (builder.now + pauseDuration) := by
  unfold Builder.setPfcPaused at done
  generalize telling : builder.setPfcXoff config (decide (pauseDuration ≠ 0)) = told at done
  have sends : Sends builder told := telling ▸ pfc_xoff_sends config builder _
  have before : Timed told := timed.sends sends
  obtain ⟨-, rfl⟩ := schedule_event_eq_ok.1 done
  rw [← sends.now, ← sends.unpauseTimes]
  refine ⟨⟨fun event listed other unpausedTime wakes => ?_, fun other => ?_, fun other => ?_⟩,
    rfl, fun other paused => ?_, rfl⟩
  · rcases List.mem_append.1 listed with old | new
    · exact before.wakeUps event old other unpausedTime wakes
    · cases List.mem_singleton.1 new
      cases wakes
      rfl
  · unfold Builder.setQueueState
    dsimp only
    by_cases same : other = priority
    · rw [same, Function.update_self, Function.update_self]
      exact fun _ => rfl
    · rw [Function.update_of_ne same, Function.update_of_ne same]
      exact before.paused other
  · unfold Builder.setQueueState
    dsimp only
    by_cases same : other = priority
    · rw [same, Function.update_self, Function.update_self]
      exact fun _ => List.mem_append_right _ (List.mem_singleton_self _)
    · rw [Function.update_of_ne same, Function.update_of_ne same]
      exact fun paused => List.mem_append_left _ (before.waits other paused)
  · unfold Builder.setQueueState
    dsimp only
    by_cases same : other = priority
    · rw [same, Function.update_self]
    · rw [Function.update_of_ne same]
      exact (sends.paused other).2 paused

/-- The wake-up of the last pause runs at its end. -/
theorem Timed.awake (timed : Timed builder) {priority : ℕ}
    (beyond : builder.txQueueUnpauseTimes priority ≤ builder.now) :
    Timed { builder.setQueueState priority .active with
      scheduled := builder.scheduled.erase
        (Scheduled.mk (builder.txQueueUnpauseTimes priority)
          (.wakeUpTxQueue priority (builder.txQueueUnpauseTimes priority))) } := by
  unfold Builder.setQueueState
  refine ⟨fun event listed => timed.wakeUps event (List.mem_of_mem_erase listed),
    fun other => ?_, fun other => ?_⟩
  · dsimp only
    by_cases same : other = priority
    · rw [same]
      omega
    · rw [Function.update_of_ne same]
      exact timed.paused other
  · dsimp only
    by_cases same : other = priority
    · rw [same, Function.update_self]
      nofun
    · rw [Function.update_of_ne same]
      intro paused
      have apart : Scheduled.mk (builder.txQueueUnpauseTimes other)
          (.wakeUpTxQueue other (builder.txQueueUnpauseTimes other)) ≠
          Scheduled.mk (builder.txQueueUnpauseTimes priority)
            (.wakeUpTxQueue priority (builder.txQueueUnpauseTimes priority)) := by
        intro equal
        exact same (Callback.wakeUpTxQueue.inj (Scheduled.mk.inj equal).2).1
      exact (List.mem_erase_of_ne apart).2 (timed.waits other paused)

/-! ## A packet builder beside the frames that it processed -/

structure World where
  builder : Builder
  /-- The end of the pause of the frame that was processed last, by priority. -/
  lastEnd : ℕ → ℤ := fun _ => 0

/-- The books after an event: those that set a pause process a frame. -/
def World.record (world : World) (next : Builder) : Event → World
  | .run ⟨_, .setPfcPaused priority pauseDuration⟩ =>
    { builder := next
      lastEnd := Function.update world.lastEnd priority (world.builder.now + pauseDuration) }
  | _ => { world with builder := next }

def World.perform (config : PacketBuilder.Config) (world : World) (event : Event) :
    Except Fatal World :=
  (PacketBuilder.perform config world.builder event).map fun next => world.record next event

def World.Step (config : PacketBuilder.Config) (world next : World) : Prop :=
  ∃ event, event.Possible config world.builder ∧ world.perform config event = .ok next

def World.Initial (world : World) : Prop := world = { builder := {} }

/-- The books agree with the packet builder. -/
structure Booked (world : World) : Prop where
  timed : Timed world.builder
  ends : world.builder.txQueueUnpauseTimes = world.lastEnd

/-- The queue of a priority is paused before an event and not after it. -/
def Resumes (before after : Builder) (priority : ℕ) : Prop :=
  before.queueStates priority = .paused ∧ after.queueStates priority ≠ .paused

/-- Of an event of a packet builder: a frame gets events of its own for its classes, the pause of
every queue ends as the frame processed last says and not earlier, with a wake-up that is
scheduled, and a queue that resumes was paused by no later frame. -/
structure Kept (config : PacketBuilder.Config) (world : World) (event : Event) : Prop where
  handled : ∀ frame, event = .handlePfc frame → world.perform config event =
    .ok { world with builder := { world.builder with
      scheduled := world.builder.scheduled ++
        ((List.range PacketBuilder.classesOfService).filter frame.classEnable).map
          (eventOf config world.builder.now frame) } }
  ends : ∀ priority, world.builder.txQueueUnpauseTimes priority = world.lastEnd priority
  paused : ∀ priority, world.builder.now < world.lastEnd priority →
    world.builder.queueStates priority = .paused
  waits : ∀ priority, world.builder.queueStates priority = .paused →
    Scheduled.mk (world.lastEnd priority) (.wakeUpTxQueue priority (world.lastEnd priority)) ∈
      world.builder.scheduled
  resumed : ∀ next, PacketBuilder.perform config world.builder event = .ok next →
    ∀ priority, Resumes world.builder next priority → world.lastEnd priority = world.builder.now

/-- A wake-up whose time is due resumes its queue if no later frame was processed. -/
theorem Timed.wake_up {unpausedTime : ℤ} (timed : Timed builder)
    (listed : Scheduled.mk builder.now (.wakeUpTxQueue priority unpausedTime) ∈ builder.scheduled)
    (done : Builder.wakeUpTxQueue config
      { builder with
        scheduled := builder.scheduled.erase
          (Scheduled.mk builder.now (.wakeUpTxQueue priority unpausedTime)) }
      priority unpausedTime = .ok next) :
    Timed next ∧ next.now = builder.now ∧
      (∀ other, Resumes builder next other → builder.txQueueUnpauseTimes other = builder.now) ∧
      next.txQueueUnpauseTimes = builder.txQueueUnpauseTimes := by
  have instant : builder.now = unpausedTime := timed.wakeUps _ listed priority unpausedTime rfl
  unfold Builder.wakeUpTxQueue at done
  by_cases last : unpausedTime = builder.txQueueUnpauseTimes priority
  · have same : Scheduled.mk builder.now (.wakeUpTxQueue priority unpausedTime) =
        Scheduled.mk (builder.txQueueUnpauseTimes priority)
          (.wakeUpTxQueue priority (builder.txQueueUnpauseTimes priority)) := by
      rw [instant, last]
    rw [if_pos last, same] at done
    have awake := @Timed.awake builder timed priority (by omega)
    have sends : Sends { builder.setQueueState priority .active with
        scheduled := builder.scheduled.erase
          (Scheduled.mk (builder.txQueueUnpauseTimes priority)
            (.wakeUpTxQueue priority (builder.txQueueUnpauseTimes priority))) } next := by
      refine Sends.trans ?_ (encapsulate_sends done)
      unfold Builder.setPfcXoff
      split_ifs <;> exact .of_same rfl rfl rfl rfl
    refine ⟨awake.sends sends, sends.now, fun other resumes => ?_, sends.unpauseTimes⟩
    by_cases same : other = priority
    · rw [same]
      omega
    · have stays : (builder.setQueueState priority .active).queueStates other = .paused :=
        (Function.update_of_ne same _ _).trans resumes.1
      exact absurd ((sends.paused other).2 stays) resumes.2
  · rw [if_neg last] at done
    cases done
    have spare : ∀ other, builder.queueStates other = .paused →
        Callback.wakeUpTxQueue priority unpausedTime ≠
          .wakeUpTxQueue other (builder.txQueueUnpauseTimes other) := by
      rintro other - equal
      cases equal
      exact last rfl
    exact ⟨timed.take spare, rfl, fun other resumes => absurd resumes.1 resumes.2, rfl⟩

/-- A run of a due event resumes a queue only at the end of its pause. -/
theorem run_spec {event : Scheduled} (timed : Timed builder)
    (listed : event ∈ builder.scheduled) (due : event.due = builder.now)
    (done : builder.run config event = .ok next) :
    Timed next ∧ next.now = builder.now ∧
      (∀ priority, Resumes builder next priority →
        builder.txQueueUnpauseTimes priority = builder.now) ∧
      next.txQueueUnpauseTimes = match event.callback with
        | .setPfcPaused priority pauseDuration =>
          Function.update builder.txQueueUnpauseTimes priority (builder.now + pauseDuration)
        | _ => builder.txQueueUnpauseTimes := by
  obtain ⟨time, callback⟩ := event
  dsimp only at due ⊢
  subst due
  cases callback with
  | setPfcPaused priority pauseDuration =>
    have taken : Timed { builder with
        scheduled := builder.scheduled.erase
          ⟨builder.now, .setPfcPaused priority pauseDuration⟩ } :=
      timed.take fun _ _ => nofun
    obtain ⟨after, now, stay, ends⟩ := taken.set_paused done
    exact ⟨after, now, fun other resumes => absurd (stay other resumes.1) resumes.2, ends⟩
  | wakeUpTxQueue priority unpausedTime => exact timed.wake_up listed done
  | encapsulateAndSend priority =>
    have taken : Timed { builder with
        scheduled := builder.scheduled.erase ⟨builder.now, .encapsulateAndSend priority⟩ } :=
      timed.take fun _ _ => nofun
    have sends := encapsulate_sends done
    refine ⟨taken.sends sends, sends.now, fun other resumes => ?_, sends.unpauseTimes⟩
    exact absurd ((sends.paused other).2 resumes.1) resumes.2

theorem World.perform_eq_ok {world next : World} {event : Event} :
    world.perform config event = .ok next ↔
      ∃ builder, PacketBuilder.perform config world.builder event = .ok builder ∧
        world.record builder event = next := by
  unfold World.perform
  rw [map_eq_ok]

theorem handle_pfc_eq (config : PacketBuilder.Config) (builder : Builder)
    (frame : PacketBuilder.PfcFrame) :
    builder.handlePfc config frame =
      .ok { builder with
        scheduled := builder.scheduled ++
          ((List.range PacketBuilder.classesOfService).filter frame.classEnable).map
            (eventOf config builder.now frame) } :=
  handle_classes config frame _ builder

/-- A frame only adds events that set pauses later. -/
theorem Timed.handle (timed : Timed builder) {frame : PacketBuilder.PfcFrame}
    (done : builder.handlePfc config frame = .ok next) : Timed next := by
  rw [handle_pfc_eq] at done
  cases done
  refine ⟨fun event listed priority unpausedTime wakes => ?_, timed.paused, fun priority paused =>
    List.mem_append_left _ (timed.waits priority paused)⟩
  rcases List.mem_append.1 listed with before | new
  · exact timed.wakeUps event before priority unpausedTime wakes
  · obtain ⟨other, -, rfl⟩ := List.mem_map.1 new
    cases wakes

theorem Timed.advance (timed : Timed builder) {time : ℤ} (later : builder.now < time) :
    Timed { builder with now := time } :=
  ⟨timed.wakeUps, fun priority pausing => timed.paused priority (later.trans pausing),
    timed.waits⟩

theorem booked_step {world next : World} (booked : Booked world)
    (taken : world.Step config next) : Booked next := by
  obtain ⟨event, possible, performed⟩ := taken
  obtain ⟨builder, done, rfl⟩ := World.perform_eq_ok.1 performed
  cases event with
  | enqueuePacket packet =>
    have sends := enqueue_packet_sends done
    exact ⟨booked.timed.sends sends, sends.unpauseTimes.trans booked.ends⟩
  | handlePfc frame =>
    refine ⟨booked.timed.handle done, ?_⟩
    rw [PacketBuilder.perform, handle_pfc_eq] at done
    cases done
    exact booked.ends
  | run event =>
    obtain ⟨timed, -, -, ends⟩ := run_spec booked.timed possible.1 possible.2 done
    obtain ⟨due, callback⟩ := event
    cases callback with
    | setPfcPaused priority pauseDuration =>
      refine ⟨timed, ends.trans ?_⟩
      dsimp only
      rw [booked.ends]
      rfl
    | wakeUpTxQueue priority unpausedTime => exact ⟨timed, ends.trans booked.ends⟩
    | encapsulateAndSend priority => exact ⟨timed, ends.trans booked.ends⟩
  | advance time =>
    cases done
    exact ⟨booked.timed.advance possible.1, booked.ends⟩

theorem reachable_booked {world : World}
    (reached : Runs.Reachable World.Initial (World.Step config) world) : Booked world := by
  refine @Runs.invariant_of_reachable World _ _ Booked (fun first started => ?_)
    (fun _ _ booked taken => booked_step booked taken) _ reached
  cases started
  exact ⟨⟨nofun, fun _ pausing => absurd pausing (lt_irrefl _), nofun⟩, rfl⟩

/-- Sending, receiving and the passing of time resume no queue. -/
theorem resumed_at_end {event : Event} (timed : Timed builder)
    (possible : event.Possible config builder)
    (done : PacketBuilder.perform config builder event = .ok next)
    (resumes : Resumes builder next priority) :
    builder.txQueueUnpauseTimes priority = builder.now := by
  cases event with
  | enqueuePacket packet =>
    exact absurd (((enqueue_packet_sends done).paused priority).2 resumes.1) resumes.2
  | handlePfc frame =>
    rw [PacketBuilder.perform, handle_pfc_eq] at done
    cases done
    exact absurd resumes.1 resumes.2
  | run event =>
    obtain ⟨-, -, atEnd, -⟩ := run_spec timed possible.1 possible.2 done
    exact atEnd priority resumes
  | advance time =>
    cases done
    exact absurd resumes.1 resumes.2

/-- Every event of a packet builder goes as wanted. -/
theorem packet_builder_keeps {world : World}
    (reached : Runs.Reachable World.Initial (World.Step config) world) {event : Event}
    (possible : event.Possible config world.builder) : Kept config world event := by
  have booked := reachable_booked reached
  refine ⟨?_, fun priority => congrFun booked.ends priority, ?_, ?_, ?_⟩
  · rintro frame rfl
    exact World.perform_eq_ok.2 ⟨_, handle_pfc_eq config world.builder frame, rfl⟩
  · rw [← booked.ends]
    exact booked.timed.paused
  · rw [← booked.ends]
    exact booked.timed.waits
  · intro next done priority resumes
    rw [← booked.ends]
    exact resumed_at_end booked.timed possible done resumes

/-! ## Routers and hosts -/

/-- A packet builder keeps the pauses of its queues in every run. A router keeps them at an event
exactly if the event is no PFC frame for a queue whose message of an earlier frame is still
scheduled. -/
theorem pauses_kept_iff (hosts : PacketBuilder.Config) (routers : NetworkRouter.Config) :
    (∀ (world : World) (event : Event),
      Runs.Reachable World.Initial (World.Step hosts) world →
      event.Possible hosts world.builder → Kept hosts world event) ∧
    ∀ (world : RouterPauses.World) (event : NetworkRouter.Event),
      Runs.Reachable (RouterPauses.World.Initial routers) (RouterPauses.World.Step routers) world →
      event.Possible routers world.router →
        (RouterPauses.Kept routers world event ↔ RouterPauses.Unhurried world event) :=
  ⟨fun _ _ reached possible => packet_builder_keeps reached possible,
    fun _ _ reached possible => RouterPauses.kept_condition reached possible⟩

end Isekai.PacketBuilderPauses
