import Isekai.PacketBuilderPauses

/-! The loops of a host's packet builder. A loop builds a packet, and the event for the end of the
build interval builds the next one. A loop is started by a packet that finds its queue idle and by
the end of a pause, neither of which looks whether the event of an earlier loop is still ahead.

All packets are of priority 0, while every priority may end a pause and build from their queue. The
results are therefore about groups of priorities: each for itself, or all of them together. -/

namespace Isekai.PacketBuilderLoops
open PacketBuilder PacketBuilderPauses Runs

variable {Group : Type} [DecidableEq Group]
variable {priority : ℕ}

/-- An event that goes on with the loop of a priority of the group. -/
def IsLoop (group : ℕ → Group) (which : Group) (event : Scheduled) : Prop :=
  match event.callback with
  | .encapsulateAndSend priority => group priority = which
  | _ => False

instance IsLoop.decidable (group : ℕ → Group) (which : Group) :
    DecidablePred (IsLoop group which)
  | ⟨_, .encapsulateAndSend priority⟩ => inferInstanceAs (Decidable (group priority = which))
  | ⟨_, .setPfcPaused _ _⟩ | ⟨_, .wakeUpTxQueue _ _⟩ => isFalse id

/-- How many loops of a group have their event ahead. -/
def loops (group : ℕ → Group) (which : Group) (builder : Builder) : ℕ :=
  builder.scheduled.countP (IsLoop group which)

/-- A packet that was built, for which priority, when, and the time until the next one can be. -/
structure Build where
  priority : ℕ
  time : ℤ
  nextBuildDuration : ℤ
  deriving DecidableEq, Repr

/-- The packet builder with the record of what it built. -/
structure World where
  builder : Builder := {}
  builds : List Build := []

/-- The priority for which an event builds, if it builds at all. -/
def buildPriority : Event → ℕ
  | .run ⟨_, .setPfcPaused priority _⟩ | .run ⟨_, .wakeUpTxQueue priority _⟩
  | .run ⟨_, .encapsulateAndSend priority⟩ => priority
  | _ => 0

/-- The builds of a loop step, from the packets that it sent. -/
def newBuilds (before after : Builder) (priority : ℕ) : List Build :=
  (after.sent.drop before.sent.length).map fun packet =>
    Build.mk priority before.now packet.nextBuildDuration

namespace World

def perform (config : PacketBuilder.Config) (world : World) (event : Event) :
    Except Fatal World :=
  (PacketBuilder.perform config world.builder event).map fun next =>
    { builder := next
      builds := world.builds ++ newBuilds world.builder next (buildPriority event) }

def Initial (world : World) : Prop := world = {}

def Step (config : PacketBuilder.Config) (world next : World) : Prop :=
  ∃ event, event.Possible config world.builder ∧ world.perform config event = .ok next

end World

/-- An event starts a loop: a packet finds the queue idle, or a pause ends over a queue that is not
empty. -/
def Starts (builder : Builder) (priority : ℕ) : Event → Prop
  | .enqueuePacket _ => priority = 0 ∧ builder.queueStates 0 = .idle
  | .run ⟨_, .wakeUpTxQueue other unpausedTime⟩ =>
    priority = other ∧ unpausedTime = builder.txQueueUnpauseTimes other ∧ builder.txQueue ≠ []
  | _ => False

/-- A loop is started only where no event of a loop of its group is ahead. -/
def Alone (group : ℕ → Group) (builder : Builder) (event : Event) : Prop :=
  ∀ priority, Starts builder priority event → loops group (group priority) builder = 0

def World.AloneStep (config : PacketBuilder.Config) (group : ℕ → Group) (world next : World) :
    Prop :=
  ∃ event, event.Possible config world.builder ∧ Alone group world.builder event ∧
    world.perform config event = .ok next

/-- One loop at most, and packets that are built at their intervals. -/
structure Regular (group : ℕ → Group) (world : World) : Prop where
  single : ∀ which, loops group which world.builder ≤ 1
  spaced : world.builds.Pairwise fun earlier later =>
    group earlier.priority = group later.priority →
      earlier.time + earlier.nextBuildDuration ≤ later.time

/-- A queue that is neither empty nor paused has the event of its loop ahead. -/
def Awaited (builder : Builder) : Prop :=
  builder.txQueue ≠ [] → builder.queueStates 0 ≠ .paused →
    ∃ event ∈ builder.scheduled, event.callback = .encapsulateAndSend 0

variable {config : PacketBuilder.Config} {group : ℕ → Group} {builder next : Builder}
  {builds : List Build}

/-! ## What the operations do -/

/-- A packet is built for a priority. -/
structure Sent (builder next : Builder) (priority : ℕ) (packet : TxPacket) : Prop where
  nonneg : 0 ≤ packet.nextBuildDuration
  now : next.now = builder.now
  queueStates : next.queueStates = builder.queueStates
  sent : next.sent = builder.sent ++ [packet]
  scheduled : next.scheduled = builder.scheduled ++
    [Scheduled.mk (builder.now + packet.nextBuildDuration) (.encapsulateAndSend priority)]

/-- Flow control changes what the transport was told, if it is told something. -/
theorem flow_control_eq (config : PacketBuilder.Config) (builder : Builder) (xoff : Bool)
    (told : Prop) [Decidable told] :
    ∃ falconXoff, (if told then builder.setFalconFlowControl config xoff else builder) =
      { builder with falconXoff } := by
  unfold Builder.setFalconFlowControl
  split_ifs
  · exact ⟨xoff, rfl⟩
  · exact ⟨builder.falconXoff, rfl⟩
  · exact ⟨builder.falconXoff, rfl⟩

theorem pfc_xoff_eq (config : PacketBuilder.Config) (builder : Builder) (xoff : Bool) :
    builder.setPfcXoff config xoff =
      { builder with
        pfcXoff := if config.transport = .roce then xoff else builder.pfcXoff } := by
  unfold Builder.setPfcXoff
  split_ifs <;> rfl

/-- A queue that is not paused is served, or it is idle. -/
theorem encapsulate_cases (done : builder.encapsulateAndSend config priority = .ok next) :
    builder.queueStates priority = .paused ∧ next = builder ∨
    builder.queueStates priority ≠ .paused ∧ builder.txQueue = [] ∧
      next = builder.setQueueState priority .idle ∨
    builder.queueStates priority ≠ .paused ∧ builder.txQueue ≠ [] ∧
      ∃ packet, Sent builder next priority packet := by
  unfold Builder.encapsulateAndSend at done
  split_ifs at done with paused
  · cases done
    exact .inl ⟨paused, rfl⟩
  cases queue : builder.txQueue with
  | nil =>
    rw [queue] at done
    cases done
    exact .inr (.inl ⟨paused, rfl, rfl⟩)
  | cons packet rest =>
    rw [queue] at done
    dsimp only at done
    obtain ⟨falconXoff, relieved⟩ := flow_control_eq config
      { builder with txQueue := rest, sent := builder.sent ++ [packet] } false
      ((!packet.isRoce && rest.length + 1 = config.txQueueLengthThreshold) = true)
    rw [relieved] at done
    obtain ⟨nonneg, rfl⟩ := schedule_event_eq_ok.1 done
    exact .inr (.inr ⟨paused, List.cons_ne_nil _ _, packet, nonneg, rfl, rfl, rfl, rfl⟩)

/-- A packet joins the queue, and if it was idle its loop is started. -/
theorem enqueue_packet_eq (config : PacketBuilder.Config) (builder : Builder)
    (packet : TxPacket) :
    ∃ falconXoff, builder.enqueuePacket config packet =
      if builder.queueStates 0 = .idle then
        Builder.encapsulateAndSend config
          ({ builder with txQueue := builder.txQueue ++ [packet], falconXoff }.setQueueState 0
            .active) 0
      else .ok { builder with txQueue := builder.txQueue ++ [packet], falconXoff } := by
  unfold Builder.enqueuePacket
  dsimp only
  obtain ⟨falconXoff, limited⟩ := flow_control_eq config
    { builder with txQueue := builder.txQueue ++ [packet] } true
    ((builder.txQueue ++ [packet]).length = config.txQueueLengthThreshold)
  rw [limited]
  exact ⟨falconXoff, rfl⟩

theorem wake_up_eq (config : PacketBuilder.Config) (builder : Builder) (priority : ℕ)
    (unpausedTime : ℤ) :
    ∃ pfcXoff, builder.wakeUpTxQueue config priority unpausedTime =
      if unpausedTime = builder.txQueueUnpauseTimes priority then
        Builder.encapsulateAndSend config
          ({ builder with pfcXoff }.setQueueState priority .active) priority
      else .ok builder := by
  unfold Builder.wakeUpTxQueue
  rw [pfc_xoff_eq]
  exact ⟨_, rfl⟩

theorem set_pfc_paused_eq_ok {pauseDuration : ℤ}
    (done : builder.setPfcPaused config priority pauseDuration = .ok next) :
    0 ≤ pauseDuration ∧ next.now = builder.now ∧ next.txQueue = builder.txQueue ∧
      next.sent = builder.sent ∧
      next.queueStates = Function.update builder.queueStates priority .paused ∧
      next.scheduled = builder.scheduled ++
        [Scheduled.mk (builder.now + pauseDuration)
          (.wakeUpTxQueue priority (builder.now + pauseDuration))] := by
  unfold Builder.setPfcPaused at done
  rw [pfc_xoff_eq] at done
  obtain ⟨nonneg, rfl⟩ := schedule_event_eq_ok.1 done
  exact ⟨nonneg, rfl, rfl, rfl, rfl, rfl⟩

/-! ## One loop -/

/-- What holds of a packet builder and of its builds as long as no loop starts beside another. -/
structure Sound (group : ℕ → Group) (builder : Builder) (builds : List Build) : Prop where
  ahead : ∀ event ∈ builder.scheduled, builder.now ≤ event.due
  single : ∀ which, loops group which builder ≤ 1
  pending : ∀ build ∈ builds, build.time + build.nextBuildDuration ≤ builder.now ∨
    Scheduled.mk (build.time + build.nextBuildDuration) (.encapsulateAndSend build.priority) ∈
      builder.scheduled
  spaced : builds.Pairwise fun earlier later => group earlier.priority = group later.priority →
    earlier.time + earlier.nextBuildDuration ≤ later.time

theorem loops_pos {due : ℤ} {priority : ℕ}
    (listed : Scheduled.mk due (.encapsulateAndSend priority) ∈ builder.scheduled) :
    0 < loops group (group priority) builder :=
  List.countP_pos_iff.2 ⟨_, listed, decide_eq_true rfl⟩

theorem loops_erase {event : Scheduled} (listed : event ∈ builder.scheduled) (which : Group) :
    loops group which builder =
      loops group which { builder with scheduled := builder.scheduled.erase event } +
        if IsLoop group which event then 1 else 0 := by
  unfold loops
  rw [(List.perm_cons_erase listed).countP_eq, List.countP_cons]
  simp only [decide_eq_true_eq]

theorem loops_append {added : List Scheduled}
    (scheduled : next.scheduled = builder.scheduled ++ added) (which : Group) :
    loops group which next = loops group which builder + added.countP (IsLoop group which) := by
  unfold loops
  rw [scheduled, List.countP_append]

namespace Sound

/-- Events that build nothing may be added. -/
theorem schedule {added : List Scheduled} (sound : Sound group builder builds)
    (now : next.now = builder.now) (scheduled : next.scheduled = builder.scheduled ++ added)
    (later : ∀ event ∈ added, builder.now ≤ event.due)
    (others : ∀ which, added.countP (IsLoop group which) = 0) : Sound group next builds := by
  obtain ⟨ahead, single, pending, spaced⟩ := sound
  refine ⟨fun event listed => ?_, fun which => ?_, fun build listed => ?_, spaced⟩
  · rw [now]
    rw [scheduled] at listed
    rcases List.mem_append.1 listed with old | new
    · exact ahead event old
    · exact later event new
  · rw [loops_append scheduled, others which]
    exact single which
  · rw [now, scheduled]
    rcases pending build listed with past | waits
    · exact .inl past
    · exact .inr (List.mem_append_left _ waits)

theorem of_same (sound : Sound group builder builds) (now : next.now = builder.now)
    (scheduled : next.scheduled = builder.scheduled) : Sound group next builds :=
  sound.schedule now (scheduled.trans (List.append_nil _).symm) (fun _ listed => absurd listed List.not_mem_nil)
    fun _ => rfl

/-- An event that is due is taken out. -/
theorem take (sound : Sound group builder builds) {event : Scheduled}
    (listed : event ∈ builder.scheduled) (due : event.due = builder.now) :
    Sound group { builder with scheduled := builder.scheduled.erase event } builds := by
  obtain ⟨ahead, single, pending, spaced⟩ := sound
  refine ⟨fun other kept => ahead other (List.mem_of_mem_erase kept), fun which => ?_,
    fun build built => ?_, spaced⟩
  · have before := single which
    rw [loops_erase listed which] at before
    omega
  · rcases pending build built with past | waits
    · exact .inl past
    · by_cases same : Scheduled.mk (build.time + build.nextBuildDuration)
          (.encapsulateAndSend build.priority) = event
      · left
        rw [← same] at due
        exact due.le
      · exact .inr ((List.mem_erase_of_ne same).2 waits)

/-- A packet is built where no loop of the group is ahead. -/
theorem build (sound : Sound group builder builds) {packet : TxPacket}
    (sent : Sent builder next priority packet) (alone : loops group (group priority) builder = 0) :
    Sound group next
      (builds ++ [Build.mk priority builder.now packet.nextBuildDuration]) := by
  obtain ⟨ahead, single, pending, spaced⟩ := sound
  have later := sent.nonneg
  refine ⟨fun event listed => ?_, fun which => ?_, fun build listed => ?_, ?_⟩
  · rw [sent.now]
    rw [sent.scheduled] at listed
    rcases List.mem_append.1 listed with old | new
    · exact ahead event old
    · rw [List.mem_singleton.1 new]
      exact le_add_of_nonneg_right later
  · rw [loops_append sent.scheduled, List.countP_singleton]
    by_cases own : group priority = which
    · rw [← own, alone]
      split_ifs <;> decide
    · have other : ¬ IsLoop group which
          (Scheduled.mk (builder.now + packet.nextBuildDuration)
            (.encapsulateAndSend priority)) := own
      rw [if_neg fun loop => other (of_decide_eq_true loop)]
      exact single which
  · rw [sent.now, sent.scheduled]
    rcases List.mem_append.1 listed with old | new
    · rcases pending build old with past | waits
      · exact .inl past
      · exact .inr (List.mem_append_left _ waits)
    · rw [List.mem_singleton.1 new]
      exact .inr (List.mem_append_right _ (List.mem_singleton_self _))
  · refine List.pairwise_append.2 ⟨spaced, List.pairwise_singleton _ _, ?_⟩
    intro earlier built latest new same
    rw [List.mem_singleton.1 new] at same ⊢
    rcases pending earlier built with past | waits
    · exact past
    · -- the interval of an earlier build is over, or its loop would be ahead
      have other := @loops_pos _ _ group _ _ _ waits
      rw [same, alone] at other
      exact absurd other (lt_irrefl 0)

theorem encapsulate (sound : Sound group builder builds)
    (alone : builder.txQueue ≠ [] → loops group (group priority) builder = 0)
    (done : builder.encapsulateAndSend config priority = .ok next) :
    Sound group next (builds ++ newBuilds builder next priority) := by
  rcases encapsulate_cases done with ⟨-, rfl⟩ | ⟨-, -, rfl⟩ | ⟨-, packets, packet, sent⟩
  · have none_built : newBuilds next next priority = [] := by simp [newBuilds]
    rw [none_built, List.append_nil]
    exact sound
  · have none_built : newBuilds builder (builder.setQueueState priority .idle) priority = [] := by
      simp [newBuilds, Builder.setQueueState]
    rw [none_built, List.append_nil]
    exact sound.of_same rfl rfl
  · have built : newBuilds builder next priority =
        [Build.mk priority builder.now packet.nextBuildDuration] := by
      simp [newBuilds, sent.sent]
    rw [built]
    exact sound.build sent (alone packets)

/-- An event that is due takes its own loop with it. -/
theorem take_loop (sound : Sound group builder builds)
    (listed : Scheduled.mk builder.now (.encapsulateAndSend priority) ∈ builder.scheduled) :
    loops group (group priority)
      { builder with
        scheduled := builder.scheduled.erase
          (Scheduled.mk builder.now (.encapsulateAndSend priority)) } = 0 := by
  have one := sound.single (group priority)
  have own : IsLoop group (group priority)
      (Scheduled.mk builder.now (.encapsulateAndSend priority)) := rfl
  rw [loops_erase listed (group priority), if_pos own] at one
  omega

/-- The end of a pause starts the loop, and the end of a pause that was replaced does nothing. -/
theorem wake (sound : Sound group builder builds) {unpausedTime : ℤ}
    (alone : unpausedTime = builder.txQueueUnpauseTimes priority → builder.txQueue ≠ [] →
      loops group (group priority) builder = 0)
    (done : builder.wakeUpTxQueue config priority unpausedTime = .ok next) :
    Sound group next (builds ++ newBuilds builder next priority) := by
  obtain ⟨pfcXoff, result⟩ := wake_up_eq config builder priority unpausedTime
  rw [result] at done
  split_ifs at done with last
  · have awake : Sound group ({ builder with pfcXoff }.setQueueState priority .active) builds :=
      sound.of_same rfl rfl
    exact awake.encapsulate (alone last) done
  · cases done
    have none_built : newBuilds builder builder priority = [] := by simp [newBuilds]
    rw [none_built, List.append_nil]
    exact sound

/-- What runs when an event is due. -/
theorem run (sound : Sound group builder builds) {event : Scheduled}
    (listed : event ∈ builder.scheduled) (due : event.due = builder.now)
    (alone : Alone group builder (.run event))
    (done : builder.run config event = .ok next) :
    Sound group next (builds ++ newBuilds builder next (buildPriority (.run event))) := by
  have taken := sound.take listed due
  obtain ⟨time, callback⟩ := event
  cases due
  cases callback with
  | setPfcPaused priority pauseDuration =>
    obtain ⟨nonneg, now, -, sent, -, scheduled⟩ := set_pfc_paused_eq_ok done
    have none_built : newBuilds builder next (buildPriority
        (.run ⟨builder.now, .setPfcPaused priority pauseDuration⟩)) = [] := by
      simp [newBuilds, sent]
    rw [none_built, List.append_nil]
    refine taken.schedule now scheduled (fun wakeUp new => ?_) fun _ => rfl
    rw [List.mem_singleton.1 new]
    exact le_add_of_nonneg_right nonneg
  | wakeUpTxQueue priority unpausedTime =>
    refine taken.wake (fun last packets => ?_) done
    have none_ahead := alone priority ⟨rfl, last, packets⟩
    rw [loops_erase listed (group priority)] at none_ahead
    exact (Nat.add_eq_zero_iff.1 none_ahead).1
  | encapsulateAndSend priority => exact taken.encapsulate (fun _ => sound.take_loop listed) done

theorem enqueue (sound : Sound group builder builds) {packet : TxPacket}
    (alone : Alone group builder (.enqueuePacket packet))
    (done : builder.enqueuePacket config packet = .ok next) :
    Sound group next (builds ++ newBuilds builder next 0) := by
  obtain ⟨falconXoff, result⟩ := enqueue_packet_eq config builder packet
  rw [result] at done
  split_ifs at done with idle
  · have active : Sound group ({ builder with
        txQueue := builder.txQueue ++ [packet]
        falconXoff }.setQueueState 0 .active) builds := sound.of_same rfl rfl
    exact active.encapsulate (fun _ => alone 0 ⟨rfl, idle⟩) done
  · cases done
    have none_built : newBuilds builder { builder with
        txQueue := builder.txQueue ++ [packet]
        falconXoff } 0 = [] := by simp [newBuilds]
    rw [none_built, List.append_nil]
    exact sound.of_same rfl rfl

/-- A received frame only schedules the events of its classes. -/
theorem handle (sound : Sound group builder builds) {frame : PacketBuilder.PfcFrame}
    (done : builder.handlePfc config frame = .ok next) :
    Sound group next (builds ++ newBuilds builder next 0) := by
  rw [handle_pfc_eq] at done
  cases done
  have none_built : newBuilds builder { builder with
      scheduled := builder.scheduled ++
        ((List.range PacketBuilder.classesOfService).filter frame.classEnable).map
          (eventOf config builder.now frame) } 0 = [] := by simp [newBuilds]
  rw [none_built, List.append_nil]
  refine sound.schedule rfl rfl (fun event listed => ?_) fun which => ?_
  · obtain ⟨priority, -, rfl⟩ := List.mem_map.1 listed
    exact le_add_of_nonneg_right (Int.natCast_nonneg _)
  · apply List.countP_eq_zero.2
    intro event listed loop
    obtain ⟨priority, -, rfl⟩ := List.mem_map.1 listed
    exact of_decide_eq_true loop

theorem advance (sound : Sound group builder builds) {time : ℤ} (later : builder.now < time)
    (waits : ∀ event ∈ builder.scheduled, time ≤ event.due) :
    Sound group { builder with now := time } builds := by
  refine ⟨waits, sound.single, fun build listed => ?_, sound.spaced⟩
  rcases sound.pending build listed with past | ahead
  · exact .inl (past.trans later.le)
  · exact .inr ahead

theorem initial (group : ℕ → Group) : Sound group {} [] := by
  refine ⟨fun event listed => absurd listed List.not_mem_nil, fun which => Nat.zero_le _,
    fun build listed => absurd listed List.not_mem_nil, .nil⟩

theorem perform (sound : Sound group builder builds) {event : Event}
    (possible : event.Possible config builder) (alone : Alone group builder event)
    (done : PacketBuilder.perform config builder event = .ok next) :
    Sound group next (builds ++ newBuilds builder next (buildPriority event)) := by
  cases event with
  | enqueuePacket packet => exact sound.enqueue alone done
  | handlePfc frame => exact sound.handle done
  | run event => exact sound.run possible.1 possible.2 alone done
  | advance time =>
    cases done
    have none_built : newBuilds builder { builder with now := time } 0 = [] := by simp [newBuilds]
    have after := sound.advance possible.1 possible.2
    rwa [← List.append_nil builds, ← none_built] at after

end Sound

/-! ## No queue is forgotten -/

/-- An active queue has its event ahead, and the queue is empty while it is idle. -/
structure Live (builder : Builder) : Prop where
  active : ∀ priority, builder.queueStates priority = .active →
    ∃ due, Scheduled.mk due (.encapsulateAndSend priority) ∈ builder.scheduled
  idle : builder.queueStates 0 = .idle → builder.txQueue = []

namespace Live

theorem awaited (live : Live builder) : Awaited builder := by
  intro packets unpaused
  cases state : builder.queueStates 0 with
  | idle => exact absurd (live.idle state) packets
  | paused => exact absurd state unpaused
  | active =>
    obtain ⟨due, listed⟩ := live.active 0 state
    exact ⟨_, listed, rfl⟩

/-- Serving a queue leaves it paused, idle or with its event ahead. -/
theorem encapsulate (done : builder.encapsulateAndSend config priority = .ok next)
    (others : ∀ other, other ≠ priority → builder.queueStates other = .active →
      ∃ due, Scheduled.mk due (.encapsulateAndSend other) ∈ builder.scheduled)
    (idle : builder.queueStates 0 = .idle → builder.txQueue = []) : Live next := by
  rcases encapsulate_cases done with ⟨paused, rfl⟩ | ⟨-, empty, rfl⟩ | ⟨-, packets, packet, sent⟩
  · refine ⟨fun other active => ?_, idle⟩
    by_cases same : other = priority
    · rw [same, paused] at active
      cases active
    · exact others other same active
  · refine ⟨fun other active => ?_, fun _ => empty⟩
    unfold Builder.setQueueState at active
    dsimp only at active
    by_cases same : other = priority
    · rw [same, Function.update_self] at active
      cases active
    · rw [Function.update_of_ne same] at active
      exact others other same active
  · refine ⟨fun other active => ?_, fun state => ?_⟩
    · rw [sent.scheduled]
      by_cases same : other = priority
      · rw [same]
        exact ⟨_, List.mem_append_right _ (List.mem_singleton_self _)⟩
      · rw [sent.queueStates] at active
        obtain ⟨due, listed⟩ := others other same active
        exact ⟨due, List.mem_append_left _ listed⟩
    · rw [sent.queueStates] at state
      exact absurd (idle state) packets

/-- An event is taken out. It may be the one that a queue waits for. -/
theorem take (live : Live builder) (event : Scheduled)
    (active : builder.queueStates priority = .active)
    (other : event.callback ≠ .encapsulateAndSend priority) :
    ∃ due, Scheduled.mk due (.encapsulateAndSend priority) ∈ builder.scheduled.erase event := by
  obtain ⟨due, listed⟩ := live.active priority active
  refine ⟨due, (List.mem_erase_of_ne ?_).2 listed⟩
  rintro rfl
  exact other rfl

theorem wake {unpausedTime : ℤ} (live : Live builder)
    (done : builder.wakeUpTxQueue config priority unpausedTime = .ok next) : Live next := by
  obtain ⟨pfcXoff, result⟩ := wake_up_eq config builder priority unpausedTime
  rw [result] at done
  split_ifs at done with last
  · refine encapsulate done (fun other different active => ?_) fun idle => ?_
    · unfold Builder.setQueueState at active
      dsimp only at active
      rw [Function.update_of_ne different] at active
      exact live.active other active
    · unfold Builder.setQueueState at idle
      dsimp only at idle
      by_cases same : 0 = priority
      · rw [same, Function.update_self] at idle
        cases idle
      · rw [Function.update_of_ne same] at idle
        exact live.idle idle
  · cases done
    exact live

theorem run (live : Live builder) {event : Scheduled}
    (done : builder.run config event = .ok next) : Live next := by
  obtain ⟨time, callback⟩ := event
  cases callback with
  | setPfcPaused priority pauseDuration =>
    obtain ⟨-, -, txQueue, -, queueStates, scheduled⟩ := set_pfc_paused_eq_ok done
    refine ⟨fun other active => ?_, fun idle => ?_⟩
    · rw [queueStates] at active
      dsimp only at active
      by_cases same : other = priority
      · rw [same, Function.update_self] at active
        cases active
      · rw [Function.update_of_ne same] at active
        have waits := live.take ⟨time, .setPfcPaused priority pauseDuration⟩ active (by simp)
        obtain ⟨due, listed⟩ := waits
        rw [scheduled]
        exact ⟨due, List.mem_append_left _ listed⟩
    · rw [queueStates] at idle
      dsimp only at idle
      by_cases same : 0 = priority
      · rw [same, Function.update_self] at idle
        cases idle
      · rw [Function.update_of_ne same] at idle
        exact txQueue.trans (live.idle idle)
  | wakeUpTxQueue priority unpausedTime =>
    have taken : Live { builder with
        scheduled := builder.scheduled.erase
          ⟨time, .wakeUpTxQueue priority unpausedTime⟩ } :=
      ⟨fun other active => live.take _ active (by simp), live.idle⟩
    exact taken.wake done
  | encapsulateAndSend priority =>
    have served : Builder.encapsulateAndSend config { builder with
        scheduled := builder.scheduled.erase ⟨time, .encapsulateAndSend priority⟩ } priority =
      .ok next := done
    refine encapsulate served (fun other different active => ?_) live.idle
    refine live.take _ active fun same => different ?_
    exact (Callback.encapsulateAndSend.inj same).symm

theorem enqueue (live : Live builder) {packet : TxPacket}
    (done : builder.enqueuePacket config packet = .ok next) : Live next := by
  obtain ⟨falconXoff, result⟩ := enqueue_packet_eq config builder packet
  rw [result] at done
  split_ifs at done with idle
  · refine encapsulate done (fun other different active => ?_) fun still => ?_
    · unfold Builder.setQueueState at active
      dsimp only at active
      rw [Function.update_of_ne different] at active
      exact live.active other active
    · unfold Builder.setQueueState at still
      dsimp only at still
      rw [Function.update_self] at still
      cases still
  · cases done
    exact ⟨live.active, fun still => absurd still idle⟩

theorem perform (live : Live builder) {event : Event}
    (done : PacketBuilder.perform config builder event = .ok next) : Live next := by
  cases event with
  | enqueuePacket packet => exact live.enqueue done
  | run event => exact live.run done
  | handlePfc frame =>
    rw [PacketBuilder.perform, handle_pfc_eq] at done
    cases done
    refine ⟨fun priority active => ?_, live.idle⟩
    obtain ⟨due, listed⟩ := live.active priority active
    exact ⟨due, List.mem_append_left _ listed⟩
  | advance time =>
    cases done
    exact ⟨live.active, live.idle⟩

end Live

/-! ## Runs -/

namespace World

variable {world after : World}

theorem perform_eq_ok {event : Event} : world.perform config event = .ok after ↔
    ∃ next, PacketBuilder.perform config world.builder event = .ok next ∧
      { builder := next
        builds := world.builds ++ newBuilds world.builder next (buildPriority event) } =
        after := by
  unfold perform
  rw [map_eq_ok]

theorem sound_of_reachable (reached : Reachable Initial (AloneStep config group) world) :
    Sound group world.builder world.builds := by
  apply @invariant_of_reachable World Initial (AloneStep config group)
    (fun world => Sound group world.builder world.builds) _ _ _ reached
  · rintro first rfl
    exact Sound.initial group
  · rintro before after sound ⟨event, possible, alone, done⟩
    obtain ⟨next, performed, rfl⟩ := perform_eq_ok.1 done
    exact sound.perform possible alone performed

theorem live_of_reachable (reached : Reachable Initial (Step config) world) :
    Live world.builder := by
  apply @invariant_of_reachable World Initial (Step config) (fun world => Live world.builder) _ _ _
    reached
  · rintro first rfl
    refine ⟨fun priority active => ?_, fun _ => rfl⟩
    cases active
  · rintro before after live ⟨event, -, done⟩
    obtain ⟨next, performed, rfl⟩ := perform_eq_ok.1 done
    exact live.perform performed

/-- The steps that start no second loop are steps. -/
theorem reachable_of_alone (reached : Reachable Initial (AloneStep config group) world) :
    Reachable Initial (Step config) world := by
  obtain ⟨first, started, path⟩ := reached
  have steps : ∀ before after, AloneStep config group before after → Step config before after := by
    rintro before after ⟨event, possible, -, done⟩
    exact ⟨event, possible, done⟩
  exact ⟨first, started, Relation.ReflTransGen.mono steps _ _ path⟩

end World

/-- A loop that starts has its event ahead afterwards. -/
theorem loops_encapsulate {started : Builder}
    (done : started.encapsulateAndSend config priority = .ok next)
    (scheduled : started.scheduled = builder.scheduled)
    (unpaused : started.queueStates priority ≠ .paused) (packets : started.txQueue ≠ []) :
    loops group (group priority) next = loops group (group priority) builder + 1 := by
  rcases encapsulate_cases done with ⟨paused, -⟩ | ⟨-, empty, -⟩ | ⟨-, -, packet, sent⟩
  · exact absurd paused unpaused
  · exact absurd empty packets
  · have own : IsLoop group (group priority)
        (Scheduled.mk (started.now + packet.nextBuildDuration) (.encapsulateAndSend priority)) :=
      rfl
    have added := sent.scheduled
    rw [scheduled] at added
    rw [loops_append added, List.countP_singleton, if_pos (decide_eq_true own)]

/-- Whatever starts a loop leaves one more than there were. -/
theorem loops_started {event : Event} (possible : event.Possible config builder)
    (done : PacketBuilder.perform config builder event = .ok next) {priority : ℕ}
    (starts : Starts builder priority event) :
    loops group (group priority) next = loops group (group priority) builder + 1 := by
  cases event with
  | handlePfc frame => exact starts.elim
  | advance time => exact starts.elim
  | enqueuePacket packet =>
    obtain ⟨rfl, idle⟩ := starts
    obtain ⟨falconXoff, result⟩ := enqueue_packet_eq config builder packet
    have served := result.symm.trans done
    rw [if_pos idle] at served
    refine loops_encapsulate served rfl ?_ ?_
    · simp [Builder.setQueueState]
    · exact List.append_ne_nil_of_right_ne_nil _ (List.cons_ne_nil _ _)
  | run event =>
    obtain ⟨time, callback⟩ := event
    cases callback with
    | setPfcPaused other pauseDuration => exact starts.elim
    | encapsulateAndSend other => exact starts.elim
    | wakeUpTxQueue other unpausedTime =>
      obtain ⟨rfl, last, packets⟩ := starts
      have before := @loops_erase _ _ group builder _ possible.1 (group priority)
      have other : ¬ IsLoop group (group priority)
          (Scheduled.mk time (.wakeUpTxQueue priority unpausedTime)) := id
      rw [if_neg other] at before
      rw [before]
      obtain ⟨pfcXoff, result⟩ := wake_up_eq config
        { builder with
          scheduled := builder.scheduled.erase
            ⟨time, .wakeUpTxQueue priority unpausedTime⟩ } priority unpausedTime
      have served := result.symm.trans done
      rw [if_pos last] at served
      refine loops_encapsulate served rfl ?_ packets
      simp [Builder.setQueueState]

/-- Where loops start alone, each group has one loop at most and its packets are built at their
intervals, and no queue is forgotten; and the first loop that does not start alone is a second one.
A priority can stand for itself, or all priorities for the queue that they share. -/
theorem one_build_loop (group : ℕ → Group) {world : World}
    (reached : Reachable World.Initial (World.AloneStep config group) world) :
    Regular group world ∧ Awaited world.builder ∧
      ∀ event next, event.Possible config world.builder →
        world.perform config event = .ok next →
        ((∀ which, loops group which next.builder ≤ 1) ↔ Alone group world.builder event) := by
  have sound := World.sound_of_reachable reached
  have live := World.live_of_reachable (World.reachable_of_alone reached)
  refine ⟨⟨sound.single, sound.spaced⟩, live.awaited, fun event after possible done => ?_⟩
  obtain ⟨next, performed, rfl⟩ := World.perform_eq_ok.1 done
  constructor
  · intro single priority starts
    have more := @loops_started _ _ _ group _ _ _ possible performed _ starts
    have one := single (group priority)
    dsimp only at one
    omega
  · exact fun alone => (sound.perform possible alone performed).single

/-- The quanta of a frame are times in the examples. -/
def plainConfig : PacketBuilder.Config where
  transport := .falcon
  supportPfc := true
  pauseDuration := id

/-- One packet, with all priorities as one group. -/
theorem one_build_loop_first_packet : ∃ world : World, world.builds = [⟨0, 0, 1000⟩] ∧
    Regular (fun _ => ()) world ∧ Awaited world.builder ∧
      ∀ event next, event.Possible plainConfig world.builder →
        world.perform plainConfig event = .ok next →
        ((∀ which, loops (fun _ => ()) which next.builder ≤ 1) ↔
          Alone (fun _ => ()) world.builder event) := by
  have built : Reachable World.Initial (World.AloneStep plainConfig fun _ => ()) _ :=
    reachable_step (reachable_initial rfl)
      ⟨.enqueuePacket ⟨false, 1000⟩, trivial, fun _ _ => rfl, rfl⟩
  exact ⟨_, rfl, one_build_loop (fun _ => ()) built⟩

/-- A frame without a pause comes while the second packet waits for the end of the interval. -/
def resumeWhileBuilding : List Event :=
  [.enqueuePacket ⟨false, 1000⟩, .enqueuePacket ⟨false, 1000⟩,
    .handlePfc { classEnable := fun priority => priority == 0 }, .advance 100,
    .run ⟨100, .setPfcPaused 0 0⟩, .run ⟨100, .wakeUpTxQueue 0 100⟩]

/-- The second packet is built too early, and two loops go on. -/
theorem resume_differs : ∃ world,
    Reachable World.Initial (World.Step plainConfig) world ∧
      loops id 0 world.builder = 2 ∧ ¬ Regular id world := by
  have executed : (execute (fun world event => attempt (event.Possible plainConfig world.builder)
      (World.perform plainConfig world event)) resumeWhileBuilding {}).any (fun world =>
        decide (loops id 0 world.builder = 2)) = true := by
    decide
  have taken : ∀ world event next, attempt (event.Possible plainConfig world.builder)
      (World.perform plainConfig world event) = some next → World.Step plainConfig world next := by
    intro world event next done
    exact ⟨event, attempt_eq_some.1 done⟩
  obtain ⟨world, reached, differs⟩ := @reached_with _ World.Initial _ _ _ taken _ _ rfl _ executed
  have two := of_decide_eq_true differs
  refine ⟨world, reached, two, fun regular => ?_⟩
  have one := regular.single 0
  omega

end Isekai.PacketBuilderLoops
