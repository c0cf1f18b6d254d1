import Isekai.NetworkRouter

/-! When the ports of a router are active. A port is active exactly while its output event is
pending; an idle port has no PFC frame to send, and each of its queues that holds a packet is
paused with a refreshment event that will resume it. The one step that breaks this is an X-on
frame for a queue with packets of an idle port: it cancels the refreshment event and wakes
nothing. -/

namespace Isekai.PortProofs
open MemoryManagementUnit NetworkRouter

variable {router next : Router} {config : NetworkRouter.Config} {queue : QueueId}

/-! ## The invariant -/

/-- The queue is paused until its refreshment event; at that very instant the event is due. -/
def AwaitsResume (config : NetworkRouter.Config) (router : Router) (queue : QueueId) : Prop :=
  config.mmu.supportPfc = true ∧
    router.refreshmentDue queue = some (router.unpauseTimes queue) ∧
    router.now ≤ router.unpauseTimes queue

def Scheduled (router : Router) (port : Nat) : Prop :=
  (router.ports port).state = .active ↔ (router.outputDue port).isSome

/-- An idle port has nothing that it could send. -/
def IdleWaits (config : NetworkRouter.Config) (router : Router) (port : Nat) : Prop :=
  (router.ports port).state = .idle → (router.ports port).pfcQueue = [] ∧
    ∀ held ∈ router.held, ∀ queue, held.place = .outputQueue queue → queue.port = port →
      AwaitsResume config router queue

structure PortSound (config : NetworkRouter.Config) (router : Router) (port : Nat) : Prop where
  scheduled : Scheduled router port
  waits : IdleWaits config router port

/-- A paused queue has its refreshment event, and packets wait in queues of the router. -/
structure TimersSound (config : NetworkRouter.Config) (router : Router) : Prop where
  paused : ∀ queue, router.now < router.unpauseTimes queue →
    router.refreshmentDue queue = some (router.unpauseTimes queue)
  refreshes : ∀ queue due, router.refreshmentDue queue = some due →
    due = router.unpauseTimes queue
  inRange : ∀ held ∈ router.held, held.packet.priority < config.queuesNum ∧
    ∀ queue, held.place = .outputQueue queue →
      queue.port < config.portsNum ∧ queue.priority < config.queuesNum

/-! ## What sending does to ports -/

/-- Only ports and the events that they send by are different. -/
structure Quiet (router next : Router) : Prop where
  now : next.now = router.now
  ingress : next.ingress = router.ingress
  held : next.held = router.held
  unpauseTimes : next.unpauseTimes = router.unpauseTimes
  refreshmentDue : next.refreshmentDue = router.refreshmentDue
  departed : next.departed = router.departed
  released : next.released = router.released

theorem Quiet.refl (router : Router) : Quiet router router := ⟨rfl, rfl, rfl, rfl, rfl, rfl, rfl⟩

theorem Quiet.trans {middle : Router} (one : Quiet router middle) (two : Quiet middle next) :
    Quiet router next :=
  ⟨two.now.trans one.now, two.ingress.trans one.ingress, two.held.trans one.held,
    two.unpauseTimes.trans one.unpauseTimes, two.refreshmentDue.trans one.refreshmentDue,
    two.departed.trans one.departed, two.released.trans one.released⟩

/-- The port is active in `next`, and its output event pending unless it was active before without
one. -/
structure Woken (router next : Router) (port : Nat) : Prop where
  active : (next.ports port).state = .active
  fromIdle : (router.ports port).state = .idle → (next.outputDue port).isSome
  fromActive : (router.ports port).state = .active → next.outputDue port = router.outputDue port

/-- Every port is as it was, or was woken. -/
def Stirred (router next : Router) : Prop :=
  ∀ port, (next.ports port = router.ports port ∧ next.outputDue port = router.outputDue port) ∨
    Woken router next port

theorem Stirred.refl (router : Router) : Stirred router router := fun _ => .inl ⟨rfl, rfl⟩

/-- A port that sends: it is active, and its last output event is done. -/
def Sending (router : Router) (port : Nat) : Prop :=
  (router.ports port).state = .active ∧ router.outputDue port = none

theorem Stirred.sending (stirred : Stirred router next) {port : Nat}
    (sending : Sending router port) : Sending next port := by
  rcases stirred port with ⟨same, due⟩ | woken
  · exact ⟨same ▸ sending.1, due.trans sending.2⟩
  · exact ⟨woken.active, (woken.fromActive sending.1).trans sending.2⟩

theorem Woken.scheduled {port : Nat} (woken : Woken router next port)
    (scheduled : Scheduled router port) : Scheduled next port := by
  refine ⟨fun _ => ?_, fun _ => woken.active⟩
  cases state : (router.ports port).state with
  | idle => exact woken.fromIdle state
  | active =>
    rw [woken.fromActive state]
    exact scheduled.1 state

theorem Woken.sound {port : Nat} (woken : Woken router next port)
    (scheduled : Scheduled router port) : PortSound config next port := by
  refine ⟨woken.scheduled scheduled, fun idle => ?_⟩
  rw [woken.active] at idle
  cases idle

theorem AwaitsResume.of_quiet (awaits : AwaitsResume config router queue)
    (quiet : Quiet router next) : AwaitsResume config next queue := by
  unfold AwaitsResume
  rw [quiet.refreshmentDue, quiet.unpauseTimes, quiet.now]
  exact awaits

theorem PortSound.of_unchanged {port : Nat} (sound : PortSound config router port)
    (quiet : Quiet router next) (same : next.ports port = router.ports port)
    (due : next.outputDue port = router.outputDue port) : PortSound config next port := by
  refine ⟨?_, fun idle => ?_⟩
  · unfold Scheduled
    rw [same, due]
    exact sound.scheduled
  · rw [same] at idle ⊢
    rw [quiet.held]
    obtain ⟨none_, waits⟩ := sound.waits idle
    exact ⟨none_, fun held mem queue place at_ => (waits held mem queue place at_).of_quiet quiet⟩

theorem PortSound.of_stirred {port : Nat} (sound : PortSound config router port)
    (quiet : Quiet router next) (stirred : Stirred router next) : PortSound config next port := by
  rcases stirred port with ⟨same, due⟩ | woken
  · exact sound.of_unchanged quiet same due
  · exact woken.sound sound.scheduled

theorem TimersSound.of_quiet (timers : TimersSound config router) (quiet : Quiet router next) :
    TimersSound config next := by
  obtain ⟨paused, refreshes, inRange⟩ := timers
  refine ⟨?_, ?_, ?_⟩
  · rw [quiet.now, quiet.unpauseTimes, quiet.refreshmentDue]
    exact paused
  · rw [quiet.unpauseTimes, quiet.refreshmentDue]
    exact refreshes
  · rw [quiet.held]
    exact inRange

@[simp] theorem update_same {Key Value : Type} [DecidableEq Key] (map : Key → Value) (key : Key)
    (value : Value) : update map key value key = value := by simp [update]

theorem update_other {Key Value : Type} [DecidableEq Key] (map : Key → Value) {key other : Key}
    (value : Value) (different : other ≠ key) : update map key value other = map other := by
  simp [update, different]

theorem schedule_output_spec {port delay : Nat}
    (done : router.scheduleOutput port delay = .ok next) :
    router.outputDue port = none ∧
      next = { router with
        outputDue := update router.outputDue port (some (router.now + delay)) } := by
  unfold Router.scheduleOutput at done
  split at done
  · cases done
  · rename_i free
    cases done
    exact ⟨not_not.1 free, rfl⟩

theorem wake_up_spec {port : Nat} (done : router.wakeUp port = .ok next) :
    Quiet router next ∧ Stirred router next ∧ Woken router next port ∧
      (next.ports port).pfcQueue = (router.ports port).pfcQueue := by
  unfold Router.wakeUp at done
  split at done
  · rename_i idle
    obtain ⟨free, rfl⟩ := schedule_output_spec done
    have woken : Woken router { router.setPort port { router.ports port with state := .active } with
        outputDue := update router.outputDue port (some (router.now + enqueueDelay)) } port := by
      refine ⟨by simp [Router.setPort], fun _ => by simp, fun active => ?_⟩
      rw [idle] at active
      cases active
    refine ⟨⟨rfl, rfl, rfl, rfl, rfl, rfl, rfl⟩, fun other => ?_, woken, by simp [Router.setPort]⟩
    by_cases same : other = port
    · subst same
      exact .inr woken
    · exact .inl ⟨update_other _ _ same, update_other _ _ same⟩
  · rename_i active
    cases done
    have active : (router.ports port).state = .active := by
      cases state : (router.ports port).state
      · exact absurd state active
      · rfl
    refine ⟨.refl router, .refl router, ⟨active, fun idle => ?_, fun _ => rfl⟩, rfl⟩
    rw [active] at idle
    cases idle

/-- A frame that is queued wakes its port. -/
theorem queue_frame_spec {port : Nat} {frames : List PfcFrame}
    (done : (router.setPort port { router.ports port with pfcQueue := frames }).wakeUp port =
      .ok next) : Quiet router next ∧ Stirred router next := by
  obtain ⟨quiet, stirred, woken, -⟩ := wake_up_spec done
  have wokenHere : Woken router next port := by
    refine ⟨woken.active, fun idle => woken.fromIdle ?_, fun active => woken.fromActive ?_⟩
    · simpa [Router.setPort] using idle
    · simpa [Router.setPort] using active
  refine ⟨⟨quiet.now, quiet.ingress, quiet.held, quiet.unpauseTimes, quiet.refreshmentDue,
    quiet.departed, quiet.released⟩, fun other => ?_⟩
  by_cases same : other = port
  · subst same
    exact .inr wokenHere
  · have ports : (router.setPort port { router.ports port with pfcQueue := frames }).ports other =
        router.ports other := update_other _ _ same
    rcases stirred other with ⟨unchanged, due⟩ | wokenOther
    · exact .inl ⟨unchanged.trans ports, due⟩
    · refine .inr ⟨wokenOther.active, ?_, ?_⟩
      · rw [← ports]
        exact wokenOther.fromIdle
      · rw [← ports]
        exact wokenOther.fromActive

theorem generate_pfc_spec {port priority : Nat} {pauseUnits : Int}
    (done : router.generatePfc port priority pauseUnits = .ok next) :
    Quiet router next ∧ Stirred router next := by
  unfold Router.generatePfc at done
  split at done
  · exact queue_frame_spec done
  · exact queue_frame_spec done
  · cases done

theorem send_pfc_spec (done : router.sendPfc config queue = .ok next) :
    Quiet router next ∧ Stirred router next := by
  unfold Router.sendPfc at done
  simp only at done
  split_ifs at done
  · obtain ⟨sent, generated, rfl⟩ := map_eq_ok.1 done
    obtain ⟨quiet, stirred⟩ := generate_pfc_spec generated
    exact ⟨⟨quiet.now, quiet.ingress, quiet.held, quiet.unpauseTimes, quiet.refreshmentDue,
      quiet.departed, quiet.released⟩, fun port => (stirred port).imp id fun woken =>
        ⟨woken.active, woken.fromIdle, woken.fromActive⟩⟩
  · cases done
    exact ⟨.refl router, .refl router⟩

theorem send_xon_spec (done : router.sendXon config queue = .ok next) :
    Quiet router next ∧ Stirred router next := by
  unfold Router.sendXon at done
  split at done
  · exact generate_pfc_spec done
  · cases done
    exact ⟨.refl router, .refl router⟩

/-- Sending gives the port its next output event. -/
theorem send_packet_spec {port duration : Nat}
    (done : router.sendPacket config port duration = .ok next) :
    Quiet router next ∧ (next.ports port).state = (router.ports port).state ∧
      (next.outputDue port).isSome ∧ ∀ other, other ≠ port →
        next.ports other = router.ports other ∧ next.outputDue other = router.outputDue other := by
  unfold Router.sendPacket at done
  obtain ⟨-, rfl⟩ := schedule_output_spec done
  exact ⟨⟨rfl, rfl, rfl, rfl, rfl, rfl, rfl⟩, by simp [Router.setPort], by simp,
    fun other different => ⟨update_other _ _ different, update_other _ _ different⟩⟩

/-! ## Transmission -/

/-- An idle port without an output event can be woken. -/
def CanWake (router : Router) (port : Nat) : Prop :=
  (router.ports port).state = .idle → router.outputDue port = none

theorem Scheduled.canWake {port : Nat} (scheduled : Scheduled router port) :
    CanWake router port := by
  intro idle
  by_contra pending
  have active := scheduled.2 (Option.isSome_iff_ne_none.2 pending)
  rw [idle] at active
  cases active

theorem Sending.canWake {port : Nat} (sending : Sending router port) :
    CanWake router port := fun _ => sending.2

/-- The invariant of all ports but one. -/
def SoundExcept (config : NetworkRouter.Config) (router : Router) (port : Nat) : Prop :=
  TimersSound config router ∧ ∀ other, other ≠ port → PortSound config router other

def RouterSound (config : NetworkRouter.Config) (router : Router) : Prop :=
  TimersSound config router ∧ ∀ port, PortSound config router port

theorem sound_of_sent {port duration : Nat} (sound : SoundExcept config router port)
    (sending : Sending router port) (done : router.sendPacket config port duration = .ok next) :
    RouterSound config next := by
  obtain ⟨quiet, state, due, elsewhere⟩ := send_packet_spec done
  refine ⟨sound.1.of_quiet quiet, fun other => ?_⟩
  by_cases same : other = port
  · subst same
    have active : (next.ports other).state = .active := state.trans sending.1
    refine ⟨⟨fun _ => due, fun _ => active⟩, fun idle => ?_⟩
    rw [active] at idle
    cases idle
  · exact (sound.2 other same).of_unchanged quiet (elsewhere other same).1 (elsewhere other same).2

/-- Fewer packets wait, and nothing else is different for the ports. -/
structure Fewer (router next : Router) : Prop where
  now : next.now = router.now
  unpauseTimes : next.unpauseTimes = router.unpauseTimes
  refreshmentDue : next.refreshmentDue = router.refreshmentDue
  ports : next.ports = router.ports
  outputDue : next.outputDue = router.outputDue
  held : ∀ held ∈ next.held, held ∈ router.held

theorem Fewer.timers (fewer : Fewer router next) (timers : TimersSound config router) :
    TimersSound config next := by
  obtain ⟨paused, refreshes, inRange⟩ := timers
  refine ⟨?_, ?_, fun held mem => inRange held (fewer.held held mem)⟩
  · rw [fewer.now, fewer.unpauseTimes, fewer.refreshmentDue]
    exact paused
  · rw [fewer.unpauseTimes, fewer.refreshmentDue]
    exact refreshes

theorem Fewer.port {port : Nat} (fewer : Fewer router next) (sound : PortSound config router port) :
    PortSound config next port := by
  refine ⟨?_, fun idle => ?_⟩
  · unfold Scheduled
    rw [fewer.ports, fewer.outputDue]
    exact sound.scheduled
  · rw [fewer.ports] at idle ⊢
    obtain ⟨none_, waits⟩ := sound.waits idle
    refine ⟨none_, fun held mem queue place at_ => ?_⟩
    have awaits := waits held (fewer.held held mem) queue place at_
    unfold AwaitsResume
    rw [fewer.refreshmentDue, fewer.unpauseTimes, fewer.now]
    exact awaits

theorem Fewer.soundExcept {port : Nat} (fewer : Fewer router next)
    (sound : SoundExcept config router port) : SoundExcept config next port :=
  ⟨fewer.timers sound.1, fun other different => fewer.port (sound.2 other different)⟩

theorem Fewer.sound (fewer : Fewer router next) (sound : RouterSound config router) :
    RouterSound config next :=
  ⟨fewer.timers sound.1, fun port => fewer.port (sound.2 port)⟩

theorem SoundExcept.of_stirred {port : Nat} (sound : SoundExcept config router port)
    (quiet : Quiet router next) (stirred : Stirred router next) : SoundExcept config next port :=
  ⟨sound.1.of_quiet quiet, fun other different => (sound.2 other different).of_stirred quiet stirred⟩

theorem RouterSound.of_stirred (sound : RouterSound config router) (quiet : Quiet router next)
    (stirred : Stirred router next) : RouterSound config next :=
  ⟨sound.1.of_quiet quiet, fun port => (sound.2 port).of_stirred quiet stirred⟩

/-- The port itself does not count. -/
theorem SoundExcept.set_port {port : Nat} (sound : SoundExcept config router port) (value : Port) :
    SoundExcept config (router.setPort port value) port := by
  refine ⟨sound.1.of_quiet ⟨rfl, rfl, rfl, rfl, rfl, rfl, rfl⟩, fun other different => ?_⟩
  exact (sound.2 other different).of_unchanged ⟨rfl, rfl, rfl, rfl, rfl, rfl, rfl⟩
    (update_other _ _ different) rfl

theorem dequeue_sound {port : Nat} {held : HeldPacket} (sound : SoundExcept config router port)
    (sending : Sending router port) (done : router.dequeue config queue held = .ok next) :
    SoundExcept config next port ∧ Sending next port := by
  unfold Router.dequeue at done
  obtain ⟨ingress, released, done⟩ := bind_eq_ok.1 done
  obtain ⟨egress, restored, done⟩ := bind_eq_ok.1 done
  simp only at done
  split at done
  · obtain ⟨quiet, stirred⟩ := send_xon_spec done
    refine ⟨SoundExcept.of_stirred (Fewer.soundExcept ?_ sound) quiet stirred,
      stirred.sending sending⟩
    exact ⟨rfl, rfl, rfl, rfl, rfl, fun held mem => List.mem_of_mem_erase mem⟩
  · cases done
    refine ⟨Fewer.soundExcept ?_ sound, sending⟩
    exact ⟨rfl, rfl, rfl, rfl, rfl, fun held mem => List.mem_of_mem_erase mem⟩

/-- A queue of the port that holds a packet and cannot transmit is paused. -/
theorem paused_of_arbitrate {config : NetworkRouter.Config} {router : Router} {port : Nat}
    (timers : TimersSound config router) (nothing : router.arbitrate config port = none)
    {held : HeldPacket} (mem : held ∈ router.held) {queue : QueueId}
    (place : held.place = .outputQueue queue) (at_ : queue.port = port) :
    AwaitsResume config router queue := by
  obtain ⟨-, inRange⟩ := timers.inRange held mem
  have listed : queue ∈ (List.range config.queuesNum).map (QueueId.mk port) :=
    List.mem_map.2 ⟨queue.priority, List.mem_range.2 (inRange queue place).2, by rw [← at_]⟩
  have stuck := List.find?_eq_none.1 nothing queue listed
  have waiting : router.packetQueue queue ≠ [] :=
    List.ne_nil_of_mem (List.mem_filter.2 ⟨mem, decide_eq_true place⟩)
  simp only [Router.canTransmit, waiting, ne_eq, not_false_eq_true, decide_true, Bool.true_and,
    Bool.not_eq_true', Bool.not_eq_false, Bool.and_eq_true] at stuck
  have later : router.now < router.unpauseTimes queue := of_decide_eq_true stuck.2
  exact ⟨stuck.1, timers.paused queue later, later.le⟩

/-- What a port sends, or that it goes idle, keeps the invariant. -/
theorem transmit_sound {port : Nat} (sound : SoundExcept config router port)
    (due : router.outputDue port = none) (done : router.transmit config port = .ok next) :
    RouterSound config next := by
  unfold Router.transmit at done
  split at done
  · cases done
  · rename_i active
    have sending : Sending router port := ⟨not_not.1 active, due⟩
    split at done
    · rename_i frame rest frames
      exact sound_of_sent (sound.set_port _) ⟨by simpa [Router.setPort] using sending.1, due⟩ done
    · rename_i frames
      split at done
      · rename_i nothing
        cases done
        refine ⟨sound.1.of_quiet ⟨rfl, rfl, rfl, rfl, rfl, rfl, rfl⟩, fun other => ?_⟩
        by_cases same : other = port
        · subst same
          refine ⟨?_, fun _ => ⟨by simp [Router.setPort, frames], ?_⟩⟩
          · simp [Scheduled, Router.setPort, due]
          · intro held mem queue place at_
            exact paused_of_arbitrate sound.1 nothing mem place at_
        · exact (sound.2 other same).of_unchanged ⟨rfl, rfl, rfl, rfl, rfl, rfl, rfl⟩
            (update_other _ _ same) rfl
      · rename_i queue winner
        split at done
        · rename_i empty
          have can := List.find?_some winner
          simp [Router.canTransmit, empty] at can
        · obtain ⟨middle, dequeued, sent⟩ := bind_eq_ok.1 done
          obtain ⟨soundMiddle, sendingMiddle⟩ := dequeue_sound sound sending dequeued
          exact sound_of_sent soundMiddle sendingMiddle sent

/-! ## The other events -/

/-- Ports do not look at packets on their way to the routing pipeline. -/
theorem sound_of_pipeline {held : HeldPacket} {due : Nat} (sound : RouterSound config router)
    (place : held.place = .pipeline due) (priority : held.packet.priority < config.queuesNum) :
    RouterSound config { router with held := router.held ++ [held] } := by
  obtain ⟨⟨paused, refreshes, inRange⟩, ports⟩ := sound
  refine ⟨⟨paused, refreshes, fun other mem => ?_⟩, fun port => ⟨(ports port).scheduled,
    fun idle => ⟨((ports port).waits idle).1, fun other mem => ?_⟩⟩⟩
  · rcases List.mem_append.1 mem with mem | mem
    · exact inRange other mem
    · rw [List.mem_singleton.1 mem]
      refine ⟨priority, fun queue here => ?_⟩
      rw [place] at here
      cases here
  · rcases List.mem_append.1 mem with mem | mem
    · exact ((ports port).waits idle).2 other mem
    · intro queue here
      rw [List.mem_singleton.1 mem, place] at here
      cases here

theorem count_ingress_sound {ingress : Ingress} (sound : RouterSound config router)
    (done : router.countIngress config queue ingress = .ok next) : RouterSound config next := by
  have counted : RouterSound config { router with ingress } := by
    refine Fewer.sound ?_ sound
    exact ⟨rfl, rfl, rfl, rfl, rfl, fun _ mem => mem⟩
  unfold Router.countIngress at done
  split at done
  · obtain ⟨quiet, stirred⟩ := send_pfc_spec done
    exact counted.of_stirred quiet stirred
  · cases done
    exact counted

theorem receive_data_sound {port : Nat} {packet : Packet} (sound : RouterSound config router)
    (priority : packet.priority < config.queuesNum)
    (done : router.receiveData config port packet = .ok next) : RouterSound config next := by
  unfold Router.receiveData at done
  obtain ⟨admitted, received, done⟩ := bind_eq_ok.1 done
  obtain ⟨counted, paused, rfl⟩ := map_eq_ok.1 done
  have soundCounted := count_ingress_sound sound paused
  split
  · exact soundCounted
  · exact sound_of_pipeline soundCounted rfl priority

theorem receive_pfc_sound {port : Nat} {frame : PfcFrame} (sound : RouterSound config router)
    (done : router.receivePfc config port frame = .ok next) : RouterSound config next := by
  refine foldlM_keeps (fun state priority after soundBefore step => ?_) sound done
  unfold Router.receiveClass at step
  simp only at step
  split_ifs at step
  · cases step
    refine Fewer.sound ?_ soundBefore
    exact ⟨rfl, rfl, rfl, rfl, rfl, fun _ mem => mem⟩
  · cases step
    exact soundBefore

/-- An enqueued packet wakes its port. -/
theorem enqueue_packet_sound {port : Nat} {packet : Packet} {tag : TaggedPacket}
    (sound : RouterSound config router) (priority : packet.priority < config.queuesNum)
    (inRange : port < config.portsNum)
    (done : router.enqueuePacket config packet tag port = .ok next) : RouterSound config next := by
  unfold Router.enqueuePacket at done
  obtain ⟨requested, granted, done⟩ := bind_eq_ok.1 done
  split at done
  · obtain ⟨quiet, stirred, woken, -⟩ := wake_up_spec done
    obtain ⟨⟨paused, refreshes, heldInRange⟩, ports⟩ := sound
    refine ⟨TimersSound.of_quiet ?_ quiet, fun other => ?_⟩
    · refine ⟨paused, refreshes, fun other mem => ?_⟩
      rcases List.mem_append.1 mem with mem | mem
      · exact heldInRange other mem
      · rw [List.mem_singleton.1 mem]
        refine ⟨priority, fun queue here => ?_⟩
        cases here
        exact ⟨inRange, priority⟩
    · by_cases same : other = port
      · subst same
        exact woken.sound (ports other).scheduled
      · refine PortSound.of_stirred ?_ quiet stirred
        refine ⟨(ports other).scheduled, fun idle =>
          ⟨((ports other).waits idle).1, fun held mem => ?_⟩⟩
        rcases List.mem_append.1 mem with mem | mem
        · exact ((ports other).waits idle).2 held mem
        · intro queue here at_
          rw [List.mem_singleton.1 mem] at here
          cases here
          exact absurd at_ (Ne.symm same)
  · cases done
    refine Fewer.sound ?_ sound
    exact ⟨rfl, rfl, rfl, rfl, rfl, fun _ mem => mem⟩

theorem route_packet_sound {packet : Packet} {tag : TaggedPacket}
    (sound : RouterSound config router) (priority : packet.priority < config.queuesNum)
    (done : router.routePacket config packet tag = .ok next) : RouterSound config next := by
  have discarded : RouterSound config (router.discard packet) := by
    refine Fewer.sound ?_ sound
    exact ⟨rfl, rfl, rfl, rfl, rfl, fun _ mem => mem⟩
  unfold Router.routePacket at done
  split at done
  · cases done
    exact discarded
  · simp only at done
    split at done
    · cases done
      exact discarded
    · split at done
      · rename_i connected
        refine enqueue_packet_sound sound ?_ connected.1 done
        exact priority
      · cases done

/-- The X-on frame for a queue with packets of an idle port. -/
def StrandsQueue (router : Router) : Event → Prop
  | .setPfcPaused queue =>
    (router.setPausedDue queue).map Prod.snd = some 0 ∧
      (router.ports queue.port).state = .idle ∧ router.packetQueue queue ≠ []
  | _ => False

theorem set_pfc_paused_sound {pauseDuration : Int} (sound : RouterSound config router)
    (wakes : ¬(pauseDuration = 0 ∧ (router.ports queue.port).state = .idle ∧
      router.packetQueue queue ≠ [])) (done : router.setPfcPaused queue pauseDuration = .ok next) :
    RouterSound config next := by
  unfold Router.setPfcPaused at done
  split at done
  · cases done
  · rename_i future
    cases done
    obtain ⟨⟨paused, refreshes, inRange⟩, ports⟩ := sound
    refine ⟨⟨fun other later => ?_, fun other due pending => ?_, inRange⟩, fun port =>
      ⟨(ports port).scheduled, fun idle => ⟨((ports port).waits idle).1,
        fun held mem other place at_ => ?_⟩⟩⟩
    · by_cases same : other = queue
      · subst same
        simp only [update_same] at later ⊢
        rw [if_pos (Nat.ne_of_gt later)]
      · simp only [update_other _ _ same] at later ⊢
        exact paused other later
    · by_cases same : other = queue
      · subst same
        simp only [update_same] at pending ⊢
        split at pending
        · exact (Option.some.inj pending).symm
        · cases pending
      · simp only [update_other _ _ same] at pending ⊢
        exact refreshes other due pending
    · have awaits := ((ports port).waits idle).2 held mem other place at_
      by_cases same : other = queue
      · subst same
        have waiting : router.packetQueue other ≠ [] :=
          List.ne_nil_of_mem (List.mem_filter.2 ⟨mem, decide_eq_true place⟩)
        have positive : pauseDuration ≠ 0 := fun zero => wakes ⟨zero, at_ ▸ idle, waiting⟩
        refine ⟨awaits.1, ?_, ?_⟩
        · simp only [update_same]
          rw [if_pos (by omega)]
        · simp only [update_same]
          omega
      · refine ⟨awaits.1, ?_, ?_⟩
        · simp only [update_other _ _ same]
          exact awaits.2.1
        · simp only [update_other _ _ same]
          exact awaits.2.2

theorem resume_output_sound {port : Nat} (sound : SoundExcept config router port)
    (scheduled : Scheduled router port) (done : router.resumeOutput config port = .ok next) :
    RouterSound config next := by
  unfold Router.resumeOutput at done
  split at done
  · rename_i idle
    have due : router.outputDue port = none := scheduled.canWake idle
    exact transmit_sound (sound.set_port _) due done
  · rename_i active
    cases done
    refine ⟨sound.1, fun other => ?_⟩
    by_cases same : other = port
    · subst same
      exact ⟨scheduled, fun idle => absurd idle active⟩
    · exact sound.2 other same

/-- A refreshment event concerns the ports of other queues only by the time. -/
theorem refreshed_sound (sound : RouterSound config router)
    (due : router.refreshmentDue queue = some router.now) :
    SoundExcept config { router with
      refreshmentDue := update router.refreshmentDue queue none } queue.port := by
  obtain ⟨⟨paused, refreshes, inRange⟩, ports⟩ := sound
  refine ⟨⟨fun other later => ?_, fun other time pending => ?_, inRange⟩, fun port different =>
    ⟨(ports port).scheduled, fun idle => ⟨((ports port).waits idle).1,
      fun held mem other place at_ => ?_⟩⟩⟩
  · by_cases same : other = queue
    · subst same
      have now := refreshes other router.now due
      simp only at later
      omega
    · simp only [update_other _ _ same]
      exact paused other later
  · by_cases same : other = queue
    · subst same
      simp at pending
    · simp only [update_other _ _ same] at pending
      exact refreshes other time pending
  · have awaits := ((ports port).waits idle).2 held mem other place at_
    have elsewhere : other ≠ queue := fun same => different (same ▸ at_.symm)
    unfold AwaitsResume
    simp only [update_other _ _ elsewhere]
    exact awaits

/-! ## Every event -/

theorem advance_sound {time : Nat} (sound : RouterSound config router)
    (possible : (Event.advance time).Possible config router) :
    RouterSound config { router with now := time } := by
  obtain ⟨later, -, quiet⟩ := possible
  obtain ⟨⟨paused, refreshes, inRange⟩, ports⟩ := sound
  refine ⟨⟨fun queue pausedLater => ?_, refreshes, inRange⟩, fun port =>
    ⟨(ports port).scheduled, fun idle => ⟨((ports port).waits idle).1,
      fun held mem queue place at_ => ?_⟩⟩⟩
  · simp only at pausedLater
    exact paused queue (by omega)
  · obtain ⟨pfc, refreshment, -⟩ := ((ports port).waits idle).2 held mem queue place at_
    obtain ⟨portRange, priorityRange⟩ := (inRange held mem).2 queue place
    have due := ((quiet queue.port portRange).2 queue.priority priorityRange).2.1
      (router.unpauseTimes queue) refreshment
    exact ⟨pfc, refreshment, due⟩

theorem output_due_taken (sound : RouterSound config router) (port : Nat) :
    SoundExcept config { router with outputDue := update router.outputDue port none } port ∧
      update router.outputDue port none port = none := by
  refine ⟨⟨sound.1.of_quiet ⟨rfl, rfl, rfl, rfl, rfl, rfl, rfl⟩, fun other different => ?_⟩,
    update_same _ _ _⟩
  exact (sound.2 other).of_unchanged ⟨rfl, rfl, rfl, rfl, rfl, rfl, rfl⟩ rfl
    (update_other _ _ different)

theorem perform_sound {event : Event} (sound : RouterSound config router)
    (possible : event.Possible config router) (wakes : ¬StrandsQueue router event)
    (done : perform config router event = .ok next) : RouterSound config next := by
  cases event with
  | receiveData port packet => exact receive_data_sound sound possible.2.1 done
  | receivePfc port frame => exact receive_pfc_sound sound done
  | routerDelay held =>
    refine route_packet_sound (Fewer.sound ?_ sound) (sound.1.inRange held possible.1).1 done
    exact ⟨rfl, rfl, rfl, rfl, rfl, fun other mem => List.mem_of_mem_erase mem⟩
  | outputScheduling port =>
    obtain ⟨soundBefore, due⟩ := output_due_taken sound port
    exact transmit_sound soundBefore due done
  | setPfcPaused queue =>
    have soundBefore : RouterSound config
        { router with setPausedDue := update router.setPausedDue queue none } := by
      refine Fewer.sound ?_ sound
      exact ⟨rfl, rfl, rfl, rfl, rfl, fun _ mem => mem⟩
    refine set_pfc_paused_sound soundBefore (fun strands => wakes ?_) done
    obtain ⟨zero, idle, waiting⟩ := strands
    refine ⟨?_, idle, waiting⟩
    cases pending : router.setPausedDue queue with
    | none => simp [Event.Possible, pending] at possible
    | some due => simpa [pending] using zero
  | pfcRefreshment queue =>
    exact resume_output_sound (refreshed_sound sound possible)
      (sound.2 queue.port).scheduled done
  | pfcPauseSend queue =>
    obtain ⟨quiet, stirred⟩ := send_pfc_spec done
    have soundBefore : RouterSound config
        { router with sendPauseDue := update router.sendPauseDue queue none } := by
      refine Fewer.sound ?_ sound
      exact ⟨rfl, rfl, rfl, rfl, rfl, fun _ mem => mem⟩
    exact soundBefore.of_stirred quiet stirred
  | advance time =>
    cases done
    exact advance_sound sound possible

/-! ## The checks of the output events -/

/-- An operation that schedules no output event twice, and sends from no idle port. -/
def Harmless {Result : Type} (result : Except Fatal Result) : Prop :=
  result ≠ .error .outputAlreadyScheduled ∧ result ≠ .error .wrongPortState

theorem harmless_ok {Result : Type} (value : Result) : Harmless (.ok value) := by
  simp [Harmless]

theorem Harmless.bind {A B : Type} {first : Except Fatal A} {second : A → Except Fatal B}
    (one : Harmless first) (two : ∀ value, first = .ok value → Harmless (second value)) :
    Harmless (first >>= second) := by
  cases first with
  | error failure => simpa [Harmless, Bind.bind, Except.bind] using one
  | ok value => exact two value rfl

theorem Harmless.map {A B : Type} {first : Except Fatal A} (one : Harmless first)
    (change : A → B) : Harmless (first.map change) := by
  cases first with
  | error failure => simpa [Harmless, Except.map] using one
  | ok value => exact harmless_ok _

theorem harmless_foldlM {S A : Type} {step : S → A → Except Fatal S}
    (each : ∀ state item, Harmless (step state item)) (items : List A) (state : S) :
    Harmless (items.foldlM step state) := by
  induction items generalizing state with
  | nil => exact harmless_ok state
  | cons item rest ih =>
    rw [List.foldlM_cons]
    exact (each state item).bind fun middle _ => ih middle

theorem received_data_harmless (config : MemoryManagementUnit.Config) (ingress : Ingress)
    (queue : QueueId) (packetSize : Nat) :
    Harmless (ingress.receivedData config queue packetSize) := by
  unfold Ingress.receivedData
  split
  · simp only
    split
    · split
      · exact harmless_ok _
      · exact harmless_ok _
    · refine Harmless.map ?_ _
      unfold Ingress.admitToPool
      simp only
      split_ifs <;> simp [Harmless]
  · exact harmless_ok _

theorem dequeued_packet_harmless (config : MemoryManagementUnit.Config) (ingress : Ingress)
    (packet : TaggedPacket) : Harmless (ingress.dequeuedPacket config packet) := by
  unfold Ingress.dequeuedPacket
  split
  · refine Harmless.map ?_ _
    unfold Ingress.ingressAccountingRelease
    simp only
    split_ifs <;> simp [Harmless]
  · exact harmless_ok _

theorem egress_harmless (egress : Egress) (queue : QueueId) (packetOccupancy : Nat) :
    (∀ config, Harmless (egress.requestEnqueue config queue packetOccupancy)) ∧
      Harmless (egress.dequeuedPacket queue packetOccupancy) := by
  refine ⟨fun config => ?_, ?_⟩
  · unfold Egress.requestEnqueue
    split_ifs <;> simp [Harmless]
  · unfold Egress.dequeuedPacket
    split_ifs <;> simp [Harmless]

theorem wake_up_harmless {port : Nat} (ready : CanWake router port) :
    Harmless (router.wakeUp port) := by
  unfold Router.wakeUp
  split
  · rename_i idle
    have free := ready idle
    unfold Router.scheduleOutput
    rw [if_neg (by simpa [Router.setPort] using free)]
    exact harmless_ok _
  · exact harmless_ok _

theorem generate_pfc_harmless {port priority : Nat} {pauseUnits : Int}
    (ready : CanWake router port) : Harmless (router.generatePfc port priority pauseUnits) := by
  unfold Router.generatePfc
  split
  · exact wake_up_harmless (by simpa [CanWake, Router.setPort] using ready)
  · exact wake_up_harmless (by simpa [CanWake, Router.setPort] using ready)
  · simp [Harmless]

theorem send_pfc_harmless (ready : CanWake router queue.port) :
    Harmless (router.sendPfc config queue) := by
  unfold Router.sendPfc
  simp only
  split_ifs
  · simp [Harmless]
  · exact (generate_pfc_harmless ready).map _
  · exact harmless_ok _

theorem send_packet_harmless {port duration : Nat} (sending : Sending router port) :
    Harmless (router.sendPacket config port duration) := by
  unfold Router.sendPacket Router.scheduleOutput
  rw [if_neg (by simpa [Router.setPort] using sending.2)]
  exact harmless_ok _

theorem dequeue_harmless {held : HeldPacket} (ready : ∀ port, CanWake router port) :
    Harmless (router.dequeue config queue held) := by
  unfold Router.dequeue
  refine (dequeued_packet_harmless _ _ _).bind fun ingress _ =>
    (egress_harmless _ _ _).2.bind fun egress _ => ?_
  simp only
  split
  · unfold Router.sendXon
    split
    · exact generate_pfc_harmless (ready held.tag.queue.port)
    · exact harmless_ok _
  · exact harmless_ok _

theorem transmit_harmless {port : Nat} (sound : SoundExcept config router port)
    (sending : Sending router port) : Harmless (router.transmit config port) := by
  unfold Router.transmit
  rw [if_neg (not_not.2 sending.1)]
  split
  · exact send_packet_harmless ⟨by simpa [Router.setPort] using sending.1, sending.2⟩
  · split
    · exact harmless_ok _
    · split
      · exact harmless_ok _
      · refine Harmless.bind (dequeue_harmless fun other => ?_) fun middle dequeued =>
          send_packet_harmless (dequeue_sound sound sending dequeued).2
        by_cases same : other = port
        · subst same
          exact sending.canWake
        · exact (sound.2 other same).scheduled.canWake

theorem route_packet_harmless (ready : ∀ port, CanWake router port) (packet : Packet)
    (tag : TaggedPacket) : Harmless (router.routePacket config packet tag) := by
  unfold Router.routePacket
  split
  · exact harmless_ok _
  · simp only
    split
    · exact harmless_ok _
    · rename_i port found
      split
      · refine ((egress_harmless _ _ _).1 _).bind fun requested _ => ?_
        split
        · exact wake_up_harmless (ready port)
        · exact harmless_ok _
      · simp [Harmless]

theorem set_pfc_paused_harmless (router : Router) (queue : QueueId) (pauseDuration : Int) :
    Harmless (router.setPfcPaused queue pauseDuration) := by
  unfold Router.setPfcPaused
  split
  · simp [Harmless]
  · exact harmless_ok _

theorem resume_output_harmless {port : Nat} (sound : SoundExcept config router port)
    (ready : CanWake router port) : Harmless (router.resumeOutput config port) := by
  unfold Router.resumeOutput
  split
  · rename_i idle
    exact transmit_harmless (sound.set_port _) ⟨by simp [Router.setPort], ready idle⟩
  · exact harmless_ok _

/-- No event of a sound router fails a check of its output events. -/
theorem perform_harmless {event : Event} (sound : RouterSound config router)
    (possible : event.Possible config router) : Harmless (perform config router event) := by
  cases event with
  | receiveData port packet =>
    refine (received_data_harmless _ _ _ _).bind fun admitted _ => Harmless.map ?_ _
    unfold Router.countIngress
    split
    · exact send_pfc_harmless (sound.2 port).scheduled.canWake
    · exact harmless_ok _
  | receivePfc port frame =>
    refine harmless_foldlM (fun state priority => ?_) _ _
    unfold Router.receiveClass
    simp only
    split_ifs <;> simp [Harmless]
  | routerDelay held =>
    refine route_packet_harmless ?_ _ _
    exact fun port => (sound.2 port).scheduled.canWake
  | outputScheduling port =>
    obtain ⟨soundBefore, due⟩ := output_due_taken sound port
    have active := (sound.2 port).scheduled.2 (by rw [possible]; rfl)
    exact transmit_harmless soundBefore ⟨active, due⟩
  | setPfcPaused queue => exact set_pfc_paused_harmless _ _ _
  | pfcRefreshment queue =>
    exact resume_output_harmless (refreshed_sound sound possible)
      (sound.2 queue.port).scheduled.canWake
  | pfcPauseSend queue => exact send_pfc_harmless (sound.2 queue.port).scheduled.canWake
  | advance time => exact harmless_ok _

/-! ## Runs -/

theorem start_sound (config : NetworkRouter.Config) : RouterSound config (start config) := by
  refine ⟨⟨fun queue later => ?_, fun queue due pending => ?_, fun held mem => ?_⟩, fun port =>
    ⟨?_, fun _ => ⟨rfl, fun held mem => ?_⟩⟩⟩
  · cases later
  · cases pending
  · cases mem
  · simp [Scheduled, start]
  · cases mem

/-- The X-on frame leaves the queue without a refreshment event, and the port idle. -/
theorem stranded {event : Event} (strands : StrandsQueue router event)
    (done : perform config router event = .ok next) : ∃ port, ¬PortSound config next port := by
  cases event with
  | setPfcPaused queue =>
    obtain ⟨zero, idle, waiting⟩ := strands
    refine ⟨queue.port, fun sound => ?_⟩
    simp only [perform, zero, Option.getD_some, Router.setPfcPaused, Int.lt_irrefl, if_false,
      Except.ok.injEq] at done
    subst done
    obtain ⟨held, mem⟩ := List.exists_mem_of_ne_nil _ waiting
    obtain ⟨mem, place⟩ := List.mem_filter.1 mem
    have awaits := (sound.waits idle).2 held mem queue (of_decide_eq_true place) rfl
    simpa using awaits.2.1
  | _ => cases strands

/-- In every run in which no X-on frame is for a queue with packets of an idle port, a port is
active exactly while its output event is pending, and an idle one waits for the refreshment of
each of its queues that holds a packet. The next event keeps it so exactly if it is no such
frame, and fails no check of an output event. -/
theorem ports_sound_iff (config : NetworkRouter.Config) {router : Router}
    (reachable : Runs.Reachable (Initial config)
      (Step config fun router event => ¬StrandsQueue router event) router) :
    (∀ port, PortSound config router port) ∧
      ∀ event, event.Possible config router → Harmless (perform config router event) ∧
        ∀ next, perform config router event = .ok next →
          ((∀ port, PortSound config next port) ↔ ¬StrandsQueue router event) := by
  have sound : RouterSound config router := by
    apply Runs.invariant_of_reachable _ _ reachable
    · rintro router rfl
      exact start_sound config
    · rintro router next sound ⟨event, possible, wakes, done⟩
      exact perform_sound sound possible wakes done
  refine ⟨sound.2, fun event possible => ⟨perform_harmless sound possible, fun next done => ?_⟩⟩
  refine ⟨fun soundNext strands => ?_, fun wakes => (perform_sound sound possible wakes done).2⟩
  obtain ⟨port, unsound⟩ := stranded strands done
  exact unsound (soundNext port)

/-- A router of two ports and one queue each, without delays of its own. -/
def smallRouter : NetworkRouter.Config where
  mmu := {
    ingressServicePoolSize := 100
    egressServicePoolSize := 100
    portEgressAlpha := fun _ => 1
    queue := fun _ => { ingressAlpha := 1, egressAlpha := 1, pfcHeadroom := 20 } }
  portsNum := 2
  queuesNum := 1
  routerDelay := 0
  transmissionTime := fun _ size => size
  pfcTransmissionTime := fun _ => 1
  pauseDuration := fun _ quanta => quanta
  pauseQuanta := fun _ duration => duration
  outputPort := fun packet => some packet.destination

/-- The output queue of port 0 is paused before its packet could leave. -/
def pausedPacket : List Event :=
  [.receivePfc 0 (Router.setClass {} 0 500), .setPfcPaused ⟨0, 0⟩,
    .receiveData 1 ⟨1, 4, 0, 64, 0⟩, .routerDelay ⟨⟨1, 4, 0, 64, 0⟩, ⟨⟨1, 0⟩, 4, 0, 4, 0⟩, .pipeline 0⟩,
    .advance 10, .outputScheduling 0]

instance decidableStrandsQueue (router : Router) :
    (event : Event) → Decidable (StrandsQueue router event)
  | .setPfcPaused _ => inferInstanceAs (Decidable (_ ∧ _))
  | .receiveData .. | .receivePfc .. | .routerDelay _ | .outputScheduling _ | .pfcRefreshment _
  | .pfcPauseSend _ | .advance _ => .isFalse id

theorem ports_sound_paused : ∃ router : Router,
    ((router.ports 0).state = .idle ∧ router.packetQueue ⟨0, 0⟩ ≠ []) ∧
      PortSound smallRouter router 0 := by
  have tested : (Runs.execute
      (attempt smallRouter fun router event => ¬StrandsQueue router event) pausedPacket
      (start smallRouter)).any (fun router => decide
        ((router.ports 0).state = .idle ∧ router.packetQueue ⟨0, 0⟩ ≠ [])) = true := by
    decide +kernel
  obtain ⟨router, reachable, holds⟩ :=
    Runs.reached_with attempt_step (start_initial smallRouter) tested
  exact ⟨router, of_decide_eq_true holds, (ports_sound_iff smallRouter reachable).1 0⟩

/-- Then an X-on frame arrives: the queue is no longer paused, and nothing will send its packet. -/
theorem xon_strands_packet : ∃ router : Router,
    Runs.Reachable (Initial smallRouter) (Step smallRouter fun _ _ => True) router ∧
      (router.ports 0).state = .idle ∧ router.packetQueue ⟨0, 0⟩ ≠ [] ∧
      router.isPaused ⟨0, 0⟩ = false ∧ router.refreshmentDue ⟨0, 0⟩ = none ∧
      router.outputDue 0 = none := by
  have tested : (Runs.execute (attempt smallRouter fun _ _ => True)
      (pausedPacket ++ [.receivePfc 0 (Router.setClass {} 0 0), .setPfcPaused ⟨0, 0⟩])
      (start smallRouter)).any (fun router => decide
        ((router.ports 0).state = .idle ∧ router.packetQueue ⟨0, 0⟩ ≠ [] ∧
          router.isPaused ⟨0, 0⟩ = false ∧ router.refreshmentDue ⟨0, 0⟩ = none ∧
          router.outputDue 0 = none)) = true := by
    decide +kernel
  obtain ⟨router, reachable, holds⟩ :=
    Runs.reached_with attempt_step (start_initial smallRouter) tested
  exact ⟨router, reachable, of_decide_eq_true holds⟩

end Isekai.PortProofs
