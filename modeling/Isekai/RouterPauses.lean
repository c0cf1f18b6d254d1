import Isekai.Outcomes
import Isekai.PortProofs

/-! The pauses that a router's queues are in, beside the PFC frames that it has received. A frame is
processed after a delay, by a message that each queue has once: a second frame for a queue whose
message is still scheduled ends the run. Nothing but processed frames moves the end of a pause. -/

namespace Isekai.RouterPauses
open MemoryManagementUnit NetworkRouter
open Outcomes (bind_ne_error map_ne_error)
open PortProofs (update_same update_other schedule_output_spec)

variable {config : NetworkRouter.Config} {router next : Router}
variable {port : ℕ} {queue : QueueId}

/-! ## Functions that do not touch pauses -/

/-- The clock, the ends of pauses and the messages of pauses are the same. -/
structure Untouched (router next : Router) : Prop where
  now : next.now = router.now
  unpauseTimes : next.unpauseTimes = router.unpauseTimes
  refreshmentDue : next.refreshmentDue = router.refreshmentDue
  setPausedDue : next.setPausedDue = router.setPausedDue

theorem Untouched.refl (router : Router) : Untouched router router := ⟨rfl, rfl, rfl, rfl⟩

theorem Untouched.trans {router middle next : Router} (one : Untouched router middle)
    (two : Untouched middle next) : Untouched router next :=
  ⟨two.now.trans one.now, two.unpauseTimes.trans one.unpauseTimes,
    two.refreshmentDue.trans one.refreshmentDue, two.setPausedDue.trans one.setPausedDue⟩

/-- Something else is changed first. -/
theorem Untouched.after {router middle next : Router} (two : Untouched middle next)
    (one : Untouched router middle) : Untouched router next :=
  one.trans two

theorem schedule_output_untouched {delay : ℕ} (done : router.scheduleOutput port delay = .ok next) :
    Untouched router next := by
  obtain ⟨-, rfl⟩ := schedule_output_spec done
  exact ⟨rfl, rfl, rfl, rfl⟩

theorem wake_up_untouched (done : router.wakeUp port = .ok next) : Untouched router next := by
  unfold Router.wakeUp at done
  split_ifs at done
  · exact (schedule_output_untouched done).after ⟨rfl, rfl, rfl, rfl⟩
  · cases done
    exact .refl router

theorem generate_pfc_untouched {priority : ℕ} {pauseUnits : ℤ}
    (done : router.generatePfc port priority pauseUnits = .ok next) : Untouched router next := by
  unfold Router.generatePfc at done
  split at done
  · exact (wake_up_untouched done).after ⟨rfl, rfl, rfl, rfl⟩
  · exact (wake_up_untouched done).after ⟨rfl, rfl, rfl, rfl⟩
  · cases done

theorem send_pfc_untouched (done : router.sendPfc config queue = .ok next) :
    Untouched router next := by
  unfold Router.sendPfc at done
  simp only at done
  split_ifs at done
  · obtain ⟨sent, generated, rfl⟩ := map_eq_ok.1 done
    exact (generate_pfc_untouched generated).trans ⟨rfl, rfl, rfl, rfl⟩
  · cases done
    exact .refl router

theorem send_xon_untouched (done : router.sendXon config queue = .ok next) :
    Untouched router next := by
  unfold Router.sendXon at done
  split_ifs at done
  · exact generate_pfc_untouched done
  · cases done
    exact .refl router

theorem receive_data_untouched {packet : Packet}
    (done : router.receiveData config port packet = .ok next) : Untouched router next := by
  unfold Router.receiveData at done
  obtain ⟨⟨occupancy, ingress⟩, -, done⟩ := bind_eq_ok.1 done
  obtain ⟨counted, paused, rfl⟩ := map_eq_ok.1 done
  have untouched : Untouched router counted := by
    unfold Router.countIngress at paused
    split_ifs at paused
    · exact (send_pfc_untouched paused).after ⟨rfl, rfl, rfl, rfl⟩
    · cases paused
      exact ⟨rfl, rfl, rfl, rfl⟩
  dsimp only
  split_ifs
  · exact untouched
  · exact untouched.trans ⟨rfl, rfl, rfl, rfl⟩

theorem route_packet_untouched {packet : Packet} {tag : TaggedPacket}
    (done : router.routePacket config packet tag = .ok next) : Untouched router next := by
  unfold Router.routePacket at done
  split_ifs at done
  · cases done
    exact ⟨rfl, rfl, rfl, rfl⟩
  · dsimp only at done
    split at done
    · cases done
      exact ⟨rfl, rfl, rfl, rfl⟩
    · split_ifs at done
      obtain ⟨requested, -, done⟩ := bind_eq_ok.1 done
      split_ifs at done
      · exact (wake_up_untouched done).after ⟨rfl, rfl, rfl, rfl⟩
      · cases done
        exact ⟨rfl, rfl, rfl, rfl⟩

theorem send_packet_untouched {duration : ℕ}
    (done : router.sendPacket config port duration = .ok next) : Untouched router next := by
  exact (schedule_output_untouched done).after ⟨rfl, rfl, rfl, rfl⟩

theorem dequeue_untouched {held : HeldPacket} (done : router.dequeue config queue held = .ok next) :
    Untouched router next := by
  unfold Router.dequeue at done
  obtain ⟨ingress, -, done⟩ := bind_eq_ok.1 done
  obtain ⟨egress, -, done⟩ := bind_eq_ok.1 done
  dsimp only at done
  split_ifs at done
  · exact (send_xon_untouched done).after ⟨rfl, rfl, rfl, rfl⟩
  · cases done
    exact ⟨rfl, rfl, rfl, rfl⟩

theorem transmit_untouched (done : router.transmit config port = .ok next) :
    Untouched router next := by
  unfold Router.transmit at done
  split_ifs at done
  split at done
  · exact (send_packet_untouched done).after ⟨rfl, rfl, rfl, rfl⟩
  · split at done
    · cases done
      exact ⟨rfl, rfl, rfl, rfl⟩
    · split at done
      · cases done
        exact .refl router
      · obtain ⟨middle, dequeued, sent⟩ := bind_eq_ok.1 done
        exact (dequeue_untouched dequeued).trans (send_packet_untouched sent)

theorem resume_output_untouched (done : router.resumeOutput config port = .ok next) :
    Untouched router next := by
  unfold Router.resumeOutput at done
  split_ifs at done
  · exact (transmit_untouched done).after ⟨rfl, rfl, rfl, rfl⟩
  · cases done
    exact .refl router

/-! ## Functions that schedule no message of a pause -/

/-- The result is no complaint about a message of a pause that is already scheduled. -/
def Spares {Result : Type} (result : Except Fatal Result) : Prop :=
  result ≠ .error .eventAlreadyScheduled

section Spares
variable {Value Result : Type}

theorem spares_ok (value : Value) : Spares (.ok value : Except Fatal Value) := nofun

theorem spares_error {fatal : Fatal} (other : fatal ≠ .eventAlreadyScheduled) :
    Spares (.error fatal : Except Fatal Value) :=
  fun same => other (Except.error.inj same)

theorem spares_ite {condition : Prop} [Decidable condition] {yes no : Except Fatal Value}
    (first : Spares yes) (second : Spares no) : Spares (if condition then yes else no) := by
  split_ifs
  · exact first
  · exact second

end Spares

theorem admit_to_pool_spares (config : MemoryManagementUnit.Config) (ingress : Ingress)
    (queue : QueueId) (size : ℕ) : Spares (ingress.admitToPool config queue size) := by
  unfold Ingress.admitToPool
  dsimp only
  refine spares_ite (spares_ite (spares_error (by decide)) (spares_ok _)) ?_
  exact spares_ite (spares_ok _) (spares_ite (spares_error (by decide)) (spares_ok _))

theorem received_data_spares (config : MemoryManagementUnit.Config) (ingress : Ingress)
    (queue : QueueId) (size : ℕ) : Spares (ingress.receivedData config queue size) := by
  unfold Ingress.receivedData
  refine spares_ite ?_ (spares_ok _)
  dsimp only
  refine spares_ite ?_ (map_ne_error (admit_to_pool_spares config _ queue size))
  split
  · exact spares_ok _
  · exact spares_ok _

theorem ingress_dequeued_spares (config : MemoryManagementUnit.Config) (ingress : Ingress)
    (packet : TaggedPacket) : Spares (ingress.dequeuedPacket config packet) := by
  unfold Ingress.dequeuedPacket Ingress.ingressAccountingRelease
  refine spares_ite (map_ne_error ?_) (spares_ok _)
  dsimp only
  refine spares_ite (spares_error (by decide)) (spares_ite (spares_error (by decide)) ?_)
  exact spares_ite (spares_error (by decide)) (spares_ite (spares_error (by decide)) (spares_ok _))

theorem request_enqueue_spares (config : MemoryManagementUnit.Config) (egress : Egress)
    (queue : QueueId) (size : ℕ) : Spares (egress.requestEnqueue config queue size) := by
  unfold Egress.requestEnqueue
  refine spares_ite (spares_ite (spares_error (by decide)) (spares_ok _)) ?_
  exact spares_ite (spares_error (by decide)) (spares_ok _)

theorem egress_dequeued_spares (egress : Egress) (queue : QueueId) (size : ℕ) :
    Spares (egress.dequeuedPacket queue size) := by
  unfold Egress.dequeuedPacket
  refine spares_ite (spares_error (by decide)) ?_
  exact spares_ite (spares_error (by decide)) (spares_ok _)

theorem schedule_output_spares (router : Router) (port delay : ℕ) :
    Spares (router.scheduleOutput port delay) := by
  unfold Router.scheduleOutput
  exact spares_ite (spares_error (by decide)) (spares_ok _)

theorem wake_up_spares (router : Router) (port : ℕ) : Spares (router.wakeUp port) := by
  unfold Router.wakeUp
  exact spares_ite (schedule_output_spares _ port _) (spares_ok _)

theorem generate_pfc_spares (router : Router) (port priority : ℕ) (pauseUnits : ℤ) :
    Spares (router.generatePfc port priority pauseUnits) := by
  unfold Router.generatePfc
  split
  · exact wake_up_spares _ port
  · exact wake_up_spares _ port
  · exact spares_error (by decide)

theorem send_pfc_spares (router : Router) (queue : QueueId) :
    Spares (router.sendPfc config queue) := by
  unfold Router.sendPfc
  refine spares_ite ?_ (spares_ok _)
  exact spares_ite (spares_error (by decide)) (map_ne_error (generate_pfc_spares _ _ _ _))

theorem send_xon_spares (router : Router) (queue : QueueId) :
    Spares (router.sendXon config queue) := by
  unfold Router.sendXon
  exact spares_ite (generate_pfc_spares _ _ _ _) (spares_ok _)

theorem receive_data_spares (router : Router) (port : ℕ) (packet : Packet) :
    Spares (router.receiveData config port packet) := by
  unfold Router.receiveData Router.countIngress
  refine bind_ne_error (received_data_spares _ _ _ _) fun admitted => map_ne_error ?_
  exact spares_ite (send_pfc_spares _ _) (spares_ok _)

theorem route_packet_spares (router : Router) (packet : Packet) (tag : TaggedPacket) :
    Spares (router.routePacket config packet tag) := by
  unfold Router.routePacket Router.enqueuePacket
  refine spares_ite (spares_ok _) ?_
  dsimp only
  split
  · exact spares_ok _
  · refine spares_ite (bind_ne_error (request_enqueue_spares _ _ _ _) fun requested => ?_)
      (spares_error (by decide))
    exact spares_ite (wake_up_spares _ _) (spares_ok _)

theorem dequeue_spares (router : Router) (queue : QueueId) (held : HeldPacket) :
    Spares (router.dequeue config queue held) := by
  unfold Router.dequeue
  refine bind_ne_error (ingress_dequeued_spares _ _ _) fun ingress =>
    bind_ne_error (egress_dequeued_spares _ _ _) fun egress => ?_
  exact spares_ite (send_xon_spares _ _) (spares_ok _)

theorem transmit_spares (router : Router) (port : ℕ) : Spares (router.transmit config port) := by
  unfold Router.transmit Router.sendPacket
  refine spares_ite (spares_error (by decide)) ?_
  split
  · exact schedule_output_spares _ port _
  · split
    · exact spares_ok _
    · split
      · exact spares_ok _
      · exact bind_ne_error (dequeue_spares _ _ _) fun _ => schedule_output_spares _ port _

theorem resume_output_spares (router : Router) (port : ℕ) :
    Spares (router.resumeOutput config port) := by
  unfold Router.resumeOutput
  exact spares_ite (transmit_spares _ port) (spares_ok _)

theorem set_pfc_paused_spares (router : Router) (queue : QueueId) (pauseDuration : ℤ) :
    Spares (router.setPfcPaused queue pauseDuration) := by
  unfold Router.setPfcPaused
  exact spares_ite (spares_error (by decide)) (spares_ok _)

/-! ## Received frames -/

/-- The delay and the pause duration of the message that a frame schedules for a queue. -/
def messageOf (config : NetworkRouter.Config) (now port : ℕ) (frame : PfcFrame) (priority : ℕ) :
    ℕ × ℤ :=
  (now + config.rxPfcDelay, config.pauseDuration port (frame.timeClass priority))

theorem receive_class_eq_ok {frame : PfcFrame} {priority : ℕ} :
    router.receiveClass config frame port priority = .ok next ↔
      (frame.classEnable priority = false ∧ router = next) ∨
      frame.classEnable priority = true ∧ router.setPausedDue ⟨port, priority⟩ = none ∧
        { router with
          setPausedDue := update router.setPausedDue (QueueId.mk port priority)
            (some (messageOf config router.now port frame priority)) } = next := by
  unfold Router.receiveClass messageOf
  cases enabled : frame.classEnable priority with
  | false => simp
  | true =>
    by_cases free : router.setPausedDue ⟨port, priority⟩ = none
    · simp [free]
    · simp [free]

/-- The classes of a frame are handled one by one: each needs a message that is not scheduled. -/
theorem receive_classes_eq_ok {frame : PfcFrame} {classes : List ℕ} (distinct : classes.Nodup)
    (done : classes.foldlM (Router.receiveClass config frame port) router = .ok next) :
    next = { router with setPausedDue := next.setPausedDue } ∧
    (∀ priority ∈ classes, frame.classEnable priority = true →
      router.setPausedDue ⟨port, priority⟩ = none) ∧
    ∀ queue, next.setPausedDue queue =
      if queue.port = port ∧ queue.priority ∈ classes ∧ frame.classEnable queue.priority = true then
        some (messageOf config router.now port frame queue.priority)
      else router.setPausedDue queue := by
  induction classes generalizing router with
  | nil =>
    cases done
    simp
  | cons first rest ih =>
    rw [List.foldlM_cons] at done
    obtain ⟨middle, received, after⟩ := bind_eq_ok.1 done
    obtain ⟨fresh, restDistinct⟩ := List.nodup_cons.1 distinct
    obtain ⟨same, free, scheduled⟩ := ih restDistinct after
    rcases receive_class_eq_ok.1 received with ⟨disabled, rfl⟩ | ⟨enabled, open_, rfl⟩
    · refine ⟨same, ?_, fun queue => ?_⟩
      · intro priority listed set
        rcases List.mem_cons.1 listed with rfl | later
        · rw [disabled] at set
          cases set
        · exact free priority later set
      · rw [scheduled queue]
        by_cases here : queue.priority = first
        · simp [here, disabled]
        · simp [here]
    · refine ⟨same, ?_, fun queue => ?_⟩
      · intro priority listed set
        rcases List.mem_cons.1 listed with rfl | later
        · exact open_
        · have apart : (⟨port, priority⟩ : QueueId) ≠ ⟨port, first⟩ := by
            rintro ⟨⟩
            exact fresh later
          have still := free priority later set
          dsimp only at still
          rwa [update_other _ _ apart] at still
      · rw [scheduled queue]
        dsimp only
        by_cases here : queue = ⟨port, first⟩
        · subst here
          simp [fresh, enabled]
        · rw [update_other _ _ here]
          have apart : queue.port = port → queue.priority ≠ first := by
            rintro rfl rfl
            exact here rfl
          by_cases atPort : queue.port = port
          · simp [atPort, apart atPort]
          · simp [atPort]

/-- A frame is refused exactly if the message of one of its classes is scheduled. -/
theorem receive_classes_error_iff {frame : PfcFrame} {port : ℕ} {classes : List ℕ}
    (distinct : classes.Nodup) :
    classes.foldlM (Router.receiveClass config frame port) router =
        .error .eventAlreadyScheduled ↔
      ∃ priority ∈ classes, frame.classEnable priority = true ∧
        router.setPausedDue ⟨port, priority⟩ ≠ none := by
  induction classes generalizing router with
  | nil => simp [pure, Except.pure]
  | cons first rest ih =>
    obtain ⟨fresh, restDistinct⟩ := List.nodup_cons.1 distinct
    rw [List.foldlM_cons]
    cases enabled : frame.classEnable first with
    | false =>
      have skipped : router.receiveClass config frame port first = .ok router :=
        receive_class_eq_ok.2 (.inl ⟨enabled, rfl⟩)
      rw [skipped]
      refine (ih restDistinct).trans ?_
      simp [enabled]
    | true =>
      by_cases free : router.setPausedDue ⟨port, first⟩ = none
      · rw [receive_class_eq_ok.2 (.inr ⟨enabled, free, rfl⟩)]
        refine (ih restDistinct).trans ?_
        rw [List.exists_mem_cons_iff]
        simp only [free, ne_eq, not_true_eq_false, and_false, false_or]
        refine exists_congr fun priority => and_congr_right fun listed =>
          and_congr_right fun _ => ?_
        have apart : (⟨port, priority⟩ : QueueId) ≠ ⟨port, first⟩ := by
          rintro ⟨⟩
          exact fresh listed
        rw [update_other _ _ apart]
      · have refused : router.receiveClass config frame port first =
            .error .eventAlreadyScheduled := by
          unfold Router.receiveClass
          simp [enabled, free]
        rw [refused]
        simp only [bind, Except.bind, true_iff]
        exact ⟨first, List.mem_cons_self, enabled, free⟩

/-! ## Processed frames -/

/-- `cancelEvent` of a refreshment message that is scheduled. -/
def cancelRefreshment (router : Router) (queue : QueueId) : Router :=
  if router.refreshmentDue queue ≠ none then
    { router with refreshmentDue := update router.refreshmentDue queue none }
  else router

/-- `scheduleAt` of a refreshment message. -/
def scheduleRefreshment (router : Router) (queue : QueueId) (time : ℤ) : Except Fatal Router :=
  if router.refreshmentDue queue ≠ none then .error .eventAlreadyScheduled
  else if time < router.now then .error .eventInThePast
  else .ok { router with refreshmentDue := update router.refreshmentDue queue (some time.toNat) }

/-- `MemoryManagementUnit::SetPfcPaused`, statement by statement. -/
def setPausedBySteps (router : Router) (queue : QueueId) (pauseDuration : ℤ) :
    Except Fatal Router :=
  let unpauseTime : ℤ := router.now + pauseDuration
  let cancelled := cancelRefreshment router queue
  let paused := { cancelled with
    unpauseTimes := update cancelled.unpauseTimes queue unpauseTime.toNat }
  if unpauseTime ≠ router.now then scheduleRefreshment paused queue unpauseTime else .ok paused

theorem cancel_refreshment (router : Router) (queue : QueueId) :
    cancelRefreshment router queue =
      { router with refreshmentDue := update router.refreshmentDue queue none } := by
  unfold cancelRefreshment
  by_cases scheduled : router.refreshmentDue queue = none
  · have same : update router.refreshmentDue queue none = router.refreshmentDue := by
      funext other
      unfold update
      split_ifs with here
      · rw [here, scheduled]
      · rfl
    rw [if_neg (not_not_intro scheduled), same]
  · rw [if_pos scheduled]

theorem schedule_refreshment_free (free : router.refreshmentDue queue = none) (time : ℤ) :
    scheduleRefreshment router queue time =
      if time < router.now then .error .eventInThePast
      else .ok { router with
        refreshmentDue := update router.refreshmentDue queue (some time.toNat) } := by
  unfold scheduleRefreshment
  rw [if_neg (not_not_intro free)]

/-- The cancellation comes first, so the message is never scheduled twice. -/
theorem set_paused_by_steps (router : Router) (queue : QueueId) (pauseDuration : ℤ) :
    setPausedBySteps router queue pauseDuration = router.setPfcPaused queue pauseDuration := by
  unfold setPausedBySteps
  rw [cancel_refreshment]
  dsimp only
  rw [schedule_refreshment_free (update_same _ _ _)]
  dsimp only
  have again : ∀ value, update (update router.refreshmentDue queue none) queue value =
      update router.refreshmentDue queue value := by
    intro value
    funext other
    unfold update
    split_ifs <;> rfl
  unfold Router.setPfcPaused
  by_cases past : pauseDuration < 0
  · have moved : (router.now : ℤ) + pauseDuration ≠ router.now := by omega
    have before : (router.now : ℤ) + pauseDuration < router.now := by omega
    rw [if_pos past, if_pos moved, if_pos before]
  · have sum : ((router.now : ℤ) + pauseDuration).toNat = router.now + pauseDuration.toNat := by
      omega
    rw [if_neg past, sum]
    by_cases longer : pauseDuration = 0
    · subst longer
      simp
    · have moved : (router.now : ℤ) + pauseDuration ≠ router.now := by omega
      have later : router.now + pauseDuration.toNat ≠ router.now := by omega
      have notBefore : ¬ (router.now : ℤ) + pauseDuration < router.now := by omega
      rw [if_pos moved, if_neg notBefore, again]
      dsimp only
      rw [if_pos later]

/-- What an event does, with the steps of `SetPfcPaused` one by one. -/
def performBySteps (config : NetworkRouter.Config) (router : Router) :
    Event → Except Fatal Router
  | .setPfcPaused queue =>
    setPausedBySteps { router with setPausedDue := update router.setPausedDue queue none } queue
      (((router.setPausedDue queue).map Prod.snd).getD 0)
  | other => perform config router other

theorem perform_by_steps (router : Router) (event : Event) :
    performBySteps config router event = perform config router event := by
  cases event with
  | setPfcPaused queue => exact set_paused_by_steps _ queue _
  | _ => rfl

/-! ## A router beside the frames that it received -/

structure World where
  router : Router
  /-- For each queue, the frames that were received and are not processed: when they will be, and
  the pause of each. -/
  awaiting : QueueId → List (ℕ × ℤ) := fun _ => []
  /-- The end of the pause of the frame that was processed last. -/
  lastEnd : QueueId → ℕ := fun _ => 0

/-- The books after an event. A received frame awaits its processing in each of its classes, and
the one that awaited longest is processed. -/
def World.record (config : NetworkRouter.Config) (world : World) (next : Router) : Event → World
  | .receivePfc port frame =>
    { world with
      router := next
      awaiting := fun queue =>
        if queue.port = port ∧ queue.priority ∈ List.range classesOfService ∧
            frame.classEnable queue.priority = true then
          world.awaiting queue ++ [messageOf config world.router.now port frame queue.priority]
        else world.awaiting queue }
  | .setPfcPaused queue =>
    match world.awaiting queue with
    | [] => { world with router := next }
    | message :: rest =>
      { router := next
        awaiting := update world.awaiting queue rest
        lastEnd := update world.lastEnd queue (world.router.now + message.2.toNat) }
  | _ => { world with router := next }

def World.perform (config : NetworkRouter.Config) (world : World) (event : Event) :
    Except Fatal World :=
  (performBySteps config world.router event).map fun next => world.record config next event

def World.Step (config : NetworkRouter.Config) (world next : World) : Prop :=
  ∃ event, event.Possible config world.router ∧ world.perform config event = .ok next

def World.Initial (config : NetworkRouter.Config) (world : World) : Prop :=
  world = { router := start config }

/-- What is wanted of an event: no message of a pause is scheduled while it already is, the pause
of every queue ends as the frame processed last says, and a queue that resumes was paused by no
later frame. -/
structure Kept (config : NetworkRouter.Config) (world : World) (event : Event) : Prop where
  scheduledOnce : world.perform config event ≠ .error .eventAlreadyScheduled
  ends : ∀ queue, world.router.unpauseTimes queue = world.lastEnd queue
  resumed : ∀ queue, event = .pfcRefreshment queue → world.lastEnd queue = world.router.now

/-- A PFC frame finds no message scheduled for the queues of its classes: the earlier frames have
been processed. -/
def Unhurried (world : World) : Event → Prop
  | .receivePfc port frame => ∀ priority < classesOfService, frame.classEnable priority = true →
      world.router.setPausedDue ⟨port, priority⟩ = none
  | _ => True

/-- The books agree with the router. -/
structure Booked (world : World) : Prop where
  awaiting : ∀ queue, world.awaiting queue = (world.router.setPausedDue queue).toList
  ends : ∀ queue, world.router.unpauseTimes queue = world.lastEnd queue
  refreshed : ∀ queue due, world.router.refreshmentDue queue = some due →
    due = world.router.unpauseTimes queue

theorem Booked.of_untouched {world next : World} (booked : Booked world)
    (untouched : Untouched world.router next.router) (awaiting : next.awaiting = world.awaiting)
    (ends : next.lastEnd = world.lastEnd) : Booked next := by
  refine ⟨fun queue => ?_, fun queue => ?_, fun queue due scheduled => ?_⟩
  · rw [awaiting, untouched.setPausedDue]
    exact booked.awaiting queue
  · rw [untouched.unpauseTimes, ends]
    exact booked.ends queue
  · rw [untouched.refreshmentDue] at scheduled
    rw [untouched.unpauseTimes]
    exact booked.refreshed queue due scheduled

theorem World.perform_eq_ok {world next : World} {event : Event} :
    world.perform config event = .ok next ↔
      ∃ router, NetworkRouter.perform config world.router event = .ok router ∧
        world.record config router event = next := by
  unfold World.perform
  rw [perform_by_steps, map_eq_ok]

theorem World.perform_eq_error {world : World} {event : Event} {fatal : Fatal} :
    world.perform config event = .error fatal ↔
      NetworkRouter.perform config world.router event = .error fatal := by
  unfold World.perform
  rw [perform_by_steps]
  cases NetworkRouter.perform config world.router event <;> simp [Except.map]

/-- What received frames add to the books. -/
theorem Booked.received {world : World} {frame : PfcFrame} {next : Router} (booked : Booked world)
    (done : world.router.receivePfc config port frame = .ok next) :
    Booked (world.record config next (.receivePfc port frame)) := by
  obtain ⟨same, free, scheduled⟩ := receive_classes_eq_ok List.nodup_range done
  have unpauseTimes : next.unpauseTimes = world.router.unpauseTimes := by rw [same]
  have refreshmentDue : next.refreshmentDue = world.router.refreshmentDue := by rw [same]
  refine ⟨fun queue => ?_, fun queue => ?_, fun queue due => ?_⟩
  · show (if _ then _ else _) = (next.setPausedDue queue).toList
    rw [scheduled queue]
    by_cases here : queue.port = port ∧ queue.priority ∈ List.range classesOfService ∧
        frame.classEnable queue.priority = true
    · rw [if_pos here, if_pos here, booked.awaiting queue]
      obtain ⟨rfl, listed, enabled⟩ := here
      have empty : world.router.setPausedDue queue = none := free queue.priority listed enabled
      rw [empty]
      rfl
    · rw [if_neg here, if_neg here]
      exact booked.awaiting queue
  · exact (congrFun unpauseTimes queue).trans (booked.ends queue)
  · show next.refreshmentDue queue = some due → due = next.unpauseTimes queue
    rw [unpauseTimes, refreshmentDue]
    exact booked.refreshed queue due

/-- The frame whose message is due is the only one that awaits its processing. -/
theorem Booked.processed {world : World} {next : Router} (booked : Booked world)
    (due : (world.router.setPausedDue queue).map Prod.fst = some world.router.now)
    (done : NetworkRouter.perform config world.router (.setPfcPaused queue) = .ok next) :
    Booked (world.record config next (.setPfcPaused queue)) := by
  obtain ⟨message, scheduled, -⟩ := Option.map_eq_some_iff.1 due
  have awaits : world.awaiting queue = [message] := by
    rw [booked.awaiting queue, scheduled]
    rfl
  have recorded : world.record config next (.setPfcPaused queue) =
      { router := next
        awaiting := update world.awaiting queue []
        lastEnd := update world.lastEnd queue (world.router.now + message.2.toNat) } := by
    rw [World.record, awaits]
  rw [recorded]
  rw [NetworkRouter.perform, Router.setPfcPaused, scheduled] at done
  dsimp only [Option.map_some, Option.getD_some] at done
  by_cases past : message.2 < 0
  · rw [if_pos past] at done
    cases done
  rw [if_neg past] at done
  cases done
  refine ⟨fun other => ?_, fun other => ?_, fun other time => ?_⟩
  · dsimp only
    by_cases same : other = queue
    · rw [same, update_same, update_same]
      rfl
    · rw [update_other _ _ same, update_other _ _ same]
      exact booked.awaiting other
  · dsimp only
    by_cases same : other = queue
    · rw [same, update_same, update_same]
    · rw [update_other _ _ same, update_other _ _ same]
      exact booked.ends other
  · dsimp only
    by_cases same : other = queue
    · rw [same, update_same, update_same]
      split_ifs
      · rintro ⟨⟩
        rfl
      · rintro ⟨⟩
    · rw [update_other _ _ same, update_other _ _ same]
      exact booked.refreshed other time

theorem Booked.resumed {world : World} {next : Router} (booked : Booked world)
    (untouched : Untouched
      { world.router with refreshmentDue := update world.router.refreshmentDue queue none } next) :
    Booked { world with router := next } := by
  have cleared : Booked { world with
      router := { world.router with
        refreshmentDue := update world.router.refreshmentDue queue none } } := by
    refine ⟨booked.awaiting, booked.ends, fun other due => ?_⟩
    dsimp only
    by_cases same : other = queue
    · rw [same, update_same]
      nofun
    · rw [update_other _ _ same]
      exact booked.refreshed other due
  exact cleared.of_untouched untouched rfl rfl

theorem booked_step {world next : World} (booked : Booked world)
    (taken : world.Step config next) : Booked next := by
  obtain ⟨event, possible, performed⟩ := taken
  obtain ⟨router, done, rfl⟩ := World.perform_eq_ok.1 performed
  cases event with
  | receiveData port packet =>
    exact booked.of_untouched (receive_data_untouched done) rfl rfl
  | receivePfc port frame => exact booked.received done
  | routerDelay held =>
    exact booked.of_untouched ((route_packet_untouched done).after ⟨rfl, rfl, rfl, rfl⟩) rfl rfl
  | outputScheduling port =>
    exact booked.of_untouched ((transmit_untouched done).after ⟨rfl, rfl, rfl, rfl⟩) rfl rfl
  | setPfcPaused queue => exact booked.processed possible done
  | pfcRefreshment queue => exact booked.resumed (resume_output_untouched done)
  | pfcPauseSend queue =>
    exact booked.of_untouched ((send_pfc_untouched done).after ⟨rfl, rfl, rfl, rfl⟩) rfl rfl
  | advance time =>
    cases done
    exact ⟨booked.awaiting, booked.ends, booked.refreshed⟩

theorem reachable_booked {world : World}
    (reached : Runs.Reachable (World.Initial config) (World.Step config) world) :
    Booked world := by
  refine @Runs.invariant_of_reachable World _ _ Booked (fun first started => ?_)
    (fun _ _ booked taken => booked_step booked taken) _ reached
  cases started
  exact ⟨fun _ => rfl, fun _ => rfl, nofun⟩

/-! ## When the pauses are as wanted -/

/-- Only a frame that comes too early finds a message of a pause already scheduled. -/
theorem perform_spares_iff {world : World} {event : Event} :
    world.perform config event ≠ .error .eventAlreadyScheduled ↔ Unhurried world event := by
  rw [ne_eq, World.perform_eq_error]
  cases event with
  | receiveData port packet =>
    exact iff_of_true (receive_data_spares _ port packet) trivial
  | receivePfc port frame =>
    have refused := @receive_classes_error_iff config world.router frame port
      (List.range classesOfService) List.nodup_range
    refine (not_congr refused).trans ?_
    simp only [Unhurried, List.mem_range, not_exists, not_and, not_not]
  | routerDelay held => exact iff_of_true (route_packet_spares _ _ _) trivial
  | outputScheduling port => exact iff_of_true (transmit_spares _ port) trivial
  | setPfcPaused queue => exact iff_of_true (set_pfc_paused_spares _ queue _) trivial
  | pfcRefreshment queue => exact iff_of_true (resume_output_spares _ _) trivial
  | pfcPauseSend queue => exact iff_of_true (send_pfc_spares _ queue) trivial
  | advance time => exact iff_of_true (spares_ok _) trivial

/-- In every run, an event goes as wanted exactly if it is no PFC frame for a queue whose
message of an earlier frame is still scheduled. -/
theorem kept_condition {world : World}
    (reached : Runs.Reachable (World.Initial config) (World.Step config) world) {event : Event}
    (possible : event.Possible config world.router) :
    Kept config world event ↔ Unhurried world event := by
  have booked := reachable_booked reached
  refine ⟨fun kept => perform_spares_iff.1 kept.scheduledOnce,
    fun unhurried => ⟨perform_spares_iff.2 unhurried, booked.ends, fun queue resumes => ?_⟩⟩
  subst resumes
  have due : world.router.refreshmentDue queue = some world.router.now := possible
  rw [← booked.ends queue]
  exact (booked.refreshed queue _ due).symm

/-! ## A frame that comes too early -/

def World.attempt (config : NetworkRouter.Config) (world : World) (event : Event) :
    Option World :=
  Runs.attempt (event.Possible config world.router) (world.perform config event)

theorem attempt_step {world : World} {event : Event} {next : World}
    (done : world.attempt config event = some next) : world.Step config next := by
  obtain ⟨possible, performed⟩ := Runs.attempt_eq_some.1 done
  exact ⟨event, possible, performed⟩

/-- A router with one port that processes PFC frames after 10 ns. -/
def onePort : NetworkRouter.Config where
  mmu := {
    ingressServicePoolSize := 100
    egressServicePoolSize := 100
    portEgressAlpha := fun _ => 1
    queue := fun _ => {} }
  portsNum := 1
  queuesNum := 8
  rxPfcDelay := 10
  transmissionTime := fun _ _ => 1
  pfcTransmissionTime := fun _ => 1
  pauseDuration := fun _ quanta => quanta
  pauseQuanta := fun _ duration => duration
  outputPort := fun _ => none

/-- A pause of class 3. -/
def pauseOf (quanta : ℤ) : PfcFrame := Router.setClass {} 3 quanta

/-- The second frame for a class comes 5 ns after the first: its message is still scheduled. -/
theorem second_frame_refused : ∃ (config : NetworkRouter.Config) (world : World) (event : Event),
    Runs.Reachable (World.Initial config) (World.Step config) world ∧
      event.Possible config world.router ∧ ¬ Kept config world event := by
  have tested : (Runs.execute (World.attempt onePort)
      [.receivePfc 0 (pauseOf 100), .advance 5] { router := start onePort }).any (fun world =>
        decide (((Event.receivePfc 0 (pauseOf 20)).Possible onePort world.router) ∧
          world.router.setPausedDue ⟨0, 3⟩ ≠ none)) = true := by
    decide +kernel
  obtain ⟨world, reached, holds⟩ := @Runs.reached_with World (World.Initial onePort)
    (World.Step onePort) Event (World.attempt onePort) (fun _ _ _ done => attempt_step done) _ _
    rfl _ tested
  obtain ⟨possible, scheduled⟩ := of_decide_eq_true holds
  refine ⟨onePort, world, .receivePfc 0 (pauseOf 20), reached, possible, fun kept => ?_⟩
  exact scheduled (perform_spares_iff.1 kept.scheduledOnce 3 (by decide) (by decide))

end Isekai.RouterPauses
