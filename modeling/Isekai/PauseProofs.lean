import Isekai.FalconTypes
import Isekai.IngressAccounting

/-! When the sender of an ingress queue is paused, the pause ends with the release of a packet of
the queue; a paused queue that holds nothing stays paused. Every step that would leave such a
queue is one of two: a packet that starts a pause at an empty queue and is not admitted to its
headroom, and the release of the last packet of a queue whose limit is 0. -/

namespace Isekai.PauseProofs
open MemoryManagementUnit
open MemoryManagementUnit.Ingress (countOccupancy)
open IngressAccounting (State Event Step Initial perform check_pfc_trigger_flag
  check_pfc_trigger_counters set_pfc_sending_counters)

variable {config : Config} {next ingress : Ingress} {queue : QueueId} {state : State}

/-- Every paused queue holds a cell. -/
def Clearable (ingress : Ingress) : Prop :=
  ∀ queue, (ingress.queues queue).pfcSendingTriggered = true →
    0 < (ingress.queues queue).occupancy

/-- The limit of a packet's queue once the packet's part of the shared pool is free again. -/
def limitAfterRelease (config : Config) (ingress : Ingress) (packet : TaggedPacket) : Rat :=
  ((ingress.poolFreeCells + packet.sharedPool : Nat) : Rat) *
    (config.queue packet.queue).ingressAlpha +
      (config.queue packet.queue).ingressMinimalGuarantee

/-- A packet that starts a pause at an empty queue is admitted to its headroom, and a paused queue
that loses its last packet has a positive limit. -/
def StaysClearable (config : Config) (state : State) : Event → Prop
  | .received queue packetSize =>
    config.supportPfc = true → (state.ingress.queues queue).occupancy = 0 →
      state.ingress.triggersPfc config queue packetSize = true →
        0 < packetSize ∧ (state.ingress.queues queue).headroomOccupancy + packetSize ≤
          (config.queue queue).pfcHeadroom
  | .dequeued packet =>
    config.supportPfc = true →
      (state.ingress.queues packet.queue).pfcSendingTriggered = true →
        (state.ingress.queues packet.queue).occupancy = packet.size →
          0 < limitAfterRelease config state.ingress packet

/-! ## What the operations do to a queue -/

/-- A received packet changes only the flag and the occupancy of its own queue, as far as pauses
are concerned. -/
structure Received (config : Config) (ingress : Ingress) (queue : QueueId) (packetSize : Nat)
    (drop : Bool) (next : Ingress) : Prop where
  elsewhere : ∀ other, other ≠ queue → next.queues other = ingress.queues other
  flag : (next.queues queue).pfcSendingTriggered =
    ((ingress.queues queue).pfcSendingTriggered || ingress.triggersPfc config queue packetSize)
  occupancy : (next.queues queue).occupancy =
    (ingress.queues queue).occupancy + if drop then 0 else packetSize
  dropped : drop = true ↔ (next.queues queue).pfcSendingTriggered = true ∧
    (config.queue queue).pfcHeadroom < (ingress.queues queue).headroomOccupancy + packetSize

theorem check_pfc_trigger_other (config : Config) (ingress : Ingress) {other : QueueId}
    (packetSize : Nat) (different : other ≠ queue) :
    (ingress.checkPfcTrigger config queue packetSize).queues other = ingress.queues other := by
  unfold Ingress.checkPfcTrigger
  split
  · exact Ingress.set_queue_other _ _ different
  · rfl

theorem admit_to_pool_effect {packetSize : Nat} {occupancy : IngressMemoryOccupancy}
    (admitted : ingress.admitToPool config queue packetSize = .ok (occupancy, next)) :
    (∀ other, other ≠ queue → next.queues other = ingress.queues other) ∧
      (next.queues queue).pfcSendingTriggered = (ingress.queues queue).pfcSendingTriggered ∧
      (next.queues queue).occupancy = (ingress.queues queue).occupancy := by
  unfold Ingress.admitToPool at admitted
  simp only at admitted
  split_ifs at admitted
  all_goals
    cases admitted
    refine ⟨fun other different => ?_, ?_, ?_⟩
  · rfl
  · rfl
  · rfl
  · exact Ingress.set_queue_other _ _ different
  · simp
  · simp
  · exact Ingress.set_queue_other _ _ different
  · simp [Ingress.setQueue]
  · simp [Ingress.setQueue]

theorem received_data_effect {packetSize : Nat} {occupancy : IngressMemoryOccupancy}
    (pfc : config.supportPfc = true)
    (received : ingress.receivedData config queue packetSize = .ok (occupancy, next)) :
    Received config ingress queue packetSize occupancy.drop next := by
  have flag := check_pfc_trigger_flag config ingress queue packetSize
  have elsewhere : ∀ other, other ≠ queue →
      (ingress.checkPfcTrigger config queue packetSize).queues other = ingress.queues other :=
    fun other different => check_pfc_trigger_other config ingress packetSize different
  obtain ⟨paused, counters⟩ := check_pfc_trigger_counters config ingress queue packetSize queue
  unfold Ingress.receivedData at received
  rw [if_pos pfc] at received
  simp only at received
  generalize ingress.checkPfcTrigger config queue packetSize = checked at flag elsewhere counters received
  have same : (checked.queues queue).occupancy = (ingress.queues queue).occupancy := by
    rw [counters]
  have sameHeadroom : (checked.queues queue).headroomOccupancy =
      (ingress.queues queue).headroomOccupancy := by
    rw [counters]
  split at received
  · rename_i triggered
    unfold Ingress.admitToHeadroom at received
    simp only at received
    split at received
    · rename_i full
      split at full
      · rename_i exceeded
        cases received
        exact ⟨elsewhere, flag, by simpa using same, by simp [triggered, ← sameHeadroom, exceeded]⟩
      · cases full
    · rename_i admitted room
      split at room
      · cases room
      · rename_i fits
        cases room
        cases received
        refine ⟨fun other different => ?_, ?_, ?_, ?_⟩
        · simp only [Ingress.set_queue_other _ _ different, elsewhere other different]
        · simpa [countOccupancy] using flag
        · simpa [countOccupancy] using same
        · simpa [countOccupancy, triggered, ← sameHeadroom] using fits
  · rename_i untriggered
    obtain ⟨⟨place, middle⟩, admitted, result⟩ := map_eq_ok.1 received
    cases result
    obtain ⟨others, sameFlag, sameOccupancy⟩ := admit_to_pool_effect admitted
    refine ⟨fun other different => ?_, ?_, ?_, ?_⟩
    · simp only [Ingress.set_queue_other _ _ different, others other different,
        elsewhere other different]
    · simpa [countOccupancy, sameFlag] using flag
    · simpa [countOccupancy, sameOccupancy] using same
    · simpa [countOccupancy, sameFlag] using fun triggered => absurd triggered untriggered

/-- The end of a packet changes only its own queue. -/
structure Dequeued (config : Config) (ingress : Ingress) (packet : TaggedPacket)
    (next : Ingress) : Prop where
  elsewhere : ∀ other, other ≠ packet.queue → next.queues other = ingress.queues other
  held : packet.size ≤ (ingress.queues packet.queue).occupancy
  occupancy : (next.queues packet.queue).occupancy =
    (ingress.queues packet.queue).occupancy - packet.size
  flag : (next.queues packet.queue).pfcSendingTriggered =
    ((ingress.queues packet.queue).pfcSendingTriggered &&
      !decide ((((ingress.queues packet.queue).occupancy - packet.size : Nat) : Rat) <
        limitAfterRelease config ingress packet))

theorem check_pfc_resume_effect (config : Config) (ingress : Ingress) (queue : QueueId) :
    (∀ other, other ≠ queue →
        (ingress.checkPfcResume config queue).queues other = ingress.queues other) ∧
      ((ingress.checkPfcResume config queue).queues queue).occupancy =
        (ingress.queues queue).occupancy ∧
      ((ingress.checkPfcResume config queue).queues queue).pfcSendingTriggered =
        ((ingress.queues queue).pfcSendingTriggered &&
          !decide (((ingress.queues queue).occupancy : Rat) <
            ingress.pfcTriggerLimit config queue)) := by
  unfold Ingress.checkPfcResume
  split
  · rename_i resumes
    refine ⟨fun other different => Ingress.set_queue_other _ _ different, ?_, ?_⟩
    · simp [Ingress.setPfcSending]
    · simp only [Ingress.resumesPfc, Bool.and_eq_true] at resumes
      simp [Ingress.setPfcSending, resumes.2]
  · rename_i stays
    refine ⟨fun other _ => rfl, rfl, ?_⟩
    rw [Bool.not_eq_true, Ingress.resumesPfc] at stays
    cases triggered : (ingress.queues queue).pfcSendingTriggered
    · rfl
    · rw [triggered, Bool.true_and] at stays
      rw [stays]
      rfl

theorem dequeued_packet_effect {packet : TaggedPacket} (pfc : config.supportPfc = true)
    (dequeued : ingress.dequeuedPacket config packet = .ok next) :
    Dequeued config ingress packet next := by
  unfold Ingress.dequeuedPacket at dequeued
  rw [if_pos pfc] at dequeued
  obtain ⟨released, done, rfl⟩ := map_eq_ok.1 dequeued
  unfold Ingress.ingressAccountingRelease at done
  simp only at done
  split_ifs at done with size guarantee headroom held
  cases done
  obtain ⟨elsewhere, occupancy, flag⟩ := check_pfc_resume_effect config
    { ingress.setQueue packet.queue { ingress.queues packet.queue with
        minimalGuaranteeOccupancy :=
          (ingress.queues packet.queue).minimalGuaranteeOccupancy - packet.minimalGuarantee
        headroomOccupancy := (ingress.queues packet.queue).headroomOccupancy - packet.headroom
        occupancy := (ingress.queues packet.queue).occupancy - packet.size } with
      poolFreeCells := ingress.poolFreeCells + packet.sharedPool } packet.queue
  refine ⟨fun other different => ?_, not_lt.1 held, ?_, ?_⟩
  · exact (elsewhere other different).trans (Ingress.set_queue_other _ _ different)
  · simpa [Ingress.setQueue] using occupancy
  · simpa [Ingress.setQueue, Ingress.pfcTriggerLimit, limitAfterRelease] using flag

/-! ## Steps and runs -/

/-- Only the queue of the event may become paused and empty. -/
theorem clearable_iff_at (clearable : Clearable ingress)
    (elsewhere : ∀ other, other ≠ queue → next.queues other = ingress.queues other) :
    Clearable next ↔ ((next.queues queue).pfcSendingTriggered = true →
      0 < (next.queues queue).occupancy) := by
  refine ⟨fun all => all queue, fun here other => ?_⟩
  by_cases same : other = queue
  · subst same
    exact here
  · rw [elsewhere other same]
    exact clearable other

theorem received_clearable_iff {packetSize : Nat} {drop : Bool}
    (clearable : Clearable state.ingress) (pfc : config.supportPfc = true)
    (received : Received config state.ingress queue packetSize drop next) :
    Clearable next ↔ StaysClearable config state (.received queue packetSize) := by
  have here := clearable queue
  obtain ⟨elsewhere, flag, occupancy, dropped⟩ := received
  rw [clearable_iff_at clearable elsewhere, flag, occupancy, StaysClearable]
  rw [flag] at dropped
  by_cases empty : (state.ingress.queues queue).occupancy = 0
  · have untriggered : (state.ingress.queues queue).pfcSendingTriggered = false := by
      by_contra triggered
      have positive := here (by simpa using triggered)
      omega
    simp only [untriggered, Bool.false_or, empty, pfc, true_implies, Nat.zero_add] at dropped ⊢
    refine forall_congr' fun triggers => ?_
    cases drop
    · have admitted : ¬(config.queue queue).pfcHeadroom <
          (state.ingress.queues queue).headroomOccupancy + packetSize :=
        fun full => by simpa using dropped.2 ⟨triggers, full⟩
      simp [not_lt.1 admitted]
    · have full := (dropped.1 rfl).2
      simp only [if_true, Nat.lt_irrefl, false_iff, not_and]
      omega
  · have positive := Nat.pos_of_ne_zero empty
    simp only [empty, false_implies, implies_true, iff_true]
    omega

theorem dequeued_clearable_iff {packet : TaggedPacket} (clearable : Clearable state.ingress)
    (pfc : config.supportPfc = true) (dequeued : Dequeued config state.ingress packet next) :
    Clearable next ↔ StaysClearable config state (.dequeued packet) := by
  obtain ⟨elsewhere, held, occupancy, flag⟩ := dequeued
  rw [clearable_iff_at clearable elsewhere, flag, occupancy, StaysClearable]
  by_cases last : (state.ingress.queues packet.queue).occupancy = packet.size
  · simp only [last, pfc, true_implies, Nat.sub_self, Nat.lt_irrefl, imp_false, Bool.and_eq_true,
      Bool.not_eq_true', decide_eq_false_iff_not, not_and, not_not]
    rfl
  · have positive : 0 < (state.ingress.queues packet.queue).occupancy - packet.size := by omega
    simp [last, positive]

/-- A step from a state in which every paused queue holds a cell leads to another one exactly if
it meets the condition. -/
theorem perform_clearable_iff {next : State} {event : Event} (clearable : Clearable state.ingress)
    (done : perform config state event = .ok next) :
    Clearable next.ingress ↔ StaysClearable config state event := by
  cases event with
  | received queue packetSize =>
    obtain ⟨⟨occupancy, ingress⟩, received, rfl⟩ := map_eq_ok.1 done
    cases pfc : config.supportPfc
    · simp only [Ingress.receivedData, pfc, Bool.false_eq_true, if_false] at received
      cases received
      simp [StaysClearable, pfc, clearable]
    · exact received_clearable_iff clearable pfc (received_data_effect pfc received)
  | dequeued packet =>
    obtain ⟨ingress, dequeued, rfl⟩ := map_eq_ok.1 done
    cases pfc : config.supportPfc
    · simp only [Ingress.dequeuedPacket, pfc, Bool.false_eq_true, if_false] at dequeued
      cases dequeued
      simp [StaysClearable, pfc, clearable]
    · exact dequeued_clearable_iff clearable pfc (dequeued_packet_effect pfc dequeued)

theorem step_clearable {next : State} (clearable : Clearable state.ingress)
    (step : Step config (StaysClearable config) state next) : Clearable next.ingress := by
  obtain ⟨event, -, met, done⟩ := step
  exact (perform_clearable_iff clearable done).2 met

/-- In every run whose steps all meet the condition, every paused queue holds a cell; and the
first step that does not meet it leaves a paused queue empty. -/
theorem pause_clearable_iff (config : Config) {state : State}
    (reachable : Runs.Reachable (Initial config) (Step config (StaysClearable config)) state) :
    Clearable state.ingress ∧
      ∀ event next, event.possible state → perform config state event = .ok next →
        (Clearable next.ingress ↔ StaysClearable config state event) := by
  have clearable : Clearable state.ingress := by
    apply Runs.invariant_of_reachable _ _ reachable
    · rintro state rfl queue triggered
      cases triggered
    · exact fun state next clearable step => step_clearable clearable step
  exact ⟨clearable, fun event next _ done => perform_clearable_iff clearable done⟩

/-- A unit whose pool is one packet, without guarantees. -/
def tightUnit : Config where
  ingressServicePoolSize := 10
  egressServicePoolSize := 100
  portEgressAlpha := fun _ => 1
  queue := fun _ => { ingressAlpha := 1, egressAlpha := 1, pfcHeadroom := 20 }

/-- The first queue fills the pool, so the second one is paused and takes its packet to its
headroom. -/
def fillPool : List Event := [.received ⟨0, 3⟩ 10, .received ⟨1, 3⟩ 4]

instance decidableStaysClearable (config : Config) (state : State) :
    (event : Event) → Decidable (StaysClearable config state event)
  | .received .. | .dequeued _ => inferInstanceAs (Decidable (_ → _))

theorem pause_clearable_paused : ∃ state : State,
    (state.ingress.queues ⟨1, 3⟩).pfcSendingTriggered = true ∧ Clearable state.ingress := by
  have tested : (Runs.execute
      (IngressAccounting.attempt tightUnit (StaysClearable tightUnit)) fillPool
      (IngressAccounting.start tightUnit)).any (fun state =>
        (state.ingress.queues ⟨1, 3⟩).pfcSendingTriggered) = true := by
    decide +kernel
  obtain ⟨state, reachable, paused⟩ := Runs.reached_with IngressAccounting.attempt_step
    (IngressAccounting.start_initial _) tested
  exact ⟨state, paused, (pause_clearable_iff tightUnit reachable).1⟩

/-- Both packets leave, that of the paused queue first: the unit is empty and the queue paused. -/
theorem empty_queue_stays_paused : ∃ state : State,
    Runs.Reachable (Initial tightUnit) (Step tightUnit fun _ _ => True) state ∧
      state.held = [] ∧ ¬Clearable state.ingress := by
  have tested : (Runs.execute (IngressAccounting.attempt tightUnit fun _ _ => True)
      (fillPool ++ [.dequeued ⟨⟨1, 3⟩, 4, 0, 0, 4⟩, .dequeued ⟨⟨0, 3⟩, 10, 0, 10, 0⟩])
      (IngressAccounting.start tightUnit)).any (fun state => decide
        (state.held = [] ∧ (state.ingress.queues ⟨1, 3⟩).pfcSendingTriggered = true ∧
          (state.ingress.queues ⟨1, 3⟩).occupancy = 0)) = true := by
    decide +kernel
  obtain ⟨state, reachable, holds⟩ := Runs.reached_with IngressAccounting.attempt_step
    (IngressAccounting.start_initial _) tested
  obtain ⟨none_, paused, empty⟩ := of_decide_eq_true holds
  exact ⟨state, reachable, none_, fun clearable => absurd (clearable _ paused) (by omega)⟩

end Isekai.PauseProofs
