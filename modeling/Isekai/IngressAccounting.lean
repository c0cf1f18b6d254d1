import Isekai.Ledger
import Isekai.MemoryManagementUnit
import Isekai.Runs

/-! The ingress accounting of the memory management unit over every sequence of received and
dequeued packets. The counters are the sums of the tags of the packets that are held, as long as
no packet is split between a minimal guarantee and the shared pool: the tag of such a packet
misses what it takes of the guarantee. -/

namespace Isekai.IngressAccounting
open MemoryManagementUnit
open MemoryManagementUnit.Ingress (countOccupancy)
open Ledger (weighed weighed_cons weighed_erase weight_le_weighed)

variable {config : Config} {ingress : Ingress} {held : List TaggedPacket} {packet : TaggedPacket}
  {queue : QueueId} {packetSize : Nat}

/-! ## Runs -/

/-- The unit's ingress side and the packets that it admitted and has not released. -/
structure State where
  ingress : Ingress
  held : List TaggedPacket := []

inductive Event where
  | received (queue : QueueId) (packetSize : Nat)
  | dequeued (packet : TaggedPacket)

/-- Only a packet that is held leaves. -/
def Event.possible (state : State) : Event → Bool
  | .received .. => true
  | .dequeued packet => packet ∈ state.held

def perform (config : Config) (state : State) : Event → Except Fatal State
  | .received queue packetSize =>
    (state.ingress.receivedData config queue packetSize).map fun result =>
      ⟨result.2, if result.1.drop then state.held
        else addIngressTag queue packetSize result.1 :: state.held⟩
  | .dequeued packet =>
    (state.ingress.dequeuedPacket config packet).map fun ingress =>
      ⟨ingress, state.held.erase packet⟩

def start (config : Config) : State := ⟨{ poolFreeCells := config.ingressServicePoolSize }, []⟩

def Initial (config : Config) (state : State) : Prop := state = start config

theorem start_initial (config : Config) : Initial config (start config) := rfl

/-- An event that meets a condition on the state before it. -/
def Step (config : Config) (condition : State → Event → Prop) (state next : State) : Prop :=
  ∃ event, event.possible state ∧ condition state event ∧ perform config state event = .ok next

/-- An event that can be executed. -/
def attempt (config : Config) (condition : State → Event → Prop)
    [∀ state event, Decidable (condition state event)] (state : State) (event : Event) :
    Option State :=
  Runs.attempt (event.possible state = true ∧ condition state event) (perform config state event)

theorem attempt_step {condition : State → Event → Prop}
    [∀ state event, Decidable (condition state event)] (state : State) (event : Event)
    (next : State) (done : attempt config condition state event = some next) :
    Step config condition state next := by
  obtain ⟨⟨possible, met⟩, performed⟩ := Runs.attempt_eq_some.1 done
  exact ⟨event, possible, met, performed⟩

/-! ## The counters -/

/-- The part of a packet that counts for a queue. -/
def countedFor (queue : QueueId) (part : TaggedPacket → Nat) (packet : TaggedPacket) : Nat :=
  if packet.queue = queue then part packet else 0

/-- The counters are the sums of the tags of the held packets. -/
structure Accounted (config : Config) (ingress : Ingress) (held : List TaggedPacket) : Prop where
  tagged : ∀ packet ∈ held,
    packet.size = packet.minimalGuarantee + packet.sharedPool + packet.headroom
  minimalGuarantee : ∀ queue, (ingress.queues queue).minimalGuaranteeOccupancy =
    weighed (countedFor queue (·.minimalGuarantee)) held
  headroom : ∀ queue, (ingress.queues queue).headroomOccupancy =
    weighed (countedFor queue (·.headroom)) held
  occupancy : ∀ queue, (ingress.queues queue).occupancy = weighed (countedFor queue (·.size)) held
  pool : ingress.poolFreeCells + weighed (·.sharedPool) held = config.ingressServicePoolSize
  guaranteed : ∀ queue, (ingress.queues queue).minimalGuaranteeOccupancy ≤
    (config.queue queue).ingressMinimalGuarantee

theorem initial_accounted (config : Config) :
    Accounted config { poolFreeCells := config.ingressServicePoolSize } [] :=
  ⟨by simp, fun _ => rfl, fun _ => rfl, fun _ => rfl, rfl, fun _ => Nat.zero_le _⟩

/-- The pause flags do not count. -/
theorem Accounted.of_counters {next : Ingress} (accounted : Accounted config ingress held)
    (free : next.poolFreeCells = ingress.poolFreeCells) (counters : ∀ queue, ∃ triggered,
      next.queues queue = { ingress.queues queue with pfcSendingTriggered := triggered }) :
    Accounted config next held := by
  obtain ⟨tagged, minimalGuarantee, headroom, occupancy, pool, guaranteed⟩ := accounted
  refine ⟨tagged, fun queue => ?_, fun queue => ?_, fun queue => ?_, ?_, fun queue => ?_⟩
  · obtain ⟨triggered, same⟩ := counters queue
    rw [same, ← minimalGuarantee queue]
  · obtain ⟨triggered, same⟩ := counters queue
    rw [same, ← headroom queue]
  · obtain ⟨triggered, same⟩ := counters queue
    rw [same, ← occupancy queue]
  · rw [free, pool]
  · obtain ⟨triggered, same⟩ := counters queue
    rw [same]
    exact guaranteed queue

theorem set_pfc_sending_counters (ingress : Ingress) (queue : QueueId) (triggered : Bool)
    (other : QueueId) : ∃ flag, (ingress.setPfcSending queue triggered).queues other =
      { ingress.queues other with pfcSendingTriggered := flag } := by
  by_cases same : other = queue
  · subst same
    exact ⟨triggered, by simp [Ingress.setPfcSending]⟩
  · exact ⟨(ingress.queues other).pfcSendingTriggered,
      by simp [Ingress.setPfcSending, Ingress.set_queue_other _ _ same]⟩

theorem check_pfc_trigger_counters (config : Config) (ingress : Ingress) (queue : QueueId)
    (packetSize : Nat) (other : QueueId) :
    ∃ flag, (ingress.checkPfcTrigger config queue packetSize).queues other =
      { ingress.queues other with pfcSendingTriggered := flag } := by
  unfold Ingress.checkPfcTrigger
  split
  · exact set_pfc_sending_counters ingress queue true other
  · exact ⟨_, rfl⟩

theorem check_pfc_trigger_free (config : Config) (ingress : Ingress) (queue : QueueId)
    (packetSize : Nat) : (ingress.checkPfcTrigger config queue packetSize).poolFreeCells =
      ingress.poolFreeCells := by
  unfold Ingress.checkPfcTrigger
  split <;> rfl

theorem check_pfc_trigger_accounted (accounted : Accounted config ingress held) (queue : QueueId)
    (packetSize : Nat) : Accounted config (ingress.checkPfcTrigger config queue packetSize) held :=
  accounted.of_counters (check_pfc_trigger_free config ingress queue packetSize)
    (check_pfc_trigger_counters config ingress queue packetSize)

theorem check_pfc_resume_accounted (accounted : Accounted config ingress held) (queue : QueueId) :
    Accounted config (ingress.checkPfcResume config queue) held := by
  unfold Ingress.checkPfcResume
  split
  · exact accounted.of_counters rfl (set_pfc_sending_counters ingress queue false)
  · exact accounted

/-- The counters of `more` are those of `less` and the tag of one more packet. -/
structure Moves (less more : Ingress) (packet : TaggedPacket) : Prop where
  elsewhere : ∀ other, other ≠ packet.queue → more.queues other = less.queues other
  minimalGuarantee : (more.queues packet.queue).minimalGuaranteeOccupancy =
    (less.queues packet.queue).minimalGuaranteeOccupancy + packet.minimalGuarantee
  headroom : (more.queues packet.queue).headroomOccupancy =
    (less.queues packet.queue).headroomOccupancy + packet.headroom
  occupancy : (more.queues packet.queue).occupancy =
    (less.queues packet.queue).occupancy + packet.size
  pool : more.poolFreeCells + packet.sharedPool = less.poolFreeCells

/-- A counter is the sum over the held packets before a move exactly if it is after it. -/
theorem counter_moves_iff (counter : IngressQueue → Nat) (part : TaggedPacket → Nat)
    {less more : Ingress} (held : List TaggedPacket)
    (elsewhere : ∀ other, other ≠ packet.queue → more.queues other = less.queues other)
    (moved : counter (more.queues packet.queue) =
      counter (less.queues packet.queue) + part packet) :
    (∀ queue, counter (more.queues queue) =
        weighed (countedFor queue part) (packet :: held)) ↔
      ∀ queue, counter (less.queues queue) = weighed (countedFor queue part) held := by
  refine forall_congr' fun queue => ?_
  rw [weighed_cons, countedFor]
  split
  · rename_i same
    subst same
    omega
  · rename_i different
    rw [elsewhere queue (Ne.symm different)]
    omega

theorem Accounted.admit {less more : Ingress} (accounted : Accounted config less held)
    (moves : Moves less more packet)
    (tagged : packet.size = packet.minimalGuarantee + packet.sharedPool + packet.headroom)
    (guaranteed : (more.queues packet.queue).minimalGuaranteeOccupancy ≤
      (config.queue packet.queue).ingressMinimalGuarantee) :
    Accounted config more (packet :: held) := by
  refine ⟨fun other mem => ?_,
    (counter_moves_iff _ _ held moves.elsewhere moves.minimalGuarantee).2
      accounted.minimalGuarantee,
    (counter_moves_iff _ _ held moves.elsewhere moves.headroom).2 accounted.headroom,
    (counter_moves_iff _ _ held moves.elsewhere moves.occupancy).2 accounted.occupancy, ?_,
    fun queue => ?_⟩
  · rcases List.mem_cons.1 mem with rfl | mem
    · exact tagged
    · exact accounted.tagged other mem
  · have pool := accounted.pool
    have moved := moves.pool
    rw [weighed_cons]
    omega
  · by_cases same : queue = packet.queue
    · subst same
      exact guaranteed
    · rw [moves.elsewhere queue same]
      exact accounted.guaranteed queue

theorem Accounted.release {less more : Ingress}
    (accounted : Accounted config more (packet :: held)) (moves : Moves less more packet) :
    Accounted config less held := by
  refine ⟨fun other mem => accounted.tagged other (List.mem_cons_of_mem packet mem),
    (counter_moves_iff _ _ held moves.elsewhere moves.minimalGuarantee).1
      accounted.minimalGuarantee,
    (counter_moves_iff _ _ held moves.elsewhere moves.headroom).1 accounted.headroom,
    (counter_moves_iff _ _ held moves.elsewhere moves.occupancy).1 accounted.occupancy, ?_,
    fun queue => ?_⟩
  · have pool := accounted.pool
    have moved := moves.pool
    rw [weighed_cons] at pool
    omega
  · have bound := accounted.guaranteed queue
    by_cases same : queue = packet.queue
    · subst same
      have moved := moves.minimalGuarantee
      omega
    · rwa [moves.elsewhere queue same] at bound

theorem Accounted.perm {next : List TaggedPacket} (accounted : Accounted config ingress held)
    (perm : next.Perm held) : Accounted config ingress next := by
  refine ⟨fun packet mem => accounted.tagged packet (perm.subset mem), ?_, ?_, ?_, ?_,
    accounted.guaranteed⟩
  · simpa only [Ledger.weighed_perm _ perm] using accounted.minimalGuarantee
  · simpa only [Ledger.weighed_perm _ perm] using accounted.headroom
  · simpa only [Ledger.weighed_perm _ perm] using accounted.occupancy
  · simpa only [Ledger.weighed_perm _ perm] using accounted.pool

/-! ## Admission -/

/-- Whether an arriving packet is split between the guarantee of its queue and the shared pool:
its queue is not paused, is below its guarantee, and would exceed it with the packet. -/
def splits (config : Config) (ingress : Ingress) (queue : QueueId) (packetSize : Nat) : Bool :=
  !(ingress.queues queue).pfcSendingTriggered && !ingress.triggersPfc config queue packetSize &&
    (ingress.queues queue).occupancy < (config.queue queue).ingressMinimalGuarantee &&
    (config.queue queue).ingressMinimalGuarantee <
      (ingress.queues queue).minimalGuaranteeOccupancy + packetSize

/-- What the admission of a packet comes to: the packet is dropped, or its tag is what the
counters move by, or it was split and its tag is too small. -/
structure Admission (config : Config) (ingress : Ingress) (queue : QueueId) (packetSize : Nat)
    (occupancy : IngressMemoryOccupancy) (next : Ingress) : Prop where
  dropped : occupancy.drop = true → next = ingress.checkPfcTrigger config queue packetSize
  exact_ : occupancy.drop = false → splits config ingress queue packetSize = false →
    packetSize = occupancy.minimalGuarantee + occupancy.sharedPool + occupancy.headroom ∧
      Moves (ingress.checkPfcTrigger config queue packetSize) next
        (addIngressTag queue packetSize occupancy) ∧
      (next.queues queue).minimalGuaranteeOccupancy ≤
        (config.queue queue).ingressMinimalGuarantee
  split : splits config ingress queue packetSize = true → occupancy.drop = false ∧
    occupancy.minimalGuarantee + occupancy.sharedPool + occupancy.headroom < packetSize

theorem check_pfc_trigger_flag (config : Config) (ingress : Ingress) (queue : QueueId)
    (packetSize : Nat) :
    ((ingress.checkPfcTrigger config queue packetSize).queues queue).pfcSendingTriggered =
      ((ingress.queues queue).pfcSendingTriggered ||
        ingress.triggersPfc config queue packetSize) := by
  unfold Ingress.checkPfcTrigger
  cases triggered : (ingress.queues queue).pfcSendingTriggered <;>
    cases exceeded : ingress.triggersPfc config queue packetSize <;>
    simp [Ingress.setPfcSending, triggered]

/-- The check leaves a queue alone that it does not pause. -/
theorem check_pfc_trigger_unpaused
    (exceeded : ingress.triggersPfc config queue packetSize = false) :
    ingress.checkPfcTrigger config queue packetSize = ingress := by
  simp [Ingress.checkPfcTrigger, exceeded]

theorem free_of_not_triggers (exceeded : ingress.triggersPfc config queue packetSize = false) :
    packetSize ≤ ingress.poolFreeCells := by
  simp only [Ingress.triggersPfc, Bool.or_eq_false_iff, decide_eq_false_iff_not] at exceeded
  omega

theorem admit_to_headroom_admission {next : Ingress} {occupancy : IngressMemoryOccupancy}
    (admitted : ingress.admitToHeadroom config queue packetSize = some (occupancy, next)) :
    packetSize = occupancy.minimalGuarantee + occupancy.sharedPool + occupancy.headroom ∧
      Moves ingress (countOccupancy queue packetSize (occupancy, next)).2
        (addIngressTag queue packetSize occupancy) ∧
      ((countOccupancy queue packetSize (occupancy, next)).2.queues
        queue).minimalGuaranteeOccupancy =
          (ingress.queues queue).minimalGuaranteeOccupancy := by
  unfold Ingress.admitToHeadroom at admitted
  simp only at admitted
  split at admitted
  · cases admitted
  · cases admitted
    refine ⟨by simp, ⟨fun other different => ?_, ?_, ?_, ?_, ?_⟩, ?_⟩
    · simp only [addIngressTag] at different
      simp [countOccupancy, Ingress.set_queue_other _ _ different]
    all_goals simp [countOccupancy, addIngressTag]

/-- What the admission to an unpaused queue comes to. -/
theorem admit_to_pool_admission (free : packetSize ≤ ingress.poolFreeCells)
    (guaranteed : (ingress.queues queue).minimalGuaranteeOccupancy ≤
      (config.queue queue).ingressMinimalGuarantee)
    (below : (ingress.queues queue).minimalGuaranteeOccupancy ≤
      (ingress.queues queue).occupancy) :
    ∃ occupancy next, ingress.admitToPool config queue packetSize = .ok (occupancy, next) ∧
      if (ingress.queues queue).occupancy < (config.queue queue).ingressMinimalGuarantee ∧
          (config.queue queue).ingressMinimalGuarantee <
            (ingress.queues queue).minimalGuaranteeOccupancy + packetSize then
        occupancy.minimalGuarantee + occupancy.sharedPool + occupancy.headroom < packetSize
      else
        packetSize = occupancy.minimalGuarantee + occupancy.sharedPool + occupancy.headroom ∧
          Moves ingress (countOccupancy queue packetSize (occupancy, next)).2
            (addIngressTag queue packetSize occupancy) ∧
          ((countOccupancy queue packetSize (occupancy, next)).2.queues
            queue).minimalGuaranteeOccupancy ≤
              (config.queue queue).ingressMinimalGuarantee := by
  unfold Ingress.admitToPool
  simp only
  split
  · rename_i full
    rw [if_neg (not_lt.2 free)]
    refine ⟨_, _, rfl, ?_⟩
    rw [if_neg (fun split => absurd full (not_le.2 split.1))]
    refine ⟨by simp, ⟨fun other different => ?_, ?_, ?_, ?_, ?_⟩, ?_⟩
    · simp only [addIngressTag] at different
      simp [countOccupancy, Ingress.set_queue_other _ _ different]
    all_goals simp [countOccupancy, addIngressTag, guaranteed, free]
  · rename_i room
    split
    · rename_i fits
      refine ⟨_, _, rfl, ?_⟩
      rw [if_neg (fun split => absurd fits (not_le.2 split.2))]
      refine ⟨by simp, ⟨fun other different => ?_, ?_, ?_, ?_, ?_⟩, ?_⟩
      · simp only [addIngressTag] at different
        simp [countOccupancy, Ingress.set_queue_other _ _ different]
      all_goals simp [countOccupancy, addIngressTag, fits]
    · rename_i exceeds
      have poolRoom : ¬ingress.poolFreeCells <
          (ingress.queues queue).minimalGuaranteeOccupancy + packetSize -
            (config.queue queue).ingressMinimalGuarantee := by omega
      rw [if_neg poolRoom]
      refine ⟨_, _, rfl, ?_⟩
      rw [if_pos ⟨not_le.1 room, not_le.1 exceeds⟩]
      simp only
      omega

theorem guarantee_le_occupancy (accounted : Accounted config ingress held) (queue : QueueId) :
    (ingress.queues queue).minimalGuaranteeOccupancy ≤ (ingress.queues queue).occupancy := by
  rw [accounted.minimalGuarantee, accounted.occupancy]
  refine Ledger.weighed_le fun packet mem => ?_
  have tagged := accounted.tagged packet mem
  simp only [countedFor]
  split <;> omega

theorem received_data_admission (accounted : Accounted config ingress held)
    (pfc : config.supportPfc = true) (queue : QueueId) (packetSize : Nat) :
    ∃ occupancy next, ingress.receivedData config queue packetSize = .ok (occupancy, next) ∧
      Admission config ingress queue packetSize occupancy next := by
  have checked := check_pfc_trigger_accounted accounted queue packetSize
  have flag := check_pfc_trigger_flag config ingress queue packetSize
  unfold Ingress.receivedData
  rw [if_pos pfc]
  simp only
  split
  · rename_i paused
    have unsplit : splits config ingress queue packetSize = false := by
      rw [flag] at paused
      cases triggered : (ingress.queues queue).pfcSendingTriggered <;> simp_all [splits]
    cases admitted :
        (ingress.checkPfcTrigger config queue packetSize).admitToHeadroom config queue
          packetSize with
    | none =>
      exact ⟨_, _, rfl, fun _ => rfl, by simp, by simp [unsplit]⟩
    | some result =>
      obtain ⟨occupancy, next⟩ := result
      obtain ⟨size, moves, same⟩ := admit_to_headroom_admission admitted
      exact ⟨_, _, rfl, by simp,
        fun _ _ => ⟨size, moves, same.le.trans (checked.guaranteed queue)⟩, by simp [unsplit]⟩
  · rename_i unpaused
    rw [Bool.not_eq_true, flag, Bool.or_eq_false_iff] at unpaused
    obtain ⟨untriggered, exceeded⟩ := unpaused
    rw [check_pfc_trigger_unpaused exceeded] at checked ⊢
    obtain ⟨occupancy, next, admitted, outcome⟩ := admit_to_pool_admission
      (free_of_not_triggers exceeded) (accounted.guaranteed queue)
      (guarantee_le_occupancy accounted queue)
    rw [admitted]
    refine ⟨_, _, rfl, by simp, fun _ unsplit => ?_, fun split => ?_⟩
    · rw [check_pfc_trigger_unpaused exceeded]
      rw [if_neg (by simpa [splits, untriggered, exceeded] using unsplit)] at outcome
      exact outcome
    · rw [if_pos (by simpa [splits, untriggered, exceeded] using split)] at outcome
      exact ⟨rfl, outcome⟩

/-! ## Release -/

/-- A tag that is not the packet's size is not released. -/
theorem release_refused (ingress : Ingress) (packet : TaggedPacket)
    (wrong : packet.size ≠ packet.minimalGuarantee + packet.sharedPool + packet.headroom) :
    ingress.ingressAccountingRelease packet = .error .wrongPacketOccupancy := by
  unfold Ingress.ingressAccountingRelease
  simp only
  rw [if_pos wrong]

/-- What the release of a packet that is held does. -/
theorem release_spec (accounted : Accounted config ingress held) (mem : packet ∈ held) :
    ∃ next, ingress.ingressAccountingRelease packet = .ok next ∧ Moves next ingress packet ∧
      ∀ queue, (next.queues queue).pfcSendingTriggered =
        (ingress.queues queue).pfcSendingTriggered := by
  have tagged := accounted.tagged packet mem
  have guarantee := accounted.minimalGuarantee packet.queue ▸
    Ledger.weight_le_weighed (countedFor packet.queue (·.minimalGuarantee)) mem
  have headroom := accounted.headroom packet.queue ▸
    Ledger.weight_le_weighed (countedFor packet.queue (·.headroom)) mem
  have occupancy := accounted.occupancy packet.queue ▸
    Ledger.weight_le_weighed (countedFor packet.queue (·.size)) mem
  simp only [countedFor, if_true] at guarantee headroom occupancy
  unfold Ingress.ingressAccountingRelease
  simp only
  rw [if_neg (not_not.2 tagged), if_neg (not_lt.2 guarantee), if_neg (not_lt.2 headroom),
    if_neg (not_lt.2 occupancy)]
  refine ⟨_, rfl, ⟨fun other different => ?_, ?_, ?_, ?_, ?_⟩, fun queue => ?_⟩
  · exact (Ingress.set_queue_other _ _ different).symm
  · simp only [Ingress.set_queue_same]
    omega
  · simp only [Ingress.set_queue_same]
    omega
  · simp only [Ingress.set_queue_same]
    omega
  · rfl
  · by_cases same : queue = packet.queue
    · subst same
      simp
    · rw [Ingress.set_queue_other _ _ same]

theorem dequeued_packet_accounted (accounted : Accounted config ingress held)
    (pfc : config.supportPfc = true) (mem : packet ∈ held) :
    ∃ next, ingress.dequeuedPacket config packet = .ok next ∧
      Accounted config next (held.erase packet) := by
  obtain ⟨released, done, moves, -⟩ := release_spec accounted mem
  unfold Ingress.dequeuedPacket
  rw [if_pos pfc, done]
  exact ⟨_, rfl, check_pfc_resume_accounted
    ((accounted.perm (List.perm_cons_erase mem).symm).release moves) packet.queue⟩

theorem received_data_accounted {next : Ingress} {occupancy : IngressMemoryOccupancy}
    (accounted : Accounted config ingress held)
    (unsplit : splits config ingress queue packetSize = false)
    (admission : Admission config ingress queue packetSize occupancy next) :
    Accounted config next (if occupancy.drop then held
      else addIngressTag queue packetSize occupancy :: held) := by
  have checked := check_pfc_trigger_accounted accounted queue packetSize
  split
  · rename_i drop
    rw [admission.dropped drop]
    exact checked
  · rename_i kept
    obtain ⟨size, moves, guaranteed⟩ := admission.exact_ (by simpa using kept) unsplit
    exact checked.admit moves size guaranteed

/-! ## Every run -/

/-- The packet that arrives is not split. -/
def Unsplit (config : Config) (state : State) : Event → Prop
  | .received queue packetSize => splits config state.ingress queue packetSize = false
  | .dequeued _ => True

instance decidableUnsplit (config : Config) (state : State) :
    (event : Event) → Decidable (Unsplit config state event)
  | .received queue packetSize =>
    inferInstanceAs (Decidable (splits config state.ingress queue packetSize = false))
  | .dequeued _ => .isTrue trivial

theorem step_accounted (pfc : config.supportPfc = true) {state next : State}
    (accounted : Accounted config state.ingress state.held)
    (step : Step config (Unsplit config) state next) : Accounted config next.ingress next.held := by
  obtain ⟨event, possible, unsplit, done⟩ := step
  cases event with
  | received queue packetSize =>
    obtain ⟨occupancy, ingress, received, admission⟩ :=
      received_data_admission accounted pfc queue packetSize
    simp only [perform, received, Except.map, Except.ok.injEq] at done
    subst done
    exact received_data_accounted accounted unsplit admission
  | dequeued packet =>
    obtain ⟨ingress, dequeued, after⟩ := dequeued_packet_accounted accounted pfc (of_decide_eq_true possible)
    simp only [perform, dequeued, Except.map, Except.ok.injEq] at done
    subst done
    exact after

/-- In every run that splits no packet, the counters are the sums of the tags of the held packets
and every held packet can be released. The next packet to arrive is admitted with a tag of its
size, or is dropped, exactly if it is not split. -/
theorem accounting_exact_iff_unsplit (config : Config) (pfc : config.supportPfc = true)
    {state : State} (reachable : Runs.Reachable (Initial config) (Step config (Unsplit config)) state) :
    Accounted config state.ingress state.held ∧
      (∀ packet ∈ state.held,
        ∃ next, state.ingress.ingressAccountingRelease packet = .ok next) ∧
      ∀ queue packetSize, ∃ occupancy next,
        state.ingress.receivedData config queue packetSize = .ok (occupancy, next) ∧
        ((occupancy.drop = false →
            occupancy.minimalGuarantee + occupancy.sharedPool + occupancy.headroom =
              packetSize) ↔
          splits config state.ingress queue packetSize = false) := by
  have accounted : Accounted config state.ingress state.held := by
    apply Runs.invariant_of_reachable _ _ reachable
    · rintro state rfl
      exact initial_accounted config
    · exact fun state next accounted step => step_accounted pfc accounted step
  refine ⟨accounted, fun packet mem => ?_, fun queue packetSize => ?_⟩
  · obtain ⟨next, released, -⟩ := release_spec accounted mem
    exact ⟨next, released⟩
  · obtain ⟨occupancy, next, received, admission⟩ :=
      received_data_admission accounted pfc queue packetSize
    refine ⟨occupancy, next, received, fun tagged => ?_, fun unsplit kept => ?_⟩
    · by_contra split
      obtain ⟨kept, short⟩ := admission.split (by simpa using split)
      exact absurd (tagged kept) (Nat.ne_of_lt short)
    · exact (admission.exact_ kept unsplit).1.symm

/-- A unit with a pool of 100 cells and a guarantee of 10 for every queue. -/
def smallUnit : Config where
  ingressServicePoolSize := 100
  egressServicePoolSize := 1000
  portEgressAlpha := fun _ => 1
  queue := fun _ => {
    ingressAlpha := 1
    egressAlpha := 1
    ingressMinimalGuarantee := 10
    pfcHeadroom := 20 }

theorem accounting_exact_filled : ∃ state : State,
    state.held = [⟨⟨0, 1⟩, 30, 0, 30, 0⟩, ⟨⟨0, 1⟩, 10, 10, 0, 0⟩] ∧
      Accounted smallUnit state.ingress state.held := by
  have tested : (Runs.execute (attempt smallUnit (Unsplit smallUnit))
      [.received ⟨0, 1⟩ 10, .received ⟨2, 0⟩ 7, .received ⟨0, 1⟩ 30, .dequeued ⟨⟨2, 0⟩, 7, 7, 0, 0⟩]
      (start smallUnit)).any (fun state => decide
        (state.held = [⟨⟨0, 1⟩, 30, 0, 30, 0⟩, ⟨⟨0, 1⟩, 10, 10, 0, 0⟩])) = true := by
    decide +kernel
  obtain ⟨state, reachable, held⟩ := Runs.reached_with attempt_step (start_initial _) tested
  exact ⟨state, of_decide_eq_true held,
    (accounting_exact_iff_unsplit smallUnit rfl reachable).1⟩

/-- The first packet of 15 cells is tagged with 5, and its release fails. -/
theorem split_packet_miscounted : ∃ state : State,
    Runs.Reachable (Initial smallUnit) (Step smallUnit fun _ _ => True) state ∧
      ∃ packet ∈ state.held,
        packet.minimalGuarantee + packet.sharedPool + packet.headroom < packet.size ∧
        ∃ failure, state.ingress.ingressAccountingRelease packet = .error failure := by
  have tested : (Runs.execute (attempt smallUnit fun _ _ => True) [.received ⟨0, 1⟩ 15]
      (start smallUnit)).any (fun state => decide (state.held = [⟨⟨0, 1⟩, 15, 0, 5, 0⟩])) = true := by
    decide +kernel
  obtain ⟨state, reachable, held⟩ := Runs.reached_with attempt_step (start_initial _) tested
  refine ⟨state, reachable, ⟨⟨0, 1⟩, 15, 0, 5, 0⟩, ?_, by decide, .wrongPacketOccupancy, rfl⟩
  rw [of_decide_eq_true held]
  exact List.mem_singleton_self _

end Isekai.IngressAccounting
