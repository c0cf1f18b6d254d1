import Isekai.FalconTypes
import Isekai.Ledger
import Isekai.MemoryManagementUnit
import Isekai.Runs
import Mathlib.Algebra.BigOperators.Group.Finset.Piecewise

/-! The egress accounting of the memory management unit over every sequence of requests and dequeued
packets. The counters are sums of the packets that are held. A packet is admitted by two limits that
are multiples of the free cells, which do not keep it within the free cells if both are larger. -/

namespace Isekai.EgressAccounting
open MemoryManagementUnit
open Ledger (weighed weighed_cons weighed_erase weight_le_weighed)

variable {queue : QueueId}

/-! ## Runs -/

/-- A packet in an output queue, with its size in cells. -/
structure QueuedPacket where
  queue : QueueId
  size : ℕ
  deriving DecidableEq

/-- The unit's egress side and the packets that it admitted and that have not left. -/
structure State where
  egress : Egress
  held : List QueuedPacket := []

inductive Event where
  | requested (packet : QueuedPacket)
  | dequeued (packet : QueuedPacket)

/-- The number of ports, and of the queues of each. -/
structure Dimensions where
  ports : ℕ
  queues : ℕ

def Dimensions.Has (dimensions : Dimensions) (queue : QueueId) : Prop :=
  queue.port < dimensions.ports ∧ queue.priority < dimensions.queues

instance (dimensions : Dimensions) (queue : QueueId) : Decidable (dimensions.Has queue) :=
  inferInstanceAs (Decidable (_ ∧ _))

/-- Requests are for queues that exist, and a packet that is held leaves. -/
def Event.Possible (dimensions : Dimensions) (state : State) : Event → Prop
  | .requested packet => dimensions.Has packet.queue
  | .dequeued packet => packet ∈ state.held

instance (dimensions : Dimensions) (state : State) : (event : Event) →
    Decidable (event.Possible dimensions state)
  | .requested packet => inferInstanceAs (Decidable (dimensions.Has packet.queue))
  | .dequeued packet => inferInstanceAs (Decidable (packet ∈ state.held))

def perform (config : Config) (state : State) : Event → Except Fatal State
  | .requested packet =>
    (state.egress.requestEnqueue config packet.queue packet.size).map fun (admitted, egress) =>
      ⟨egress, if admitted then packet :: state.held else state.held⟩
  | .dequeued packet =>
    (state.egress.dequeuedPacket packet.queue packet.size).map fun egress =>
      ⟨egress, state.held.erase packet⟩

def start (config : Config) : State := ⟨{ poolFreeCells := config.egressServicePoolSize }, []⟩

def Initial (config : Config) (state : State) : Prop := state = start config

def attempt (config : Config) (dimensions : Dimensions) (state : State) (event : Event) :
    Option State :=
  Runs.attempt (event.Possible dimensions state) (perform config state event)

def Steps (config : Config) (dimensions : Dimensions) (state next : State) : Prop :=
  ∃ event, attempt config dimensions state event = some next

/-- The occupancies of the queues of a port add up to that of the port; those of the ports and the
free cells to the pool; and the next request does not find fewer free cells than it is granted. -/
structure Sound (config : Config) (dimensions : Dimensions) (state : State) : Prop where
  ports : ∀ port < dimensions.ports,
    ∑ priority ∈ Finset.range dimensions.queues, state.egress.queueOccupancy ⟨port, priority⟩ =
      state.egress.portOccupancy port
  pool : state.egress.poolFreeCells +
      ∑ port ∈ Finset.range dimensions.ports, state.egress.portOccupancy port =
    config.egressServicePoolSize
  granted : ∀ queue size, dimensions.Has queue →
    state.egress.requestEnqueue config queue size ≠ .error .notEnoughEgressCells

/-! ## The counters -/

def ofQueue (queue : QueueId) (packet : QueuedPacket) : ℕ :=
  if packet.queue = queue then packet.size else 0

def ofPort (port : ℕ) (packet : QueuedPacket) : ℕ :=
  if packet.queue.port = port then packet.size else 0

/-- The counters are sums of the sizes of the held packets. -/
structure Accounted (config : Config) (dimensions : Dimensions) (state : State) : Prop where
  queue : ∀ queue, state.egress.queueOccupancy queue = weighed (ofQueue queue) state.held
  port : ∀ port, state.egress.portOccupancy port = weighed (ofPort port) state.held
  pool : state.egress.poolFreeCells + weighed (·.size) state.held = config.egressServicePoolSize
  placed : ∀ packet ∈ state.held, dimensions.Has packet.queue

theorem sum_queues (port queues : ℕ) {held : List QueuedPacket}
    (placed : ∀ packet ∈ held, packet.queue.priority < queues) :
    ∑ priority ∈ Finset.range queues, weighed (ofQueue ⟨port, priority⟩) held =
      weighed (ofPort port) held := by
  induction held with
  | nil => simp
  | cons packet rest ih =>
    simp only [weighed_cons, Finset.sum_add_distrib]
    rw [ih fun other listed => placed other (List.mem_cons_of_mem _ listed)]
    have own : packet.queue.priority ∈ Finset.range queues :=
      Finset.mem_range.2 (placed packet List.mem_cons_self)
    have single : ∀ priority, ofQueue ⟨port, priority⟩ packet =
        if packet.queue.priority = priority then ofPort port packet else 0 := by
      intro priority
      obtain ⟨⟨itsPort, itsPriority⟩, size⟩ := packet
      simp only [ofQueue, ofPort, QueueId.mk.injEq]
      by_cases same : itsPriority = priority <;> simp [same]
    rw [Finset.sum_congr rfl fun priority _ => single priority, Finset.sum_ite_eq, if_pos own]

theorem sum_ports (ports : ℕ) {held : List QueuedPacket}
    (placed : ∀ packet ∈ held, packet.queue.port < ports) :
    ∑ port ∈ Finset.range ports, weighed (ofPort port) held = weighed (·.size) held := by
  induction held with
  | nil => simp
  | cons packet rest ih =>
    simp only [weighed_cons, Finset.sum_add_distrib]
    rw [ih fun other listed => placed other (List.mem_cons_of_mem _ listed)]
    have own : packet.queue.port ∈ Finset.range ports :=
      Finset.mem_range.2 (placed packet List.mem_cons_self)
    unfold ofPort
    rw [Finset.sum_ite_eq, if_pos own]

section

variable {config : Config} {dimensions : Dimensions} {state next : State}

theorem accounted_start : Accounted config dimensions (start config) :=
  ⟨fun _ => rfl, fun _ => rfl, rfl, nofun⟩

theorem request_eq_ok {egress after : Egress} {size : ℕ} {admitted : Bool}
    (done : egress.requestEnqueue config queue size = .ok (admitted, after)) :
    (admitted = false ∧ after = egress) ∨ admitted = true ∧ size ≤ egress.poolFreeCells ∧
      after = {
        poolFreeCells := egress.poolFreeCells - size
        portOccupancy := fun port =>
          if port = queue.port then egress.portOccupancy port + size
          else egress.portOccupancy port
        queueOccupancy := fun other =>
          if other = queue then egress.queueOccupancy other + size
          else egress.queueOccupancy other } := by
  unfold Egress.requestEnqueue at done
  split_ifs at done with limited pfc short
  · cases done
    exact .inl ⟨rfl, rfl⟩
  · cases done
    exact .inr ⟨rfl, Nat.le_of_not_lt short, rfl⟩

theorem dequeued_eq_ok {egress after : Egress} {size : ℕ} :
    egress.dequeuedPacket queue size = .ok after ↔
      size ≤ egress.portOccupancy queue.port ∧ size ≤ egress.queueOccupancy queue ∧
      {
        poolFreeCells := egress.poolFreeCells + size
        portOccupancy := fun port =>
          if port = queue.port then egress.portOccupancy port - size
          else egress.portOccupancy port
        queueOccupancy := fun other =>
          if other = queue then egress.queueOccupancy other - size
          else egress.queueOccupancy other } = after := by
  unfold Egress.dequeuedPacket
  by_cases port : egress.portOccupancy queue.port < size
  · rw [if_pos port]
    simp only [reduceCtorEq, false_iff]
    omega
  · rw [if_neg port]
    by_cases own : egress.queueOccupancy queue < size
    · rw [if_pos own]
      simp only [reduceCtorEq, false_iff]
      omega
    · rw [if_neg own, Except.ok.injEq, and_iff_right (Nat.le_of_not_lt port),
        and_iff_right (Nat.le_of_not_lt own)]

theorem accounted_step (accounted : Accounted config dimensions state)
    (taken : Steps config dimensions state next) : Accounted config dimensions next := by
  obtain ⟨event, performed⟩ := taken
  obtain ⟨possible, done⟩ := Runs.attempt_eq_some.1 performed
  cases event with
  | requested packet =>
    obtain ⟨⟨admitted, egress⟩, requested, rfl⟩ := map_eq_ok.1 done
    rcases request_eq_ok requested with ⟨rfl, rfl⟩ | ⟨rfl, fits, rfl⟩
    · exact accounted
    · have pool := accounted.pool
      refine ⟨fun queue => ?_, fun port => ?_, ?_, ?_⟩
      · have before := accounted.queue queue
        dsimp only
        rw [if_pos rfl, weighed_cons, ← before]
        by_cases own : queue = packet.queue
        · have weight : ofQueue queue packet = packet.size := if_pos own.symm
          rw [if_pos own, weight, Nat.add_comm]
        · have weight : ofQueue queue packet = 0 := if_neg fun same => own same.symm
          rw [if_neg own, weight, Nat.zero_add]
      · have before := accounted.port port
        dsimp only
        rw [if_pos rfl, weighed_cons, ← before]
        by_cases own : port = packet.queue.port
        · have weight : ofPort port packet = packet.size := if_pos own.symm
          rw [if_pos own, weight, Nat.add_comm]
        · have weight : ofPort port packet = 0 := if_neg fun same => own same.symm
          rw [if_neg own, weight, Nat.zero_add]
      · simp only [if_true, weighed_cons]
        omega
      · intro other listed
        rcases List.mem_cons.1 listed with rfl | old
        · exact possible
        · exact accounted.placed other old
  | dequeued packet =>
    obtain ⟨egress, dequeued, rfl⟩ := map_eq_ok.1 done
    obtain ⟨-, -, rfl⟩ := dequeued_eq_ok.1 dequeued
    have pool := accounted.pool
    have listed : packet ∈ state.held := possible
    have erased (weight : QueuedPacket → ℕ) := weighed_erase weight listed
    refine ⟨fun queue => ?_, fun port => ?_, ?_, ?_⟩
    · have before := accounted.queue queue
      have total := erased (ofQueue queue)
      dsimp only
      by_cases own : queue = packet.queue
      · have weight : ofQueue queue packet = packet.size := if_pos own.symm
        rw [if_pos own]
        omega
      · have weight : ofQueue queue packet = 0 := if_neg fun same => own same.symm
        rw [if_neg own]
        omega
    · have before := accounted.port port
      have total := erased (ofPort port)
      dsimp only
      by_cases own : port = packet.queue.port
      · have weight : ofPort port packet = packet.size := if_pos own.symm
        rw [if_pos own]
        omega
      · have weight : ofPort port packet = 0 := if_neg fun same => own same.symm
        rw [if_neg own]
        omega
    · have total := erased (·.size)
      dsimp only at total ⊢
      omega
    · exact fun other held => accounted.placed other (List.mem_of_mem_erase held)

theorem reachable_accounted
    (reached : Runs.Reachable (Initial config) (Steps config dimensions) state) :
    Accounted config dimensions state := by
  refine @Runs.invariant_of_reachable State (Initial config) (Steps config dimensions)
    (Accounted config dimensions) ?_ (fun _ _ => accounted_step) _ reached
  rintro first rfl
  exact accounted_start

/-! ## Grants -/

/-- One of the two limits of each queue, in an empty pool, is at most one cell more than the
pool. -/
def Limited (config : Config) (dimensions : Dimensions) : Prop :=
  ∀ queue, dimensions.Has queue →
    config.egressServicePoolSize * config.portEgressAlpha queue.port ≤
        config.egressServicePoolSize + 1 ∨
      config.egressServicePoolSize * (config.queue queue).egressAlpha ≤
        config.egressServicePoolSize + 1

/-- A limit that is at most one cell more than the free cells stays so when fewer are free. -/
theorem limit_mono {free pool : ℕ} {alpha : ℚ} (fewer : free ≤ pool)
    (limit : pool * alpha ≤ pool + 1) : free * alpha ≤ free + 1 := by
  have fewer' : (free : ℚ) ≤ pool := by exact_mod_cast fewer
  have nonneg : (0 : ℚ) ≤ free := Nat.cast_nonneg _
  rcases le_total alpha 1 with small | large
  · have product := mul_le_mul_of_nonneg_left small nonneg
    linarith
  · have product := mul_le_mul_of_nonneg_right fewer' (sub_nonneg.2 large)
    linarith

theorem granted_of_limited {egress : Egress} {size : ℕ}
    (fewer : egress.poolFreeCells ≤ config.egressServicePoolSize)
    (limited : config.egressServicePoolSize * config.portEgressAlpha queue.port ≤
        config.egressServicePoolSize + 1 ∨
      config.egressServicePoolSize * (config.queue queue).egressAlpha ≤
        config.egressServicePoolSize + 1) :
    egress.requestEnqueue config queue size ≠ .error .notEnoughEgressCells := by
  unfold Egress.requestEnqueue
  split_ifs with within pfc short
  · nofun
  · nofun
  · -- a packet that is larger than the free cells is over the limit that is not
    intro _
    refine within ?_
    have larger : (egress.poolFreeCells : ℚ) + 1 ≤ size := by exact_mod_cast short
    rcases limited with port | own
    · have limit := limit_mono fewer port
      have occupied : (0 : ℚ) ≤ egress.portOccupancy queue.port := Nat.cast_nonneg _
      refine .inl ?_
      push_cast
      linarith
    · have limit := limit_mono fewer own
      have occupied : (0 : ℚ) ≤ egress.queueOccupancy queue := Nat.cast_nonneg _
      refine .inr ?_
      push_cast
      linarith
  · nofun

theorem accounted_sound (accounted : Accounted config dimensions state)
    (limited : Limited config dimensions) : Sound config dimensions state where
  ports := by
    intro port _
    rw [Finset.sum_congr rfl fun priority _ => accounted.queue ⟨port, priority⟩,
      accounted.port port]
    exact sum_queues port dimensions.queues fun packet held => (accounted.placed packet held).2
  pool := by
    rw [Finset.sum_congr rfl fun port _ => accounted.port port,
      sum_ports dimensions.ports fun packet held => (accounted.placed packet held).1]
    exact accounted.pool
  granted := by
    intro queue size has
    have pool := accounted.pool
    exact granted_of_limited (by omega) (limited queue has)

/-- A packet of one cell more than the empty pool is within both limits of a queue that is not
limited. -/
theorem limited_of_granted (granted : (start config).egress.requestEnqueue config queue
      (config.egressServicePoolSize + 1) ≠ .error .notEnoughEgressCells) :
    config.egressServicePoolSize * config.portEgressAlpha queue.port ≤
        config.egressServicePoolSize + 1 ∨
      config.egressServicePoolSize * (config.queue queue).egressAlpha ≤
        config.egressServicePoolSize + 1 := by
  by_contra beyond
  rw [not_or, not_le, not_le] at beyond
  refine granted ?_
  unfold Egress.requestEnqueue start
  dsimp only
  rw [if_neg, if_pos (Nat.lt_succ_self _)]
  rw [not_or, not_le, not_le]
  push_cast
  rw [zero_add]
  exact beyond

/-- In all runs the counters add up and no request finds too few free cells, if and only if each
queue has a limit of at most one cell more than the pool. -/
theorem egress_sound_iff (config : Config) (dimensions : Dimensions) :
    (∀ state, Runs.Reachable (Initial config) (Steps config dimensions) state →
      Sound config dimensions state) ↔ Limited config dimensions := by
  constructor
  · intro sound queue has
    exact limited_of_granted ((sound _ (Runs.reachable_initial rfl)).granted queue _ has)
  · exact fun limited state reached => accounted_sound (reachable_accounted reached) limited

/-- Two ports with one queue, limits of eight times the free cells, and a pool of ten cells. -/
def generousConfig : Config where
  supportPfc := false
  ingressServicePoolSize := 10
  egressServicePoolSize := 10
  portEgressAlpha _ := 8
  queue _ := { egressAlpha := 8 }

def twoPorts : Dimensions := ⟨2, 1⟩

/-- The pool is filled by one port but for two cells, and three are granted to the other one. -/
theorem three_of_two_cells :
    ¬ ∀ config dimensions state,
      Runs.Reachable (Initial config) (Steps config dimensions) state →
        Sound config dimensions state := by
  intro always
  obtain ⟨state, reached, tested⟩ := @Runs.reached_with State (Initial generousConfig)
    (Steps generousConfig twoPorts) Event (attempt generousConfig twoPorts)
    (fun _ event _ done => ⟨event, done⟩) [.requested ⟨⟨0, 0⟩, 8⟩] (start generousConfig) rfl
    (fun state => match state.egress.requestEnqueue generousConfig ⟨1, 0⟩ 3 with
      | .ok _ => false
      | .error fatal => fatal == .notEnoughEgressCells) (by decide +kernel)
  have granted := (always generousConfig twoPorts state reached).granted ⟨1, 0⟩ 3 (by decide)
  cases requested : state.egress.requestEnqueue generousConfig ⟨1, 0⟩ 3 with
  | ok result =>
    rw [requested] at tested
    cases tested
  | error fatal =>
    rw [requested] at tested granted
    rw [eq_of_beq tested] at granted
    exact granted rfl

end

end Isekai.EgressAccounting
