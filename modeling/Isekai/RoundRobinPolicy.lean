import Mathlib.Algebra.BigOperators.Group.Finset.Basic
import Mathlib.Data.Finset.Max
import Isekai.Runs
import Isekai.WeightedRoundRobin

/-! The class `WeightedRoundRobinPolicy` with the four sets that it stores next to what it records
of each entity, and with its `int` counters. Every operation moves entities between the sets; a
caller may interleave them in any order, and the weights that the fetcher returns may change from
one call to the next. -/

namespace Isekai.RoundRobinPolicy
open WeightedRoundRobin (EntityState EntityMetadata PolicyError)

/-- The value of an `int` after an addition that may have left its range. -/
def wrapInt (value : Int) : Int := value.bmod (2 ^ 32)

structure Policy (T : Type) where
  idle : Finset T := ∅
  eligible : Finset T := ∅
  waiting : Finset T := ∅
  waitingGoingIdle : Finset T := ∅
  /-- The keys of the metadata map; `metadata` means nothing at other entities. -/
  entities : Finset T := ∅
  metadata : T → EntityMetadata := fun _ => ⟨.idle, 0, 0, -1⟩
  globalRoundNumber : Int := 0
  globalCreditsRemaining : Int := 0
  /-- Whether the policy was built with a weight fetcher. -/
  fetches : Bool := true
  batched : Bool := false
  enforceOrder : Bool := false
  lastServicedEntity : Option T := none

variable {T : Type}

/-- `begin()` of an ordered set. -/
def first [LinearOrder T] (set : Finset T) : Option T :=
  if nonempty : set.Nonempty then some (set.min' nonempty) else none

namespace Policy

/-- The set that an entity's recorded state names. -/
def inState (policy : Policy T) : EntityState → Finset T
  | .idle => policy.idle
  | .eligible => policy.eligible
  | .waiting => policy.waiting
  | .waitingGoingIdle => policy.waitingGoingIdle

/-- The weight that the policy takes for an entity: without a fetcher it is 1. -/
def weightOf (policy : Policy T) (fetcher : T → Nat) (entity : T) : Nat :=
  if policy.fetches then fetcher entity else 1

section Sets
variable [DecidableEq T]

/-- `IsActive`, as the set of the entities it holds for. -/
def active (policy : Policy T) : Finset T := policy.eligible ∪ policy.waiting

def setMetadata (policy : Policy T) (entity : T) (metadata : EntityMetadata) : Policy T :=
  { policy with metadata := Function.update policy.metadata entity metadata }

def initializeEntity (fetcher : T → Nat) (policy : Policy T) (entity : T) :
    Except PolicyError (Policy T) :=
  if entity ∈ policy.entities then .error .alreadyExists
  else
    .ok { policy with
      idle := insert entity policy.idle
      entities := insert entity policy.entities
      metadata :=
        Function.update policy.metadata entity ⟨.idle, policy.weightOf fetcher entity, 0, -1⟩
      lastServicedEntity := some entity }

def deleteEntity (policy : Policy T) (entity : T) : Except PolicyError (Policy T) :=
  if entity ∈ policy.entities then
    let erased :=
      match (policy.metadata entity).state with
      | .idle => { policy with idle := policy.idle.erase entity }
      | .eligible => { policy with eligible := policy.eligible.erase entity }
      | .waiting => { policy with waiting := policy.waiting.erase entity }
      | .waitingGoingIdle =>
        { policy with waitingGoingIdle := policy.waitingGoingIdle.erase entity }
    .ok { erased with entities := policy.entities.erase entity }
  else .error .unknownEntity

/-- The credits of an entity that is marked active for the first time in the current round. -/
def refreshed (globalRoundNumber : Int) (metadata : EntityMetadata) : EntityMetadata :=
  if metadata.roundNumber < globalRoundNumber then
    { metadata with remainingCredits := metadata.weight, roundNumber := globalRoundNumber }
  else metadata

def markEntityActive (policy : Policy T) (entity : T) : Except PolicyError (Bool × Policy T) :=
  if entity ∈ policy.entities then
    let metadata := policy.metadata entity
    match metadata.state with
    | .eligible | .waiting => .ok (false, policy)
    | .idle =>
      let metadata := refreshed policy.globalRoundNumber metadata
      if metadata.remainingCredits = 0 then
        .ok (true, { policy.setMetadata entity { metadata with state := .waiting } with
          waiting := insert entity policy.waiting
          idle := policy.idle.erase entity })
      else
        .ok (true, { policy.setMetadata entity { metadata with state := .eligible } with
          eligible := insert entity policy.eligible
          idle := policy.idle.erase entity })
    | .waitingGoingIdle =>
      .ok (true, { policy.setMetadata entity { metadata with state := .waiting } with
        waiting := insert entity policy.waiting
        waitingGoingIdle := policy.waitingGoingIdle.erase entity })
  else .error .unknownEntity

def markEntityInactive (policy : Policy T) (entity : T) : Except PolicyError (Bool × Policy T) :=
  if entity ∈ policy.entities then
    let metadata := policy.metadata entity
    match metadata.state with
    | .idle | .waitingGoingIdle => .ok (false, policy)
    | .eligible =>
      .ok (true, { policy.setMetadata entity { metadata with state := .idle } with
        idle := insert entity policy.idle
        eligible := policy.eligible.erase entity })
    | .waiting =>
      .ok (true, { policy.setMetadata entity { metadata with state := .waitingGoingIdle } with
        waitingGoingIdle := insert entity policy.waitingGoingIdle
        waiting := policy.waiting.erase entity })
  else .error .unknownEntity

/-- The last loop of both kinds of round: the entities that go idle are idle. -/
def retireGoingIdle (policy : Policy T) : Policy T :=
  { policy with
    idle := policy.idle ∪ policy.waitingGoingIdle
    waitingGoingIdle := ∅
    metadata := fun entity =>
      if entity ∈ policy.waitingGoingIdle then { policy.metadata entity with state := .idle }
      else policy.metadata entity }

/-- The waiting entities that still have credits are eligible. -/
def raiseWaiting (policy : Policy T) : Policy T :=
  let raised := policy.waiting.filter fun entity => 0 < (policy.metadata entity).remainingCredits
  { policy with
    eligible := policy.eligible ∪ raised
    waiting := policy.waiting \ raised
    metadata := fun entity =>
      if entity ∈ raised then { policy.metadata entity with state := .eligible }
      else policy.metadata entity }

def startSubRound (policy : Policy T) : Policy T := policy.raiseWaiting.retireGoingIdle

/-- The head of `ResetAndRestartRound`: the new weights, their sum and the new round. -/
def fetchWeights (fetcher : T → Nat) (policy : Policy T) : Policy T :=
  { policy with
    metadata := fun entity =>
      if policy.fetches ∧ entity ∈ policy.entities then
        { policy.metadata entity with weight := fetcher entity }
      else policy.metadata entity
    globalCreditsRemaining := wrapInt (∑ entity ∈ policy.entities, policy.weightOf fetcher entity)
    globalRoundNumber := wrapInt (policy.globalRoundNumber + 1) }

/-- What a new round records of an active entity, its state apart. -/
def renewed (round : Int) (metadata : EntityMetadata) : EntityMetadata :=
  { metadata with remainingCredits := metadata.weight, roundNumber := round }

/-- The loop over the eligible entities: those of weight 0 wait. -/
def renewEligible (policy : Policy T) : Policy T :=
  let dropped := policy.eligible.filter fun entity => (policy.metadata entity).weight = 0
  { policy with
    eligible := policy.eligible \ dropped
    waiting := policy.waiting ∪ dropped
    metadata := fun entity =>
      if entity ∈ dropped then
        { renewed policy.globalRoundNumber (policy.metadata entity) with state := .waiting }
      else if entity ∈ policy.eligible then
        renewed policy.globalRoundNumber (policy.metadata entity)
      else policy.metadata entity }

/-- The loop over the waiting entities, those of the loop before among them: the ones of positive
weight are eligible. -/
def renewWaiting (policy : Policy T) : Policy T :=
  let raised := policy.waiting.filter fun entity => 0 < (policy.metadata entity).weight
  { policy with
    eligible := policy.eligible ∪ raised
    waiting := policy.waiting \ raised
    metadata := fun entity =>
      if entity ∈ raised then
        { renewed policy.globalRoundNumber (policy.metadata entity) with state := .eligible }
      else if entity ∈ policy.waiting then
        renewed policy.globalRoundNumber (policy.metadata entity)
      else policy.metadata entity }

def resetAndRestartRound (fetcher : T → Nat) (policy : Policy T) : Policy T :=
  (policy.fetchWeights fetcher).renewEligible.renewWaiting.retireGoingIdle

/-- `IsRoundOver`, which starts a new sub-round when only that lets the round go on. -/
def isRoundOver (policy : Policy T) : Bool × Policy T :=
  if policy.globalCreditsRemaining = 0 then (true, policy)
  else if policy.eligible ≠ ∅ then (false, policy)
  else if policy.waiting = ∅ then (true, policy)
  else if policy.startSubRound.eligible = ∅ then (true, policy.startSubRound)
  else (false, policy.startSubRound)

def hasWork (fetcher : T → Nat) (policy : Policy T) : Bool × Policy T :=
  match policy.isRoundOver with
  | (true, policy) =>
    let policy := policy.resetAndRestartRound fetcher
    (policy.eligible ≠ ∅, policy)
  | (false, policy) => (true, policy)

/-- The round that serves the next entity: a new one when the current one is over. -/
def currentRound (fetcher : T → Nat) (policy : Policy T) : Policy T :=
  match policy.isRoundOver with
  | (true, policy) => policy.resetAndRestartRound fetcher
  | (false, policy) => policy

end Sets

section Order
variable [LinearOrder T]

/-- The entity that comes next among the eligible ones. -/
def candidate (policy : Policy T) : Option T :=
  if policy.enforceOrder then
    match policy.lastServicedEntity with
    | some last => (first (policy.eligible.filter (last < ·))).or (first policy.eligible)
    | none => first policy.eligible
  else first policy.eligible

/-- The entity gives up a credit and, unless a batch goes on, waits for the next sub-round. -/
def served (policy : Policy T) (entity : T) : Policy T :=
  let metadata := { policy.metadata entity with
    remainingCredits := (policy.metadata entity).remainingCredits - 1 }
  let policy := { policy with
    globalCreditsRemaining := policy.globalCreditsRemaining - 1
    lastServicedEntity := if policy.enforceOrder then some entity else policy.lastServicedEntity }
  if !policy.batched || metadata.remainingCredits == 0 then
    { policy.setMetadata entity { metadata with state := .waiting } with
      eligible := policy.eligible.erase entity
      waiting := insert entity policy.waiting }
  else policy.setMetadata entity metadata

/-- `GetNextEntity`: no entity stands for its error status, and an error for a `CHECK`. -/
def getNextEntity (fetcher : T → Nat) (policy : Policy T) :
    Except PolicyError (Option T × Policy T) :=
  if policy.eligible = ∅ ∧ policy.waiting = ∅ then .ok (none, policy)
  else
    let policy := policy.currentRound fetcher
    match policy.candidate with
    | none => .ok (none, policy)
    | some entity =>
      if entity ∉ policy.entities then .error .unknownEntity
      else if (policy.metadata entity).remainingCredits = 0 then .error .noEntityCredits
      else if policy.globalCreditsRemaining ≤ 0 then .error .noGlobalCredits
      else .ok (some entity, policy.served entity)

end Order
end Policy

/-! ## Runs -/

/-- The calls of a user of the policy, with the weights that the fetcher would return in each. -/
inductive Operation (T : Type) where
  | initializeEntity (fetcher : T → Nat) (entity : T)
  | deleteEntity (entity : T)
  | markEntityActive (entity : T)
  | markEntityInactive (entity : T)
  | hasWork (fetcher : T → Nat)
  | resetAndRestartRound (fetcher : T → Nat)
  | getNextEntity (fetcher : T → Nat)

/-- A policy, and the entities whose last mark is active. -/
structure State (T : Type) where
  policy : Policy T
  marked : Finset T := ∅

def perform [LinearOrder T] (state : State T) : Operation T → Except PolicyError (State T)
  | .initializeEntity fetcher entity =>
    (state.policy.initializeEntity fetcher entity).map fun policy => { state with policy }
  | .deleteEntity entity =>
    (state.policy.deleteEntity entity).map fun policy => ⟨policy, state.marked.erase entity⟩
  | .markEntityActive entity =>
    (state.policy.markEntityActive entity).map fun result =>
      ⟨result.2, insert entity state.marked⟩
  | .markEntityInactive entity =>
    (state.policy.markEntityInactive entity).map fun result =>
      ⟨result.2, state.marked.erase entity⟩
  | .hasWork fetcher => .ok { state with policy := (state.policy.hasWork fetcher).2 }
  | .resetAndRestartRound fetcher =>
    .ok { state with policy := state.policy.resetAndRestartRound fetcher }
  | .getNextEntity fetcher =>
    (state.policy.getNextEntity fetcher).map fun result => { state with policy := result.2 }

/-- A new policy of any configuration. -/
def Initial (state : State T) : Prop :=
  ∃ fetches batched enforceOrder, state = ⟨{ fetches, batched, enforceOrder }, ∅⟩

/-- A call that succeeds. -/
def Step [LinearOrder T] (state next : State T) : Prop :=
  ∃ operation, perform state operation = .ok next

/-- The weights of all entities sum up to an `int`. -/
def Policy.Fits (policy : Policy T) (fetcher : T → Nat) : Prop :=
  ∑ entity ∈ policy.entities, policy.weightOf fetcher entity < 2 ^ 31

/-- The weights that a call would fetch sum up to an `int`. -/
def Operation.Fits (policy : Policy T) : Operation T → Prop
  | .hasWork fetcher | .resetAndRestartRound fetcher | .getNextEntity fetcher =>
    policy.Fits fetcher
  | .initializeEntity .. | .deleteEntity _ | .markEntityActive _ | .markEntityInactive _ => True

instance Policy.decidableFits (policy : Policy T) (fetcher : T → Nat) :
    Decidable (policy.Fits fetcher) :=
  inferInstanceAs (Decidable (_ < _))

instance Operation.decidableFits (policy : Policy T) :
    (operation : Operation T) → Decidable (operation.Fits policy)
  | .hasWork fetcher | .resetAndRestartRound fetcher | .getNextEntity fetcher =>
    Policy.decidableFits policy fetcher
  | .initializeEntity .. | .deleteEntity _ | .markEntityActive _ | .markEntityInactive _ =>
    .isTrue trivial

/-- A call that succeeds and fetches no weights that leave the range of an `int`. -/
def FittingStep [LinearOrder T] (state next : State T) : Prop :=
  ∃ operation, operation.Fits state.policy ∧ perform state operation = .ok next

/-- A call that can be executed. -/
def call [LinearOrder T] (state : State T) (operation : Operation T) : Option (State T) :=
  Runs.attempt (operation.Fits state.policy) (perform state operation)

theorem call_step [LinearOrder T] (state : State T) (operation : Operation T) (next : State T)
    (done : call state operation = some next) : FittingStep state next :=
  ⟨operation, Runs.attempt_eq_some.1 done⟩

end Isekai.RoundRobinPolicy
