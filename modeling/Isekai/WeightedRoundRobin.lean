import Mathlib.Algebra.Order.BigOperators.Group.List
import Mathlib.Algebra.Order.Ring.Nat

/-! A deficit weighted round robin over named entities. An entity is marked active or inactive
from outside; a round gives every active entity as many credits as its weight, and a sub-round
serves each of them once. What the users of a policy rely on is its set of active entities:
only the two mark operations change it, and whenever it holds an entity of positive weight the
policy has work and its next entity comes from the set. -/

namespace Isekai.WeightedRoundRobin

/-- Where an entity stands. The four sets of entities that the policy keeps are the entities
of each state. -/
inductive EntityState where
  | idle | eligible | waiting | waitingGoingIdle
  deriving DecidableEq, Repr

structure EntityMetadata where
  state : EntityState
  weight : Nat
  remainingCredits : Nat
  roundNumber : Int
  deriving DecidableEq, Repr

/-- `WeightedRoundRobinPolicy`: the entities in their order, and what is known of each. The
weights come from a fetcher that the operations take; a policy without one gives every entity
the weight 1. -/
structure Policy (T : Type) where
  entities : List T := []
  metadata : T → Option EntityMetadata := fun _ => none
  globalRoundNumber : Int := 0
  globalCreditsRemaining : Nat := 0
  batched : Bool := false
  enforceOrder : Bool := false
  lastServicedEntity : Option T := none

/-- How an operation fails: an error status, or a `CHECK`. -/
inductive PolicyError where
  | alreadyExists | unknownEntity | unavailable | noEntityCredits | noGlobalCredits
  deriving DecidableEq, Repr

/-- The fetcher of a policy that has none. -/
def equalWeights {T : Type} : T → Nat := fun _ => 1

variable {T : Type}

def insertSorted [LT T] [DecidableLT T] (entity : T) : List T → List T
  | [] => [entity]
  | head :: tail => if entity < head then entity :: head :: tail else head :: insertSorted entity tail

namespace Policy

/-- The set of entities in a state, in their order. -/
def inState (policy : Policy T) (state : EntityState) : List T :=
  policy.entities.filter fun entity => (policy.metadata entity).any (·.state == state)

/-- `IsActive`. -/
def isActive (policy : Policy T) (entity : T) : Bool :=
  (policy.metadata entity).any fun metadata =>
    metadata.state == .eligible || metadata.state == .waiting

def setMetadata [DecidableEq T] (policy : Policy T) (entity : T) (metadata : EntityMetadata) : Policy T :=
  { policy with metadata := Function.update policy.metadata entity (some metadata) }

def mapMetadata (policy : Policy T) (change : EntityMetadata → EntityMetadata) : Policy T :=
  { policy with metadata := fun entity => (policy.metadata entity).map change }

def initializeEntity [DecidableEq T] [LT T] [DecidableLT T] (fetcher : T → Nat)
    (policy : Policy T) (entity : T) : Except PolicyError (Policy T) :=
  match policy.metadata entity with
  | some _ => .error .alreadyExists
  | none =>
    .ok {
      policy with
      entities := insertSorted entity policy.entities
      metadata := Function.update policy.metadata entity
        (some ⟨.idle, fetcher entity, 0, -1⟩)
      lastServicedEntity := some entity
    }

/-- An entity that is active for the first time in the current round gets its credits. -/
def refreshed (globalRoundNumber : Int) (metadata : EntityMetadata) : EntityMetadata :=
  if metadata.roundNumber < globalRoundNumber then
    { metadata with remainingCredits := metadata.weight, roundNumber := globalRoundNumber }
  else metadata

/-- The new metadata of an entity that is marked active. -/
def activated (globalRoundNumber : Int) (metadata : EntityMetadata) : EntityMetadata :=
  match metadata.state with
  | .eligible | .waiting => metadata
  | .waitingGoingIdle => { metadata with state := .waiting }
  | .idle =>
    { refreshed globalRoundNumber metadata with
      state :=
        if (refreshed globalRoundNumber metadata).remainingCredits = 0 then .waiting
        else .eligible }

def deactivated (metadata : EntityMetadata) : EntityMetadata :=
  match metadata.state with
  | .idle | .waitingGoingIdle => metadata
  | .eligible => { metadata with state := .idle }
  | .waiting => { metadata with state := .waitingGoingIdle }

def markEntityActive [DecidableEq T] (policy : Policy T) (entity : T) :
    Except PolicyError (Policy T) :=
  match policy.metadata entity with
  | none => .error .unknownEntity
  | some metadata => .ok (policy.setMetadata entity (activated policy.globalRoundNumber metadata))

def markEntityInactive [DecidableEq T] (policy : Policy T) (entity : T) :
    Except PolicyError (Policy T) :=
  match policy.metadata entity with
  | none => .error .unknownEntity
  | some metadata => .ok (policy.setMetadata entity (deactivated metadata))

/-- What a new sub-round makes of an entity: waiting ones with credits become eligible. -/
def subRound (metadata : EntityMetadata) : EntityMetadata :=
  match metadata.state with
  | .waiting =>
    if 0 < metadata.remainingCredits then { metadata with state := .eligible } else metadata
  | .waitingGoingIdle => { metadata with state := .idle }
  | .idle | .eligible => metadata

def startSubRound (policy : Policy T) : Policy T := policy.mapMetadata subRound

/-- What a new round makes of an entity, its new weight fetched: active ones get new credits. -/
def newRound (round : Int) (metadata : EntityMetadata) : EntityMetadata :=
  match metadata.state with
  | .eligible | .waiting =>
    { metadata with
      remainingCredits := metadata.weight
      roundNumber := round
      state := if 0 < metadata.weight then .eligible else .waiting }
  | .waitingGoingIdle => { metadata with state := .idle }
  | .idle => metadata

def resetAndRestartRound (fetcher : T → Nat) (policy : Policy T) : Policy T :=
  { policy with
    globalCreditsRemaining := (policy.entities.map fetcher).sum
    globalRoundNumber := policy.globalRoundNumber + 1
    metadata := fun entity => (policy.metadata entity).map fun metadata =>
      newRound (policy.globalRoundNumber + 1) { metadata with weight := fetcher entity } }

/-- `IsRoundOver`, which starts a new sub-round when only that lets the round go on. -/
def isRoundOver (policy : Policy T) : Bool × Policy T :=
  if policy.globalCreditsRemaining = 0 then (true, policy)
  else if policy.inState .eligible ≠ [] then (false, policy)
  else if policy.inState .waiting = [] then (true, policy)
  else if policy.startSubRound.inState .eligible = [] then (true, policy.startSubRound)
  else (false, policy.startSubRound)

def hasWork (fetcher : T → Nat) (policy : Policy T) : Bool × Policy T :=
  match policy.isRoundOver with
  | (false, policy) => (true, policy)
  | (true, policy) =>
    let policy := policy.resetAndRestartRound fetcher
    (policy.inState .eligible ≠ [], policy)

/-- The entity that comes next among the eligible ones. -/
def candidate [LT T] [DecidableLT T] (policy : Policy T) : Option T :=
  let eligible := policy.inState .eligible
  if policy.enforceOrder then
    match policy.lastServicedEntity with
    | some last => (eligible.find? fun entity => last < entity).or eligible.head?
    | none => eligible.head?
  else eligible.head?

/-- The entity gives up one of its credits, and waits for the next sub-round. -/
def serviced (batched : Bool) (metadata : EntityMetadata) : EntityMetadata :=
  let metadata := { metadata with remainingCredits := metadata.remainingCredits - 1 }
  if !batched || metadata.remainingCredits == 0 then { metadata with state := .waiting }
  else metadata

/-- The policy after an entity with the given metadata was served. -/
def afterService [DecidableEq T] (policy : Policy T) (entity : T) (metadata : EntityMetadata) :
    Policy T :=
  { policy.setMetadata entity (serviced policy.batched metadata) with
    globalCreditsRemaining := policy.globalCreditsRemaining - 1
    lastServicedEntity := if policy.enforceOrder then some entity else policy.lastServicedEntity }

def service [DecidableEq T] (policy : Policy T) (entity : T) :
    Except PolicyError (T × Policy T) :=
  match policy.metadata entity with
  | none => .error .unknownEntity
  | some metadata =>
    if metadata.remainingCredits = 0 then .error .noEntityCredits
    else if policy.globalCreditsRemaining = 0 then .error .noGlobalCredits
    else .ok (entity, policy.afterService entity metadata)

/-- The round that serves the next entity: a new one when the current one is over. -/
def currentRound (fetcher : T → Nat) (policy : Policy T) : Policy T :=
  match policy.isRoundOver with
  | (true, policy) => policy.resetAndRestartRound fetcher
  | (false, policy) => policy

def getNextEntity [DecidableEq T] [LT T] [DecidableLT T] (fetcher : T → Nat)
    (policy : Policy T) : Except PolicyError (T × Policy T) :=
  if policy.inState .eligible = [] ∧ policy.inState .waiting = [] then .error .unavailable
  else
    match (policy.currentRound fetcher).candidate with
    | none => .error .unavailable
    | some entity => (policy.currentRound fetcher).service entity

/-! ## The active entities -/

/-- The listed entities are those with metadata, and the eligible ones have credits. -/
structure WellFormed (policy : Policy T) : Prop where
  listed : ∀ entity, entity ∈ policy.entities ↔ (policy.metadata entity).isSome
  credits : ∀ entity metadata, policy.metadata entity = some metadata →
    metadata.state = .eligible → 0 < metadata.remainingCredits

theorem is_active_iff {policy : Policy T} {entity : T} :
    policy.isActive entity = true ↔ ∃ metadata, policy.metadata entity = some metadata ∧
      (metadata.state = .eligible ∨ metadata.state = .waiting) := by
  simp [isActive, Option.any_eq_true]

theorem mem_in_state {policy : Policy T} {entity : T} {state : EntityState} :
    entity ∈ policy.inState state ↔ entity ∈ policy.entities ∧
      ∃ metadata, policy.metadata entity = some metadata ∧ metadata.state = state := by
  simp [inState, Option.any_eq_true]

/-- The eligible and the waiting entities are the active ones. -/
theorem exists_active_iff {policy : Policy T} (wellFormed : policy.WellFormed) :
    (∃ entity, policy.isActive entity = true) ↔
      ¬(policy.inState .eligible = [] ∧ policy.inState .waiting = []) := by
  simp only [List.eq_nil_iff_forall_not_mem, mem_in_state, is_active_iff]
  constructor
  · rintro ⟨entity, metadata, found, active⟩ ⟨noEligible, noWaiting⟩
    have listed : entity ∈ policy.entities := (wellFormed.listed entity).2 (by simp [found])
    rcases active with state | state
    · exact noEligible entity ⟨listed, metadata, found, state⟩
    · exact noWaiting entity ⟨listed, metadata, found, state⟩
  · intro some_
    by_contra none_
    push Not at none_
    exact some_ ⟨fun entity ⟨_, metadata, found, state⟩ => (none_ entity metadata found).1 state,
      fun entity ⟨_, metadata, found, state⟩ => (none_ entity metadata found).2 state⟩

/-- Two policies over the same entities, of which the same are active. -/
structure SameActivity (policy next : Policy T) : Prop where
  entities : next.entities = policy.entities
  known : ∀ entity, (next.metadata entity).isSome = (policy.metadata entity).isSome
  active : ∀ entity, next.isActive entity = policy.isActive entity

namespace SameActivity

theorem refl (policy : Policy T) : SameActivity policy policy :=
  ⟨rfl, fun _ => rfl, fun _ => rfl⟩

theorem trans {first second third : Policy T} (one : SameActivity first second)
    (two : SameActivity second third) : SameActivity first third :=
  ⟨two.entities.trans one.entities, fun entity => (two.known entity).trans (one.known entity),
    fun entity => (two.active entity).trans (one.active entity)⟩

end SameActivity

/-- Changes of every entity's metadata that make no entity active or inactive. -/
def KeepsActivity (change : EntityMetadata → EntityMetadata) : Prop :=
  ∀ metadata, ((change metadata).state = .eligible ∨ (change metadata).state = .waiting) ↔
    (metadata.state = .eligible ∨ metadata.state = .waiting)

/-- Changes after which an eligible entity has credits, if it had before. -/
def KeepsCredits (change : EntityMetadata → EntityMetadata) : Prop :=
  ∀ metadata : EntityMetadata, (metadata.state = .eligible → 0 < metadata.remainingCredits) →
    (change metadata).state = .eligible → 0 < (change metadata).remainingCredits

theorem same_activity_of_changes {policy next : Policy T} (change : T → EntityMetadata → EntityMetadata)
    (entities : next.entities = policy.entities)
    (changed : ∀ entity, next.metadata entity = (policy.metadata entity).map (change entity))
    (keeps : ∀ entity, KeepsActivity (change entity)) : SameActivity policy next := by
  refine ⟨entities, fun entity => by simp [changed], fun entity => ?_⟩
  rw [Bool.eq_iff_iff, is_active_iff, is_active_iff, changed]
  cases policy.metadata entity with
  | none => simp
  | some metadata => simpa using keeps entity metadata

theorem WellFormed.of_changes {policy next : Policy T} (wellFormed : policy.WellFormed)
    (change : T → EntityMetadata → EntityMetadata) (entities : next.entities = policy.entities)
    (changed : ∀ entity, next.metadata entity = (policy.metadata entity).map (change entity))
    (keeps : ∀ entity, KeepsCredits (change entity)) : next.WellFormed := by
  constructor
  · intro entity
    rw [entities, changed, Option.isSome_map]
    exact wellFormed.listed entity
  · intro entity metadata found eligible
    rw [changed, Option.map_eq_some_iff] at found
    obtain ⟨before, foundBefore, rfl⟩ := found
    exact keeps entity before (wellFormed.credits entity before foundBefore) eligible

theorem sub_round_keeps_activity : KeepsActivity subRound := by
  rintro ⟨state, weight, credits, round⟩
  cases state <;> by_cases some_ : 0 < credits <;> simp [subRound, some_]

theorem sub_round_keeps_credits : KeepsCredits subRound := by
  rintro ⟨state, weight, credits, round⟩
  cases state <;> by_cases some_ : 0 < credits <;> simp [subRound, some_]

theorem new_round_keeps_activity (round : Int) (weight : Nat) :
    KeepsActivity fun metadata => newRound round { metadata with weight := weight } := by
  rintro ⟨state, old, credits, last⟩
  cases state <;> by_cases positive : 0 < weight <;> simp [newRound, positive]

theorem new_round_keeps_credits (round : Int) (weight : Nat) :
    KeepsCredits fun metadata => newRound round { metadata with weight := weight } := by
  rintro ⟨state, old, credits, last⟩
  cases state <;> by_cases positive : 0 < weight <;> simp [newRound, positive]

theorem serviced_keeps_activity (batched : Bool) {metadata : EntityMetadata}
    (eligible : metadata.state = .eligible) :
    (serviced batched metadata).state = .eligible ∨ (serviced batched metadata).state = .waiting := by
  simp only [serviced]
  split
  · exact .inr rfl
  · exact .inl eligible

theorem serviced_keeps_credits {batched : Bool} {metadata : EntityMetadata}
    (eligible : (serviced batched metadata).state = .eligible) :
    0 < (serviced batched metadata).remainingCredits := by
  simp only [serviced] at eligible ⊢
  split at eligible
  · cases eligible
  · rename_i spent
    rw [if_neg spent]
    simp at spent
    simp only
    omega

/-! ## Rounds -/

theorem start_sub_round_active (policy : Policy T) : SameActivity policy policy.startSubRound :=
  same_activity_of_changes (fun _ => subRound) rfl (fun _ => rfl) fun _ => sub_round_keeps_activity

theorem reset_active (fetcher : T → Nat) (policy : Policy T) :
    SameActivity policy (policy.resetAndRestartRound fetcher) :=
  same_activity_of_changes
    (fun entity metadata =>
      newRound (policy.globalRoundNumber + 1) { metadata with weight := fetcher entity })
    rfl (fun _ => rfl) fun _ => new_round_keeps_activity _ _

theorem reset_well_formed (fetcher : T → Nat) {policy : Policy T}
    (wellFormed : policy.WellFormed) : (policy.resetAndRestartRound fetcher).WellFormed :=
  wellFormed.of_changes
    (fun entity metadata =>
      newRound (policy.globalRoundNumber + 1) { metadata with weight := fetcher entity })
    rfl (fun _ => rfl) fun _ => new_round_keeps_credits _ _

/-- After a reset every active entity of positive weight is eligible, and there are credits. -/
theorem eligible_of_reset {fetcher : T → Nat} {policy : Policy T} {entity : T}
    (wellFormed : policy.WellFormed) (active : policy.isActive entity = true)
    (positive : 0 < fetcher entity) :
    entity ∈ (policy.resetAndRestartRound fetcher).inState .eligible ∧
      0 < (policy.resetAndRestartRound fetcher).globalCreditsRemaining := by
  obtain ⟨metadata, found, state⟩ := is_active_iff.1 active
  have listed : entity ∈ policy.entities := (wellFormed.listed entity).2 (by simp [found])
  constructor
  · refine mem_in_state.2 ⟨listed, _, by simp only [resetAndRestartRound, found]; rfl, ?_⟩
    rcases state with state | state <;> simp [newRound, state, positive]
  · have summand : fetcher entity ≤ (policy.entities.map fetcher).sum :=
      List.single_le_sum (by simp) _ (List.mem_map_of_mem listed)
    simp only [resetAndRestartRound]
    omega

/-- What the check for the end of a round leaves behind. -/
theorem is_round_over_spec (policy : Policy T) (wellFormed : policy.WellFormed) :
    SameActivity policy policy.isRoundOver.2 ∧ policy.isRoundOver.2.WellFormed ∧
      (policy.isRoundOver.1 = false → policy.isRoundOver.2.inState .eligible ≠ [] ∧
        0 < policy.isRoundOver.2.globalCreditsRemaining) := by
  have subRoundFormed : policy.startSubRound.WellFormed :=
    wellFormed.of_changes (fun _ => subRound) rfl (fun _ => rfl) fun _ => sub_round_keeps_credits
  unfold isRoundOver
  split
  · exact ⟨.refl policy, wellFormed, by simp⟩
  · rename_i credits
    split
    · rename_i eligible
      exact ⟨.refl policy, wellFormed, fun _ => ⟨eligible, Nat.pos_of_ne_zero credits⟩⟩
    · split
      · exact ⟨.refl policy, wellFormed, by simp⟩
      · split
        · exact ⟨start_sub_round_active policy, subRoundFormed, by simp⟩
        · rename_i eligible
          exact ⟨start_sub_round_active policy, subRoundFormed,
            fun _ => ⟨eligible, Nat.pos_of_ne_zero credits⟩⟩

theorem has_work_active (fetcher : T → Nat) {policy : Policy T} (wellFormed : policy.WellFormed) :
    SameActivity policy (policy.hasWork fetcher).2 ∧ (policy.hasWork fetcher).2.WellFormed := by
  obtain ⟨same, formed, -⟩ := is_round_over_spec policy wellFormed
  unfold hasWork
  split
  · rename_i next ended
    rw [ended] at same formed
    exact ⟨same, formed⟩
  · rename_i next ended
    rw [ended] at same formed
    exact ⟨same.trans (reset_active fetcher next), reset_well_formed fetcher formed⟩

/-- A policy has work only if an entity is active. -/
theorem active_of_has_work {fetcher : T → Nat} {policy : Policy T} (wellFormed : policy.WellFormed)
    (work : (policy.hasWork fetcher).1 = true) : ∃ entity, policy.isActive entity = true := by
  obtain ⟨same, formed⟩ := has_work_active fetcher wellFormed
  have found : (policy.hasWork fetcher).2.inState .eligible ≠ [] := by
    obtain ⟨-, -, unfinished⟩ := is_round_over_spec policy wellFormed
    unfold hasWork at work ⊢
    split
    · rename_i next ended
      rw [ended] at unfinished
      exact (unfinished rfl).1
    · rename_i next ended
      simpa [ended] using work
  obtain ⟨entity, active⟩ := (exists_active_iff formed).2 fun ⟨none_, _⟩ => found none_
  exact ⟨entity, (same.active entity).symm.trans active⟩

/-- A policy with an active entity of positive weight has work. -/
theorem has_work_of_active {fetcher : T → Nat} {policy : Policy T} {entity : T}
    (wellFormed : policy.WellFormed) (active : policy.isActive entity = true)
    (positive : 0 < fetcher entity) : (policy.hasWork fetcher).1 = true := by
  obtain ⟨same, formed, -⟩ := is_round_over_spec policy wellFormed
  unfold hasWork
  split
  · rfl
  · rename_i next ended
    rw [ended] at same formed
    have eligible := (eligible_of_reset formed ((same.active entity).trans active) positive).1
    simpa using List.ne_nil_of_mem eligible

theorem has_work_of_eligible {fetcher : T → Nat} {policy : Policy T}
    (credits : policy.globalCreditsRemaining ≠ 0) (eligible : policy.inState .eligible ≠ []) :
    (policy.hasWork fetcher).1 = true := by
  have going : policy.isRoundOver = (false, policy) := by
    unfold isRoundOver
    rw [if_neg credits, if_pos eligible]
  unfold hasWork
  rw [going]

/-- What is eligible in a new round has credits. -/
theorem credits_of_reset {fetcher : T → Nat} {policy : Policy T}
    (eligible : (policy.resetAndRestartRound fetcher).inState .eligible ≠ []) :
    (policy.resetAndRestartRound fetcher).globalCreditsRemaining ≠ 0 := by
  obtain ⟨entity, mem⟩ := List.exists_mem_of_ne_nil _ eligible
  obtain ⟨listed, metadata, found, state⟩ := mem_in_state.1 mem
  obtain ⟨before, -, rfl⟩ := Option.map_eq_some_iff.1 found
  have positive : 0 < fetcher entity := by
    by_contra none_
    cases old : before.state <;> simp [newRound, old, none_] at state
  have summand : fetcher entity ≤ (policy.entities.map fetcher).sum :=
    List.single_le_sum (by simp) _ (List.mem_map_of_mem listed)
  simp only [resetAndRestartRound]
  omega

/-- A policy that has work still has it when it is asked again. -/
theorem has_work_again {fetcher : T → Nat} {policy : Policy T}
    (work : (policy.hasWork fetcher).1 = true) :
    ((policy.hasWork fetcher).2.hasWork fetcher).1 = true := by
  unfold hasWork at work
  rw [hasWork.eq_def fetcher policy]
  cases beyond : policy.isRoundOver with
  | mk ended next =>
    rw [beyond] at work
    cases ended with
    | true =>
      have eligible : (next.resetAndRestartRound fetcher).inState .eligible ≠ [] := by
        simpa using work
      exact has_work_of_eligible (credits_of_reset eligible) eligible
    | false =>
      unfold isRoundOver at beyond
      split_ifs at beyond with spent current waiting later
      all_goals cases beyond
      · exact has_work_of_eligible spent current
      · exact has_work_of_eligible spent later

theorem current_round_spec (fetcher : T → Nat) {policy : Policy T}
    (wellFormed : policy.WellFormed) :
    SameActivity policy (policy.currentRound fetcher) ∧ (policy.currentRound fetcher).WellFormed := by
  obtain ⟨same, formed, -⟩ := is_round_over_spec policy wellFormed
  unfold currentRound
  split
  · rename_i next ended
    rw [ended] at same formed
    exact ⟨same.trans (reset_active fetcher next), reset_well_formed fetcher formed⟩
  · rename_i next ended
    rw [ended] at same formed
    exact ⟨same, formed⟩

/-! ## The next entity -/

section Service
variable [DecidableEq T]

theorem is_active_set_metadata (policy : Policy T) (entity : T) (metadata : EntityMetadata)
    (other : T) : (policy.setMetadata entity metadata).isActive other =
      if other = entity then
        metadata.state == .eligible || metadata.state == .waiting
      else policy.isActive other := by
  by_cases same : other = entity
  · subst same
    simp [isActive, setMetadata]
  · simp [isActive, setMetadata, same]

theorem set_metadata_well_formed {policy : Policy T} {entity : T} {before metadata : EntityMetadata}
    (wellFormed : policy.WellFormed) (found : policy.metadata entity = some before)
    (credits : metadata.state = .eligible → 0 < metadata.remainingCredits) :
    (policy.setMetadata entity metadata).WellFormed := by
  constructor
  · intro other
    by_cases same : other = entity
    · subst same
      simp [setMetadata, (wellFormed.listed other), found]
    · simp [setMetadata, Function.update_of_ne same, wellFormed.listed other]
  · intro other current foundOther eligible
    by_cases same : other = entity
    · subst same
      simp only [setMetadata, Function.update_self, Option.some.injEq] at foundOther
      subst foundOther
      exact credits eligible
    · simp only [setMetadata, Function.update_of_ne same] at foundOther
      exact wellFormed.credits other current foundOther eligible

/-- Serving an eligible entity succeeds while there are credits, and it stays active. -/
theorem service_spec {policy : Policy T} {entity : T} (wellFormed : policy.WellFormed)
    (eligible : entity ∈ policy.inState .eligible) (credits : 0 < policy.globalCreditsRemaining) :
    ∃ next, policy.service entity = .ok (entity, next) ∧ SameActivity policy next ∧
      next.WellFormed := by
  obtain ⟨listed, metadata, found, state⟩ := mem_in_state.1 eligible
  have entityCredits := wellFormed.credits entity metadata found state
  refine ⟨policy.afterService entity metadata, by
    simp only [service, found, if_neg (Nat.ne_of_gt entityCredits), if_neg (Nat.ne_of_gt credits)],
    ⟨rfl, fun other => ?_, fun other => ?_⟩, ?_⟩
  · by_cases same : other = entity
    · subst same
      simp [afterService, setMetadata, found]
    · simp [afterService, setMetadata, same]
  · have activity := is_active_set_metadata policy entity (serviced policy.batched metadata) other
    refine activity.trans ?_
    by_cases same : other = entity
    · subst same
      have before : policy.isActive other = true := is_active_iff.2 ⟨metadata, found, .inl state⟩
      rcases serviced_keeps_activity policy.batched state with after | after <;>
        simp [before, after]
    · simp [same]
  · obtain ⟨listed, credits⟩ := set_metadata_well_formed wellFormed found
      (@serviced_keeps_credits policy.batched metadata)
    exact ⟨listed, credits⟩

section Order
variable [LT T] [DecidableLT T]

omit [DecidableEq T] in
theorem candidate_eligible {policy : Policy T} (eligible : policy.inState .eligible ≠ []) :
    ∃ entity, policy.candidate = some entity ∧ entity ∈ policy.inState .eligible := by
  obtain ⟨head, tail, list⟩ := List.exists_cons_of_ne_nil eligible
  unfold candidate
  simp only [list]
  split
  · split
    · rename_i last serviced
      cases found : (head :: tail).find? fun entity => decide (last < entity) with
      | none => exact ⟨head, rfl, List.mem_cons_self⟩
      | some entity => exact ⟨entity, rfl, List.mem_of_find?_eq_some found⟩
    · exact ⟨head, rfl, List.mem_cons_self⟩
  · exact ⟨head, rfl, List.mem_cons_self⟩

/-- Whatever is served, the active entities stay the same. -/
theorem get_next_entity_same {fetcher : T → Nat} {policy next : Policy T} {chosen : T}
    (wellFormed : policy.WellFormed) (done : policy.getNextEntity fetcher = .ok (chosen, next)) :
    SameActivity policy next ∧ next.WellFormed := by
  obtain ⟨same, formed⟩ := current_round_spec fetcher wellFormed
  unfold getNextEntity at done
  split at done
  · cases done
  · split at done
    · cases done
    · rename_i entity found
      have eligible : (policy.currentRound fetcher).inState .eligible ≠ [] := by
        intro none_
        unfold candidate at found
        simp only [none_, List.find?_nil, List.head?_nil, Option.or_none] at found
        split at found
        · split at found <;> cases found
        · cases found
      obtain ⟨_, again, mem⟩ := candidate_eligible eligible
      rw [found] at again
      cases again
      have credits : 0 < (policy.currentRound fetcher).globalCreditsRemaining := by
        unfold service at done
        split at done
        · cases done
        · split_ifs at done with entityCredits globalCredits
          exact Nat.pos_of_ne_zero globalCredits
      obtain ⟨_, served, sameNext, formedNext⟩ := service_spec formed mem credits
      rw [done] at served
      cases served
      exact ⟨same.trans sameNext, formedNext⟩

end Order
end Service

/-! ## Marking -/

section Marking
variable [DecidableEq T]

theorem activated_state (round : Int) (metadata : EntityMetadata) :
    (activated round metadata).state = .eligible ∨ (activated round metadata).state = .waiting := by
  rcases metadata with ⟨state, weight, credits, last⟩
  cases state
  · simp only [activated]
    split <;> simp
  all_goals simp [activated]

theorem activated_credits (round : Int) {metadata : EntityMetadata}
    (credits : metadata.state = .eligible → 0 < metadata.remainingCredits)
    (eligible : (activated round metadata).state = .eligible) :
    0 < (activated round metadata).remainingCredits := by
  rcases metadata with ⟨state, weight, remaining, last⟩
  cases state
  · simp only [activated] at eligible ⊢
    split at eligible
    · cases eligible
    · rename_i some_
      exact Nat.pos_of_ne_zero some_
  all_goals simp_all [activated]

theorem deactivated_state (metadata : EntityMetadata) :
    (deactivated metadata).state = .idle ∨ (deactivated metadata).state = .waitingGoingIdle := by
  rcases metadata with ⟨state, weight, credits, last⟩
  cases state <;> simp [deactivated]

/-- What marking an entity does: it is known, and only its own activity changes, to `active`. -/
structure Marked (policy : Policy T) (entity : T) (active : Bool) (next : Policy T) : Prop where
  entities : next.entities = policy.entities
  known : ∀ other, (next.metadata other).isSome = (policy.metadata other).isSome
  activity : ∀ other, next.isActive other = if other = entity then active else policy.isActive other
  wellFormed : next.WellFormed

theorem set_metadata_marked (after : EntityMetadata) {policy : Policy T} {entity : T}
    {before : EntityMetadata} (wellFormed : policy.WellFormed) (found : policy.metadata entity = some before)
    (credits : after.state = .eligible → 0 < after.remainingCredits) :
    Marked policy entity (after.state == .eligible || after.state == .waiting)
      (policy.setMetadata entity after) := by
  refine ⟨rfl, fun other => ?_, is_active_set_metadata policy entity after,
    set_metadata_well_formed wellFormed found credits⟩
  by_cases same : other = entity
  · subst same
    simp [setMetadata, found]
  · simp [setMetadata, same]

theorem mark_entity_active_spec {policy : Policy T} {entity : T} (wellFormed : policy.WellFormed)
    (known : (policy.metadata entity).isSome) :
    ∃ next, policy.markEntityActive entity = .ok next ∧ Marked policy entity true next := by
  obtain ⟨metadata, found⟩ := Option.isSome_iff_exists.1 known
  have marked := set_metadata_marked _ wellFormed found
    (activated_credits policy.globalRoundNumber (wellFormed.credits entity metadata found))
  refine ⟨policy.setMetadata entity (activated policy.globalRoundNumber metadata),
    by simp only [markEntityActive, found], ?_⟩
  rcases activated_state policy.globalRoundNumber metadata with state | state <;>
    simpa [state] using marked

theorem mark_entity_inactive_spec {policy : Policy T} {entity : T}
    (wellFormed : policy.WellFormed) (known : (policy.metadata entity).isSome) :
    ∃ next, policy.markEntityInactive entity = .ok next ∧ Marked policy entity false next := by
  obtain ⟨metadata, found⟩ := Option.isSome_iff_exists.1 known
  have marked := set_metadata_marked (deactivated metadata) wellFormed found (by
    rcases deactivated_state metadata with state | state <;> simp [state])
  refine ⟨policy.setMetadata entity (deactivated metadata),
    by simp only [markEntityInactive, found], ?_⟩
  have inactive : ((deactivated metadata).state == .eligible ||
      (deactivated metadata).state == .waiting) = false := by
    rcases deactivated_state metadata with state | state <;> rw [state] <;> rfl
  rwa [inactive] at marked

end Marking

/-! ## New entities -/

theorem empty_well_formed (enforceOrder : Bool) :
    ({ enforceOrder := enforceOrder } : Policy T).WellFormed :=
  ⟨fun entity => by simp, fun entity metadata found => by cases found⟩

section Initialization
variable [DecidableEq T] [LT T] [DecidableLT T]

omit [DecidableEq T] in
theorem mem_insert_sorted {entity other : T} {entities : List T} :
    other ∈ insertSorted entity entities ↔ other = entity ∨ other ∈ entities := by
  induction entities with
  | nil => simp [insertSorted]
  | cons head tail ih =>
    rw [insertSorted]
    split
    · simp
    · rw [List.mem_cons, ih, List.mem_cons]
      exact or_left_comm

/-- A new entity is not active. -/
theorem initialize_entity_spec {fetcher : T → Nat} {before after : Policy T} {entity : T}
    (formed : before.WellFormed) (done : before.initializeEntity fetcher entity = .ok after) :
    after.WellFormed ∧ ∀ other, after.isActive other = before.isActive other := by
  unfold initializeEntity at done
  split at done
  · cases done
  · rename_i unknown
    cases done
    refine ⟨⟨fun other => ?_, fun other metadata found eligible => ?_⟩, fun other => ?_⟩
    · rw [mem_insert_sorted, formed.listed]
      by_cases same : other = entity
      · subst same
        simp
      · simp [same]
    · by_cases same : other = entity
      · subst same
        simp only [Function.update_self, Option.some.injEq] at found
        subst found
        cases eligible
      · simp only [Function.update_of_ne same] at found
        exact formed.credits other metadata found eligible
    · unfold isActive
      by_cases same : other = entity
      · subst same
        simp [unknown]
      · simp only [Function.update_of_ne same]

end Initialization

end Policy

end Isekai.WeightedRoundRobin
