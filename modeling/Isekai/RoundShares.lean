import Isekai.RoundRobinPolicy

/-! The rounds of a weighted round robin over entities whose weights do not change: none is deleted,
and none is added once the first round has been started. Beside the policy stands what its user sees
of the current round: how often each entity has been returned, and since which round it has been
active. -/

namespace Isekai.RoundRobinPolicy
open WeightedRoundRobin (PolicyError)

variable {T : Type}

/-- The calls of a user who deletes no entities. -/
inductive Call (T : Type) where
  | initializeEntity (entity : T)
  | markEntityActive (entity : T)
  | markEntityInactive (entity : T)
  | hasWork
  | resetAndRestartRound
  | getNextEntity
  deriving DecidableEq, Repr

/-- What a call returns of entities, and the policy after it. -/
def Policy.respond [LinearOrder T] (weights : T → Nat) (policy : Policy T) :
    Call T → Except PolicyError (Option T × Policy T)
  | .initializeEntity entity =>
    (policy.initializeEntity weights entity).map fun next => (none, next)
  | .markEntityActive entity =>
    (policy.markEntityActive entity).map fun result => (none, result.2)
  | .markEntityInactive entity =>
    (policy.markEntityInactive entity).map fun result => (none, result.2)
  | .hasWork => .ok (none, (policy.hasWork weights).2)
  | .resetAndRestartRound => .ok (none, policy.resetAndRestartRound weights)
  | .getNextEntity => policy.getNextEntity weights

/-- A policy, the number of rounds that have been started, how often each entity has been returned
in the current one, and in which round each active entity became active. -/
structure Rounds (T : Type) where
  policy : Policy T
  round : Nat := 0
  returned : T → Nat := fun _ => 0
  activeSince : T → Option Nat := fun _ => none

namespace Rounds

section
variable [DecidableEq T] (rounds : Rounds T)

/-- The number of rounds after a call that leads to a policy. -/
def roundAfter (policy : Policy T) : Nat :=
  if policy.globalRoundNumber = rounds.policy.globalRoundNumber then rounds.round
  else rounds.round + 1

/-- What a call leaves that returns an entity or none. -/
def after (returned : Option T) (policy : Policy T) : Rounds T where
  policy
  round := rounds.roundAfter policy
  returned entity :=
    (if policy.globalRoundNumber = rounds.policy.globalRoundNumber then rounds.returned entity
      else 0) + if returned = some entity then 1 else 0
  activeSince entity :=
    if entity ∈ policy.active then
      if entity ∈ rounds.policy.active then rounds.activeSince entity
      else some (rounds.roundAfter policy)
    else none

end

variable [LinearOrder T] (weights : T → Nat) (rounds : Rounds T)

/-- A call, if it does not fail. -/
def perform (call : Call T) : Except PolicyError (Rounds T) :=
  (rounds.policy.respond weights call).map fun result => rounds.after result.1 result.2

/-- A new policy of any configuration. -/
def Initial (rounds : Rounds T) : Prop :=
  ∃ fetches batched enforceOrder, rounds = { policy := { fetches, batched, enforceOrder } }

/-- Entities are added before the first round only. -/
def Allowed : Call T → Prop
  | .initializeEntity _ => rounds.round = 0
  | _ => True

instance : (call : Call T) → Decidable (rounds.Allowed call)
  | .initializeEntity _ => inferInstanceAs (Decidable (rounds.round = 0))
  | .markEntityActive _ | .markEntityInactive _ | .hasWork | .resetAndRestartRound
  | .getNextEntity => .isTrue trivial

/-- A call that is allowed and succeeds. -/
def Step (next : Rounds T) : Prop :=
  ∃ call, rounds.Allowed call ∧ rounds.perform weights call = .ok next

/-- A call by which a round is ended: with it the next one is started. -/
def Ends (call : Call T) (next : Rounds T) : Prop :=
  rounds.perform weights call = .ok next ∧ next.round ≠ rounds.round

/-- Every entity that has been active since an earlier round has been returned as often as its
weight says. -/
def Exact : Prop :=
  ∀ entity since, rounds.activeSince entity = some since → since < rounds.round →
    rounds.returned entity = rounds.policy.weightOf weights entity

end Rounds

end Isekai.RoundRobinPolicy
