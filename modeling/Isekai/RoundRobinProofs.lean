import Mathlib.Algebra.BigOperators.Ring.Finset
import Mathlib.Algebra.Order.BigOperators.Group.Finset
import Isekai.FalconTypes
import Isekai.RoundRobinPolicy

/-! What every interleaving of calls keeps of a weighted round robin: the four sets are the
entities of each recorded state, eligible entities have credits, and the active ones are those
marked so last. With weights whose sum is an `int`, no call that asks for the next entity fails,
and `HasWork` foretells its answer. -/

namespace Isekai.RoundRobinProofs
open RoundRobinPolicy
open WeightedRoundRobin (EntityState EntityMetadata PolicyError)

variable {T : Type}
variable {policy next : Policy T} {fetcher : T → Nat} {state : State T} {entity : T}

/-! ## The stored sets -/

/-- The stored sets are those of the recorded states, and eligible entities have credits. -/
structure Consistent (policy : Policy T) : Prop where
  member : ∀ state entity, entity ∈ policy.inState state ↔
    entity ∈ policy.entities ∧ (policy.metadata entity).state = state
  credits : ∀ entity ∈ policy.eligible, 0 < (policy.metadata entity).remainingCredits
  unweighted : policy.fetches = false → ∀ entity ∈ policy.entities,
    (policy.metadata entity).weight = 1

/-- The four memberships, one set at a time. -/
structure SetsOfStates (policy : Policy T) : Prop where
  idle : ∀ entity, entity ∈ policy.idle ↔
    entity ∈ policy.entities ∧ (policy.metadata entity).state = .idle
  eligible : ∀ entity, entity ∈ policy.eligible ↔
    entity ∈ policy.entities ∧ (policy.metadata entity).state = .eligible
  waiting : ∀ entity, entity ∈ policy.waiting ↔
    entity ∈ policy.entities ∧ (policy.metadata entity).state = .waiting
  goingIdle : ∀ entity, entity ∈ policy.waitingGoingIdle ↔
    entity ∈ policy.entities ∧ (policy.metadata entity).state = .waitingGoingIdle

theorem Consistent.sets (consistent : Consistent policy) : SetsOfStates policy :=
  ⟨consistent.member .idle, consistent.member .eligible, consistent.member .waiting,
    consistent.member .waitingGoingIdle⟩

theorem SetsOfStates.consistent (sets : SetsOfStates policy)
    (credits : ∀ entity ∈ policy.eligible, 0 < (policy.metadata entity).remainingCredits)
    (unweighted : policy.fetches = false → ∀ entity ∈ policy.entities,
      (policy.metadata entity).weight = 1) : Consistent policy := by
  refine ⟨fun state => ?_, credits, unweighted⟩
  cases state
  · exact sets.idle
  · exact sets.eligible
  · exact sets.waiting
  · exact sets.goingIdle

section Sets
variable [DecidableEq T]

/-- Two policies over the same entities, of which the same are active. -/
structure SameActivity (policy next : Policy T) : Prop where
  entities : next.entities = policy.entities
  fetches : next.fetches = policy.fetches
  active : next.active = policy.active

theorem SameActivity.refl (policy : Policy T) : SameActivity policy policy := ⟨rfl, rfl, rfl⟩

theorem SameActivity.trans {middle : Policy T} (one : SameActivity policy middle)
    (two : SameActivity middle next) : SameActivity policy next :=
  ⟨two.entities.trans one.entities, two.fetches.trans one.fetches, two.active.trans one.active⟩

theorem SameActivity.weight (same : SameActivity policy next) (fetcher : T → Nat) (entity : T) :
    next.weightOf fetcher entity = policy.weightOf fetcher entity := by
  simp only [Policy.weightOf, same.fetches]

theorem SameActivity.fits (same : SameActivity policy next) (fetcher : T → Nat) :
    next.Fits fetcher ↔ policy.Fits fetcher := by
  simp only [Policy.Fits, same.entities, same.weight fetcher]

/-- What the loops of a round do to a policy: they keep it consistent, and its activity. -/
def Kept (policy next : Policy T) : Prop := Consistent next ∧ SameActivity policy next

theorem Kept.trans {middle : Policy T} (one : Kept policy middle) (two : Kept middle next) :
    Kept policy next :=
  ⟨two.1, one.2.trans two.2⟩

theorem retire_going_idle_kept (consistent : Consistent policy) :
    Kept policy policy.retireGoingIdle := by
  obtain ⟨idle, eligible, waiting, goingIdle⟩ := consistent.sets
  have credits := consistent.credits
  have unweighted := consistent.unweighted
  refine ⟨SetsOfStates.consistent ⟨?_, ?_, ?_, ?_⟩ ?_ ?_, rfl, rfl, rfl⟩
  all_goals
    simp only [Policy.retireGoingIdle]
    grind

theorem raise_waiting_kept (consistent : Consistent policy) : Kept policy policy.raiseWaiting := by
  obtain ⟨idle, eligible, waiting, goingIdle⟩ := consistent.sets
  have credits := consistent.credits
  have unweighted := consistent.unweighted
  refine ⟨SetsOfStates.consistent ⟨?_, ?_, ?_, ?_⟩ ?_ ?_, rfl, rfl, ?_⟩
  all_goals
    simp only [Policy.raiseWaiting, Policy.active]
    grind

theorem start_sub_round_kept (consistent : Consistent policy) : Kept policy policy.startSubRound :=
  (raise_waiting_kept consistent).trans
    (retire_going_idle_kept (raise_waiting_kept consistent).1)

theorem fetch_weights_kept (fetcher : T → Nat) (consistent : Consistent policy) :
    Kept policy (policy.fetchWeights fetcher) := by
  obtain ⟨idle, eligible, waiting, goingIdle⟩ := consistent.sets
  have credits := consistent.credits
  have unweighted := consistent.unweighted
  refine ⟨SetsOfStates.consistent ⟨?_, ?_, ?_, ?_⟩ ?_ ?_, rfl, rfl, rfl⟩
  all_goals
    simp only [Policy.fetchWeights]
    grind

theorem renew_eligible_kept (consistent : Consistent policy) :
    Kept policy policy.renewEligible := by
  obtain ⟨idle, eligible, waiting, goingIdle⟩ := consistent.sets
  have unweighted := consistent.unweighted
  refine ⟨SetsOfStates.consistent ⟨?_, ?_, ?_, ?_⟩ ?_ ?_, rfl, rfl, ?_⟩
  all_goals
    simp only [Policy.renewEligible, Policy.renewed, Policy.active]
    grind

theorem renew_waiting_kept (consistent : Consistent policy) : Kept policy policy.renewWaiting := by
  obtain ⟨idle, eligible, waiting, goingIdle⟩ := consistent.sets
  have credits := consistent.credits
  have unweighted := consistent.unweighted
  refine ⟨SetsOfStates.consistent ⟨?_, ?_, ?_, ?_⟩ ?_ ?_, rfl, rfl, ?_⟩
  all_goals
    simp only [Policy.renewWaiting, Policy.renewed, Policy.active]
    grind

theorem reset_kept (fetcher : T → Nat) (consistent : Consistent policy) :
    Kept policy (policy.resetAndRestartRound fetcher) := by
  have fetched := fetch_weights_kept fetcher consistent
  have eligible := renew_eligible_kept fetched.1
  have waiting := renew_waiting_kept eligible.1
  exact fetched.trans (eligible.trans (waiting.trans (retire_going_idle_kept waiting.1)))

/-- A new round makes the active entities of positive weight eligible; the others have no credits. -/
theorem reset_eligible (fetcher : T → Nat) (consistent : Consistent policy) :
    (policy.resetAndRestartRound fetcher).eligible =
        policy.active.filter (0 < policy.weightOf fetcher ·) ∧
      ∀ entity ∈ (policy.resetAndRestartRound fetcher).waiting,
        ((policy.resetAndRestartRound fetcher).metadata entity).remainingCredits = 0 := by
  obtain ⟨idle, eligible, waiting, goingIdle⟩ := consistent.sets
  have unweighted := consistent.unweighted
  constructor
  · ext entity
    simp only [Policy.resetAndRestartRound, Policy.retireGoingIdle, Policy.renewWaiting,
      Policy.renewEligible, Policy.fetchWeights, Policy.renewed, Policy.active, Policy.weightOf]
    grind
  · intro entity
    simp only [Policy.resetAndRestartRound, Policy.retireGoingIdle, Policy.renewWaiting,
      Policy.renewEligible, Policy.fetchWeights, Policy.renewed, Policy.weightOf]
    grind

/-! ## Rounds -/

theorem wrap_int_of_fits {value : Nat} (fits : value < 2 ^ 31) : wrapInt value = value := by
  simp only [wrapInt, Int.bmod_def]
  omega

/-- A new round has credits as soon as an entity has weight. -/
theorem reset_credits (fits : policy.Fits fetcher) :
    0 ≤ (policy.resetAndRestartRound fetcher).globalCreditsRemaining ∧
      ∀ entity ∈ policy.entities, 0 < policy.weightOf fetcher entity →
        0 < (policy.resetAndRestartRound fetcher).globalCreditsRemaining := by
  have total : (policy.resetAndRestartRound fetcher).globalCreditsRemaining =
      ((∑ entity ∈ policy.entities, policy.weightOf fetcher entity : Nat) : Int) := by
    rw [← wrap_int_of_fits fits]
    simp only [Nat.cast_sum]
    rfl
  rw [total]
  refine ⟨Int.natCast_nonneg _, fun entity known positive => ?_⟩
  have summand := Finset.single_le_sum
    (fun other _ => Nat.zero_le (policy.weightOf fetcher other)) known
  omega

/-- What the check for the end of a round leaves behind. -/
theorem is_round_over_spec (consistent : Consistent policy) :
    Kept policy policy.isRoundOver.2 ∧
      policy.isRoundOver.2.globalCreditsRemaining = policy.globalCreditsRemaining ∧
      (policy.isRoundOver.1 = false →
        policy.isRoundOver.2.eligible ≠ ∅ ∧ policy.globalCreditsRemaining ≠ 0) := by
  have same : Kept policy policy := ⟨consistent, .refl policy⟩
  have subRound := start_sub_round_kept consistent
  unfold Policy.isRoundOver
  split
  · exact ⟨same, rfl, by simp⟩
  · rename_i credits
    split
    · rename_i eligible
      exact ⟨same, rfl, fun _ => ⟨eligible, credits⟩⟩
    · split
      · exact ⟨same, rfl, by simp⟩
      · split
        · exact ⟨subRound, rfl, by simp⟩
        · rename_i eligible
          exact ⟨subRound, rfl, fun _ => ⟨eligible, credits⟩⟩

/-- A round in which no entity is eligible and none that waits has credits is over. -/
theorem round_over_of_spent (none_ : policy.eligible = ∅)
    (spent : ∀ entity ∈ policy.waiting, (policy.metadata entity).remainingCredits = 0) :
    policy.isRoundOver.1 = true := by
  have raised : policy.startSubRound.eligible = ∅ := by
    simp only [Policy.startSubRound, Policy.retireGoingIdle, Policy.raiseWaiting, none_,
      Finset.empty_union, Finset.filter_eq_empty_iff]
    intro entity waiting
    simp [spent entity waiting]
  simp only [Policy.isRoundOver, none_, raised, ne_eq, not_true_eq_false, if_true, if_false]
  split_ifs <;> rfl

/-- What the round that serves the next entity has. -/
structure RoundReady (fetcher : T → Nat) (policy next : Policy T) : Prop where
  kept : Kept policy next
  credits : 0 ≤ next.globalCreditsRemaining
  positive : next.eligible ≠ ∅ → 0 < next.globalCreditsRemaining
  eligible : policy.isRoundOver.1 = true →
    next.eligible = policy.active.filter (0 < policy.weightOf fetcher ·)
  unfinished : policy.isRoundOver.1 = false → next.eligible ≠ ∅
  spent : next.eligible = ∅ →
    ∀ entity ∈ next.waiting, (next.metadata entity).remainingCredits = 0

theorem current_round_ready (consistent : Consistent policy)
    (credits : 0 ≤ policy.globalCreditsRemaining) (fits : policy.Fits fetcher) :
    RoundReady fetcher policy (policy.currentRound fetcher) := by
  obtain ⟨⟨formed, same⟩, unchanged, unfinished⟩ := is_round_over_spec consistent
  unfold Policy.currentRound
  split
  · rename_i over_ checked ended
    rw [ended] at formed same
    obtain ⟨eligible, spent⟩ := reset_eligible fetcher formed
    have eligibleHere : (checked.resetAndRestartRound fetcher).eligible =
        policy.active.filter (0 < policy.weightOf fetcher ·) := by
      rw [eligible, same.active]
      simp only [same.weight fetcher]
    obtain ⟨nonnegative, positive⟩ := reset_credits ((same.fits fetcher).2 fits)
    refine ⟨Kept.trans ⟨formed, same⟩ (reset_kept fetcher formed), nonnegative, fun some_ => ?_,
      fun _ => eligibleHere, by simp [ended], fun _ => spent⟩
    obtain ⟨entity, mem⟩ := Finset.nonempty_iff_ne_empty.2 some_
    rw [eligible, Finset.mem_filter] at mem
    have known : entity ∈ checked.entities := by
      rcases Finset.mem_union.1 mem.1 with mem | mem
      · exact ((formed.sets.eligible entity).1 mem).1
      · exact ((formed.sets.waiting entity).1 mem).1
    exact positive entity known mem.2
  · rename_i over_ checked ended
    rw [ended] at formed same unchanged unfinished
    simp only at unchanged
    obtain ⟨eligible, some_⟩ := unfinished rfl
    exact ⟨⟨formed, same⟩, by omega, fun _ => by omega, by simp [ended], fun _ => eligible,
      fun none_ => absurd none_ eligible⟩

theorem current_round_kept (fetcher : T → Nat) (consistent : Consistent policy) :
    Kept policy (policy.currentRound fetcher) := by
  obtain ⟨kept, -, -⟩ := is_round_over_spec consistent
  unfold Policy.currentRound
  split
  · rename_i ended
    rw [ended] at kept
    exact kept.trans (reset_kept fetcher kept.1)
  · rename_i ended
    rw [ended] at kept
    exact kept

/-- `HasWork` enters the round that would serve the next entity, and looks for one there. -/
theorem has_work_eq (fetcher : T → Nat) (consistent : Consistent policy) :
    policy.hasWork fetcher =
      (decide ((policy.currentRound fetcher).eligible ≠ ∅), policy.currentRound fetcher) := by
  obtain ⟨-, -, unfinished⟩ := is_round_over_spec consistent
  unfold Policy.hasWork Policy.currentRound
  split
  · rfl
  · rename_i ended
    rw [ended] at unfinished
    simp [(unfinished rfl).1]

/-- A round entered by one call is over for the next one if no entity is eligible in it. -/
theorem round_over_of_ready (ready : RoundReady fetcher policy next) :
    next.isRoundOver.1 = decide (next.eligible = ∅) := by
  by_cases eligible : next.eligible = ∅
  · rw [round_over_of_spent eligible (ready.spent eligible), decide_eq_true eligible]
  · have positive := ready.positive eligible
    have credits : next.globalCreditsRemaining ≠ 0 := by omega
    simp [Policy.isRoundOver, credits, eligible]

/-! ## Marks -/

theorem initialize_entity_kept (consistent : Consistent policy)
    (done : policy.initializeEntity fetcher entity = .ok next) :
    Consistent next ∧ next.active = policy.active ∧ entity ∉ policy.active ∧
      next.globalCreditsRemaining = policy.globalCreditsRemaining := by
  obtain ⟨idle, eligible, waiting, goingIdle⟩ := consistent.sets
  have credits := consistent.credits
  have unweighted := consistent.unweighted
  unfold Policy.initializeEntity at done
  split at done
  · cases done
  · rename_i fresh
    cases done
    refine ⟨SetsOfStates.consistent ⟨?_, ?_, ?_, ?_⟩ ?_ ?_, rfl, ?_, rfl⟩
    all_goals
      simp only [Policy.active, Policy.weightOf, Function.update_apply]
      grind

theorem delete_entity_kept (consistent : Consistent policy)
    (done : policy.deleteEntity entity = .ok next) :
    Consistent next ∧ next.active = policy.active.erase entity ∧
      next.globalCreditsRemaining = policy.globalCreditsRemaining := by
  obtain ⟨idle, eligible, waiting, goingIdle⟩ := consistent.sets
  have credits := consistent.credits
  have unweighted := consistent.unweighted
  unfold Policy.deleteEntity at done
  split at done
  · rename_i known
    cases done
    split
    all_goals
      refine ⟨SetsOfStates.consistent ⟨?_, ?_, ?_, ?_⟩ ?_ ?_, ?_, rfl⟩
      all_goals
        simp only [Policy.active]
        grind
  · cases done

theorem mark_entity_active_kept {result : Bool × Policy T} (consistent : Consistent policy)
    (done : policy.markEntityActive entity = .ok result) :
    Consistent result.2 ∧ result.2.active = insert entity policy.active ∧
      result.2.globalCreditsRemaining = policy.globalCreditsRemaining := by
  obtain ⟨idle, eligible, waiting, goingIdle⟩ := consistent.sets
  have credits := consistent.credits
  have unweighted := consistent.unweighted
  unfold Policy.markEntityActive at done
  split at done
  · rename_i known
    simp only at done
    split at done
    · cases done
      refine ⟨consistent, ?_, rfl⟩
      simp only [Policy.active]
      grind
    · cases done
      refine ⟨consistent, ?_, rfl⟩
      simp only [Policy.active]
      grind
    · have refreshed_ : (Policy.refreshed policy.globalRoundNumber (policy.metadata entity)).weight =
          (policy.metadata entity).weight := by
        unfold Policy.refreshed
        split <;> rfl
      split at done
      all_goals
        cases done
        refine ⟨SetsOfStates.consistent ⟨?_, ?_, ?_, ?_⟩ ?_ ?_, ?_, rfl⟩
        all_goals
          simp only [Policy.setMetadata, Policy.active, Function.update_apply]
          grind
    · cases done
      refine ⟨SetsOfStates.consistent ⟨?_, ?_, ?_, ?_⟩ ?_ ?_, ?_, rfl⟩
      all_goals
        simp only [Policy.setMetadata, Policy.active, Function.update_apply]
        grind
  · cases done

theorem mark_entity_inactive_kept {result : Bool × Policy T} (consistent : Consistent policy)
    (done : policy.markEntityInactive entity = .ok result) :
    Consistent result.2 ∧ result.2.active = policy.active.erase entity ∧
      result.2.globalCreditsRemaining = policy.globalCreditsRemaining := by
  obtain ⟨idle, eligible, waiting, goingIdle⟩ := consistent.sets
  have credits := consistent.credits
  have unweighted := consistent.unweighted
  unfold Policy.markEntityInactive at done
  split at done
  · rename_i known
    simp only at done
    split at done
    · cases done
      refine ⟨consistent, ?_, rfl⟩
      simp only [Policy.active]
      grind
    · cases done
      refine ⟨consistent, ?_, rfl⟩
      simp only [Policy.active]
      grind
    all_goals
      cases done
      refine ⟨SetsOfStates.consistent ⟨?_, ?_, ?_, ?_⟩ ?_ ?_, ?_, rfl⟩
      all_goals
        simp only [Policy.setMetadata, Policy.active, Function.update_apply]
        grind
  · cases done

end Sets

/-! ## The next entity -/

section Order
variable [LinearOrder T]

theorem first_of_nonempty {set : Finset T} (nonempty : set ≠ ∅) :
    ∃ entity, first set = some entity ∧ entity ∈ set := by
  have some_ := Finset.nonempty_iff_ne_empty.2 nonempty
  exact ⟨set.min' some_, dif_pos some_, set.min'_mem some_⟩

theorem first_empty : first (∅ : Finset T) = none := by simp [first]

theorem candidate_of_eligible (eligible : policy.eligible ≠ ∅) :
    ∃ entity, policy.candidate = some entity ∧ entity ∈ policy.eligible := by
  obtain ⟨least, found, mem⟩ := first_of_nonempty eligible
  unfold Policy.candidate
  split
  · split
    · rename_i last serviced
      by_cases after : policy.eligible.filter (last < ·) = ∅
      · exact ⟨least, by rw [after, first_empty, Option.none_or, found], mem⟩
      · obtain ⟨entity, foundAfter, memAfter⟩ := first_of_nonempty after
        exact ⟨entity, by rw [foundAfter, Option.some_or], (Finset.mem_filter.1 memAfter).1⟩
    · exact ⟨least, found, mem⟩
  · exact ⟨least, found, mem⟩

theorem candidate_of_none (none_ : policy.eligible = ∅) : policy.candidate = none := by
  unfold Policy.candidate
  simp only [none_, Finset.filter_empty, first_empty, Option.none_or]
  split
  · split <;> rfl
  · rfl

theorem served_kept (consistent : Consistent policy) (serviced : entity ∈ policy.eligible) :
    Kept policy (policy.served entity) := by
  obtain ⟨idle, eligible, waiting, goingIdle⟩ := consistent.sets
  have credits := consistent.credits
  have unweighted := consistent.unweighted
  unfold Policy.served
  simp only
  split
  all_goals
    refine ⟨SetsOfStates.consistent ⟨?_, ?_, ?_, ?_⟩ ?_ ?_, rfl, rfl, ?_⟩
    all_goals simp only [Policy.setMetadata, Policy.active, Function.update_apply] <;> grind

theorem served_credits (policy : Policy T) (entity : T) :
    (policy.served entity).globalCreditsRemaining = policy.globalCreditsRemaining - 1 := by
  unfold Policy.served
  simp only
  split <;> rfl

/-- The call for the next entity never fails, and finds one exactly if the round has an eligible
one; the entity is an active one. -/
theorem get_next_entity_spec (consistent : Consistent policy)
    (credits : 0 ≤ policy.globalCreditsRemaining) (fits : policy.Fits fetcher) :
    ∃ chosen next, policy.getNextEntity fetcher = .ok (chosen, next) ∧ Kept policy next ∧
      0 ≤ next.globalCreditsRemaining ∧
      (chosen = none ↔ (policy.currentRound fetcher).eligible = ∅) ∧
      ∀ entity, chosen = some entity → entity ∈ policy.active := by
  have ready := current_round_ready consistent credits fits
  have same := ready.kept.2.active
  unfold Policy.getNextEntity
  split
  · rename_i inactive
    refine ⟨none, policy, rfl, ⟨consistent, .refl policy⟩, credits, ?_, by simp⟩
    have none_ : (policy.currentRound fetcher).active = ∅ := by
      rw [same, Policy.active, inactive.1, inactive.2, Finset.union_empty]
    simpa using (Finset.union_eq_empty.1 none_).1
  · simp only
    by_cases eligible : (policy.currentRound fetcher).eligible = ∅
    · rw [candidate_of_none eligible]
      exact ⟨none, _, rfl, ready.kept, ready.credits, by simp [eligible], by simp⟩
    · obtain ⟨entity, found, mem⟩ := candidate_of_eligible eligible
      have known := ((ready.kept.1.sets.eligible entity).1 mem).1
      have entityCredits := ready.kept.1.credits entity mem
      have globalCredits := ready.positive eligible
      rw [found]
      simp only [not_true_eq_false, known, if_false, if_neg (Nat.ne_of_gt entityCredits),
        if_neg (not_le.2 globalCredits)]
      refine ⟨some entity, _, rfl, ready.kept.trans (served_kept ready.kept.1 mem), ?_,
        by simp [eligible], ?_⟩
      · rw [served_credits]
        omega
      · rintro other ⟨⟩
        rw [← same]
        exact Finset.mem_union_left _ mem

/-! ## Runs -/

/-- What every interleaving of calls keeps. -/
structure RunInvariant (state : State T) : Prop where
  consistent : Consistent state.policy
  marked : state.policy.active = state.marked

theorem initial_invariant (initial : Initial state) :
    RunInvariant state ∧ state.policy.globalCreditsRemaining = 0 := by
  obtain ⟨fetches, batched, enforceOrder, rfl⟩ := initial
  refine ⟨⟨SetsOfStates.consistent ⟨?_, ?_, ?_, ?_⟩ ?_ ?_, rfl⟩, rfl⟩ <;> simp

theorem kept_invariant (invariant : RunInvariant state) (kept : Kept state.policy policy) :
    RunInvariant { state with policy } :=
  ⟨kept.1, kept.2.active.trans invariant.marked⟩

/-- The entity that a call serves is eligible in the round that it serves from. -/
theorem get_next_entity_kept {result : Option T × Policy T} (consistent : Consistent policy)
    (done : policy.getNextEntity fetcher = .ok result) : Kept policy result.2 := by
  have round := current_round_kept fetcher consistent
  unfold Policy.getNextEntity at done
  split at done
  · cases done
    exact ⟨consistent, .refl policy⟩
  · simp only at done
    by_cases eligible : (policy.currentRound fetcher).eligible = ∅
    · rw [candidate_of_none eligible] at done
      cases done
      exact round
    · obtain ⟨entity, found, mem⟩ := candidate_of_eligible eligible
      rw [found] at done
      simp only at done
      split_ifs at done
      cases done
      exact round.trans (served_kept round.1 mem)

theorem step_invariant {next : State T} (invariant : RunInvariant state) (step : Step state next) :
    RunInvariant next := by
  obtain ⟨operation, done⟩ := step
  obtain ⟨consistent, marked⟩ := id invariant
  cases operation with
  | initializeEntity fetcher entity =>
    obtain ⟨policy, result, rfl⟩ := map_eq_ok.1 done
    obtain ⟨formed, active, -⟩ := initialize_entity_kept consistent result
    exact ⟨formed, active.trans marked⟩
  | deleteEntity entity =>
    obtain ⟨policy, result, rfl⟩ := map_eq_ok.1 done
    obtain ⟨formed, active, -⟩ := delete_entity_kept consistent result
    exact ⟨formed, by rw [active, marked]⟩
  | markEntityActive entity =>
    obtain ⟨policy, result, rfl⟩ := map_eq_ok.1 done
    obtain ⟨formed, active, -⟩ := mark_entity_active_kept consistent result
    exact ⟨formed, by rw [active, marked]⟩
  | markEntityInactive entity =>
    obtain ⟨policy, result, rfl⟩ := map_eq_ok.1 done
    obtain ⟨formed, active, -⟩ := mark_entity_inactive_kept consistent result
    exact ⟨formed, by rw [active, marked]⟩
  | hasWork fetcher =>
    cases done
    rw [has_work_eq fetcher consistent]
    exact kept_invariant invariant (current_round_kept fetcher consistent)
  | resetAndRestartRound fetcher =>
    cases done
    exact kept_invariant invariant (reset_kept fetcher consistent)
  | getNextEntity fetcher =>
    obtain ⟨result, served, rfl⟩ := map_eq_ok.1 done
    exact kept_invariant invariant (get_next_entity_kept consistent served)

/-- Calls that fetch weights of a fitting sum never make the credits of a round negative. -/
theorem step_credits {next : State T} (invariant : RunInvariant state)
    (credits : 0 ≤ state.policy.globalCreditsRemaining) (step : FittingStep state next) :
    0 ≤ next.policy.globalCreditsRemaining := by
  obtain ⟨operation, fits, done⟩ := step
  obtain ⟨consistent, -⟩ := invariant
  cases operation with
  | initializeEntity fetcher entity =>
    obtain ⟨policy, result, rfl⟩ := map_eq_ok.1 done
    exact (initialize_entity_kept consistent result).2.2.2 ▸ credits
  | deleteEntity entity =>
    obtain ⟨policy, result, rfl⟩ := map_eq_ok.1 done
    exact (delete_entity_kept consistent result).2.2 ▸ credits
  | markEntityActive entity =>
    obtain ⟨policy, result, rfl⟩ := map_eq_ok.1 done
    exact (mark_entity_active_kept consistent result).2.2 ▸ credits
  | markEntityInactive entity =>
    obtain ⟨policy, result, rfl⟩ := map_eq_ok.1 done
    exact (mark_entity_inactive_kept consistent result).2.2 ▸ credits
  | hasWork fetcher =>
    cases done
    rw [has_work_eq fetcher consistent]
    exact (current_round_ready consistent credits fits).credits
  | resetAndRestartRound fetcher =>
    cases done
    exact (reset_credits fits).1
  | getNextEntity fetcher =>
    obtain ⟨result, served, rfl⟩ := map_eq_ok.1 done
    obtain ⟨chosen, policy, answer, -, remaining, -⟩ :=
      get_next_entity_spec consistent credits fits
    rw [answer] at served
    cases served
    exact remaining

theorem reachable_invariant (reachable : Runs.Reachable Initial Step state) :
    RunInvariant state := by
  apply Runs.invariant_of_reachable _ _ reachable
  · exact fun state initial => (initial_invariant initial).1
  · exact fun state next invariant step => step_invariant invariant step

theorem fitting_reachable_credits (reachable : Runs.Reachable Initial FittingStep state) :
    RunInvariant state ∧ 0 ≤ state.policy.globalCreditsRemaining := by
  apply Runs.invariant_of_reachable _ _ reachable
  · exact fun state initial => ⟨(initial_invariant initial).1, (initial_invariant initial).2.ge⟩
  · rintro state next ⟨invariant, credits⟩ ⟨operation, fits, done⟩
    exact ⟨step_invariant invariant ⟨operation, done⟩,
      step_credits invariant credits ⟨operation, fits, done⟩⟩

/-- The four sets are a partition of the entities into their recorded states. -/
structure Partitioned (policy : Policy T) : Prop where
  covers : policy.idle ∪ policy.eligible ∪ policy.waiting ∪ policy.waitingGoingIdle =
    policy.entities
  disjoint : ∀ one two, one ≠ two → Disjoint (policy.inState one) (policy.inState two)
  placed : ∀ entity ∈ policy.entities, entity ∈ policy.inState (policy.metadata entity).state

theorem Consistent.partitioned (consistent : Consistent policy) : Partitioned policy := by
  refine ⟨?_, fun one two different => ?_, fun entity known => ?_⟩
  · obtain ⟨idle, eligible, waiting, goingIdle⟩ := consistent.sets
    ext entity
    cases state : (policy.metadata entity).state <;>
      simp [Finset.mem_union, idle, eligible, waiting, goingIdle, state]
  · rw [Finset.disjoint_left]
    intro entity inOne inTwo
    exact different
      (((consistent.member one entity).1 inOne).2.symm.trans
        ((consistent.member two entity).1 inTwo).2)
  · exact (consistent.member _ entity).2 ⟨known, rfl⟩

/-- What `HasWork` with the weights `fetcher` says of a call of `GetNextEntity` that comes next,
with the weights `later`. -/
structure Foretells (policy : Policy T) (marked : Finset T) (fetcher later : T → Nat) : Prop where
  work : (policy.hasWork fetcher).1 = true →
    ∃ entity ∈ marked, ∃ next,
      (policy.hasWork fetcher).2.getNextEntity later = .ok (some entity, next)
  without : (policy.hasWork fetcher).1 = false →
    (∀ entity ∈ marked, policy.weightOf fetcher entity = 0) ∧
    ((∃ entity next, (policy.hasWork fetcher).2.getNextEntity later = .ok (some entity, next)) ↔
      ∃ entity ∈ marked, 0 < policy.weightOf later entity)

theorem has_work_foretells {later : T → Nat} (consistent : Consistent policy)
    (credits : 0 ≤ policy.globalCreditsRemaining) (fits : policy.Fits fetcher)
    (fitsLater : policy.Fits later) : Foretells policy policy.active fetcher later := by
  have ready := current_round_ready consistent credits fits
  have over_ := round_over_of_ready ready
  have fitsNext := (ready.kept.2.fits later).2 fitsLater
  obtain ⟨chosen, next, answer, -, -, nothing, active⟩ :=
    get_next_entity_spec ready.kept.1 ready.credits fitsNext
  have again := current_round_ready ready.kept.1 ready.credits fitsNext
  rw [ready.kept.2.active] at active
  constructor
  · intro work
    rw [has_work_eq fetcher consistent] at work ⊢
    have eligible := of_decide_eq_true work
    have some_ := again.unfinished (by rw [over_]; exact decide_eq_false eligible)
    cases chosen with
    | none => exact absurd (nothing.1 rfl) some_
    | some entity => exact ⟨entity, active entity rfl, next, answer⟩
  · intro idle
    rw [has_work_eq fetcher consistent] at idle ⊢
    have eligible : (policy.currentRound fetcher).eligible = ∅ := by simpa using idle
    have eligibleAgain := again.eligible (by rw [over_]; exact decide_eq_true eligible)
    simp only [ready.kept.2.active, ready.kept.2.weight later] at eligibleAgain
    refine ⟨?_, ?_, ?_⟩
    · have ended : policy.isRoundOver.1 = true := by
        by_contra unfinished
        exact ready.unfinished (by simpa using unfinished) eligible
      have none_ := ready.eligible ended
      rw [eligible, eq_comm, Finset.filter_eq_empty_iff] at none_
      exact fun entity mem => by simpa using none_ mem
    · rintro ⟨entity, after, served⟩
      rw [answer] at served
      cases served
      have some_ : ((policy.currentRound fetcher).currentRound later).eligible ≠ ∅ :=
        fun none_ => by simpa using nothing.2 none_
      rw [eligibleAgain] at some_
      obtain ⟨other, mem⟩ := Finset.nonempty_iff_ne_empty.2 some_
      exact ⟨other, Finset.mem_filter.1 mem⟩
    · rintro ⟨entity, mem, positive⟩
      cases chosen with
      | some chosen => exact ⟨chosen, next, answer⟩
      | none =>
        have none_ := nothing.1 rfl
        rw [eligibleAgain, Finset.filter_eq_empty_iff] at none_
        exact absurd positive (none_ mem)

/-- In every run, the sets partition the entities by their recorded states, eligible ones have
credits, and the active ones are those marked so last. As long as the weights fetched sum up to an
`int`, `GetNextEntity` never fails and `HasWork` foretells what it returns: an active entity if
there is work, and otherwise one only if the weight of an active entity has changed from 0. -/
theorem policy_sound :
    (∀ state : State T, Runs.Reachable Initial Step state → Partitioned state.policy ∧
      (∀ entity ∈ state.policy.eligible,
        0 < (state.policy.metadata entity).remainingCredits) ∧
      state.policy.active = state.marked) ∧
    (∀ state : State T, Runs.Reachable Initial FittingStep state →
      ∀ fetcher, state.policy.Fits fetcher →
        (∃ result, state.policy.getNextEntity fetcher = .ok result) ∧
        ∀ later, state.policy.Fits later →
          Foretells state.policy state.marked fetcher later) := by
  constructor
  · intro state reachable
    obtain ⟨consistent, marked⟩ := reachable_invariant reachable
    exact ⟨consistent.partitioned, consistent.credits, marked⟩
  · intro state reachable fetcher fits
    obtain ⟨⟨consistent, marked⟩, credits⟩ := fitting_reachable_credits reachable
    obtain ⟨chosen, next, answer, -⟩ := get_next_entity_spec consistent credits fits
    refine ⟨⟨_, answer⟩, fun later fitsLater => ?_⟩
    rw [← marked]
    exact has_work_foretells consistent credits fits fitsLater

end Order

/-- A policy of natural numbers without options. -/
theorem empty_initial : Initial (⟨{}, ∅⟩ : State Nat) := ⟨true, false, false, rfl⟩

theorem reachable_of_fitting [LinearOrder T]
    (reachable : Runs.Reachable Initial FittingStep state) : Runs.Reachable Initial Step state := by
  obtain ⟨first, initial, path⟩ := reachable
  exact ⟨first, initial, path.lift id fun _ _ ⟨operation, _, done⟩ => ⟨operation, done⟩⟩

/-- Two entities marked active, of which one was served and marked inactive again. -/
def mixedCalls : List (Operation Nat) :=
  [.initializeEntity (fun _ => 2) 3, .initializeEntity (fun _ => 1) 7, .markEntityActive 3,
    .markEntityActive 7, .hasWork (fun _ => 2), .getNextEntity (fun _ => 2),
    .markEntityInactive 3]

theorem policy_sound_mixed :
    ∃ state : State Nat, (state.marked = {7} ∧ state.policy.waitingGoingIdle = {3}) ∧
      Partitioned state.policy ∧ Foretells state.policy {7} (fun _ => 0) (fun _ => 5) := by
  have tested : (Runs.execute call mixedCalls ⟨{}, ∅⟩).any (fun state => decide
      ((state.marked = {7} ∧ state.policy.waitingGoingIdle = {3}) ∧
        state.policy.Fits (fun _ => 0) ∧ state.policy.Fits (fun _ => 5))) = true := by
    decide +kernel
  obtain ⟨state, reachable, holds⟩ := Runs.reached_with call_step empty_initial tested
  obtain ⟨sets, fits, fitsLater⟩ := of_decide_eq_true holds
  have sound := (policy_sound.2 state reachable _ fits).2 _ fitsLater
  rw [sets.1] at sound
  exact ⟨state, sets, (policy_sound.1 state (reachable_of_fitting reachable)).1, sound⟩

/-- Weights that change from 0 between the two calls give an entity after `HasWork` found no work,
and weights whose sum is no `int` fail a check of `GetNextEntity`. -/
theorem weights_change_or_overflow :
    (∃ state : State Nat, Runs.Reachable Initial Step state ∧
      (state.policy.hasWork fun _ => 0).1 = false ∧
      ((state.policy.hasWork fun _ => 0).2.getNextEntity fun _ => 1).toOption.map Prod.fst =
        some (some 7)) ∧
    (∃ state : State Nat, Runs.Reachable Initial Step state ∧
      ∃ failure, state.policy.getNextEntity (fun _ => 2 ^ 30) = .error failure) := by
  constructor
  · have tested : (Runs.execute call [.initializeEntity (fun _ => 0) 7, .markEntityActive 7]
        ⟨{}, ∅⟩).any (fun state => decide ((state.policy.hasWork fun _ => 0).1 = false ∧
          ((state.policy.hasWork fun _ => 0).2.getNextEntity fun _ => 1).toOption.map Prod.fst =
            some (some 7))) = true := by decide +kernel
    obtain ⟨state, reachable, holds⟩ := Runs.reached_with call_step empty_initial tested
    exact ⟨state, reachable_of_fitting reachable, of_decide_eq_true holds⟩
  · have tested : (Runs.execute call [.initializeEntity (fun _ => 1) 3,
        .initializeEntity (fun _ => 1) 7, .markEntityActive 7] ⟨{}, ∅⟩).any (fun state => decide
          ((state.policy.getNextEntity fun _ => 2 ^ 30).toOption.isNone)) = true := by
      decide +kernel
    obtain ⟨state, reachable, holds⟩ := Runs.reached_with call_step empty_initial tested
    refine ⟨state, reachable_of_fitting reachable, ?_⟩
    cases result : state.policy.getNextEntity (fun _ => 2 ^ 30) with
    | error failure => exact ⟨failure, rfl⟩
    | ok value =>
      rw [result] at holds
      cases holds

end Isekai.RoundRobinProofs
