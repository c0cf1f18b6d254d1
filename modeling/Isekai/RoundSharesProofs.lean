import Isekai.FairShares
import Isekai.RoundRobinProofs
import Isekai.RoundShares

/-! Shares of the rounds of a weighted round robin. What an entity may still get in a round is its
remaining credits, or its weight if it has not been active in the round yet, and the sum of these
never exceeds the global credits, so that no entity is left short when a round is over. That holds
also of round numbers that have left the range of an `int`. -/

namespace Isekai.RoundSharesProofs
open RoundRobinPolicy RoundRobinProofs FairShares
open WeightedRoundRobin (EntityState EntityMetadata PolicyError)

variable {T : Type}
variable {policy next : Policy T} {entity : T} {weights : T → Nat}

/-! ## Credits -/

/-- What an entity may still get in the current round. -/
def left (policy : Policy T) (entity : T) : Nat :=
  if (policy.metadata entity).roundNumber < policy.globalRoundNumber then
    (policy.metadata entity).weight
  else (policy.metadata entity).remainingCredits

/-- The recorded weights are those of the user, no entity has more credits than its weight, and
active ones have their credits of the current round. -/
structure Credited (weights : T → Nat) (policy : Policy T) : Prop where
  weight : ∀ entity ∈ policy.entities,
    (policy.metadata entity).weight = policy.weightOf weights entity
  remaining : ∀ entity ∈ policy.entities,
    (policy.metadata entity).remainingCredits ≤ policy.weightOf weights entity
  current : ∀ entity ∈ policy.entities, (policy.metadata entity).state ≠ .idle →
    ¬ (policy.metadata entity).roundNumber < policy.globalRoundNumber

/-- The same round with the same credits; no entity has left the idle ones. -/
structure SameRound (policy next : Policy T) : Prop where
  weight : ∀ entity, (next.metadata entity).weight = (policy.metadata entity).weight
  remaining : ∀ entity,
    (next.metadata entity).remainingCredits = (policy.metadata entity).remainingCredits
  roundNumber : ∀ entity,
    (next.metadata entity).roundNumber = (policy.metadata entity).roundNumber
  awake : ∀ entity, (next.metadata entity).state ≠ .idle → (policy.metadata entity).state ≠ .idle
  entities : next.entities = policy.entities
  fetches : next.fetches = policy.fetches
  globalRound : next.globalRoundNumber = policy.globalRoundNumber
  globalCredits : next.globalCreditsRemaining = policy.globalCreditsRemaining

theorem same_round_refl (policy : Policy T) : SameRound policy policy :=
  ⟨fun _ => rfl, fun _ => rfl, fun _ => rfl, fun _ => id, rfl, rfl, rfl, rfl⟩

theorem same_round_trans {middle : Policy T} (one : SameRound policy middle)
    (two : SameRound middle next) : SameRound policy next where
  weight entity := (two.weight entity).trans (one.weight entity)
  remaining entity := (two.remaining entity).trans (one.remaining entity)
  roundNumber entity := (two.roundNumber entity).trans (one.roundNumber entity)
  awake entity up := one.awake entity (two.awake entity up)
  entities := two.entities.trans one.entities
  fetches := two.fetches.trans one.fetches
  globalRound := two.globalRound.trans one.globalRound
  globalCredits := two.globalCredits.trans one.globalCredits

theorem left_same (same : SameRound policy next) (entity : T) :
    left next entity = left policy entity := by
  unfold left
  rw [same.weight, same.remaining, same.roundNumber, same.globalRound]

theorem weight_same (same : SameRound policy next) (entity : T) :
    next.weightOf weights entity = policy.weightOf weights entity := by
  unfold Policy.weightOf
  rw [same.fetches]

theorem credited_same (same : SameRound policy next) (credited : Credited weights policy) :
    Credited weights next := by
  refine ⟨fun entity known => ?_, fun entity known => ?_, fun entity known up => ?_⟩ <;>
    rw [same.entities] at known
  · rw [same.weight, weight_same same, credited.weight entity known]
  · rw [same.remaining, weight_same same]
    exact credited.remaining entity known
  · rw [same.roundNumber, same.globalRound]
    exact credited.current entity known (same.awake entity up)

theorem left_le (credited : Credited weights policy) (known : entity ∈ policy.entities) :
    left policy entity ≤ policy.weightOf weights entity := by
  unfold left
  split
  · exact (credited.weight entity known).le
  · exact credited.remaining entity known

/-- What is left of an active entity are its credits. -/
theorem left_awake (credited : Credited weights policy) (known : entity ∈ policy.entities)
    (up : (policy.metadata entity).state ≠ .idle) :
    left policy entity = (policy.metadata entity).remainingCredits :=
  if_neg (credited.current entity known up)

/-- What a call does that changes the credits of no entity and starts no round. -/
structure Steady (weights : T → Nat) (policy next : Policy T) : Prop where
  credited : Credited weights next
  left : ∀ entity ∈ policy.entities, RoundSharesProofs.left next entity =
    RoundSharesProofs.left policy entity
  entities : next.entities = policy.entities
  fetches : next.fetches = policy.fetches
  globalRound : next.globalRoundNumber = policy.globalRoundNumber
  globalCredits : next.globalCreditsRemaining = policy.globalCreditsRemaining

theorem steady_same (same : SameRound policy next) (credited : Credited weights policy) :
    Steady weights policy next :=
  ⟨credited_same same credited, fun entity _ => left_same same entity, same.entities, same.fetches,
    same.globalRound, same.globalCredits⟩

section Sets
variable [DecidableEq T] {policy next : Policy T} {weights : T → Nat} {entity : T}

theorem known_of_active (consistent : Consistent policy) (active : entity ∈ policy.active) :
    entity ∈ policy.entities ∧ (policy.metadata entity).state ≠ .idle := by
  obtain ⟨idle, eligible, waiting, goingIdle⟩ := consistent.sets
  rcases Finset.mem_union.1 active with among | among
  · obtain ⟨known, state⟩ := (eligible entity).1 among
    exact ⟨known, by rw [state]; nofun⟩
  · obtain ⟨known, state⟩ := (waiting entity).1 among
    exact ⟨known, by rw [state]; nofun⟩

/-! ## Sub-rounds -/

theorem retire_same : SameRound policy policy.retireGoingIdle := by
  unfold Policy.retireGoingIdle
  refine ⟨?_, ?_, ?_, ?_, rfl, rfl, rfl, rfl⟩ <;> intro entity <;> dsimp only <;> split <;> simp

theorem raise_same (consistent : Consistent policy) : SameRound policy policy.raiseWaiting := by
  obtain ⟨idle, eligible, waiting, goingIdle⟩ := consistent.sets
  unfold Policy.raiseWaiting
  refine ⟨?_, ?_, ?_, ?_, rfl, rfl, rfl, rfl⟩ <;> intro entity <;> dsimp only
  · split <;> rfl
  · split <;> rfl
  · split <;> rfl
  · by_cases raised : entity ∈ policy.waiting.filter
        fun entity => 0 < (policy.metadata entity).remainingCredits
    · have state := ((waiting entity).1 (Finset.mem_filter.1 raised).1).2
      intro _
      rw [state]
      nofun
    · rw [if_neg raised]
      exact id

theorem sub_round_same (consistent : Consistent policy) :
    SameRound policy policy.startSubRound :=
  same_round_trans (raise_same consistent) retire_same

theorem round_over_same (consistent : Consistent policy) :
    SameRound policy policy.isRoundOver.2 := by
  unfold Policy.isRoundOver
  split_ifs
  · exact same_round_refl policy
  · exact same_round_refl policy
  · exact same_round_refl policy
  · exact sub_round_same consistent
  · exact sub_round_same consistent

/-- When a round is over an active entity has nothing left of it. -/
theorem spent_of_over (consistent : Consistent policy) (credited : Credited weights policy)
    (covered : policy.globalCreditsRemaining = 0 →
      ∀ entity ∈ policy.entities, left policy entity = 0)
    (over_ : policy.isRoundOver.1 = true) (active : entity ∈ policy.active) :
    left policy entity = 0 := by
  obtain ⟨known, up⟩ := known_of_active consistent active
  have same := sub_round_same consistent
  unfold Policy.isRoundOver at over_
  by_cases credits : policy.globalCreditsRemaining = 0
  · exact covered credits entity known
  rw [if_neg credits] at over_
  by_cases eligible : policy.eligible ≠ ∅
  · rw [if_pos eligible] at over_
    exact absurd over_ (by simp)
  have none : policy.eligible = ∅ := not_not.1 eligible
  have waits : entity ∈ policy.waiting := by
    rw [Policy.active, none, Finset.empty_union] at active
    exact active
  rw [if_neg eligible, if_neg (Finset.ne_empty_of_mem waits)] at over_
  by_cases ended : policy.startSubRound.eligible = ∅
  · rw [left_awake credited known up]
    by_contra some_
    have raised : entity ∈ policy.startSubRound.eligible := by
      refine Finset.mem_union_right _ (Finset.mem_filter.2 ⟨waits, ?_⟩)
      omega
    rw [ended] at raised
    exact absurd raised (Finset.notMem_empty entity)
  · rw [if_neg ended] at over_
    exact absurd over_ (by simp)

/-! ## New rounds -/

theorem wrap_succ_ne (round : Int) : wrapInt (round + 1) ≠ round := by
  unfold wrapInt
  rw [Int.bmod_def]
  omega

theorem reset_number (consistent : Consistent policy) (weights : T → Nat) (entity : T) :
    ((policy.resetAndRestartRound weights).metadata entity).remainingCredits =
        (if entity ∈ policy.active then policy.weightOf weights entity
          else (policy.metadata entity).remainingCredits) ∧
      ((policy.resetAndRestartRound weights).metadata entity).roundNumber =
        (if entity ∈ policy.active then wrapInt (policy.globalRoundNumber + 1)
          else (policy.metadata entity).roundNumber) ∧
      (entity ∈ policy.entities →
        ((policy.resetAndRestartRound weights).metadata entity).weight =
          policy.weightOf weights entity) := by
  obtain ⟨idle, eligible, waiting, goingIdle⟩ := consistent.sets
  have unweighted := consistent.unweighted
  simp only [Policy.resetAndRestartRound, Policy.retireGoingIdle, Policy.renewWaiting,
    Policy.renewEligible, Policy.fetchWeights, Policy.renewed, Policy.active, Policy.weightOf]
  refine ⟨?_, ?_, ?_⟩ <;> grind

theorem reset_active (consistent : Consistent policy) (known : entity ∈ policy.entities)
    (up : ((policy.resetAndRestartRound weights).metadata entity).state ≠ .idle) :
    entity ∈ policy.active := by
  obtain ⟨formed, same⟩ := reset_kept weights consistent
  rw [← same.active]
  rw [← same.entities] at known
  have placed := (formed.member _ entity).2 ⟨known, rfl⟩
  cases state : ((policy.resetAndRestartRound weights).metadata entity).state <;>
    rw [state] at placed
  case idle => exact absurd state up
  case eligible => exact Finset.mem_union_left _ placed
  case waiting => exact Finset.mem_union_right _ placed
  case waitingGoingIdle => exact absurd placed (Finset.notMem_empty entity)

/-- A new round gives every active entity its share, and no entity more. -/
theorem credited_reset (consistent : Consistent policy) (credited : Credited weights policy) :
    Credited weights (policy.resetAndRestartRound weights) ∧
      ∀ entity ∈ policy.active, left (policy.resetAndRestartRound weights) entity =
        policy.weightOf weights entity := by
  have share (entity : T) : (policy.resetAndRestartRound weights).weightOf weights entity =
      policy.weightOf weights entity := rfl
  have formed : Credited weights (policy.resetAndRestartRound weights) := by
    constructor <;> intro entity known
    · exact (reset_number consistent weights entity).2.2 known
    · rw [share, (reset_number consistent weights entity).1]
      split
      · exact le_rfl
      · exact credited.remaining entity known
    · intro up
      have active := reset_active consistent known up
      rw [(reset_number consistent weights entity).2.1, if_pos active]
      exact lt_irrefl _
  refine ⟨formed, fun entity active => ?_⟩
  obtain ⟨known, -⟩ := known_of_active consistent active
  have number := (reset_number consistent weights entity).2.1
  have remaining := (reset_number consistent weights entity).1
  rw [if_pos active] at number remaining
  unfold left
  rw [number, remaining]
  exact if_neg (lt_irrefl _)

/-! ## Marks -/

theorem refreshed_credits (round : Int) (metadata : EntityMetadata) :
    (Policy.refreshed round metadata).weight = metadata.weight ∧
      (Policy.refreshed round metadata).remainingCredits =
        (if metadata.roundNumber < round then metadata.weight else metadata.remainingCredits) ∧
      ¬ (Policy.refreshed round metadata).roundNumber < round := by
  unfold Policy.refreshed
  split
  · exact ⟨rfl, rfl, lt_irrefl _⟩
  · exact ⟨rfl, rfl, ‹_›⟩

/-- Only the record of one entity changes. -/
theorem steady_of_record {metadata : EntityMetadata} (credited : Credited weights policy)
    (changed : next.metadata = Function.update policy.metadata entity metadata)
    (weight : metadata.weight = (policy.metadata entity).weight)
    (remaining : metadata.remainingCredits = left policy entity)
    (current : ¬ metadata.roundNumber < policy.globalRoundNumber)
    (entities : next.entities = policy.entities) (fetches : next.fetches = policy.fetches)
    (globalRound : next.globalRoundNumber = policy.globalRoundNumber)
    (globalCredits : next.globalCreditsRemaining = policy.globalCreditsRemaining) :
    Steady weights policy next := by
  have share (other : T) : next.weightOf weights other = policy.weightOf weights other := by
    unfold Policy.weightOf
    rw [fetches]
  refine ⟨⟨?_, ?_, ?_⟩, ?_, entities, fetches, globalRound, globalCredits⟩ <;> intro other known
  · rw [entities] at known
    rw [share, changed, ← credited.weight other known]
    by_cases here : other = entity
    · rw [here, Function.update_self, weight]
    · rw [Function.update_of_ne here]
  · rw [entities] at known
    rw [share, changed]
    by_cases here : other = entity
    · rw [here, Function.update_self, remaining, ← here]
      exact left_le credited known
    · rw [Function.update_of_ne here]
      exact credited.remaining other known
  · intro up
    rw [entities] at known
    rw [changed] at up ⊢
    rw [globalRound]
    by_cases here : other = entity
    · rw [here, Function.update_self]
      exact current
    · rw [Function.update_of_ne here] at up ⊢
      exact credited.current other known up
  · by_cases here : other = entity
    · subst here
      rw [left, changed, Function.update_self, globalRound, if_neg current, remaining]
    · unfold left
      rw [changed, Function.update_of_ne here, globalRound]

theorem mark_active_steady {result : Bool × Policy T} (credited : Credited weights policy)
    (done : policy.markEntityActive entity = .ok result) : Steady weights policy result.2 := by
  unfold Policy.markEntityActive at done
  by_cases known : entity ∈ policy.entities
  · rw [if_pos known] at done
    obtain ⟨weight, remaining, current⟩ :=
      refreshed_credits policy.globalRoundNumber (policy.metadata entity)
    cases state : (policy.metadata entity).state <;> simp only [state] at done
    case idle =>
      split at done <;> cases done <;>
        exact steady_of_record credited rfl weight remaining current rfl rfl rfl rfl
    case eligible | waiting =>
      cases done
      exact steady_same (same_round_refl policy) credited
    case waitingGoingIdle =>
      cases done
      have up : (policy.metadata entity).state ≠ .idle := by rw [state]; nofun
      exact steady_of_record credited rfl rfl (left_awake credited known up).symm
        (credited.current entity known up) rfl rfl rfl rfl
  · rw [if_neg known] at done
    exact absurd done nofun

theorem mark_inactive_steady {result : Bool × Policy T} (credited : Credited weights policy)
    (done : policy.markEntityInactive entity = .ok result) : Steady weights policy result.2 := by
  unfold Policy.markEntityInactive at done
  by_cases known : entity ∈ policy.entities
  · rw [if_pos known] at done
    cases state : (policy.metadata entity).state <;> simp only [state] at done
    case idle | waitingGoingIdle =>
      cases done
      exact steady_same (same_round_refl policy) credited
    all_goals
      cases done
      have up : (policy.metadata entity).state ≠ .idle := by rw [state]; nofun
      exact steady_of_record credited rfl rfl (left_awake credited known up).symm
        (credited.current entity known up) rfl rfl rfl rfl
  · rw [if_neg known] at done
    exact absurd done nofun

end Sets

/-! ## Services -/

section Order
variable [LinearOrder T] {policy : Policy T} {weights : T → Nat} {entity : T}

theorem served_record (policy : Policy T) (entity : T) : ∃ state,
    (policy.served entity).metadata = Function.update policy.metadata entity
      { policy.metadata entity with
        remainingCredits := (policy.metadata entity).remainingCredits - 1
        state } ∧
    (state = (policy.metadata entity).state ∨ state = .waiting) ∧
    (policy.served entity).entities = policy.entities ∧
    (policy.served entity).fetches = policy.fetches ∧
    (policy.served entity).globalRoundNumber = policy.globalRoundNumber := by
  unfold Policy.served
  dsimp only
  split
  · exact ⟨_, rfl, .inr rfl, rfl, rfl, rfl⟩
  · exact ⟨_, rfl, .inl rfl, rfl, rfl, rfl⟩

/-- What a service does to the credits. -/
theorem served_credited (consistent : Consistent policy) (credited : Credited weights policy)
    (eligible : entity ∈ policy.eligible) :
    Credited weights (policy.served entity) ∧
      left policy entity = left (policy.served entity) entity + 1 ∧
      ∀ other, other ≠ entity → left (policy.served entity) other = left policy other := by
  obtain ⟨state, record, -, entities, fetches, round⟩ := served_record policy entity
  obtain ⟨known, awake⟩ := (consistent.sets.eligible entity).1 eligible
  have up : (policy.metadata entity).state ≠ .idle := by rw [awake]; nofun
  have credits := consistent.credits entity eligible
  have current := credited.current entity known up
  have share (other : T) :
      (policy.served entity).weightOf weights other = policy.weightOf weights other := by
    unfold Policy.weightOf
    rw [fetches]
  refine ⟨⟨?_, ?_, ?_⟩, ?_, ?_⟩
  · intro other among
    rw [entities] at among
    rw [share, record, ← credited.weight other among]
    by_cases here : other = entity
    · rw [here, Function.update_self]
    · rw [Function.update_of_ne here]
  · intro other among
    rw [entities] at among
    have before := credited.remaining other among
    rw [share, record]
    by_cases here : other = entity
    · subst here
      rw [Function.update_self]
      dsimp only
      omega
    · rw [Function.update_of_ne here]
      exact before
  · intro other among still
    rw [entities] at among
    rw [record] at still ⊢
    rw [round]
    by_cases here : other = entity
    · subst here
      rw [Function.update_self]
      exact current
    · rw [Function.update_of_ne here] at still ⊢
      exact credited.current other among still
  · rw [left_awake credited known up, left, record, Function.update_self, round, if_neg current]
    dsimp only
    omega
  · intro other here
    unfold left
    rw [record, Function.update_of_ne here, round]

/-! ## Rounds -/

/-- A round as its shares see it. -/
def ledger (rounds : Rounds T) : Round T :=
  ⟨left rounds.policy, rounds.returned, rounds.policy.globalCreditsRemaining⟩

/-- What every run keeps. -/
structure Accounted (weights : T → Nat) (rounds : Rounds T) : Prop where
  consistent : Consistent rounds.policy
  credited : Credited weights rounds.policy
  sound : rounds.policy.Fits weights → 0 < rounds.round →
    Sound rounds.policy.entities (rounds.policy.weightOf weights) (ledger rounds)
  fresh : rounds.round = 0 →
    rounds.policy.globalCreditsRemaining = 0 ∧ ∀ entity, rounds.returned entity = 0
  unknown : ∀ entity ∉ rounds.policy.entities, rounds.returned entity = 0
  since : ∀ entity, rounds.activeSince entity ≠ none ↔ entity ∈ rounds.policy.active
  stayed : ∀ entity since, rounds.activeSince entity = some since → since < rounds.round →
    Whole (rounds.policy.weightOf weights) (ledger rounds) entity

variable {rounds : Rounds T} {next middle : Policy T} {returned : Option T}

@[simp] theorem after_policy : (rounds.after returned next).policy = next := rfl

theorem since_after (since : ∀ entity, rounds.activeSince entity ≠ none ↔
      entity ∈ rounds.policy.active) (entity : T) :
    (rounds.after returned next).activeSince entity ≠ none ↔ entity ∈ next.active := by
  unfold Rounds.after
  dsimp only
  by_cases active : entity ∈ next.active
  · rw [if_pos active]
    by_cases before : entity ∈ rounds.policy.active
    · rw [if_pos before]
      exact ⟨fun _ => active, fun _ => (since entity).2 before⟩
    · rw [if_neg before]
      exact ⟨fun _ => active, fun _ => nofun⟩
  · rw [if_neg active]
    exact ⟨fun some_ => absurd rfl some_, fun among => absurd among active⟩

theorem stayed_before {since : Nat}
    (found : (rounds.after returned next).activeSince entity = some since)
    (earlier : since < rounds.roundAfter next) :
    entity ∈ next.active ∧ entity ∈ rounds.policy.active ∧
      rounds.activeSince entity = some since := by
  unfold Rounds.after at found
  dsimp only at found
  by_cases active : entity ∈ next.active
  · rw [if_pos active] at found
    by_cases before : entity ∈ rounds.policy.active
    · rw [if_pos before] at found
      exact ⟨active, before, found⟩
    · rw [if_neg before] at found
      cases found
      exact absurd earlier (lt_irrefl _)
  · rw [if_neg active] at found
    exact absurd found nofun

/-- In a round that goes on nothing is returned but what the call returns. -/
theorem after_same (same : next.globalRoundNumber = rounds.policy.globalRoundNumber) :
    (rounds.after returned next).round = rounds.round ∧
      rounds.roundAfter next = rounds.round ∧
      ∀ entity, (rounds.after returned next).returned entity =
        rounds.returned entity + if returned = some entity then 1 else 0 := by
  unfold Rounds.after Rounds.roundAfter
  dsimp only
  rw [if_pos same]
  exact ⟨rfl, rfl, fun entity => by rw [if_pos same]⟩

theorem accounted_steady (accounted : Accounted weights rounds) (formed : Consistent next)
    (steady : Steady weights rounds.policy next) : Accounted weights (rounds.after none next) := by
  obtain ⟨round, roundAfter, returned⟩ := @after_same _ _ rounds next none steady.globalRound
  have nothing (entity : T) : (rounds.after none next).returned entity = rounds.returned entity :=
    returned entity
  have share (entity : T) :
      next.weightOf weights entity = rounds.policy.weightOf weights entity := by
    unfold Policy.weightOf
    rw [steady.fetches]
  have fits : next.Fits weights ↔ rounds.policy.Fits weights := by
    simp only [Policy.Fits, steady.entities, share]
  refine ⟨formed, steady.credited, ?_, ?_, ?_, since_after accounted.since, ?_⟩
  · intro small started
    rw [round] at started
    obtain ⟨shares, covered⟩ := accounted.sound (fits.1 small) started
    refine ⟨fun entity known => ?_, ?_⟩
    · have known : entity ∈ rounds.policy.entities := steady.entities ▸ known
      have before := shares entity known
      dsimp only [ledger] at before ⊢
      rw [nothing, after_policy, share, steady.left entity known]
      exact before
    · have sums : ∑ entity ∈ next.entities, left next entity =
          ∑ entity ∈ rounds.policy.entities, left rounds.policy entity := by
        rw [steady.entities]
        exact Finset.sum_congr rfl steady.left
      dsimp only [ledger, Rounds.after] at covered ⊢
      rw [sums, steady.globalCredits]
      exact covered
  · intro first
    rw [round] at first
    obtain ⟨credits, none⟩ := accounted.fresh first
    exact ⟨steady.globalCredits.trans credits, fun entity => (nothing entity).trans (none entity)⟩
  · intro entity unknown
    rw [nothing]
    exact accounted.unknown entity (steady.entities ▸ unknown)
  · intro entity since found earlier
    rw [round] at earlier
    obtain ⟨-, before, same⟩ := stayed_before found (roundAfter ▸ earlier)
    have whole := accounted.stayed entity since same earlier
    have known := (known_of_active accounted.consistent before).1
    unfold Whole at whole ⊢
    dsimp only [ledger] at whole ⊢
    rw [nothing, after_policy, share, steady.left entity known]
    exact whole

/-- A new round, in which nothing has been returned yet. -/
theorem accounted_restart (accounted : Accounted weights rounds) :
    Accounted weights (rounds.after none (rounds.policy.resetAndRestartRound weights)) ∧
      (rounds.after none (rounds.policy.resetAndRestartRound weights)).round =
        rounds.round + 1 := by
  obtain ⟨formed, same⟩ := reset_kept weights accounted.consistent
  obtain ⟨credited, whole⟩ := credited_reset accounted.consistent accounted.credited
  have other : (rounds.policy.resetAndRestartRound weights).globalRoundNumber ≠
      rounds.policy.globalRoundNumber := wrap_succ_ne _
  have round : (rounds.after none (rounds.policy.resetAndRestartRound weights)).round =
      rounds.round + 1 := if_neg other
  have nothing (entity : T) :
      (rounds.after none (rounds.policy.resetAndRestartRound weights)).returned entity = 0 := by
    unfold Rounds.after
    dsimp only
    rw [if_neg other]
    rfl
  refine ⟨⟨formed, credited, ?_, ?_, fun entity _ => nothing entity, since_after accounted.since,
    ?_⟩, round⟩
  · intro small _
    have given : (rounds.after none (rounds.policy.resetAndRestartRound weights)).returned =
        fun _ => 0 := funext nothing
    unfold ledger
    rw [given]
    refine sound_restart (fun entity known => left_le credited known) ?_
    rw [← wrap_int_of_fits small]
    simp only [Nat.cast_sum]
    rfl
  · intro first
    rw [round] at first
    exact absurd first (Nat.succ_ne_zero _)
  · intro entity since found earlier
    have number : rounds.roundAfter (rounds.policy.resetAndRestartRound weights) =
        rounds.round + 1 := if_neg other
    rw [round, ← number] at earlier
    obtain ⟨-, active, -⟩ := stayed_before found earlier
    unfold Whole ledger
    dsimp only
    rw [nothing, Nat.zero_add]
    exact whole entity active

theorem takes_served (accounted : Accounted weights rounds)
    (eligible : entity ∈ rounds.policy.eligible) :
    Takes (ledger rounds) (ledger (rounds.after (some entity) (rounds.policy.served entity)))
      entity := by
  obtain ⟨-, given, others⟩ :=
    served_credited accounted.consistent accounted.credited eligible
  obtain ⟨state, -, -, -, -, same⟩ := served_record rounds.policy entity
  obtain ⟨-, -, returned⟩ :=
    @after_same _ _ rounds (rounds.policy.served entity) (some entity) same
  refine ⟨given, (returned entity).trans (by rw [if_pos rfl]; rfl), others, fun other here => ?_,
    served_credits rounds.policy entity⟩
  refine (returned other).trans ?_
  rw [if_neg fun same => here (Option.some.inj same).symm]
  rfl

/-- A service, in a round that has been started. -/
theorem accounted_served (accounted : Accounted weights rounds) (started : 0 < rounds.round)
    (eligible : entity ∈ rounds.policy.eligible) :
    Accounted weights (rounds.after (some entity) (rounds.policy.served entity)) := by
  obtain ⟨formed, kept⟩ := served_kept accounted.consistent eligible
  obtain ⟨credited, -, -⟩ := served_credited accounted.consistent accounted.credited eligible
  obtain ⟨state, -, -, -, -, same⟩ := served_record rounds.policy entity
  obtain ⟨round, roundAfter, returned⟩ :=
    @after_same _ _ rounds (rounds.policy.served entity) (some entity) same
  have takes := takes_served accounted eligible
  have known := ((accounted.consistent.sets.eligible entity).1 eligible).1
  have share : (rounds.policy.served entity).weightOf weights =
      rounds.policy.weightOf weights := funext (kept.weight weights)
  refine ⟨formed, credited, ?_, ?_, ?_, since_after accounted.since, ?_⟩
  · intro small _
    have sound := accounted.sound ((kept.fits weights).1 small) started
    rw [after_policy, kept.entities, share]
    exact sound_takes takes known sound
  · intro first
    rw [round] at first
    omega
  · intro other unknown
    rw [after_policy, kept.entities] at unknown
    have here : some entity ≠ some other := by
      rintro ⟨⟩
      exact unknown known
    rw [returned, if_neg here]
    exact accounted.unknown other unknown
  · intro other since found earlier
    rw [round] at earlier
    obtain ⟨-, -, before⟩ := stayed_before found (roundAfter ▸ earlier)
    rw [after_policy, share]
    exact whole_takes takes (accounted.stayed other since before earlier)

/-- Two changes of the policy in one call, of which at most one starts a round. -/
theorem after_twice (active : middle.active = rounds.policy.active)
    (one : middle.globalRoundNumber = rounds.policy.globalRoundNumber ∨
      next.globalRoundNumber = middle.globalRoundNumber) :
    (rounds.after none middle).after returned next = rounds.after returned next := by
  unfold Rounds.after Rounds.roundAfter
  dsimp only
  rw [active]
  rcases one with same | same
  · simp only [same, if_true]
    congr 1
    funext entity
    by_cases before : entity ∈ rounds.policy.active <;> simp [before]
  · simp only [same, if_true]
    congr 1
    funext entity
    by_cases before : entity ∈ rounds.policy.active <;> simp [before]

/-- The round that serves the next entity: the current one, or a new one if that is over. -/
theorem current_round_cases (rounds : Rounds T) (weights : T → Nat) :
    (rounds.policy.isRoundOver.1 = false ∧
      rounds.policy.currentRound weights = rounds.policy.isRoundOver.2) ∨
    rounds.policy.isRoundOver.1 = true ∧
      rounds.policy.currentRound weights =
        rounds.policy.isRoundOver.2.resetAndRestartRound weights := by
  unfold Policy.currentRound
  cases checked : rounds.policy.isRoundOver with
  | mk over_ policy =>
    cases over_ with
    | false => exact .inl ⟨rfl, rfl⟩
    | true => exact .inr ⟨rfl, rfl⟩

theorem accounted_checked (accounted : Accounted weights rounds) :
    Accounted weights (rounds.after none rounds.policy.isRoundOver.2) :=
  accounted_steady accounted (is_round_over_spec accounted.consistent).1.1
    (steady_same (round_over_same accounted.consistent) accounted.credited)

theorem accounted_current (accounted : Accounted weights rounds) :
    Accounted weights (rounds.after none (rounds.policy.currentRound weights)) := by
  have checked := accounted_checked accounted
  rcases current_round_cases rounds weights with ⟨-, same⟩ | ⟨-, same⟩
  · rw [same]
    exact checked
  · have active := (is_round_over_spec accounted.consistent).1.2.active
    have round := (round_over_same accounted.consistent).globalRound
    rw [same, ← after_twice active (.inl round)]
    exact (accounted_restart checked).1

/-- What the call for the next entity does. -/
theorem get_next_cases {result : Option T × Policy T}
    (done : policy.getNextEntity weights = .ok result) :
    result = (none, policy) ∨ result = (none, policy.currentRound weights) ∨
      ∃ entity ∈ (policy.currentRound weights).eligible,
        0 < (policy.currentRound weights).globalCreditsRemaining ∧
        result = (some entity, (policy.currentRound weights).served entity) := by
  unfold Policy.getNextEntity at done
  split at done
  · cases done
    exact .inl rfl
  · dsimp only at done
    by_cases eligible : (policy.currentRound weights).eligible = ∅
    · rw [candidate_of_none eligible] at done
      cases done
      exact .inr (.inl rfl)
    · obtain ⟨entity, found, among⟩ := candidate_of_eligible eligible
      rw [found] at done
      dsimp only at done
      split_ifs at done with unknown spent exhausted
      cases done
      exact .inr (.inr ⟨entity, among, not_le.1 exhausted, rfl⟩)

theorem started_of_credits (accounted : Accounted weights rounds)
    (credits : 0 < rounds.policy.globalCreditsRemaining) : 0 < rounds.round := by
  rcases Nat.eq_zero_or_pos rounds.round with first | started
  · have none := (accounted.fresh first).1
    omega
  · exact started

theorem accounted_get_next {result : Option T × Policy T} (accounted : Accounted weights rounds)
    (done : rounds.policy.getNextEntity weights = .ok result) :
    Accounted weights (rounds.after result.1 result.2) := by
  rcases get_next_cases done with rfl | rfl | ⟨entity, eligible, credits, rfl⟩
  · exact accounted_steady accounted accounted.consistent
      (steady_same (same_round_refl _) accounted.credited)
  · exact accounted_current accounted
  · have current := accounted_current accounted
    have active := (current_round_kept weights accounted.consistent).2.active
    obtain ⟨state, -, -, -, -, same⟩ :=
      served_record (rounds.policy.currentRound weights) entity
    rw [← after_twice active (.inr same)]
    exact accounted_served current (started_of_credits current credits) eligible

theorem initialize_entity_record (done : policy.initializeEntity weights entity = .ok next) :
    next.metadata = Function.update policy.metadata entity
        ⟨.idle, policy.weightOf weights entity, 0, -1⟩ ∧
      next.entities = insert entity policy.entities ∧ next.fetches = policy.fetches ∧
      next.globalRoundNumber = policy.globalRoundNumber := by
  unfold Policy.initializeEntity at done
  by_cases known : entity ∈ policy.entities
  · rw [if_pos known] at done
    exact absurd done nofun
  · rw [if_neg known] at done
    cases done
    exact ⟨rfl, rfl, rfl, rfl⟩

theorem credited_initialize (credited : Credited weights policy)
    (done : policy.initializeEntity weights entity = .ok next) : Credited weights next := by
  obtain ⟨record, entities, fetches, round⟩ := initialize_entity_record done
  have share (other : T) : next.weightOf weights other = policy.weightOf weights other := by
    unfold Policy.weightOf
    rw [fetches]
  constructor <;> intro other among <;> rw [entities] at among
  · rw [share, record]
    by_cases here : other = entity
    · rw [here, Function.update_self]
    · rw [Function.update_of_ne here]
      exact credited.weight other (Finset.mem_of_mem_insert_of_ne among here)
  · rw [share, record]
    by_cases here : other = entity
    · rw [here, Function.update_self]
      exact Nat.zero_le _
    · rw [Function.update_of_ne here]
      exact credited.remaining other (Finset.mem_of_mem_insert_of_ne among here)
  · intro up
    rw [record] at up ⊢
    rw [round]
    by_cases here : other = entity
    · rw [here, Function.update_self] at up
      exact absurd rfl up
    · rw [Function.update_of_ne here] at up ⊢
      exact credited.current other (Finset.mem_of_mem_insert_of_ne among here) up

theorem accounted_initialize (accounted : Accounted weights rounds) (first : rounds.round = 0)
    (done : rounds.policy.initializeEntity weights entity = .ok next) :
    Accounted weights (rounds.after none next) := by
  obtain ⟨formed, active, -, credits⟩ := initialize_entity_kept accounted.consistent done
  obtain ⟨-, -, -, same⟩ := initialize_entity_record done
  obtain ⟨round, -, returned⟩ := @after_same _ _ rounds next none same
  obtain ⟨spent, nothing⟩ := accounted.fresh first
  have still (other : T) : (rounds.after none next).returned other = 0 :=
    (returned other).trans (nothing other)
  refine ⟨formed, credited_initialize accounted.credited done, ?_, fun _ => ⟨credits.trans spent,
    still⟩, fun other _ => still other, since_after accounted.since, ?_⟩
  · intro _ started
    rw [round, first] at started
    exact absurd started (lt_irrefl 0)
  · intro other since _ earlier
    rw [round, first] at earlier
    exact absurd earlier (Nat.not_lt_zero since)

theorem step_accounted {after : Rounds T} (accounted : Accounted weights rounds)
    (taken : Rounds.Step weights rounds after) : Accounted weights after := by
  obtain ⟨call, allowed, done⟩ := taken
  obtain ⟨result, responded, rfl⟩ := map_eq_ok.1 done
  have consistent := accounted.consistent
  cases call with
  | initializeEntity entity =>
    obtain ⟨policy, initialized, rfl⟩ := map_eq_ok.1 responded
    exact accounted_initialize accounted allowed initialized
  | markEntityActive entity =>
    obtain ⟨answer, marked, rfl⟩ := map_eq_ok.1 responded
    exact accounted_steady accounted (mark_entity_active_kept consistent marked).1
      (mark_active_steady accounted.credited marked)
  | markEntityInactive entity =>
    obtain ⟨answer, marked, rfl⟩ := map_eq_ok.1 responded
    exact accounted_steady accounted (mark_entity_inactive_kept consistent marked).1
      (mark_inactive_steady accounted.credited marked)
  | hasWork =>
    cases responded
    rw [has_work_eq weights consistent]
    exact accounted_current accounted
  | resetAndRestartRound =>
    cases responded
    exact (accounted_restart accounted).1
  | getNextEntity => exact accounted_get_next accounted responded

theorem initial_accounted (initial : Rounds.Initial rounds) : Accounted weights rounds := by
  obtain ⟨fetches, batched, enforceOrder, rfl⟩ := initial
  have state : RoundRobinPolicy.Initial (⟨{ fetches, batched, enforceOrder }, ∅⟩ : State T) :=
    ⟨fetches, batched, enforceOrder, rfl⟩
  have formed := (initial_invariant state).1.consistent
  refine ⟨formed, ⟨?_, ?_, ?_⟩, ?_, fun _ => ⟨rfl, fun _ => rfl⟩, fun _ _ => rfl, ?_, ?_⟩
  · exact fun entity among => absurd among (Finset.notMem_empty entity)
  · exact fun entity among => absurd among (Finset.notMem_empty entity)
  · exact fun entity among => absurd among (Finset.notMem_empty entity)
  · exact fun _ started => absurd started (lt_irrefl 0)
  · exact fun entity =>
      ⟨fun some_ => absurd rfl some_, fun active => absurd active (Finset.notMem_empty entity)⟩
  · exact fun entity since found => absurd found nofun

theorem reachable_accounted
    (reached : Runs.Reachable Rounds.Initial (Rounds.Step weights) rounds) :
    Accounted weights rounds := by
  refine Runs.invariant_of_reachable ?_ ?_ reached
  · exact fun _ initial => initial_accounted initial
  · exact fun _ _ accounted taken => step_accounted accounted taken

/-! ## The end of a round -/

theorem steady_round {result : Bool × Policy T} (credited : Credited weights policy)
    (done : policy.markEntityActive entity = .ok result ∨
      policy.markEntityInactive entity = .ok result) :
    result.2.globalRoundNumber = policy.globalRoundNumber := by
  rcases done with active | inactive
  · exact (mark_active_steady credited active).globalRound
  · exact (mark_inactive_steady credited inactive).globalRound

/-- A round is ended by its user, or by the policy when it is over. -/
theorem over_of_ends {call : Call T} {after : Rounds T} (accounted : Accounted weights rounds)
    (ends : Rounds.Ends weights rounds call after) :
    call = .resetAndRestartRound ∨ rounds.policy.isRoundOver.1 = true := by
  obtain ⟨done, other⟩ := ends
  obtain ⟨result, responded, rfl⟩ := map_eq_ok.1 done
  have moved : result.2.globalRoundNumber ≠ rounds.policy.globalRoundNumber :=
    fun same => other (after_same same).1
  have consistent := accounted.consistent
  have current : (rounds.policy.currentRound weights).globalRoundNumber ≠
      rounds.policy.globalRoundNumber → rounds.policy.isRoundOver.1 = true := by
    intro elsewhere
    rcases current_round_cases rounds weights with ⟨-, same⟩ | ⟨over_, -⟩
    · rw [same] at elsewhere
      exact absurd (round_over_same consistent).globalRound elsewhere
    · exact over_
  cases call with
  | initializeEntity entity =>
    obtain ⟨policy, initialized, rfl⟩ := map_eq_ok.1 responded
    exact absurd (initialize_entity_record initialized).2.2.2 moved
  | markEntityActive entity =>
    obtain ⟨answer, marked, rfl⟩ := map_eq_ok.1 responded
    exact absurd (steady_round accounted.credited (.inl marked)) moved
  | markEntityInactive entity =>
    obtain ⟨answer, marked, rfl⟩ := map_eq_ok.1 responded
    exact absurd (steady_round accounted.credited (.inr marked)) moved
  | hasWork =>
    cases responded
    rw [has_work_eq weights consistent] at moved
    exact .inr (current moved)
  | resetAndRestartRound => exact .inl rfl
  | getNextEntity =>
    rcases get_next_cases responded with rfl | rfl | ⟨entity, -, -, rfl⟩
    · exact absurd rfl moved
    · exact .inr (current moved)
    · obtain ⟨state, -, -, -, -, same⟩ :=
        served_record (rounds.policy.currentRound weights) entity
      rw [same] at moved
      exact .inr (current moved)

/-- An entity that has been active for the whole round has been returned as often as its weight. -/
theorem returned_of_over (accounted : Accounted weights rounds)
    (fits : rounds.policy.Fits weights) (over_ : rounds.policy.isRoundOver.1 = true) {since : Nat}
    (active : rounds.activeSince entity = some since) (earlier : since < rounds.round) :
    rounds.returned entity = rounds.policy.weightOf weights entity := by
  have sound := accounted.sound fits (Nat.zero_lt_of_lt earlier)
  have among : entity ∈ rounds.policy.active :=
    (accounted.since entity).1 (by rw [active]; nofun)
  have spent := spent_of_over accounted.consistent accounted.credited
    (fun credits other known => left_eq_zero sound credits known) over_ among
  exact given_eq_share (accounted.stayed entity since active earlier) spent

/-! ## Main results -/

/-- In every run of a policy whose weights sum up to an `int`, no entity is returned more often in a
round than its weight says. When the policy ends a round, an entity that has been active since an
earlier one has been returned exactly that often, and so at least once if its weight is positive. -/
theorem shares_exact (weights : T → Nat) :
    ∀ rounds, Runs.Reachable Rounds.Initial (Rounds.Step weights) rounds →
      rounds.policy.Fits weights →
      (∀ entity, rounds.returned entity ≤ rounds.policy.weightOf weights entity) ∧
      ∀ call after, Rounds.Ends weights rounds call after → call ≠ .resetAndRestartRound →
        rounds.Exact weights ∧
        ∀ entity since, rounds.activeSince entity = some since → since + 1 = rounds.round →
          0 < rounds.policy.weightOf weights entity → 0 < rounds.returned entity := by
  intro rounds reached fits
  have accounted := reachable_accounted reached
  refine ⟨fun entity => ?_, ?_⟩
  · by_cases known : entity ∈ rounds.policy.entities
    · rcases Nat.eq_zero_or_pos rounds.round with first | started
      · rw [(accounted.fresh first).2 entity]
        exact Nat.zero_le _
      · exact given_le (accounted.sound fits started) known
    · rw [accounted.unknown entity known]
      exact Nat.zero_le _
  · intro call after ends own
    rcases over_of_ends accounted ends with user | over_
    · exact absurd user own
    have exact_ : rounds.Exact weights := fun entity since active earlier =>
      returned_of_over accounted fits over_ active earlier
    refine ⟨exact_, fun entity since active last positive => ?_⟩
    rw [exact_ entity since active (by omega)]
    exact positive

end Order

/-! ## Executed rounds -/

/-- A call that is allowed, if it succeeds. -/
def proceed (weights : ℕ → Nat) (rounds : Rounds ℕ) (call : Call ℕ) : Option (Rounds ℕ) :=
  Runs.attempt (rounds.Allowed call) (rounds.perform weights call)

theorem proceed_step {weights : ℕ → Nat} (rounds : Rounds ℕ) (call : Call ℕ) (next : Rounds ℕ)
    (done : proceed weights rounds call = some next) : Rounds.Step weights rounds next :=
  ⟨call, Runs.attempt_eq_some.1 done⟩

theorem new_initial : Rounds.Initial ({ policy := {} } : Rounds ℕ) := ⟨true, false, false, rfl⟩

/-- A weight of 2 and one of 1. -/
def twoAndOne (entity : ℕ) : Nat := if entity = 0 then 2 else 1

/-- A round of two entities, in which the first is inactive for a while. -/
def oneRound : List (Call ℕ) :=
  [.initializeEntity 0, .initializeEntity 1, .markEntityActive 0, .markEntityActive 1,
    .getNextEntity, .markEntityInactive 0, .getNextEntity, .markEntityActive 0, .getNextEntity]

theorem shares_exact_one_round : ∃ rounds after,
    Runs.Reachable Rounds.Initial (Rounds.Step twoAndOne) rounds ∧
      Rounds.Ends twoAndOne rounds .hasWork after ∧ rounds.Exact twoAndOne ∧
      rounds.returned 0 = 2 ∧ rounds.returned 1 = 1 := by
  have tested : (Runs.execute (proceed twoAndOne) oneRound { policy := {} }).any (fun rounds =>
      rounds.policy.Fits twoAndOne && ((rounds.perform twoAndOne .hasWork).toOption.any fun after =>
        after.round ≠ rounds.round) && rounds.returned 0 = 2 && rounds.returned 1 = 1) = true := by
    decide +kernel
  obtain ⟨rounds, reached, holds⟩ := Runs.reached_with proceed_step new_initial tested
  simp only [Bool.and_eq_true, decide_eq_true_eq] at holds
  obtain ⟨⟨⟨fits, ended⟩, first⟩, second⟩ := holds
  obtain ⟨after, performed, other⟩ := (Option.any_eq_true _ _).1 ended
  have ends : Rounds.Ends twoAndOne rounds .hasWork after :=
    ⟨toOption_eq_some.1 performed, of_decide_eq_true other⟩
  exact ⟨rounds, after, reached, ends,
    ((shares_exact twoAndOne rounds reached fits).2 .hasWork after ends nofun).1, first, second⟩

/-- A call ends the round although an entity that has been active in all of it is owed some. -/
def cutShort (weights : ℕ → Nat) (call : Call ℕ) (entity : ℕ) (rounds : Rounds ℕ) : Bool :=
  ((rounds.perform weights call).toOption.any fun after => after.round ≠ rounds.round) &&
    rounds.activeSince entity = some 0 && 0 < rounds.round &&
    rounds.returned entity ≠ rounds.policy.weightOf weights entity

theorem not_exact_of_cut_short {weights : ℕ → Nat} {call : Call ℕ} {entity : ℕ}
    {run : List (Call ℕ)}
    (tested : (Runs.execute (proceed weights) run { policy := {} }).any
      (cutShort weights call entity) = true) :
    ∃ rounds after, Runs.Reachable Rounds.Initial (Rounds.Step weights) rounds ∧
      Rounds.Ends weights rounds call after ∧ ¬ rounds.Exact weights := by
  obtain ⟨rounds, reached, short⟩ := Runs.reached_with proceed_step new_initial tested
  unfold cutShort at short
  simp only [Bool.and_eq_true, decide_eq_true_eq] at short
  obtain ⟨⟨⟨ended, active⟩, later⟩, owed⟩ := short
  obtain ⟨after, performed, other⟩ := (Option.any_eq_true _ _).1 ended
  refine ⟨rounds, after, reached, ⟨toOption_eq_some.1 performed, of_decide_eq_true other⟩, ?_⟩
  exact fun exact_ => owed (exact_ entity 0 active later)

/-- The user restarts the round of two entities when only one of them has been returned; and the
weights of three entities sum up to 1 in an `int`, so that the round is over after one service. -/
theorem rounds_cut_short :
    (∃ rounds after, Runs.Reachable Rounds.Initial (Rounds.Step fun _ : ℕ => 1) rounds ∧
      Rounds.Ends (fun _ => 1) rounds .resetAndRestartRound after ∧
      ¬ rounds.Exact fun _ => 1) ∧
    ∃ rounds after, Runs.Reachable Rounds.Initial
        (Rounds.Step fun entity : ℕ => if entity = 2 then 3 else 2 ^ 31 - 1) rounds ∧
      Rounds.Ends (fun entity => if entity = 2 then 3 else 2 ^ 31 - 1) rounds .hasWork after ∧
      ¬ rounds.Exact fun entity => if entity = 2 then 3 else 2 ^ 31 - 1 := by
  constructor
  · refine @not_exact_of_cut_short _ _ 1 [.initializeEntity 0, .initializeEntity 1,
      .markEntityActive 0, .markEntityActive 1, .getNextEntity] ?_
    decide +kernel
  · refine @not_exact_of_cut_short _ _ 2 [.initializeEntity 0, .initializeEntity 1,
      .initializeEntity 2, .markEntityActive 0, .markEntityActive 2, .getNextEntity] ?_
    decide +kernel

end Isekai.RoundSharesProofs
