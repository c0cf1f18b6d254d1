import Isekai.FalconTypes
import Isekai.TokenBucket

/-! What a token bucket grants. When it was asked last, it was refilled up to the last boundary before;
so what it holds and what it granted since some time is at most its size and the tokens of the
boundaries since then, and asking it on the way changes nothing. -/

namespace Isekai.TokenBuckets
open Outcomes

variable {machine : Machine} {bucket : TokenBucket} {early late : ℤ}

/-! ## Boundaries -/

/-- Each quotient between those of two times belongs to a boundary between them. -/
theorem boundaries_ge {interval : ℤ} (positive : 0 < interval) :
    late / interval - early / interval ≤ refillBoundaries interval early late := by
  have between : ∀ quotient ∈ Finset.Ioc (early / interval) (late / interval),
      early < quotient * interval ∧ quotient * interval ≤ late := by
    intro quotient listed
    obtain ⟨above, below⟩ := Finset.mem_Ioc.1 listed
    exact ⟨(Int.ediv_lt_iff_lt_mul positive).1 above, (Int.le_ediv_iff_mul_le positive).1 below⟩
  have inside : (Finset.Ioc (early / interval) (late / interval)).image
      (fun quotient => (quotient * interval - early - 1).toNat) ⊆
      (Finset.range (late - early).toNat).filter fun time : ℕ => interval ∣ early + 1 + time := by
    intro time listed
    obtain ⟨quotient, among, rfl⟩ := Finset.mem_image.1 listed
    obtain ⟨above, below⟩ := between quotient among
    refine Finset.mem_filter.2 ⟨Finset.mem_range.2 (by omega), ?_⟩
    rw [Int.toNat_of_nonneg (by omega), show early + 1 + (quotient * interval - early - 1) =
      quotient * interval by ring]
    exact Dvd.intro_left _ rfl
  have counted := Finset.card_le_card inside
  rw [Finset.card_image_of_injOn, Int.card_Ioc] at counted
  swap
  · intro one first two second same
    have := between one first
    have := between two second
    dsimp only at same
    exact mul_left_injective₀ positive.ne' (show one * interval = two * interval by omega)
  unfold refillBoundaries
  omega

/-! ## Refills -/

namespace TokenBucket

theorem min_to_nat (one other : UInt64) : (min one other).toNat = min one.toNat other.toNat := by
  change (if one ≤ other then one else other).toNat = _
  split_ifs with less
  · exact (min_eq_left (UInt64.le_iff_toNat_le.1 less)).symm
  · rw [UInt64.not_le, UInt64.lt_iff_toNat_lt] at less
    exact (min_eq_right less.le).symm

theorem of_int_to_nat {count : ℕ} (fits : count < 2 ^ 64) :
    (UInt64.ofInt count).toNat = count := by
  have whole : ((count : ℤ) % 2 ^ 64).toNat = count := by omega
  rw [UInt64.ofInt, whole, UInt64.toNat_ofNat', Nat.mod_eq_of_lt fits]

theorem elapsed_nonneg (later : bucket.lastRefillTimestamp ≤ late) : 0 ≤ bucket.elapsed late :=
  Int.ediv_nonneg (by omega) bucket.positive.le

theorem elapsed_mono (order : early ≤ late) : bucket.elapsed early ≤ bucket.elapsed late :=
  Int.ediv_le_ediv bucket.positive (by omega)

/-- What a refill does if the types hold what it counts. -/
theorem refill_spec (measured : Measured bucket late) (later : bucket.lastRefillTimestamp ≤ late) :
    ((bucket.refill machine late).availableTokens.toNat : ℤ) =
        min (bucket.availableTokens.toNat +
          bucket.elapsed late * bucket.tokensPerRefillInterval.toNat) bucket.bucketSize.toNat ∧
      (bucket.refill machine late).lastRefillTimestamp =
        bucket.lastRefillTimestamp + bucket.elapsed late * bucket.bucketRefillInterval := by
  obtain ⟨short, fits⟩ := measured
  have nonneg := elapsed_nonneg later
  have exact_ := machine.int_exact (bucket.elapsed late) (by omega) short
  unfold refill
  dsimp only
  split_ifs with passed
  · dsimp only
    rw [exact_] at passed ⊢
    refine ⟨?_, rfl⟩
    obtain ⟨count, counted⟩ := Int.eq_ofNat_of_zero_le nonneg
    rw [counted] at fits passed ⊢
    have small : bucket.availableTokens.toNat +
        count * bucket.tokensPerRefillInterval.toNat < 2 ^ 64 := by exact_mod_cast fits
    have word : count < 2 ^ 64 := by omega
    have product : count * bucket.tokensPerRefillInterval.toNat < 2 ^ 64 := by omega
    rw [min_to_nat, UInt64.toNat_add, UInt64.toNat_mul, of_int_to_nat word,
      Nat.mod_eq_of_lt product, Nat.mod_eq_of_lt small]
    push_cast
    rfl
  · rw [exact_] at passed
    have none_ : bucket.elapsed late = 0 := by omega
    have within := UInt64.le_iff_toNat_le.1 bucket.withinSize
    rw [none_]
    constructor
    · rw [zero_mul, add_zero]
      omega
    · rw [zero_mul, add_zero]

@[simp] theorem refill_interval (machine : Machine) (bucket : TokenBucket) (time : ℤ) :
    (bucket.refill machine time).bucketRefillInterval = bucket.bucketRefillInterval := by
  unfold refill
  dsimp only
  split_ifs <;> rfl

@[simp] theorem refill_rate (machine : Machine) (bucket : TokenBucket) (time : ℤ) :
    (bucket.refill machine time).tokensPerRefillInterval = bucket.tokensPerRefillInterval := by
  unfold refill
  dsimp only
  split_ifs <;> rfl

@[simp] theorem refill_size (machine : Machine) (bucket : TokenBucket) (time : ℤ) :
    (bucket.refill machine time).bucketSize = bucket.bucketSize := by
  unfold refill
  dsimp only
  split_ifs <;> rfl

/-- What is measured late is measured on the way. -/
theorem measured_before (measured : Measured bucket late) (order : early ≤ late) :
    Measured bucket early := by
  have less : bucket.elapsed early ≤ bucket.elapsed late := elapsed_mono order
  obtain ⟨short, fits⟩ := measured
  refine ⟨less.trans_lt short, ?_⟩
  have tokens := mul_le_mul_of_nonneg_right less
    (Int.natCast_nonneg bucket.tokensPerRefillInterval.toNat)
  linarith

/-- The rest of the intervals pass after a refill on the way. -/
theorem elapsed_refilled (measured : Measured bucket early)
    (later : bucket.lastRefillTimestamp ≤ early) :
    (bucket.refill machine early).elapsed late = bucket.elapsed late - bucket.elapsed early := by
  have refilled := (@refill_spec machine bucket early measured later).2
  rw [elapsed, refilled, refill_interval, ← sub_sub,
    Int.sub_mul_ediv_right _ _ bucket.positive.ne']
  rfl

theorem last_refill_le (measured : Measured bucket early)
    (later : bucket.lastRefillTimestamp ≤ early) :
    (bucket.refill machine early).lastRefillTimestamp ≤ early := by
  have whole := Int.ediv_mul_le (early - bucket.lastRefillTimestamp) bucket.positive.ne'
  have elapsed : bucket.elapsed early =
    (early - bucket.lastRefillTimestamp) / bucket.bucketRefillInterval := rfl
  rw [(refill_spec measured later).2, elapsed]
  omega

/-- Asking on the way leaves the tokens of a later time. -/
theorem refill_refill (measured : Measured bucket late) (order : early ≤ late)
    (later : bucket.lastRefillTimestamp ≤ early) :
    ((bucket.refill machine early).refill machine late).availableTokens =
      (bucket.refill machine late).availableTokens := by
  have before := measured_before measured order
  obtain ⟨first, -⟩ := @refill_spec machine bucket early before later
  obtain ⟨direct, -⟩ := @refill_spec machine bucket late measured (later.trans order)
  have rest : (bucket.refill machine early).elapsed late =
      bucket.elapsed late - bucket.elapsed early := elapsed_refilled before later
  have nonneg := elapsed_nonneg later
  have again : Measured (bucket.refill machine early) late := by
    refine ⟨?_, ?_⟩
    · rw [rest]
      have short := measured.1
      omega
    · have fits := measured.2
      rw [rest, refill_rate, first, sub_mul]
      omega
  obtain ⟨second, -⟩ := @refill_spec machine _ late again
    ((last_refill_le before later).trans order)
  apply UInt64.toNat_inj.1
  have equal : ((bucket.refill machine early).refill machine late).availableTokens.toNat =
      ((bucket.refill machine late).availableTokens.toNat : ℤ) := by
    have more := mul_le_mul_of_nonneg_right (sub_nonneg.2 (@elapsed_mono bucket early late order))
      (Int.natCast_nonneg bucket.tokensPerRefillInterval.toNat)
    rw [second, first, direct, rest, refill_rate, refill_size, sub_mul]
    rw [zero_mul, sub_mul] at more
    omega
  exact_mod_cast equal

end TokenBucket

/-! ## Runs -/

namespace World
variable {world next : World}

/-- The bucket was refilled up to the last boundary, and what it has and granted since some time fits
under its size and the boundaries since then. -/
structure Kept (world : World) : Prop where
  refilled : world.bucket.lastRefillTimestamp =
    world.now / world.bucket.bucketRefillInterval * world.bucket.bucketRefillInterval
  past : ∀ grant ∈ world.grants, grant.time ≤ world.now
  room : ∀ early ≤ world.now, (world.granted early world.now : ℤ) +
      world.bucket.availableTokens.toNat ≤ world.bucket.bucketSize.toNat +
    world.bucket.tokensPerRefillInterval.toNat * (world.now / world.bucket.bucketRefillInterval -
      early / world.bucket.bucketRefillInterval)
  bounded : ∀ early late, early ≤ late → (world.granted early late : ℤ) ≤
    world.bucket.bucketSize.toNat + world.bucket.tokensPerRefillInterval.toNat *
      (late / world.bucket.bucketRefillInterval - early / world.bucket.bucketRefillInterval)

theorem kept_initial (initial : Initial machine world) : Kept world := by
  obtain ⟨tokensPerSec, interval, positive, maxBurstSize, bucket, created, rfl⟩ := initial
  unfold TokenBucket.create at created
  dsimp only at created
  split_ifs at created
  cases created
  have tokens := Int.natCast_nonneg
    (machine.toUInt64 (tokensPerSec.toNat * interval / ticksPerSecond)).toNat
  refine ⟨?_, ?_, fun early past => ?_, fun early late order => ?_⟩
  · exact (by simp : (0 : ℤ) = 0 / interval * interval)
  · intro grant listed
    cases listed
  · have earlier := Int.ediv_le_ediv positive past
    have more := mul_nonneg tokens (sub_nonneg.2 earlier)
    simp only [granted, List.filter_nil, List.map_nil, List.sum_nil]
    dsimp only at more ⊢
    omega
  · have earlier := Int.ediv_le_ediv positive order
    have more := mul_nonneg tokens (sub_nonneg.2 earlier)
    simp only [granted, List.filter_nil, List.map_nil, List.sum_nil]
    omega

/-- Nothing was granted after the present. -/
theorem granted_future (past : ∀ grant ∈ world.grants, grant.time ≤ world.now)
    (future : world.now < early) : world.granted early late = 0 := by
  unfold granted
  rw [List.filter_eq_nil_iff.2, List.map_nil, List.sum_nil]
  intro grant listed
  have before := past grant listed
  simp only [decide_eq_true_eq, not_and]
  omega

/-- Of the end of a time only the past counts. -/
theorem granted_until (past : ∀ grant ∈ world.grants, grant.time ≤ world.now)
    (beyond : world.now ≤ late) : world.granted early late = world.granted early world.now := by
  unfold granted
  congr 2
  refine List.filter_congr fun grant listed => ?_
  have before := past grant listed
  simp only [decide_eq_decide]
  omega

/-- The intervals since the last refill are those since the bucket was asked last. -/
theorem Kept.elapsed_eq (kept : Kept world) (time : ℤ) : world.bucket.elapsed time =
    time / world.bucket.bucketRefillInterval - world.now / world.bucket.bucketRefillInterval := by
  unfold TokenBucket.elapsed
  rw [kept.refilled, Int.sub_mul_ediv_right _ _ world.bucket.positive.ne']

theorem Kept.last_refill_le (kept : Kept world) :
    world.bucket.lastRefillTimestamp ≤ world.now := by
  rw [kept.refilled]
  exact Int.ediv_mul_le _ world.bucket.positive.ne'

theorem Kept.ask (kept : Kept world) {time : ℤ} (later : world.now ≤ time)
    (measured : Measured world.bucket time) (requestedTokens : UInt64) :
    Kept (world.ask machine requestedTokens time) := by
  have order := kept.last_refill_le.trans later
  obtain ⟨tokens, refilled⟩ := @TokenBucket.refill_spec machine _ _ measured order
  have elapsed := kept.elapsed_eq time
  have rate := Int.natCast_nonneg world.bucket.tokensPerRefillInterval.toNat
  have past : ∀ grant ∈ world.grants, grant.time ≤ time := fun grant listed =>
    (kept.past grant listed).trans later
  refine ⟨?_, past, fun early before => ?_, ?_⟩
  · dsimp only [World.ask, TokenBucket.areTokensAvailable]
    rw [refilled, TokenBucket.refill_interval, elapsed, kept.refilled, ← add_mul]
    congr 1
    omega
  · dsimp only [World.ask, TokenBucket.areTokensAvailable] at before ⊢
    rw [tokens, TokenBucket.refill_interval, TokenBucket.refill_rate, TokenBucket.refill_size]
    by_cases old : early ≤ world.now
    · have same : world.granted early time = world.granted early world.now :=
        granted_until kept.past later
      have room := kept.room early old
      change (world.granted early time : ℤ) + _ ≤ _
      rw [same, elapsed]
      have parts : (world.bucket.tokensPerRefillInterval.toNat : ℤ) *
          (time / world.bucket.bucketRefillInterval - early / world.bucket.bucketRefillInterval) =
          world.bucket.tokensPerRefillInterval.toNat *
            (world.now / world.bucket.bucketRefillInterval -
              early / world.bucket.bucketRefillInterval) +
          (time / world.bucket.bucketRefillInterval -
            world.now / world.bucket.bucketRefillInterval) *
              world.bucket.tokensPerRefillInterval.toNat := by ring
      omega
    · have none_ : world.granted early time = 0 := granted_future kept.past (Int.not_le.1 old)
      have more := mul_nonneg rate (sub_nonneg.2
        (Int.ediv_le_ediv world.bucket.positive before))
      change (world.granted early time : ℤ) + _ ≤ _
      rw [none_]
      omega
  · intro early late between
    dsimp only [World.ask, TokenBucket.areTokensAvailable]
    rw [TokenBucket.refill_interval, TokenBucket.refill_rate, TokenBucket.refill_size]
    exact kept.bounded early late between

/-- What is taken now counts for the times that the present is in. -/
theorem granted_take {bucket : TokenBucket} (tokens : UInt64) :
    ({ world with bucket, grants := world.grants ++ [⟨world.now, tokens⟩] } : World).granted
        early late = world.granted early late +
        if early ≤ world.now ∧ world.now ≤ late then tokens.toNat else 0 := by
  unfold granted
  dsimp only
  rw [List.filter_append, List.map_append, List.sum_append]
  by_cases present : early ≤ world.now ∧ world.now ≤ late
  · rw [List.filter_cons_of_pos (by simpa using present), if_pos present]
    rfl
  · rw [List.filter_cons_of_neg (by simpa using present), if_neg present]
    rfl

theorem Kept.take (kept : Kept world) {bucket : TokenBucket} {tokens : UInt64}
    (taken : world.bucket.requestTokens tokens = .ok bucket) :
    Kept { world with bucket, grants := world.grants ++ [⟨world.now, tokens⟩] } := by
  unfold TokenBucket.requestTokens at taken
  split_ifs at taken with enough
  cases taken
  have rest := UInt64.toNat_sub_of_le _ _ enough
  have covered := UInt64.le_iff_toNat_le.1 enough
  have room : ∀ early ≤ world.now, (world.granted early world.now : ℤ) + tokens.toNat +
      (world.bucket.availableTokens - tokens).toNat ≤ world.bucket.bucketSize.toNat +
    world.bucket.tokensPerRefillInterval.toNat * (world.now / world.bucket.bucketRefillInterval -
      early / world.bucket.bucketRefillInterval) := by
    intro early past
    have before := kept.room early past
    omega
  refine ⟨kept.refilled, ?_, fun early past => ?_, fun early late order => ?_⟩
  · intro grant listed
    rcases List.mem_append.1 listed with old | new
    · exact kept.past grant old
    · rw [List.mem_singleton.1 new]
  · rw [granted_take, if_pos ⟨past, le_refl _⟩]
    push_cast
    exact room early past
  · rw [granted_take]
    by_cases present : early ≤ world.now ∧ world.now ≤ late
    · obtain ⟨past, beyond⟩ := present
      have before := room early past
      have more := mul_le_mul_of_nonneg_left
        (Int.sub_le_sub_right (Int.ediv_le_ediv world.bucket.positive beyond)
          (early / world.bucket.bucketRefillInterval))
        (Int.natCast_nonneg world.bucket.tokensPerRefillInterval.toNat)
      rw [if_pos ⟨past, beyond⟩, granted_until kept.past beyond]
      push_cast
      omega
    · rw [if_neg present]
      exact kept.bounded early late order

theorem kept_step (kept : Kept world) (step : MeasuredStep machine world next) : Kept next := by
  obtain ⟨event, possible, performed, measured⟩ := step
  cases event with
  | areTokensAvailable requestedTokens currentTime =>
    cases performed
    exact kept.ask possible (measured _ _ rfl) requestedTokens
  | requestTokens requiredTokens =>
    obtain ⟨bucket, taken, rfl⟩ := map_eq_ok.1 performed
    exact kept.take taken

theorem kept_reached (reached : Runs.Reachable (Initial machine) (MeasuredStep machine) world) :
    Kept world := by
  apply Runs.invariant_of_reachable _ _ reached
  · exact fun _ initial => kept_initial initial
  · exact fun _ _ kept step => kept_step kept step

end World

/-- A bucket never holds more than its size. As long as it is asked only for what its types hold, what
it grants in a time is at most its size and the tokens of the boundaries in it, and asking it on the
way leaves the tokens of a later time. -/
theorem bucket_limits (machine : Machine) :
    (∀ world : World, Runs.Reachable (World.Initial machine) (World.Step machine) world →
      world.bucket.availableTokens ≤ world.bucket.bucketSize) ∧
    ∀ world : World, Runs.Reachable (World.Initial machine) (MeasuredStep machine) world →
      (∀ early late, early ≤ late → world.granted early late ≤ world.bucket.bucketSize.toNat +
        world.bucket.tokensPerRefillInterval.toNat *
          refillBoundaries world.bucket.bucketRefillInterval early late) ∧
      ∀ middle last, world.now ≤ middle → middle ≤ last → Measured world.bucket last →
        ∀ one two, (((world.ask machine one middle).ask machine two last).bucket).availableTokens =
          (world.ask machine two last).bucket.availableTokens := by
  refine ⟨fun world _ => world.bucket.withinSize, fun world reached => ?_⟩
  have kept := World.kept_reached reached
  refine ⟨fun early late order => ?_, fun middle last later order measured one two => ?_⟩
  · have bounded := kept.bounded early late order
    have counted := mul_le_mul_of_nonneg_left
      (@boundaries_ge early late _ world.bucket.positive)
      (Int.natCast_nonneg world.bucket.tokensPerRefillInterval.toNat)
    have total : (world.granted early late : ℤ) ≤ world.bucket.bucketSize.toNat +
        world.bucket.tokensPerRefillInterval.toNat *
          refillBoundaries world.bucket.bucketRefillInterval early late := by linarith
    exact_mod_cast total
  · exact TokenBucket.refill_refill measured order (kept.last_refill_le.trans later)

/-! ## A bucket that was idle for too long -/

/-- A machine that makes the smallest `int` of a number that an `int` cannot hold. -/
def indefinite : Machine where
  toInt number := if -2 ^ 31 ≤ number ∧ number < 2 ^ 31 then number else -2 ^ 31
  toUInt64 := UInt64.ofInt
  int_range := by
    intro number
    split_ifs with holds
    · exact holds
    · decide
  int_exact := fun _ above below => if_pos ⟨above, below⟩
  uint64_exact := by
    intro number nonneg fits
    obtain ⟨count, rfl⟩ := Int.eq_ofNat_of_zero_le nonneg
    rw [TokenBucket.of_int_to_nat (by omega)]

/-- A hundred tokens each second, and no more at once. -/
def hundredPerSecond : TokenBucket where
  tokensPerRefillInterval := 100
  bucketRefillInterval := ticksPerSecond
  bucketSize := 100
  availableTokens := 100
  positive := by decide
  withinSize := by decide

/-- All tokens were taken at the start. -/
def emptied : World where
  bucket := { hundredPerSecond with availableTokens := 0, withinSize := by decide }
  grants := [⟨0, 100⟩]

theorem emptied_reached :
    Runs.Reachable (World.Initial indefinite) (World.Step indefinite) emptied := by
  have created : TokenBucket.create indefinite 100 ticksPerSecond (by decide) 100 =
      .ok hundredPerSecond := rfl
  have initial : World.Initial indefinite { bucket := hundredPerSecond } :=
    ⟨100, ticksPerSecond, by decide, 100, hundredPerSecond, created, rfl⟩
  exact Runs.reachable_step (Runs.reachable_initial initial)
    ⟨.requestTokens 100, trivial, rfl⟩

/-- After 2^31 seconds the bucket stays empty, unless it was asked on the way. -/
theorem long_idle_differs : ¬ ∀ world : World,
    Runs.Reachable (World.Initial indefinite) (World.Step indefinite) world →
      ∀ middle last, world.now ≤ middle → middle ≤ last → ∀ one two,
        (((world.ask indefinite one middle).ask indefinite two last).bucket).availableTokens =
          (world.ask indefinite two last).bucket.availableTokens := by
  intro all
  have same := all emptied emptied_reached ticksPerSecond (2 ^ 31 * ticksPerSecond) (by decide)
    (by decide) 1 1
  revert same
  decide +kernel

end Isekai.TokenBuckets
