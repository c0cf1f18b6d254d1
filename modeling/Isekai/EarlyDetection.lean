import Isekai.FalconTypes
import Isekai.Runs
import Mathlib.MeasureTheory.Measure.Lebesgue.Basic

/-! Weighted random early detection over exact rationals. The probability of a mark is a quotient
whose numerator is a quotient itself: the denominators are what the average leaves to the maximal
size, and what the count leaves to one. -/

namespace Isekai.EarlyDetection
open MeasureTheory Set

/-- A configuration of WRED with sizes and a probability that make sense. -/
structure Wred where
  weight : ℚ
  minAvgQueueSize : ℕ
  maxAvgQueueSize : ℕ
  maxMarkProb : ℚ
  rate : ℚ
  ascending : minAvgQueueSize < maxAvgQueueSize
  positive : 0 < maxMarkProb
  proper : maxMarkProb ≤ 1

inductive WredResult where
  | enqueue
  | ecnMark
  deriving DecidableEq, Repr

structure WeightedRandomEarlyDetection where
  avgQueueSize : ℚ := 0
  /-- The number of packets since the last marked one. -/
  count : ℤ := -1
  /-- The time in seconds when the queue got empty. -/
  queueIdleTime : ℚ := 0
  deriving DecidableEq

structure DivisionByZero where

def divide (dividend divisor : ℚ) : Except DivisionByZero ℚ :=
  if divisor = 0 then .error {} else .ok (dividend / divisor)

section

-- `std::pow` of the idle decay, whose exponent is a real number.
variable (pow : ℚ → ℚ → ℚ) (config : Wred)

/-- The new average queue size. -/
def average (wred : WeightedRandomEarlyDetection) (egressOccupancy : ℕ) (now : ℚ) : ℚ :=
  if egressOccupancy > 0 then
    (1 - config.weight) * wred.avgQueueSize + config.weight * egressOccupancy
  else pow (1 - config.weight) ((now - wred.queueIdleTime) * config.rate) * wred.avgQueueSize

/-- `pb`. -/
def baseProbability (avgQueueSize : ℚ) : Except DivisionByZero ℚ :=
  divide (config.maxMarkProb * (avgQueueSize - config.minAvgQueueSize))
    (config.maxAvgQueueSize - avgQueueSize)

/-- `pa`. -/
def markProbability (avgQueueSize : ℚ) (count : ℤ) : Except DivisionByZero ℚ := do
  let pb ← baseProbability config avgQueueSize
  divide pb (1 - count * pb)

/-- The sizes between which packets are marked at random. -/
def InRange (avgQueueSize : ℚ) : Prop :=
  config.minAvgQueueSize ≤ avgQueueSize ∧ avgQueueSize ≤ config.maxAvgQueueSize

instance (avgQueueSize : ℚ) : Decidable (InRange config avgQueueSize) :=
  inferInstanceAs (Decidable (_ ∧ _))

/-- `PerformWred` at a time, with the draw of the generator. -/
def performWred (wred : WeightedRandomEarlyDetection) (egressOccupancy : ℕ) (now draw : ℚ) :
    Except DivisionByZero (WredResult × WeightedRandomEarlyDetection) :=
  let avgQueueSize := average pow config wred egressOccupancy now
  if InRange config avgQueueSize then
    let count := wred.count + 1
    (markProbability config avgQueueSize count).map fun pa =>
      if draw < pa then (.ecnMark, { wred with avgQueueSize, count := 0 })
      else (.enqueue, { wred with avgQueueSize, count })
  else if avgQueueSize > config.maxAvgQueueSize then
    .ok (.ecnMark, { wred with avgQueueSize, count := 0 })
  else .ok (.enqueue, { wred with avgQueueSize, count := -1 })

def updateQueueIdleTime (wred : WeightedRandomEarlyDetection) (time : ℚ) :
    WeightedRandomEarlyDetection :=
  { wred with queueIdleTime := time }

inductive Call where
  | performWred (egressOccupancy : ℕ) (now draw : ℚ)
  | updateQueueIdleTime (time : ℚ)

/-- The state after a call, whose draw is below one. -/
def step (wred : WeightedRandomEarlyDetection) : Call → Option WeightedRandomEarlyDetection
  | .performWred egressOccupancy now draw => Runs.attempt (0 ≤ draw ∧ draw < 1)
      ((performWred pow config wred egressOccupancy now draw).map Prod.snd)
  | .updateQueueIdleTime time => some (updateQueueIdleTime wred time)

def Initial (wred : WeightedRandomEarlyDetection) : Prop := wred = {}

def Steps (wred next : WeightedRandomEarlyDetection) : Prop :=
  ∃ call, step pow config wred call = some next

end

/-- The chance that a uniform draw from [0,1) is below a number. -/
noncomputable def chance (bound : ℚ) : ENNReal := volume (Ico (0 : ℝ) 1 ∩ Iio (bound : ℝ))

/-- No division by zero; a fuller queue or a longer streak without a mark makes a mark no less
likely; and the mark is certain once the count times the base probability is one. -/
structure Suited (config : Wred) (avgQueueSize : ℚ) (count : ℤ) : Prop where
  defined : ∃ pa, markProbability config avgQueueSize count = .ok pa
  monotone : ∀ pa, markProbability config avgQueueSize count = .ok pa →
    ∀ lowerSize shorter lowerPa, InRange config lowerSize → lowerSize ≤ avgQueueSize →
      0 ≤ shorter → shorter ≤ count → markProbability config lowerSize shorter = .ok lowerPa →
        chance lowerPa ≤ chance pa
  certain : ∀ pb pa, baseProbability config avgQueueSize = .ok pb →
    markProbability config avgQueueSize count = .ok pa → 1 ≤ count * pb → chance pa = 1

/-! ## Chances -/

theorem chance_mono {lower bound : ℚ} (le : lower ≤ bound) : chance lower ≤ chance bound := by
  refine measure_mono (inter_subset_inter_right _ (Iio_subset_Iio ?_))
  exact_mod_cast le

/-- A mark whose probability is not positive is never drawn. -/
theorem chance_eq_zero {bound : ℚ} (nonpositive : bound ≤ 0) : chance bound = 0 := by
  have empty : Ico (0 : ℝ) 1 ∩ Iio (bound : ℝ) = ∅ := by
    refine eq_empty_of_forall_notMem fun draw drawn => ?_
    have below : (bound : ℝ) ≤ 0 := by exact_mod_cast nonpositive
    exact absurd (lt_of_lt_of_le drawn.2 below) (not_lt.2 drawn.1.1)
  rw [chance, empty, measure_empty]

/-! ## Probabilities -/

theorem divide_eq_ok {dividend divisor quotient : ℚ} :
    divide dividend divisor = .ok quotient ↔ divisor ≠ 0 ∧ dividend / divisor = quotient := by
  unfold divide
  by_cases zero : divisor = 0 <;> simp [zero]

section

variable {config : Wred} {avgQueueSize pa pb : ℚ} {count : ℤ}

/-- What is marked of the size above the minimum. -/
def excess (config : Wred) (avgQueueSize : ℚ) : ℚ :=
  config.maxMarkProb * (avgQueueSize - config.minAvgQueueSize)

/-- What is left to the maximal size. -/
def slack (config : Wred) (avgQueueSize : ℚ) : ℚ := config.maxAvgQueueSize - avgQueueSize

theorem base_eq_ok : baseProbability config avgQueueSize = .ok pb ↔
    slack config avgQueueSize ≠ 0 ∧ excess config avgQueueSize / slack config avgQueueSize = pb :=
  divide_eq_ok

/-- Both divisions together. -/
theorem mark_eq_ok : markProbability config avgQueueSize count = .ok pa ↔
    slack config avgQueueSize ≠ 0 ∧
      slack config avgQueueSize - count * excess config avgQueueSize ≠ 0 ∧
      excess config avgQueueSize /
        (slack config avgQueueSize - count * excess config avgQueueSize) = pa := by
  unfold markProbability
  rw [bind_eq_ok]
  constructor
  · rintro ⟨pb, base, quotient⟩
    obtain ⟨left, rfl⟩ := base_eq_ok.1 base
    obtain ⟨divisor, rfl⟩ := divide_eq_ok.1 quotient
    have common : 1 - count * (excess config avgQueueSize / slack config avgQueueSize) =
        (slack config avgQueueSize - count * excess config avgQueueSize) /
          slack config avgQueueSize := by
      field_simp
    rw [common] at divisor ⊢
    refine ⟨left, fun zero => divisor (by rw [zero, zero_div]), ?_⟩
    rw [div_div_div_cancel_right₀ left]
  · rintro ⟨left, divisor, rfl⟩
    have common : 1 - count * (excess config avgQueueSize / slack config avgQueueSize) =
        (slack config avgQueueSize - count * excess config avgQueueSize) /
          slack config avgQueueSize := by
      field_simp
    refine ⟨_, base_eq_ok.2 ⟨left, rfl⟩, divide_eq_ok.2 ⟨?_, ?_⟩⟩
    · rw [common]
      exact div_ne_zero divisor left
    · rw [common, div_div_div_cancel_right₀ left]

theorem excess_mono {lower bound : ℚ} (le : lower ≤ bound) :
    excess config lower ≤ excess config bound :=
  mul_le_mul_of_nonneg_left (sub_le_sub_right le _) (le_of_lt config.positive)

theorem excess_nonneg (inRange : InRange config avgQueueSize) :
    0 ≤ excess config avgQueueSize :=
  mul_nonneg (le_of_lt config.positive) (sub_nonneg.2 inRange.1)

/-- The exact condition: the count times the base probability is below one, and the average is below
the maximum. -/
theorem suited_condition (inRange : InRange config avgQueueSize) (counted : 0 ≤ count) :
    Suited config avgQueueSize count ↔ avgQueueSize < config.maxAvgQueueSize ∧
      count * (config.maxMarkProb * (avgQueueSize - config.minAvgQueueSize)) <
        config.maxAvgQueueSize - avgQueueSize := by
  have nonneg := excess_nonneg inRange
  have countNonneg : (0 : ℚ) ≤ count := by exact_mod_cast counted
  have slackNonneg : 0 ≤ slack config avgQueueSize := sub_nonneg.2 inRange.2
  change Suited config avgQueueSize count ↔ avgQueueSize < config.maxAvgQueueSize ∧
    count * excess config avgQueueSize < slack config avgQueueSize
  constructor
  · intro suited
    obtain ⟨pa, found⟩ := suited.defined
    obtain ⟨left, divisor, quotient⟩ := mark_eq_ok.1 found
    have slackPos : 0 < slack config avgQueueSize := lt_of_le_of_ne slackNonneg left.symm
    refine ⟨sub_pos.1 slackPos, ?_⟩
    by_contra reached
    -- past a product of one the probability is negative, and the mark is impossible
    have beyond : slack config avgQueueSize - count * excess config avgQueueSize ≤ 0 :=
      sub_nonpos.2 (not_lt.1 reached)
    have product : 1 ≤ count * (excess config avgQueueSize / slack config avgQueueSize) := by
      rw [← mul_div_assoc, one_le_div slackPos]
      exact not_lt.1 reached
    have certain := suited.certain _ pa (base_eq_ok.2 ⟨left, rfl⟩) found product
    have impossible : chance pa = 0 :=
      chance_eq_zero (quotient ▸ div_nonpos_of_nonneg_of_nonpos nonneg beyond)
    rw [impossible] at certain
    exact zero_ne_one certain
  · rintro ⟨below, product⟩
    have slackPos : 0 < slack config avgQueueSize := sub_pos.2 below
    have divisorPos : 0 < slack config avgQueueSize - count * excess config avgQueueSize :=
      sub_pos.2 product
    refine ⟨⟨_, mark_eq_ok.2 ⟨slackPos.ne', divisorPos.ne', rfl⟩⟩, ?_, ?_⟩
    · intro pa found lowerSize shorter lowerPa lowerRange smaller shortNonneg fewer lowerFound
      obtain ⟨-, -, rfl⟩ := mark_eq_ok.1 found
      obtain ⟨-, -, rfl⟩ := mark_eq_ok.1 lowerFound
      have numerator : excess config lowerSize ≤ excess config avgQueueSize := excess_mono smaller
      have fewer' : (shorter : ℚ) ≤ count := by exact_mod_cast fewer
      have streak : shorter * excess config lowerSize ≤ count * excess config avgQueueSize :=
        mul_le_mul fewer' numerator (excess_nonneg lowerRange) countNonneg
      have room : slack config avgQueueSize ≤ slack config lowerSize := sub_le_sub_left smaller _
      refine chance_mono (div_le_div₀ nonneg numerator divisorPos ?_)
      exact sub_le_sub room streak
    · intro pb pa base _ atLeast
      obtain ⟨-, rfl⟩ := base_eq_ok.1 base
      rw [← mul_div_assoc, one_le_div slackPos] at atLeast
      exact absurd product (not_lt.2 atLeast)

end

/-! ## Runs -/

section

variable {pow : ℚ → ℚ → ℚ} {config : Wred} {wred : WeightedRandomEarlyDetection}

theorem perform_count {egressOccupancy : ℕ} {now draw : ℚ} {result : WredResult}
    {next : WeightedRandomEarlyDetection} (counted : -1 ≤ wred.count)
    (done : performWred pow config wred egressOccupancy now draw = .ok (result, next)) :
    -1 ≤ next.count := by
  have negative : (-1 : ℤ) ≤ 0 := by decide
  unfold performWred at done
  by_cases inRange : InRange config (average pow config wred egressOccupancy now)
  · rw [if_pos inRange] at done
    obtain ⟨pa, -, marked⟩ := map_eq_ok.1 done
    by_cases drawn : draw < pa
    · rw [if_pos drawn] at marked
      cases marked
      exact negative
    · rw [if_neg drawn] at marked
      cases marked
      dsimp only
      omega
  · rw [if_neg inRange] at done
    split_ifs at done <;> cases done
    · exact negative
    · exact le_refl _

theorem reachable_count (reached : Runs.Reachable Initial (Steps pow config) wred) :
    -1 ≤ wred.count := by
  refine @Runs.invariant_of_reachable _ Initial (Steps pow config) (fun wred => -1 ≤ wred.count)
    ?_ ?_ _ reached
  · rintro state rfl
    exact le_refl _
  · rintro state next counted ⟨call, taken⟩
    cases call with
    | performWred egressOccupancy now draw =>
      obtain ⟨-, done⟩ := Runs.attempt_eq_some.1 taken
      obtain ⟨⟨result, after⟩, performed, rfl⟩ := map_eq_ok.1 done
      exact perform_count counted performed
    | updateQueueIdleTime time =>
      cases taken
      exact counted

/-- In every state that a run reaches the next call that may mark at random is suited exactly if its
average is below the maximum and its count times the base probability below one. -/
theorem suited_iff (reached : Runs.Reachable Initial (Steps pow config) wred)
    (egressOccupancy : ℕ) (now : ℚ)
    (inRange : InRange config (average pow config wred egressOccupancy now)) :
    Suited config (average pow config wred egressOccupancy now) (wred.count + 1) ↔
      average pow config wred egressOccupancy now < config.maxAvgQueueSize ∧
      (wred.count + 1 : ℤ) * (config.maxMarkProb *
          (average pow config wred egressOccupancy now - config.minAvgQueueSize)) <
        config.maxAvgQueueSize - average pow config wred egressOccupancy now :=
  suited_condition inRange (by have counted := reachable_count reached; omega)

/-- The average is the occupancy. -/
def unsmoothed : Wred where
  weight := 1
  minAvgQueueSize := 0
  maxAvgQueueSize := 100
  maxMarkProb := 1 / 10
  rate := 1
  ascending := by decide
  positive := by norm_num
  proper := by norm_num

/-- The powers of zero. -/
def zeroPow (_base exponent : ℚ) : ℚ := if exponent = 0 then 1 else 0

theorem unsmoothed_average (wred : WeightedRandomEarlyDetection) (egressOccupancy : ℕ) (now : ℚ)
    (occupied : 0 < egressOccupancy) :
    average zeroPow unsmoothed wred egressOccupancy now = egressOccupancy := by
  simp [average, unsmoothed, occupied]

theorem suited_iff_example :
    Suited unsmoothed (average zeroPow unsmoothed {} 10 0) 0 := by
  have average : average zeroPow unsmoothed {} 10 0 = 10 := unsmoothed_average {} 10 0 (by decide)
  refine (suited_iff (Runs.reachable_initial rfl) 10 0 ?_).2 ?_
  · rw [average]
    decide +kernel
  · rw [average]
    decide +kernel

/-- Three packets are not marked in a short queue; then the queue is nearly full. -/
def fillingQueue : List Call :=
  [.performWred 10 0 (1 / 2), .performWred 10 0 (1 / 2), .performWred 10 0 (1 / 2)]

theorem full_queue_unmarked :
    ¬ ∀ pow config wred, Runs.Reachable Initial (Steps pow config) wred →
      ∀ egressOccupancy now, InRange config (average pow config wred egressOccupancy now) →
        Suited config (average pow config wred egressOccupancy now) (wred.count + 1) := by
  intro always
  obtain ⟨wred, reached, counted⟩ := @Runs.reached_with _ Initial (Steps zeroPow unsmoothed) Call
    (step zeroPow unsmoothed) (fun _ call _ taken => ⟨call, taken⟩) fillingQueue {} rfl
    (fun wred => wred.count == 2) (by decide +kernel)
  have suited := always zeroPow unsmoothed wred reached 90 0
  rw [unsmoothed_average wred 90 0 (by decide), eq_of_beq counted] at suited
  have inRange : InRange unsmoothed ((90 : ℕ) : ℚ) := by decide +kernel
  have product := ((suited_condition inRange (by decide)).1 (suited inRange)).2
  exact absurd product (by decide +kernel)

end

end Isekai.EarlyDetection
