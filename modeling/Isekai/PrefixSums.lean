import Mathlib.Algebra.Order.BigOperators.Group.Finset
import Mathlib.Algebra.Order.Floor.Div
import Mathlib.Data.Int.CardIntervalMod

/-! Weights that are laid out one after the other: each has an interval of its own length, and a
scan that subtracts one weight after the other finds the interval of a number. Among the numbers
below a bound, the remainders of an interval come up in proportion to its length. -/

namespace Isekai.PrefixSums

variable {weights : List ℕ} {number index other : ℕ}

/-- The sum of the first weights. -/
def prefixSum (weights : List ℕ) (count : ℕ) : ℕ := (weights.take count).sum

@[simp] theorem prefix_sum_zero (weights : List ℕ) : prefixSum weights 0 = 0 := by
  simp [prefixSum]

@[simp] theorem prefix_sum_cons (weight : ℕ) (rest : List ℕ) (count : ℕ) :
    prefixSum (weight :: rest) (count + 1) = weight + prefixSum rest count := by
  simp [prefixSum]

theorem prefix_sum_succ (inside : index < weights.length) :
    prefixSum weights (index + 1) = prefixSum weights index + weights[index] :=
  List.sum_take_succ weights index inside

theorem prefix_sum_mono (weights : List ℕ) : Monotone (prefixSum weights) := by
  refine monotone_nat_of_le_succ fun count => ?_
  by_cases inside : count < weights.length
  · rw [prefix_sum_succ inside]
    exact Nat.le_add_right _ _
  · unfold prefixSum
    rw [List.take_of_length_le (by omega), List.take_of_length_le (by omega)]

theorem prefix_sum_le (weights : List ℕ) (count : ℕ) : prefixSum weights count ≤ weights.sum := by
  have whole : prefixSum weights (max count weights.length) = weights.sum := by
    unfold prefixSum
    rw [List.take_of_length_le (le_max_right _ _)]
  rw [← whole]
  exact prefix_sum_mono weights (le_max_left _ _)

/-- The interval of a weight holds a number. -/
structure Covers (weights : List ℕ) (number index : ℕ) : Prop where
  inside : index < weights.length
  lower : prefixSum weights index ≤ number
  upper : number < prefixSum weights (index + 1)

/-- No two intervals hold one number. -/
theorem covers_unique (here : Covers weights number index) (there : Covers weights number other) :
    index = other := by
  rcases lt_trichotomy index other with before | same | after
  · have ordered := prefix_sum_mono weights (show index + 1 ≤ other from before)
    have upper := here.upper
    have lower := there.lower
    omega
  · exact same
  · have ordered := prefix_sum_mono weights (show other + 1 ≤ index from after)
    have upper := there.upper
    have lower := here.lower
    omega

/-- Subtracts one weight after the other, until the number is less than one. -/
def locate : List ℕ → ℕ → Option ℕ
  | [], _ => none
  | weight :: rest, number =>
    if number < weight then some 0 else (locate rest (number - weight)).map (· + 1)

/-- The scan finds the interval. -/
theorem locate_eq_some_iff :
    locate weights number = some index ↔ Covers weights number index := by
  induction weights generalizing number index with
  | nil =>
    refine ⟨nofun, fun covers => ?_⟩
    have inside := covers.inside
    cases inside
  | cons weight rest ih =>
    rw [locate]
    by_cases first : number < weight
    · rw [if_pos first, Option.some.injEq]
      constructor
      · rintro rfl
        exact ⟨by simp, by simp, by simpa using first⟩
      · intro covers
        exact covers_unique ⟨by simp, by simp, by simpa using first⟩ covers
    · rw [if_neg first, Option.map_eq_some_iff]
      constructor
      · rintro ⟨later, found, rfl⟩
        obtain ⟨inside, lower, upper⟩ := ih.1 found
        refine ⟨by simpa using inside, ?_, ?_⟩ <;> rw [prefix_sum_cons] <;> omega
      · intro covers
        obtain ⟨inside, lower, upper⟩ := covers
        cases index with
        | zero =>
          simp at upper
          omega
        | succ later =>
          rw [prefix_sum_cons] at lower upper
          refine ⟨later, ih.2 ⟨by simpa using inside, ?_, ?_⟩, rfl⟩ <;> omega

theorem locate_is_some (below : number < weights.sum) : (locate weights number).isSome := by
  induction weights generalizing number with
  | nil => simp at below
  | cons weight rest ih =>
    rw [locate]
    split
    · rfl
    · rw [List.sum_cons] at below
      rw [Option.isSome_map]
      exact ih (by omega)

/-- Every number below the sum of the weights has exactly one interval. -/
theorem exists_unique_covers (below : number < weights.sum) :
    ∃! index, Covers weights number index := by
  obtain ⟨index, found⟩ := Option.isSome_iff_exists.1 (locate_is_some below)
  have covers := locate_eq_some_iff.1 found
  exact ⟨index, covers, fun other there => covers_unique there covers⟩

/-! ## Remainders -/

/-- How often one remainder comes up. -/
theorem card_remainder {modulus remainder : ℕ} (size : ℕ) (below : remainder < modulus) :
    size / modulus ≤ ((Finset.range size).filter (· % modulus = remainder)).card ∧
      ((Finset.range size).filter (· % modulus = remainder)).card ≤ size ⌈/⌉ modulus := by
  have positive : 0 < modulus := by omega
  have same : (Finset.range size).filter (· % modulus = remainder) =
      (Finset.range size).filter (· ≡ remainder [MOD modulus]) := by
    refine Finset.filter_congr fun value _ => ?_
    rw [Nat.ModEq, Nat.mod_eq_of_lt below]
  rw [same, ← Nat.count_eq_card_filter_range, Nat.count_modEq_card size positive,
    Nat.ceilDiv_eq_add_pred_div]
  have parts := Nat.div_add_mod size modulus
  refine ⟨Nat.le_add_right _ _, ?_⟩
  rw [Nat.le_div_iff_mul_le positive, Nat.add_mul]
  have quotient : size / modulus * modulus + size % modulus = size := by
    rw [Nat.mul_comm]
    exact parts
  split <;> omega

/-- The remainders of an interval come up in proportion to its length. -/
theorem card_interval {modulus low length : ℕ} (size : ℕ) (inside : low + length ≤ modulus) :
    size / modulus * length ≤ ((Finset.range size).filter fun value =>
        low ≤ value % modulus ∧ value % modulus < low + length).card ∧
      ((Finset.range size).filter fun value =>
        low ≤ value % modulus ∧ value % modulus < low + length).card ≤
          size ⌈/⌉ modulus * length := by
  have fibres := Finset.card_eq_sum_card_fiberwise (f := (· % modulus))
    (s := (Finset.range size).filter fun value =>
      low ≤ value % modulus ∧ value % modulus < low + length)
    (t := Finset.Ico low (low + length)) (by
      intro value mem
      simpa using (Finset.mem_filter.1 mem).2)
  have each : ∀ remainder ∈ Finset.Ico low (low + length),
      (((Finset.range size).filter fun value =>
        low ≤ value % modulus ∧ value % modulus < low + length).filter
          (· % modulus = remainder)) = (Finset.range size).filter (· % modulus = remainder) := by
    intro remainder mem
    obtain ⟨lower, upper⟩ := Finset.mem_Ico.1 mem
    rw [Finset.filter_filter]
    refine Finset.filter_congr fun value _ => ⟨fun both => both.2, fun same => ⟨?_, same⟩⟩
    rw [same]
    exact ⟨lower, upper⟩
  have bounds : ∀ remainder ∈ Finset.Ico low (low + length), remainder < modulus := by
    intro remainder mem
    have upper := (Finset.mem_Ico.1 mem).2
    omega
  have card : (Finset.Ico low (low + length)).card = length := by simp
  rw [fibres, Finset.sum_congr rfl fun remainder mem => congrArg Finset.card (each remainder mem)]
  constructor
  · have sum := Finset.card_nsmul_le_sum (Finset.Ico low (low + length)) _ (size / modulus)
      fun remainder mem => (card_remainder size (bounds remainder mem)).1
    rwa [card, smul_eq_mul, Nat.mul_comm] at sum
  · have sum := Finset.sum_le_card_nsmul (Finset.Ico low (low + length)) _ (size ⌈/⌉ modulus)
      fun remainder mem => (card_remainder size (bounds remainder mem)).2
    rwa [card, smul_eq_mul, Nat.mul_comm] at sum

end Isekai.PrefixSums
