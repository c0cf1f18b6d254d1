import Isekai.Binary64

/-! Rounding to double precision keeps the order of numbers. -/

namespace Isekai.Binary64

variable {value : ℚ}

theorem floor_le_halfEven (value : ℚ) : ⌊value⌋ ≤ halfEven value := by
  unfold halfEven
  dsimp only
  split_ifs <;> omega

theorem halfEven_le_succ (value : ℚ) : halfEven value ≤ ⌊value⌋ + 1 := by
  unfold halfEven
  dsimp only
  split_ifs <;> omega

theorem halfEven_mono {lower upper : ℚ} (le : lower ≤ upper) :
    halfEven lower ≤ halfEven upper := by
  by_cases same : ⌊lower⌋ = ⌊upper⌋
  · -- between the same integers the larger number has the larger fraction
    have fractions : lower - ⌊lower⌋ ≤ upper - ⌊upper⌋ := by
      rw [same]
      exact sub_le_sub_right le _
    unfold halfEven
    dsimp only
    rw [same] at fractions ⊢
    split_ifs <;> first | omega | (exfalso; linarith)
  · have apart : ⌊lower⌋ < ⌊upper⌋ := lt_of_le_of_ne (Int.floor_le_floor le) same
    calc halfEven lower ≤ ⌊lower⌋ + 1 := halfEven_le_succ lower
      _ ≤ ⌊upper⌋ := apart
      _ ≤ halfEven upper := floor_le_halfEven upper

theorem halfEven_le {whole : ℤ} (le : value ≤ whole) : halfEven value ≤ whole :=
  (halfEven_mono le).trans_eq (halfEven_intCast whole)

theorem le_halfEven {whole : ℤ} (le : whole ≤ value) : whole ≤ halfEven value :=
  (halfEven_intCast whole).symm.trans_le (halfEven_mono le)

theorem unit_pos (value : ℚ) : (0 : ℚ) < 2 ^ unitExponent value := zpow_pos (by norm_num) _

theorem round_nonneg (nonneg : 0 ≤ value) : 0 ≤ round value := by
  have whole : (0 : ℤ) ≤ halfEven (value / 2 ^ unitExponent value) := by
    refine le_halfEven ?_
    rw [Int.cast_zero]
    exact div_nonneg nonneg (unit_pos value).le
  exact mul_nonneg (by exact_mod_cast whole) (unit_pos value).le

theorem round_nonpos (nonpos : value ≤ 0) : round value ≤ 0 := by
  have whole : halfEven (value / 2 ^ unitExponent value) ≤ (0 : ℤ) := by
    refine halfEven_le ?_
    rw [Int.cast_zero]
    exact div_nonpos_of_nonpos_of_nonneg nonpos (unit_pos value).le
  exact mul_nonpos_of_nonpos_of_nonneg (by exact_mod_cast whole) (unit_pos value).le

/-- A power of two that is not below the number is not below its rounding, if it is a multiple of
the unit. -/
theorem round_le_two_pow {exponent : ℤ} (multiple : unitExponent value ≤ exponent)
    (le : value ≤ 2 ^ exponent) : round value ≤ 2 ^ exponent := by
  obtain ⟨places, shift⟩ := Int.eq_ofNat_of_zero_le (sub_nonneg.2 multiple)
  have scaled : (2 : ℚ) ^ exponent = ((2 ^ places : ℤ) : ℚ) * 2 ^ unitExponent value := by
    have sum : exponent = places + unitExponent value := by omega
    rw [sum, zpow_add₀ (by norm_num)]
    push_cast
    rw [zpow_natCast]
  rw [scaled] at le ⊢
  refine mul_le_mul_of_nonneg_right ?_ (unit_pos value).le
  exact_mod_cast halfEven_le ((div_le_iff₀ (unit_pos value)).2 le)

theorem two_pow_le_round {exponent : ℤ} (multiple : unitExponent value ≤ exponent)
    (le : 2 ^ exponent ≤ value) : 2 ^ exponent ≤ round value := by
  obtain ⟨places, shift⟩ := Int.eq_ofNat_of_zero_le (sub_nonneg.2 multiple)
  have scaled : (2 : ℚ) ^ exponent = ((2 ^ places : ℤ) : ℚ) * 2 ^ unitExponent value := by
    have sum : exponent = places + unitExponent value := by omega
    rw [sum, zpow_add₀ (by norm_num)]
    push_cast
    rw [zpow_natCast]
  rw [scaled] at le ⊢
  refine mul_le_mul_of_nonneg_right ?_ (unit_pos value).le
  exact_mod_cast le_halfEven ((le_div_iff₀ (unit_pos value)).2 le)

/-- Numbers of the same exponent are rounded to multiples of the same unit, and a power of two
stands between numbers of different ones. -/
theorem round_mono {lower upper : ℚ} (nonneg : 0 ≤ lower) (le : lower ≤ upper) :
    round lower ≤ round upper := by
  rcases nonneg.eq_or_lt with zero | positive
  · rw [← zero] at le ⊢
    exact (round_nonpos le_rfl).trans (round_nonneg le)
  · have upperPositive : 0 < upper := positive.trans_le le
    have logs : Int.log 2 |lower| ≤ Int.log 2 |upper| := by
      rw [abs_of_pos positive, abs_of_pos upperPositive]
      exact Int.log_mono_right positive le
    by_cases same : unitExponent lower = unitExponent upper
    · unfold round
      rw [same]
      refine mul_le_mul_of_nonneg_right ?_ (unit_pos upper).le
      exact_mod_cast halfEven_mono (div_le_div_of_nonneg_right le (unit_pos upper).le)
    · rw [abs_of_pos positive, abs_of_pos upperPositive] at logs
      have exponents : unitExponent lower ≤ Int.log 2 upper ∧
          unitExponent upper ≤ Int.log 2 upper ∧ Int.log 2 lower + 1 ≤ Int.log 2 upper := by
        unfold unitExponent at same ⊢
        rw [abs_of_pos positive, abs_of_pos upperPositive] at same ⊢
        omega
      have below : lower ≤ 2 ^ Int.log 2 upper := by
        refine (Int.lt_zpow_succ_log_self (by norm_num : 1 < 2) lower).le.trans ?_
        exact zpow_le_zpow_right₀ (by norm_num) exponents.2.2
      exact (round_le_two_pow exponents.1 below).trans
        (two_pow_le_round exponents.2.1 (Int.zpow_log_le_self (by norm_num) upperPositive))

end Isekai.Binary64
