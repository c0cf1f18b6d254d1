import Mathlib.Data.Int.ModEq
import Mathlib.Tactic.Linarith

/-! Guards that keep two actions at least an interval apart with a clock that wraps. A marker, known
modulo the period of the clock, stands for a time in the past. An action is allowed once the marker
is an interval old, which sets the marker to the present; at other times a marker that has become
older than the interval is made to trail the present by the interval. -/

namespace Isekai.TimeGuard

variable {next : ℤ}

/-- The age of a marker as the clock shows it. -/
def age (period now marker : ℤ) : ℤ := (now - marker) % period

variable {period marker last now base interval gap floor : ℤ}

theorem age_of_marks {time : ℤ} (marks : marker ≡ time [ZMOD period]) :
    age period now marker = (now - time) % period :=
  Int.ModEq.sub rfl marks

/-- A marker is shown no older than it is. -/
theorem age_le {time : ℤ} (positive : 0 < period) (marks : marker ≡ time [ZMOD period])
    (past : time ≤ now) : age period now marker ≤ now - time := by
  have wraps : 0 ≤ period * ((now - time) / period) :=
    Int.mul_nonneg positive.le (Int.ediv_nonneg (by omega) positive.le)
  have shown := Int.emod_add_mul_ediv (now - time) period
  rw [age_of_marks marks]
  linarith

/-- A marker younger than the period is shown with its age. -/
theorem age_eq {time : ℤ} (marks : marker ≡ time [ZMOD period]) (past : time ≤ now)
    (young : now - time < period) : age period now marker = now - time := by
  rw [age_of_marks marks]
  exact Int.emod_eq_of_lt (by omega) young

/-! ## Actions are apart -/

/-- The marker stands for a time from `floor` to `last`. -/
def Since (period marker last floor : ℤ) : Prop :=
  ∃ time, marker ≡ time [ZMOD period] ∧ floor ≤ time ∧ time ≤ last

theorem since_now (marks : marker ≡ now [ZMOD period]) (passed : floor ≤ now) :
    Since period marker now floor :=
  ⟨now, marks, passed, le_refl now⟩

theorem since_congr (same : next ≡ marker [ZMOD period]) (since : Since period marker last floor) :
    Since period next last floor := by
  obtain ⟨time, marks, bounds⟩ := since
  exact ⟨time, same.trans marks, bounds⟩

theorem since_later (since : Since period marker last floor) (later : last ≤ now) :
    Since period marker now floor := by
  obtain ⟨time, marks, after, before⟩ := since
  exact ⟨time, marks, after, le_trans before later⟩

theorem since_trailing (positive : 0 < period) (since : Since period marker last floor)
    (later : last ≤ now) (some_time : 0 ≤ interval) (old : interval < age period now marker)
    (marks : next ≡ now - interval [ZMOD period]) : Since period next now floor := by
  obtain ⟨time, marked, after, before⟩ := since
  have shown := age_le positive marked (le_trans before later)
  exact ⟨now - interval, marks, by omega, by omega⟩

/-- What is allowed now is an interval later than the floor, however often the clock wrapped. -/
theorem apart_of_allowed (positive : 0 < period) (since : Since period marker last floor)
    (later : last ≤ now) (allowed : interval ≤ age period now marker) : floor + interval ≤ now := by
  obtain ⟨time, marks, after, before⟩ := since
  have shown := age_le positive marks (le_trans before later)
  omega

/-! ## Actions are not held back -/

/-- The marker stands for a time at most an interval before the last event: for the time of the last
action, or for one that trailed an event by the interval. -/
def Tight (period interval marker last base : ℤ) : Prop :=
  ∃ time, marker ≡ time [ZMOD period] ∧ time ≤ last ∧ last ≤ time + interval ∧
    (time = base ∨ time + interval ≤ last)

theorem tight_now (some_time : 0 ≤ interval) (marks : marker ≡ now [ZMOD period]) :
    Tight period interval marker now now :=
  ⟨now, marks, le_refl now, by omega, .inl rfl⟩

theorem tight_congr (same : next ≡ marker [ZMOD period])
    (tight : Tight period interval marker last base) : Tight period interval next last base := by
  obtain ⟨time, marks, bounds⟩ := tight
  exact ⟨time, same.trans marks, bounds⟩

theorem tight_age (tight : Tight period interval marker last base) (later : last ≤ now)
    (soon : now < last + gap) (fits : interval + gap ≤ period) :
    ∃ time, marker ≡ time [ZMOD period] ∧ age period now marker = now - time ∧ time ≤ last ∧
      (time = base ∨ time + interval ≤ last) := by
  obtain ⟨time, marks, past, near, kind⟩ := tight
  exact ⟨time, marks, age_eq marks (by omega) (by omega), past, kind⟩

theorem tight_trailing (some_time : 0 ≤ interval) (marks : next ≡ now - interval [ZMOD period]) :
    Tight period interval next now base :=
  ⟨now - interval, marks, by omega, by omega, .inr (by omega)⟩

theorem tight_kept (tight : Tight period interval marker last base) (later : last ≤ now)
    (soon : now < last + gap) (fits : interval + gap ≤ period)
    (young : age period now marker ≤ interval) : Tight period interval marker now base := by
  obtain ⟨time, marks, shown, past, kind⟩ := tight_age tight later soon fits
  refine ⟨time, marks, by omega, by omega, ?_⟩
  rcases kind with acted | trailed
  · exact .inl acted
  · exact .inr (by omega)

/-- An interval after the last action the next one is allowed, if events are close enough. -/
theorem allowed_of_tight (tight : Tight period interval marker last base) (later : last ≤ now)
    (soon : now < last + gap) (fits : interval + gap ≤ period) (due : base + interval ≤ now) :
    interval ≤ age period now marker := by
  obtain ⟨time, marks, shown, past, kind⟩ := tight_age tight later soon fits
  rcases kind with rfl | trailed
  · omega
  · omega

end Isekai.TimeGuard
