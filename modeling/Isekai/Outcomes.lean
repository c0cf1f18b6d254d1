import Mathlib.Order.Defs.Unbundled

/-! What an operation that may fail ensures of the value that it returns. A condition is carried
through sequences and loops; where the condition relates the state after an operation to the one
before it and is a preorder, each part of the operation can be looked at by itself. -/

namespace Isekai.Outcomes

variable {E A B S : Type}
variable {outcome : Except E A}

/-- The value that the operation returns, if it returns one, meets the condition. -/
def Ensures (outcome : Except E A) (post : A → Prop) : Prop :=
  ∀ value, outcome = .ok value → post value

@[simp] theorem ensures_ok {value : A} {post : A → Prop} :
    Ensures (.ok value : Except E A) post ↔ post value := by
  constructor
  · intro ensured
    exact ensured value rfl
  · intro holds result returned
    cases returned
    exact holds

@[simp] theorem ensures_error {failure : E} {post : A → Prop} :
    Ensures (.error failure : Except E A) post := by
  intro result returned
  cases returned

@[simp] theorem ensures_map {change : A → B} {post : B → Prop} :
    Ensures (outcome.map change) post ↔ Ensures outcome fun value => post (change value) := by
  cases outcome with
  | error failure => simp [Except.map]
  | ok value => simp [Except.map]

theorem map_map {C : Type} {first : A → B} {second : B → C} :
    (outcome.map first).map second = outcome.map fun value => second (first value) := by
  cases outcome <;> rfl

theorem Ensures.mono {outcome : Except E A} {weak strong : A → Prop}
    (ensured : Ensures outcome strong) (weaker : ∀ value, strong value → weak value) :
    Ensures outcome weak :=
  fun value returned => weaker value (ensured value returned)

theorem Ensures.and {one other : A → Prop} (first : Ensures outcome one)
    (second : Ensures outcome other) : Ensures outcome fun value => one value ∧ other value :=
  fun value returned => ⟨first value returned, second value returned⟩

/-- A sequence: the second operation starts from what the first one ensures. -/
theorem Ensures.bind {first : Except E A} {second : A → Except E B} {M : A → Prop}
    {post : B → Prop} (before : Ensures first M)
    (after : ∀ value, M value → Ensures (second value) post) :
    Ensures (first.bind second) post := by
  cases first with
  | error failure => exact ensures_error
  | ok value => exact after value (before value rfl)

/-- A sequence of which nothing is to be known about the first value. -/
theorem ensures_bind {first : Except E A} {second : A → Except E B} {post : B → Prop}
    (after : ∀ value, first = .ok value → Ensures (second value) post) :
    Ensures (first.bind second) post := by
  cases first with
  | error failure => exact ensures_error
  | ok value => exact after value rfl

theorem ensures_ite {condition : Prop} [Decidable condition] {one other : Except E A}
    {post : A → Prop} (holds : condition → Ensures one post)
    (fails : ¬ condition → Ensures other post) :
    Ensures (if condition then one else other) post := by
  by_cases met : condition
  · rw [if_pos met]
    exact holds met
  · rw [if_neg met]
    exact fails met

/-! ## Failures that do not occur -/

theorem bind_ne_error {failure : E} {first : Except E A} {second : A → Except E B}
    (before : first ≠ .error failure) (after : ∀ value, second value ≠ .error failure) :
    first.bind second ≠ .error failure := by
  cases first with
  | error other => exact fun failed => before (congrArg Except.error (Except.error.inj failed))
  | ok value => exact after value

theorem map_ne_error {failure : E} {change : A → B} (before : outcome ≠ .error failure) :
    outcome.map change ≠ .error failure := by
  cases outcome with
  | error other => exact fun failed => before (congrArg Except.error (Except.error.inj failed))
  | ok value => nofun

/-! ## Loops -/

/-- What every turn of a loop keeps, the loop keeps. -/
theorem ensures_foldlM {step : S → A → Except E S} {invariant : S → Prop}
    (kept : ∀ state, invariant state → ∀ item, Ensures (step state item) invariant)
    (items : List A) {state : S} (start : invariant state) :
    Ensures (items.foldlM step state) invariant := by
  induction items generalizing state with
  | nil => exact ensures_ok.2 start
  | cons item rest ih =>
    rw [List.foldlM_cons]
    exact (kept state start item).bind fun next holds => ih holds

/-- A loop over the first numbers, with what holds before each of them. -/
theorem ensures_foldlM_range {step : S → Nat → Except E S} {invariant : Nat → S → Prop}
    (kept : ∀ state index, invariant index state →
      Ensures (step state index) (invariant (index + 1)))
    (count : Nat) {state : S} (start : invariant 0 state) :
    Ensures ((List.range count).foldlM step state) (invariant count) := by
  induction count with
  | zero => exact ensures_ok.2 start
  | succ count ih =>
    rw [List.range_succ, List.foldlM_append]
    exact ih.bind fun middle holds => by
      rw [List.foldlM_cons]
      exact (kept middle count holds).bind fun next further => ensures_ok.2 further

/-! ## Relations between the state before and the state after -/

variable {related : S → S → Prop} [IsPreorder S related]

theorem related_bind {first : Except E S} {second : S → Except E S} {state : S}
    (before : Ensures first (related state))
    (after : ∀ middle, Ensures (second middle) (related middle)) :
    Ensures (first.bind second) (related state) :=
  before.bind fun middle near => (after middle).mono fun _ further => trans_of related near further

theorem related_foldlM {step : S → A → Except E S}
    (kept : ∀ state item, Ensures (step state item) (related state)) (items : List A)
    (state : S) : Ensures (items.foldlM step state) (related state) :=
  ensures_foldlM (fun middle near item =>
      (kept middle item).mono fun _ further => trans_of related near further)
    items (refl_of related state)

end Isekai.Outcomes
