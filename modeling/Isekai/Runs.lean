import Mathlib.Logic.Relation

/-! States that a system reaches by its steps, and the rule that an invariant of the initial
states which every step preserves holds in all of them; and runs that can be executed. -/

namespace Isekai.Runs

variable {State : Type} {initial : State → Prop} {step : State → State → Prop}

/-- The states that some run of steps leads to from an initial state. -/
def Reachable (initial : State → Prop) (step : State → State → Prop) (state : State) : Prop :=
  ∃ first, initial first ∧ Relation.ReflTransGen step first state

theorem reachable_initial {state : State} (first : initial state) :
    Reachable initial step state :=
  ⟨state, first, .refl⟩

theorem reachable_step {state next : State} (reached : Reachable initial step state)
    (taken : step state next) : Reachable initial step next := by
  obtain ⟨first, started, path⟩ := reached
  exact ⟨first, started, path.tail taken⟩

/-- The invariant rule. -/
theorem invariant_of_reachable {invariant : State → Prop}
    (established : ∀ state, initial state → invariant state)
    (preserved : ∀ state next, invariant state → step state next → invariant next)
    {state : State} (reached : Reachable initial step state) : invariant state := by
  obtain ⟨first, started, path⟩ := reached
  induction path with
  | refl => exact established first started
  | tail _ taken ih => exact preserved _ _ ih taken

/-- The invariant rule, with the help of what is already known of all reachable states. -/
theorem invariant_of_reachable_with {known invariant : State → Prop}
    (holds : ∀ state, Reachable initial step state → known state)
    (established : ∀ state, initial state → invariant state)
    (preserved : ∀ state next, known state → invariant state → step state next → invariant next)
    {state : State} (reached : Reachable initial step state) : invariant state := by
  obtain ⟨first, started, path⟩ := reached
  induction path with
  | refl => exact established first started
  | tail before taken ih => exact preserved _ _ (holds _ ⟨first, started, before⟩) ih taken

/-! ## Executed runs -/

/-- The result of an operation, if it is allowed and succeeds. -/
def attempt {Failure : Type} (allowed : Prop) [Decidable allowed]
    (result : Except Failure State) : Option State :=
  if allowed then result.toOption else none

theorem attempt_eq_some {Failure : Type} {allowed : Prop} [Decidable allowed]
    {result : Except Failure State} {next : State} :
    attempt allowed result = some next ↔ allowed ∧ result = .ok next := by
  unfold attempt
  by_cases met : allowed <;> cases result <;> simp [met, Except.toOption]

variable {Event : Type} {perform : State → Event → Option State}

/-- The state after some events, if each of them succeeds. -/
def execute (perform : State → Event → Option State) : List Event → State → Option State
  | [], state => some state
  | event :: rest, state => (perform state event).bind (execute perform rest)

theorem execute_steps (taken : ∀ state event next, perform state event = some next →
      step state next) {events : List Event} {state next : State}
    (done : execute perform events state = some next) :
    Relation.ReflTransGen step state next := by
  induction events generalizing state with
  | nil =>
    cases done
    exact .refl
  | cons event rest ih =>
    obtain ⟨middle, performed, after⟩ := Option.bind_eq_some_iff.1 done
    exact .head (taken state event middle performed) (ih after)

/-- A state that some events lead to, and what a decidable test says of it. -/
theorem reached_with (taken : ∀ state event next, perform state event = some next →
      step state next) {events : List Event} {first : State} (started : initial first)
    {test : State → Bool} (tested : (execute perform events first).any test = true) :
    ∃ state, Reachable initial step state ∧ test state = true := by
  obtain ⟨state, done, holds⟩ := (Option.any_eq_true _ _).1 tested
  exact ⟨state, ⟨first, started, execute_steps taken done⟩, holds⟩

end Isekai.Runs
