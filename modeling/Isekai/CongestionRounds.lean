import Mathlib.Algebra.BigOperators.Group.List.Basic
import Mathlib.Algebra.GroupWithZero.Nat
import Mathlib.Data.Rat.Defs

/-! Rounds of acknowledged packets, and the decision to leave a path after a number of consecutive
congested rounds. A history of reports is cut into rounds, and three counters follow it. -/

namespace Isekai.CongestionRounds

/-- An acknowledgement of packets, whether they count as congested, and the number of packets that
completes a round now. -/
structure Report where
  packets : ℕ
  congested : Bool
  size : ℚ
  deriving DecidableEq, Repr

/-- A completed round: whether it was congested, and whether the path was left after it. -/
structure Round where
  congested : Bool
  left : Bool
  deriving DecidableEq, Repr

/-- A history, newest first: the reports since the last completed round, and the rounds. -/
structure History where
  current : List Report := []
  rounds : List Round := []
  deriving DecidableEq, Repr

/-- The packets that reports acknowledge. -/
def acknowledged (reports : List Report) : ℕ := (reports.map Report.packets).sum

/-- The packets among them that count as congested. -/
def congestedPackets (reports : List Report) : ℕ :=
  acknowledged (reports.filter Report.congested)

/-- The consecutive congested rounds since the path was left or a round was not congested. -/
def streak (rounds : List Round) : ℕ :=
  (rounds.takeWhile fun round => round.congested && !round.left).length

namespace History
variable (history : History) (report : Report) (congestedRound : ℕ → ℕ → Bool)

/-- Whether a report completes the round. -/
def Completes : Prop := report.size ≤ acknowledged (report :: history.current)

instance : Decidable (history.Completes report) := inferInstanceAs (Decidable (_ ≤ _))

/-- Whether the round that a report completes is congested. -/
def verdict : Bool :=
  congestedRound (acknowledged (report :: history.current))
    (congestedPackets (report :: history.current))

/-- The path is to be left: the report completes a congested round, and with it the configured
number of consecutive ones is reached. -/
def Due (threshold : ℕ) : Prop :=
  history.Completes report ∧ history.verdict report congestedRound = true ∧
    threshold ≤ streak history.rounds + 1

/-- The history after a report, and whether the path was left at it. -/
def after (left : Bool) : History :=
  if history.Completes report then
    { current := []
      rounds := { congested := history.verdict report congestedRound, left } :: history.rounds }
  else { history with current := report :: history.current }

end History

/-- The counters of a path. -/
structure Counters where
  acknowledged : ℕ := 0
  congested : ℕ := 0
  attempts : ℕ := 0
  deriving DecidableEq, Repr

/-- The counters after a report, and whether to leave the path. -/
def Counters.step (congestedRound : ℕ → ℕ → Bool) (threshold : ℕ) (counters : Counters)
    (report : Report) : Bool × Counters :=
  let acknowledged := counters.acknowledged + report.packets
  let congested := counters.congested + if report.congested then report.packets else 0
  if report.size ≤ acknowledged then
    if congestedRound acknowledged congested then
      if threshold ≤ counters.attempts + 1 then (true, {})
      else (false, { attempts := counters.attempts + 1 })
    else (false, {})
  else (false, { counters with acknowledged, congested })

@[simp] theorem acknowledged_nil : acknowledged [] = 0 := rfl

theorem acknowledged_cons (report : Report) (reports : List Report) :
    acknowledged (report :: reports) = report.packets + acknowledged reports :=
  List.sum_cons

@[simp] theorem congested_packets_nil : congestedPackets [] = 0 := rfl

theorem congested_packets_cons (report : Report) (reports : List Report) :
    congestedPackets (report :: reports) =
      (if report.congested then report.packets else 0) + congestedPackets reports := by
  unfold congestedPackets
  cases marked : report.congested <;> simp [marked, acknowledged_cons]

@[simp] theorem streak_nil : streak [] = 0 := rfl

theorem streak_cons (round : Round) (rounds : List Round) :
    streak (round :: rounds) = if round.congested && !round.left then streak rounds + 1 else 0 := by
  unfold streak
  rw [List.takeWhile_cons]
  by_cases goes_on : (round.congested && !round.left) = true <;> simp [goes_on]

/-- The counters are those of the history. -/
structure Follows (counters : Counters) (history : History) : Prop where
  acknowledged : counters.acknowledged = acknowledged history.current
  congested : counters.congested = congestedPackets history.current
  attempts : counters.attempts = streak history.rounds

theorem follows_empty : Follows {} {} := ⟨rfl, rfl, rfl⟩

section
variable {congestedRound : ℕ → ℕ → Bool} {threshold : ℕ} {counters : Counters}
  {history : History} {report : Report}

theorem acknowledged_next (follows : Follows counters history) :
    counters.acknowledged + report.packets =
      acknowledged (report :: history.current) := by
  rw [acknowledged_cons, follows.acknowledged, Nat.add_comm]

theorem congested_next (follows : Follows counters history) :
    (counters.congested + if report.congested then report.packets else 0) =
      congestedPackets (report :: history.current) := by
  rw [congested_packets_cons, follows.congested, Nat.add_comm]

/-- The counters decide as the history says. -/
theorem step_decides (follows : Follows counters history) :
    (counters.step congestedRound threshold report).1 = true ↔
      history.Due report congestedRound threshold := by
  unfold Counters.step History.Due History.Completes History.verdict
  rw [acknowledged_next follows, congested_next follows, follows.attempts]
  by_cases complete : report.size ≤ CongestionRounds.acknowledged (report :: history.current)
  · cases marked : congestedRound (CongestionRounds.acknowledged (report :: history.current))
      (congestedPackets (report :: history.current)) with
    | false => simp only [complete, marked, Bool.false_eq_true, ↓reduceIte, false_and, and_false]
    | true =>
      by_cases enough : threshold ≤ streak history.rounds + 1 <;>
        simp only [complete, marked, enough, ↓reduceIte, Bool.false_eq_true, and_self, and_false]
  · simp only [complete, Bool.false_eq_true, ↓reduceIte, false_and]

/-- The counters go on following the history. -/
theorem step_follows (follows : Follows counters history) :
    Follows (counters.step congestedRound threshold report).2
      (history.after report congestedRound (counters.step congestedRound threshold report).1) := by
  unfold Counters.step History.after History.Completes History.verdict
  rw [acknowledged_next follows, congested_next follows, follows.attempts]
  by_cases complete : report.size ≤ CongestionRounds.acknowledged (report :: history.current)
  · cases marked : congestedRound (CongestionRounds.acknowledged (report :: history.current))
      (congestedPackets (report :: history.current)) with
    | false =>
      simp only [complete, marked, ↓reduceIte, Bool.false_eq_true]
      exact ⟨rfl, rfl, by simp [streak_cons]⟩
    | true =>
      by_cases enough : threshold ≤ streak history.rounds + 1
      · simp only [complete, marked, enough, ↓reduceIte]
        exact ⟨rfl, rfl, by simp [streak_cons]⟩
      · simp only [complete, marked, enough, ↓reduceIte]
        exact ⟨rfl, rfl, by simp [streak_cons]⟩
  · simp only [complete, ↓reduceIte]
    exact ⟨rfl, rfl, rfl⟩

/-- What a step can do: reset the counters, count a congested round, or count the packets. -/
theorem step_cases (congestedRound : ℕ → ℕ → Bool) (threshold : ℕ) (counters : Counters)
    (report : Report) :
    (counters.step congestedRound threshold report).2 = {} ∨
    ((counters.step congestedRound threshold report).2 = { attempts := counters.attempts + 1 } ∧
      counters.attempts + 1 < threshold) ∨
    ((counters.acknowledged + report.packets : ℕ) < report.size ∧
      (counters.step congestedRound threshold report).2 = { counters with
        acknowledged := counters.acknowledged + report.packets
        congested := counters.congested + if report.congested then report.packets else 0 }) := by
  unfold Counters.step
  by_cases complete : report.size ≤ (counters.acknowledged + report.packets : ℕ)
  · cases congested : congestedRound (counters.acknowledged + report.packets)
      (counters.congested + if report.congested then report.packets else 0) with
    | false => exact .inl (by simp only [complete, congested, Bool.false_eq_true, ↓reduceIte])
    | true =>
      by_cases enough : threshold ≤ counters.attempts + 1
      · exact .inl (by simp only [complete, congested, enough, ↓reduceIte])
      · exact .inr (.inl ⟨by simp only [complete, congested, enough, ↓reduceIte], by omega⟩)
  · exact .inr (.inr ⟨Rat.not_le.1 complete, by simp only [complete, ↓reduceIte]⟩)

/-- Congested packets are among the acknowledged ones. -/
theorem step_ordered (ordered : counters.congested ≤ counters.acknowledged) :
    (counters.step congestedRound threshold report).2.congested ≤
      (counters.step congestedRound threshold report).2.acknowledged := by
  obtain reset | ⟨counted, -⟩ | ⟨-, added⟩ := step_cases congestedRound threshold counters report
  · rw [reset]
  · rw [counted]
  · rw [added]
    dsimp only
    split <;> omega

/-- Fewer rounds are counted than it takes to leave the path. -/
theorem step_attempts (few : counters.attempts < max 1 threshold) :
    (counters.step congestedRound threshold report).2.attempts < max 1 threshold := by
  obtain reset | ⟨counted, below⟩ | ⟨-, added⟩ :=
    step_cases congestedRound threshold counters report
  · rw [reset]
    exact lt_of_lt_of_le Nat.one_pos (le_max_left 1 threshold)
  · rw [counted]
    exact lt_of_lt_of_le below (le_max_right 1 threshold)
  · rw [added]
    exact few

end

end Isekai.CongestionRounds
