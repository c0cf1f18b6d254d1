import Isekai.ReliabilityState

/-! The phases of a transaction, as far as its own side sends packets for it: the states before a
packet is sent, the one in which it may be sent, and those in which a request that was sent
is still to be answered. A transaction goes back to none of them before it is started anew. -/

namespace Isekai.TransactionPhases

/-- The state in which a transaction waits for its packet of the type to be sent. -/
def waitingState : PacketType → Option TransactionState
  | .pullRequest => some .pullReqUlpRx
  | .pullData => some .pullDataUlpRx
  | .pushRequest => some .pushSolicitedReqUlpRx
  | .pushGrant => some .pushReqNtwkRx
  | .pushSolicitedData => some .pushGrantNtwkRx
  | .pushUnsolicitedData => some .pushUnsolicitedReqUlpRx
  | _ => none

/-- The state after the packet of the type is sent. -/
def sentState : PacketType → Option TransactionState
  | .pullRequest => some .pullReqNtwkTx
  | .pullData => some .pullDataNtwkTx
  | .pushRequest => some .pushReqNtwkTx
  | .pushGrant => some .pushGrantNtwkTx
  | .pushSolicitedData => some .pushSolicitedDataNtwkTx
  | .pushUnsolicitedData => some .pushUnsolicitedDataNtwkTx
  | _ => none

/-- The states before the packet of the type is sent. -/
def unsentStates : PacketType → List TransactionState
  | .pullRequest => [.pullReqUlpRx]
  | .pullData =>
    [.pullReqNtwkRx, .pullReqUlpTx, .pullReqRnrUlpRx, .pullReqAckUlpRx, .pullDataUlpRx]
  | .pushRequest => [.pushSolicitedReqUlpRx]
  | .pushGrant => [.pushReqNtwkRx]
  | .pushSolicitedData => [.pushSolicitedReqUlpRx, .pushReqNtwkTx, .pushGrantNtwkRx]
  | .pushUnsolicitedData => [.pushUnsolicitedReqUlpRx]
  | _ => []

/-- The states of a push request that was sent and whose data is not acknowledged. -/
def pushingStates : List TransactionState :=
  [.pushReqNtwkTx, .pushGrantNtwkRx, .pushSolicitedDataNtwkTx]

/-- The events that start a transaction, in whatever state it is. -/
def Begins (type : PacketType) (stage : TransactionStage) : Prop :=
  (type = .pullRequest ∨ type = .pushRequest ∨ type = .pushUnsolicitedData) ∧
    (stage = .ulpRx ∨ stage = .ntwkRx)

/-- Where a running transaction goes without sending anything. -/
def moves : List (TransactionState × TransactionState) := [
  (.pullReqNtwkRx, .pullReqUlpTx), (.pullReqRnrUlpRx, .pullReqUlpTx),
  (.pullReqUlpTx, .pullReqAckUlpRx),
  (.pullReqUlpTx, .pullReqRnrUlpRx), (.pullReqNtwkRx, .pullReqRnrUlpRx),
  (.pullReqAckUlpRx, .pullDataUlpRx), (.pullDataNtwkRx, .pullDataUlpTx),
  (.pullReqNtwkTx, .pullDataNtwkRx), (.pullDataNtwkTx, .pullDataAckNtwkRx),
  (.pushReqNtwkTx, .pushGrantNtwkRx),
  (.pushSolicitedDataNtwkRx, .pushSolicitedDataUlpTx),
  (.pushSolicitedDataRnrUlpRx, .pushSolicitedDataUlpTx),
  (.pushSolicitedDataUlpTx, .pushSolicitedDataAckUlpRx),
  (.pushSolicitedDataAckNtwkRx, .pushCompletionUlpTx),
  (.pushGrantNtwkTx, .pushSolicitedDataNtwkRx),
  (.pushSolicitedDataNtwkTx, .pushSolicitedDataAckNtwkRx),
  (.pushSolicitedDataUlpTx, .pushSolicitedDataRnrUlpRx),
  (.pushSolicitedDataNtwkRx, .pushSolicitedDataRnrUlpRx),
  (.pushUnsolicitedDataNtwkRx, .pushUnsolicitedDataUlpTx),
  (.pushUnsolicitedDataRnrUlpRx, .pushUnsolicitedDataUlpTx),
  (.pushUnsolicitedDataUlpTx, .pushUnsolicitedDataAckUlpRx),
  (.pushUnsolicitedDataAckNtwkRx, .pushCompletionUlpTx),
  (.pushUnsolicitedDataNtwkTx, .pushUnsolicitedDataAckNtwkRx),
  (.pushUnsolicitedDataUlpTx, .pushUnsolicitedDataRnrUlpRx),
  (.pushUnsolicitedDataNtwkRx, .pushUnsolicitedDataRnrUlpRx)]

variable {state next : TransactionState} {type other : PacketType} {stage : TransactionStage}

theorem expect_eq_ok {allowed : List TransactionState} {following : TransactionState} :
    state.expect allowed following = .ok next ↔ state ∈ allowed ∧ following = next := by
  unfold TransactionState.expect
  by_cases expected : state ∈ allowed <;> simp [expected]

theorem update_moves (updated : state.update type stage = .ok next) (later : ¬ Begins type stage)
    (unsent : stage ≠ .ntwkTx) : next = state ∨ (state, next) ∈ moves := by
  have listed {allowed : List TransactionState} {following : TransactionState}
      (expected : state ∈ allowed ∧ following = next)
      (all : ∀ before ∈ allowed, (before, following) ∈ moves) : (state, next) ∈ moves :=
    expected.2 ▸ all state expected.1
  cases type <;> cases stage <;>
    simp only [TransactionState.update, expect_eq_ok, Except.ok.injEq, reduceCtorEq] at updated
  all_goals first
    | exact .inl updated.symm
    | exact .inr (listed updated (by decide))
    | exact absurd rfl unsent
    | exact absurd ⟨by decide, by decide⟩ later

theorem update_sent (updated : state.update type .ntwkTx = .ok next) :
    waitingState type = some state ∧ sentState type = some next := by
  cases type <;>
    simp only [TransactionState.update, expect_eq_ok, reduceCtorEq, List.mem_singleton] at updated
  all_goals
    obtain ⟨rfl, rfl⟩ := updated
    exact ⟨rfl, rfl⟩

/-! ## What a running transaction does not go back to -/

theorem unsent_before (updated : state.update type stage = .ok next) (later : ¬ Begins type stage)
    (unsent : next ∈ unsentStates other) : state ∈ unsentStates other := by
  by_cases sends : stage = .ntwkTx
  · subst sends
    obtain ⟨waits, sent⟩ := update_sent updated
    revert unsent
    cases type <;> cases waits <;> cases sent <;> cases other <;> decide
  · rcases update_moves updated later sends with rfl | moved
    · exact unsent
    · have backward : ∀ move ∈ moves, move.2 ∈ unsentStates other → move.1 ∈ unsentStates other := by
        cases other <;> decide
      exact backward _ moved unsent

/-- Once the packet of a type is sent, its transaction is in none of the states before that. -/
theorem sent_after (updated : state.update type .ntwkTx = .ok next) : next ∉ unsentStates type := by
  obtain ⟨_, sent⟩ := update_sent updated
  cases type <;> cases sent <;> decide

theorem waiting_unsent (waits : waitingState type = some state) : state ∈ unsentStates type := by
  cases type <;> cases waits <;> decide

/-- A transaction that waits for a packet to be sent goes on only by sending it. -/
theorem waiting_stays (updated : state.update type stage = .ok next) (later : ¬ Begins type stage)
    (waits : waitingState other = some state) (unsent : stage ≠ .ntwkTx) : next = state := by
  rcases update_moves updated later unsent with same | moved
  · exact same
  · have leaves : ∀ move ∈ moves, waitingState other ≠ some move.1 := by
      cases other <;> decide
    exact absurd waits (leaves _ moved)

theorem waiting_injective (one : waitingState type = some state)
    (two : waitingState other = some state) : type = other := by
  cases type <;> cases one <;> cases other <;> first | rfl | cases two

theorem pushing_before (updated : state.update type stage = .ok next) (later : ¬ Begins type stage)
    (sends : type ≠ .pushRequest ∨ stage ≠ .ntwkTx) (pushing : next ∈ pushingStates) :
    state ∈ pushingStates := by
  by_cases unsent : stage = .ntwkTx
  · subst unsent
    obtain ⟨waits, sent⟩ := update_sent updated
    revert sends pushing
    cases type <;> cases waits <;> cases sent <;> decide
  · rcases update_moves updated later unsent with rfl | moved
    · exact pushing
    · have backward : ∀ move ∈ moves, move.2 ∈ pushingStates → move.1 ∈ pushingStates := by decide
      exact backward _ moved pushing

end Isekai.TransactionPhases
