import Mathlib.Data.UInt

/-! Types that the components of the Falcon model share: packet types, ordering modes,
the status codes that functions return, the ways in which a run aborts, and durations. -/

namespace Isekai

/-- `falcon::PacketType`. -/
inductive PacketType where
  | pullRequest | pushRequest | pushGrant | pullData | pushSolicitedData | pushUnsolicitedData
  | resync | ack | nack | back | eack | invalid
  deriving DecidableEq, Repr

/-- `OrderingMode` of a connection. -/
inductive OrderingMode where
  | ordered | unordered
  deriving DecidableEq, Repr

/-- The codes of `absl::Status` that the components return. -/
inductive Status where
  | ok | notFound | alreadyExists | failedPrecondition | resourceExhausted | invalidArgument
  | unimplemented
  deriving DecidableEq, Repr

/-- Why a run stops: a `CHECK` that failed or a `LOG(FATAL)` that was reached. -/
inductive Abort where
  | unknownConnection
  | rsnAlreadyBuffered
  | rsnNotBuffered
  | unsupportedPacketType
  | unexpectedPacketType
  | unexpectedRsn
  | unknownTransaction
  | unknownPacket
  | unexpectedTransactionState
  | unexpectedLength
  | unknownQueues
  | emptyQueue
  | noCandidate
  | cannotSend
  | tokensUnavailable
  | policyEntity
  | bitmapIndex
  | unknownPsn
  | retransmissionLimit
  | earlyRetransmissionLimit
  | windowTooSmall
  | endlessLoop
  | negativeDelay
  deriving DecidableEq, Repr

/-- A sequence of two operations returns what its second one does after its first. -/
theorem bind_eq_ok {E A B : Type} {first : Except E A} {second : A → Except E B} {result : B} :
    (first >>= second) = .ok result ↔ ∃ value, first = .ok value ∧ second value = .ok result := by
  cases first with
  | error abort => simp [bind, Except.bind]
  | ok value => simp [bind, Except.bind]

theorem map_eq_ok {E A B : Type} {first : Except E A} {change : A → B} {result : B} :
    first.map change = .ok result ↔ ∃ value, first = .ok value ∧ change value = result := by
  cases first with
  | error abort => simp [Except.map]
  | ok value => simp [Except.map]

theorem toOption_eq_some {E A : Type} {first : Except E A} {value : A} :
    first.toOption = some value ↔ first = .ok value := by
  cases first <;> simp [Except.toOption]

/-- What every step of a loop keeps, the loop keeps. -/
theorem foldlM_keeps {E S A : Type} {step : S → A → Except E S} {keeps : S → Prop}
    (kept : ∀ state item next, keeps state → step state item = .ok next → keeps next)
    {items : List A} {state final : S} (start : keeps state)
    (done : items.foldlM step state = .ok final) : keeps final := by
  induction items generalizing state with
  | nil =>
    cases done
    exact start
  | cons item rest ih =>
    rw [List.foldlM_cons] at done
    obtain ⟨middle, first, after⟩ := bind_eq_ok.1 done
    exact ih (kept state item middle start first) after

/-- `absl::Duration` as the model's clocks use it: a number of ticks, or infinite. -/
inductive Duration where
  | ticks (count : Nat)
  | infinite
  deriving DecidableEq, Repr

namespace Duration

/-- `absl::ZeroDuration()`. -/
def zero : Duration := .ticks 0

/-- `duration <= now` for a clock reading. -/
def elapsedBy : Duration → Nat → Bool
  | ticks count, now => count ≤ now
  | infinite, _ => false

@[simp] theorem elapsed_zero (now : Nat) : zero.elapsedBy now = true := by
  simp [zero, elapsedBy]

@[simp] theorem elapsed_infinite (now : Nat) : infinite.elapsedBy now = false := rfl

@[simp] theorem zero_ne_infinite : zero ≠ infinite := by
  simp [zero]

end Duration
end Isekai
