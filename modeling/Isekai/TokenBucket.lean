import Isekai.Outcomes
import Isekai.Runs
import Mathlib.Data.Int.CardIntervalMod

/-! `TokenBucket` with the integer types of the code. Times are in quarters of a nanosecond, which is
the resolution of a duration, and the quotients that the code takes of them are exact. What the
machine makes of a number that an integer type cannot hold is left open. -/

namespace Isekai.TokenBuckets
open Outcomes

/-- How a machine converts a `double` to an `int` and to a `uint64_t`. The language says what comes
out where the type holds the number. -/
structure Machine where
  toInt : ℤ → ℤ
  toUInt64 : ℤ → UInt64
  int_range : ∀ number, -2 ^ 31 ≤ toInt number ∧ toInt number < 2 ^ 31
  int_exact : ∀ number, -2 ^ 31 ≤ number → number < 2 ^ 31 → toInt number = number
  uint64_exact : ∀ number, 0 ≤ number → number < 2 ^ 64 → ((toUInt64 number).toNat : ℤ) = number

inductive Fault where
  | noTokens | tokensUnavailable
  deriving DecidableEq, Repr

/-- A second. -/
def ticksPerSecond : ℤ := 4000000000

/-- `TokenBucket`. It is never filled above its size. -/
structure TokenBucket where
  tokensPerRefillInterval : UInt64
  bucketRefillInterval : ℤ
  bucketSize : UInt64
  availableTokens : UInt64
  lastRefillTimestamp : ℤ := 0
  positive : 0 < bucketRefillInterval
  withinSize : availableTokens ≤ bucketSize

namespace TokenBucket

/-- The constructor, for a refill interval that is some time. -/
def create (machine : Machine) (tokensPerSec : UInt64) (bucketRefillInterval : ℤ)
    (positive : 0 < bucketRefillInterval) (maxBurstSize : UInt64) : Except Fault TokenBucket :=
  let tokensPerRefillInterval :=
    machine.toUInt64 (tokensPerSec.toNat * bucketRefillInterval / ticksPerSecond)
  if 0 < tokensPerRefillInterval then
    .ok {
      tokensPerRefillInterval, bucketRefillInterval, positive
      bucketSize := maxBurstSize
      availableTokens := maxBurstSize
      withinSize := UInt64.le_refl _ }
  else .error .noTokens

/-- The refill intervals that have passed since the last refill. -/
def elapsed (bucket : TokenBucket) (currentTime : ℤ) : ℤ :=
  (currentTime - bucket.lastRefillTimestamp) / bucket.bucketRefillInterval

theorem min_within (tokens size : UInt64) : min tokens size ≤ size := by
  rw [UInt64.le_iff_toNat_le]
  change (if tokens ≤ size then tokens else size).toNat ≤ size.toNat
  split_ifs with within
  · exact UInt64.le_iff_toNat_le.1 within
  · exact Nat.le_refl _

/-- What asking for tokens does to the bucket: the elapsed intervals are an `int`, and the tokens are
computed in 64 bits. -/
def refill (machine : Machine) (bucket : TokenBucket) (currentTime : ℤ) : TokenBucket :=
  let bucketRefillIntervalsElapsed := machine.toInt (bucket.elapsed currentTime)
  if 0 < bucketRefillIntervalsElapsed then
    { bucket with
      availableTokens := min (bucket.availableTokens +
        UInt64.ofInt bucketRefillIntervalsElapsed * bucket.tokensPerRefillInterval) bucket.bucketSize
      lastRefillTimestamp := bucket.lastRefillTimestamp +
        bucketRefillIntervalsElapsed * bucket.bucketRefillInterval
      withinSize := min_within _ _ }
  else bucket

def areTokensAvailable (machine : Machine) (bucket : TokenBucket) (requestedTokens : UInt64)
    (currentTime : ℤ) : Bool × TokenBucket :=
  let refilled := bucket.refill machine currentTime
  (requestedTokens ≤ refilled.availableTokens, refilled)

def requestTokens (bucket : TokenBucket) (requiredTokens : UInt64) : Except Fault TokenBucket :=
  if enough : requiredTokens ≤ bucket.availableTokens then
    .ok { bucket with
      availableTokens := bucket.availableTokens - requiredTokens
      withinSize := UInt64.le_trans (UInt64.sub_le enough) bucket.withinSize }
  else .error .tokensUnavailable

end TokenBucket

/-! ## Runs -/

/-- Tokens that were taken at some time. -/
structure Grant where
  time : ℤ
  tokens : UInt64
  deriving DecidableEq, Repr

/-- A bucket, the time of the environment, and what was granted so far, the latest last. -/
structure World where
  bucket : TokenBucket
  now : ℤ := 0
  grants : List Grant := []

inductive Event where
  | areTokensAvailable (requestedTokens : UInt64) (currentTime : ℤ)
  | requestTokens (requiredTokens : UInt64)

namespace World

/-- The time of the environment does not go back. -/
def Possible (world : World) : Event → Prop
  | .areTokensAvailable _ currentTime => world.now ≤ currentTime
  | .requestTokens _ => True

/-- Asking for tokens at some time. -/
def ask (machine : Machine) (world : World) (requestedTokens : UInt64) (currentTime : ℤ) : World :=
  { world with
    bucket := (world.bucket.areTokensAvailable machine requestedTokens currentTime).2
    now := currentTime }

def perform (machine : Machine) (world : World) : Event → Except Fault World
  | .areTokensAvailable requestedTokens currentTime =>
    .ok (world.ask machine requestedTokens currentTime)
  | .requestTokens requiredTokens => (world.bucket.requestTokens requiredTokens).map fun bucket =>
    { world with bucket, grants := world.grants ++ [⟨world.now, requiredTokens⟩] }

/-- The tokens that were granted from some time to another, both included. -/
def granted (world : World) (early late : ℤ) : ℕ :=
  ((world.grants.filter fun grant => early ≤ grant.time ∧ grant.time ≤ late).map fun grant =>
    grant.tokens.toNat).sum

/-- A bucket that was just made. -/
def Initial (machine : Machine) (world : World) : Prop :=
  ∃ tokensPerSec interval, ∃ positive : 0 < interval, ∃ maxBurstSize bucket,
    TokenBucket.create machine tokensPerSec interval positive maxBurstSize = .ok bucket ∧
      world = { bucket }

def Step (machine : Machine) (world next : World) : Prop :=
  ∃ event, world.Possible event ∧ world.perform machine event = .ok next

end World

/-- The number of multiples of the refill interval after some time, up to another. -/
def refillBoundaries (interval early late : ℤ) : ℕ :=
  ((Finset.range (late - early).toNat).filter fun time : ℕ => interval ∣ early + 1 + time).card

/-- The types hold the elapsed intervals and the tokens that a bucket counts when it is asked. -/
def Measured (bucket : TokenBucket) (currentTime : ℤ) : Prop :=
  bucket.elapsed currentTime < 2 ^ 31 ∧
    bucket.availableTokens.toNat +
      bucket.elapsed currentTime * bucket.tokensPerRefillInterval.toNat < 2 ^ 64

/-- A step at which a bucket is asked only for what its types hold. -/
def MeasuredStep (machine : Machine) (world next : World) : Prop :=
  ∃ event, world.Possible event ∧ world.perform machine event = .ok next ∧
    ∀ requestedTokens currentTime, event = .areTokensAvailable requestedTokens currentTime →
      Measured world.bucket currentTime

end Isekai.TokenBuckets
