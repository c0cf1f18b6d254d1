import Isekai.FalconTypes

/-! The admission control manager: pull requests and push grants, which solicit data, are let
out by a window of outstanding bytes or by a token bucket, and push requests by another
bucket, depending on the policy. -/

namespace Isekai.AdmissionControl

/-- `FalconConfig::AdmissionControlPolicy`. -/
inductive AdmissionControlPolicy where
  | rxWindowBased | rxRateBased | txRateBased | rxTxRateBased | rxTxRateRxWindowBased
  deriving DecidableEq, Repr

/-! ## Token buckets -/

/-- `TokenBucket`. Times and the refill interval are in ticks of the clock. It starts full, and
is never filled above its size. -/
structure TokenBucket where
  tokensPerRefillInterval : Nat
  bucketRefillInterval : Nat
  bucketSize : Nat
  availableTokens : Nat
  lastRefillTimestamp : Nat := 0
  withinSize : availableTokens ≤ bucketSize
  deriving DecidableEq, Repr

namespace TokenBucket

/-- The constructor. -/
def full (tokensPerRefillInterval bucketRefillInterval maxBurstSize : Nat) : TokenBucket :=
  { tokensPerRefillInterval := tokensPerRefillInterval
    bucketRefillInterval := bucketRefillInterval
    bucketSize := maxBurstSize
    availableTokens := maxBurstSize
    withinSize := le_refl maxBurstSize }

/-- Adds the tokens of the refill intervals that have passed. -/
def refill (bucket : TokenBucket) (now : Nat) : TokenBucket :=
  let elapsed := (now - bucket.lastRefillTimestamp) / bucket.bucketRefillInterval
  if 0 < elapsed then
    { bucket with
      availableTokens :=
        min (bucket.availableTokens + elapsed * bucket.tokensPerRefillInterval) bucket.bucketSize
      lastRefillTimestamp := bucket.lastRefillTimestamp + elapsed * bucket.bucketRefillInterval
      withinSize := min_le_right _ _ }
  else bucket

def areTokensAvailable (bucket : TokenBucket) (requested now : Nat) : Bool × TokenBucket :=
  (requested ≤ (bucket.refill now).availableTokens, bucket.refill now)

def requestTokens (bucket : TokenBucket) (required : Nat) : Except Abort TokenBucket :=
  if required ≤ bucket.availableTokens then
    .ok { bucket with
      availableTokens := bucket.availableTokens - required
      withinSize := (Nat.sub_le _ _).trans bucket.withinSize }
  else .error .tokensUnavailable

/-- The tokens that the bucket offers at a time. -/
def tokensAt (bucket : TokenBucket) (now : Nat) : Nat := (bucket.refill now).availableTokens

/-- The refill intervals that have passed since the last refill. -/
def elapsedAt (bucket : TokenBucket) (now : Nat) : Nat :=
  (now - bucket.lastRefillTimestamp) / bucket.bucketRefillInterval

theorem tokens_at_eq (bucket : TokenBucket) (now : Nat) : bucket.tokensAt now =
    min (bucket.availableTokens + bucket.elapsedAt now * bucket.tokensPerRefillInterval)
      bucket.bucketSize := by
  have full := bucket.withinSize
  simp only [tokensAt, refill, elapsedAt]
  split
  · rfl
  · rename_i none_
    rw [Nat.eq_zero_of_not_pos none_]
    omega

theorem refill_timestamp (bucket : TokenBucket) (now : Nat) :
    (bucket.refill now).lastRefillTimestamp =
      bucket.lastRefillTimestamp + bucket.elapsedAt now * bucket.bucketRefillInterval := by
  simp only [refill, elapsedAt]
  split
  · rfl
  · rename_i none_
    rw [Nat.eq_zero_of_not_pos none_]
    omega

@[simp] theorem refill_interval (bucket : TokenBucket) (now : Nat) :
    (bucket.refill now).bucketRefillInterval = bucket.bucketRefillInterval := by
  simp only [refill]
  split <;> rfl

@[simp] theorem refill_rate (bucket : TokenBucket) (now : Nat) :
    (bucket.refill now).tokensPerRefillInterval = bucket.tokensPerRefillInterval := by
  simp only [refill]
  split <;> rfl

@[simp] theorem refill_size (bucket : TokenBucket) (now : Nat) :
    (bucket.refill now).bucketSize = bucket.bucketSize := by
  simp only [refill]
  split <;> rfl

theorem elapsed_at_mono (bucket : TokenBucket) {early late : Nat} (order : early ≤ late) :
    bucket.elapsedAt early ≤ bucket.elapsedAt late :=
  Nat.div_le_div_right (by omega)

/-- A refill on the way changes nothing about the tokens of a later time. -/
theorem tokens_at_refill (bucket : TokenBucket) {early late : Nat} (order : early ≤ late) :
    (bucket.refill early).tokensAt late = bucket.tokensAt late := by
  have earlyTokens := bucket.tokens_at_eq early
  have rest : (bucket.refill early).elapsedAt late =
      bucket.elapsedAt late - bucket.elapsedAt early := by
    rw [elapsedAt, refill_timestamp, refill_interval, ← Nat.sub_sub, Nat.mul_comm,
      Nat.sub_mul_div]
    rfl
  obtain ⟨more, later⟩ := Nat.exists_eq_add_of_le (bucket.elapsed_at_mono order)
  rw [tokens_at_eq, tokens_at_eq, rest, refill_rate, refill_size, later, Nat.add_sub_cancel_left,
    Nat.add_mul]
  rw [tokensAt] at earlyTokens
  rw [earlyTokens]
  omega

end TokenBucket

/-! ## The manager -/

/-- `ProtocolAdmissionControlManager`. The parts that the policy does not use stay as they are. -/
structure AdmissionControlManager where
  policy : AdmissionControlPolicy
  admissionWindowBytes : UInt64
  solicitedDataBytes : UInt64 := 0
  rxBucket : TokenBucket
  txBucket : TokenBucket
  deriving DecidableEq, Repr

/-- The packets that solicit data. -/
def solicits (type : PacketType) : Bool :=
  type = .pullRequest ∨ type = .pushGrant

namespace AdmissionControlManager

def meetsRxWindowBasedAdmissionCriteria (manager : AdmissionControlManager)
    (requestLength : UInt64) (type : PacketType) : Bool :=
  !solicits type || decide (requestLength ≤ manager.admissionWindowBytes - manager.solicitedDataBytes)

def meetsRxRateBasedAdmissionCriteria (manager : AdmissionControlManager)
    (requestLength : UInt64) (type : PacketType) (now : Nat) : Bool × AdmissionControlManager :=
  if solicits type then
    ((manager.rxBucket.areTokensAvailable requestLength.toNat now).1,
      { manager with rxBucket := (manager.rxBucket.areTokensAvailable requestLength.toNat now).2 })
  else (true, manager)

def meetsTxRateBasedAdmissionCriteria (manager : AdmissionControlManager)
    (requestLength : UInt64) (type : PacketType) (now : Nat) : Bool × AdmissionControlManager :=
  if type = .pushRequest then
    ((manager.txBucket.areTokensAvailable requestLength.toNat now).1,
      { manager with txBucket := (manager.txBucket.areTokensAvailable requestLength.toNat now).2 })
  else (true, manager)

/-- `MeetsAdmissionControlCriteria` for a length. Asking a bucket refills it. -/
def meetsAdmissionControlCriteria (manager : AdmissionControlManager)
    (requestLength : UInt64) (type : PacketType) (now : Nat) : Bool × AdmissionControlManager :=
  match manager.policy with
  | .rxWindowBased => (manager.meetsRxWindowBasedAdmissionCriteria requestLength type, manager)
  | .rxRateBased => manager.meetsRxRateBasedAdmissionCriteria requestLength type now
  | .txRateBased => manager.meetsTxRateBasedAdmissionCriteria requestLength type now
  | .rxTxRateBased =>
    let (rx, manager) := manager.meetsRxRateBasedAdmissionCriteria requestLength type now
    let (tx, manager) := manager.meetsTxRateBasedAdmissionCriteria requestLength type now
    (tx && rx, manager)
  | .rxTxRateRxWindowBased =>
    let (rx, manager) := manager.meetsRxRateBasedAdmissionCriteria requestLength type now
    let (tx, manager) := manager.meetsTxRateBasedAdmissionCriteria requestLength type now
    (tx && rx && manager.meetsRxWindowBasedAdmissionCriteria requestLength type, manager)

def reserveRxWindowBasedAdmissionResources (manager : AdmissionControlManager)
    (requestLength : UInt64) (type : PacketType) : AdmissionControlManager :=
  if solicits type then
    { manager with solicitedDataBytes := manager.solicitedDataBytes + requestLength }
  else manager

def reserveRxRateBasedAdmissionResources (manager : AdmissionControlManager)
    (requestLength : UInt64) (type : PacketType) : Except Abort AdmissionControlManager :=
  if solicits type then
    match manager.rxBucket.requestTokens requestLength.toNat with
    | .error abort => .error abort
    | .ok bucket => .ok { manager with rxBucket := bucket }
  else .ok manager

def reserveTxRateBasedAdmissionResources (manager : AdmissionControlManager)
    (requestLength : UInt64) (type : PacketType) : Except Abort AdmissionControlManager :=
  if type = .pushRequest then
    match manager.txBucket.requestTokens requestLength.toNat with
    | .error abort => .error abort
    | .ok bucket => .ok { manager with txBucket := bucket }
  else .ok manager

/-- `ReserveAdmissionControlResource` for a transaction's request length. -/
def reserveAdmissionControlResource (manager : AdmissionControlManager)
    (requestLength : UInt64) (type : PacketType) : Except Abort AdmissionControlManager :=
  match manager.policy with
  | .rxWindowBased => .ok (manager.reserveRxWindowBasedAdmissionResources requestLength type)
  | .rxRateBased => manager.reserveRxRateBasedAdmissionResources requestLength type
  | .txRateBased => manager.reserveTxRateBasedAdmissionResources requestLength type
  | .rxTxRateBased => do
    let manager ← manager.reserveRxRateBasedAdmissionResources requestLength type
    manager.reserveTxRateBasedAdmissionResources requestLength type
  | .rxTxRateRxWindowBased => do
    let manager ← manager.reserveRxRateBasedAdmissionResources requestLength type
    let manager ← manager.reserveTxRateBasedAdmissionResources requestLength type
    return manager.reserveRxWindowBasedAdmissionResources requestLength type

/-- Whether the solicitation window is in use. -/
def windowBased (manager : AdmissionControlManager) : Bool :=
  manager.policy = .rxWindowBased ∨ manager.policy = .rxTxRateRxWindowBased

/-- `RefundAdmissionControlResource` for a transaction. The latency histogram that it feeds
does not accept unsolicited pushes. -/
def refundAdmissionControlResource (manager : AdmissionControlManager) (requestLength : UInt64)
    (unsolicited : Bool) : Except Abort AdmissionControlManager :=
  if manager.windowBased then
    if unsolicited then .error .unexpectedPacketType
    else .ok { manager with solicitedDataBytes := manager.solicitedDataBytes - requestLength }
  else .ok manager

/-! ## What a manager admits -/

/-- Whether a packet that asks for so many bytes would be admitted now. -/
def admits (manager : AdmissionControlManager) (requestLength : UInt64) (type : PacketType)
    (now : Nat) : Bool :=
  (manager.meetsAdmissionControlCriteria requestLength type now).1

/-- Whether solicited data goes through the receive bucket. -/
def rxRateBased (manager : AdmissionControlManager) : Bool :=
  manager.policy = .rxRateBased ∨ manager.policy = .rxTxRateBased ∨
    manager.policy = .rxTxRateRxWindowBased

/-- Whether push requests go through the transmit bucket. -/
def txRateBased (manager : AdmissionControlManager) : Bool :=
  manager.policy = .txRateBased ∨ manager.policy = .rxTxRateBased ∨
    manager.policy = .rxTxRateRxWindowBased

theorem admits_iff (manager : AdmissionControlManager) (requestLength : UInt64)
    (type : PacketType) (now : Nat) : manager.admits requestLength type now = true ↔
      (manager.windowBased = true → solicits type = true →
        requestLength ≤ manager.admissionWindowBytes - manager.solicitedDataBytes) ∧
      (manager.rxRateBased = true → solicits type = true →
        requestLength.toNat ≤ manager.rxBucket.tokensAt now) ∧
      (manager.txRateBased = true → type = .pushRequest →
        requestLength.toNat ≤ manager.txBucket.tokensAt now) := by
  rcases manager with ⟨policy, window, solicited, rx, tx⟩
  have exclusive : type = .pushRequest → solicits type = false := by
    rintro rfl
    rfl
  cases policy <;>
    simp only [admits, meetsAdmissionControlCriteria, meetsRxWindowBasedAdmissionCriteria,
      meetsRxRateBasedAdmissionCriteria, meetsTxRateBasedAdmissionCriteria,
      TokenBucket.areTokensAvailable, windowBased, rxRateBased, txRateBased,
      TokenBucket.tokensAt] <;>
    by_cases asks : solicits type = true <;> by_cases push : type = .pushRequest <;>
    simp_all [and_comm]

/-- Two managers with the same window, whose buckets offer the same tokens from a time on. -/
structure Agrees (now : Nat) (manager other : AdmissionControlManager) : Prop where
  policy : other.policy = manager.policy
  window : other.admissionWindowBytes = manager.admissionWindowBytes
  solicited : other.solicitedDataBytes = manager.solicitedDataBytes
  rx : ∀ late, now ≤ late → other.rxBucket.tokensAt late = manager.rxBucket.tokensAt late
  tx : ∀ late, now ≤ late → other.txBucket.tokensAt late = manager.txBucket.tokensAt late

theorem Agrees.refl (now : Nat) (manager : AdmissionControlManager) : Agrees now manager manager :=
  ⟨rfl, rfl, rfl, fun _ _ => rfl, fun _ _ => rfl⟩

theorem Agrees.trans {now : Nat} {first second third : AdmissionControlManager}
    (one : Agrees now first second) (two : Agrees now second third) : Agrees now first third :=
  ⟨two.policy.trans one.policy, two.window.trans one.window, two.solicited.trans one.solicited,
    fun late order => (two.rx late order).trans (one.rx late order),
    fun late order => (two.tx late order).trans (one.tx late order)⟩

theorem Agrees.admits {now late : Nat} {manager other : AdmissionControlManager}
    (agrees : Agrees now manager other) (order : now ≤ late) (requestLength : UInt64)
    (type : PacketType) :
    other.admits requestLength type late = manager.admits requestLength type late := by
  rw [Bool.eq_iff_iff, admits_iff, admits_iff]
  simp only [windowBased, rxRateBased, txRateBased, agrees.policy, agrees.window,
    agrees.solicited, agrees.rx late order, agrees.tx late order]

theorem refill_rx_agrees (manager : AdmissionControlManager) (now : Nat) :
    Agrees now manager { manager with rxBucket := manager.rxBucket.refill now } :=
  ⟨rfl, rfl, rfl, fun _ order => manager.rxBucket.tokens_at_refill order, fun _ _ => rfl⟩

theorem refill_tx_agrees (manager : AdmissionControlManager) (now : Nat) :
    Agrees now manager { manager with txBucket := manager.txBucket.refill now } :=
  ⟨rfl, rfl, rfl, fun _ _ => rfl, fun _ order => manager.txBucket.tokens_at_refill order⟩

theorem meets_rx_rate_agrees (manager : AdmissionControlManager) (requestLength : UInt64)
    (type : PacketType) (now : Nat) :
    Agrees now manager (manager.meetsRxRateBasedAdmissionCriteria requestLength type now).2 := by
  unfold meetsRxRateBasedAdmissionCriteria
  split
  · exact refill_rx_agrees manager now
  · exact .refl now manager

theorem meets_tx_rate_agrees (manager : AdmissionControlManager) (requestLength : UInt64)
    (type : PacketType) (now : Nat) :
    Agrees now manager (manager.meetsTxRateBasedAdmissionCriteria requestLength type now).2 := by
  unfold meetsTxRateBasedAdmissionCriteria
  split
  · exact refill_tx_agrees manager now
  · exact .refl now manager

/-- Asking for admission only refills buckets. -/
theorem meets_agrees (manager : AdmissionControlManager) (requestLength : UInt64)
    (type : PacketType) (now : Nat) :
    Agrees now manager (manager.meetsAdmissionControlCriteria requestLength type now).2 := by
  unfold meetsAdmissionControlCriteria
  split
  · exact .refl now manager
  · exact meets_rx_rate_agrees manager requestLength type now
  · exact meets_tx_rate_agrees manager requestLength type now
  · exact (meets_rx_rate_agrees manager requestLength type now).trans
      (meets_tx_rate_agrees _ requestLength type now)
  · exact (meets_rx_rate_agrees manager requestLength type now).trans
      (meets_tx_rate_agrees _ requestLength type now)

/-- What a reservation does to the solicitation window. -/
structure Reserved (manager : AdmissionControlManager) (requestLength : UInt64)
    (type : PacketType) (next : AdmissionControlManager) : Prop where
  policy : next.policy = manager.policy
  window : next.admissionWindowBytes = manager.admissionWindowBytes
  solicited : next.solicitedDataBytes =
    if manager.windowBased = true ∧ solicits type = true then
      manager.solicitedDataBytes + requestLength
    else manager.solicitedDataBytes

theorem reserve_rx_rate_keeps {manager next : AdmissionControlManager} {requestLength : UInt64}
    {type : PacketType}
    (done : manager.reserveRxRateBasedAdmissionResources requestLength type = .ok next) :
    next.policy = manager.policy ∧ next.admissionWindowBytes = manager.admissionWindowBytes ∧
      next.solicitedDataBytes = manager.solicitedDataBytes := by
  unfold reserveRxRateBasedAdmissionResources at done
  split at done
  · split at done <;> cases done
    exact ⟨rfl, rfl, rfl⟩
  · cases done
    exact ⟨rfl, rfl, rfl⟩

theorem reserve_tx_rate_keeps {manager next : AdmissionControlManager} {requestLength : UInt64}
    {type : PacketType}
    (done : manager.reserveTxRateBasedAdmissionResources requestLength type = .ok next) :
    next.policy = manager.policy ∧ next.admissionWindowBytes = manager.admissionWindowBytes ∧
      next.solicitedDataBytes = manager.solicitedDataBytes := by
  unfold reserveTxRateBasedAdmissionResources at done
  split at done
  · split at done <;> cases done
    exact ⟨rfl, rfl, rfl⟩
  · cases done
    exact ⟨rfl, rfl, rfl⟩

theorem reserve_spec {manager next : AdmissionControlManager} {requestLength : UInt64}
    {type : PacketType}
    (done : manager.reserveAdmissionControlResource requestLength type = .ok next) :
    Reserved manager requestLength type next := by
  unfold reserveAdmissionControlResource at done
  split at done
  · rename_i policy
    cases done
    unfold reserveRxWindowBasedAdmissionResources
    by_cases asks : solicits type = true
    · exact ⟨by simp [asks], by simp [asks], by simp [asks, windowBased, policy]⟩
    · exact ⟨by simp [asks], by simp [asks], by simp [asks]⟩
  · rename_i policy
    obtain ⟨samePolicy, window, solicited⟩ := reserve_rx_rate_keeps done
    exact ⟨samePolicy, window, by simp [solicited, windowBased, policy]⟩
  · rename_i policy
    obtain ⟨samePolicy, window, solicited⟩ := reserve_tx_rate_keeps done
    exact ⟨samePolicy, window, by simp [solicited, windowBased, policy]⟩
  · rename_i policy
    obtain ⟨middle, rx, tx⟩ := bind_eq_ok.1 done
    obtain ⟨rxPolicy, rxWindow, rxSolicited⟩ := reserve_rx_rate_keeps rx
    obtain ⟨txPolicy, txWindow, txSolicited⟩ := reserve_tx_rate_keeps tx
    exact ⟨txPolicy.trans rxPolicy, txWindow.trans rxWindow,
      by simp [txSolicited, rxSolicited, windowBased, policy]⟩
  · rename_i policy
    obtain ⟨middle, rx, rest⟩ := bind_eq_ok.1 done
    obtain ⟨last, tx, final⟩ := bind_eq_ok.1 rest
    obtain ⟨rxPolicy, rxWindow, rxSolicited⟩ := reserve_rx_rate_keeps rx
    obtain ⟨txPolicy, txWindow, txSolicited⟩ := reserve_tx_rate_keeps tx
    cases final
    unfold reserveRxWindowBasedAdmissionResources
    by_cases asks : solicits type = true
    · exact ⟨by simp [asks, txPolicy, rxPolicy], by simp [asks, txWindow, rxWindow],
        by simp [asks, windowBased, policy, txSolicited, rxSolicited]⟩
    · exact ⟨by simp [asks, txPolicy, rxPolicy], by simp [asks, txWindow, rxWindow],
        by simp [asks, txSolicited, rxSolicited]⟩

end AdmissionControlManager
end Isekai.AdmissionControl
