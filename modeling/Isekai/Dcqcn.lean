import Isekai.RoceModel
import Mathlib.Tactic.Linarith
import Mathlib.Tactic.Positivity

/-! `RdmaRoceCcDcqcn`. The rates and alpha are exact integers with the rounding of the code; the
count of bytes and the stages are those of the machine. A rate falls where congestion was notified
and comes back towards its target in stages, and neither leaves its configured range. -/

namespace Isekai.Dcqcn

/-- `RdmaCcDcqcnOptions`: rates in Mbps, periods in microseconds. -/
structure Options where
  maxRate : ℕ := 100000
  dceAlphaG : ℕ := 1019
  dceAlphaUpdatePeriod : ℕ := 1
  initialAlphaValue : ℕ := 1023
  rateToSetOnFirstCnp : ℕ := 85000
  minDecFac : ℕ := 50
  minRate : ℕ := 1
  alphaToRateShift : ℕ := 11
  rateReduceMonitorPeriod : ℕ := 4
  clampTgtRate : Bool := false
  clampTgtRateAfterTimeInc : Bool := true
  timeReset : ℕ := 300
  byteReset : UInt32 := 32767
  stageThreshold : UInt32 := 1
  aiRate : ℕ := 5
  haiRate : ℕ := 50

/-- A tick is a quarter of a nanosecond. -/
def microseconds (count : ℕ) : ℕ :=
  4000 * count

/-- The part of a `RoceQpContext` that congestion control works on. -/
structure QpContext where
  rate : ℤ
  targetRate : ℤ
  alpha : ℤ := 1023
  byteCount : UInt32 := 0
  increaseStageByByte : UInt32 := 0
  increaseStageByTimer : UInt32 := 0
  alphaCnpArrived : Bool := false
  firstCnp : Bool := true
  decreaseCnpArrived : Bool := false
  rateIncreaseTimerStartTime : ℕ := 0
  deriving DecidableEq

/-- `InitContext`. -/
def initContext (options : Options) : QpContext where
  rate := options.maxRate
  targetRate := options.maxRate

/-- `IncreaseRate`. -/
def increaseRate (options : Options) (context : QpContext) : QpContext :=
  let stageByTimer := context.increaseStageByTimer
  let stageByByte := context.increaseStageByByte
  let targetRate :=
    if options.stageThreshold < min stageByTimer stageByByte then
      context.targetRate + options.haiRate
    else if options.stageThreshold ≤ max stageByTimer stageByByte then
      context.targetRate + options.aiRate
    else context.targetRate
  let targetRate := if (options.maxRate : ℤ) < targetRate then (options.maxRate : ℤ) else targetRate
  { context with targetRate, rate := (context.rate + targetRate) / 2 }

/-- What `HandleRxPacket` does to the context of the queue pair. -/
def receiveCnp (options : Options) (now : ℕ) (context : QpContext) : QpContext :=
  if context.firstCnp then
    { context with
      alpha := options.initialAlphaValue
      alphaCnpArrived := false
      targetRate := options.rateToSetOnFirstCnp
      rate := options.rateToSetOnFirstCnp
      decreaseCnpArrived := false
      firstCnp := false
      rateIncreaseTimerStartTime := now }
  else
    { context with
      alphaCnpArrived := true
      decreaseCnpArrived := true }

/-- What the lookup of `HandleAlphaUpdateTimer` does to the context. -/
def updateAlpha (options : Options) (context : QpContext) : QpContext :=
  let decayed := options.dceAlphaG * context.alpha / 1024
  let alpha :=
    if context.alphaCnpArrived then
      let raised := decayed + 1024 - options.dceAlphaG
      if 1023 < raised then 1023 else raised
    else decayed
  { context with alpha, alphaCnpArrived := false }

/-- What the lookup of `HandleRateDecreaseTimer` does to the context if congestion was notified. -/
def decreaseRate (options : Options) (now : ℕ) (context : QpContext) : QpContext :=
  let clamp := options.clampTgtRate || 0 < context.increaseStageByByte ||
    (options.clampTgtRateAfterTimeInc && 0 < context.increaseStageByTimer)
  let targetRate := if clamp then context.rate else context.targetRate
  let rateReduction :=
    min ((context.rate * context.alpha) >>> options.alphaToRateShift)
      (context.rate * (100 - options.minDecFac) / 100)
  let rate := context.rate - rateReduction
  let rate := if rate < options.minRate then (options.minRate : ℤ) else rate
  { context with
    targetRate, rate
    decreaseCnpArrived := false
    increaseStageByTimer := 0
    increaseStageByByte := 0
    byteCount := 0
    rateIncreaseTimerStartTime := now }

/-- What the lookup of `HandleRateIncreaseTimer` does to the context. -/
def increaseByTimer (options : Options) (now : ℕ) (context : QpContext) : QpContext :=
  let increased := increaseRate options { context with rateIncreaseTimerStartTime := now }
  { increased with increaseStageByTimer := increased.increaseStageByTimer + 1 }

/-- The bytes after which the rate increases. -/
def Options.byteThreshold (options : Options) : UInt32 :=
  options.byteReset * 64

/-- A round of the loop of `SentBytes`. -/
def increaseByByte (options : Options) (context : QpContext) : QpContext :=
  let increased := increaseRate options context
  { increased with
    byteCount := increased.byteCount - options.byteThreshold
    increaseStageByByte := increased.increaseStageByByte + 1 }

theorem byte_count_decreases {options : Options} (positive : 0 < options.byteThreshold)
    {context : QpContext} (reached : options.byteThreshold ≤ context.byteCount) :
    (increaseByByte options context).byteCount.toNat < context.byteCount.toNat := by
  have less : (context.byteCount - options.byteThreshold).toNat =
      context.byteCount.toNat - options.byteThreshold.toNat :=
    UInt32.toNat_sub_of_le _ _ reached
  have some_bytes : 0 < options.byteThreshold.toNat := UInt32.lt_iff_toNat_lt.1 positive
  have enough := UInt32.le_iff_toNat_le.1 reached
  change (context.byteCount - options.byteThreshold).toNat < _
  omega

/-- The loop of `SentBytes`. -/
def increaseByBytes (options : Options) (positive : 0 < options.byteThreshold)
    (context : QpContext) : QpContext :=
  if options.byteThreshold ≤ context.byteCount then
    increaseByBytes options positive (increaseByByte options context)
  else context
termination_by context.byteCount.toNat
decreasing_by exact byte_count_decreases positive ‹_›

/-- `SentBytes`. With a threshold of zero, which is also what the product of some other settings
becomes in 32 bits, the loop does not end. -/
def sentBytes (options : Options) (bytes : UInt32) (context : QpContext) : Option QpContext :=
  if positive : 0 < options.byteThreshold then
    some (increaseByBytes options positive { context with byteCount := context.byteCount + bytes })
  else none

/-- What can happen to a queue pair. -/
inductive Event where
  | packet (opcode : Roce.Opcode) (now : ℕ)
  | bytes (bytes : UInt32)
  | alphaLookup
  | decreaseLookup (now : ℕ)
  | increaseLookup (now : ℕ)

/-- The context after an event. -/
def handle (options : Options) (context : QpContext) : Event → Option QpContext
  | .packet opcode now =>
    some (if opcode = .congestionNotification then receiveCnp options now context else context)
  | .bytes bytes => sentBytes options bytes context
  | .alphaLookup => some (updateAlpha options context)
  | .decreaseLookup now =>
    some (if context.decreaseCnpArrived then decreaseRate options now context else context)
  | .increaseLookup now => some (increaseByTimer options now context)

/-- The queue pairs, of which any may see an event. -/
inductive Step {Qp : Type} [DecidableEq Qp] (options : Options) :
    (Qp → QpContext) → (Qp → QpContext) → Prop where
  | handled {contexts : Qp → QpContext} {qpId : Qp} {event : Event} {context : QpContext}
      (done : handle options (contexts qpId) event = some context) :
      Step options contexts (Function.update contexts qpId context)

/-! ## Rates in their range -/

/-- Options whose values fit together. -/
structure Configuration extends Options where
  minRate_le : minRate ≤ rateToSetOnFirstCnp
  rateToSetOnFirstCnp_le : rateToSetOnFirstCnp ≤ maxRate
  dceAlphaG_le : dceAlphaG ≤ 1024
  initialAlphaValue_le : initialAlphaValue ≤ 1023
  minDecFac_le : minDecFac ≤ 100

/-- The options that are not set otherwise fit together. -/
def Configuration.default : Configuration where
  minRate_le := by decide
  rateToSetOnFirstCnp_le := by decide
  dceAlphaG_le := by decide
  initialAlphaValue_le := by decide
  minDecFac_le := by decide

/-- The rates are in their range, and alpha in its own. -/
structure InRange (config : Configuration) (context : QpContext) : Prop where
  minRate_le : (config.minRate : ℤ) ≤ context.rate
  rate_le : context.rate ≤ context.targetRate
  targetRate_le : context.targetRate ≤ config.maxRate
  alpha_nonneg : 0 ≤ context.alpha
  alpha_le : context.alpha ≤ 1023

variable {config : Configuration} {context next : QpContext}

namespace InRange

theorem initial (config : Configuration) : InRange config (initContext config.toOptions) := by
  have lowest := config.minRate_le.trans config.rateToSetOnFirstCnp_le
  have nonneg : (0 : ℤ) ≤ 1023 := by decide
  refine ⟨?_, le_refl _, le_refl _, nonneg, le_refl _⟩
  change (config.minRate : ℤ) ≤ config.maxRate
  exact_mod_cast lowest

/-- The range concerns the rates and alpha only. -/
theorem of_eq (range : InRange config context) (rate : next.rate = context.rate)
    (targetRate : next.targetRate = context.targetRate) (alpha : next.alpha = context.alpha) :
    InRange config next := by
  obtain ⟨lowest, ordered, highest, nonneg, bounded⟩ := range
  constructor
  · rwa [rate]
  · rwa [rate, targetRate]
  · rwa [targetRate]
  · rwa [alpha]
  · rwa [alpha]

/-- The target may rise up to the maximum, and the rate goes half the way to it. -/
theorem halfway (range : InRange config context) {targetRate : ℤ}
    (rises : context.targetRate ≤ targetRate) (bounded : targetRate ≤ config.maxRate) :
    InRange config { context with targetRate, rate := (context.rate + targetRate) / 2 } := by
  have lowest := range.minRate_le
  have ordered := range.rate_le
  refine ⟨?_, ?_, bounded, range.alpha_nonneg, range.alpha_le⟩
  · change (config.minRate : ℤ) ≤ (context.rate + targetRate) / 2
    omega
  · change (context.rate + targetRate) / 2 ≤ targetRate
    omega

theorem increaseRate (range : InRange config context) :
    InRange config (increaseRate config.toOptions context) := by
  have highest := range.targetRate_le
  unfold Dcqcn.increaseRate
  dsimp only
  apply range.halfway
  · split_ifs <;> omega
  · split_ifs <;> omega

theorem receiveCnp (range : InRange config context) (now : ℕ) :
    InRange config (receiveCnp config.toOptions now context) := by
  unfold Dcqcn.receiveCnp
  split_ifs with first
  · have lowest := config.minRate_le
    have highest := config.rateToSetOnFirstCnp_le
    have initial := config.initialAlphaValue_le
    constructor <;> dsimp only <;> omega
  · exact range.of_eq rfl rfl rfl

/-- Alpha is a mean of itself and of a number of at most 1024. -/
theorem updateAlpha (range : InRange config context) :
    InRange config (updateAlpha config.toOptions context) := by
  have nonneg := range.alpha_nonneg
  have bounded := range.alpha_le
  have gain := config.dceAlphaG_le
  have least : 0 ≤ (config.dceAlphaG : ℤ) * context.alpha := by positivity
  have most : (config.dceAlphaG : ℤ) * context.alpha ≤ 1024 * 1023 :=
    mul_le_mul (by exact_mod_cast gain) bounded nonneg (by decide)
  refine ⟨range.minRate_le, range.rate_le, range.targetRate_le, ?_, ?_⟩
  · unfold Dcqcn.updateAlpha
    dsimp only
    split_ifs <;> omega
  · unfold Dcqcn.updateAlpha
    dsimp only
    split_ifs <;> omega

/-- What a rate is reduced by is no more than the rate itself. -/
theorem reduction_bounds (range : InRange config context) :
    0 ≤ min ((context.rate * context.alpha) >>> config.alphaToRateShift)
        (context.rate * (100 - config.minDecFac) / 100) ∧
      min ((context.rate * context.alpha) >>> config.alphaToRateShift)
        (context.rate * (100 - config.minDecFac) / 100) ≤ context.rate := by
  have nonneg := range.alpha_nonneg
  have lowest := range.minRate_le
  have fraction := config.minDecFac_le
  have rate : 0 ≤ context.rate := by omega
  have scaled : 0 ≤ (context.rate * context.alpha) >>> config.alphaToRateShift := by
    rw [Int.shiftRight_eq_div_pow]
    positivity
  have kept : 0 ≤ context.rate * (100 - (config.minDecFac : ℤ)) :=
    mul_nonneg rate (by omega)
  have part : context.rate * (100 - (config.minDecFac : ℤ)) ≤ context.rate * 100 :=
    mul_le_mul_of_nonneg_left (by omega) rate
  constructor
  · exact le_min scaled (by omega)
  · exact (min_le_right _ _).trans (by omega)

theorem decreaseRate (range : InRange config context) (now : ℕ) :
    InRange config (decreaseRate config.toOptions now context) := by
  obtain ⟨reduced, within⟩ := range.reduction_bounds
  have lowest := range.minRate_le
  have ordered := range.rate_le
  have highest := range.targetRate_le
  unfold Dcqcn.decreaseRate
  dsimp only
  generalize min ((context.rate * context.alpha) >>> config.alphaToRateShift)
    (context.rate * (100 - config.minDecFac) / 100) = reduction at reduced within ⊢
  refine ⟨?_, ?_, ?_, range.alpha_nonneg, range.alpha_le⟩
  · dsimp only
    split_ifs <;> omega
  · dsimp only
    split_ifs <;> omega
  · dsimp only
    split_ifs <;> omega

theorem increaseByTimer (range : InRange config context) (now : ℕ) :
    InRange config (increaseByTimer config.toOptions now context) := by
  have started : InRange config { context with rateIncreaseTimerStartTime := now } :=
    range.of_eq rfl rfl rfl
  exact started.increaseRate.of_eq rfl rfl rfl

theorem increaseByBytes (range : InRange config context)
    (positive : 0 < config.byteThreshold) :
    InRange config (increaseByBytes config.toOptions positive context) := by
  induction context using increaseByBytes.induct config.toOptions positive with
  | case1 context reached ih =>
    rw [Dcqcn.increaseByBytes, if_pos reached]
    exact ih (range.increaseRate.of_eq rfl rfl rfl)
  | case2 context below =>
    rw [Dcqcn.increaseByBytes, if_neg below]
    exact range

/-- One event keeps the rates and alpha in their ranges. -/
theorem handle (range : InRange config context) {event : Event}
    (done : handle config.toOptions context event = some next) : InRange config next := by
  cases event with
  | packet opcode now =>
    cases Option.some.inj done
    split_ifs
    · exact range.receiveCnp now
    · exact range
  | bytes bytes =>
    unfold Dcqcn.handle sentBytes at done
    dsimp only at done
    split_ifs at done with positive
    cases Option.some.inj done
    have counted : InRange config { context with byteCount := context.byteCount + bytes } :=
      range.of_eq rfl rfl rfl
    exact counted.increaseByBytes positive
  | alphaLookup =>
    cases Option.some.inj done
    exact range.updateAlpha
  | decreaseLookup now =>
    cases Option.some.inj done
    split_ifs
    · exact range.decreaseRate now
    · exact range
  | increaseLookup now =>
    cases Option.some.inj done
    exact range.increaseByTimer now

end InRange

/-- Whatever happens to the queue pairs, in whatever order, the rates of each stay in their range
and in their order, and its alpha is at most 1023. -/
theorem rates_in_range {Qp : Type} [DecidableEq Qp] (config : Configuration)
    {contexts : Qp → QpContext}
    (reached : Runs.Reachable (· = fun _ => initContext config.toOptions)
      (Step config.toOptions) contexts) (qpId : Qp) :
    (config.minRate : ℤ) ≤ (contexts qpId).rate ∧
      (contexts qpId).rate ≤ (contexts qpId).targetRate ∧
      (contexts qpId).targetRate ≤ config.maxRate ∧
      0 ≤ (contexts qpId).alpha ∧ (contexts qpId).alpha ≤ 1023 := by
  have invariant : ∀ qpId, InRange config (contexts qpId) := by
    apply Runs.invariant_of_reachable _ _ reached
    · rintro initial rfl qpId
      exact InRange.initial config
    · rintro before after ranges ⟨done⟩ qpId
      rename_i handled event context
      by_cases same : qpId = handled
      · rw [same, Function.update_self]
        exact (ranges handled).handle done
      · rw [Function.update_of_ne same]
        exact ranges qpId
  obtain ⟨lowest, ordered, highest, nonneg, bounded⟩ := invariant qpId
  exact ⟨lowest, ordered, highest, nonneg, bounded⟩

theorem rates_in_range_after_cnp :
    let options := Configuration.default.toOptions
    let context := receiveCnp options 0 (initContext options)
    (options.minRate : ℤ) ≤ context.rate ∧ context.rate ≤ context.targetRate ∧
      context.targetRate ≤ options.maxRate ∧ 0 ≤ context.alpha ∧ context.alpha ≤ 1023 :=
  @rates_in_range Unit _ Configuration.default _
    (Runs.reachable_step (Runs.reachable_initial rfl)
      (@Step.handled Unit _ _ _ () (.packet .congestionNotification 0) _ rfl)) ()

end Isekai.Dcqcn
