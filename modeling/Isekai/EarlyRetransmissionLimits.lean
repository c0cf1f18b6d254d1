import Isekai.AckProcessing

/-! Which holes of an extended ACK the limits of early retransmission select. The OOO-count limit is
found by a scan from the top of the bitmap that counts received packets, the OOO-distance limit from
the highest received packet, by an unsigned subtraction. -/

namespace Isekai.EarlyRetransmissionLimits
open Reliability Reliability.Endpoint

variable {bitmap : FalconBitmap} {index : Nat} {limit : Int}

/-- A packet that the receiver reports as missing. -/
structure IsHole (bitmap : FalconBitmap) (index : Nat) : Prop where
  inside : index < bitmap.size
  missing : bitmap.bits index = false

/-- A limit selects a hole that the scan of the outstanding packets does not stop at. -/
def Selects (limit : Int) (bitmap : FalconBitmap) (index : Nat) : Prop :=
  IsHole bitmap index ∧ ¬limit < index

/-- The received packets after an index and below a bound. -/
def receivedBetween (bitmap : FalconBitmap) (index bound : Nat) : Nat :=
  (List.range bound).countP fun other => decide (index < other) && bitmap.bits other

def receivedAfter (bitmap : FalconBitmap) (index : Nat) : Nat :=
  receivedBetween bitmap index bitmap.size

/-- The highest packet that was received. -/
structure IsHighest (bitmap : FalconBitmap) (highest : Nat) : Prop where
  received : bitmap.bits highest = true
  last : ∀ other, highest < other → bitmap.bits other = false

/-! ## The OOO-count limit -/

theorem received_between_succ (bitmap : FalconBitmap) (index bound : Nat) :
    receivedBetween bitmap index (bound + 1) = receivedBetween bitmap index bound +
      if index < bound then (bitmap.bits bound).toNat else 0 := by
  unfold receivedBetween
  rw [List.range_succ, List.countP_append]
  by_cases after : index < bound <;> cases received : bitmap.bits bound <;> simp [after, received]

/-- Nothing is counted after the last index. -/
theorem received_between_last (bitmap : FalconBitmap) (index : Nat) :
    receivedBetween bitmap index (index + 1) = 0 := by
  unfold receivedBetween
  rw [List.countP_eq_zero]
  intro other mem
  have below := List.mem_range.1 mem
  simp only [Bool.and_eq_true, decide_eq_true_eq, not_and]
  omega

theorem ooo_count_limit_below (threshold : Nat) (bitmap : FalconBitmap) (bound count : Nat) :
    oooCountLimit threshold bitmap bound count < bound := by
  induction bound generalizing count with
  | zero => simp [oooCountLimit]
  | succ bound ih =>
    rw [oooCountLimit]
    split
    · have below := ih (count + (bitmap.bits bound).toNat)
      omega
    · omega

/-- The scan, from any position and with any count. -/
theorem ooo_count_limit_spec (threshold : Nat) {bound : Nat} (count : Nat)
    (below : index < bound) :
    (index : Int) ≤ oooCountLimit threshold bitmap bound count ↔
      threshold ≤ count + receivedBetween bitmap index bound := by
  induction bound generalizing count with
  | zero => omega
  | succ bound ih =>
    rw [oooCountLimit]
    split
    · rename_i few
      by_cases last : index = bound
      · subst last
        have limit := ooo_count_limit_below threshold bitmap index
          (count + (bitmap.bits index).toNat)
        rw [received_between_last]
        omega
      · have inside : index < bound := by omega
        rw [ih (count + (bitmap.bits bound).toNat) inside, received_between_succ, if_pos inside]
        omega
    · omega

/-- The OOO-count limit selects the holes with enough received packets after them. -/
theorem count_limit_selects (threshold : Nat) :
    Selects (oooCountLimit threshold bitmap bitmap.size 0) bitmap index ↔
      IsHole bitmap index ∧ threshold ≤ receivedAfter bitmap index := by
  unfold Selects receivedAfter
  refine and_congr_right fun hole => ?_
  have spec := @ooo_count_limit_spec bitmap index threshold bitmap.size 0 hole.inside
  rw [Nat.zero_add] at spec
  rw [← spec]
  omega

/-! ## The OOO-distance limit -/

/-- What the scan for the highest received packet finds. -/
theorem highest_bit_spec (bitmap : FalconBitmap) (bound : Nat) :
    (highestBit bitmap bound = -1 ∨ ∃ highest < bound,
        highestBit bitmap bound = highest ∧ bitmap.bits highest = true) ∧
      ∀ other < bound, highestBit bitmap bound < other → bitmap.bits other = false := by
  induction bound with
  | zero => exact ⟨.inl rfl, by omega⟩
  | succ bound ih =>
    rw [highestBit]
    split
    · rename_i received
      exact ⟨.inr ⟨bound, by omega, rfl, received⟩, by omega⟩
    · rename_i missing
      obtain ⟨found, above⟩ := ih
      refine ⟨found.imp_right fun ⟨highest, below, same, received⟩ =>
        ⟨highest, by omega, same, received⟩, fun other below later => ?_⟩
      by_cases last : other = bound
      · rw [last]
        simpa using missing
      · exact above other (by omega) later

theorem highest_unique {first second : Nat} (one : IsHighest bitmap first)
    (two : IsHighest bitmap second) : first = second := by
  rcases Nat.lt_trichotomy first second with earlier | same | later
  · exact absurd (one.last second earlier) (by rw [two.received]; decide)
  · exact same
  · exact absurd (two.last first later) (by rw [one.received]; decide)

/-- The highest index that was received, or -1. -/
structure HighestFound (bitmap : FalconBitmap) (found : Int) : Prop where
  least : -1 ≤ found
  inside : found < bitmap.size
  exact : ∀ highest : Nat, IsHighest bitmap highest ↔ (highest : Int) = found
  above : ∀ other : Nat, found < other → bitmap.bits other = false

theorem highest_found (bitmap : FalconBitmap) :
    HighestFound bitmap (highestBit bitmap bitmap.size) := by
  obtain ⟨found, above⟩ := highest_bit_spec bitmap bitmap.size
  have all (other : Nat) (later : highestBit bitmap bitmap.size < other) :
      bitmap.bits other = false := by
    by_cases inside : other < bitmap.size
    · exact above other inside later
    · exact bitmap.bounded other (by omega)
  rcases found with none_ | ⟨highest, below, same, received⟩
  · rw [none_] at all ⊢
    refine ⟨by omega, by omega, fun highest => ⟨fun isHighest => ?_, by omega⟩, all⟩
    have missing := all highest (by omega)
    rw [isHighest.received] at missing
    cases missing
  · rw [same] at all ⊢
    have isHighest : IsHighest bitmap highest :=
      ⟨received, fun other later => all other (by omega)⟩
    refine ⟨by omega, by omega, fun other => ⟨fun again => ?_, fun again => ?_⟩, all⟩
    · rw [highest_unique again isHighest]
    · obtain rfl : other = highest := by omega
      exact isHighest

/-- The subtraction does not wrap. -/
theorem distance_limit_fits {threshold : Nat} (isInt : bitmap.size < 2 ^ 31)
    (fits : (threshold : Int) ≤ 2 ^ 31 + highestBit bitmap bitmap.size) :
    oooDistanceLimit threshold bitmap = highestBit bitmap bitmap.size - threshold := by
  have found := highest_found bitmap
  have least := found.least
  have inside := found.inside
  unfold oooDistanceLimit
  rw [Int.bmod_def]
  omega

/-- The subtraction wraps, and leaves a limit beyond the highest received packet. -/
theorem distance_limit_wraps {threshold : Nat} (small : threshold < 2 ^ 32)
    (isInt : bitmap.size < 2 ^ 31)
    (wraps : 2 ^ 31 + highestBit bitmap bitmap.size < (threshold : Int)) :
    highestBit bitmap bitmap.size + 1 ≤ oooDistanceLimit threshold bitmap := by
  have found := highest_found bitmap
  have least := found.least
  have inside := found.inside
  unfold oooDistanceLimit
  rw [Int.bmod_def]
  omega

/-! ## Both limits -/

/-- The limits select the holes that they are meant to select. -/
structure LimitsExact (threshold : UInt32) (bitmap : FalconBitmap) : Prop where
  count : ∀ index, Selects (oooCountLimit threshold.toNat bitmap bitmap.size 0) bitmap index ↔
    IsHole bitmap index ∧ threshold.toNat ≤ receivedAfter bitmap index
  distance : ∀ index, Selects (oooDistanceLimit threshold.toNat bitmap) bitmap index ↔
    IsHole bitmap index ∧
      ∃ highest, IsHighest bitmap highest ∧ index + threshold.toNat ≤ highest

/-- The threshold is an `int`, or a packet was received so high that the distance to it is one, or
there is no hole to select. -/
def ThresholdFits (threshold : UInt32) (bitmap : FalconBitmap) : Prop :=
  threshold.toNat < 2 ^ 31 ∨
    (∃ received, bitmap.bits received = true ∧ threshold.toNat ≤ 2 ^ 31 + received) ∨
    ∀ index, ¬IsHole bitmap index

theorem distance_exact_of_fits {threshold : UInt32} (isInt : bitmap.size < 2 ^ 31)
    (positive : 0 < threshold.toNat)
    (fits : (threshold.toNat : Int) ≤ 2 ^ 31 + highestBit bitmap bitmap.size) (index : Nat) :
    Selects (oooDistanceLimit threshold.toNat bitmap) bitmap index ↔
      IsHole bitmap index ∧
        ∃ highest, IsHighest bitmap highest ∧ index + threshold.toNat ≤ highest := by
  have found := highest_found bitmap
  unfold Selects
  rw [distance_limit_fits isInt fits]
  refine and_congr_right fun _ => ⟨fun within => ?_, ?_⟩
  · have highest : ((highestBit bitmap bitmap.size).toNat : Int) =
        highestBit bitmap bitmap.size := by omega
    exact ⟨_, (found.exact _).2 highest, by omega⟩
  · rintro ⟨highest, isHighest, far⟩
    have same := (found.exact highest).1 isHighest
    omega

/-- A hole that a wrapped limit selects, though nothing was received far enough after it. -/
theorem wrapped_limit_selects {threshold : UInt32} (isInt : bitmap.size < 2 ^ 31)
    (hole : IsHole bitmap index)
    (wraps : 2 ^ 31 + highestBit bitmap bitmap.size < (threshold.toNat : Int)) :
    ∃ other, Selects (oooDistanceLimit threshold.toNat bitmap) bitmap other := by
  have found := highest_found bitmap
  have least := found.least
  have beyond := distance_limit_wraps threshold.toNat_lt isInt wraps
  have inside := hole.inside
  by_cases within : (index : Int) ≤ oooDistanceLimit threshold.toNat bitmap
  · exact ⟨index, hole, by omega⟩
  · have next : (((highestBit bitmap bitmap.size + 1).toNat : Nat) : Int) =
        highestBit bitmap bitmap.size + 1 := by omega
    exact ⟨(highestBit bitmap bitmap.size + 1).toNat, ⟨by omega, found.above _ (by omega)⟩,
      by omega⟩

/-- For every bitmap and every threshold, the limits select exactly the holes they are meant to
select if and only if the threshold fits the distances of the bitmap. -/
theorem limits_exact_iff {threshold : UInt32} (isInt : bitmap.size < 2 ^ 31)
    (positive : 0 < threshold.toNat) :
    LimitsExact threshold bitmap ↔ ThresholdFits threshold bitmap := by
  have found := highest_found bitmap
  have least := found.least
  have inside := found.inside
  constructor
  · intro limits
    by_contra misfit
    simp only [ThresholdFits, not_or, not_exists, not_and, not_forall, not_not] at misfit
    obtain ⟨large, far, index, hole⟩ := misfit
    have wraps : 2 ^ 31 + highestBit bitmap bitmap.size < (threshold.toNat : Int) := by
      by_contra near
      have highest : ((highestBit bitmap bitmap.size).toNat : Int) =
          highestBit bitmap bitmap.size := by omega
      exact far _ ((found.exact _).2 highest).received (by omega)
    obtain ⟨other, selected⟩ := wrapped_limit_selects isInt hole wraps
    obtain ⟨-, highest, isHighest, apart⟩ := (limits.distance other).1 selected
    have same := (found.exact highest).1 isHighest
    omega
  · intro fits
    refine ⟨fun index => count_limit_selects threshold.toNat, fun index => ?_⟩
    by_cases near : (threshold.toNat : Int) ≤ 2 ^ 31 + highestBit bitmap bitmap.size
    · exact distance_exact_of_fits isInt positive near index
    · rcases fits with small | ⟨received, isReceived, low⟩ | full
      · omega
      · have missing := found.above received (by omega)
        rw [isReceived] at missing
        cases missing
      · exact ⟨fun selected => absurd selected.1 (full index),
          fun selected => absurd selected.1 (full index)⟩

/-! ## A threshold of 2 ^ 31 -/

/-- The bitmap of an extended ACK that reports the third packet. -/
def thirdReceived : FalconBitmap where
  size := 128
  bits index := decide (index = 2)
  bounded index outside := decide_eq_false (by omega)

/-- A distance of two selects the first packet, and a count of one the first two. -/
theorem limits_exact_iff_third : LimitsExact 2 thirdReceived :=
  (limits_exact_iff (by decide) (by decide)).2 (.inl (by decide))

/-- Nothing was received, and the distance limit selects the first packet. -/
theorem nothing_received_selected : Selects (oooDistanceLimit 0x80000000 (.empty 128)) (.empty 128) 0 ∧
    ¬∃ highest, IsHighest (.empty 128) highest := by
  refine ⟨⟨⟨by decide, rfl⟩, by decide⟩, ?_⟩
  rintro ⟨highest, received, -⟩
  cases received

/-- So the limits are not exact there. -/
theorem limits_inexact_at_wrap : ¬LimitsExact 0x80000000 (.empty 128) := by
  intro limits
  obtain ⟨selected, nothing⟩ := nothing_received_selected
  obtain ⟨-, highest, isHighest, -⟩ := (limits.distance 0).1 selected
  exact nothing ⟨highest, isHighest⟩

end Isekai.EarlyRetransmissionLimits
