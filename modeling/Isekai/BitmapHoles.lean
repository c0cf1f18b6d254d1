import Isekai.AckCoalescingEngine

/-! The first hole of a bitmap. The search stops at the number of ones, which is far enough: below a
zero that has a one above it there are fewer positions than ones. -/

namespace Isekai.BitmapHoles

/-! ## Counting -/

section Counting
variable {holds : Nat → Bool} {count index bound : Nat}

/-- The positions below an index and those from it on. -/
theorem count_split (holds : Nat → Bool) (within : index ≤ bound) :
    (List.range bound).countP holds = (List.range index).countP holds +
      (List.range (bound - index)).countP fun offset => holds (index + offset) := by
  obtain ⟨rest, rfl⟩ := Nat.exists_eq_add_of_le within
  rw [List.range_add, List.countP_append, List.countP_map, Nat.add_sub_cancel_left]
  rfl

theorem count_all (all : ∀ position < index, holds position = true) :
    (List.range index).countP holds = index := by
  have counted := List.countP_eq_length.2 fun position listed =>
    all position (List.mem_range.1 listed)
  rwa [List.length_range] at counted

/-- If all positions below an index hold, more hold than those exactly if one does from it on. -/
theorem lt_count_iff (within : index ≤ bound) (all : ∀ position < index, holds position = true) :
    index < (List.range bound).countP holds ↔
      ∃ later, index ≤ later ∧ later < bound ∧ holds later = true := by
  rw [count_split holds within, count_all all, Nat.lt_add_right_iff_pos, List.countP_pos_iff]
  constructor
  · rintro ⟨offset, listed, found⟩
    have inside := List.mem_range.1 listed
    exact ⟨index + offset, Nat.le_add_right _ _, by omega, found⟩
  · rintro ⟨later, beyond, inside, found⟩
    refine ⟨later - index, List.mem_range.2 (by omega), ?_⟩
    rwa [Nat.add_sub_cancel' beyond]

/-- The first position that does not hold, in a search up to some bound. -/
theorem find_range_eq_some :
    (List.range bound).find? (fun position => !holds position) = some index ↔
      index < bound ∧ holds index = false ∧ ∀ earlier < index, holds earlier = true := by
  rw [List.find?_range_eq_some, and_left_comm]
  simp

end Counting

/-! ## Holes -/

/-- A zero with a one above it. -/
def IsHole (bitmap : FalconBitmap) (index : Nat) : Prop :=
  bitmap.bits index = false ∧ ∃ later, index < later ∧ bitmap.bits later = true

/-- The ones are those below some index. -/
def OnesFormPrefix (bitmap : FalconBitmap) : Prop :=
  ∃ ones, ∀ index, bitmap.bits index = decide (index < ones)

variable {bitmap : FalconBitmap} {index : Nat}

theorem lt_size (one : bitmap.bits index = true) : index < bitmap.size := by
  by_contra outside
  rw [bitmap.bounded index (Nat.not_lt.1 outside)] at one
  cases one

/-- Below the first hole there are only ones. -/
theorem ones_below (hole : IsHole bitmap index) (first : ∀ other, IsHole bitmap other → index ≤ other)
    {earlier : Nat} (below : earlier < index) : bitmap.bits earlier = true := by
  obtain ⟨-, later, above, one⟩ := hole
  by_contra zero
  rw [Bool.not_eq_true] at zero
  have sooner := first earlier ⟨zero, later, below.trans above, one⟩
  omega

/-- A zero above ones only is found exactly if a one is above it. -/
theorem found_iff (zero : bitmap.bits index = false)
    (all : ∀ earlier < index, bitmap.bits earlier = true) :
    index < (List.range bitmap.size).countP bitmap.bits ↔
      ∃ later, index < later ∧ bitmap.bits later = true := by
  have within : index ≤ bitmap.size := by
    cases index with
    | zero => exact Nat.zero_le _
    | succ last => exact lt_size (all last (Nat.lt_succ_self last))
  rw [lt_count_iff within all]
  constructor
  · rintro ⟨later, beyond, -, one⟩
    refine ⟨later, lt_of_le_of_ne beyond fun same => ?_, one⟩
    rw [same, one] at zero
    cases zero
  · rintro ⟨later, above, one⟩
    exact ⟨later, above.le, lt_size one, one⟩

/-- What the search finds is the first hole. -/
theorem search_eq_some :
    (List.range ((List.range bitmap.size).countP bitmap.bits)).find?
        (fun position => !bitmap.bits position) = some index ↔
      IsHole bitmap index ∧ ∀ other, IsHole bitmap other → index ≤ other := by
  rw [find_range_eq_some]
  constructor
  · rintro ⟨below, zero, all⟩
    refine ⟨⟨zero, (found_iff zero all).1 below⟩, fun other hole => ?_⟩
    by_contra sooner
    have one := all other (Nat.not_le.1 sooner)
    rw [hole.1] at one
    cases one
  · rintro ⟨hole, first⟩
    have all : ∀ earlier < index, bitmap.bits earlier = true := fun _ => ones_below hole first
    exact ⟨(found_iff hole.1 all).2 hole.2, hole.1, all⟩

/-- There is a first hole if there is one at all. -/
theorem exists_first (hole : IsHole bitmap index) :
    ∃ first, IsHole bitmap first ∧ ∀ other, IsHole bitmap other → first ≤ other := by
  induction index using Nat.strong_induction_on with
  | _ index ih =>
    by_cases sooner : ∃ other < index, IsHole bitmap other
    · obtain ⟨other, below, earlier⟩ := sooner
      exact ih other below earlier
    · refine ⟨index, hole, fun other earlier => ?_⟩
      by_contra below
      exact sooner ⟨other, Nat.not_le.1 below, earlier⟩

/-- Without a hole the ones form a prefix. -/
theorem no_hole_iff : (∀ index, ¬ IsHole bitmap index) ↔ OnesFormPrefix bitmap := by
  constructor
  · intro none_
    have ends : ∃ first, bitmap.bits first = false := ⟨bitmap.size, bitmap.bounded _ (le_refl _)⟩
    refine ⟨Nat.find ends, fun index => ?_⟩
    by_cases below : index < Nat.find ends
    · rw [decide_eq_true below]
      simpa using Nat.find_min ends below
    · rw [decide_eq_false below]
      by_contra one
      rw [Bool.not_eq_false] at one
      have zero := Nat.find_spec ends
      refine none_ _ ⟨zero, index, lt_of_le_of_ne (Nat.not_lt.1 below) fun same => ?_, one⟩
      rw [same, one] at zero
      cases zero
  · rintro ⟨ones, all⟩ index ⟨zero, later, above, one⟩
    rw [all] at zero one
    have inside := of_decide_eq_true one
    have outside := of_decide_eq_false zero
    omega

/-- `FirstHoleIndex` returns the smallest zero that has a one above it, and -1 if there is none, which
is when the ones form a prefix. -/
theorem first_hole_index (bitmap : FalconBitmap) :
    (∀ index : Nat, AckCoalescing.firstHoleIndex bitmap = index ↔
      IsHole bitmap index ∧ ∀ other, IsHole bitmap other → index ≤ other) ∧
    (AckCoalescing.firstHoleIndex bitmap = -1 ↔ ∀ index, ¬ IsHole bitmap index) ∧
    ((∀ index, ¬ IsHole bitmap index) ↔ OnesFormPrefix bitmap) := by
  unfold AckCoalescing.firstHoleIndex
  dsimp only
  cases searched : (List.range ((List.range bitmap.size).countP bitmap.bits)).find?
      (fun position => !bitmap.bits position) with
  | some first =>
    have found := search_eq_some.1 searched
    refine ⟨fun index => ?_, ?_, no_hole_iff⟩
    · rw [← search_eq_some, searched, Option.some_inj]
      exact Int.ofNat_inj
    · refine ⟨fun negative => ?_, fun none_ => absurd found.1 (none_ first)⟩
      dsimp only at negative
      omega
  | none =>
    have none_ : ∀ index, ¬ IsHole bitmap index := by
      intro index hole
      obtain ⟨first, least⟩ := exists_first hole
      rw [search_eq_some.2 least] at searched
      cases searched
    refine ⟨fun index => ?_, iff_of_true rfl none_, no_hole_iff⟩
    refine iff_of_false (fun negative => ?_) fun found => none_ index found.1
    dsimp only at negative
    omega

end Isekai.BitmapHoles
