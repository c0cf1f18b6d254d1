import Mathlib.Data.UInt
import Mathlib.Data.List.Range

/-! Arithmetic of 32-bit sequence numbers that wrap: the distance from one number to
another, the number reached after a count of increments, the modular comparison of
two numbers, and the longest consecutive run that a list of numbers contains. -/

namespace Isekai.SequenceNumber

/-- How many increments lead from `origin` to `target`. -/
def distance (origin target : UInt32) : Nat := (target - origin).toNat

/-- The number that `count` increments reach from `origin`. -/
def advance (origin : UInt32) (count : Nat) : UInt32 := origin + UInt32.ofNat count

theorem distance_lt (origin target : UInt32) : distance origin target < 2 ^ 32 :=
  (target - origin).toNat_lt

theorem distance_mod (origin target : UInt32) :
    distance origin target = (2 ^ 32 - origin.toNat + target.toNat) % 2 ^ 32 := by
  simp only [distance, UInt32.toNat_sub]

theorem advance_to_nat (origin : UInt32) (count : Nat) :
    (advance origin count).toNat = (origin.toNat + count) % 2 ^ 32 := by
  simp only [advance, UInt32.toNat_add, UInt32.toNat_ofNat']
  omega

@[simp] theorem advance_zero (origin : UInt32) : advance origin 0 = origin := by
  apply UInt32.toNat_inj.mp
  have bound := origin.toNat_lt
  rw [advance_to_nat]
  omega

theorem advance_advance (origin : UInt32) (first second : Nat) :
    advance (advance origin first) second = advance origin (first + second) := by
  apply UInt32.toNat_inj.mp
  simp only [advance_to_nat]
  omega

theorem advance_succ (origin : UInt32) (count : Nat) :
    advance origin (count + 1) = advance origin count + 1 := by
  apply UInt32.toNat_inj.mp
  simp only [advance_to_nat, UInt32.toNat_add, UInt32.toNat_one]
  omega

theorem advance_one (origin : UInt32) : advance origin 1 = origin + 1 := by
  simpa using advance_succ origin 0

@[simp] theorem advance_distance (origin target : UInt32) :
    advance origin (distance origin target) = target := by
  apply UInt32.toNat_inj.mp
  have low := origin.toNat_lt
  have high := target.toNat_lt
  simp only [advance_to_nat, distance_mod]
  omega

theorem distance_advance (origin : UInt32) {count : Nat} (small : count < 2 ^ 32) :
    distance origin (advance origin count) = count := by
  have bound := origin.toNat_lt
  simp only [advance_to_nat, distance_mod]
  omega

theorem distance_injective (origin : UInt32) {left right : UInt32}
    (same : distance origin left = distance origin right) : left = right := by
  rw [← advance_distance origin left, ← advance_distance origin right, same]

theorem advance_injective (origin : UInt32) {left right : Nat}
    (leftSmall : left < 2 ^ 32) (rightSmall : right < 2 ^ 32)
    (same : advance origin left = advance origin right) : left = right := by
  rw [← distance_advance origin leftSmall, ← distance_advance origin rightSmall, same]

/-- Distances add up as long as the whole way stays below one cycle. -/
theorem distance_from_advance (origin target : UInt32) {count : Nat}
    (reached : count ≤ distance origin target) :
    distance (advance origin count) target = distance origin target - count := by
  have low := origin.toNat_lt
  have high := target.toNat_lt
  simp only [distance_mod, advance_to_nat] at reached ⊢
  omega

/-! ## Comparison -/

/-- `SeqLT`: the difference, read as a signed number, is negative. -/
def seqLT (a b : UInt32) : Bool := (a - b).toInt32 < 0

/-- `SeqGEQ`. -/
def seqGEQ (a b : UInt32) : Bool := (a - b).toInt32 ≥ 0

/-- `SeqGT`. -/
def seqGT (a b : UInt32) : Bool := (a - b).toInt32 > 0

theorem signed_difference (difference : UInt32) :
    difference.toInt32.toInt =
      if difference.toNat < 2 ^ 31 then (difference.toNat : Int) else difference.toNat - 2 ^ 32 := by
  have bound := difference.toNat_lt
  have value : difference.toInt32.toBitVec.toNat = difference.toNat := rfl
  rw [Int32.toInt, BitVec.toInt_eq_toNat_cond, value]
  split <;> split <;> omega

theorem seq_lt_iff {a b : UInt32} : seqLT a b = true ↔ 2 ^ 31 ≤ distance b a := by
  have bound := (a - b).toNat_lt
  have value := signed_difference (a - b)
  simp only [seqLT, distance, decide_eq_true_eq, Int32.lt_iff_toInt_lt]
  rw [value, show (0 : Int32).toInt = 0 from rfl]
  split <;> omega

/-! ## Consecutive runs -/

/-- The members of `numbers` met one after the other from `start`, at most `limit`. -/
def consecutiveRun (numbers : List UInt32) : Nat → UInt32 → List UInt32
  | 0, _ => []
  | limit + 1, start =>
    if start ∈ numbers then start :: consecutiveRun numbers limit (start + 1) else []

/-- The longest consecutive run from `start` inside `numbers`, modulo 2^32. -/
def longestRun (numbers : List UInt32) (start : UInt32) : List UInt32 :=
  consecutiveRun numbers numbers.length start

theorem consecutive_run_exact (numbers : List UInt32) (limit : Nat) (start : UInt32) (count : Nat)
    (within : count ≤ limit) (present : ∀ i < count, advance start i ∈ numbers)
    (maximal : count = limit ∨ advance start count ∉ numbers) :
    consecutiveRun numbers limit start = (List.range count).map (advance start) := by
  induction limit generalizing start count with
  | zero =>
    obtain rfl : count = 0 := by omega
    rfl
  | succ limit ih =>
    cases count with
    | zero =>
      have absent : start ∉ numbers := by simpa using maximal
      simp [consecutiveRun, absent]
    | succ count =>
      have first : start ∈ numbers := by simpa using present 0 (by omega)
      have shift : ∀ i, advance (start + 1) i = advance start (i + 1) := by
        intro i
        rw [← advance_one, advance_advance, Nat.add_comm]
      have rest := ih (start + 1) count (by omega)
        (fun i below => by rw [shift]; exact present (i + 1) (by omega))
        (by rw [shift]; rcases maximal with full | absent
            · exact Or.inl (by omega)
            · exact Or.inr absent)
      simp only [consecutiveRun, first, if_true, rest, List.range_succ_eq_map, List.map_cons,
        List.map_map, advance_zero]
      congr 1
      apply List.map_congr_left
      intro i _
      exact shift i

theorem longest_run_exact (numbers : List UInt32) (start : UInt32) (count : Nat)
    (within : count ≤ numbers.length) (present : ∀ i < count, advance start i ∈ numbers)
    (maximal : count = numbers.length ∨ advance start count ∉ numbers) :
    longestRun numbers start = (List.range count).map (advance start) :=
  consecutive_run_exact numbers numbers.length start count within present maximal

/-- A run of distinct numbers is no longer than the list it lies in. -/
theorem run_length_le (numbers : List UInt32) (start : UInt32) (count : Nat)
    (small : count ≤ 2 ^ 32) (present : ∀ i < count, advance start i ∈ numbers) :
    count ≤ numbers.length := by
  have distinct : ((List.range count).map (advance start)).Nodup := by
    apply List.Nodup.map_on _ List.nodup_range
    intro i memberI j memberJ same
    rw [List.mem_range] at memberI memberJ
    exact advance_injective start (by omega) (by omega) same
  have included : (List.range count).map (advance start) ⊆ numbers := by
    intro number member
    obtain ⟨i, below, rfl⟩ := List.mem_map.mp member
    exact present i (List.mem_range.mp below)
  simpa using (distinct.subperm included).length_le

end Isekai.SequenceNumber
