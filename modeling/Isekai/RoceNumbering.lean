import Isekai.RoceModel
import Mathlib.Algebra.BigOperators.Group.List.Basic
import Mathlib.Algebra.GroupWithZero.Nat

/-! The packets of a queue pair numbered without a bound. A sequence number is such a number cut to
24 bits, and the comparisons of sequence numbers are those of the numbers as long as less than
`kPsnRange` of them are in use. The operations of a send queue take consecutive ranges of numbers. -/

namespace Isekai.RoceNumbering
open Roce Roce.QpContext

variable {config : Config} {context : QpContext}
variable {first max : Nat} {ops : List RdmaOp}

/-- The sequence number of a packet. -/
def psnOf (number : Nat) : Psn :=
  BitVec.ofNat 24 number

theorem psn_add_one (number : Nat) : psnAdd (psnOf number) 1 = psnOf (number + 1) := by
  simp only [psnAdd, psnOf]
  bv_omega

theorem psn_add_of (number more : Nat) :
    psnAdd (psnOf number) (BitVec.ofNat 24 more) = psnOf (number + more) := by
  simp only [psnAdd, psnOf]
  bv_omega

theorem psn_pred (number : Nat) : psnAdd (psnOf (number + 1)) (-1) = psnOf number := by
  simp only [psnAdd, psnOf]
  bv_omega

theorem psn_distance {number : Nat} (after : first ≤ number) (near : number < first + 2 ^ 24) :
    (psnOf number - psnOf first).toNat = number - first := by
  simp only [psnOf]
  bv_omega

theorem psn_inj (first : Nat) {one other : Nat} (afterOne : first ≤ one) (nearOne : one < first + 2 ^ 24)
    (afterOther : first ≤ other) (nearOther : other < first + 2 ^ 24) :
    psnOf one = psnOf other ↔ one = other := by
  refine ⟨fun same => ?_, fun same => by rw [same]⟩
  have distances := congrArg (fun psn => (psn - psnOf first).toNat) same
  simp only [psn_distance afterOne nearOne, psn_distance afterOther nearOther] at distances
  omega

theorem exists_number (psn : Psn) (first : Nat) :
    ∃ number, first ≤ number ∧ number < first + 2 ^ 24 ∧ psn = psnOf number := by
  have small := (psn - psnOf first).isLt
  refine ⟨first + (psn - psnOf first).toNat, by omega, by omega, ?_⟩
  simp only [psnOf]
  bv_omega

/-- The numbers between two others. -/
theorem between_iff {low high : Nat} (ordered : low ≤ high) (near : high < low + 2 ^ 24)
    {psn : Psn} :
    psnBetween psn (psnOf low) (psnOf high) = true ↔
      ∃ number, low ≤ number ∧ number ≤ high ∧ psn = psnOf number := by
  obtain ⟨number, after, close, rfl⟩ := exists_number psn low
  rw [psn_between_iff, psn_distance after close, psn_distance ordered near]
  constructor
  · intro less
    exact ⟨number, after, by omega, rfl⟩
  · rintro ⟨other, above, below, same⟩
    have := (psn_inj low after close above (by omega)).1 same
    omega

/-- The numbers that the requester has sent and of which it awaits the acknowledgement. -/
theorem valid_iff {oldest : Nat} (oldestPsn : context.oldestUnacknowledgedPsn = psnOf oldest)
    (maxPsn : context.maxPsn = psnOf max) (ordered : oldest ≤ max) (near : max < oldest + 2 ^ 24)
    {psn : Psn} :
    context.psnIsValidAtInitiator psn = true ↔
      ∃ number, oldest ≤ number ∧ number < max ∧ psn = psnOf number := by
  unfold psnIsValidAtInitiator
  rw [oldestPsn, maxPsn]
  by_cases none : oldest = max
  · subst none
    simp only [bne_self_eq_false, Bool.false_and, Bool.false_eq_true, false_iff]
    rintro ⟨number, above, below, _⟩
    omega
  · obtain ⟨last, rfl⟩ : ∃ last, max = last + 1 := ⟨max - 1, by omega⟩
    have differ : psnOf oldest ≠ psnOf (last + 1) := fun same =>
      none ((psn_inj oldest le_rfl (by omega) ordered near).1 same)
    rw [psn_pred, Bool.and_eq_true, between_iff (by omega) (by omega)]
    simp only [bne_iff_ne, ne_eq, differ, not_false_eq_true, true_and, Nat.lt_succ_iff]

theorem ge_iff {low : Nat} (maxPsn : context.maxPsn = psnOf max) (ordered : low < max)
    (near : max < low + 2 ^ 24) {psn : Psn} :
    context.psnGeAtInitiator psn (psnOf low) = true ↔
      ∃ number, low ≤ number ∧ number < max ∧ psn = psnOf number := by
  obtain ⟨last, rfl⟩ : ∃ last, max = last + 1 := ⟨max - 1, by omega⟩
  unfold psnGeAtInitiator
  rw [maxPsn, psn_pred, between_iff (by omega) (by omega)]
  simp only [Nat.lt_succ_iff]

/-! ## Send queues -/

/-- The number of packets of an operation. -/
def packetsOf (config : Config) (op : RdmaOp) : Nat :=
  ((if op.length = 0 then 0 else op.length - 1) / config.rdmaMtu).toNat + 1

theorem packets_pos (config : Config) (op : RdmaOp) : 0 < packetsOf config op :=
  Nat.succ_pos _

/-- The number of packets of some operations. -/
def span (config : Config) (ops : List RdmaOp) : Nat :=
  (ops.map (packetsOf config)).sum

@[simp] theorem span_nil : span config [] = 0 := rfl

@[simp] theorem span_cons (op : RdmaOp) (rest : List RdmaOp) :
    span config (op :: rest) = packetsOf config op + span config rest := by
  simp [span]

@[simp] theorem span_append (ops rest : List RdmaOp) :
    span config (ops ++ rest) = span config ops + span config rest := by
  simp [span]

theorem length_le_span (config : Config) (ops : List RdmaOp) : ops.length ≤ span config ops := by
  induction ops with
  | nil => rfl
  | cons op rest ih =>
    have positive := packets_pos config op
    rw [span_cons, List.length_cons]
    omega

/-- The operations have consecutive numbers from the first one on. -/
def Laid (config : Config) : Nat → List RdmaOp → Prop
  | _, [] => True
  | first, op :: rest => (op.opcode ≠ .recv ∧ packetsOf config op < 2 ^ 24 ∧
      op.psn = psnOf first ∧ op.endPsn = psnOf (first + packetsOf config op - 1)) ∧
    Laid config (first + packetsOf config op) rest

/-- No read is sent in parts. -/
def Unsplit (config : Config) (max : Nat) : Nat → List RdmaOp → Prop
  | _, [] => True
  | first, op :: rest =>
    (op.opcode = .read → max ≤ first ∨ first + packetsOf config op ≤ max) ∧
      Unsplit config max (first + packetsOf config op) rest

theorem laid_append {rest : List RdmaOp} :
    Laid config first (ops ++ rest) ↔
      Laid config first ops ∧ Laid config (first + span config ops) rest := by
  induction ops generalizing first with
  | nil => simp [Laid]
  | cons op more ih => simp [Laid, ih, and_assoc, add_assoc]

/-- Where an operation ends. -/
theorem laid_end (laid : Laid config first ops) {op : RdmaOp} (member : op ∈ ops) :
    ∃ last, first ≤ last ∧ last < first + span config ops ∧ op.endPsn = psnOf last := by
  induction ops generalizing first with
  | nil => cases member
  | cons head rest ih =>
    have positive := packets_pos config head
    obtain ⟨⟨_, _, _, endPsn⟩, laidRest⟩ := laid
    rw [span_cons]
    rcases List.mem_cons.1 member with rfl | later
    · exact ⟨_, by omega, by omega, endPsn⟩
    · obtain ⟨last, above, below, same⟩ := ih laidRest later
      exact ⟨last, by omega, by omega, same⟩

theorem unsplit_append {rest : List RdmaOp} :
    Unsplit config max first (ops ++ rest) ↔
      Unsplit config max first ops ∧ Unsplit config max (first + span config ops) rest := by
  induction ops generalizing first with
  | nil => simp [Unsplit]
  | cons op more ih => simp [Unsplit, ih, and_assoc, add_assoc]

/-- Operations that were not sent at all are not split. -/
theorem unsplit_ahead (ahead : max ≤ first) : Unsplit config max first ops := by
  induction ops generalizing first with
  | nil => trivial
  | cons op rest ih => exact ⟨fun _ => .inl ahead, ih (by omega)⟩

/-- Operations that were sent completely are not split. -/
theorem unsplit_behind (behind : first + span config ops ≤ max) : Unsplit config max first ops := by
  induction ops generalizing first with
  | nil => trivial
  | cons op rest ih =>
    rw [span_cons] at behind
    exact ⟨fun _ => .inr (by omega), ih (by omega)⟩

end Isekai.RoceNumbering
