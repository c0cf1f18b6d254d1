import Isekai.CreditProofs
import Mathlib.Algebra.Order.Floor.Div

/-! An SGL that is cut into packets, one cut after the other. As long as its bytes fit in 32 bits,
each packet takes as much as the MTU allows, and the packets put together are the SGL again, with
some of its fragments split where a packet ends. -/

namespace Isekai.SglPackets
open RdmaFalcon
open CreditProofs (totalLength)

variable {mtu accumulated : UInt32} {sgl first rest : List UInt32} {count number : Nat}

/-! ## Fragments that are split -/

/-- One list after the other is the whole, where a fragment may be split between them into two
that are not empty. -/
inductive Joins : List UInt32 → List UInt32 → List UInt32 → Prop where
  | apart (first rest : List UInt32) : Joins first rest (first ++ rest)
  | split (first later : List UInt32) {left right fragment : UInt32}
      (parts : left.toNat + right.toNat = fragment.toNat) (leftSome : 0 < left)
      (rightSome : 0 < right) :
      Joins (first ++ [left]) (right :: later) (first ++ fragment :: later)

/-- The pieces one after the other are the whole, up to fragments split between two of them. -/
inductive Glued : List (List UInt32) → List UInt32 → Prop where
  | nil : Glued [] []
  | cons {piece rest whole : List UInt32} {pieces : List (List UInt32)} (later : Glued pieces rest)
      (joined : Joins piece rest whole) : Glued (piece :: pieces) whole

@[simp] theorem total_length_nil : totalLength [] = 0 := rfl

@[simp] theorem total_length_cons (fragment : UInt32) (sgl : List UInt32) :
    totalLength (fragment :: sgl) = fragment.toNat + totalLength sgl := by
  simp [totalLength]

@[simp] theorem total_length_append (first rest : List UInt32) :
    totalLength (first ++ rest) = totalLength first + totalLength rest := by
  simp [totalLength]

theorem Joins.total (joined : Joins first rest sgl) :
    totalLength sgl = totalLength first + totalLength rest := by
  cases joined with
  | apart => simp
  | split first later parts leftSome rightSome =>
    simp only [total_length_append, total_length_cons, total_length_nil]
    omega

theorem Joins.cons (fragment : UInt32) (joined : Joins first rest sgl) :
    Joins (fragment :: first) rest (fragment :: sgl) := by
  cases joined with
  | apart => exact .apart (fragment :: first) rest
  | split first later parts leftSome rightSome =>
    exact .split (fragment :: first) later parts leftSome rightSome

/-- A list of positive fragments without bytes has no fragments. -/
theorem total_length_eq_zero (positive : ∀ fragment ∈ sgl, 0 < fragment) :
    totalLength sgl = 0 ↔ sgl = [] := by
  cases sgl with
  | nil => simp
  | cons fragment rest =>
    have some_ := UInt32.lt_iff_toNat_lt.1 (positive fragment List.mem_cons_self)
    simp only [total_length_cons, reduceCtorEq, iff_false]
    simp only [UInt32.toNat_zero] at some_
    omega

/-! ## One cut -/

/-- What one cut does: it takes what the MTU has room for, and splits at most one fragment. -/
structure CutAt (room : Nat) (sgl first rest : List UInt32) : Prop where
  joined : Joins first rest sgl
  taken : totalLength first = min room (totalLength sgl)
  positive : ∀ fragment ∈ rest, 0 < fragment

theorem CutAt.left {room : Nat} (cut : CutAt room sgl first rest) :
    totalLength rest = totalLength sgl - room := by
  have total := cut.joined.total
  have taken := cut.taken
  omega

theorem cut_from_cut_at (positive : ∀ fragment ∈ sgl, 0 < fragment)
    (bounded : accumulated.toNat + totalLength sgl < 2 ^ 32) (within : accumulated ≤ mtu) :
    CutAt (mtu.toNat - accumulated.toNat) sgl (cutFrom mtu accumulated sgl).1
      (cutFrom mtu accumulated sgl).2 := by
  induction sgl generalizing accumulated with
  | nil => exact ⟨.apart [] [], by simp [cutFrom], by simp [cutFrom]⟩
  | cons fragment later ih =>
    rw [total_length_cons] at bounded
    have laterPositive : ∀ other ∈ later, 0 < other := fun other member =>
      positive other (List.mem_cons_of_mem _ member)
    have bound := UInt32.le_iff_toNat_le.1 within
    have sum : (accumulated + fragment).toNat = accumulated.toNat + fragment.toNat := by
      rw [UInt32.toNat_add]
      omega
    by_cases room : accumulated < mtu
    · by_cases whole : accumulated + fragment ≤ mtu
      · have reached := UInt32.le_iff_toNat_le.1 whole
        have cut := ih laterPositive (by omega) whole
        simp only [cutFrom, if_pos room, if_pos whole]
        refine ⟨cut.joined.cons fragment, ?_, cut.positive⟩
        have taken := cut.taken
        rw [total_length_cons, total_length_cons]
        omega
      · -- The fragment is split: the packet is full, and the other part is not empty.
        have beyond := UInt32.lt_iff_toNat_lt.1 (UInt32.not_le.1 whole)
        have delta := UInt32.toNat_sub_of_le _ _ within
        have less : mtu - accumulated ≤ fragment := UInt32.le_iff_toNat_le.2 (by omega)
        have other := UInt32.toNat_sub_of_le _ _ less
        have full := UInt32.lt_iff_toNat_lt.1 room
        have leftSome : 0 < mtu - accumulated :=
          UInt32.lt_iff_toNat_lt.2 (by rw [UInt32.toNat_zero]; omega)
        have rightSome : 0 < fragment - (mtu - accumulated) :=
          UInt32.lt_iff_toNat_lt.2 (by rw [UInt32.toNat_zero]; omega)
        simp only [cutFrom, if_pos room, if_neg whole]
        refine ⟨.split [] later (by omega) leftSome rightSome, ?_, ?_⟩
        · simp only [total_length_cons, total_length_nil]
          omega
        · intro part member
          obtain rfl | member := List.mem_cons.1 member
          · exact rightSome
          · exact laterPositive part member
    · have full := UInt32.le_iff_toNat_le.1 (UInt32.not_lt.1 room)
      simp only [cutFrom, if_neg room]
      refine ⟨.apart [] _, ?_, positive⟩
      rw [total_length_nil]
      omega

theorem cut_packet_cut_at (mtu : UInt32) (positive : ∀ fragment ∈ sgl, 0 < fragment)
    (bounded : totalLength sgl < 2 ^ 32) :
    CutAt mtu.toNat sgl (cutPacketFromSgl sgl mtu).1 (cutPacketFromSgl sgl mtu).2 := by
  have start : (0 : UInt32) ≤ mtu := UInt32.le_iff_toNat_le.2 (Nat.zero_le _)
  have cut := cut_from_cut_at positive (by simpa using bounded) start
  simpa [cutPacketFromSgl] using cut

/-! ## Cut after cut -/

/-- What is left of the SGL after a number of cuts. -/
def remainder (mtu : UInt32) : Nat → List UInt32 → List UInt32
  | 0, sgl => sgl
  | number + 1, sgl => remainder mtu number (cutPacketFromSgl sgl mtu).2

/-- The fragments of a packet, the packets numbered from 0 on. -/
def piece (mtu : UInt32) (sgl : List UInt32) (number : Nat) : List UInt32 :=
  (cutPacketFromSgl (remainder mtu number sgl) mtu).1

/-- `ceil(total / mtu)`. -/
def packetCount (mtu : UInt32) (sgl : List UInt32) : Nat := totalLength sgl ⌈/⌉ mtu.toNat

theorem remainder_succ (mtu : UInt32) (number : Nat) (sgl : List UInt32) :
    remainder mtu (number + 1) sgl = (cutPacketFromSgl (remainder mtu number sgl) mtu).2 := by
  induction number generalizing sgl with
  | zero => rfl
  | succ number ih => exact ih _

/-- The SGL after each number of cuts: still of positive fragments, and shorter by full packets. -/
theorem remainder_total (mtu : UInt32) (positive : ∀ fragment ∈ sgl, 0 < fragment)
    (bounded : totalLength sgl < 2 ^ 32) (number : Nat) :
    (∀ fragment ∈ remainder mtu number sgl, 0 < fragment) ∧
      totalLength (remainder mtu number sgl) = totalLength sgl - number * mtu.toNat := by
  induction number generalizing sgl with
  | zero => exact ⟨positive, by simp [remainder]⟩
  | succ number ih =>
    have cut := cut_packet_cut_at mtu positive bounded
    obtain ⟨left, total⟩ := ih cut.positive (by have := cut.left; omega)
    refine ⟨left, ?_⟩
    rw [remainder, total, cut.left, Nat.add_mul]
    omega

theorem piece_total (positive : ∀ fragment ∈ sgl, 0 < fragment)
    (bounded : totalLength sgl < 2 ^ 32) (number : Nat) :
    totalLength (piece mtu sgl number) =
      min mtu.toNat (totalLength sgl - number * mtu.toNat) := by
  obtain ⟨left, total⟩ := remainder_total mtu positive bounded number
  have cut := cut_packet_cut_at mtu left (by omega)
  rw [piece, cut.taken, total]

/-- As many cuts as leave nothing are pieces of the whole. -/
theorem glued_pieces (positive : ∀ fragment ∈ sgl, 0 < fragment)
    (bounded : totalLength sgl < 2 ^ 32) (ended : remainder mtu count sgl = []) :
    Glued ((List.range count).map (piece mtu sgl)) sgl := by
  induction count generalizing sgl with
  | zero =>
    cases ended
    exact .nil
  | succ count ih =>
    have cut := cut_packet_cut_at mtu positive bounded
    have later := ih cut.positive (by have := cut.left; omega) ended
    rw [List.range_succ_eq_map, List.map_cons, List.map_map]
    exact .cons later cut.joined

/-- The cuts of an SGL are its packets: after as many as there are nothing is left, each but the
last is full, and together they are the SGL. -/
structure CutIntoPackets (mtu : UInt32) (sgl : List UInt32) : Prop where
  ends : ∀ count, remainder mtu count sgl = [] ↔ packetCount mtu sgl ≤ count
  full : ∀ number, number + 1 < packetCount mtu sgl →
    totalLength (piece mtu sgl number) = mtu.toNat
  last : ∀ number, number + 1 = packetCount mtu sgl →
    0 < totalLength (piece mtu sgl number) ∧ totalLength (piece mtu sgl number) ≤ mtu.toNat
  glued : Glued ((List.range (packetCount mtu sgl)).map (piece mtu sgl)) sgl

theorem cut_into_packets (mtuPositive : 0 < mtu) (positive : ∀ fragment ∈ sgl, 0 < fragment)
    (bounded : totalLength sgl < 2 ^ 32) : CutIntoPackets mtu sgl := by
  have some_ : 0 < mtu.toNat := UInt32.lt_iff_toNat_lt.1 mtuPositive
  have reach (count : Nat) :
      packetCount mtu sgl ≤ count ↔ totalLength sgl ≤ count * mtu.toNat := by
    rw [packetCount, ceilDiv_le_iff_le_mul some_, Nat.mul_comm]
  have ends (count : Nat) : remainder mtu count sgl = [] ↔ packetCount mtu sgl ≤ count := by
    obtain ⟨left, total⟩ := remainder_total mtu positive bounded count
    rw [← total_length_eq_zero left, total, reach]
    omega
  refine ⟨ends, ?_, ?_, glued_pieces positive bounded ((ends _).2 le_rfl)⟩
  · intro number before
    have more := mt (reach (number + 1)).2 (by omega)
    rw [Nat.add_mul] at more
    rw [piece_total positive bounded]
    omega
  · intro number last
    have more := mt (reach number).2 (by omega)
    rw [piece_total positive bounded]
    omega

end Isekai.SglPackets
