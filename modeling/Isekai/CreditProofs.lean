import Isekai.CreditLedger
import Mathlib.Tactic.Linarith
import Mathlib.Tactic.Ring

/-! The credits that a transaction is charged come back exactly if both components count its
fragments and its data in the same number of allocation units. -/

namespace Isekai.CreditProofs
open RdmaFalcon
open Roce (RdmaOpcode)

variable {packet : Packet} {sgl rest : List UInt32} {op : RdmaOp} {rsn : UInt32}

/-! ## Allocation units -/

/-- The two sizes take the same number of units: no multiple of the unit holds only one of them. -/
def SameUnits (unit : UInt32) (one other : Int) : Prop :=
  ∀ count : Nat, one ≤ count * unit.toNat ↔ other ≤ count * unit.toNat

theorem as_int_of_lt {length : UInt32} (small : length.toNat < 2 ^ 31) :
    asInt length = length.toNat := by
  have plain := BitVec.toInt_eq_toNat_of_lt (x := length.toBitVec) (by
    rw [UInt32.toNat_toBitVec]
    omega)
  rwa [UInt32.toNat_toBitVec] at plain

theorem subtract_nonneg (x y : Int) : 0 ≤ subtract x y := by
  unfold subtract
  split_ifs <;> omega

theorem subtract_as_int_lt (length : UInt32) {y : Int} (nonneg : 0 ≤ y) :
    subtract (asInt length) y < 2 ^ 31 := by
  have below := length.toInt32.toInt_lt
  unfold subtract asInt
  split_ifs <;> omega

theorem ceil_div_le_iff {size unit : Int} (nonneg : 0 ≤ size) (positive : 0 < unit)
    (count : Int) : ceilDiv size unit ≤ count ↔ size ≤ count * unit := by
  unfold ceilDiv
  rw [Int.tdiv_eq_ediv_of_nonneg (by omega), ← Int.lt_add_one_iff,
    Int.ediv_lt_iff_lt_mul positive, Int.add_mul, one_mul]
  omega

theorem ceil_div_nonneg {size unit : Int} (nonneg : 0 ≤ size) (positive : 0 < unit) :
    0 ≤ ceilDiv size unit := by
  unfold ceilDiv
  exact Int.tdiv_nonneg (by omega) positive.le

theorem ceil_div_le_size {size unit : Int} (nonneg : 0 ≤ size) (positive : 0 < unit) :
    ceilDiv size unit ≤ size := by
  rw [ceil_div_le_iff nonneg positive]
  have one_le : 1 ≤ unit := positive
  nlinarith

theorem ceil_div_eq_iff {unit : UInt32} (positive : 0 < unit.toNat) {one other : Int}
    (oneNonneg : 0 ≤ one) (otherNonneg : 0 ≤ other) :
    ceilDiv one unit.toNat = ceilDiv other unit.toNat ↔ SameUnits unit one other := by
  have positive : (0 : Int) < unit.toNat := by omega
  constructor
  · intro same count
    rw [← ceil_div_le_iff oneNonneg positive, ← ceil_div_le_iff otherNonneg positive, same]
  · intro same
    have least : ∀ {size bound : Int}, 0 ≤ size → 0 ≤ bound →
        (∀ count : Nat, bound ≤ count * unit.toNat → size ≤ count * unit.toNat) →
        ceilDiv size unit.toNat ≤ ceilDiv bound unit.toNat := by
      intro size bound sizeNonneg boundNonneg within
      have units := Int.toNat_of_nonneg (ceil_div_nonneg boundNonneg positive)
      rw [ceil_div_le_iff sizeNonneg positive, ← units]
      apply within
      rw [← ceil_div_le_iff boundNonneg positive, units]
    exact le_antisymm (least oneNonneg otherNonneg fun count => (same count).2)
      (least otherNonneg oneNonneg fun count => (same count).1)

theorem of_int_inj {one other : Int} (oneRange : 0 ≤ one ∧ one < 2 ^ 32)
    (otherRange : 0 ≤ other ∧ other < 2 ^ 32) :
    UInt32.ofInt one = UInt32.ofInt other ↔ one = other := by
  refine ⟨fun same => ?_, congrArg _⟩
  have numbers := congrArg UInt32.toNat same
  simp only [UInt32.ofInt, UInt32.toNat_ofNat'] at numbers
  omega

/-- The tx buffer credits of two packets with the same data. -/
theorem tx_buffer_credits_eq_iff {unit : UInt32} (range : 0 < unit.toNat ∧ unit.toNat < 2 ^ 31)
    (data one other : UInt32) :
    calculateFalconTxBufferCredits data one unit = calculateFalconTxBufferCredits data other unit ↔
      SameUnits unit (subtract (asInt one) 8) (subtract (asInt other) 8) := by
  have positive : (0 : Int) < unit.toNat := by omega
  have bounds : ∀ length : UInt32, 0 ≤ ceilDiv (subtract (asInt length) 8) unit.toNat ∧
      ceilDiv (subtract (asInt length) 8) unit.toNat < 2 ^ 32 := by
    intro length
    have nonneg := subtract_nonneg (asInt length) 8
    have below := subtract_as_int_lt length (y := 8) (by omega)
    have units := ceil_div_le_size nonneg positive
    exact ⟨ceil_div_nonneg nonneg positive, by omega⟩
  unfold calculateFalconTxBufferCredits
  rw [UInt32.ofInt_add, UInt32.ofInt_add, UInt32.add_right_inj, as_int_of_lt range.2,
    of_int_inj (bounds one) (bounds other),
    ceil_div_eq_iff range.1 (subtract_nonneg _ _) (subtract_nonneg _ _)]

/-- The rx buffer credits of two lengths. -/
theorem rx_buffer_credits_eq_iff {unit : UInt32} (range : 0 < unit.toNat ∧ unit.toNat < 2 ^ 31)
    {one other : UInt32} (oneSmall : one.toNat < 2 ^ 31) (otherSmall : other.toNat < 2 ^ 31) :
    calculateFalconRxBufferCredits one unit = calculateFalconRxBufferCredits other unit ↔
      SameUnits unit one.toNat other.toNat := by
  have positive : (0 : Int) < unit.toNat := by omega
  have sizes : ∀ length : UInt32, length.toNat < 2 ^ 31 →
      subtract (asInt length) 0 = length.toNat := by
    intro length small
    rw [as_int_of_lt small, subtract, if_pos (by omega), sub_zero]
  have bounds : ∀ length : UInt32, length.toNat < 2 ^ 31 →
      0 ≤ ceilDiv length.toNat unit.toNat ∧ ceilDiv length.toNat unit.toNat < 2 ^ 32 := by
    intro length small
    have units := ceil_div_le_size (Int.natCast_nonneg length.toNat) positive
    exact ⟨ceil_div_nonneg (by omega) positive, by omega⟩
  unfold calculateFalconRxBufferCredits
  rw [UInt32.add_left_inj, sizes one oneSmall, sizes other otherSmall, as_int_of_lt range.2,
    of_int_inj (bounds one oneSmall) (bounds other otherSmall),
    ceil_div_eq_iff range.1 (by omega) (by omega)]

/-! ## What a packet carries -/

/-- The bytes of an SGL. -/
def totalLength (sgl : List UInt32) : Nat := (sgl.map UInt32.toNat).sum

theorem sum_to_nat (sgl : List UInt32) : sgl.sum.toNat = totalLength sgl % 2 ^ 32 := by
  induction sgl with
  | nil => rfl
  | cons fragment rest ih =>
    simp only [totalLength, List.sum_cons, List.map_cons, UInt32.toNat_add] at ih ⊢
    omega

/-- A packet takes what is there, up to the MTU. -/
theorem cut_from_total {mtu longest : UInt32} (fits : mtu.toNat + longest.toNat ≤ 2 ^ 32)
    (segments : ∀ segment ∈ sgl, segment ≤ longest) {accumulated : UInt32}
    (within : accumulated ≤ mtu) :
    totalLength (cutFrom mtu accumulated sgl).1 =
      min (mtu.toNat - accumulated.toNat) (totalLength sgl) := by
  induction sgl generalizing accumulated with
  | nil => simp [cutFrom, totalLength]
  | cons fragment rest ih =>
    have short := UInt32.le_iff_toNat_le.1 (segments fragment List.mem_cons_self)
    have later : ∀ segment ∈ rest, segment ≤ longest := fun segment member =>
      segments segment (List.mem_cons_of_mem _ member)
    have bound := UInt32.le_iff_toNat_le.1 within
    by_cases room : accumulated < mtu
    · have less := UInt32.lt_iff_toNat_lt.1 room
      have sum : (accumulated + fragment).toNat = accumulated.toNat + fragment.toNat := by
        rw [UInt32.toNat_add]
        omega
      by_cases whole : accumulated + fragment ≤ mtu
      · have total := ih later whole
        have reached := UInt32.le_iff_toNat_le.1 whole
        simp only [totalLength, cutFrom, if_pos room, if_pos whole, List.map_cons,
          List.sum_cons] at total ⊢
        omega
      · have beyond : mtu.toNat < accumulated.toNat + fragment.toNat := by
          rw [← sum]
          exact UInt32.lt_iff_toNat_lt.1 (UInt32.not_le.1 whole)
        simp only [totalLength, cutFrom, if_pos room, if_neg whole, List.map_cons,
          List.map_nil, List.sum_cons, List.sum_nil, UInt32.toNat_sub_of_le _ _ within]
        omega
    · have full := UInt32.le_iff_toNat_le.1 (UInt32.not_lt.1 room)
      simp only [cutFrom, if_neg room, totalLength, List.map_nil, List.sum_nil]
      omega

theorem cut_total {config : SizeConfig}
    (segments : ∀ segment ∈ sgl, segment ≤ config.maxSegmentLength) :
    totalLength (cutPacketFromSgl sgl config.rdmaMtu).1 =
      min config.rdmaMtu.toNat (totalLength sgl) := by
  have start : (0 : UInt32) ≤ config.rdmaMtu := UInt32.le_iff_toNat_le.2 (Nat.zero_le _)
  have total := cut_from_total config.segmentRange segments start
  simpa [cutPacketFromSgl] using total

/-- The bytes that the work scheduler counts for the fragments. -/
def fragmentBytes (fragments : Nat) : Int :=
  subtract (asInt (UInt32.ofNat fragments * sglFragmentHeaderSize)) 8

/-- The fragments that are charged take the same number of tx units as the entries of the
fragments that are sent. -/
def SglMatched (config : SizeConfig) (chargedFragments sentFragments : Nat) : Prop :=
  ∀ entries, sglEntries sentFragments = some entries →
    SameUnits config.txBufferMinimumAllocationUnit (fragmentBytes chargedFragments)
      (16 * entries.toNat)

/-- The length that is charged for the data takes the same number of rx units as the length that
arrives, which has 16 bits. -/
def DataMatched (config : SizeConfig) (sgl : List UInt32) : Prop :=
  SameUnits config.rxBufferMinimumAllocationUnit
    (24 + min config.rdmaMtu.toNat (totalLength sgl % 2 ^ 32) : Nat)
    ((24 + min config.rdmaMtu.toNat (totalLength sgl)) % 2 ^ 16 : Nat)

/-- When the credits of a request come back. -/
structure RequestMatched (config : SizeConfig) (op : RdmaOp) : Prop where
  firstPhase : config.resourceReservationMode = .firstPhaseReservation
  fragments : op.inlinePayloadLength = 0 →
    SglMatched config op.sgl.length (cutPacketFromSgl op.sgl config.rdmaMtu).1.length
  data : op.opcode = .read → DataMatched config op.sgl

/-- When the credits of a response come back. -/
structure ResponseMatched (config : SizeConfig) (request : InboundReadRequest) : Prop where
  firstPhase : config.resourceReservationMode = .firstPhaseReservation
  fragments : SglMatched config request.sgl.length request.sgl.length

theorem entries_to_nat_le {fragments : Nat} {entries : UInt32}
    (some_ : sglEntries fragments = some entries) : entries.toNat ≤ 32 := by
  unfold sglEntries at some_
  split_ifs at some_ <;> cases some_ <;> decide

theorem sgl_length_eq_ok {length : UInt32} :
    getSglLength sgl = .ok length ↔ ∃ entries, sglEntries sgl.length = some entries ∧
      length = sglHeaderSize + entries * sglFragmentHeaderSize := by
  unfold getSglLength
  cases sglEntries sgl.length with
  | none => simp
  | some entries => simp [eq_comm]

/-- The bytes that Falcon counts for the entries of an SGL. -/
theorem subtract_sgl_length {fragments : Nat} {entries : UInt32}
    (some_ : sglEntries fragments = some entries) :
    subtract (asInt (sglHeaderSize + entries * sglFragmentHeaderSize)) 8 = 16 * entries.toNat := by
  have few := entries_to_nat_le some_
  have length : (sglHeaderSize + entries * sglFragmentHeaderSize).toNat = 8 + entries.toNat * 16 := by
    simp only [sglHeaderSize, sglFragmentHeaderSize, UInt32.toNat_add, UInt32.toNat_mul,
      UInt32.reduceToNat]
    omega
  rw [as_int_of_lt (by omega), length, subtract, if_pos (by omega)]
  omega

/-- The tx buffer of a packet with an SGL. -/
theorem tx_buffer_eq_iff {config : SizeConfig} {data : UInt32} {charged sent : List UInt32}
    {length : UInt32} (counted : getSglLength sent = .ok length) :
    chargedTxBuffer config data charged = calculateFalconTxBufferCredits data length
      config.txBufferMinimumAllocationUnit ↔ SglMatched config charged.length sent.length := by
  obtain ⟨entries, some_, rfl⟩ := sgl_length_eq_ok.1 counted
  rw [chargedTxBuffer, tx_buffer_credits_eq_iff config.txUnitRange, subtract_sgl_length some_,
    ← fragmentBytes, SglMatched]
  constructor
  · intro same other someToo
    rwa [← Option.some.inj (some_.symm.trans someToo)]
  · intro same
    exact same entries some_

/-- The tx buffer of a packet with inline data. -/
theorem tx_buffer_inline (config : SizeConfig) (data : UInt32) :
    chargedTxBuffer config data [] = calculateFalconTxBufferCredits data 0
      config.txBufferMinimumAllocationUnit := rfl

theorem min_to_nat (one other : UInt32) :
    (min one other).toNat = min one.toNat other.toNat := by
  change (if one ≤ other then one else other).toNat = min one.toNat other.toNat
  split_ifs with order
  · exact (min_eq_left (UInt32.le_iff_toNat_le.1 order)).symm
  · exact (min_eq_right (UInt32.lt_iff_toNat_lt.1 (UInt32.not_le.1 order)).le).symm

/-- The rx buffer of the data of a read. -/
theorem rx_buffer_eq_iff {config : SizeConfig}
    (segments : ∀ segment ∈ sgl, segment ≤ config.maxSegmentLength) :
    calculateFalconRxBufferCredits (responseHeaderSize + min config.rdmaMtu sgl.sum)
        config.rxBufferMinimumAllocationUnit =
      calculateFalconRxBufferCredits
        (pulledLength (cutPacketFromSgl sgl config.rdmaMtu).1).toUInt32
        config.rxBufferMinimumAllocationUnit ↔ DataMatched config sgl := by
  have mtu := config.mtuRange
  have charged : (responseHeaderSize + min config.rdmaMtu sgl.sum).toNat =
      24 + min config.rdmaMtu.toNat (totalLength sgl % 2 ^ 32) := by
    rw [UInt32.toNat_add, min_to_nat, sum_to_nat, show responseHeaderSize.toNat = 24 from rfl]
    omega
  have arriving : (pulledLength (cutPacketFromSgl sgl config.rdmaMtu).1).toUInt32.toNat =
      (24 + min config.rdmaMtu.toNat (totalLength sgl)) % 2 ^ 16 := by
    rw [UInt16.toNat_toUInt32, pulledLength, UInt32.toNat_toUInt16, UInt32.toNat_add, sum_to_nat,
      cut_total segments, show responseHeaderSize.toNat = 24 from rfl]
    omega
  rw [rx_buffer_credits_eq_iff config.rxUnitRange (by omega) (by omega), charged, arriving]
  rfl

/-! ## What Falcon gives back -/

/-- What a packet of a request holds for RDMA, with the data that comes back for it. -/
def heldCredit (config : SizeConfig) (packet : Packet) : FalconCredit :=
  { requestTxPacket := 1
    requestTxBuffer := calculateFalconTxBufferCredits packet.dataLength packet.sglLength
      config.txBufferMinimumAllocationUnit
    requestRxPacket := 1
    requestRxBuffer := if packet.opcode = .readRequest then
        calculateFalconRxBufferCredits (pulledLength packet.sgl).toUInt32
          config.rxBufferMinimumAllocationUnit
      else 0 }

section Released
variable {config : SizeConfig} {packets : Packets} {type : PacketType} {packet : HeldPacket}
  {credit : FalconCredit}

@[simp] theorem int32_one_to_uint32 : (1 : Int32).toUInt32 = 1 := rfl

@[simp] theorem int32_zero_to_uint32 : (0 : Int32).toUInt32 = 0 := rfl

theorem release_eq (packet : HeldPacket)
    (firstPhase : config.resourceReservationMode = .firstPhaseReservation)
    (there : packets type = some packet) (reserved : packet.resourcesReserved = true)
    (returned : (releasedCredits config packets type packet).map Prod.snd = .ok credit) :
    releaseResources config packets type =
      .ok (Function.update packets type (some { packet with resourcesReserved := false }),
        credit) := by
  obtain ⟨released, computed, rfl⟩ := map_eq_ok.1 returned
  simp [releaseResources, firstPhase, there, reserved, computed, Except.map]

/-- Releasing the data of a pull gives back what its request and the data hold. -/
theorem pull_data_credits (request : HeldPacket) (incoming : packet.direction = .incoming)
    (there : packets .pullRequest = some request) :
    (releasedCredits config packets .pullData packet).map Prod.snd = .ok
      { requestTxPacket := 1
        requestTxBuffer := calculateFalconTxBufferCredits request.dataLength request.sglLength
          config.txBufferMinimumAllocationUnit
        requestRxPacket := 1
        requestRxBuffer := calculateFalconRxBufferCredits packet.payloadLength
          config.rxBufferMinimumAllocationUnit } := by
  simp only [releasedCredits, incoming, there, Except.map]
  congr 1
  apply FalconCredit.ext <;> simp [FalconResourceCredits.toFalconCredit,
    computeOutgoingPullRequestResources, computeIncomingPullDataResources, heldTxBuffer,
    heldRxBuffer]

theorem response_credits (outgoing : packet.direction = .outgoing) :
    (releasedCredits config packets .pullData packet).map Prod.snd = .ok
      { responseTxPacket := 1
        responseTxBuffer := calculateFalconTxBufferCredits packet.dataLength packet.sglLength
          config.txBufferMinimumAllocationUnit } := by
  simp only [releasedCredits, outgoing, Except.map]
  congr 1

/-- What comes back with the completion of a push. -/
def pushCredit (config : SizeConfig) (packet : HeldPacket) : FalconCredit :=
  { requestTxPacket := 1
    requestTxBuffer := calculateFalconTxBufferCredits packet.dataLength packet.sglLength
      config.txBufferMinimumAllocationUnit
    requestRxPacket := 1 }

theorem solicited_credits (firstPhase : config.resourceReservationMode = .firstPhaseReservation)
    (outgoing : packet.direction = .outgoing) :
    (releasedCredits config packets .pushSolicitedData packet).map Prod.snd =
      .ok (pushCredit config packet) := by
  simp only [releasedCredits, outgoing, firstPhase, if_true, Except.map]
  congr 1
  apply FalconCredit.ext <;> simp [pushCredit, FalconResourceCredits.toFalconCredit,
    computeOutgoingPushSolicitedDataResources, computeIncomingPushGrantResources,
    computeOutgoingPushRequestResources, firstPhase, heldTxBuffer]

theorem unsolicited_credits (outgoing : packet.direction = .outgoing) :
    (releasedCredits config packets .pushUnsolicitedData packet).map Prod.snd =
      .ok (pushCredit config packet) := by
  simp only [releasedCredits, outgoing, Except.map]
  congr 1
  apply FalconCredit.ext <;> simp [pushCredit, FalconResourceCredits.toFalconCredit,
    computeOutgoingPushUnsolicitedDataResources,
    computeIncomingPushUnsolicitedCompletionResources, heldTxBuffer]

/-- Releasing a request gives nothing back to RDMA. -/
theorem request_credits (request : type = .pullRequest ∨ type = .pushRequest) :
    (releasedCredits config packets type packet).map Prod.snd = .ok 0 := by
  rcases request with rfl | rfl <;> cases direction : packet.direction <;>
    simp [releasedCredits, direction, Except.map]

end Released

/-! ## The life of one transaction -/

section Lifetime
variable {config : SizeConfig}

/-- Over its life a request gets back what it holds. -/
theorem returned_for_request (firstPhase : config.resourceReservationMode = .firstPhaseReservation)
    (qpId : Nat) (packet : Packet) (charged : FalconCredit) :
    returnedForRequest config (requestTransaction config qpId packet charged) =
      .ok (heldCredit config packet) := by
  unfold requestTransaction
  split_ifs with read solicited
  · refine bind_eq_ok.2 ⟨_, release_eq (ulpPacket packet) firstPhase (by simp) rfl
      (request_credits (.inl rfl)), bind_eq_ok.2 ⟨_, release_eq
        (networkPacket (pulledLength packet.sgl)) firstPhase (by simp) rfl
        (pull_data_credits { ulpPacket packet with resourcesReserved := false } rfl (by simp)), ?_⟩⟩
    simp [heldCredit, read, networkPacket, ulpPacket]
  · refine bind_eq_ok.2 ⟨_, release_eq (ulpPacket packet) firstPhase (by simp) rfl
      (request_credits (.inr rfl)), bind_eq_ok.2 ⟨_, release_eq
        (ulpPacket packet) firstPhase (by simp) rfl (solicited_credits firstPhase rfl), ?_⟩⟩
    simp [heldCredit, read, pushCredit, ulpPacket]
  · refine bind_eq_ok.2 ⟨_, release_eq (ulpPacket packet) firstPhase (by simp) rfl
      (unsolicited_credits rfl), ?_⟩
    simp [heldCredit, read, pushCredit, ulpPacket]

theorem returned_for_response (firstPhase : config.resourceReservationMode = .firstPhaseReservation)
    (packet : Packet) : returnedForResponse config packet = .ok
      { responseTxPacket := 1
        responseTxBuffer := calculateFalconTxBufferCredits packet.dataLength packet.sglLength
          config.txBufferMinimumAllocationUnit } :=
  bind_eq_ok.2 ⟨_, release_eq (ulpPacket packet) firstPhase (by simp) rfl
    (response_credits rfl), rfl⟩

/-- Nothing comes back when reservation is bypassed. -/
theorem returned_bypass (bypass : config.resourceReservationMode = .bypassReservation)
    (transaction : HeldTransaction) : returnedForRequest config transaction = .ok 0 := by
  unfold returnedForRequest
  split <;> simp [releasedInTurn, releaseResources, bypass, bind, Except.bind]

theorem returned_bypass_response (bypass : config.resourceReservationMode = .bypassReservation)
    (packet : Packet) : returnedForResponse config packet = .ok 0 := by
  simp only [returnedForResponse, releaseResources, bypass, if_true]
  rfl

/-- The packet of a request: with its inline payload, or with what was cut from the SGL. -/
theorem created_request (created : createRequestPacket config op rsn = .ok (packet, rest)) :
    ∃ requestLength, requestHeaders op = .ok (packet.opcode, packet.dataLength, requestLength) ∧
      (op.inlinePayloadLength ≠ 0 ∧ op.sgl = [] ∧ packet.sglLength = 0 ∨
        op.inlinePayloadLength = 0 ∧
          packet.sgl = (cutPacketFromSgl op.sgl config.rdmaMtu).1 ∧
          getSglLength (cutPacketFromSgl op.sgl config.rdmaMtu).1 = .ok packet.sglLength) := by
  obtain ⟨⟨opcode, data, length⟩, headers, built⟩ := bind_eq_ok.1 created
  refine ⟨length, ?_⟩
  dsimp only at built
  split_ifs at built with inline_ fragments
  · cases built
    exact ⟨headers, .inl ⟨inline_, not_not.1 fragments, rfl⟩⟩
  · obtain ⟨sglLength, counted, done⟩ := bind_eq_ok.1 built
    cases done
    exact ⟨headers, .inr ⟨not_not.1 inline_, rfl, counted⟩⟩

/-- The tx buffer of a request is charged as it is held. -/
theorem request_tx_eq_iff (created : createRequestPacket config op rsn = .ok (packet, rest))
    (data : UInt32) :
    chargedTxBuffer config data op.sgl = calculateFalconTxBufferCredits data packet.sglLength
        config.txBufferMinimumAllocationUnit ↔
      (op.inlinePayloadLength = 0 →
        SglMatched config op.sgl.length (cutPacketFromSgl op.sgl config.rdmaMtu).1.length) := by
  obtain ⟨_, _, ⟨inline_, none_, plain⟩ | ⟨inline_, _, counted⟩⟩ := created_request created
  · rw [none_, plain, tx_buffer_inline]
    exact ⟨fun _ zero => absurd zero inline_, fun _ => rfl⟩
  · rw [tx_buffer_eq_iff counted]
    exact ⟨fun same _ => same, fun same => same inline_⟩

/-- What is held for a request is what was charged for it. -/
theorem held_eq_charged_iff (checked : op.Checked config) {credit : FalconCredit}
    (created : createRequestPacket config op rsn = .ok (packet, rest))
    (charged : computeRequestCredit config op = .ok credit)
    (firstPhase : config.resourceReservationMode = .firstPhaseReservation) :
    heldCredit config packet = credit ↔ RequestMatched config op := by
  have segments := fun segment member => (checked.segments segment member).2
  obtain ⟨_, headers, shape⟩ := created_request created
  have tx := request_tx_eq_iff created packet.dataLength
  have matched : RequestMatched config op ↔
      (op.inlinePayloadLength = 0 → SglMatched config op.sgl.length
        (cutPacketFromSgl op.sgl config.rdmaMtu).1.length) ∧
      (op.opcode = .read → DataMatched config op.sgl) :=
    ⟨fun both => ⟨both.fragments, both.data⟩, fun both => ⟨firstPhase, both.1, both.2⟩⟩
  rw [matched, ← tx]
  cases opcode : op.opcode with
  | recv => simp [computeRequestCredit, opcode] at charged
  | send | write =>
    simp only [requestHeaders, opcode, Except.ok.injEq, Prod.mk.injEq] at headers
    simp only [computeRequestCredit, opcode, Except.ok.injEq] at charged
    simp [← charged, heldCredit, ← headers.1, ← headers.2.1, FalconCredit.mk.injEq, eq_comm]
  | read =>
    obtain ⟨inline_, _, _⟩ | ⟨inline_, cut, counted⟩ := shape
    · exact absurd (checked.notInline opcode) inline_
    · simp only [requestHeaders, opcode, Except.ok.injEq, Prod.mk.injEq] at headers
      simp only [computeRequestCredit, opcode, Except.ok.injEq] at charged
      simp only [← charged, heldCredit, ← headers.1, ← headers.2.1, FalconCredit.mk.injEq, if_true,
        cut, ← rx_buffer_eq_iff segments, true_and, true_implies, and_true]
      exact and_congr eq_comm eq_comm

/-- A request gets back what it was charged exactly when it is matched. -/
theorem request_returned_iff (checked : op.Checked config) (qpId : Nat) {credit : FalconCredit}
    (created : createRequestPacket config op rsn = .ok (packet, rest))
    (charged : computeRequestCredit config op = .ok credit) :
    returnedForRequest config (requestTransaction config qpId packet credit) = .ok credit ↔
      RequestMatched config op := by
  cases mode : config.resourceReservationMode with
  | firstPhaseReservation =>
    rw [returned_for_request mode, Except.ok.injEq]
    exact held_eq_charged_iff checked created charged mode
  | bypassReservation =>
    have one : credit.requestTxPacket = 1 := by
      cases opcode : op.opcode <;> simp only [computeRequestCredit, opcode] at charged <;>
        cases charged <;> rfl
    rw [returned_bypass mode, Except.ok.injEq]
    constructor
    · rintro rfl
      exact absurd one (by decide)
    · intro matched
      rw [matched.firstPhase] at mode
      cases mode

/-- A response gets back what it was charged exactly when it is matched. -/
theorem response_returned_iff {request : InboundReadRequest}
    (created : createResponsePacket request = .ok packet) :
    returnedForResponse config packet = .ok (computeResponseCredit config request) ↔
      ResponseMatched config request := by
  obtain ⟨length, counted, done⟩ := bind_eq_ok.1 created
  cases done
  cases mode : config.resourceReservationMode with
  | firstPhaseReservation =>
    rw [returned_for_response mode, Except.ok.injEq, computeResponseCredit, FalconCredit.mk.injEq,
      eq_comm (a := calculateFalconTxBufferCredits _ _ _), tx_buffer_eq_iff counted]
    exact ⟨fun same => ⟨mode, same.2.2.2.2.2⟩,
      fun matched => ⟨rfl, rfl, rfl, rfl, rfl, matched.fragments⟩⟩
  | bypassReservation =>
    constructor
    · intro returned
      rw [returned_bypass_response mode, Except.ok.injEq] at returned
      have one : (0 : UInt32) = 1 := congrArg FalconCredit.responseTxPacket returned
      exact absurd one (by decide)
    · intro matched
      rw [matched.firstPhase] at mode
      cases mode

end Lifetime

end Isekai.CreditProofs
