import Isekai.CreditProofs
import Isekai.RdmaFalconModel

/-! The checks that the RDMA work scheduler makes before it cuts a packet, beside what the packet is
charged. The global credits are checked against a minimum that takes the buffers of a typical
packet, and the tokens against a full packet with its header; the charge depends on the
operation. -/

namespace Isekai.CreditChecks
open RdmaFalcon RdmaFalcon.State CreditProofs
open Roce (RdmaOpcode WorkType)
open AdmissionControl (TokenBucket)

/-- The check before a transaction is enough for it: whatever the global credits and the bucket are,
if they pass the check, they hold what the transaction takes. -/
def Covered (config : Config) (type : WorkType) (credit : FalconCredit) (packet : Packet) : Prop :=
  (∀ remaining : FalconCredit, minimumCredit config type ≤ remaining → credit ≤ remaining) ∧
  ∀ bucket : TokenBucket, (config.rdmaMtu + rdmaHeader).toNat ≤ bucket.availableTokens →
    ∃ rest, bucket.requestTokens (tokensConsumed packet).toNat = .ok rest

/-! ## What the checks ask for -/

/-- The tx buffers that the minimum credits hold. -/
def checkedTxBuffers (config : SizeConfig) : Int :=
  ceilDiv 192 config.txBufferMinimumAllocationUnit.toNat +
    ceilDiv 642 config.txBufferMinimumAllocationUnit.toNat

/-- The rx buffers that the minimum credits of a request hold: those of a full packet, without the
header of the response. -/
def checkedRxBuffers (config : SizeConfig) : Int :=
  ceilDiv config.rdmaMtu.toNat config.rxBufferMinimumAllocationUnit.toNat

/-- The length of the headers of a request, with its inline payload. -/
def dataLength (op : RdmaOp) : UInt32 :=
  match op.opcode with
  | .read => readHeaderSize
  | .send => sendHeaderSize + op.inlinePayloadLength
  | _ => writeHeaderSize + op.inlinePayloadLength

/-- What an operation has to be like for the checks to cover its next packet: its inline data and
its fragments fit into the tx buffers that were checked, the response to a read, with its header,
into the rx buffers, and headers with inline data are not longer than a full packet with the header
that the tokens are checked for. -/
structure RequestFits (config : SizeConfig) (op : RdmaOp) : Prop where
  data : op.inlinePayloadLength ≠ 0 → asInt (dataLength op) ≤
    64 + checkedTxBuffers config * config.txBufferMinimumAllocationUnit.toNat
  fragments : asInt (UInt32.ofNat op.sgl.length * sglFragmentHeaderSize) ≤
    8 + checkedTxBuffers config * config.txBufferMinimumAllocationUnit.toNat
  response : op.opcode = .read →
    (24 + min config.rdmaMtu.toNat (totalLength op.sgl % 2 ^ 32) : Nat) ≤
      checkedRxBuffers config * config.rxBufferMinimumAllocationUnit.toNat
  tokens : op.opcode = .read ∨ op.inlinePayloadLength ≠ 0 →
    (dataLength op).toNat ≤ config.rdmaMtu.toNat + 28

/-- What a read request has to be like: its response is not longer than the tokens that are
checked. -/
def ResponseFits (config : SizeConfig) (request : InboundReadRequest) : Prop :=
  (24 + totalLength request.sgl) % 2 ^ 32 ≤ config.rdmaMtu.toNat + 28

section Buffers
variable {config : SizeConfig}

theorem of_int_to_nat {value : Int} (nonneg : 0 ≤ value) (small : value < 2 ^ 32) :
    ((UInt32.ofInt value).toNat : Int) = value := by
  simp only [UInt32.ofInt, UInt32.toNat_ofNat']
  omega

theorem tx_buffers_to_nat (config : SizeConfig) (data fragments : UInt32) :
    ((calculateFalconTxBufferCredits data fragments
        config.txBufferMinimumAllocationUnit).toNat : Int) =
      ceilDiv (subtract (asInt data) 64) config.txBufferMinimumAllocationUnit.toNat +
        ceilDiv (subtract (asInt fragments) 8) config.txBufferMinimumAllocationUnit.toNat := by
  obtain ⟨positive, small⟩ := config.txUnitRange
  have unit : (0 : Int) < config.txBufferMinimumAllocationUnit.toNat := by omega
  have dataNonneg := subtract_nonneg (asInt data) 64
  have fragmentsNonneg := subtract_nonneg (asInt fragments) 8
  have dataUnits := ceil_div_le_size dataNonneg unit
  have fragmentUnits := ceil_div_le_size fragmentsNonneg unit
  have dataSmall : subtract (asInt data) 64 < 2 ^ 31 := subtract_as_int_lt data (by omega)
  have fragmentsSmall : subtract (asInt fragments) 8 < 2 ^ 31 :=
    subtract_as_int_lt fragments (by omega)
  have first := ceil_div_nonneg dataNonneg unit
  have second := ceil_div_nonneg fragmentsNonneg unit
  unfold calculateFalconTxBufferCredits
  rw [as_int_of_lt small]
  exact of_int_to_nat (by omega) (by omega)

theorem rx_buffers_to_nat (config : SizeConfig) {length : UInt32} (small : length.toNat < 2 ^ 31) :
    ((calculateFalconRxBufferCredits length config.rxBufferMinimumAllocationUnit).toNat : Int) =
      ceilDiv length.toNat config.rxBufferMinimumAllocationUnit.toNat := by
  obtain ⟨positive, unitSmall⟩ := config.rxUnitRange
  have unit : (0 : Int) < config.rxBufferMinimumAllocationUnit.toNat := by omega
  have nonneg : (0 : Int) ≤ length.toNat := Int.natCast_nonneg _
  have units := ceil_div_le_size nonneg unit
  have first := ceil_div_nonneg nonneg unit
  have whole : subtract (asInt length) 0 = length.toNat := by
    rw [as_int_of_lt small, subtract, if_pos nonneg, sub_zero]
  unfold calculateFalconRxBufferCredits
  rw [as_int_of_lt unitSmall, whole, UInt32.add_zero]
  exact of_int_to_nat first (by omega)

theorem checked_tx_buffers_nonneg (config : SizeConfig) : 0 ≤ checkedTxBuffers config := by
  obtain ⟨positive, -⟩ := config.txUnitRange
  have unit : (0 : Int) < config.txBufferMinimumAllocationUnit.toNat := by omega
  exact add_nonneg (ceil_div_nonneg (by omega) unit) (ceil_div_nonneg (by omega) unit)

/-- The tx buffers of a transaction that carries inline data or fragments, not both. -/
theorem charged_tx_le_iff {length : UInt32} {sgl : List UInt32}
    (either : asInt length ≤ 64 ∨ sgl = []) :
    chargedTxBuffer config length sgl ≤
        calculateFalconTxBufferCredits 256 650 config.txBufferMinimumAllocationUnit ↔
      asInt length ≤ 64 + checkedTxBuffers config * config.txBufferMinimumAllocationUnit.toNat ∧
      asInt (UInt32.ofNat sgl.length * sglFragmentHeaderSize) ≤
        8 + checkedTxBuffers config * config.txBufferMinimumAllocationUnit.toNat := by
  obtain ⟨positive, -⟩ := config.txUnitRange
  have unit : (0 : Int) < config.txBufferMinimumAllocationUnit.toNat := by omega
  have checked : ((calculateFalconTxBufferCredits 256 650
      config.txBufferMinimumAllocationUnit).toNat : Int) = checkedTxBuffers config :=
    tx_buffers_to_nat config 256 650
  have checkedNonneg := checked_tx_buffers_nonneg config
  have bytesNonneg := mul_nonneg checkedNonneg unit.le
  have charged : ((chargedTxBuffer config length sgl).toNat : Int) = _ :=
    tx_buffers_to_nat config length (UInt32.ofNat sgl.length * sglFragmentHeaderSize)
  have nothing : ceilDiv 0 config.txBufferMinimumAllocationUnit.toNat = 0 :=
    le_antisymm (ceil_div_le_size le_rfl unit) (ceil_div_nonneg le_rfl unit)
  rw [UInt32.le_iff_toNat_le, ← Int.ofNat_le, checked, charged]
  have within : ∀ size fixed : Int, 0 ≤ fixed →
      (ceilDiv (subtract size fixed) config.txBufferMinimumAllocationUnit.toNat ≤
        checkedTxBuffers config ↔ size ≤
          fixed + checkedTxBuffers config * config.txBufferMinimumAllocationUnit.toNat) := by
    intro size fixed fixedNonneg
    rw [ceil_div_le_iff (subtract_nonneg _ _) unit]
    unfold subtract
    split_ifs <;> omega
  rcases either with headers | none_
  · have empty : subtract (asInt length) 64 = 0 := by
      unfold subtract
      split_ifs <;> omega
    rw [empty, nothing, zero_add, within _ 8 (by omega)]
    exact ⟨fun fits => ⟨by omega, fits⟩, fun fits => fits.2⟩
  · subst none_
    have empty : subtract (asInt (UInt32.ofNat ([] : List UInt32).length *
        sglFragmentHeaderSize)) 8 = 0 := rfl
    rw [empty, nothing, add_zero, within _ 64 (by omega)]
    refine ⟨fun fits => ⟨fits, ?_⟩, fun fits => fits.1⟩
    have zero : asInt (UInt32.ofNat ([] : List UInt32).length * sglFragmentHeaderSize) = 0 := rfl
    omega

/-- The rx buffers of the response to a read. -/
theorem charged_rx_le_iff (sgl : List UInt32) :
    calculateFalconRxBufferCredits (responseHeaderSize + min config.rdmaMtu sgl.sum)
        config.rxBufferMinimumAllocationUnit ≤
      calculateFalconRxBufferCredits config.rdmaMtu config.rxBufferMinimumAllocationUnit ↔
    (24 + min config.rdmaMtu.toNat (totalLength sgl % 2 ^ 32) : Nat) ≤
      checkedRxBuffers config * config.rxBufferMinimumAllocationUnit.toNat := by
  have mtu := config.mtuRange
  obtain ⟨positive, -⟩ := config.rxUnitRange
  have unit : (0 : Int) < config.rxBufferMinimumAllocationUnit.toNat := by omega
  have length : (responseHeaderSize + min config.rdmaMtu sgl.sum).toNat =
      24 + min config.rdmaMtu.toNat (totalLength sgl % 2 ^ 32) := by
    rw [UInt32.toNat_add, min_to_nat, sum_to_nat, show responseHeaderSize.toNat = 24 from rfl]
    omega
  have checked : ((calculateFalconRxBufferCredits config.rdmaMtu
      config.rxBufferMinimumAllocationUnit).toNat : Int) = checkedRxBuffers config :=
    rx_buffers_to_nat config (by omega)
  rw [UInt32.le_iff_toNat_le, ← Int.ofNat_le, checked, rx_buffers_to_nat config (by omega), length,
    ceil_div_le_iff (Int.natCast_nonneg _) unit]

end Buffers

/-! ## What a transaction takes -/

section Covering
variable {config : Config} {op : RdmaOp} {rsn : UInt32} {packet : Packet} {left : List UInt32}
  {credit : FalconCredit}

theorem checked_tokens (config : Config) :
    (config.rdmaMtu + rdmaHeader).toNat = config.rdmaMtu.toNat + 28 := by
  have mtu := config.mtuRange
  rw [UInt32.toNat_add, show rdmaHeader.toNat = 28 from rfl]
  omega

theorem request_tokens_iff (bucket : TokenBucket) (required : Nat) :
    (∃ rest, bucket.requestTokens required = .ok rest) ↔ required ≤ bucket.availableTokens := by
  unfold TokenBucket.requestTokens
  by_cases enough : required ≤ bucket.availableTokens
  · rw [if_pos enough]
    exact iff_of_true ⟨_, rfl⟩ enough
  · rw [if_neg enough]
    exact iff_of_false nofun enough

/-- The checks are enough for a transaction exactly if they ask for at least what it takes. -/
theorem covered_iff {type : WorkType} : Covered config type credit packet ↔
    credit ≤ minimumCredit config type ∧
      (tokensConsumed packet).toNat ≤ config.rdmaMtu.toNat + 28 := by
  unfold Covered
  rw [checked_tokens]
  refine and_congr ⟨fun within => within _ ?_, fun within remaining passed => ?_⟩
    ⟨fun within => ?_, fun within bucket passed => ?_⟩
  · exact (FalconCredit.le_iff _ _).2 fun _ => le_refl _
  · rw [FalconCredit.le_iff] at within passed ⊢
    exact fun pool => (within pool).trans (passed pool)
  · exact (request_tokens_iff _ _).1
      (within (TokenBucket.full 1 1 (config.rdmaMtu.toNat + 28)) (le_refl _))
  · exact (request_tokens_iff _ _).2 (within.trans passed)

/-- What a request is charged. -/
theorem request_credit_eq (computed : computeRequestCredit config.toSizeConfig op = .ok credit) :
    credit =
      { requestTxPacket := 1
        requestTxBuffer := chargedTxBuffer config.toSizeConfig (dataLength op) op.sgl
        requestRxPacket := 1
        requestRxBuffer := if op.opcode = .read then
            calculateFalconRxBufferCredits (responseHeaderSize + min config.rdmaMtu op.sgl.sum)
              config.rxBufferMinimumAllocationUnit
          else 0 } := by
  unfold computeRequestCredit at computed
  unfold dataLength
  cases opcode : op.opcode <;> rw [opcode] at computed <;> cases computed <;> rfl

/-- A request is charged within the minimum exactly if its buffers are. -/
theorem request_credit_le_iff
    (computed : computeRequestCredit config.toSizeConfig op = .ok credit) :
    credit ≤ minimumCredit config .request ↔
      chargedTxBuffer config.toSizeConfig (dataLength op) op.sgl ≤
          calculateFalconTxBufferCredits 256 650 config.txBufferMinimumAllocationUnit ∧
      (op.opcode = .read →
        calculateFalconRxBufferCredits (responseHeaderSize + min config.rdmaMtu op.sgl.sum)
            config.rxBufferMinimumAllocationUnit ≤
          calculateFalconRxBufferCredits config.rdmaMtu config.rxBufferMinimumAllocationUnit) := by
  rw [request_credit_eq computed, FalconCredit.le_iff]
  constructor
  · intro within
    refine ⟨UInt32.le_iff_toNat_le.2 (within .requestTxBuffer), fun read => ?_⟩
    have buffers := within .requestRxBuffer
    simp only [FalconCredit.of, if_pos read] at buffers
    exact UInt32.le_iff_toNat_le.2 buffers
  · rintro ⟨sent, received⟩ pool
    cases pool with
    | requestTxPacket | requestRxPacket | responseTxPacket | responseTxBuffer => exact le_refl _
    | requestTxBuffer => exact UInt32.le_iff_toNat_le.1 sent
    | requestRxBuffer =>
      simp only [FalconCredit.of]
      split_ifs with read
      · exact UInt32.le_iff_toNat_le.1 (received read)
      · exact Nat.zero_le _

/-- The fragments of a packet are together not longer than the MTU, as far as a word counts them. -/
theorem cut_from_sum {mtu : UInt32} {sgl : List UInt32} {accumulated : UInt32}
    (within : accumulated ≤ mtu) : accumulated + (cutFrom mtu accumulated sgl).1.sum ≤ mtu := by
  induction sgl generalizing accumulated with
  | nil => simpa [cutFrom] using within
  | cons fragment rest ih =>
    unfold cutFrom
    by_cases room : accumulated < mtu
    · by_cases whole : accumulated + fragment ≤ mtu
      · rw [if_pos room, if_pos whole]
        dsimp only
        rw [List.sum_cons, ← UInt32.add_assoc]
        exact ih whole
      · rw [if_pos room, if_neg whole]
        simp
    · rw [if_neg room]
      simpa using within

/-- What a request packet takes of the tokens: the headers of a read, and else the headers with the
inline data or the fragments. -/
theorem request_tokens_eq
    (created : createRequestPacket config.toSizeConfig op rsn = .ok (packet, left)) :
    (op.inlinePayloadLength = 0 ∨ op.sgl = []) ∧ tokensConsumed packet =
      if op.opcode = .read ∨ op.inlinePayloadLength ≠ 0 then dataLength op
      else dataLength op + (cutPacketFromSgl op.sgl config.rdmaMtu).1.sum := by
  obtain ⟨⟨opcode, data, announced⟩, headers, rest⟩ := bind_eq_ok.1 created
  have lengths : data = dataLength op ∧ (opcode = .readRequest ↔ op.opcode = .read) ∧
      (op.opcode ≠ .read → announced = dataLength op) := by
    unfold requestHeaders at headers
    unfold dataLength
    cases kind : op.opcode <;> simp only [kind] at headers <;> cases headers <;> simp
  obtain ⟨rfl, read, others⟩ := lengths
  by_cases inline : op.inlinePayloadLength = 0
  · simp only [inline, ne_eq, not_true_eq_false, if_false] at rest
    obtain ⟨length, -, made⟩ := bind_eq_ok.1 rest
    cases made
    refine ⟨.inl inline, ?_⟩
    unfold tokensConsumed
    by_cases isRead : op.opcode = .read
    · simp [read.2 isRead, isRead]
    · have other : opcode ≠ .readRequest := fun same => isRead (read.1 same)
      simp [other, isRead, inline, others isRead]
  · simp only [inline, ne_eq, not_false_eq_true, if_true] at rest
    split_ifs at rest with fragments
    cases rest
    refine ⟨.inr fragments, ?_⟩
    unfold tokensConsumed
    by_cases isRead : op.opcode = .read
    · simp [read.2 isRead, isRead]
    · have other : opcode ≠ .readRequest := fun same => isRead (read.1 same)
      simp [other, isRead, inline, others isRead]

/-- The headers of an operation without inline data. -/
theorem headers_short (bare : op.inlinePayloadLength = 0) : (dataLength op).toNat ≤ 44 ∧
    (op.opcode ≠ .read → (dataLength op).toNat ≤ 28) := by
  unfold dataLength
  rw [bare]
  cases op.opcode <;> decide

/-- The tokens that are checked are enough for the fragments of a packet with their headers. -/
theorem request_tokens_le_iff
    (created : createRequestPacket config.toSizeConfig op rsn = .ok (packet, left)) :
    (tokensConsumed packet).toNat ≤ config.rdmaMtu.toNat + 28 ↔
      (op.opcode = .read ∨ op.inlinePayloadLength ≠ 0 →
        (dataLength op).toNat ≤ config.rdmaMtu.toNat + 28) := by
  rw [(request_tokens_eq created).2]
  by_cases headers : op.opcode = .read ∨ op.inlinePayloadLength ≠ 0
  · rw [if_pos headers]
    exact ⟨fun enough _ => enough, fun enough => enough headers⟩
  · rw [if_neg headers]
    obtain ⟨other, bare⟩ := not_or.1 headers
    have short := (headers_short (not_not.1 bare)).2 other
    have start : (0 : UInt32) ≤ config.rdmaMtu := UInt32.le_iff_toNat_le.2 (Nat.zero_le _)
    have cut : (0 : UInt32) + (cutFrom config.rdmaMtu 0 op.sgl).1.sum ≤ config.rdmaMtu :=
      cut_from_sum start
    rw [zero_add] at cut
    have fragments := UInt32.le_iff_toNat_le.1 cut
    have mtu := config.mtuRange
    refine iff_of_true ?_ fun which => absurd which headers
    unfold cutPacketFromSgl
    rw [UInt32.toNat_add]
    omega

/-- The checks are enough for the next packet of an operation exactly if the operation fits. -/
theorem request_covered_iff
    (computed : computeRequestCredit config.toSizeConfig op = .ok credit)
    (created : createRequestPacket config.toSizeConfig op rsn = .ok (packet, left)) :
    Covered config .request credit packet ↔ RequestFits config.toSizeConfig op := by
  rw [covered_iff, request_credit_le_iff computed, charged_rx_le_iff,
    request_tokens_le_iff created]
  have either : asInt (dataLength op) ≤ 64 ∨ op.sgl = [] := by
    refine (request_tokens_eq created).1.imp (fun bare => ?_) id
    have short := (headers_short bare).1
    rw [as_int_of_lt (by omega)]
    omega
  rw [charged_tx_le_iff either]
  have nonneg := checked_tx_buffers_nonneg config.toSizeConfig
  constructor
  · rintro ⟨⟨⟨data, fragments⟩, response⟩, tokens⟩
    exact ⟨fun _ => data, fragments, response, tokens⟩
  · rintro ⟨data, fragments, response, tokens⟩
    refine ⟨⟨⟨?_, fragments⟩, response⟩, tokens⟩
    by_cases bare : op.inlinePayloadLength = 0
    · have short := (headers_short bare).1
      have bytes : 0 ≤ checkedTxBuffers config.toSizeConfig *
          config.txBufferMinimumAllocationUnit.toNat := mul_nonneg nonneg (Int.natCast_nonneg _)
      rw [as_int_of_lt (by omega)]
      omega
    · exact data bare

/-- The fragments that a packet can have fit the tx buffers of the check. -/
theorem fragments_checked {sgl : List UInt32} {length : UInt32}
    (counted : getSglLength sgl = .ok length) :
    asInt (UInt32.ofNat sgl.length * sglFragmentHeaderSize) ≤
      8 + checkedTxBuffers config.toSizeConfig * config.txBufferMinimumAllocationUnit.toNat := by
  obtain ⟨positive, -⟩ := config.txUnitRange
  have unit : (0 : Int) < config.txBufferMinimumAllocationUnit.toNat := by omega
  obtain ⟨entries, some_, -⟩ := sgl_length_eq_ok.1 counted
  have few : sgl.length ≤ 32 := by
    unfold sglEntries at some_
    split_ifs at some_ <;> omega
  have bytes : (UInt32.ofNat sgl.length * sglFragmentHeaderSize).toNat = sgl.length * 16 := by
    rw [UInt32.toNat_mul, UInt32.toNat_ofNat', show sglFragmentHeaderSize.toNat = 16 from rfl]
    omega
  have metadata := (ceil_div_le_iff (by omega) unit _).1
    (le_refl (ceilDiv 642 config.txBufferMinimumAllocationUnit.toNat))
  have data := mul_nonneg (ceil_div_nonneg (by omega : (0 : Int) ≤ 192) unit) unit.le
  rw [as_int_of_lt (by omega), bytes, checkedTxBuffers, add_mul]
  omega

/-- The checks are enough for a response exactly if it fits. -/
theorem response_covered_iff {request : InboundReadRequest}
    (created : createResponsePacket request = .ok packet) :
    Covered config .response (computeResponseCredit config.toSizeConfig request) packet ↔
      ResponseFits config.toSizeConfig request := by
  obtain ⟨length, counted, made⟩ := bind_eq_ok.1 created
  cases made
  rw [covered_iff]
  have headers : asInt responseHeaderSize ≤ 64 := by decide
  have bytes := mul_nonneg (checked_tx_buffers_nonneg config.toSizeConfig)
    (Int.natCast_nonneg config.txBufferMinimumAllocationUnit.toNat)
  have sent : chargedTxBuffer config.toSizeConfig responseHeaderSize request.sgl ≤
      calculateFalconTxBufferCredits 256 650 config.txBufferMinimumAllocationUnit :=
    (charged_tx_le_iff (.inl headers)).2 ⟨by omega, fragments_checked counted⟩
  have within : computeResponseCredit config.toSizeConfig request ≤
      minimumCredit config .response := by
    rw [FalconCredit.le_iff]
    intro pool
    cases pool with
    | responseTxBuffer => exact UInt32.le_iff_toNat_le.1 sent
    | _ => exact le_refl _
  rw [and_iff_right within]
  unfold ResponseFits tokensConsumed
  dsimp only
  rw [if_neg (by decide), UInt32.toNat_add, sum_to_nat,
    show responseHeaderSize.toNat = 24 from rfl, Nat.add_mod_mod]

end Covering

end Isekai.CreditChecks
