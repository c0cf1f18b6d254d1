import Isekai.RoceModel
import Mathlib.Algebra.BigOperators.Group.List.Basic
import Mathlib.Algebra.GroupWithZero.Nat

/-! The payloads of the packets that are made for an operation, from any of its packets on: those
of a write or a send, and the responses to a read. They cut its length into segments unless the last
one is full, or there are more packets than sequence numbers. -/

namespace Isekai.RoceSegmentation
open Roce Roce.QpContext

variable {config : Config} {context : QpContext}
variable {length : UInt32} {op : RdmaOp} {start : Nat}

/-- Lengths cut a total into segments: only the last one is shorter than the others. -/
structure Segmented (segment total : Nat) (lengths : List Nat) : Prop where
  each : ∀ length ∈ lengths, 1 ≤ length ∧ length ≤ segment
  full : ∀ length ∈ lengths.dropLast, length = segment
  sum : lengths.sum = total

/-- Full segments and a last one are what they should be if the last one is the remainder. -/
theorem segmented_iff {segment total count last : Nat} :
    Segmented segment total (List.replicate count segment ++ [last]) ↔
      1 ≤ last ∧ last ≤ segment ∧ count * segment + last = total := by
  constructor
  · intro segmented
    have bounds := segmented.each last (by simp)
    have sum := segmented.sum
    exact ⟨bounds.1, bounds.2, by simpa using sum⟩
  · rintro ⟨positive, small, sum⟩
    refine ⟨fun length member => ?_, fun length member => ?_, ?_⟩
    · rcases List.mem_append.1 member with full | final
      · rw [List.eq_of_mem_replicate full]
        exact ⟨positive.trans small, le_rfl⟩
      · rw [List.mem_singleton.1 final]
        exact ⟨positive, small⟩
    · rw [List.dropLast_concat] at member
      exact List.eq_of_mem_replicate member
    · simpa using sum

/-! ## Repeated packets -/

/-- The packets that repeated calls make until one of them is the last. -/
def packetsUntil (create : QpContext → Except Fault (Packet × QpContext))
    (last : QpContext → QpContext → Bool) : Nat → QpContext → Except Fault (List Packet)
  | 0, _ => .ok []
  | fuel + 1, context => (create context).bind fun (packet, next) =>
    if last context next then .ok [packet]
    else (packetsUntil create last fuel next).map fun packets => packet :: packets

/-- The packets of `CreateRequestPacket` until it is through with an operation. -/
def requestPackets (config : Config) : Nat → QpContext → Except Fault (List Packet) :=
  packetsUntil (createRequestPacket config) fun before after =>
    before.nextOpIndex != after.nextOpIndex

/-- The packets of `CreateResponsePacket` until it is through with a request. -/
def responsePackets (config : Config) : Nat → QpContext → Except Fault (List Packet) :=
  packetsUntil (createResponsePacket config) fun before after =>
    before.inboundReadRequestQueue.length != after.inboundReadRequestQueue.length

def payloads (packets : List Packet) : List Nat :=
  packets.map fun packet => packet.payloadLength.toNat

/-- The payload of the last packet. -/
def lastPayload (config : Config) (length : UInt32) (psn endPsn : Psn) : Nat :=
  if psn = endPsn then length.toNat else length.toNat % config.rdmaMtu.toNat

theorem place_payload_last (length : UInt32) (psn endPsn : Psn) :
    (placePayload config length psn endPsn endPsn).toNat =
      lastPayload config length psn endPsn := by
  unfold placePayload lastPayload
  by_cases single : psn = endPsn
  · rw [if_pos single, if_pos single]
  · rw [if_neg single, if_neg single, if_pos rfl, UInt32.toNat_mod]

/-- Before the end the payload is full. -/
theorem place_payload_full {psn endPsn current : Psn}
    (within : (current - psn).toNat < (endPsn - psn).toNat) :
    placePayload config length psn endPsn current = config.rdmaMtu := by
  have several : psn ≠ endPsn := by
    rintro rfl
    simp at within
  have early : current ≠ endPsn := by
    rintro rfl
    exact Nat.lt_irrefl _ within
  rw [placePayload, if_neg several, if_neg early]

/-- What is left of a transfer comes in full packets and a last one. -/
theorem packets_until_spec {create : QpContext → Except Fault (Packet × QpContext)}
    {last : QpContext → QpContext → Bool} {psn endPsn : Psn} {current : QpContext → Psn}
    {Serving : QpContext → Prop} (step : ∀ context, Serving context →
      (current context - psn).toNat ≤ (endPsn - psn).toNat → ∃ packet next,
        create context = .ok (packet, next) ∧
          packet.payloadLength = placePayload config length psn endPsn (current context) ∧
          last context next = decide (current context = endPsn) ∧
          (current context ≠ endPsn → Serving next ∧ current next = current context + 1))
    (count : Nat) {fuel : Nat} (enough : count < fuel) {context : QpContext}
    (serving : Serving context) (within : (current context - psn).toNat ≤ (endPsn - psn).toNat)
    (left : (endPsn - current context).toNat = count) :
    ∃ packets, packetsUntil create last fuel context = .ok packets ∧ payloads packets =
      List.replicate count config.rdmaMtu.toNat ++ [lastPayload config length psn endPsn] := by
  induction count generalizing fuel context with
  | zero =>
    obtain ⟨packet, next, created, payload, isLast, _⟩ := step context serving within
    have final : current context = endPsn := by bv_omega
    obtain ⟨fuel, rfl⟩ : ∃ more, fuel = more + 1 := ⟨fuel - 1, by omega⟩
    refine ⟨[packet], ?_, ?_⟩
    · simp [packetsUntil, created, isLast, final, Except.bind]
    · simp [payloads, payload, final, place_payload_last]
  | succ count ih =>
    obtain ⟨packet, next, created, payload, isLast, onward⟩ := step context serving within
    have early : current context ≠ endPsn := by
      rintro same
      simp [same] at left
    obtain ⟨served, advanced⟩ := onward early
    obtain ⟨fuel, rfl⟩ : ∃ more, fuel = more + 1 := ⟨fuel - 1, by omega⟩
    have before : (current context - psn).toNat < (endPsn - psn).toNat := by bv_omega
    have within : (current next - psn).toNat ≤ (endPsn - psn).toNat := by
      rw [advanced]
      bv_omega
    obtain ⟨packets, made, lengths⟩ := ih (Nat.lt_of_succ_lt_succ enough) served within
      (by rw [advanced]; bv_omega)
    refine ⟨packet :: packets, ?_, ?_⟩
    · simp [packetsUntil, created, isLast, early, made, Except.bind, Except.map]
    · simp only [payloads, List.map_cons, List.replicate_succ, List.cons_append] at lengths ⊢
      rw [lengths, payload, place_payload_full before]

/-! ## Requests -/

/-- The range of sequence numbers that `PostOp` gives an operation. -/
def Posted (config : Config) (op : RdmaOp) : Prop :=
  0 < op.length ∧ op.endPsn =
    psnAdd op.psn (BitVec.ofNat 24 ((op.length - 1) / config.rdmaMtu).toNat)

/-- The next packet is one of this operation. -/
def RequestOf (op : RdmaOp) (context : QpContext) : Prop :=
  context.sendQueue[context.nextOpIndex.toNat]? = some op

/-- A packet of a write or a send. -/
theorem request_step (data : op.opcode = .send ∨ op.opcode = .write)
    (serving : RequestOf op context) :
    ∃ packet next, context.createRequestPacket config = .ok (packet, next) ∧
      packet.payloadLength = placePayload config op.length op.psn op.endPsn context.nextPsn ∧
      (context.nextOpIndex != next.nextOpIndex) = decide (context.nextPsn = op.endPsn) ∧
      (context.nextPsn ≠ op.endPsn →
        RequestOf op next ∧ next.nextPsn = context.nextPsn + 1) := by
  have other : op.opcode ≠ .read := by
    rcases data with send | write <;> simp [*]
  obtain ⟨packet, made, payload⟩ : ∃ packet, requestPacket config op context.nextPsn = .ok packet ∧
      packet.payloadLength = placePayload config op.length op.psn op.endPsn context.nextPsn := by
    rcases data with send | write
    · rw [requestPacket, send]
      exact ⟨_, rfl, rfl⟩
    · rw [requestPacket, write]
      exact ⟨_, rfl, rfl⟩
  refine ⟨packet, context.advanceRequest op, ?_, payload, ?_, fun early => ?_⟩
  · rw [createRequestPacket, show context.sendQueue[_]? = some op from serving]
    simp only [made, Except.map]
  · by_cases final : context.nextPsn = op.endPsn <;> simp [advanceRequest, other, final]
  · simp only [RequestOf, advanceRequest, other, if_false, early]
    exact ⟨serving, rfl⟩

/-- What is left of a write or a send when its next packet is due. -/
theorem request_payloads (data : op.opcode = .send ∨ op.opcode = .write)
    (serving : RequestOf op context) (within : psnBetween context.nextPsn op.psn op.endPsn = true)
    {fuel : Nat} (enough : 2 ^ 24 ≤ fuel) :
    ∃ packets, requestPackets config fuel context = .ok packets ∧ payloads packets =
      List.replicate (op.endPsn - context.nextPsn).toNat config.rdmaMtu.toNat ++
        [lastPayload config op.length op.psn op.endPsn] := by
  have few := (op.endPsn - context.nextPsn).isLt
  refine packets_until_spec (fun context serving _ => ?_) _ (few.trans_le enough) serving
    (psn_between_iff.1 within) rfl
  exact request_step data serving

/-! ## Responses -/

/-- The next packet is a response to this request. -/
def ResponseTo (request : InboundReadRequest) (context : QpContext) : Prop :=
  ∃ rest, context.inboundReadRequestQueue = request :: rest

/-- A packet of the response to the request at the head of the queue. -/
theorem response_step {request : InboundReadRequest} (serving : ResponseTo request context) :
    ∃ packet next, context.createResponsePacket config = .ok (packet, next) ∧
      packet.payloadLength =
        placePayload config request.length request.psn request.endPsn context.irrqPsn ∧
      (context.inboundReadRequestQueue.length != next.inboundReadRequestQueue.length) =
        decide (context.irrqPsn = request.endPsn) ∧
      (context.irrqPsn ≠ request.endPsn →
        ResponseTo request next ∧ next.irrqPsn = context.irrqPsn + 1) := by
  obtain ⟨rest, queue⟩ := serving
  unfold createResponsePacket
  rw [queue]
  refine ⟨_, _, rfl, rfl, ?_, fun early => ?_⟩
  · by_cases final : context.irrqPsn = request.endPsn <;> simp [final]
  · rw [if_neg early]
    exact ⟨⟨rest, rfl⟩, rfl⟩

/-- The response to a request. -/
theorem response_payloads {request : InboundReadRequest}
    (serving : ResponseTo request context)
    (start : context.irrqPsn = request.psn) {fuel : Nat} (enough : 2 ^ 24 ≤ fuel) :
    ∃ packets, responsePackets config fuel context = .ok packets ∧ payloads packets =
      List.replicate (request.endPsn - request.psn).toNat config.rdmaMtu.toNat ++
        [lastPayload config request.length request.psn request.endPsn] := by
  have few := (request.endPsn - request.psn).isLt
  have within : (context.irrqPsn - request.psn).toNat ≤ (request.endPsn - request.psn).toNat := by
    simp [start]
  refine packets_until_spec (fun context serving _ => ?_) _ (few.trans_le enough) serving within
    (by rw [start])
  exact response_step serving

/-! ## When the payloads are segments -/

/-- The segments of a total of which the first ones are left out, with as many of them as there are
sequence numbers for. -/
theorem segmented_remainder {total segment : Nat} (sized : 0 < total) (unit : 0 < segment)
    (within : start ≤ (total - 1) / segment % 2 ^ 24) :
    (1 ≤ (if (total - 1) / segment % 2 ^ 24 = 0 then total else total % segment) ∧
      (if (total - 1) / segment % 2 ^ 24 = 0 then total else total % segment) ≤ segment ∧
      ((total - 1) / segment % 2 ^ 24 - start) * segment +
        (if (total - 1) / segment % 2 ^ 24 = 0 then total else total % segment) =
          total - segment * start) ↔
      (total - 1) / segment < 2 ^ 24 ∧ (total ≤ segment ∨ total % segment ≠ 0) := by
  obtain ⟨quotient, rest, small, parts⟩ :
      ∃ quotient rest, rest < segment ∧ total = segment * quotient + rest + 1 := by
    refine ⟨(total - 1) / segment, (total - 1) % segment, Nat.mod_lt _ unit, ?_⟩
    have := Nat.div_add_mod (total - 1) segment
    omega
  have index : (total - 1) / segment = quotient := by
    rw [parts, Nat.add_sub_cancel]
    exact Nat.div_eq_of_lt_le (by rw [mul_comm]; omega) (by rw [Nat.succ_mul, mul_comm]; omega)
  have remainder : total % segment = if rest + 1 = segment then 0 else rest + 1 := by
    rw [parts, add_assoc, Nat.mul_add_mod]
    split_ifs with whole
    · rw [whole, Nat.mod_self]
    · exact Nat.mod_eq_of_lt (by omega)
  rw [index] at within ⊢
  have left : (quotient % 2 ^ 24 - start) * segment =
      segment * (quotient % 2 ^ 24) - segment * start := by
    rw [mul_comm, Nat.mul_sub]
  have fewer := Nat.mul_le_mul_left segment within
  rw [left]
  by_cases few : quotient < 2 ^ 24
  · rw [Nat.mod_eq_of_lt few] at within fewer ⊢
    by_cases single : quotient = 0
    · subst single
      simp only [Nat.mul_zero, Nat.zero_add] at parts
      have first : start = 0 := by omega
      simp [first]
      omega
    · have more : segment ≤ segment * quotient := Nat.le_mul_of_pos_right _ (by omega)
      rw [if_neg single, remainder]
      split_ifs <;> omega
  · -- Some sequence number is used twice, and what is left after it is not sent.
    have wraps : quotient % 2 ^ 24 + 1 ≤ quotient := by omega
    have many := Nat.mul_le_mul_left segment wraps
    rw [Nat.mul_add, Nat.mul_one] at many
    have short : total % segment < segment := Nat.mod_lt _ unit
    split_ifs <;> omega

/-- The numbers of packets of a transfer. -/
theorem last_index (sized : 0 < length) :
    ((length - 1) / config.rdmaMtu).toNat = (length.toNat - 1) / config.rdmaMtu.toNat := by
  have positive : 1 ≤ length := sized
  rw [UInt32.toNat_div, UInt32.toNat_sub_of_le _ _ positive]
  rfl

theorem mtu_pos (config : Config) : 0 < config.rdmaMtu.toNat :=
  config.positive

/-- What is left of a transfer from one of its packets on is cut into segments if its packets can be
numbered and its last packet is not empty. -/
theorem segmented_transfer (config : Config) (sized : 0 < length) (psn : Psn) {endPsn : Psn}
    (numbered : endPsn = psnAdd psn (BitVec.ofNat 24 ((length - 1) / config.rdmaMtu).toNat))
    (within : start ≤ (endPsn - psn).toNat) :
    Segmented config.rdmaMtu.toNat (length.toNat - config.rdmaMtu.toNat * start)
        (List.replicate ((endPsn - psn).toNat - start) config.rdmaMtu.toNat ++
          [lastPayload config length psn endPsn]) ↔
      (length.toNat - 1) / config.rdmaMtu.toNat < 2 ^ 24 ∧
        (length.toNat ≤ config.rdmaMtu.toNat ∨ length.toNat % config.rdmaMtu.toNat ≠ 0) := by
  have positive : 0 < length.toNat := sized
  have unit := mtu_pos config
  have distance : (endPsn - psn).toNat =
      (length.toNat - 1) / config.rdmaMtu.toNat % 2 ^ 24 := by
    rw [numbered, last_index sized, psnAdd]
    bv_omega
  have same : psn = endPsn ↔ (endPsn - psn).toNat = 0 := by bv_omega
  rw [segmented_iff, lastPayload]
  simp only [same]
  rw [distance] at within ⊢
  exact segmented_remainder positive unit within

/-! ## Reads -/

/-- An accepted read request is put at the end of the queue, with its range of numbers. -/
theorem read_request_queued (config : Config) {target : QpContext} {packet : Packet}
    (valid : target.psnIsValidAtTarget packet.psn = true) :
    (target.processReadRequest config packet).inboundReadRequestQueue.getLast? =
      some ⟨packet.psn, psnAdd packet.psn
        (BitVec.ofNat 24 (numberOfPackets config packet.requestLength).toNat - 1),
        packet.requestLength⟩ := by
  unfold processReadRequest enqueueReadRequest
  rw [if_pos valid]
  simp only [addWorkQueueToActiveSet, setWorkQueueActive]
  split_ifs <;> simp only [List.getLast?_concat]

/-- The range of an accepted request is that of a transfer of its length. -/
theorem number_of_packets_last (sized : 0 < length) :
    BitVec.ofNat 24 (numberOfPackets config length).toNat - 1 =
      BitVec.ofNat 24 ((length - 1) / config.rdmaMtu).toNat := by
  have some : length ≠ 0 := UInt32.pos_iff_ne_zero.1 sized
  have bound := length.toNat_lt
  have less := Nat.div_le_self (length.toNat - 1) config.rdmaMtu.toNat
  have positive : 0 < length.toNat := sized
  rw [numberOfPackets, if_neg some, UInt32.toNat_add, last_index sized,
    Nat.mod_eq_of_lt (by simp; omega)]
  simp only [UInt32.toNat_one]
  bv_omega

/-- What a read asks for when its packets before the next one have arrived. -/
theorem read_request_length (posted : Posted config op)
    (within : start ≤ (op.length.toNat - 1) / config.rdmaMtu.toNat) :
    (op.length - config.rdmaMtu * UInt32.ofNat start).toNat =
      op.length.toNat - config.rdmaMtu.toNat * start := by
  have positive : 0 < op.length.toNat := posted.1
  have bound := op.length.toNat_lt
  have covered := (Nat.mul_le_mul_left config.rdmaMtu.toNat within).trans (Nat.mul_div_le _ _)
  have small : start < 2 ^ 32 := by
    have := Nat.div_le_self (op.length.toNat - 1) config.rdmaMtu.toNat
    omega
  have product : (config.rdmaMtu * UInt32.ofNat start).toNat = config.rdmaMtu.toNat * start := by
    rw [UInt32.toNat_mul, UInt32.toNat_ofNat_of_lt' small]
    exact Nat.mod_eq_of_lt (by omega)
  rw [UInt32.toNat_sub_of_le, product]
  rw [UInt32.le_iff_toNat_le, product]
  omega

/-- When the packets of what is left of a read can be numbered and have no empty last one. -/
theorem remaining_iff {total segment : Nat} (sized : 0 < total) (unit : 0 < segment)
    (within : start ≤ (total - 1) / segment % 2 ^ 24) :
    ((total - segment * start - 1) / segment < 2 ^ 24 ∧
      (total - segment * start ≤ segment ∨ (total - segment * start) % segment ≠ 0)) ↔
    (total - 1) / segment < 2 ^ 24 ∧ (start = (total - 1) / segment ∨ total % segment ≠ 0) := by
  have reached : start ≤ (total - 1) / segment := within.trans (Nat.mod_le _ _)
  have covered := (Nat.mul_le_mul_left segment reached).trans (Nat.mul_div_le _ _)
  have index : (total - segment * start - 1) / segment = (total - 1) / segment - start := by
    rw [Nat.sub_right_comm, Nat.sub_mul_div]
  have remainder : (total - segment * start) % segment = total % segment :=
    Nat.sub_mul_mod (by omega)
  have single : total - segment * start ≤ segment ↔ start = (total - 1) / segment := by
    have last : (total - 1) / segment < start + 1 ↔ total - 1 < (start + 1) * segment :=
      Nat.div_lt_iff_lt_mul unit
    rw [Nat.succ_mul, mul_comm start] at last
    omega
  rw [index, remainder, single]
  omega

/-- What a read asks for, and what the responses to it carry. -/
theorem read_payloads (read : op.opcode = .read) (posted : Posted config op)
    (serving : RequestOf op context) (within : psnBetween context.nextPsn op.psn op.endPsn = true) :
    ∃ packet next, context.createRequestPacket config = .ok (packet, next) ∧
      ∀ (target served : QpContext) (request : InboundReadRequest) (fuel : Nat),
        target.psnIsValidAtTarget packet.psn = true →
        (target.processReadRequest config packet).inboundReadRequestQueue.getLast? = some request →
        ResponseTo request served → served.irrqPsn = request.psn → 2 ^ 24 ≤ fuel →
        ∃ packets, responsePackets config fuel served = .ok packets ∧
          (Segmented config.rdmaMtu.toNat (op.length.toNat -
              config.rdmaMtu.toNat * (psnSubtract context.nextPsn op.psn).toNat) (payloads packets) ↔
            (op.length.toNat - 1) / config.rdmaMtu.toNat < 2 ^ 24 ∧
              ((psnSubtract context.nextPsn op.psn).toNat =
                (op.length.toNat - 1) / config.rdmaMtu.toNat ∨
                  op.length.toNat % config.rdmaMtu.toNat ≠ 0)) := by
  let start := (psnSubtract context.nextPsn op.psn).toNat
  let packet : Packet :=
    { opcode := .readRequest
      psn := context.nextPsn
      ackReq := true
      requestLength := op.length - config.rdmaMtu * UInt32.ofNat start }
  have positive : 0 < op.length.toNat := posted.1
  have early : start ≤ (op.length.toNat - 1) / config.rdmaMtu.toNat % 2 ^ 24 := by
    have distance : (op.endPsn - op.psn).toNat =
        (op.length.toNat - 1) / config.rdmaMtu.toNat % 2 ^ 24 := by
      rw [posted.2, last_index posted.1, psnAdd]
      bv_omega
    exact distance ▸ psn_between_iff.1 within
  have reached := early.trans (Nat.mod_le _ _)
  have length : packet.requestLength.toNat =
      op.length.toNat - config.rdmaMtu.toNat * start := read_request_length posted reached
  have asked : 0 < packet.requestLength := by
    rw [UInt32.lt_iff_toNat_lt, length]
    have := (Nat.mul_le_mul_left config.rdmaMtu.toNat reached).trans (Nat.mul_div_le _ _)
    exact Nat.sub_pos_of_lt (by omega)
  have made : requestPacket config op context.nextPsn = .ok packet := by
    rw [requestPacket, read]
  refine ⟨packet, context.advanceRequest op, ?_, fun target served request fuel valid queued serves
    starts enough => ?_⟩
  · rw [createRequestPacket, show context.sendQueue[_]? = some op from serving]
    simp only [made, Except.map]
  · rw [read_request_queued config valid, number_of_packets_last asked] at queued
    cases queued
    obtain ⟨packets, sent, lengths⟩ := response_payloads serves starts enough
    refine ⟨packets, sent, ?_⟩
    have transfer := segmented_transfer config asked packet.psn rfl (Nat.zero_le _)
    simp only [Nat.mul_zero, Nat.sub_zero, length] at transfer
    rw [lengths]
    exact transfer.trans (remaining_iff positive (mtu_pos config) early)

/-! ## Operations -/

/-- What is left of an operation when its next packet is due. -/
def remaining (config : Config) (context : QpContext) (op : RdmaOp) : Nat :=
  op.length.toNat - config.rdmaMtu.toNat * (psnSubtract context.nextPsn op.psn).toNat

/-- What is left of a write or a send is cut into segments by its packets. -/
def CutByRequests (config : Config) (context : QpContext) (op : RdmaOp) : Prop :=
  ∀ fuel, 2 ^ 24 ≤ fuel → ∃ packets, requestPackets config fuel context = .ok packets ∧
    Segmented config.rdmaMtu.toNat (remaining config context op) (payloads packets)

/-- What is left of a read is cut into segments by the responses to its packet, whenever a responder
that accepts this packet comes to serve it. -/
def CutByResponses (config : Config) (context : QpContext) (op : RdmaOp) : Prop :=
  ∃ packet next, context.createRequestPacket config = .ok (packet, next) ∧
    ∀ (target served : QpContext) (request : InboundReadRequest) (fuel : Nat),
      target.psnIsValidAtTarget packet.psn = true →
      (target.processReadRequest config packet).inboundReadRequestQueue.getLast? = some request →
      ResponseTo request served → served.irrqPsn = request.psn → 2 ^ 24 ≤ fuel →
      ∃ packets, responsePackets config fuel served = .ok packets ∧
        Segmented config.rdmaMtu.toNat (remaining config context op) (payloads packets)

/-- From any of its packets on, the packets of a write or a send cut what is left of it into segments
exactly if its packets can be numbered and it is not a multiple of the segments that has several of
them. The responses to a read do so exactly if its packets can be numbered and it is not such a
multiple or only its last packet is left. -/
theorem segments_iff {op : RdmaOp} (posted : Posted config op) (serving : RequestOf op context)
    (within : psnBetween context.nextPsn op.psn op.endPsn = true) :
    (op.opcode = .send ∨ op.opcode = .write →
      (CutByRequests config context op ↔
        (op.length.toNat - 1) / config.rdmaMtu.toNat < 2 ^ 24 ∧
          (op.length.toNat ≤ config.rdmaMtu.toNat ∨
            op.length.toNat % config.rdmaMtu.toNat ≠ 0))) ∧
    (op.opcode = .read →
      (CutByResponses config context op ↔
        (op.length.toNat - 1) / config.rdmaMtu.toNat < 2 ^ 24 ∧
          ((psnSubtract context.nextPsn op.psn).toNat =
              (op.length.toNat - 1) / config.rdmaMtu.toNat ∨
            op.length.toNat % config.rdmaMtu.toNat ≠ 0))) := by
  refine ⟨fun data => ?_, fun read => ?_⟩
  · have early := psn_between_iff.1 within
    have transfer := segmented_transfer config posted.1 op.psn posted.2 early
    have left : (op.endPsn - op.psn).toNat - (context.nextPsn - op.psn).toNat =
        (op.endPsn - context.nextPsn).toNat := by bv_omega
    rw [left] at transfer
    rw [← transfer]
    constructor
    · intro cut
      obtain ⟨packets, made, segmented⟩ := cut (2 ^ 24) le_rfl
      obtain ⟨same, again, lengths⟩ := request_payloads data serving within le_rfl
      cases made.symm.trans again
      exact lengths ▸ segmented
    · intro segmented fuel enough
      obtain ⟨packets, made, lengths⟩ := request_payloads data serving within enough
      exact ⟨packets, made, lengths ▸ segmented⟩
  · obtain ⟨packet, next, created, responses⟩ := read_payloads read posted serving within
    constructor
    · rintro ⟨same, after, again, cut⟩
      cases created.symm.trans again
      -- A responder that expects the packet, and then has nothing else to serve.
      let target : QpContext :=
        { retxTimeout := 0
          ackCoalescingTimeout := 0
          ackCoalescingThreshold := 0
          expectedPsn := packet.psn }
      have valid : target.psnIsValidAtTarget packet.psn = true := by
        simp [psnIsValidAtTarget, target, validPsnRange]
      have queued := read_request_queued config valid
      let request : InboundReadRequest := ⟨packet.psn, psnAdd packet.psn
        (BitVec.ofNat 24 (numberOfPackets config packet.requestLength).toNat - 1),
        packet.requestLength⟩
      let served : QpContext :=
        { target with inboundReadRequestQueue := [request], irrqPsn := packet.psn }
      obtain ⟨packets, sent, segmented⟩ := cut target served request _ valid queued ⟨[], rfl⟩ rfl le_rfl
      obtain ⟨others, resent, segments⟩ :=
        responses target served request _ valid queued ⟨[], rfl⟩ rfl le_rfl
      cases sent.symm.trans resent
      exact segments.1 segmented
    · intro condition
      refine ⟨packet, next, created, fun target served request fuel valid queued serves starts
        enough => ?_⟩
      obtain ⟨packets, sent, segments⟩ :=
        responses target served request fuel valid queued serves starts enough
      exact ⟨packets, sent, segments.2 condition⟩

/-! ## Examples -/

/-- A queue pair that was just created, with segments of four bytes. -/
def fourBytes : Config := ⟨4, by decide⟩

def created : QpContext :=
  { retxTimeout := 0
    ackCoalescingTimeout := 0
    ackCoalescingThreshold := 1 }

/-- A write of the given length, posted alone. -/
def writing (length : UInt32) : QpContext :=
  created.postOp fourBytes { opcode := .write, length := length, completionCallback := 0 }

/-- A write of nine bytes is cut into segments. -/
theorem segments_iff_nine : CutByRequests fourBytes (writing 9)
    { opcode := .write, length := 9, completionCallback := 0, psn := 0, endPsn := 2 } := by
  have posted : Posted fourBytes
      { opcode := .write, length := 9, completionCallback := 0, psn := 0, endPsn := 2 } := by
    unfold Posted
    decide +kernel
  refine ((segments_iff posted ?_ ?_).1 (.inr rfl)).2 ?_
  · unfold RequestOf
    decide +kernel
  · decide +kernel
  · decide +kernel

/-- The second packet of a write of eight bytes is empty. -/
theorem eight_bytes_not_cut : requestPackets fourBytes (2 ^ 24) (writing 8) =
      .ok [{ opcode := .writeFirst, psn := 0, ackReq := true, payloadLength := 4 },
        { opcode := .writeLast, psn := 1, ackReq := true, payloadLength := 0 }] ∧
    ¬ CutByRequests fourBytes (writing 8)
      { opcode := .write, length := 8, completionCallback := 0, psn := 0, endPsn := 1 } := by
  have made : requestPackets fourBytes (2 ^ 24) (writing 8) =
      .ok [{ opcode := .writeFirst, psn := 0, ackReq := true, payloadLength := 4 },
        { opcode := .writeLast, psn := 1, ackReq := true, payloadLength := 0 }] := by
    decide +kernel
  refine ⟨made, fun cut => ?_⟩
  obtain ⟨packets, sent, segmented⟩ := cut _ le_rfl
  cases made.symm.trans sent
  have each := segmented.each 0 (by decide)
  omega

end Isekai.RoceSegmentation
