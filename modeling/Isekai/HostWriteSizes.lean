import Isekai.HostRxProofs

/-! How many bytes a received packet writes to the memory of its host. The header is taken off when
the packet goes to the memory interface, on the way of a push and on the way of the buffer by two
pieces of code, which agree on the packets that have a header. -/

namespace Isekai.HostWriteSizes
open Outcomes HostRx HostRx.Host HostRx.RxBuffers

variable {Callback : Type} {host : Host Callback}
variable {item : HostBufferItem Callback}

/-- The length of a packet without its header, or zero if it is no longer than that. -/
def headerless (payloadLength : UInt16) : Nat := payloadLength.toNat - rdmaHeader.toNat

/-- A packet that has a whole header. -/
def HasHeader (item : HostBufferItem Callback) : Prop :=
  rdmaHeader.toNat ≤ item.payloadLength.toNat

/-! ## The two sizes -/

theorem pushed_payload_to_nat (payloadLength : UInt16) :
    (pushedPayload payloadLength).toNat = headerless payloadLength := by
  have header : rdmaHeader.toNat = 28 := rfl
  unfold pushedPayload headerless
  split_ifs with long
  · rw [UInt32.toNat_toUInt64, UInt32.toNat_sub_of_le _ _ long, UInt16.toNat_toUInt32]
  · rw [UInt32.le_iff_toNat_le, UInt16.toNat_toUInt32] at long
    rw [UInt64.toNat_zero]
    omega

/-- The difference of a packet with a header fits in an `int`. -/
theorem drained_payload_to_nat {payloadLength : UInt16}
    (long : rdmaHeader.toNat ≤ payloadLength.toNat) :
    (drainedPayload payloadLength).toNat = headerless payloadLength := by
  have small := payloadLength.toNat_lt
  have word : UInt64.size = 2 ^ 64 := rfl
  have limit : Int32.maxValue.toInt = 2147483647 := rfl
  have difference : payloadLength.toUInt64 - rdmaHeader.toUInt64 =
      UInt64.ofNat (headerless payloadLength) := by
    unfold headerless
    apply UInt64.toNat_inj.1
    rw [UInt64.toNat_sub_of_le]
    · rw [UInt64.toNat_ofNat_of_lt' (by omega)]
      simp
    · rw [UInt64.le_iff_toNat_le]
      simpa using long
  have fits : headerless payloadLength < 65536 := by
    unfold headerless
    omega
  unfold drainedPayload
  rw [difference, UInt64.toUInt32_ofNat', UInt32.toInt32_ofNat', Int32.toInt64_ofNat' (by omega),
    Int64.toUInt64_ofNat', UInt64.toNat_ofNat_of_lt' (by omega)]

/-- A shorter packet counts as one of almost 2^64 bytes. -/
theorem drained_payload_short {payloadLength : UInt16}
    (short : payloadLength.toNat < rdmaHeader.toNat) :
    (drainedPayload payloadLength).toNat ≠ headerless payloadLength := by
  have tested : ∀ length < 28, (drainedPayload (UInt16.ofNat length)).toNat ≠ 0 := by decide
  have nothing : headerless payloadLength = 0 := Nat.sub_eq_zero_of_le short.le
  rw [nothing]
  have named := tested payloadLength.toNat short
  rwa [UInt16.ofNat_toNat] at named

/-! ## The two paths -/

/-- The write of an item that waited. -/
def drainedWrite (item : HostBufferItem Callback) : Write Callback :=
  ⟨drainedPayload item.payloadLength, item.pcieCallback⟩

/-- The write of an item that did not wait. -/
def pushedWrite (item : HostBufferItem Callback) : Write Callback :=
  ⟨pushedPayload item.payloadLength, item.pcieCallback⟩

/-- The first items of a buffer are written. -/
def Flushes (before after : Host Callback) (written : List (HostBufferItem Callback)) : Prop :=
  before.buffer = written ++ after.buffer ∧
    after.interface.accepted = before.interface.accepted ++ written.map drainedWrite

/-- The loop writes some of the items, the first one at least if there is room. -/
theorem drain_flushes (items : List (HostBufferItem Callback)) (held : host.buffer = items) :
    Ensures (drain items host) fun drained => ∃ written, Flushes host drained written ∧
      (host.interface.canEnqueuePacket = true → items ≠ [] → written ≠ []) := by
  induction items generalizing host with
  | nil =>
    refine ensures_ok.2 ⟨[], ⟨rfl, ?_⟩, fun _ some => absurd rfl some⟩
    exact (List.append_nil _).symm
  | cons item rest ih =>
    refine ensures_ite (fun _ => ?_) fun full => ensures_ok.2 ⟨[], ⟨rfl, ?_⟩, fun room => ?_⟩
    · refine (HostRxProofs.written_spec _ item).bind fun next ⟨accepted, _⟩ => ?_
      refine (ih rfl).mono fun drained ⟨written, ⟨buffer, later⟩, _⟩ => ?_
      refine ⟨item :: written, ⟨?_, ?_⟩, fun _ _ => List.cons_ne_nil _ _⟩
      · rw [held, List.cons_append, ← buffer]
      · rw [later, accepted, List.append_assoc]
        rfl
    · exact (List.append_nil _).symm
    · exact absurd room full

theorem wakeup_flushes :
    Ensures host.wakeup fun woken => ∃ written, Flushes host woken written ∧
      (host.interface.canEnqueuePacket = true → host.buffer ≠ [] → written ≠ []) := by
  refine ensures_map.2 ((drain_flushes _ rfl).mono fun drained flushed => ?_)
  split_ifs <;> exact flushed

/-- Where there is room, a push writes its packet. -/
theorem push_writes (room : host.interface.canEnqueuePacket = true) :
    Ensures (host.push item) fun next => next.buffer = host.buffer ∧
      next.interface.accepted = host.interface.accepted ++ [pushedWrite item] := by
  unfold Host.push
  rw [if_pos room]
  exact (HostRxProofs.written_spec _ item).mono fun next ⟨accepted, buffer, _⟩ => ⟨buffer, accepted⟩

/-- Where there is none, the packet waits. -/
theorem push_waits (full : host.interface.canEnqueuePacket = false) :
    Ensures (host.push item) fun next => next.buffer = host.buffer ++ [item] ∧
      next.interface.accepted = host.interface.accepted := by
  unfold Host.push
  rw [if_neg (by simp [full])]
  refine ensures_ok.2 ?_
  dsimp only
  split_ifs <;> exact ⟨rfl, rfl⟩

/-! ## One packet -/

/-- The bytes of the first write that a step makes. -/
def bytesWritten (before after : Host Callback) : Option Nat :=
  ((after.interface.accepted.drop before.interface.accepted.length).head?).map fun write =>
    write.sizeBytes.toNat

/-- A packet that goes to memory when it is pushed, and one that goes there when it has waited, writes
what is behind its header. -/
def SameBytes (item : HostBufferItem Callback) : Prop :=
  ∀ (direct pushed buffered woken : Host Callback) (rest : List (HostBufferItem Callback)),
    direct.interface.canEnqueuePacket = true → direct.push item = .ok pushed →
    buffered.interface.canEnqueuePacket = true → buffered.buffer = item :: rest →
    buffered.wakeup = .ok woken →
      bytesWritten direct pushed = some (headerless item.payloadLength) ∧
        bytesWritten buffered woken = bytesWritten direct pushed

theorem push_bytes {pushed : Host Callback} (room : host.interface.canEnqueuePacket = true)
    (done : host.push item = .ok pushed) :
    bytesWritten host pushed = some (headerless item.payloadLength) := by
  obtain ⟨-, accepted⟩ := push_writes room pushed done
  unfold bytesWritten
  rw [accepted, List.drop_left, ← pushed_payload_to_nat]
  rfl

theorem wakeup_bytes {rest : List (HostBufferItem Callback)} {woken : Host Callback}
    (room : host.interface.canEnqueuePacket = true) (waits : host.buffer = item :: rest)
    (done : host.wakeup = .ok woken) :
    bytesWritten host woken = some (drainedPayload item.payloadLength).toNat := by
  obtain ⟨written, ⟨buffer, accepted⟩, some_⟩ := wakeup_flushes woken done
  have first : written.head? = some item := by
    cases written with
    | nil => exact absurd rfl (some_ room (by simp [waits]))
    | cons head tail =>
      rw [waits, List.cons_append] at buffer
      rw [(List.cons.inj buffer).1]
      rfl
  unfold bytesWritten
  rw [accepted, List.drop_left, List.head?_map, first]
  rfl

/-- A host with room, where a packet waits. -/
def waiting (buffer : List (HostBufferItem Callback)) : Host Callback :=
  { interface := { maxQueueSizePackets := 1 }, buffer, maxSizeBytes := 1 }

theorem same_bytes_iff (item : HostBufferItem Callback) : SameBytes item ↔ HasHeader item := by
  constructor
  · intro same
    by_contra short
    have pushed : ∃ next, (waiting ([] : List (HostBufferItem Callback))).push item = .ok next :=
      ⟨_, rfl⟩
    have woken : ∃ next, (waiting [item]).wakeup = .ok next := ⟨_, rfl⟩
    obtain ⟨direct, pushes⟩ := pushed
    obtain ⟨buffered, wakes⟩ := woken
    obtain ⟨right, equal⟩ := same _ _ _ _ [] rfl pushes rfl rfl wakes
    rw [right, wakeup_bytes rfl rfl wakes, Option.some_inj] at equal
    exact drained_payload_short (Nat.not_le.1 short) equal
  · intro long direct pushed buffered woken rest room pushes open_ waits wakes
    refine ⟨push_bytes room pushes, ?_⟩
    rw [push_bytes room pushes, wakeup_bytes open_ waits wakes, drained_payload_to_nat long]

/-! ## Runs -/

/-- What was pushed for a host is written or waits; if all packets have a header, the writes are as
long as what is behind it. -/
structure Sized (pushed : List (HostBufferItem Callback)) (host : Host Callback) : Prop where
  waits : host.buffer <:+ pushed
  sizes : (∀ item ∈ pushed, HasHeader item) →
    pushed.map (fun item => headerless item.payloadLength) =
      host.interface.accepted.map (fun write => write.sizeBytes.toNat) ++
        host.buffer.map fun item => headerless item.payloadLength

theorem Sized.push {pushed : List (HostBufferItem Callback)} (sized : Sized pushed host)
    (sound : HostRxProofs.Sound pushed host) :
    Ensures (host.push item) (Sized (pushed ++ [item])) := by
  intro next done
  cases room : host.interface.canEnqueuePacket with
  | true =>
    -- Nothing waits, so that the write overtakes none.
    have empty : host.buffer = [] := by
      by_contra some
      rw [sound.waits some] at room
      cases room
    obtain ⟨buffer, accepted⟩ := push_writes room next done
    refine ⟨?_, fun long => ?_⟩
    · rw [buffer, empty]
      exact List.nil_suffix
    · have before := sized.sizes fun other listed => long other (List.mem_append_left _ listed)
      rw [empty, List.map_nil, List.append_nil] at before
      rw [buffer, empty, accepted, List.map_append, List.map_append, before, List.map_nil,
        List.append_nil, List.map_singleton, List.map_singleton, pushedWrite,
        pushed_payload_to_nat]
  | false =>
    obtain ⟨buffer, accepted⟩ := push_waits room next done
    obtain ⟨written, held⟩ := sized.waits
    refine ⟨⟨written, ?_⟩, fun long => ?_⟩
    · rw [buffer, ← List.append_assoc, held]
    · have before := sized.sizes fun other listed => long other (List.mem_append_left _ listed)
      rw [buffer, accepted, List.map_append, List.map_append, before, List.append_assoc]

theorem Sized.flush {pushed written : List (HostBufferItem Callback)} {after : Host Callback}
    (sized : Sized pushed host) (flushes : Flushes host after written) : Sized pushed after := by
  obtain ⟨buffer, accepted⟩ := flushes
  have rest : after.buffer <:+ host.buffer := ⟨written, buffer.symm⟩
  refine ⟨rest.trans sized.waits, fun long => ?_⟩
  have drained : written.map (fun item => headerless item.payloadLength) =
      (written.map drainedWrite).map fun write => write.sizeBytes.toNat := by
    rw [List.map_map]
    refine List.map_congr_left fun item listed => ?_
    have waited : item ∈ host.buffer := by
      rw [buffer]
      exact List.mem_append_left _ listed
    exact (drained_payload_to_nat (long item (sized.waits.subset waited))).symm
  rw [sized.sizes long, buffer, accepted, List.map_append, List.map_append, drained,
    List.append_assoc]

/-- A completion in a memory interface writes some of the items that wait. -/
theorem complete_flushes (buffers : RxBuffers Callback) {index : Nat} (small : index < 256) :
    Ensures (buffers.complete index) fun next => ∃ host written,
      Flushes (buffers.hosts index) host written ∧ next = buffers.setHost index host := by
  have woken : index.toUInt8.toNat = index := by
    simp only [Nat.toUInt8, UInt8.toNat_ofNat']
    omega
  refine (HostRxProofs.transmitted_spec _).bind fun (interface, callsBack) ⟨accepted, _⟩ => ?_
  have here : (buffers.setHost index { buffers.hosts index with interface := interface }).hosts
      index = { buffers.hosts index with interface := interface } := Function.update_self ..
  dsimp only
  rw [woken, here]
  refine ensures_ite (fun _ => ensures_map.2 ?_) fun _ => ensures_ok.2 ?_
  · refine wakeup_flushes.mono fun host ⟨written, ⟨buffer, later⟩, _⟩ => ?_
    refine ⟨host, written, ⟨buffer, later.trans (by rw [accepted])⟩, ?_⟩
    simp only [setHost, Function.update_idem]
  · exact ⟨{ buffers.hosts index with interface := interface }, [],
      ⟨rfl, accepted.trans (List.append_nil _).symm⟩, rfl⟩

theorem sized_step {before after : RxBuffers Callback} (kept : HostRxProofs.Kept before)
    (sized : ∀ index, Sized (before.pushed index) (before.hosts index))
    (step : Step before after) (index : Nat) : Sized (after.pushed index) (after.hosts index) := by
  obtain ⟨event, possible, done⟩ := step
  cases event with
  | push hostIndex item =>
    simp only [perform, RxBuffers.push] at done
    split_ifs at done
    obtain ⟨host, pushed, rfl⟩ := map_eq_ok.1 done
    by_cases here : index = hostIndex.toNat
    · subst here
      simp only [setHost, Function.update_self]
      exact (sized _).push (kept.sound _) host pushed
    · simp only [setHost, Function.update_of_ne here]
      exact sized index
  | complete other =>
    have small : other < 256 := by
      by_contra beyond
      have never := kept.unused other (by omega)
      have due := possible.2
      omega
    obtain ⟨host, written, flushes, rfl⟩ := complete_flushes before small after done
    by_cases here : index = other
    · subst here
      simp only [setHost, Function.update_self]
      exact (sized index).flush flushes
    · simp only [setHost, Function.update_of_ne here]
      exact sized index

theorem sized_reachable {buffers : RxBuffers Callback}
    (reached : Runs.Reachable Initial Step buffers) (index : Nat) :
    Sized (buffers.pushed index) (buffers.hosts index) := by
  refine @Runs.invariant_of_reachable_with _ _ _ HostRxProofs.Kept
    (fun buffers => ∀ index, Sized (buffers.pushed index) (buffers.hosts index))
    (fun _ before => HostRxProofs.kept_reachable before) ?_ ?_ _ reached index
  · rintro buffers ⟨nothing, hosts⟩ index
    obtain ⟨_, _, _, host⟩ := hosts index
    rw [nothing, host]
    exact ⟨List.nil_suffix, fun _ => rfl⟩
  · exact fun _ _ kept sized step => sized_step kept sized step

/-- A packet writes what is behind its header on both paths exactly if it has a header. In every run
whose packets all have one, what was written for each host are the packets without their headers, in
the order in which they were pushed, whichever path they took. -/
theorem bytes_written_iff (Callback : Type) :
    (∀ item : HostBufferItem Callback, SameBytes item ↔ HasHeader item) ∧
    ∀ buffers : RxBuffers Callback, Runs.Reachable Initial Step buffers →
      (∀ index, ∀ item ∈ buffers.pushed index, HasHeader item) → ∀ index,
        (buffers.pushed index).map (fun item => headerless item.payloadLength) =
          (buffers.hosts index).interface.accepted.map (fun write => write.sizeBytes.toNat) ++
            (buffers.hosts index).buffer.map fun item => headerless item.payloadLength :=
  ⟨same_bytes_iff, fun _ reached long index => (sized_reachable reached index).sizes (long index)⟩

/-- A Send of four bytes comes with 24 bytes of payload. If it waits, almost 2^64 bytes are written. -/
theorem short_packet_differs : ¬ ∀ item : HostBufferItem Nat, SameBytes item := by
  intro all
  obtain ⟨right, equal⟩ := all ⟨none, none, 24⟩ (waiting []) _ (waiting [⟨none, none, 24⟩]) _ []
    rfl rfl rfl rfl rfl
  exact absurd (equal.trans right) (by decide)

end Isekai.HostWriteSizes
