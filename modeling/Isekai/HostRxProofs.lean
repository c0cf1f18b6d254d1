import Isekai.HostRxBuffers
import Isekai.Outcomes

/-! What is pushed for a host reaches its memory interface once and in order, and waits in the
buffer only while that interface is full. The count of the buffered bytes is kept in 32 bits:
it is the sum of the sizes, and the xoff follows it, as long as that sum fits. -/

namespace Isekai.HostRxProofs
open Outcomes HostRx HostRx.Host HostRx.RxBuffers

variable {Callback : Type} {host : Host Callback}
variable {buffers : RxBuffers Callback}

/-- The callbacks of all writes that were made and of those that are still to be made. -/
def callbacks (host : Host Callback) : List (Option Callback) :=
  host.interface.accepted.map Write.callback ++ host.buffer.map HostBufferItem.pcieCallback

/-- The sum of the sizes of the buffered packets. -/
def total (host : Host Callback) : Nat :=
  (host.buffer.map fun item => item.payloadLength.toNat).sum

/-- The count of the buffered bytes, which may have wrapped. -/
def Counted (host : Host Callback) : Prop :=
  host.currentSizeBytes.toNat = total host % 2 ^ 32

/-- The writes that wait do so because the interface is full. -/
def Waits (host : Host Callback) : Prop :=
  host.buffer ≠ [] → host.interface.canEnqueuePacket = false

/-- An interface that transmits has its completion scheduled, and one with writes left transmits. -/
structure Running (queue : MemoryInterfaceQueue Callback) : Prop where
  scheduled : queue.completions = if queue.busy then 1 else 0
  transmits : queue.txQueue ≠ [] → queue.busy = true

/-- A full interface has a completion scheduled. -/
theorem full_scheduled {queue : MemoryInterfaceQueue Callback} (running : Running queue)
    (full : queue.canEnqueuePacket = false) (positive : 0 < queue.maxQueueSizePackets) :
    queue.completions = 1 := by
  have length : queue.txQueue.length = queue.maxQueueSizePackets.toNat := by
    simpa [MemoryInterfaceQueue.canEnqueuePacket] using full
  have some : queue.txQueue ≠ [] := by
    intro empty
    rw [empty, List.length_nil] at length
    rw [UInt64.lt_iff_toNat_lt, ← length] at positive
    exact Nat.lt_irrefl 0 positive
  simp [running.scheduled, running.transmits some]

/-! ## Writes -/

theorem enqueued_spec (queue : MemoryInterfaceQueue Callback) (write : Write Callback) :
    Ensures (queue.enqueuePacket write) fun next => next.accepted = queue.accepted ++ [write] ∧
      (Running queue → Running next) := by
  refine ensures_ite (fun busy => ensures_ok.2 ⟨rfl, fun running => ?_⟩) fun idle =>
    ensures_map.2 ?_
  · exact ⟨running.scheduled, fun _ => busy⟩
  · unfold MemoryInterfaceQueue.transmitStart
    rw [if_neg idle]
    refine ensures_ok.2 ⟨rfl, fun running => ⟨?_, fun _ => rfl⟩⟩
    have scheduled := running.scheduled
    rw [if_neg idle] at scheduled
    simp [scheduled]

/-- What a write leaves of the host besides its interface. -/
theorem written_spec (sizeBytes : UInt64) (item : HostBufferItem Callback) :
    Ensures (host.writeToMemory sizeBytes item) fun written =>
      written.interface.accepted = host.interface.accepted ++ [⟨sizeBytes, item.pcieCallback⟩] ∧
        written.buffer = host.buffer ∧ written.maxSizeBytes = host.maxSizeBytes ∧
        written.currentSizeBytes = host.currentSizeBytes ∧ written.xoff = host.xoff ∧
        (Running host.interface → Running written.interface) := by
  refine ensures_map.2 ((enqueued_spec _ _).mono fun interface ⟨accepted, running⟩ => ?_)
  exact ⟨accepted, rfl, rfl, rfl, rfl, running⟩

/-- A part of the buffer is written. -/
structure Drains (before after : Host Callback) : Prop where
  callbacks : callbacks after = callbacks before
  counted : Counted before → Counted after
  fewer : total after ≤ total before
  limit : after.maxSizeBytes = before.maxSizeBytes
  xoff : after.xoff = before.xoff
  running : Running before.interface → Running after.interface

theorem Drains.trans {first second third : Host Callback} (one : Drains first second)
    (two : Drains second third) : Drains first third :=
  ⟨two.callbacks.trans one.callbacks, two.counted ∘ one.counted, two.fewer.trans one.fewer,
    two.limit.trans one.limit, two.xoff.trans one.xoff, two.running ∘ one.running⟩

/-- One turn of the loop that drains the buffer. -/
theorem item_drains {item : HostBufferItem Callback} {rest : List (HostBufferItem Callback)}
    (items : host.buffer = item :: rest) (sizeBytes : UInt64) :
    Ensures (host.writeToMemory sizeBytes item) fun written =>
      Drains host { written with
        currentSizeBytes := written.currentSizeBytes - item.payloadLength.toUInt32
        buffer := rest } := by
  refine (written_spec sizeBytes item).mono fun written ⟨accepted, _, limit, current, xoff, running⟩ => ?_
  have sum : total host = item.payloadLength.toNat + (rest.map fun item =>
      item.payloadLength.toNat).sum := by simp [total, items]
  refine ⟨?_, fun counted => ?_, ?_, limit, xoff, running⟩
  · simp [callbacks, accepted, items]
  · have small := item.payloadLength.toNat_lt
    have bound := host.currentSizeBytes.toNat_lt
    unfold Counted at counted ⊢
    rw [sum] at counted
    simp only [total, current, UInt32.toNat_sub, UInt16.toNat_toUInt32]
    omega
  · rw [sum]
    exact Nat.le_add_left _ _

/-- The loop over the buffered items stops when there are none left or the interface is full. -/
theorem drain_spec (items : List (HostBufferItem Callback)) (held : host.buffer = items) :
    Ensures (drain items host) fun drained => Drains host drained ∧ Waits drained := by
  induction items generalizing host with
  | nil =>
    refine ensures_ok.2 ⟨⟨rfl, id, le_rfl, rfl, rfl, id⟩, fun some => ?_⟩
    exact absurd held some
  | cons item rest ih =>
    refine ensures_ite (fun _ => ?_) fun full =>
      ensures_ok.2 ⟨⟨rfl, id, le_rfl, rfl, rfl, id⟩, fun _ => ?_⟩
    · refine (item_drains held _).bind fun written drains => ?_
      refine (ih rfl).mono fun drained ⟨further, waits⟩ => ⟨drains.trans further, waits⟩
    · simpa using full

theorem woken_spec :
    Ensures host.wakeup fun woken => callbacks woken = callbacks host ∧ Waits woken ∧
      (Counted host → Counted woken) ∧ total woken ≤ total host ∧
      woken.maxSizeBytes = host.maxSizeBytes ∧
      (Running host.interface → Running woken.interface) ∧
      woken.xoff = (host.xoff && decide (woken.maxSizeBytes ≤ woken.currentSizeBytes)) := by
  refine ensures_map.2 ((drain_spec _ rfl).mono fun drained ⟨drains, waits⟩ => ?_)
  split_ifs with room
  · refine ⟨drains.callbacks, waits, drains.counted, drains.fewer, drains.limit, drains.running, ?_⟩
    simp [UInt32.not_le.2 room]
  · refine ⟨drains.callbacks, waits, drains.counted, drains.fewer, drains.limit, drains.running, ?_⟩
    simp [UInt32.not_lt.1 room, drains.xoff]

/-! ## One host -/

/-- What was pushed for a host was written or waits, in order, and is counted. -/
structure Sound (pushed : List (HostBufferItem Callback)) (host : Host Callback) : Prop where
  ordered : pushed.map HostBufferItem.pcieCallback = callbacks host
  waits : Waits host
  counted : Counted host
  running : Running host.interface

/-- Falcon is held back when the buffer is full. -/
def Xoffed (host : Host Callback) : Prop :=
  host.xoff = true ↔ host.maxSizeBytes ≤ host.currentSizeBytes

/-- The state before anything is pushed for a host. -/
theorem sound_initial (maxQueueSizePackets : UInt64) (maxSizeBytes : UInt32) :
    Sound ([] : List (HostBufferItem Callback))
      { interface := { maxQueueSizePackets := maxQueueSizePackets }, maxSizeBytes := maxSizeBytes } :=
  ⟨rfl, fun some => absurd rfl some, rfl, rfl, fun some => absurd rfl some⟩

theorem pushed_sound {pushed : List (HostBufferItem Callback)} {item : HostBufferItem Callback}
    (sound : Sound pushed host) :
    Ensures (host.push item) (Sound (pushed ++ [item])) := by
  refine ensures_ite (fun room => ?_) fun full => ensures_ok.2 ?_
  · -- There is room, so nothing waits that the write could overtake.
    have empty : host.buffer = [] := by
      by_contra some
      rw [sound.waits some] at room
      cases room
    refine (written_spec _ item).mono fun written ⟨accepted, buffer, _, current, _, running⟩ => ?_
    refine ⟨?_, fun some => absurd (buffer.trans empty) some, ?_, running sound.running⟩
    · simp [sound.ordered, callbacks, accepted, buffer, empty]
    · unfold Counted
      rw [current, sound.counted, total, total, buffer]
  · have small := item.payloadLength.toNat_lt
    have stored : Sound (pushed ++ [item]) { host with
        buffer := host.buffer ++ [item]
        currentSizeBytes := host.currentSizeBytes + item.payloadLength.toUInt32 } := by
      refine ⟨?_, fun _ => by simpa using full, ?_, sound.running⟩
      · simp [sound.ordered, callbacks]
      · have counted := sound.counted
        unfold Counted total at counted ⊢
        simp only [UInt32.toNat_add, UInt16.toNat_toUInt32, counted, List.map_append, List.sum_append,
          List.map_cons, List.map_nil, List.sum_cons, List.sum_nil]
        omega
    dsimp only
    split_ifs
    · exact ⟨stored.ordered, stored.waits, stored.counted, stored.running⟩
    · exact stored

theorem pushed_xoffed {pushed : List (HostBufferItem Callback)} {item : HostBufferItem Callback}
    (sound : Sound pushed host) (xoffed : Xoffed host) :
    Ensures (host.push item) fun next => total next < 2 ^ 32 → Xoffed next := by
  refine ensures_ite (fun _ => ?_) fun _ => ensures_ok.2 fun fits => ?_
  · refine (written_spec _ item).mono fun written ⟨_, _, limit, current, xoff, _⟩ _ => ?_
    unfold Xoffed
    rw [xoff, limit, current]
    exact xoffed
  · have counted := sound.counted
    have fits : total host + item.payloadLength.toNat < 2 ^ 32 := by
      refine lt_of_eq_of_lt ?_ fits
      dsimp only
      split_ifs <;> simp [total]
    unfold Counted at counted
    unfold Xoffed at xoffed ⊢
    dsimp only
    split_ifs with exhausted
    · exact ⟨fun _ => exhausted, fun _ => rfl⟩
    · -- The buffer was not full before either, as the count has only grown.
      refine ⟨fun held => ?_, fun held => absurd held exhausted⟩
      have before := xoffed.1 held
      refine absurd (UInt32.le_trans before ?_) exhausted
      rw [UInt32.le_iff_toNat_le, UInt32.toNat_add, UInt16.toNat_toUInt32]
      omega

/-- A transmission is through: what was written and what waits stays, and without a call back
nothing waits. -/
theorem transmitted_spec (queue : MemoryInterfaceQueue Callback) :
    Ensures queue.transmitComplete fun (next, callsBack) => next.accepted = queue.accepted ∧
      (callsBack = false → queue.canEnqueuePacket = true) ∧ (Running queue → Running next) := by
  refine ensures_ite (fun _ => ensures_error) fun busy => ?_
  have busy : queue.busy = true := by simpa using busy
  refine ensures_ite (fun empty => ?_) fun _ => ?_
  · refine ensures_ok.2 ⟨rfl, (by rintro ⟨⟩), fun running => ⟨?_, fun some => ?_⟩⟩
    · simp [running.scheduled, busy]
    · exact absurd (List.isEmpty_iff.1 empty) some
  · refine ensures_map.2 ?_
    unfold MemoryInterfaceQueue.transmitStart
    rw [if_neg (by simp)]
    refine ensures_ok.2 ⟨rfl, fun room => ?_, fun running => ⟨?_, fun _ => rfl⟩⟩
    · simpa [MemoryInterfaceQueue.canEnqueuePacket] using room
    · simp [running.scheduled, busy]

/-- A completion in the memory interface of a host, with what its call back does. -/
structure Completed (before after : Host Callback) : Prop where
  callbacks : callbacks after = callbacks before
  waits : Waits before → Waits after
  counted : Counted before → Counted after
  fewer : total after ≤ total before
  xoffed : Counted before → total before < 2 ^ 32 → Xoffed before → Xoffed after
  running : Running before.interface → Running after.interface

theorem called_back_completed {interface : MemoryInterfaceQueue Callback}
    (accepted : interface.accepted = host.interface.accepted)
    (running : Running host.interface → Running interface) :
    Ensures { host with interface := interface }.wakeup (Completed host) := by
  refine woken_spec.mono fun woken ⟨same, waits, counted, fewer, limit, runs, xoff⟩ => ?_
  have before : total { host with interface := interface } = total host := rfl
  refine ⟨same.trans (by simp [callbacks, accepted]), fun _ => waits, counted, fewer,
    fun count fits xoffed => ?_, runs ∘ running⟩
  have less : woken.currentSizeBytes ≤ host.currentSizeBytes := by
    have after := counted count
    unfold Counted at count after
    rw [UInt32.le_iff_toNat_le]
    omega
  unfold Xoffed at xoffed ⊢
  simp only [xoff, Bool.and_eq_true, decide_eq_true_eq]
  refine ⟨fun held => held.2, fun exhausted => ⟨xoffed.2 ?_, exhausted⟩⟩
  exact UInt32.le_trans (limit ▸ exhausted) less

theorem complete_spec (buffers : RxBuffers Callback) {index : Nat} (small : index < 256) :
    Ensures (buffers.complete index) fun next => ∃ host, Completed (buffers.hosts index) host ∧
      next = buffers.setHost index host := by
  have woken : index.toUInt8.toNat = index := by
    simp only [Nat.toUInt8, UInt8.toNat_ofNat']
    omega
  refine (transmitted_spec _).bind fun (interface, callsBack) ⟨accepted, room, running⟩ => ?_
  have here : (buffers.setHost index { buffers.hosts index with interface := interface }).hosts
      index = { buffers.hosts index with interface := interface } := Function.update_self ..
  dsimp only
  rw [woken, here]
  refine ensures_ite (fun _ => ensures_map.2 ?_) fun quiet => ensures_ok.2 ?_
  · refine (called_back_completed accepted running).mono fun host completed => ⟨host, completed, ?_⟩
    simp only [setHost, Function.update_idem]
  · have open_ := room (by simpa using quiet)
    refine ⟨{ buffers.hosts index with interface := interface },
      ⟨?_, fun waits some => ?_, id, le_rfl, fun _ _ => id, running⟩, rfl⟩
    · simp [callbacks, accepted]
    · rw [waits some] at open_
      cases open_

/-! ## Runs -/

/-- Every host is in order, and those that no call can name are never used. -/
structure Kept (buffers : RxBuffers Callback) : Prop where
  sound : ∀ index, Sound (buffers.pushed index) (buffers.hosts index)
  unused : ∀ index, 256 ≤ index → (buffers.hosts index).interface.completions = 0

theorem kept_initial (initial : Initial buffers) : Kept buffers := by
  obtain ⟨nothing, hosts⟩ := initial
  refine ⟨fun index => ?_, fun index _ => ?_⟩
  · obtain ⟨maxQueueSizePackets, maxSizeBytes, _, host⟩ := hosts index
    rw [nothing, host]
    exact sound_initial maxQueueSizePackets maxSizeBytes
  · obtain ⟨maxQueueSizePackets, maxSizeBytes, _, host⟩ := hosts index
    rw [host]

/-- What a step does to the hosts. -/
theorem step_cases {before after : RxBuffers Callback} (kept : Kept before)
    (step : Step before after) :
    (∃ hostIndex : UInt8, ∃ item host, (before.hosts hostIndex.toNat).push item = .ok host ∧
      after = { before.setHost hostIndex.toNat host with
        pushed := Function.update before.pushed hostIndex.toNat
          (before.pushed hostIndex.toNat ++ [item]) }) ∨
    ∃ index < 256, ∃ host, Completed (before.hosts index) host ∧
      after = before.setHost index host := by
  obtain ⟨event, possible, done⟩ := step
  cases event with
  | push hostIndex item =>
    refine .inl ⟨hostIndex, item, ?_⟩
    simp only [perform, RxBuffers.push] at done
    split_ifs at done
    obtain ⟨host, pushed, rfl⟩ := map_eq_ok.1 done
    exact ⟨host, pushed, rfl⟩
  | complete index =>
    have small : index < 256 := by
      by_contra beyond
      have never := kept.unused index (by omega)
      have due := possible.2
      omega
    obtain ⟨host, completed, rfl⟩ := complete_spec before small after done
    exact .inr ⟨index, small, host, completed, rfl⟩

theorem kept_step {before after : RxBuffers Callback} (kept : Kept before)
    (step : Step before after) : Kept after := by
  rcases step_cases kept step with ⟨hostIndex, item, host, pushed, rfl⟩ |
    ⟨index, small, host, completed, rfl⟩
  · have low := hostIndex.toNat_lt
    refine ⟨fun other => ?_, fun other beyond => ?_⟩
    · by_cases here : other = hostIndex.toNat
      · subst here
        simp only [setHost, Function.update_self]
        exact pushed_sound (kept.sound _) host pushed
      · simp only [setHost, Function.update_of_ne here]
        exact kept.sound other
    · have elsewhere : other ≠ hostIndex.toNat := by omega
      simp only [setHost, Function.update_of_ne elsewhere]
      exact kept.unused other beyond
  · refine ⟨fun other => ?_, fun other beyond => ?_⟩
    · by_cases here : other = index
      · subst here
        have sound := kept.sound other
        simp only [setHost, Function.update_self]
        exact ⟨sound.ordered.trans completed.callbacks.symm, completed.waits sound.waits,
          completed.counted sound.counted, completed.running sound.running⟩
      · simp only [setHost, Function.update_of_ne here]
        exact kept.sound other
    · have elsewhere : other ≠ index := by omega
      simp only [setHost, Function.update_of_ne elsewhere]
      exact kept.unused other beyond

theorem kept_reachable (reached : Runs.Reachable Initial Step buffers) : Kept buffers := by
  apply Runs.invariant_of_reachable _ _ reached
  · exact fun _ initial => kept_initial initial
  · exact fun _ _ kept step => kept_step kept step

/-- A step after which the buffered bytes of every host can be counted in 32 bits. -/
def CountableStep (before after : RxBuffers Callback) : Prop :=
  Step before after ∧ ∀ index, after.bufferedBytes index < 2 ^ 32

theorem xoffed_initial (initial : Initial buffers) (index : Nat) :
    total (buffers.hosts index) < 2 ^ 32 ∧ Xoffed (buffers.hosts index) := by
  obtain ⟨_, maxSizeBytes, positive, host⟩ := initial.2 index
  rw [host]
  refine ⟨by simp [total], Iff.intro (fun held => absurd held Bool.false_ne_true) fun exhausted => ?_⟩
  exact absurd positive (UInt32.not_lt.2 exhausted)

theorem xoffed_step {before after : RxBuffers Callback} (kept : Kept before)
    (holds : ∀ index, total (before.hosts index) < 2 ^ 32 ∧ Xoffed (before.hosts index))
    (step : CountableStep before after) (index : Nat) :
    total (after.hosts index) < 2 ^ 32 ∧ Xoffed (after.hosts index) := by
  obtain ⟨step, countable⟩ := step
  refine ⟨countable index, ?_⟩
  have fits := countable index
  rcases step_cases kept step with ⟨hostIndex, item, host, pushed, rfl⟩ |
    ⟨other, small, host, completed, rfl⟩
  · by_cases here : index = hostIndex.toNat
    · subst here
      simp only [bufferedBytes, setHost, Function.update_self] at fits ⊢
      exact pushed_xoffed (kept.sound _) (holds _).2 host pushed fits
    · simp only [setHost, Function.update_of_ne here]
      exact (holds index).2
  · by_cases here : index = other
    · subst here
      simp only [setHost, Function.update_self]
      exact completed.xoffed (kept.sound index).counted (holds index).1 (holds index).2
    · simp only [setHost, Function.update_of_ne here]
      exact (holds index).2

theorem countable_reachable (reached : Runs.Reachable Initial CountableStep buffers) :
    Runs.Reachable Initial Step buffers := by
  obtain ⟨first, started, path⟩ := reached
  have weaker : @CountableStep Callback ≤ Step := fun _ _ step => step.1
  exact ⟨first, started, Relation.ReflTransGen.mono weaker first buffers path⟩

/-- In every run, and for every host: the writes reach the memory interface once and in the order
of the calls; they wait only while it is full, and then a completion is scheduled that makes room.
As long as the buffered bytes fit in 32 bits, their count is exact, and Falcon is held back exactly
when it has reached the maximum. -/
theorem rx_buffers_sound {buffers : RxBuffers Callback}
    (reached : Runs.Reachable Initial Step buffers) (index : Nat) :
    (buffers.pushed index).map HostBufferItem.pcieCallback =
        (buffers.hosts index).interface.accepted.map Write.callback ++
          (buffers.hosts index).buffer.map HostBufferItem.pcieCallback ∧
      ((buffers.hosts index).buffer ≠ [] →
        (buffers.hosts index).interface.canEnqueuePacket = false ∧
          (0 < (buffers.hosts index).interface.maxQueueSizePackets →
            0 < (buffers.hosts index).interface.completions)) ∧
      (buffers.hosts index).currentSizeBytes.toNat = buffers.bufferedBytes index % 2 ^ 32 ∧
      (Runs.Reachable Initial CountableStep buffers →
        (buffers.hosts index).currentSizeBytes.toNat = buffers.bufferedBytes index ∧
          ((buffers.hosts index).xoff = true ↔
            (buffers.hosts index).maxSizeBytes ≤ (buffers.hosts index).currentSizeBytes)) := by
  have sound := (kept_reachable reached).sound index
  refine ⟨sound.ordered, fun some => ⟨sound.waits some, fun positive => ?_⟩, sound.counted,
    fun counted => ?_⟩
  · rw [full_scheduled sound.running (sound.waits some) positive]
    exact Nat.one_pos
  · have holds : ∀ index, total (buffers.hosts index) < 2 ^ 32 ∧ Xoffed (buffers.hosts index) := by
      apply Runs.invariant_of_reachable_with _ _ _ counted
      · exact Kept
      · exact fun _ before => kept_reachable (countable_reachable before)
      · exact fun _ initial => xoffed_initial initial
      · exact fun _ _ kept held step => xoffed_step kept held step
    refine ⟨?_, (holds index).2⟩
    exact sound.counted.trans (Nat.mod_eq_of_lt (holds index).1)

/-! ## Examples -/

/-- One host with a memory interface for one write, and nothing pushed for it. -/
def oneHost (maxSizeBytes : UInt32) : RxBuffers Nat where
  count := 1
  hosts := fun _ => { interface := { maxQueueSizePackets := 1 }, maxSizeBytes := maxSizeBytes }

theorem initial_one_host {maxSizeBytes : UInt32} (positive : 0 < maxSizeBytes) :
    Initial (oneHost maxSizeBytes) :=
  ⟨fun _ => rfl, fun _ => ⟨1, maxSizeBytes, positive, rfl⟩⟩

/-- The result of an event, if it may happen and goes through. -/
def attemptEvent (buffers : RxBuffers Nat) (event : Event Nat) : Option (RxBuffers Nat) :=
  Runs.attempt (buffers.Possible event) (buffers.perform event)

theorem step_of_attempt_event (buffers : RxBuffers Nat) (event : Event Nat) (next : RxBuffers Nat)
    (done : attemptEvent buffers event = some next) : Step buffers next :=
  ⟨event, Runs.attempt_eq_some.1 done⟩

/-- A push for the first host with the given callback and length. -/
def pushOf (callback : Nat) (payloadLength : UInt16) : Event Nat :=
  .push 0 ⟨some callback, none, payloadLength⟩

/-- Of four packets that were pushed and one completion, the fourth waits and holds Falcon back. -/
theorem rx_buffers_sound_waiting : ∃ buffers : RxBuffers Nat,
    ((buffers.pushed 0).map HostBufferItem.pcieCallback =
        (buffers.hosts 0).interface.accepted.map Write.callback ++
          (buffers.hosts 0).buffer.map HostBufferItem.pcieCallback ∧
      (buffers.hosts 0).interface.canEnqueuePacket = false) ∧
    (buffers.hosts 0).buffer.length = 1 ∧ (buffers.hosts 0).xoff = true := by
  have tested : ((Runs.execute attemptEvent
      [pushOf 1 100, pushOf 2 100, pushOf 3 100, pushOf 4 100, .complete 0]
      (oneHost 100)).any fun buffers =>
        decide ((buffers.hosts 0).buffer.length = 1 ∧ (buffers.hosts 0).xoff = true)) = true := by
    decide +kernel
  obtain ⟨buffers, reached, holds⟩ := Runs.reached_with step_of_attempt_event
    (initial_one_host (by decide)) tested
  obtain ⟨one, held⟩ := of_decide_eq_true holds
  have sound := rx_buffers_sound reached 0
  refine ⟨buffers, ⟨sound.1, (sound.2.1 ?_).1⟩, one, held⟩
  exact List.ne_nil_of_length_pos (one ▸ Nat.one_pos)

/-- Packets that are pushed for a host whose interface is full pile up in its buffer. -/
theorem pile_up (count : Nat) : ∃ buffers : RxBuffers Nat,
    Runs.Reachable Initial Step buffers ∧ buffers.count = 1 ∧
      (buffers.hosts 0).interface.canEnqueuePacket = false ∧
      buffers.bufferedBytes 0 = count * 65535 := by
  induction count with
  | zero =>
    have tested : ((Runs.execute attemptEvent [pushOf 0 65535, pushOf 1 65535]
        (oneHost 100)).any fun buffers => decide (buffers.count = 1 ∧
          (buffers.hosts 0).interface.canEnqueuePacket = false ∧
          buffers.bufferedBytes 0 = 0 * 65535)) = true := by decide +kernel
    obtain ⟨buffers, reached, holds⟩ := Runs.reached_with step_of_attempt_event
      (initial_one_host (by decide)) tested
    exact ⟨buffers, reached, of_decide_eq_true holds⟩
  | succ count ih =>
    obtain ⟨buffers, reached, one, full, bytes⟩ := ih
    let item : HostBufferItem Nat := ⟨none, none, 65535⟩
    let stored : Host Nat := { buffers.hosts 0 with
      buffer := (buffers.hosts 0).buffer ++ [item]
      currentSizeBytes := (buffers.hosts 0).currentSizeBytes + 65535 }
    let next : Host Nat :=
      if stored.maxSizeBytes ≤ stored.currentSizeBytes then { stored with xoff := true } else stored
    have pushed : (buffers.hosts 0).push item = .ok next := by
      unfold Host.push
      rw [if_neg (by simp [full])]
      rfl
    have performed : buffers.perform (.push 0 item) = .ok { buffers.setHost 0 next with
        pushed := Function.update buffers.pushed 0 (buffers.pushed 0 ++ [item]) } := by
      simp [perform, RxBuffers.push, one, pushed, Except.map]
    have same : next.interface = (buffers.hosts 0).interface ∧ next.buffer = stored.buffer := by
      unfold next
      split_ifs <;> exact ⟨rfl, rfl⟩
    refine ⟨_, Runs.reachable_step reached ⟨.push 0 item, trivial, performed⟩, one, ?_, ?_⟩
    · simp [setHost, same.1, full]
    · simp only [bufferedBytes] at bytes
      simp [bufferedBytes, setHost, same.2, stored, item, bytes, Nat.succ_mul]

/-- The count of the buffered bytes is not always the sum of the sizes. -/
theorem buffered_count_wraps : ∃ buffers : RxBuffers Nat, Runs.Reachable Initial Step buffers ∧
    (buffers.hosts 0).currentSizeBytes.toNat ≠ buffers.bufferedBytes 0 := by
  obtain ⟨buffers, reached, _, _, bytes⟩ := pile_up 65538
  refine ⟨buffers, reached, ?_⟩
  have counted := (kept_reachable reached).sound 0 |>.counted
  have small := (buffers.hosts 0).currentSizeBytes.toNat_lt
  omega

end Isekai.HostRxProofs
