import Isekai.BufferReorderEngine
import Isekai.InOrderDelivery

/-! What the draining loops of the reorder engine do, seen as receivers that deliver in
order: every loop only hands on what is due, and when it leaves something due behind. -/

namespace Isekai.ReorderDrainProofs
open BufferReorderEngine InOrderDelivery SequenceNumber SequenceBuffer

/-- The four sequences in which the engine puts packets into order. -/
inductive Stream where
  | completion | target | grant | request
  deriving DecidableEq

/-- The sequence a packet type belongs to. -/
def streamOf : PacketType → Option Stream
  | .pullData | .ack | .nack => some .completion
  | .pullRequest | .pushSolicitedData | .pushUnsolicitedData => some .target
  | .pushGrant => some .grant
  | .pushRequest => some .request
  | .resync | .back | .eack | .invalid => none

/-- A callback of the connection `cid` for a packet of the sequence. -/
def Belongs (cid : UInt32) (stream : Stream) (call : ReorderCall) : Prop :=
  call.cid = cid ∧ streamOf call.packetType = some stream

instance (cid : UInt32) (stream : Stream) : DecidablePred (Belongs cid stream) :=
  fun _ => inferInstanceAs (Decidable (_ ∧ _))

/-- The callbacks of one sequence of a connection, in the order in which they were made. -/
def deliveries (cid : UInt32) (stream : Stream) (calls : List ReorderCall) : List ReorderCall :=
  calls.filter (fun call => Belongs cid stream call)

variable {cid : UInt32} {stream other : Stream} {prior calls more : List ReorderCall}

theorem deliveries_append (cid : UInt32) (stream : Stream) (prior calls : List ReorderCall) :
    deliveries cid stream (prior ++ calls) =
      deliveries cid stream prior ++ deliveries cid stream calls :=
  List.filter_append ..

theorem deliveries_own (own : ∀ call ∈ calls, Belongs cid stream call) :
    deliveries cid stream calls = calls :=
  List.filter_eq_self.mpr (by simpa using own)

theorem deliveries_foreign (own : ∀ call ∈ calls, Belongs cid stream call)
    (different : other ≠ stream) : deliveries cid other calls = [] := by
  apply List.filter_eq_nil_iff.mpr
  intro call member
  have belongs := own call member
  simp [Belongs, belongs.2, Ne.symm different]

/-! ## The loops over the sorted buffers -/

section Drain
variable {V : Type} (call : UInt32 → V → ReorderCall)

/-- A buffer under draining, seen as a receiver of its sequence. -/
def drainedReceiver (cid : UInt32) (stream : Stream) (prior : List ReorderCall)
    (drained : Drained V) : Receiver ReorderCall where
  next := drained.next
  waiting := fun number => drained.buffer[number]?.map (call number)
  delivered := deliveries cid stream (prior ++ drained.calls)

/-- One turn of the loop that finds the next number at the head of the buffer. -/
private def turn (drained : Drained V) (number : UInt32) (value : V) : Drained V where
  next := drained.next + 1
  buffer := drained.buffer.erase number
  calls := drained.calls ++ [call number value]

private theorem drain_loop_succ (fuel : Nat) (drained : Drained V) :
    drainLoop call (fuel + 1) drained =
      match drained.buffer.first with
      | none => drained
      | some (number, value) =>
        if drained.next = number then drainLoop call fuel (turn call drained number value)
        else drained := rfl

private theorem turn_delivers (drained : Drained V) {value : V}
    (own : Belongs cid stream (call drained.next value)) :
    drainedReceiver call cid stream prior (turn call drained drained.next value) =
      (drainedReceiver call cid stream prior drained).deliver (call drained.next value) := by
  simp only [drainedReceiver, turn, Receiver.deliver, Receiver.mk.injEq, true_and]
  constructor
  · funext number
    rw [get_erase]
    by_cases same : number = drained.next <;> simp [same]
  · have kept : deliveries cid stream [call drained.next value] = [call drained.next value] :=
      deliveries_own (by simpa using own)
    rw [← List.append_assoc, deliveries_append cid stream (prior ++ drained.calls), kept]

theorem drain_loop_drains (fuel : Nat) (drained : Drained V)
    (own : ∀ number value, drained.buffer[number]? = some value →
      Belongs cid stream (call number value)) :
    Drains (drainedReceiver call cid stream prior drained)
      (drainedReceiver call cid stream prior (drainLoop call fuel drained)) := by
  induction fuel generalizing drained with
  | zero => exact .stop _
  | succ fuel ih =>
    rw [drain_loop_succ]
    split
    · exact .stop _
    · rename_i number value head
      have held := (first_some head).1
      split
      · rename_i same
        subst same
        have due : (drainedReceiver call cid stream prior drained).waiting drained.next =
            some (call drained.next value) := by simp [drainedReceiver, held]
        have drains := ih (turn call drained drained.next value) (by
          intro key entry present
          rw [turn, get_erase] at present
          split at present
          · cases present
          · exact own key entry present)
        rw [turn_delivers call drained (own _ _ held)] at drains
        exact .deliver due drains
      · exact .stop _

/-- The loop calls back for packets of its own sequence only. -/
theorem drain_loop_calls (fuel : Nat) (drained : Drained V)
    (own : ∀ number value, drained.buffer[number]? = some value →
      Belongs cid stream (call number value)) :
    ∃ made, (drainLoop call fuel drained).calls = drained.calls ++ made ∧
      ∀ call ∈ made, Belongs cid stream call := by
  induction fuel generalizing drained with
  | zero => exact ⟨[], by simp [drainLoop], by simp⟩
  | succ fuel ih =>
    rw [drain_loop_succ]
    split
    · exact ⟨[], by simp, by simp⟩
    · rename_i number value head
      split
      · obtain ⟨made, shape, belongs⟩ := ih (turn call drained number value) (by
          intro key entry present
          rw [turn, get_erase] at present
          split at present
          · cases present
          · exact own key entry present)
        refine ⟨call number value :: made, ?_, ?_⟩
        · rw [shape, turn, List.append_assoc]
          rfl
        intro made member
        rcases List.mem_cons.mp member with rfl | later
        · exact own number value (first_some head).1
        · exact belongs made later
      · exact ⟨[], by simp, by simp⟩

/-- The loop erases entries and changes none. -/
theorem drain_loop_buffer (fuel : Nat) (drained : Drained V) {key : UInt32} {value : V}
    (held : (drainLoop call fuel drained).buffer[key]? = some value) :
    drained.buffer[key]? = some value := by
  induction fuel generalizing drained with
  | zero => exact held
  | succ fuel ih =>
    rw [drain_loop_succ] at held
    split at held
    · exact held
    · split at held
      · have kept := ih _ held
        rw [turn, get_erase] at kept
        split at kept
        · cases kept
        · exact kept
      · exact held

/-- When the next number is not preceded by a smaller key, the loop leaves nothing due. -/
theorem drain_loop_settles (fuel : Nat) (drained : Drained V) (enough : drained.buffer.size ≤ fuel)
    (aligned : drained.next ∈ drained.buffer → ∀ key ∈ drained.buffer, drained.next ≤ key) :
    (drainLoop call fuel drained).next ∉ (drainLoop call fuel drained).buffer := by
  induction fuel generalizing drained with
  | zero =>
    intro member
    have smaller := size_erase_lt member
    simp only [drainLoop] at smaller
    omega
  | succ fuel ih =>
    rw [drain_loop_succ]
    split
    · rename_i empty
      exact not_mem_iff_get.mpr (first_none empty _)
    · rename_i number value head
      obtain ⟨held, least⟩ := first_some head
      have member : number ∈ drained.buffer := mem_iff_get.mpr ⟨value, held⟩
      split
      · rename_i same
        subst same
        apply ih
        · have smaller := size_erase_lt member
          simp only [turn]
          omega
        · -- every key left is above the one erased, so the successor did not wrap
          have above : ∀ key ∈ drained.buffer.erase drained.next, drained.next < key := by
            intro key present
            obtain ⟨entry, found⟩ := mem_iff_get.mp present
            rw [get_erase] at found
            split at found
            · cases found
            · rename_i different
              exact UInt32.lt_of_le_of_ne (least key (mem_iff_get.mpr ⟨entry, found⟩))
                (Ne.symm different)
          intro due key present
          have reached := above _ due
          have later := above key present
          simp only [turn, UInt32.lt_iff_toNat_lt, UInt32.le_iff_toNat_le, UInt32.toNat_add,
            UInt32.toNat_one] at reached later ⊢
          have small := drained.next.toNat_lt
          have keySmall := key.toNat_lt
          omega
      · rename_i different
        intro due
        have lower := aligned due number member
        exact different (UInt32.le_antisymm lower (least _ due))

/-- A key below the next number stops the loop at once. -/
theorem drain_loop_blocked (fuel : Nat) (drained : Drained V)
    (below : ∃ key ∈ drained.buffer, key < drained.next) :
    drainLoop call fuel drained = drained := by
  cases fuel with
  | zero => rfl
  | succ fuel =>
    rw [drain_loop_succ]
    split
    · rfl
    · rename_i number value head
      obtain ⟨key, member, less⟩ := below
      have least := (first_some head).2 key member
      rw [if_neg]
      rintro rfl
      exact UInt32.not_lt.mpr least less

end Drain

/-! ## The scan of the target buffer -/

/-- An entry that was not sent to the ULP yet and is not held by an RNR timeout. -/
def isReady (entry : TransactionMetadata) : Bool := entry.retryTime = .zero

/-- The target side of a connection, seen as a receiver: what waits is what is ready. -/
def targetReceiver (cid : UInt32) (prior : List ReorderCall) (progress : Progress) :
    Receiver ReorderCall where
  next := progress.info.nextTargetRsn
  waiting := fun rsn => (progress.info.targetRsnBuffer[rsn]?.filter isReady).map
    fun entry => ⟨cid, rsn, entry.packetType⟩
  delivered := deliveries cid .target (prior ++ progress.calls)

/-- Without RNR an entry is either ready or was sent to the ULP. -/
structure Calm (progress : Progress) : Prop where
  ordered : progress.info.orderingMode = .ordered
  peaceful : progress.info.inRnr = false
  entries : ∀ (rsn : UInt32) (entry : TransactionMetadata),
    progress.info.targetRsnBuffer[rsn]? = some entry →
    streamOf entry.packetType = some .target ∧
      (entry.retryTime = .zero ∨ entry.retryTime = .infinite)

variable {progress : Progress} {rsn : UInt32} {entry : TransactionMetadata}

theorem target_waiting_some (found : progress.info.targetRsnBuffer[rsn]? = some entry)
    (ready : entry.retryTime = .zero) :
    (targetReceiver cid prior progress).waiting rsn = some ⟨cid, rsn, entry.packetType⟩ := by
  simp [targetReceiver, found, isReady, ready]

theorem target_waiting_sent (found : progress.info.targetRsnBuffer[rsn]? = some entry)
    (sent : entry.retryTime = .infinite) :
    (targetReceiver cid prior progress).waiting rsn = none := by
  simp [targetReceiver, found, isReady, sent, Ne.symm Duration.zero_ne_infinite]

theorem target_waiting_absent (absent : progress.info.targetRsnBuffer[rsn]? = none) :
    (targetReceiver cid prior progress).waiting rsn = none := by
  simp [targetReceiver, absent]

theorem send_calm (calm : Calm progress) (entryType : streamOf entry.packetType = some .target) :
    Calm (sendToUlpTarget cid rsn entry progress) where
  ordered := calm.ordered
  peaceful := calm.peaceful
  entries := by
    intro key found held
    simp only [sendToUlpTarget, get_insert] at held
    split at held
    · cases held
      exact ⟨entryType, Or.inr rfl⟩
    · exact calm.entries key found held

theorem send_delivers (calm : Calm progress) (entryType : streamOf entry.packetType = some .target) :
    targetReceiver cid prior (sendToUlpTarget cid progress.info.nextTargetRsn entry progress) =
      (targetReceiver cid prior progress).deliver
        ⟨cid, progress.info.nextTargetRsn, entry.packetType⟩ := by
  simp only [targetReceiver, sendToUlpTarget, Receiver.deliver, Receiver.mk.injEq, calm.ordered,
    if_true, true_and]
  constructor
  · funext key
    rw [get_insert]
    by_cases same : key = progress.info.nextTargetRsn
    · simp [same, isReady, Ne.symm Duration.zero_ne_infinite]
    · simp [same]
  · have kept : deliveries cid .target [⟨cid, progress.info.nextTargetRsn, entry.packetType⟩] =
        [⟨cid, progress.info.nextTargetRsn, entry.packetType⟩] :=
      deliveries_own (by simp [Belongs, entryType])
    rw [← List.append_assoc, deliveries_append cid .target (prior ++ progress.calls), kept]

/-- What a scan may change: it hands due entries to the ULP and touches nothing else. -/
structure Scanned (cid : UInt32) (prior : List ReorderCall) (progress final : Progress) : Prop where
  calm : Calm final
  drains : Drains (targetReceiver cid prior progress) (targetReceiver cid prior final)
  members : ∀ rsn, rsn ∈ final.info.targetRsnBuffer ↔ rsn ∈ progress.info.targetRsnBuffer
  calls : ∃ made, final.calls = progress.calls ++ made ∧ ∀ call ∈ made, Belongs cid .target call
  others : final.info = { progress.info with
    nextTargetRsn := final.info.nextTargetRsn, targetRsnBuffer := final.info.targetRsnBuffer }

theorem scanned_refl (cid : UInt32) (prior : List ReorderCall) (calm : Calm progress) :
    Scanned cid prior progress progress where
  calm := calm
  drains := .stop _
  members := fun _ => Iff.rfl
  calls := ⟨[], by simp, by simp⟩
  others := rfl

theorem scanned_send {final : Progress} (calm : Calm progress)
    (due : progress.info.targetRsnBuffer[progress.info.nextTargetRsn]? = some entry)
    (ready : entry.retryTime = .zero)
    (rest : Scanned cid prior (sendToUlpTarget cid progress.info.nextTargetRsn entry progress)
      final) : Scanned cid prior progress final where
  calm := rest.calm
  drains := by
    have waits : (targetReceiver cid prior progress).waiting progress.info.nextTargetRsn =
        some ⟨cid, progress.info.nextTargetRsn, entry.packetType⟩ :=
      target_waiting_some due ready
    have drained := rest.drains
    rw [send_delivers calm (calm.entries _ _ due).1] at drained
    exact .deliver waits drained
  members := by
    intro rsn
    rw [rest.members rsn, mem_iff_get, mem_iff_get]
    simp only [sendToUlpTarget, get_insert]
    by_cases same : rsn = progress.info.nextTargetRsn
    · subst same
      simp [due]
    · simp [same]
  calls := by
    obtain ⟨made, shape, belongs⟩ := rest.calls
    refine ⟨⟨cid, progress.info.nextTargetRsn, entry.packetType⟩ :: made, ?_, ?_⟩
    · rw [shape, sendToUlpTarget, List.append_assoc]
      rfl
    · intro call member
      rcases List.mem_cons.mp member with rfl | later
      · exact ⟨rfl, (calm.entries _ _ due).1⟩
      · exact belongs call later
  others := rest.others

theorem scan_scanned (cid : UInt32) (prior : List ReorderCall) (now : Nat) (keys : List UInt32)
    (progress : Progress) (calm : Calm progress) :
    Scanned cid prior progress (scanTarget cid now keys progress) := by
  induction keys generalizing progress with
  | nil => exact scanned_refl cid prior calm
  | cons key rest ih =>
    rw [scanTarget]
    cases found : progress.info.targetRsnBuffer[key]? with
    | none => exact scanned_refl cid prior calm
    | some entry =>
      simp only
      split
      · rename_i due
        obtain ⟨rfl, elapsed⟩ := due
        obtain ⟨entryType, ready | sent⟩ := calm.entries _ _ found
        · exact scanned_send calm found ready (ih _ (send_calm calm entryType))
        · simp [sent] at elapsed
      · exact scanned_refl cid prior calm

theorem check_target_scanned (cid : UInt32) (prior : List ReorderCall) (now : Nat)
    (calm : Calm progress) : Scanned cid prior progress (checkTargetRsnBuffer cid now progress) :=
  scan_scanned cid prior now _ progress calm

/-- The keys a scan still has to visit: those of the buffer from the next RSN on. -/
structure Lined (progress : Progress) (keys : List UInt32) : Prop where
  sorted : keys.Pairwise (· < ·)
  above : ∀ key ∈ keys, progress.info.nextTargetRsn ≤ key
  complete : ∀ key ∈ progress.info.targetRsnBuffer, progress.info.nextTargetRsn ≤ key → key ∈ keys

variable {key : UInt32} {rest : List UInt32}

theorem lined_head (lined : Lined progress (key :: rest))
    (member : progress.info.nextTargetRsn ∈ progress.info.targetRsnBuffer) :
    key = progress.info.nextTargetRsn := by
  rcases List.mem_cons.mp (lined.complete _ member (UInt32.le_refl _)) with same | later
  · exact same.symm
  · have less := (List.pairwise_cons.mp lined.sorted).1 _ later
    exact absurd less (UInt32.not_lt.mpr (lined.above key (by simp)))

theorem lined_nil (lined : Lined progress []) :
    progress.info.nextTargetRsn ∉ progress.info.targetRsnBuffer := by
  intro member
  simpa using lined.complete _ member (UInt32.le_refl _)

theorem send_member :
    key ∈ (sendToUlpTarget cid rsn entry progress).info.targetRsnBuffer ↔
      key = rsn ∨ key ∈ progress.info.targetRsnBuffer := by
  simp only [sendToUlpTarget, mem_iff_get, get_insert]
  by_cases same : key = rsn <;> simp [same]

theorem send_next (calm : Calm progress) :
    (sendToUlpTarget cid rsn entry progress).info.nextTargetRsn =
      progress.info.nextTargetRsn + 1 := by
  simp [sendToUlpTarget, calm.ordered]

/-- A sent RSN below the largest one leaves the rest of the keys lined up. -/
theorem lined_tail (lined : Lined progress (key :: rest)) (calm : Calm progress)
    (same : progress.info.nextTargetRsn = key) (room : key + 1 ≠ 0) :
    Lined (sendToUlpTarget cid key entry progress) rest := by
  obtain ⟨first, tail⟩ := List.pairwise_cons.mp lined.sorted
  have bound := key.toNat_lt
  have noWrap : key.toNat + 1 < 2 ^ 32 := by
    by_contra wraps
    apply room
    apply UInt32.toNat_inj.mp
    rw [UInt32.toNat_add, UInt32.toNat_one, UInt32.toNat_zero]
    omega
  have successor : (key + 1).toNat = key.toNat + 1 := by
    rw [UInt32.toNat_add, UInt32.toNat_one]
    omega
  refine ⟨tail, ?_, ?_⟩
  · intro other member
    have less := first other member
    rw [send_next calm, same, UInt32.le_iff_toNat_le, successor]
    exact less
  · intro other member reached
    rw [send_next calm, same, UInt32.le_iff_toNat_le, successor] at reached
    have different : other ≠ key := by
      rintro rfl
      omega
    have present := (send_member.mp member).resolve_left different
    have listed := lined.complete other present (by
      rw [same, UInt32.le_iff_toNat_le]
      omega)
    exact (List.mem_cons.mp listed).resolve_left different

/-- Above the largest RSN there is no further key. -/
theorem lined_last (lined : Lined progress (key :: rest)) (full : key + 1 = 0) : rest = [] := by
  cases rest with
  | nil => rfl
  | cons other rest =>
    have less := (List.pairwise_cons.mp lined.sorted).1 other (by simp)
    have wraps := congrArg UInt32.toNat full
    rw [UInt32.toNat_add, UInt32.toNat_one, UInt32.toNat_zero] at wraps
    rw [UInt32.lt_iff_toNat_lt] at less
    have bound := other.toNat_lt
    have keyBound := key.toNat_lt
    omega

theorem target_waiting_iff (calm : Calm progress) (rsn : UInt32) :
    (targetReceiver cid prior progress).waiting rsn ≠ none ↔
      ∃ entry : TransactionMetadata, progress.info.targetRsnBuffer[rsn]? = some entry ∧
        entry.retryTime = .zero := by
  constructor
  · intro waits
    cases found : progress.info.targetRsnBuffer[rsn]? with
    | none => exact absurd (target_waiting_absent found) waits
    | some entry =>
      rcases (calm.entries rsn entry found).2 with ready | sent
      · exact ⟨entry, rfl, ready⟩
      · exact absurd (target_waiting_sent found sent) waits
  · rintro ⟨entry, found, ready⟩
    simp [target_waiting_some found ready]

private theorem eq_of_last {last : UInt32} (full : last + 1 = 0) (reached : last ≤ key) :
    key = last := by
  have wraps := congrArg UInt32.toNat full
  rw [UInt32.toNat_add, UInt32.toNat_one, UInt32.toNat_zero] at wraps
  rw [UInt32.le_iff_toNat_le] at reached
  have bound := key.toNat_lt
  have lastBound := last.toNat_lt
  apply UInt32.toNat_inj.mp
  omega

theorem succ_le_of_lt {low : UInt32} (less : low < key) : low + 1 ≤ key := by
  have bound := key.toNat_lt
  rw [UInt32.lt_iff_toNat_lt] at less
  rw [UInt32.le_iff_toNat_le, UInt32.toNat_add, UInt32.toNat_one]
  omega

theorem lt_of_succ_le {low : UInt32} (room : low + 1 ≠ 0) (reached : low + 1 ≤ key) :
    low < key := by
  have bound := low.toNat_lt
  rw [UInt32.le_iff_toNat_le, UInt32.toNat_add, UInt32.toNat_one] at reached
  have noWrap : (low.toNat + 1) % 2 ^ 32 ≠ 0 := by
    intro wraps
    apply room
    apply UInt32.toNat_inj.mp
    rw [UInt32.toNat_add, UInt32.toNat_one, UInt32.toNat_zero]
    exact wraps
  rw [UInt32.lt_iff_toNat_lt]
  omega

theorem scan_absent {now : Nat} {keys : List UInt32}
    (absent : progress.info.nextTargetRsn ∉ progress.info.targetRsnBuffer) :
    scanTarget cid now keys progress = progress := by
  cases keys with
  | nil => rfl
  | cons key rest =>
    rw [scanTarget]
    cases found : progress.info.targetRsnBuffer[key]? with
    | none => rfl
    | some entry =>
      simp only
      rw [if_neg]
      rintro ⟨rfl, _⟩
      exact absent (mem_iff_get.mpr ⟨entry, found⟩)

theorem lined_keys_from (member : progress.info.nextTargetRsn ∈ progress.info.targetRsnBuffer) :
    Lined progress (progress.info.targetRsnBuffer.keysFrom progress.info.nextTargetRsn) where
  sorted := keys_from_ordered _ _
  above := fun _ listed => ((mem_keys_from member).mp listed).2
  complete := fun _ present reached => (mem_keys_from member).mpr ⟨present, reached⟩

/-- The scan leaves nothing due, unless it came to the largest RSN and the sequence goes
on at zero. -/
theorem scan_settles (cid : UInt32) (prior : List ReorderCall) (now : Nat) (keys : List UInt32)
    (progress : Progress) (calm : Calm progress) (lined : Lined progress keys) :
    (targetReceiver cid prior (scanTarget cid now keys progress)).Settled ∨
      (∀ key, progress.info.nextTargetRsn ≤ key →
        (targetReceiver cid prior progress).waiting key ≠ none) ∧
      (targetReceiver cid prior (scanTarget cid now keys progress)).waiting 0 ≠ none := by
  induction keys generalizing progress with
  | nil => exact Or.inl (target_waiting_absent (not_mem_iff_get.mp (lined_nil lined)))
  | cons key rest ih =>
    by_cases member : progress.info.nextTargetRsn ∈ progress.info.targetRsnBuffer
    · obtain rfl := lined_head lined member
      obtain ⟨entry, found⟩ := mem_iff_get.mp member
      obtain ⟨entryType, ready | sent⟩ := calm.entries _ _ found
      · simp only [scanTarget, found, ready, Duration.elapsed_zero, and_self, if_true]
        have sentCalm : Calm (sendToUlpTarget cid progress.info.nextTargetRsn entry progress) :=
          send_calm calm entryType
        by_cases full : progress.info.nextTargetRsn + 1 = 0
        · obtain rfl := lined_last lined full
          have zero : (targetReceiver cid prior
              (sendToUlpTarget cid progress.info.nextTargetRsn entry progress)).next = 0 := by
            simp [targetReceiver, send_next calm, full]
          by_cases settled : (targetReceiver cid prior
              (sendToUlpTarget cid progress.info.nextTargetRsn entry progress)).waiting 0 = none
          · left
            rw [Receiver.Settled, scanTarget, zero, settled]
          · refine Or.inr ⟨fun key reached => ?_, settled⟩
            obtain rfl := eq_of_last full reached
            exact (target_waiting_iff calm _).mpr ⟨entry, found, ready⟩
        · rcases ih _ sentCalm (lined_tail lined calm rfl full) with settled | ⟨due, zero⟩
          · exact Or.inl settled
          · refine Or.inr ⟨fun key reached => ?_, zero⟩
            by_cases same : key = progress.info.nextTargetRsn
            · subst same
              exact (target_waiting_iff calm _).mpr ⟨entry, found, ready⟩
            · have later := due key (by
                rw [send_next calm]
                exact succ_le_of_lt (UInt32.lt_of_le_of_ne reached (Ne.symm same)))
              rw [send_delivers calm entryType] at later
              simpa [Receiver.deliver, targetReceiver, same] using later
      · left
        simp only [scanTarget, found, sent, Duration.elapsed_infinite]
        exact target_waiting_sent found sent
    · left
      rw [scan_absent member]
      exact target_waiting_absent (not_mem_iff_get.mp member)

/-- When everything up to the largest RSN waits and so does zero, the scan stops before
zero and leaves it due. -/
theorem scan_wraps (cid : UInt32) (prior : List ReorderCall) (now : Nat) (keys : List UInt32)
    (progress : Progress) (calm : Calm progress) (lined : Lined progress keys)
    (low : progress.info.nextTargetRsn ≠ 0)
    (due : ∀ key, progress.info.nextTargetRsn ≤ key →
      (targetReceiver cid prior progress).waiting key ≠ none)
    (zero : (targetReceiver cid prior progress).waiting 0 ≠ none) :
    ¬ (targetReceiver cid prior (scanTarget cid now keys progress)).Settled := by
  induction keys generalizing progress with
  | nil =>
    have waits := due _ (UInt32.le_refl _)
    exact absurd (target_waiting_absent (not_mem_iff_get.mp (lined_nil lined))) waits
  | cons key rest ih =>
    obtain ⟨entry, found, ready⟩ := (target_waiting_iff calm _).mp (due _ (UInt32.le_refl _))
    obtain rfl := lined_head lined (mem_iff_get.mpr ⟨entry, found⟩)
    have entryType := (calm.entries _ _ found).1
    simp only [scanTarget, found, ready, Duration.elapsed_zero, and_self, if_true]
    have sentCalm : Calm (sendToUlpTarget cid progress.info.nextTargetRsn entry progress) :=
      send_calm calm entryType
    have kept : ∀ other ≠ progress.info.nextTargetRsn,
        (targetReceiver cid prior
          (sendToUlpTarget cid progress.info.nextTargetRsn entry progress)).waiting other =
        (targetReceiver cid prior progress).waiting other := by
      intro other different
      rw [send_delivers calm entryType]
      simp [Receiver.deliver, targetReceiver, different]
    by_cases full : progress.info.nextTargetRsn + 1 = 0
    · obtain rfl := lined_last lined full
      have next : (targetReceiver cid prior
          (sendToUlpTarget cid progress.info.nextTargetRsn entry progress)).next = 0 := by
        simp [targetReceiver, send_next calm, full]
      rw [Receiver.Settled, scanTarget, next, kept 0 (Ne.symm low)]
      exact zero
    · apply ih _ sentCalm (lined_tail lined calm rfl full)
      · rw [send_next calm]
        exact full
      · intro other reached
        rw [send_next calm] at reached
        have less := lt_of_succ_le full reached
        rw [kept other (Ne.symm (UInt32.ne_of_lt less))]
        exact due other (UInt32.le_of_lt less)
      · rw [kept 0 (Ne.symm low)]
        exact zero

end Isekai.ReorderDrainProofs
