import Isekai.ReorderDrainProofs

/-! In-order delivery of an ordered connection. What the engine calls back for is the
longest consecutive run of what was inserted, as long as no insertion leaves a buffer
stuck at the point where the sequence numbers wrap. -/

namespace Isekai.ReorderDeliveryProofs
open BufferReorderEngine InOrderDelivery SequenceNumber SequenceBuffer ReorderDrainProofs

/-- A packet as it is given to `InsertPacket`. -/
structure Packet where
  packetType : PacketType
  rsn : UInt32
  ssn : UInt32
  deriving DecidableEq

/-- The number by which the packets of a sequence are ordered. -/
def numberIn : Stream → Packet → UInt32
  | .completion, packet | .target, packet => packet.rsn
  | .grant, packet | .request, packet => packet.ssn

/-- What arrived for one sequence: the numbers with the callbacks they ask for. -/
def arrivals (cid : UInt32) (stream : Stream) (packets : List Packet) :
    List (UInt32 × ReorderCall) :=
  (packets.filter fun packet => streamOf packet.packetType = some stream).map fun packet =>
    (numberIn stream packet, ⟨cid, packet.rsn, packet.packetType⟩)

/-- The sequence numbers that arrived, in the order of their arrival. -/
def arrivedNumbers (stream : Stream) (packets : List Packet) : List UInt32 :=
  (packets.filter fun packet => streamOf packet.packetType = some stream).map
    (numberIn stream)

/-- A due packet whose successor waits, while a waiting packet carries a smaller number:
the loop over a sorted buffer looks at that one and stops. -/
def SortedStall (start : UInt32) (earlier : List UInt32) (number : UInt32) : Prop :=
  number = dueNumber earlier start ∧ HeldBack earlier start (number + 1) ∧
    ∃ lower, HeldBack earlier start lower ∧ lower < number + 1

/-- A due packet after which everything up to the largest number waits, and zero as well:
the iterator over the target buffer reaches the end of the map and stops. -/
def TargetStall (start : UInt32) (earlier : List UInt32) (number : UInt32) : Prop :=
  number = dueNumber earlier start ∧ number + 1 ≠ 0 ∧
    (∀ later, number < later → HeldBack earlier start later) ∧ HeldBack earlier start 0

/-- The insertions after which a packet of the sequence is left due. -/
def Stall (stream : Stream) (start : UInt32) (earlier : List UInt32) (number : UInt32) :
    Prop :=
  match stream with
  | .target => TargetStall start earlier number
  | .completion | .grant | .request => SortedStall start earlier number

/-! ## A connection as four receivers -/

/-- One sequence of a connection, seen as a receiver. -/
def receiver (cid : UInt32) (stream : Stream) (prior : List ReorderCall) (progress : Progress) :
    Receiver ReorderCall :=
  match stream with
  | .completion => drainedReceiver (fun rsn packetType => ⟨cid, rsn, packetType⟩) cid .completion
      prior ⟨progress.info.nextInitiatorRsn, progress.info.initiatorRsnBuffer, progress.calls⟩
  | .target => targetReceiver cid prior progress
  | .grant => drainedReceiver (fun _ rsn => ⟨cid, rsn, .pushGrant⟩) cid .grant prior
      ⟨progress.info.nextInitiatorSsn, progress.info.initiatorSsnBuffer, progress.calls⟩
  | .request => drainedReceiver (fun _ rsn => ⟨cid, rsn, .pushRequest⟩) cid .request prior
      ⟨progress.info.nextTargetSsn, progress.info.targetSsnBuffer, progress.calls⟩

/-- The due value's successor waits behind a smaller number. -/
def SortedStallsAt (receiver : Receiver ReorderCall) (number : UInt32) : Prop :=
  number = receiver.next ∧ receiver.waiting (number + 1) ≠ none ∧
    ∃ lower, receiver.waiting lower ≠ none ∧ lower < number + 1

/-- Everything from the due value's successor up to the largest number waits, and zero. -/
def TargetStallsAt (receiver : Receiver ReorderCall) (number : UInt32) : Prop :=
  number = receiver.next ∧ number + 1 ≠ 0 ∧
    (∀ later, number < later → receiver.waiting later ≠ none) ∧ receiver.waiting 0 ≠ none

/-- Whether the arrival of `number` leaves a receiver of the sequence with a due value. -/
def StallsAt (stream : Stream) (receiver : Receiver ReorderCall) (number : UInt32) : Prop :=
  match stream with
  | .target => TargetStallsAt receiver number
  | .completion | .grant | .request => SortedStallsAt receiver number

/-- The initiator buffer holds completions, the target buffer what is ready or was sent. -/
structure WellTyped (progress : Progress) : Prop where
  calm : Calm progress
  completions : ∀ (rsn : UInt32) (packetType : PacketType),
    progress.info.initiatorRsnBuffer[rsn]? = some packetType →
      streamOf packetType = some .completion

/-- The effect of an insertion: its sequence takes the packet and hands on what is due, the
other sequences stay as they are. -/
structure Inserted (cid : UInt32) (stream : Stream) (number : UInt32) (call : ReorderCall)
    (prior : List ReorderCall) (before after : Progress) : Prop where
  typed : WellTyped after
  drains : Drains ((receiver cid stream prior before).hold number call)
    (receiver cid stream prior after)
  early : number ≠ (receiver cid stream prior before).next →
    receiver cid stream prior after = (receiver cid stream prior before).hold number call
  others : ∀ other ≠ stream, receiver cid other prior after = receiver cid other prior before
  requests : ∀ rsn ∈ after.info.targetRsnBuffer,
    rsn ∈ before.info.targetRsnBuffer ∨ stream = .target ∧ rsn = number
  stalls : (receiver cid stream prior before).Settled →
    ((receiver cid stream prior after).Settled ↔
      ¬ StallsAt stream (receiver cid stream prior before) number)

section Drain
variable {V : Type} {cid : UInt32} {stream : Stream} {prior : List ReorderCall}
  (call : UInt32 → V → ReorderCall)

private theorem drained_settled_iff (drained : Drained V) :
    (drainedReceiver call cid stream prior drained).Settled ↔ drained.next ∉ drained.buffer := by
  rw [not_mem_iff_get]
  simp [Receiver.Settled, drainedReceiver]

private theorem drained_waiting_iff (drained : Drained V) (number : UInt32) :
    (drainedReceiver call cid stream prior drained).waiting number ≠ none ↔
      number ∈ drained.buffer := by
  rw [mem_iff_get, ← Option.ne_none_iff_exists']
  simp [drainedReceiver]

/-- An early packet is held. -/
theorem hold_drained (drained : Drained V) (number : UInt32) (value : V) :
    drainedReceiver call cid stream prior
        { drained with buffer := drained.buffer.insert number value } =
      (drainedReceiver call cid stream prior drained).hold number (call number value) := by
  simp only [drainedReceiver, Receiver.hold, Receiver.mk.injEq, true_and, and_true]
  funext key
  rw [get_insert]
  by_cases same : key = number <;> simp [same]

/-- An arrival at a sequence with a sorted buffer: it is called back for when it is due and
buffered otherwise. -/
def arrive (drained : Drained V) (number : UInt32) (value : V) : Drained V :=
  if number = drained.next then
    drain call ⟨drained.next + 1, drained.buffer, drained.calls ++ [call number value]⟩
  else { drained with buffer := drained.buffer.insert number value }

/-- The packet that is due is called back for, and the loop goes on from its successor. -/
theorem arrive_drains (drained : Drained V) (number : UInt32) (value : V)
    (absent : drained.buffer[number]? = none) (fitting : Belongs cid stream (call number value))
    (own : ∀ number value, drained.buffer[number]? = some value →
      Belongs cid stream (call number value)) :
    Drains ((drainedReceiver call cid stream prior drained).hold number (call number value))
      (drainedReceiver call cid stream prior (arrive call drained number value)) := by
  unfold arrive
  split
  · rename_i same
    subst same
    have due : ((drainedReceiver call cid stream prior drained).hold drained.next
        (call drained.next value)).waiting drained.next = some (call drained.next value) := by
      simp [Receiver.hold]
    have handed : ((drainedReceiver call cid stream prior drained).hold drained.next
        (call drained.next value)).deliver (call drained.next value) =
        drainedReceiver call cid stream prior
          ⟨drained.next + 1, drained.buffer, drained.calls ++ [call drained.next value]⟩ := by
      have kept : deliveries cid stream [call drained.next value] = [call drained.next value] :=
        deliveries_own (by simpa using fitting)
      simp only [drainedReceiver, Receiver.hold, Receiver.deliver, Receiver.mk.injEq, true_and]
      constructor
      · funext key
        by_cases same : key = drained.next <;> simp [same, absent]
      · rw [← List.append_assoc, deliveries_append cid stream (prior ++ drained.calls), kept]
    have rest : Drains
        (drainedReceiver call cid stream prior
          ⟨drained.next + 1, drained.buffer, drained.calls ++ [call drained.next value]⟩)
        (drainedReceiver call cid stream prior
          (drain call
            ⟨drained.next + 1, drained.buffer, drained.calls ++ [call drained.next value]⟩)) :=
      drain_loop_drains call _ _ own
    rw [← handed] at rest
    exact .deliver due rest
  · rw [hold_drained]
    exact .stop _

theorem arrive_early (drained : Drained V) {number : UInt32} (value : V)
    (early : number ≠ drained.next) :
    drainedReceiver call cid stream prior (arrive call drained number value) =
      (drainedReceiver call cid stream prior drained).hold number (call number value) := by
  rw [arrive, if_neg early, hold_drained]

theorem arrive_calls (drained : Drained V) (number : UInt32) (value : V)
    (fitting : Belongs cid stream (call number value))
    (own : ∀ number value, drained.buffer[number]? = some value →
      Belongs cid stream (call number value))
    (before : ∀ made ∈ drained.calls, Belongs cid stream made) :
    ∀ made ∈ (arrive call drained number value).calls, Belongs cid stream made := by
  unfold arrive
  split
  · obtain ⟨further, shape, belongs⟩ := drain_loop_calls call drained.buffer.size
      ⟨drained.next + 1, drained.buffer, drained.calls ++ [call number value]⟩ own
    intro made member
    rw [drain, shape] at member
    simp only [List.mem_append, List.mem_singleton] at member
    rcases member with (early | rfl) | later
    · exact before made early
    · exact fitting
    · exact belongs made later
  · exact before

/-- The buffered values of an arrival's outcome were there before or are the new one. -/
theorem arrive_buffer (drained : Drained V) (number : UInt32) (value : V) :
    ∀ key entry, (arrive call drained number value).buffer[key]? = some entry →
      drained.buffer[key]? = some entry ∨ key = number ∧ entry = value := by
  intro key entry held
  unfold arrive at held
  split at held
  · exact Or.inl (drain_loop_buffer call drained.buffer.size
      ⟨drained.next + 1, drained.buffer, drained.calls ++ [call number value]⟩ held)
  · rw [get_insert] at held
    split at held
    · rename_i same
      exact Or.inr ⟨same, (Option.some.inj held).symm⟩
    · exact Or.inl held

/-- The loop started by a due packet leaves something due exactly when the packet stalls it. -/
theorem arrive_settled_iff (drained : Drained V) (calls : List ReorderCall) :
    (drainedReceiver call cid stream prior
        (drain call ⟨drained.next + 1, drained.buffer, calls⟩)).Settled ↔
      ¬ (drained.next + 1 ∈ drained.buffer ∧
        ∃ lower ∈ drained.buffer, lower < drained.next + 1) := by
  rw [drained_settled_iff]
  constructor
  · rintro settled ⟨due, lower⟩
    rw [drain, drain_loop_blocked call _ _ lower] at settled
    exact settled due
  · intro free
    apply drain_loop_settles call _ _ (Nat.le_refl _)
    intro due key member
    rw [← UInt32.not_lt]
    exact fun less => free ⟨due, key, member, less⟩

theorem arrive_stalls (drained : Drained V) (number : UInt32) (value : V)
    (settled : (drainedReceiver call cid stream prior drained).Settled) :
    (drainedReceiver call cid stream prior (arrive call drained number value)).Settled ↔
      ¬ SortedStallsAt (drainedReceiver call cid stream prior drained) number := by
  simp only [SortedStallsAt, drained_waiting_iff]
  unfold arrive
  split
  · rename_i same
    subst same
    rw [arrive_settled_iff]
    simp [drainedReceiver]
  · rename_i early
    have free : (drainedReceiver call cid stream prior
        { drained with buffer := drained.buffer.insert number value }).Settled := by
      rw [drained_settled_iff] at settled ⊢
      rw [not_mem_iff_get] at settled ⊢
      rw [get_insert, if_neg (Ne.symm early), settled]
    exact iff_of_true free fun stalls => early stalls.1

end Drain

/-! ## The effect of one insertion -/

variable {cid : UInt32} {prior : List ReorderCall} {info : ConnectionReorderMetadata}
  {packetType : PacketType} {rsn ssn : UInt32}

private theorem foreign_deliveries {stream other : Stream} {made : List ReorderCall}
    (prior : List ReorderCall) (own : ∀ call ∈ made, Belongs cid stream call) (different : other ≠ stream) :
    deliveries cid other (prior ++ made) = deliveries cid other (prior ++ []) := by
  rw [deliveries_append, deliveries_foreign own different, List.append_nil, List.append_nil]

theorem insert_completion (now : Nat) (typed : WellTyped ⟨info, []⟩)
    (kind : streamOf packetType = some .completion)
    (absent : info.initiatorRsnBuffer[rsn]? = none) :
    ∃ after, insertInto cid now packetType rsn ssn info = .ok (.ok, after) ∧
      Inserted cid .completion rsn ⟨cid, rsn, packetType⟩ prior ⟨info, []⟩ after := by
  let call : UInt32 → PacketType → ReorderCall := fun rsn packetType => ⟨cid, rsn, packetType⟩
  let drained : Drained PacketType := ⟨info.nextInitiatorRsn, info.initiatorRsnBuffer, []⟩
  have ordered : info.orderingMode = .ordered := typed.calm.ordered
  have fitting : Belongs cid .completion (call rsn packetType) := ⟨rfl, kind⟩
  have own : ∀ number value, drained.buffer[number]? = some value →
      Belongs cid .completion (call number value) :=
    fun number value held => ⟨rfl, typed.completions number value held⟩
  have calls := arrive_calls call drained rsn packetType fitting own (by simp [drained])
  refine ⟨⟨{ info with
      nextInitiatorRsn := (arrive call drained rsn packetType).next
      initiatorRsnBuffer := (arrive call drained rsn packetType).buffer },
    (arrive call drained rsn packetType).calls⟩, ?_, ?_⟩
  · cases packetType <;> simp only [streamOf, reduceCtorEq, Option.some.injEq] at kind <;>
      simp only [insertInto, ordered, insertOrdered, arrive, drained, call] <;>
      split <;> rfl
  · refine ⟨⟨⟨ordered, typed.calm.peaceful, typed.calm.entries⟩, ?_⟩, ?_, ?_, ?_, ?_, ?_⟩
    · intro key value held
      rcases arrive_buffer call drained rsn packetType key value held with early | ⟨_, rfl⟩
      · exact typed.completions key value early
      · exact kind
    · exact arrive_drains call drained rsn packetType absent fitting own
    · exact arrive_early call drained packetType
    · intro other different
      have foreign := foreign_deliveries prior calls different
      cases other with
      | completion => exact absurd rfl different
      | target => simp only [receiver, targetReceiver, foreign]
      | grant => simp only [receiver, drainedReceiver, foreign]
      | request => simp only [receiver, drainedReceiver, foreign]
    · intro key member
      exact Or.inl member
    · exact arrive_stalls call drained rsn packetType

theorem insert_grant (now : Nat) (typed : WellTyped ⟨info, []⟩)
    (absent : info.initiatorSsnBuffer[ssn]? = none) :
    ∃ after, insertInto cid now .pushGrant rsn ssn info = .ok (.ok, after) ∧
      Inserted cid .grant ssn ⟨cid, rsn, .pushGrant⟩ prior ⟨info, []⟩ after := by
  let call : UInt32 → UInt32 → ReorderCall := fun _ rsn => ⟨cid, rsn, .pushGrant⟩
  let drained : Drained UInt32 := ⟨info.nextInitiatorSsn, info.initiatorSsnBuffer, []⟩
  have ordered : info.orderingMode = .ordered := typed.calm.ordered
  have fitting : Belongs cid .grant (call ssn rsn) := ⟨rfl, rfl⟩
  have own : ∀ number value, drained.buffer[number]? = some value →
      Belongs cid .grant (call number value) := fun _ _ _ => ⟨rfl, rfl⟩
  have calls := arrive_calls call drained ssn rsn fitting own (by simp [drained])
  refine ⟨⟨{ info with
      nextInitiatorSsn := (arrive call drained ssn rsn).next
      initiatorSsnBuffer := (arrive call drained ssn rsn).buffer },
    (arrive call drained ssn rsn).calls⟩, ?_, ?_⟩
  · simp only [insertInto, ordered, insertOrdered, arrive, drained, call]
    split <;> rfl
  · refine ⟨⟨⟨ordered, typed.calm.peaceful, typed.calm.entries⟩, typed.completions⟩, ?_, ?_, ?_, ?_, ?_⟩
    · exact arrive_drains call drained ssn rsn absent fitting own
    · exact arrive_early call drained rsn
    · intro other different
      have foreign := foreign_deliveries prior calls different
      cases other with
      | grant => exact absurd rfl different
      | target => simp only [receiver, targetReceiver, foreign]
      | completion => simp only [receiver, drainedReceiver, foreign]
      | request => simp only [receiver, drainedReceiver, foreign]
    · intro key member
      exact Or.inl member
    · exact arrive_stalls call drained ssn rsn

theorem insert_request (now : Nat) (typed : WellTyped ⟨info, []⟩)
    (absent : info.targetSsnBuffer[ssn]? = none) :
    ∃ after, insertInto cid now .pushRequest rsn ssn info = .ok (.ok, after) ∧
      Inserted cid .request ssn ⟨cid, rsn, .pushRequest⟩ prior ⟨info, []⟩ after := by
  let call : UInt32 → UInt32 → ReorderCall := fun _ rsn => ⟨cid, rsn, .pushRequest⟩
  let drained : Drained UInt32 := ⟨info.nextTargetSsn, info.targetSsnBuffer, []⟩
  have ordered : info.orderingMode = .ordered := typed.calm.ordered
  have fitting : Belongs cid .request (call ssn rsn) := ⟨rfl, rfl⟩
  have own : ∀ number value, drained.buffer[number]? = some value →
      Belongs cid .request (call number value) := fun _ _ _ => ⟨rfl, rfl⟩
  have calls := arrive_calls call drained ssn rsn fitting own (by simp [drained])
  refine ⟨⟨{ info with
      nextTargetSsn := (arrive call drained ssn rsn).next
      targetSsnBuffer := (arrive call drained ssn rsn).buffer },
    (arrive call drained ssn rsn).calls⟩, ?_, ?_⟩
  · simp only [insertInto, ordered, insertOrdered, arrive, drained, call]
    split <;> rfl
  · refine ⟨⟨⟨ordered, typed.calm.peaceful, typed.calm.entries⟩, typed.completions⟩, ?_, ?_, ?_, ?_, ?_⟩
    · exact arrive_drains call drained ssn rsn absent fitting own
    · exact arrive_early call drained rsn
    · intro other different
      have foreign := foreign_deliveries prior calls different
      cases other with
      | request => exact absurd rfl different
      | target => simp only [receiver, targetReceiver, foreign]
      | completion => simp only [receiver, drainedReceiver, foreign]
      | grant => simp only [receiver, drainedReceiver, foreign]
    · intro key member
      exact Or.inl member
    · exact arrive_stalls call drained ssn rsn

/-- The scan started by a due request leaves something due exactly when it stalls there. -/
private theorem sent_settled_iff (now : Nat) (before sent : Progress) (number : UInt32)
    (calm : Calm sent) (next : sent.info.nextTargetRsn = number + 1)
    (due : number = before.info.nextTargetRsn)
    (settled : (targetReceiver cid prior before).Settled)
    (waiting : ∀ key, (targetReceiver cid prior sent).waiting key =
      if key = number then none else (targetReceiver cid prior before).waiting key) :
    (targetReceiver cid prior (checkTargetRsnBuffer cid now sent)).Settled ↔
      ¬ TargetStallsAt (targetReceiver cid prior before) number := by
  have before_none : (targetReceiver cid prior before).waiting number = none := by
    rw [due]
    exact settled
  have other : ∀ key, (targetReceiver cid prior before).waiting key ≠ none → key ≠ number := by
    rintro key held rfl
    exact held before_none
  constructor
  · rintro final ⟨_, room, later, zero⟩
    have waits : ∀ key, sent.info.nextTargetRsn ≤ key →
        (targetReceiver cid prior sent).waiting key ≠ none := by
      intro key reached
      rw [next] at reached
      have above := lt_of_succ_le room reached
      rw [waiting, if_neg (Ne.symm (UInt32.ne_of_lt above))]
      exact later key above
    obtain ⟨entry, held, _⟩ := (target_waiting_iff calm _).mp (waits _ (UInt32.le_refl _))
    apply scan_wraps cid prior now _ sent calm (lined_keys_from (mem_iff_get.mpr ⟨entry, held⟩))
      _ waits _ final
    · rw [next]
      exact room
    · rw [waiting, if_neg (other 0 zero)]
      exact zero
  · intro free
    by_cases member : sent.info.nextTargetRsn ∈ sent.info.targetRsnBuffer
    · rcases scan_settles cid prior now _ sent calm (lined_keys_from member) with
        final | ⟨waits, zero⟩
      · exact final
      · exfalso
        have room : number + 1 ≠ 0 := by
          intro wraps
          have held := waits number (by rw [next, wraps]; exact UInt32.zero_le)
          rw [waiting, if_pos rfl] at held
          exact held rfl
        apply free
        refine ⟨due, room, ?_, ?_⟩
        · intro key above
          have held := waits key (by rw [next]; exact succ_le_of_lt above)
          rwa [waiting, if_neg (Ne.symm (UInt32.ne_of_lt above))] at held
        · have scanned := check_target_scanned cid prior now calm
          have held := waiting_of_drains scanned.drains zero
          rw [waiting] at held
          split at held
          · exact absurd rfl held
          · exact held
    · rw [checkTargetRsnBuffer, scan_absent member]
      exact target_waiting_absent (not_mem_iff_get.mp member)

theorem insert_target (now : Nat) (typed : WellTyped ⟨info, []⟩)
    (kind : streamOf packetType = some .target) (absent : rsn ∉ info.targetRsnBuffer) :
    ∃ after, insertInto cid now packetType rsn ssn info = .ok (.ok, after) ∧
      Inserted cid .target rsn ⟨cid, rsn, packetType⟩ prior ⟨info, []⟩ after := by
  have ordered : info.orderingMode = .ordered := typed.calm.ordered
  have peaceful : info.inRnr = false := typed.calm.peaceful
  have code : insertInto cid now packetType rsn ssn info =
      if rsn = info.nextTargetRsn then
        .ok (.ok, checkTargetRsnBuffer cid now
          (sendToUlpTarget cid rsn { packetType } (remember rsn packetType info)))
      else .ok (.ok, remember rsn packetType info) := by
    cases packetType <;> simp only [streamOf, reduceCtorEq, Option.some.injEq] at kind <;>
      simp [insertInto, ordered, insertOrdered, absent, peaceful]
  have remembered : Calm (remember rsn packetType info) := by
    refine ⟨ordered, peaceful, ?_⟩
    intro key entry held
    simp only [remember, get_insert] at held
    split at held
    · cases held
      exact ⟨kind, Or.inl rfl⟩
    · exact typed.calm.entries key entry held
  have holds : targetReceiver cid prior (remember rsn packetType info) =
      (targetReceiver cid prior ⟨info, []⟩).hold rsn ⟨cid, rsn, packetType⟩ := by
    simp only [targetReceiver, remember, Receiver.hold, Receiver.mk.injEq, true_and, and_true]
    funext key
    rw [get_insert]
    by_cases same : key = rsn <;> simp [same, isReady]
  have members : ∀ key ∈ (remember rsn packetType info).info.targetRsnBuffer,
      key ∈ info.targetRsnBuffer ∨ key = rsn := by
    intro key member
    rw [mem_iff_get, remember, get_insert] at member
    by_cases same : key = rsn
    · exact Or.inr same
    · simp only [same, if_false] at member
      exact Or.inl (mem_iff_get.mpr member)
  rw [code]
  split
  · rename_i same
    subst same
    let sent := sendToUlpTarget cid info.nextTargetRsn { packetType }
      (remember info.nextTargetRsn packetType info)
    have sentCalm : Calm sent := send_calm remembered kind
    have scanned := check_target_scanned cid prior now sentCalm
    have delivered : targetReceiver cid prior sent =
        ((targetReceiver cid prior ⟨info, []⟩).hold info.nextTargetRsn
          ⟨cid, info.nextTargetRsn, packetType⟩).deliver ⟨cid, info.nextTargetRsn, packetType⟩ := by
      rw [← holds]
      exact send_delivers remembered kind
    refine ⟨_, rfl, ⟨scanned.calm, ?_⟩, ?_, ?_, ?_, ?_, ?_⟩
    · rw [scanned.others]
      exact typed.completions
    · have due : ((targetReceiver cid prior ⟨info, []⟩).hold info.nextTargetRsn
          ⟨cid, info.nextTargetRsn, packetType⟩).waiting info.nextTargetRsn =
          some ⟨cid, info.nextTargetRsn, packetType⟩ := by simp [Receiver.hold]
      have drains := scanned.drains
      rw [delivered] at drains
      exact .deliver due drains
    · intro early
      exact absurd rfl early
    · intro other different
      obtain ⟨made, shape, own⟩ := scanned.calls
      have calls : ∀ call ∈ (checkTargetRsnBuffer cid now sent).calls, Belongs cid .target call := by
        rw [shape]
        intro call member
        rcases List.mem_append.mp member with first | later
        · obtain rfl := List.mem_singleton.mp first
          exact ⟨rfl, kind⟩
        · exact own call later
      have foreign := foreign_deliveries prior calls different
      cases other with
      | target => exact absurd rfl different
      | completion =>
        simp only [receiver, drainedReceiver]
        rw [foreign, scanned.others]
        rfl
      | grant =>
        simp only [receiver, drainedReceiver]
        rw [foreign, scanned.others]
        rfl
      | request =>
        simp only [receiver, drainedReceiver]
        rw [foreign, scanned.others]
        rfl
    · intro key member
      rcases send_member.mp ((scanned.members key).mp member) with same | before
      · exact Or.inr ⟨rfl, same⟩
      · rcases members key before with early | same
        · exact Or.inl early
        · exact Or.inr ⟨rfl, same⟩
    · intro settled
      refine sent_settled_iff now ⟨info, []⟩ sent info.nextTargetRsn sentCalm
        (send_next remembered) rfl settled ?_
      intro key
      rw [delivered]
      by_cases same : key = info.nextTargetRsn <;>
        simp [Receiver.deliver, Receiver.hold, targetReceiver, same]
  · rename_i early
    refine ⟨_, rfl, ⟨remembered, typed.completions⟩, ?_, ?_, ?_, ?_, ?_⟩
    · rw [receiver, receiver, holds]
      exact .stop _
    · intro _
      exact holds
    · intro other different
      cases other with
      | target => exact absurd rfl different
      | completion | grant | request => rfl
    · intro key member
      rcases members key member with before | same
      · exact Or.inl before
      · exact Or.inr ⟨rfl, same⟩
    · intro settled
      refine iff_of_true ?_ fun stalls => early stalls.1
      rw [receiver, holds]
      simp only [Receiver.Settled, Receiver.hold] at settled ⊢
      have different : (targetReceiver cid prior ⟨info, []⟩).next ≠ rsn :=
        fun same => early same.symm
      rw [Function.update_of_ne different]
      exact settled

end Isekai.ReorderDeliveryProofs
