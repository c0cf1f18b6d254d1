import Isekai.ReorderDeliveryProofs

/-! Whole runs of the reorder engine. In every run without RNR NACKs an ordered connection
delivers the longest consecutive run of each of its four sequences exactly when none of its
insertions stalls a buffer; other connections never interfere. -/

namespace Isekai.ReorderRunProofs
open BufferReorderEngine InOrderDelivery SequenceNumber SequenceBuffer ReorderDrainProofs
open ReorderDeliveryProofs

variable {status : Status} {rsn : UInt32} {now : Nat} {packetType : PacketType}
  {info : ConnectionReorderMetadata}

/-! ## Other connections -/

/-- The callbacks an engine made for one connection. -/
def callsOf (cid : UInt32) (calls : List ReorderCall) : List ReorderCall :=
  calls.filter fun call => call.cid = cid

/-- Every callback made while the engine works on a connection is for that connection. -/
def OwnCalls (cid : UInt32) (progress : Progress) : Prop :=
  ∀ call ∈ progress.calls, call.cid = cid

variable {cid : UInt32} {progress after : Progress}

private theorem drain_own {V : Type} (call : UInt32 → V → ReorderCall)
    (named : ∀ number value, (call number value).cid = cid) (fuel : Nat) (drained : Drained V)
    (own : ∀ made ∈ drained.calls, made.cid = cid) :
    ∀ made ∈ (drainLoop call fuel drained).calls, made.cid = cid := by
  induction fuel generalizing drained with
  | zero => exact own
  | succ fuel ih =>
    simp only [drainLoop]
    split
    · exact own
    · split
      · apply ih
        intro made member
        rcases List.mem_append.mp member with early | last
        · exact own made early
        · rw [List.mem_singleton.mp last]
          exact named _ _
      · exact own

private theorem send_own (rsn : UInt32) (entry : TransactionMetadata)
    (own : OwnCalls cid progress) : OwnCalls cid (sendToUlpTarget cid rsn entry progress) := by
  intro call member
  rcases List.mem_append.mp member with early | last
  · exact own call early
  · rw [List.mem_singleton.mp last]

private theorem scan_own (now : Nat) (keys : List UInt32) (own : OwnCalls cid progress) :
    OwnCalls cid (scanTarget cid now keys progress) := by
  induction keys generalizing progress with
  | nil => exact own
  | cons key rest ih =>
    rw [scanTarget]
    split
    · exact own
    · split
      · exact ih (send_own key _ own)
      · exact own

private theorem remember_own (rsn : UInt32) (packetType : PacketType)
    (info : ConnectionReorderMetadata) : OwnCalls cid (remember rsn packetType info) := by
  simp [OwnCalls, remember]

private theorem single_own (rsn : UInt32) (packetType : PacketType)
    (info : ConnectionReorderMetadata) : OwnCalls cid ⟨info, [⟨cid, rsn, packetType⟩]⟩ := by
  simp [OwnCalls]

private theorem none_own (info : ConnectionReorderMetadata) : OwnCalls cid ⟨info, []⟩ := by
  simp [OwnCalls]

private theorem unordered_own
    (done : insertUnordered cid packetType rsn info = .ok (status, after)) :
    OwnCalls cid after := by
  unfold insertUnordered at done
  split at done
  · split at done <;> cases done
    exact send_own _ _ (remember_own _ _ _)
  · split at done <;> cases done
    exact send_own _ _ (remember_own _ _ _)
  · split at done <;> cases done
    exact send_own _ _ (remember_own _ _ _)
  · cases done
    exact single_own _ _ _

private theorem ordered_own {ssn : UInt32}
    (done : insertOrdered cid now packetType rsn ssn info = .ok (status, after)) :
    OwnCalls cid after := by
  unfold insertOrdered at done
  split at done
  case h_1 | h_2 | h_3 =>
    split at done <;> cases done
    · apply drain_own
      · intro number value
        rfl
      · simp
    · exact none_own _
  case h_4 | h_5 | h_6 =>
    split at done
    · cases done
    · split at done
      · cases done
        exact scan_own _ _ (send_own _ _ (remember_own _ _ _))
      · split at done <;> cases done <;> exact remember_own _ _ _
  case h_7 | h_8 =>
    split at done <;> cases done
    · apply drain_own
      · intro number value
        rfl
      · simp
    · exact none_own _
  all_goals cases done

theorem insert_own {ssn : UInt32}
    (done : insertInto cid now packetType rsn ssn info = .ok (status, after)) :
    OwnCalls cid after := by
  unfold insertInto at done
  split at done
  · exact unordered_own done
  · exact ordered_own done

theorem retry_own (done : retryInto cid now rsn info = .ok (status, after)) :
    OwnCalls cid after := by
  unfold retryInto at done
  split at done
  · cases done
  · repeat' split at done
    all_goals cases done
    · exact none_own _
    · exact send_own _ _ (none_own _)
    · exact scan_own _ _ (none_own _)
    · exact none_own _
    · exact none_own _

theorem timeout_own (now : Nat) (rsn : UInt32) (info : ConnectionReorderMetadata) :
    OwnCalls cid (rnrTimeoutInto cid now rsn info) := by
  unfold rnrTimeoutInto
  split
  · exact none_own _
  · repeat' split
    · exact none_own _
    · exact send_own _ _ (none_own _)
    · exact none_own _
    · exact scan_own _ _ (none_own _)

theorem record_elsewhere (engine : Engine) {other : UInt32} (own : OwnCalls other progress)
    (different : other ≠ cid) :
    (engine.record other progress).reorderInfo cid = engine.reorderInfo cid ∧
      callsOf cid (engine.record other progress).calls = callsOf cid engine.calls := by
  have foreign : callsOf cid progress.calls = [] := by
    apply List.filter_eq_nil_iff.mpr
    intro call member
    simp [own call member, different]
  constructor
  · simp [Engine.record, Ne.symm different]
  · simp only [callsOf] at foreign
    simp [Engine.record, callsOf, List.filter_append, foreign]

/-- An operation on another connection leaves this one and its callbacks alone. -/
theorem perform_elsewhere {engine engine' : Engine} {operation : Operation}
    (other : operation.cid ≠ cid) (done : engine.perform operation = .ok engine') :
    engine'.reorderInfo cid = engine.reorderInfo cid ∧
      callsOf cid engine'.calls = callsOf cid engine.calls := by
  cases operation with
  | initializeConnection peer initiatorRsn targetRsn initiatorSsn targetSsn mode =>
    simp only [Engine.perform, Engine.initializeConnection] at done
    split at done <;> cases done
    · exact ⟨rfl, rfl⟩
    · exact record_elsewhere engine (none_own _) other
  | deleteConnection peer =>
    simp only [Engine.perform, Engine.deleteConnection] at done
    split at done <;> cases done
    · exact ⟨rfl, rfl⟩
    · exact ⟨if_neg (Ne.symm other), rfl⟩
  | insertPacket now packetType peer rsn ssn =>
    simp only [Engine.perform, Engine.insertPacket] at done
    split at done
    · cases done
      exact ⟨rfl, rfl⟩
    · split at done
      · cases done
      · rename_i inserted
        cases done
        exact record_elsewhere engine (insert_own inserted) other
  | retryRnrNackedPacket now peer rsn =>
    simp only [Engine.perform, Engine.retryRnrNackedPacket] at done
    split at done
    · cases done
      exact ⟨rfl, rfl⟩
    · split at done
      · cases done
      · rename_i retried
        cases done
        exact record_elsewhere engine (retry_own retried) other
  | handleRnrNackFromUlp now peer rsn rnrTimeout =>
    simp only [Engine.perform, Engine.handleRnrNackFromUlp] at done
    split at done <;> cases done
    exact record_elsewhere engine (none_own _) other
  | handleAckFromUlp peer rsn =>
    simp only [Engine.perform, Engine.handleAckFromUlp] at done
    split at done <;> cases done
    exact record_elsewhere engine (none_own _) other
  | handleRnrTimeout now peer rsn =>
    simp only [Engine.perform, Engine.handleRnrTimeout] at done
    split at done <;> cases done
    exact record_elsewhere engine (timeout_own _ _ _) other

/-! ## Runs of one ordered connection -/

/-- A packet whose number did not occur before in its sequence. -/
def Fresh (packets : List Packet) (packet : Packet) : Prop :=
  ∀ stream, streamOf packet.packetType = some stream →
    numberIn stream packet ∉ arrivedNumbers stream packets

/-- The runs of an ordered connection from arbitrary initial numbers: packets are inserted,
each number once, the ULP acknowledges requests it was handed, and other connections do
anything. There is no RNR NACK. The list holds the packets inserted so far. -/
inductive Run (cid : UInt32) (start : Stream → UInt32) : List Packet → Engine → Prop where
  | opened {engine engine' : Engine} (unused : callsOf cid engine.calls = [])
      (done : engine.initializeConnection cid (start .completion) (start .target) (start .grant)
        (start .request) .ordered = (.ok, engine')) : Run cid start [] engine'
  | inserted {packets : List Packet} {engine engine' : Engine} {packet : Packet} {now : Nat}
      {status : Status} (ran : Run cid start packets engine) (fresh : Fresh packets packet)
      (done : engine.insertPacket now packet.packetType cid packet.rsn packet.ssn =
        .ok (status, engine')) : Run cid start (packets ++ [packet]) engine'
  | acknowledged {packets : List Packet} {engine engine' : Engine} {call : ReorderCall}
      (ran : Run cid start packets engine) (handed : call ∈ deliveries cid .target engine.calls)
      (done : engine.handleAckFromUlp cid call.rsn = .ok engine') : Run cid start packets engine'
  | elsewhere {packets : List Packet} {engine engine' : Engine} {operation : Operation}
      (ran : Run cid start packets engine) (other : operation.cid ≠ cid)
      (done : engine.perform operation = .ok engine') : Run cid start packets engine'

/-- Every sequence was called back for exactly the longest consecutive run of the numbers
inserted so far, in order, once each, and with the inserted packets' RSNs and types. -/
def DeliversLongestRuns (cid : UInt32) (start : Stream → UInt32) (packets : List Packet)
    (engine : Engine) : Prop :=
  ∀ stream, deliveries cid stream engine.calls =
    expected (arrivals cid stream packets) (start stream)

/-- No insertion of the list stalls a sequence. -/
def NoStall (start : Stream → UInt32) (packets : List Packet) : Prop :=
  ∀ stream, NeverStalls (Stall stream (start stream)) (arrivedNumbers stream packets)

variable {start : Stream → UInt32} {packets : List Packet} {packet : Packet} {stream : Stream}
  {engine engine' : Engine} {info : ConnectionReorderMetadata} {count : Nat}

theorem arrivals_numbers (cid : UInt32) (stream : Stream) (packets : List Packet) :
    (arrivals cid stream packets).map Prod.fst = arrivedNumbers stream packets := by
  simp only [arrivals, arrivedNumbers, List.map_map]
  rfl

theorem arrivals_snoc_own (kind : streamOf packet.packetType = some stream) :
    arrivals cid stream (packets ++ [packet]) = arrivals cid stream packets ++
      [(numberIn stream packet, ⟨cid, packet.rsn, packet.packetType⟩)] := by
  simp [arrivals, List.filter_append, kind]

theorem arrivals_snoc_other (kind : streamOf packet.packetType ≠ some stream) :
    arrivals cid stream (packets ++ [packet]) = arrivals cid stream packets := by
  simp [arrivals, List.filter_append, kind]

/-- The state of an ordered connection between operations: the four sequences are in order,
and one has something due exactly when an insertion stalled it. -/
structure Consistent (cid : UInt32) (start : Stream → UInt32) (packets : List Packet)
    (engine : Engine) (info : ConnectionReorderMetadata) : Prop where
  known : engine.reorderInfo cid = some info
  typed : WellTyped ⟨info, []⟩
  inOrder : ∀ stream, ∃ count, InOrder (start stream) (arrivals cid stream packets)
    (receiver cid stream engine.calls ⟨info, []⟩) count
  requests : ∀ rsn ∈ info.targetRsnBuffer, rsn ∈ arrivedNumbers .target packets
  distinct : ∀ stream, (arrivedNumbers stream packets).Nodup
  settled : ∀ stream, (receiver cid stream engine.calls ⟨info, []⟩).Settled ↔
    NeverStalls (Stall stream (start stream)) (arrivedNumbers stream packets)

theorem receiver_delivered (stream : Stream) (prior : List ReorderCall) (progress : Progress) :
    (receiver cid stream prior progress).delivered =
      deliveries cid stream (prior ++ progress.calls) := by
  cases stream <;> rfl

/-- The property of a run's state in terms of its receivers. -/
theorem delivers_longest_iff (consistent : Consistent cid start packets engine info) :
    DeliversLongestRuns cid start packets engine ↔ NoStall start packets := by
  unfold DeliversLongestRuns NoStall
  apply forall_congr'
  intro stream
  obtain ⟨count, ordered⟩ := consistent.inOrder stream
  have distinct : ((arrivals cid stream packets).map Prod.fst).Nodup := by
    rw [arrivals_numbers]
    exact consistent.distinct stream
  rw [← consistent.settled stream, ← ordered.delivered_longest_iff distinct, receiver_delivered,
    List.append_nil]

/-- Recording the callbacks in the engine does not change the receivers. -/
theorem receiver_recorded (stream : Stream) (prior : List ReorderCall) (progress : Progress) :
    receiver cid stream (prior ++ progress.calls) ⟨progress.info, []⟩ =
      receiver cid stream prior progress := by
  cases stream <;> simp [receiver, drainedReceiver, targetReceiver]

/-- In a settled sequence the two notions of a stalling number agree. -/
theorem stalls_at_iff {held : Receiver ReorderCall}
    (ordered : InOrder (start stream) (arrivals cid stream packets) held count)
    (distinct : (arrivedNumbers stream packets).Nodup) (settled : held.Settled)
    (number : UInt32) :
    StallsAt stream held number ↔
      Stall stream (start stream) (arrivedNumbers stream packets) number := by
  rw [← arrivals_numbers cid] at distinct
  have next := ordered.next_of_settled distinct settled
  have heldBack := ordered.held_back_iff distinct settled
  rw [arrivals_numbers] at next heldBack
  cases stream <;>
    simp only [StallsAt, Stall, SortedStallsAt, TargetStallsAt, SortedStall, TargetStall, next,
      heldBack]

private theorem fresh_vacant (consistent : Consistent cid start packets engine info)
    (fresh : Fresh packets packet) (kind : streamOf packet.packetType = some stream) :
    (receiver cid stream engine.calls ⟨info, []⟩).waiting (numberIn stream packet) = none := by
  obtain ⟨count, ordered⟩ := consistent.inOrder stream
  have absent := fresh stream kind
  rw [← arrivals_numbers cid] at absent
  rw [ordered.waiting_exact, (lookup_none_iff _ _).mpr absent, ite_self]

/-- A fresh packet of one of the four sequences is inserted without a failing check. -/
theorem fresh_insert_returns (consistent : Consistent cid start packets engine info) (now : Nat)
    (fresh : Fresh packets packet) (kind : streamOf packet.packetType = some stream) :
    ∃ after, insertInto cid now packet.packetType packet.rsn packet.ssn info = .ok (.ok, after) ∧
      Inserted cid stream (numberIn stream packet) ⟨cid, packet.rsn, packet.packetType⟩
        engine.calls ⟨info, []⟩ after := by
  have vacant := fresh_vacant consistent fresh kind
  cases stream with
  | completion =>
    apply insert_completion now consistent.typed kind
    simpa [receiver, drainedReceiver, numberIn] using vacant
  | target =>
    apply insert_target now consistent.typed kind
    intro member
    exact fresh .target kind (consistent.requests _ member)
  | grant =>
    have isGrant : packet.packetType = .pushGrant := by
      cases shape : packet.packetType <;> simp [shape, streamOf] at kind
      rfl
    rw [isGrant]
    apply insert_grant now consistent.typed
    simpa [receiver, drainedReceiver, numberIn] using vacant
  | request =>
    have isRequest : packet.packetType = .pushRequest := by
      cases shape : packet.packetType <;> simp [shape, streamOf] at kind
      rfl
    rw [isRequest]
    apply insert_request now consistent.typed
    simpa [receiver, drainedReceiver, numberIn] using vacant

/-- Packets of the types that belong to no sequence stop the run. -/
theorem insert_kind {ssn : UInt32} {after : Progress} (ordered : info.orderingMode = .ordered)
    (done : insertInto cid now packetType rsn ssn info = .ok (status, after)) :
    ∃ stream, streamOf packetType = some stream := by
  simp only [insertInto, ordered] at done
  cases packetType with
  | resync | back | eack | invalid => cases done
  | pullRequest | pushSolicitedData | pushUnsolicitedData => exact ⟨.target, rfl⟩
  | pullData | ack | nack => exact ⟨.completion, rfl⟩
  | pushGrant => exact ⟨.grant, rfl⟩
  | pushRequest => exact ⟨.request, rfl⟩

theorem inserted_settled (consistent : Consistent cid start packets engine info)
    (fresh : Fresh packets packet) (kind : streamOf packet.packetType = some stream)
    (inserted : Inserted cid stream (numberIn stream packet) ⟨cid, packet.rsn, packet.packetType⟩
      engine.calls ⟨info, []⟩ progress) :
    (receiver cid stream engine.calls progress).Settled ↔
      NeverStalls (Stall stream (start stream))
        (arrivedNumbers stream packets ++ [numberIn stream packet]) := by
  obtain ⟨count, ordered⟩ := consistent.inOrder stream
  rw [never_stalls_snoc, ← consistent.settled stream]
  by_cases settled : (receiver cid stream engine.calls ⟨info, []⟩).Settled
  · rw [inserted.stalls settled, stalls_at_iff ordered (consistent.distinct stream) settled]
    simp [settled]
  · -- what is due has arrived already, so the new packet is only held
    have early : numberIn stream packet ≠ (receiver cid stream engine.calls ⟨info, []⟩).next := by
      intro same
      apply settled
      rw [Receiver.Settled, ← same]
      exact fresh_vacant consistent fresh kind
    refine iff_of_false ?_ fun both => settled both.1
    rw [inserted.early early]
    simp only [Receiver.Settled, Receiver.hold] at settled ⊢
    rw [Function.update_of_ne (Ne.symm early)]
    exact settled

theorem inserted_consistent (consistent : Consistent cid start packets engine info)
    (fresh : Fresh packets packet)
    (done : engine.insertPacket now packet.packetType cid packet.rsn packet.ssn =
      .ok (status, engine')) :
    ∃ info', Consistent cid start (packets ++ [packet]) engine' info' := by
  simp only [Engine.insertPacket, consistent.known] at done
  split at done
  · cases done
  · rename_i before after code
    obtain ⟨stream, kind⟩ := insert_kind consistent.typed.calm.ordered code
    obtain ⟨_, same, inserted⟩ := fresh_insert_returns consistent now fresh kind
    rw [code] at same
    cases same
    cases done
    have numbers : arrivedNumbers stream (packets ++ [packet]) =
        arrivedNumbers stream packets ++ [numberIn stream packet] := by
      simp [arrivedNumbers, List.filter_append, kind]
    have unaffected : ∀ other ≠ stream,
        arrivedNumbers other (packets ++ [packet]) = arrivedNumbers other packets := by
      intro other different
      simp [arrivedNumbers, List.filter_append, kind, Ne.symm different]
    have calm := inserted.typed.calm
    refine ⟨after.info, ?_, ⟨⟨calm.ordered, calm.peaceful, calm.entries⟩,
      inserted.typed.completions⟩, ?_, ?_, ?_, ?_⟩
    · simp [Engine.record]
    · intro other
      rw [Engine.record, receiver_recorded]
      by_cases same : other = stream
      · subst same
        obtain ⟨count, ordered⟩ := consistent.inOrder other
        have absent := fresh other kind
        rw [← arrivals_numbers cid] at absent
        rw [arrivals_snoc_own kind]
        exact (ordered.hold _ absent).drains inserted.drains
      · have otherKind : streamOf packet.packetType ≠ some other := by
          rw [kind]
          exact fun equal => same (Option.some.inj equal).symm
        rw [arrivals_snoc_other otherKind, inserted.others other same]
        exact consistent.inOrder other
    · intro rsn member
      rcases inserted.requests rsn member with before | ⟨rfl, rfl⟩
      · have kept := consistent.requests rsn before
        by_cases same : stream = .target
        · subst same
          rw [numbers]
          exact List.mem_append_left _ kept
        · rw [unaffected .target (Ne.symm same)]
          exact kept
      · rw [numbers]
        simp
    · intro other
      by_cases same : other = stream
      · subst same
        rw [numbers]
        exact List.nodup_append.mpr ⟨consistent.distinct other, by simp, by
          intro early member last single
          rw [List.mem_singleton.mp single]
          rintro rfl
          exact fresh other kind member⟩
      · rw [unaffected other same]
        exact consistent.distinct other
    · intro other
      rw [Engine.record, receiver_recorded]
      by_cases same : other = stream
      · subst same
        rw [numbers]
        exact inserted_settled consistent fresh kind inserted
      · rw [unaffected other same, inserted.others other same]
        exact consistent.settled other

/-- Two connections whose receivers and callbacks agree are consistent alike. -/
private theorem consistent_of_same {info' : ConnectionReorderMetadata}
    (consistent : Consistent cid start packets engine info)
    (known : engine'.reorderInfo cid = some info') (typed : WellTyped ⟨info', []⟩)
    (same : ∀ stream, receiver cid stream engine'.calls ⟨info', []⟩ =
      receiver cid stream engine.calls ⟨info, []⟩)
    (fewer : ∀ rsn ∈ info'.targetRsnBuffer, rsn ∈ info.targetRsnBuffer) :
    Consistent cid start packets engine' info' where
  known := known
  typed := typed
  inOrder := fun stream => by
    rw [same stream]
    exact consistent.inOrder stream
  requests := fun rsn member => consistent.requests rsn (fewer rsn member)
  distinct := consistent.distinct
  settled := fun stream => by
    rw [same stream]
    exact consistent.settled stream

theorem opened_consistent (unused : callsOf cid engine.calls = [])
    (done : engine.initializeConnection cid (start .completion) (start .target) (start .grant)
      (start .request) .ordered = (.ok, engine')) :
    ∃ info, Consistent cid start [] engine' info := by
  simp only [Engine.initializeConnection] at done
  split at done
  · cases done
  · cases done
    have nothing : ∀ stream, deliveries cid stream engine.calls = [] := by
      intro stream
      apply List.filter_eq_nil_iff.mpr
      intro call member
      have foreign := List.filter_eq_nil_iff.mp unused call member
      simp only [decide_eq_true_eq] at foreign
      simp [Belongs, foreign]
    refine ⟨newConnection (start .completion) (start .target) (start .grant) (start .request)
      .ordered, ⟨by simp [Engine.record], ⟨⟨rfl, rfl, by simp [newConnection]⟩,
      by simp [newConnection]⟩, ?_, by simp [newConnection], ?_, ?_⟩⟩
    · intro stream
      have initial : InOrder (start stream) (arrivals cid stream []) _ 0 :=
        initial_in_order (start stream)
      refine ⟨0, ?_⟩
      convert initial using 1
      cases stream <;>
        simp [receiver, drainedReceiver, targetReceiver, Engine.record, newConnection, nothing]
    · intro stream
      simp [arrivedNumbers]
    · intro stream
      refine iff_of_true ?_ (never_stalls_nil _)
      cases stream <;>
        simp [Receiver.Settled, receiver, drainedReceiver, targetReceiver, newConnection]

/-- A request that was handed to the ULP does not wait any more. -/
theorem handed_not_waiting {call : ReorderCall}
    (consistent : Consistent cid start packets engine info)
    (handed : call ∈ deliveries cid .target engine.calls) :
    (receiver cid .target engine.calls ⟨info, []⟩).waiting call.rsn = none := by
  obtain ⟨count, ordered⟩ := consistent.inOrder .target
  have delivered : call ∈ (receiver cid .target engine.calls ⟨info, []⟩).delivered := by
    rw [receiver_delivered, List.append_nil]
    exact handed
  rw [ordered.delivered_exact] at delivered
  obtain ⟨i, listed, found⟩ := List.mem_filterMap.mp delivered
  have below := List.mem_range.mp listed
  have small := ordered.within
  have carried : call.rsn = advance (start .target) i := by
    obtain ⟨before, after, split, _⟩ := List.lookup_eq_some_iff.mp found
    have member : (advance (start .target) i, call) ∈ arrivals cid .target packets := by
      simp [split]
    obtain ⟨packet, _, same⟩ := List.mem_map.mp member
    obtain ⟨number, rfl⟩ := Prod.mk.inj same
    exact number
  rw [ordered.waiting_exact, carried, distance_advance _ (by omega), if_pos below]

theorem acknowledged_consistent {call : ReorderCall}
    (consistent : Consistent cid start packets engine info)
    (handed : call ∈ deliveries cid .target engine.calls)
    (done : engine.handleAckFromUlp cid call.rsn = .ok engine') :
    ∃ info', Consistent cid start packets engine' info' := by
  simp only [Engine.handleAckFromUlp, consistent.known] at done
  cases done
  have ordered : info.orderingMode = .ordered := consistent.typed.calm.ordered
  have erased : ackInto call.rsn info = { info with
      targetRsnBuffer := info.targetRsnBuffer.erase call.rsn
      nextTargetNetworkRsn := info.nextTargetNetworkRsn + 1
      inRnr := false } := by simp [ackInto, ordered]
  have kept : ∀ (key : UInt32) (entry : TransactionMetadata),
      (info.targetRsnBuffer.erase call.rsn)[key]? = some entry →
        info.targetRsnBuffer[key]? = some entry := by
    intro key entry held
    rw [get_erase] at held
    split at held
    · cases held
    · exact held
  refine ⟨ackInto call.rsn info,
    consistent_of_same consistent (by simp [Engine.record]) ?_ ?_ ?_⟩
  · rw [erased]
    exact ⟨⟨ordered, rfl, fun key entry held =>
      consistent.typed.calm.entries key entry (kept key entry held)⟩, consistent.typed.completions⟩
  · intro stream
    have gone := handed_not_waiting consistent handed
    cases stream with
    | completion | grant | request =>
      simp [receiver, drainedReceiver, Engine.record, erased]
    | target =>
      simp only [receiver, targetReceiver, Engine.record, erased, Receiver.mk.injEq, true_and,
        List.append_nil, and_true] at gone ⊢
      funext key
      rw [get_erase]
      by_cases same : key = call.rsn
      · subst same
        simp [gone]
      · simp [same]
  · intro rsn member
    rw [erased] at member
    obtain ⟨entry, held⟩ := mem_iff_get.mp member
    exact mem_iff_get.mpr ⟨entry, kept rsn entry held⟩

private theorem deliveries_narrow (cid : UInt32) (stream : Stream) (calls : List ReorderCall) :
    deliveries cid stream (callsOf cid calls) = deliveries cid stream calls := by
  rw [deliveries, callsOf, List.filter_filter]
  apply List.filter_congr
  intro call _
  by_cases same : call.cid = cid <;> simp [Belongs, same]

theorem elsewhere_consistent {operation : Operation}
    (consistent : Consistent cid start packets engine info) (other : operation.cid ≠ cid)
    (done : engine.perform operation = .ok engine') :
    Consistent cid start packets engine' info := by
  obtain ⟨known, calls⟩ := perform_elsewhere other done
  have same : ∀ stream, deliveries cid stream engine'.calls = deliveries cid stream engine.calls := by
    intro stream
    rw [← deliveries_narrow, calls, deliveries_narrow]
  apply consistent_of_same consistent (known.trans consistent.known) consistent.typed
  · intro stream
    cases stream <;>
      simp [receiver, drainedReceiver, targetReceiver, same]
  · exact fun _ member => member

theorem run_consistent (ran : Run cid start packets engine) :
    ∃ info, Consistent cid start packets engine info := by
  induction ran with
  | opened unused done => exact opened_consistent unused done
  | inserted _ fresh done ih =>
    obtain ⟨info, consistent⟩ := ih
    exact inserted_consistent consistent fresh done
  | acknowledged _ handed done ih =>
    obtain ⟨info, consistent⟩ := ih
    exact acknowledged_consistent consistent handed done
  | elsewhere _ other done ih =>
    obtain ⟨info, consistent⟩ := ih
    exact ⟨info, elsewhere_consistent consistent other done⟩

/-- In every run an ordered connection has delivered the longest consecutive runs, modulo
2^32, of its four sequences exactly when no insertion stalled a sequence at the wrap. -/
theorem ordered_delivery_exact (ran : Run cid start packets engine) :
    DeliversLongestRuns cid start packets engine ↔ NoStall start packets := by
  obtain ⟨info, consistent⟩ := run_consistent ran
  exact delivers_longest_iff consistent

/-! ## Runs on given packets -/

/-- A connection is opened in an empty engine and packets are inserted one by one. -/
def openConnection (cid : UInt32) (start : Stream → UInt32) : Engine :=
  (Engine.empty.initializeConnection cid (start .completion) (start .target) (start .grant)
    (start .request) .ordered).2

def insertAll (cid : UInt32) : Engine → List Packet → Except Abort Engine
  | engine, [] => .ok engine
  | engine, packet :: rest =>
    match engine.insertPacket 0 packet.packetType cid packet.rsn packet.ssn with
    | .error abort => .error abort
    | .ok (_, inserted) => insertAll cid inserted rest

theorem run_insert_all {more : List Packet} (ran : Run cid start packets engine)
    (distinct : ∀ stream, (arrivedNumbers stream (packets ++ more)).Nodup)
    (done : insertAll cid engine more = .ok engine') :
    Run cid start (packets ++ more) engine' := by
  induction more generalizing packets engine with
  | nil =>
    cases done
    simpa using ran
  | cons packet rest ih =>
    simp only [insertAll] at done
    split at done
    · cases done
    · rename_i status inserted returned
      have fresh : Fresh packets packet := by
        intro stream kind member
        have once := distinct stream
        simp only [arrivedNumbers, List.filter_append, List.filter_cons, kind, decide_true,
          if_true, List.map_append, List.map_cons] at once member
        exact (List.nodup_append.mp once).2.2 _ member _ (by simp) rfl
      have next := ih (.inserted ran fresh returned) (by simpa using distinct) done
      simpa using next

theorem run_opened (cid : UInt32) (start : Stream → UInt32) :
    Run cid start [] (openConnection cid start) := by
  have done : Engine.empty.initializeConnection cid (start .completion) (start .target)
      (start .grant) (start .request) .ordered = (.ok, openConnection cid start) := rfl
  exact .opened rfl done

/-- Three completions around the wrap, the first one last. -/
def wrappedCompletions : List Packet :=
  [⟨.pullData, 0, 0⟩, ⟨.pullData, 0xFFFFFFFF, 0⟩, ⟨.pullData, 0xFFFFFFFE, 0⟩]

/-- From the initial RSN 0xFFFFFFFE all three are due, but only the first is delivered: the
buffered RSN 0 is the smallest key and hides 0xFFFFFFFF. -/
theorem wrapped_completions_stuck :
    ∃ engine, Run 1 (fun _ => 0xFFFFFFFE) wrappedCompletions engine ∧
      ¬ DeliversLongestRuns 1 (fun _ => 0xFFFFFFFE) wrappedCompletions engine := by
  have computed : (insertAll 1 (openConnection 1 fun _ => 0xFFFFFFFE) wrappedCompletions).toOption.map
      (deliveries 1 .completion ·.calls) = some [⟨1, 0xFFFFFFFE, .pullData⟩] := by
    decide +kernel
  have wanted : (expected (arrivals 1 .completion wrappedCompletions) 0xFFFFFFFE).length = 3 := by
    decide +kernel
  cases done : insertAll 1 (openConnection 1 fun _ => 0xFFFFFFFE) wrappedCompletions with
  | error abort => simp [done, Except.toOption] at computed
  | ok engine =>
    have once : ∀ stream, (arrivedNumbers stream wrappedCompletions).Nodup := by
      intro stream
      cases stream <;> decide
    refine ⟨engine, run_insert_all (run_opened 1 _) once done, ?_⟩
    intro delivers
    have lengths := congrArg List.length (delivers .completion)
    simp only [done, Except.toOption, Option.map_some, Option.some.injEq] at computed
    rw [computed, wanted] at lengths
    simp at lengths

/-- One packet that is due does not stall anything. -/
theorem ordered_delivery_exact_single :
    ∃ engine, Run 1 (fun _ => 0xFFFFFFFF) [⟨.pullRequest, 0xFFFFFFFF, 0⟩] engine ∧
      (DeliversLongestRuns 1 (fun _ => 0xFFFFFFFF) [⟨.pullRequest, 0xFFFFFFFF, 0⟩] engine ↔
        NoStall (fun _ => 0xFFFFFFFF) [⟨.pullRequest, 0xFFFFFFFF, 0⟩]) := by
  have returns : (insertAll 1 (openConnection 1 fun _ => 0xFFFFFFFF)
      [⟨.pullRequest, 0xFFFFFFFF, 0⟩]).toOption.isSome = true := by decide +kernel
  cases done : insertAll 1 (openConnection 1 fun _ => 0xFFFFFFFF)
      [⟨.pullRequest, 0xFFFFFFFF, 0⟩] with
  | error abort => simp [done, Except.toOption] at returns
  | ok engine =>
    have once : ∀ stream, (arrivedNumbers stream [⟨.pullRequest, 0xFFFFFFFF, 0⟩]).Nodup := by
      intro stream
      cases stream <;> decide
    have ran := run_insert_all (run_opened 1 fun _ => 0xFFFFFFFF) once done
    exact ⟨engine, ran, ordered_delivery_exact ran⟩

end Isekai.ReorderRunProofs
