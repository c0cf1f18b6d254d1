import Isekai.SchedulerEffects

/-! In every run, the work items in the queues of every connection fit its transactions, and so
do the push requests and grants in the reorder engine. -/

namespace Isekai.SchedulerRunProofs
open FastConnectionScheduler SchedulerSystem SchedulerFrameProofs SchedulerTransactionProofs
  SchedulerEffects AdmissionControl

variable {scid rsn : UInt32} {connection final : ConnectionState} {type : PacketType}
  {transaction : TransactionMetadata} {queues : PacketTypeQueue → List WorkId}
  {key : TransactionKey} {item : WorkId} {scheduler next : Scheduler} {queueType : PacketTypeQueue}
  {rest : List WorkId}

/-- How many push grants, or push requests, of each RSN the reorder engine holds. -/
def pending (system : System) (scid : UInt32) (type : PacketType) (rsn : UInt32) : Nat :=
  system.inserted.count (scid, rsn, type)

/-- The invariant of a host. -/
structure SystemConsistent (system : System) : Prop where
  known : ∀ scid, (system.host.scheduler.connectionQueues scid).isSome =
    (system.host.connections scid).isSome
  inserted : ∀ entry ∈ system.inserted, (system.host.connections entry.1).isSome = true
  each : ∀ scid connection, system.host.connections scid = some connection →
    Consistent connection (system.host.scheduler.queue scid) (pending system scid .pushGrant)
      (pending system scid .pushRequest)

section Frame
variable {before after : System} {scid : UInt32} {final : ConnectionState}

/-- A step that concerns one connection. -/
structure OnlyAt (before after : System) (scid : UInt32) (final : ConnectionState) : Prop where
  connections : after.host.connections =
    Function.update before.host.connections scid (some final)
  known : ∀ other, (after.host.scheduler.connectionQueues other).isSome =
    (decide (other = scid) || (before.host.scheduler.connectionQueues other).isSome)
  queues : ∀ other, other ≠ scid →
    after.host.scheduler.queue other = before.host.scheduler.queue other
  counts : ∀ other, other ≠ scid → ∀ rsn type, answered type →
    pending after other type rsn = pending before other type rsn
  fresh : ∀ entry ∈ after.inserted, entry ∈ before.inserted ∨ entry.1 = scid

/-- The frame rule for connections. -/
theorem system_consistent_of_local (consistent : SystemConsistent before)
    (only : OnlyAt before after scid final)
    (here : Consistent final (after.host.scheduler.queue scid) (pending after scid .pushGrant)
      (pending after scid .pushRequest)) : SystemConsistent after := by
  constructor
  · intro other
    rw [only.known, only.connections]
    by_cases same : other = scid
    · subst same
      simp
    · simp [same, consistent.known]
  · intro entry member
    rw [only.connections]
    by_cases same : entry.1 = scid
    · rw [same, Function.update_self]
      rfl
    · rw [Function.update_of_ne same]
      exact consistent.inserted entry ((only.fresh entry member).resolve_right same)
  · intro other connection live
    by_cases same : other = scid
    · subst same
      rw [only.connections, Function.update_self] at live
      cases live
      exact here
    · rw [only.connections, Function.update_of_ne same] at live
      have each := consistent.each other connection live
      rw [← only.queues other same] at each
      have grants : pending after other .pushGrant = pending before other .pushGrant := by
        funext rsn
        exact only.counts other same rsn .pushGrant (.inr rfl)
      have requests : pending after other .pushRequest = pending before other .pushRequest := by
        funext rsn
        exact only.counts other same rsn .pushRequest (.inl rfl)
      rwa [grants, requests]

end Frame

/-! ## One step -/

theorem progress_consistent {grants requests : UInt32 → Nat} {old : TransactionMetadata}
    {value : Option TransactionMetadata} {refunded : Bool}
    (consistent : Consistent connection queues grants requests)
    (live : connection.transactions key = some old)
    (progress : Progress old key.location value refunded) :
    Consistent { connection with transactions := Function.update connection.transactions key value }
      queues grants requests := by
  -- apart from acks that leave the transaction as it is, only idle transactions move on
  have moved : old.state ∉ liveStates key.location →
      (key.location = .initiator → ∀ transaction, value = some transaction →
        transaction.state ≠ .pushSolicitedReqUlpRx ∧ transaction.state ≠ .pushReqNtwkTx) →
      Consistent { connection with
        transactions := Function.update connection.transactions key value } queues grants
        requests := by
    intro past settled
    refine consistent_of_update consistent (idle_of_state consistent ?_) rfl rfl settled
    intro transaction found
    rw [live] at found
    cases found
    exact past
  obtain ⟨rsn, location⟩ := key
  dsimp only at progress moved
  cases progress with
  | handed data step =>
    refine moved ?_ (by simp)
    rcases data with rfl | rfl | rfl <;>
    · have before := (expect_eq_ok.1 step).1
      simp at before
      rcases before with before | before <;> simp [before, liveStates]
  | refused step =>
    refine moved ?_ (by simp)
    cases type : old.type <;> rw [type] at step <;>
    · have before := (expect_eq_ok.1 step).1
      simp at before
      rcases before with before | before <;> simp [before, liveStates]
  | accepted pull step =>
    refine moved ?_ (by simp)
    have before := (expect_eq_ok.1 step).1
    simp at before
    simp [before, liveStates]
  | pushed push step =>
    refine moved ?_ (by simp)
    obtain ⟨state, step⟩ := step
    cases type : old.type <;> rw [type] at step <;>
    · have before := (expect_eq_ok.1 step).1
      simp at before
      simp [before, liveStates]
  | pulled step => exact moved (by simp [step, liveStates]) (by simp)
  | completed step =>
    refine moved ?_ (by simp)
    rcases step with step | step <;> simp [step, liveStates]
  | acked side step =>
    rename_i type state
    have stays : state = old.state → type ≠ .pullData →
        Consistent { connection with
          transactions := Function.update connection.transactions ⟨rsn, location⟩
            (if type = .pullData then none else some { old with state := state }) }
          queues grants requests := by
      rintro rfl other
      rw [if_neg other, ← live, Function.update_eq_self]
      exact consistent
    cases type with
    | pullRequest => exact stays (Except.ok.inj step).symm (by simp)
    | pushRequest => exact stays (Except.ok.inj step).symm (by simp)
    | pushGrant => exact stays (Except.ok.inj step).symm (by simp)
    | pullData =>
      cases side
      obtain ⟨before, rfl⟩ := expect_eq_ok.1 step
      simp at before
      exact moved (by simp [before, liveStates]) (by simp)
    | pushSolicitedData =>
      cases side
      obtain ⟨before, rfl⟩ := expect_eq_ok.1 step
      simp at before
      exact moved (by simp [before, liveStates]) (by simp)
    | pushUnsolicitedData =>
      cases side
      obtain ⟨before, rfl⟩ := expect_eq_ok.1 step
      simp at before
      exact moved (by simp [before, liveStates]) (by simp)
    | resync => cases step
    | ack => cases step
    | nack => cases step
    | back => cases step
    | eack => cases step
    | invalid => cases step

section Step
variable {before after : System}

theorem is_some_of_found {connections : UInt32 → Option ConnectionState}
    (found : connections scid = some connection) : (connections scid).isSome = true := by
  rw [found]
  rfl

theorem Enqueued.only_at {base : Host} (enqueued : Enqueued base after.host scid final item)
    (connections : base.connections = Function.update before.host.connections scid (some final))
    (scheduler : base.scheduler = before.host.scheduler)
    (counts : ∀ other, other ≠ scid → ∀ rsn type, answered type →
      pending after other type rsn = pending before other type rsn)
    (fresh : ∀ entry ∈ after.inserted, entry ∈ before.inserted ∨ entry.1 = scid) :
    OnlyAt before after scid final where
  connections := by rw [enqueued.connections, connections]
  known := by rw [← scheduler]; exact enqueued.known
  queues := by
    intro other different
    funext queueType
    rw [enqueued.queue, if_neg different, scheduler]
  counts := counts
  fresh := fresh

theorem queue_of_packets
    (packets : SamePackets ((scheduler.countDequeued queueType).setQueue scid queueType rest) next) :
    next.queue scid = Function.update (scheduler.queue scid) queueType rest := by
  funext otherType
  rw [packets.queue, queue_set_queue]
  by_cases same : otherType = queueType
  · subst same
    simp
  · rw [if_neg (by simp [same]), Function.update_of_ne same]
    rfl

theorem queue_elsewhere
    (packets : SamePackets ((scheduler.countDequeued queueType).setQueue scid queueType rest) next)
    {other : UInt32} (different : other ≠ scid) : next.queue other = scheduler.queue other := by
  funext otherType
  rw [packets.queue, queue_set_queue, if_neg (by simp [different])]
  rfl

theorem known_of_packets
    (packets : SamePackets ((scheduler.countDequeued queueType).setQueue scid queueType rest) next)
    (other : UInt32) : (next.connectionQueues other).isSome =
      (decide (other = scid) || (scheduler.connectionQueues other).isSome) := by
  rw [packets.queues, queues_set_queue_some]
  rfl

/-- A connection that already has queues. -/
theorem known_of_same (same : next.connectionQueues = scheduler.connectionQueues)
    (known : (scheduler.connectionQueues scid).isSome = true) (other : UInt32) :
    (next.connectionQueues other).isSome =
      (decide (other = scid) || (scheduler.connectionQueues other).isSome) := by
  rw [same]
  by_cases equal : other = scid
  · subst equal
    simp [known]
  · simp [equal]

theorem pending_erase_self (scid rsn : UInt32) (type : PacketType)
    (inserted : after.inserted = before.inserted.erase (scid, rsn, type)) :
    pending after scid type =
      Function.update (pending before scid type) rsn (pending before scid type rsn - 1) := by
  funext other
  by_cases same : other = rsn
  · subst same
    simp [pending, inserted, List.count_erase_self]
  · rw [Function.update_of_ne same]
    simp [pending, inserted, List.count_erase_of_ne, same]

theorem pending_erase_other {other : UInt32} (otherType : PacketType)
    (inserted : after.inserted = before.inserted.erase (scid, rsn, type))
    (different : other ≠ scid ∨ otherType ≠ type) :
    pending after other otherType = pending before other otherType := by
  funext otherRsn
  simp only [pending, inserted]
  rw [List.count_erase_of_ne]
  rcases different with different | different <;> simp [different]

theorem pending_append {other : UInt32} (otherType : PacketType)
    (inserted : after.inserted = before.inserted ++ [(scid, rsn, type)])
    (different : other ≠ scid ∨ otherType ≠ type) :
    pending after other otherType = pending before other otherType := by
  funext otherRsn
  simp only [pending, inserted, List.count_append, List.count_singleton]
  rw [if_neg, Nat.add_zero]
  simp only [beq_iff_eq, Prod.mk.injEq, not_and]
  rintro rfl - rfl
  rcases different with different | different <;> exact different rfl

theorem pending_append_self (inserted : after.inserted = before.inserted ++ [(scid, rsn, type)]) :
    pending after scid type =
      Function.update (pending before scid type) rsn (pending before scid type rsn + 1) := by
  funext other
  by_cases same : other = rsn
  · subst same
    simp [pending, inserted]
  · rw [Function.update_of_ne same]
    have different : rsn ≠ other := fun equal => same equal.symm
    simp [pending, inserted, different]

theorem requested_consistent {grants requests : UInt32 → Nat}
    (consistent : Consistent connection queues grants requests)
    (unused : connection.transactions ⟨rsn, .initiator⟩ = none)
    (spec : Requested connection rsn type transaction final) :
    Consistent final (fun queueType => queues queueType ++
      joining (isOrdered final) ⟨rsn, type⟩ queueType) grants requests := by
  have idle : Idle queues grants requests ⟨rsn, .initiator⟩ :=
    idle_of_state consistent (by simp [unused])
  have ordered : isOrdered final = isOrdered connection := by
    simp only [isOrdered, spec.orderedMode]
  have keyIs : itemKey ⟨rsn, type⟩ = ⟨rsn, .initiator⟩ := by
    rcases spec.new.request with rfl | rfl | rfl <;> rfl
  refine consistent_of_change consistent (joining (isOrdered final) ⟨rsn, type⟩) idle
    spec.orderedMode spec.transactions (fun _ _ joined => (joining_key joined).trans keyIs)
    (joining_nodup (isOrdered final) ⟨rsn, type⟩) ?_
  have new : NewRequest (isOrdered final) type transaction := by
    rw [ordered]
    exact spec.new
  refine new_request_consistent new ?_ (idle.grants rfl)
  rw [spec.transactions, Function.update_self]

theorem responded_consistent {grants requests : UInt32 → Nat} {old : TransactionMetadata}
    (consistent : Consistent connection queues grants requests)
    (spec : Responded connection rsn old transaction final) :
    Consistent final (fun queueType => queues queueType ++
      joining (isOrdered final) ⟨rsn, .pullData⟩ queueType) grants requests := by
  have idle : Idle queues grants requests ⟨rsn, .target⟩ := by
    refine idle_of_state consistent fun current live => ?_
    rw [spec.live] at live
    cases live
    simp [spec.before, liveStates]
  obtain ⟨packet, present, unsent, eligible⟩ := spec.packet
  refine consistent_of_change consistent (joining (isOrdered final) ⟨rsn, .pullData⟩) idle
    spec.orderedMode spec.transactions (fun _ _ joined => joining_key joined)
    (joining_nodup (isOrdered final) ⟨rsn, .pullData⟩) ?_
  have joined : ∀ queueType item, item ∈ joining (isOrdered final) ⟨rsn, .pullData⟩ queueType →
      queueType = .pullData ∧ item = ⟨rsn, .pullData⟩ := by
    intro queueType item
    cases queueType <;> simp [joining, companion, Host.queueOf]
  constructor
  · intro queueType item member _
    obtain ⟨rfl, rfl⟩ := joined queueType item member
    refine ⟨rfl, transaction, packet, ?_, present, ?_, unsent, by simp [eligible], by simp⟩
    · rw [spec.transactions]
      exact Function.update_self _ _ _
    · simp [waitingStates, expectedState, spec.state]
  · intro side
    cases side
  · intro side
    cases side
  · exact fun _ waits => absurd (idle.requests rfl) waits
  · intro side
    cases side

/-- A packet that arrives leaves its connection consistent. -/
theorem received_consistent {packet : NetworkPacket} {location : TransactionLocation}
    {base : TransactionMetadata}
    (consistent : Consistent connection queues (pending before scid .pushGrant)
      (pending before scid .pushRequest)) (unused : beginsTransaction packet.type = true →
      connection.transactions ⟨packet.rsn, .target⟩ = none)
    (arrived : Arrived connection packet location base transaction final)
    (inserted : after.inserted = before.inserted ++ [(scid, packet.rsn, packet.type)]) :
    Consistent final queues (pending after scid .pushGrant) (pending after scid .pushRequest) := by
  obtain ⟨side, emplaced, step, sameType, length, others, rfl⟩ := arrived
  -- only requests and grants are looked at again
  have quiet : packet.type ≠ .pushGrant → packet.type ≠ .pushRequest →
      Consistent (connection.setTransaction ⟨packet.rsn, location⟩ transaction) queues
        (pending before scid .pushGrant) (pending before scid .pushRequest) →
      Consistent (connection.setTransaction ⟨packet.rsn, location⟩ transaction) queues
        (pending after scid .pushGrant) (pending after scid .pushRequest) := by
    intro grant request kept
    rwa [pending_append _ inserted (.inr grant.symm), pending_append _ inserted (.inr request.symm)]
  have begun : location = .target → connection.transactions ⟨packet.rsn, .target⟩ = none →
      Consistent (connection.setTransaction ⟨packet.rsn, location⟩ transaction) queues
        (pending before scid .pushGrant) (pending before scid .pushRequest) := by
    rintro rfl fresh
    exact consistent_of_update consistent (idle_of_state consistent (by simp [fresh])) rfl rfl
      (by simp)
  have moved : connection.getTransaction ⟨packet.rsn, location⟩ = .ok base →
      base.state ∉ liveStates location → transaction.state ≠ .pushSolicitedReqUlpRx ∧
        transaction.state ≠ .pushReqNtwkTx →
      Consistent (connection.setTransaction ⟨packet.rsn, location⟩ transaction) queues
        (pending before scid .pushGrant) (pending before scid .pushRequest) := by
    intro live past settled
    refine consistent_of_update consistent (idle_of_state consistent ?_) rfl rfl ?_
    · intro current found
      rw [get_transaction_eq_ok.1 live] at found
      cases found
      exact past
    · intro _ current found
      cases found
      exact settled
  obtain ⟨type, rsn, requestLength, payloadLength⟩ := packet
  dsimp only at *
  cases type with
  | pullRequest =>
    exact quiet (by simp) (by simp)
      (begun (Except.ok.inj side).symm (unused (by simp [beginsTransaction])))
  | pushRequest =>
    cases side
    have fresh := unused (by simp [beginsTransaction])
    simp only [emplaceTransaction, fresh, Option.getD_none] at emplaced
    cases emplaced
    rw [pending_append _ inserted (.inr (by simp))]
    refine request_arrived_consistent consistent fresh (Except.ok.inj step).symm ?_
      (pending_append_self inserted)
    rw [others _ (by simp), create_packet_self]
  | pushUnsolicitedData =>
    exact quiet (by simp) (by simp)
      (begun (Except.ok.inj side).symm (unused (by simp [beginsTransaction])))
  | pullData =>
    cases side
    obtain ⟨was, now⟩ := expect_eq_ok.1 step
    simp at was
    exact quiet (by simp) (by simp) (moved emplaced (by simp [was, liveStates]) (by simp [now]))
  | pushGrant =>
    cases side
    obtain ⟨was, now⟩ := expect_eq_ok.1 step
    simp at was
    rw [pending_append .pushRequest inserted (.inr (by simp))]
    exact grant_arrived_consistent consistent (get_transaction_eq_ok.1 emplaced) was now others
      (pending_append_self inserted)
  | pushSolicitedData =>
    cases side
    obtain ⟨was, now⟩ := expect_eq_ok.1 step
    simp at was
    exact quiet (by simp) (by simp) (moved emplaced (by simp [was, liveStates]) (by simp [now]))
  | resync => cases side
  | ack => cases side
  | nack => cases side
  | back => cases side
  | eack => cases side
  | invalid => cases side

theorem fresh_append (inserted : after.inserted = before.inserted ++ [(scid, rsn, type)]) :
    ∀ entry ∈ after.inserted, entry ∈ before.inserted ∨ entry.1 = scid := by
  intro entry member
  rw [inserted, List.mem_append, List.mem_singleton] at member
  exact member.imp_right fun same => by rw [same]

theorem fresh_erase (inserted : after.inserted = before.inserted.erase (scid, rsn, type)) :
    ∀ entry ∈ after.inserted, entry ∈ before.inserted ∨ entry.1 = scid := by
  intro entry member
  rw [inserted] at member
  exact .inl (List.mem_of_mem_erase member)

theorem pending_of_inserted (inserted : after.inserted = before.inserted) :
    pending after = pending before := by
  funext scid type rsn
  rw [pending, pending, inserted]

theorem fresh_of_inserted (scid : UInt32) (inserted : after.inserted = before.inserted) :
    ∀ entry ∈ after.inserted, entry ∈ before.inserted ∨ entry.1 = scid := by
  intro entry member
  exact .inl (inserted ▸ member)

theorem rel_some {Value : Type} {relation : Value → Value → Prop} {first : Option Value}
    {second : Value} (related : Option.Rel relation first (some second)) :
    ∃ value, first = some value ∧ relation value second := by
  cases first with
  | none => cases related
  | some value =>
    cases related with
    | some holds => exact ⟨value, rfl, holds⟩

theorem quiet_consistent (consistent : SystemConsistent before)
    (connections : ∀ scid, Option.Rel SameTransactions (before.host.connections scid)
      (after.host.connections scid))
    (packets : SamePackets before.host.scheduler after.host.scheduler)
    (inserted : after.inserted = before.inserted) : SystemConsistent after := by
  have same : ∀ scid, (after.host.connections scid).isSome =
      (before.host.connections scid).isSome := by
    intro scid
    have related := connections scid
    generalize before.host.connections scid = old, after.host.connections scid = new at related ⊢
    cases related <;> rfl
  constructor
  · intro scid
    rw [packets.queues, same, consistent.known]
  · intro entry member
    rw [same]
    exact consistent.inserted entry (inserted ▸ member)
  · intro scid connection live
    have related := connections scid
    rw [live] at related
    obtain ⟨old, was, transactions⟩ := rel_some related
    rw [packets.queue, pending_of_inserted inserted]
    exact consistent_of_same transactions (consistent.each scid old was)

/-! ### Which connection a step concerns -/

theorem connected_only_at (spec : Connected before.host after.host scid connection)
    (inserted : after.inserted = before.inserted) : OnlyAt before after scid connection := by
  refine ⟨spec.connections, ?_, ?_, ?_, fresh_of_inserted scid inserted⟩
  · intro other
    rw [spec.queues]
    by_cases same : other = scid
    · subst same
      simp
    · simp [same]
  · intro other different
    funext queueType
    simp [Scheduler.queue, spec.queues, different]
  · intro other _ rsn type _
    rw [pending_of_inserted inserted]

theorem enqueued_only_at
    (enqueued : Enqueued (before.host.setConnection scid final) after.host scid final item)
    (inserted : after.inserted = before.inserted) : OnlyAt before after scid final :=
  Enqueued.only_at enqueued rfl rfl (fun _ _ _ _ _ => by rw [pending_of_inserted inserted])
    (fresh_of_inserted scid inserted)

theorem received_only_at (consistent : SystemConsistent before) {packet : NetworkPacket}
    {location : TransactionLocation} {base : TransactionMetadata}
    (spec : Received before.host after.host scid connection packet location base transaction)
    (connections : after.host.connections =
      Function.update before.host.connections scid (some final))
    (inserted : after.inserted = before.inserted ++ [(scid, packet.rsn, packet.type)]) :
    OnlyAt before after scid final := by
  refine ⟨connections, known_of_same (by rw [spec.scheduler]) ?_, ?_, ?_, fresh_append inserted⟩
  · rw [consistent.known, is_some_of_found spec.found]
  · intro other _
    rw [spec.scheduler]
  · intro other different otherRsn type _
    rw [pending_append _ inserted (.inl different)]

theorem progressed_only_at (consistent : SystemConsistent before) {old : TransactionMetadata}
    {value : Option TransactionMetadata} {refunded : Bool}
    (spec : Progressed before.host after.host scid connection key old value refunded)
    (inserted : SamePending scid before.inserted after.inserted) :
    OnlyAt before after scid
      { connection with transactions := Function.update connection.transactions key value } := by
  refine ⟨spec.connections, known_of_same (by rw [spec.scheduler]) ?_, ?_, ?_, inserted.fresh⟩
  · rw [consistent.known, is_some_of_found spec.found]
  · intro other _
    rw [spec.scheduler]
  · exact fun other _ otherRsn type answers => inserted.count other otherRsn type answers

theorem answered_only_at {next : PacketType}
    (enqueued : Enqueued before.host after.host scid connection ⟨rsn, next⟩)
    (inserted : after.inserted = before.inserted.erase (scid, rsn, type)) :
    OnlyAt before after scid connection := by
  refine ⟨?_, enqueued.known, ?_, ?_, fresh_erase inserted⟩
  · rw [enqueued.connections, ← enqueued.found, Function.update_eq_self]
  · intro other different
    funext queueType
    rw [enqueued.queue, if_neg different]
  · intro other different otherRsn otherType _
    rw [pending_erase_other _ inserted (.inl different)]

theorem made_eligible_only_at (consistent : SystemConsistent before) {packet : PacketMetadata}
    (spec : MadeEligible before.host after.host scid connection key transaction packet)
    (inserted : after.inserted = before.inserted.erase (scid, rsn, .pushGrant)) :
    OnlyAt before after scid (connection.setTransaction key
      (transaction.createPacket .pushSolicitedData
        { packet with isTransmissionEligible := true })) := by
  refine ⟨spec.connections, known_of_same spec.packets.queues ?_, ?_, ?_, fresh_erase inserted⟩
  · exact (consistent.known scid).trans (is_some_of_found spec.found)
  · intro other _
    rw [spec.packets.queue]
    rfl
  · intro other different otherRsn otherType _
    rw [pending_erase_other _ inserted (.inl different)]

theorem retransmitted_only_at (consistent : SystemConsistent before) {packet : PacketMetadata}
    (spec : Retransmitted before.host after.host scid item connection key transaction packet final)
    (inserted : after.inserted = before.inserted) : OnlyAt before after scid final := by
  refine ⟨spec.connections, known_of_same spec.packets.queues ?_,
    fun _ _ => by rw [spec.packets.queue], fun _ _ _ _ _ => by rw [pending_of_inserted inserted],
    fresh_of_inserted scid inserted⟩
  rw [consistent.known, is_some_of_found spec.found]

/-- The head of a queue of the connection left. -/
theorem popped_only_at (connections : after.host.connections =
      Function.update before.host.connections scid (some final))
    (packets : SamePackets ((before.host.scheduler.countDequeued queueType).setQueue scid queueType
      rest) after.host.scheduler) (inserted : after.inserted = before.inserted) :
    OnlyAt before after scid final :=
  ⟨connections, known_of_packets packets, fun _ different => queue_elsewhere packets different,
    fun _ _ _ _ _ => by rw [pending_of_inserted inserted], fresh_of_inserted scid inserted⟩

/-- The queues of a connection after a packet was enqueued. -/
theorem queue_of_enqueued {base host : Host} (enqueued : Enqueued base host scid connection item) :
    host.scheduler.queue scid = fun queueType => base.scheduler.queue scid queueType ++
      joining (isOrdered connection) item queueType := by
  funext queueType
  rw [enqueued.queue, if_pos rfl]
  rfl

theorem connected_consistent (consistent : SystemConsistent before)
    (spec : Connected before.host after.host scid connection)
    (inserted : after.inserted = before.inserted) : SystemConsistent after := by
  have none_ : ∀ type rsn, pending after scid type rsn = 0 := by
    intro type rsn
    rw [pending, inserted, List.count_eq_zero]
    intro member
    have known := consistent.inserted _ member
    rw [spec.fresh] at known
    cases known
  refine system_consistent_of_local consistent (connected_only_at spec inserted) ?_
  have empty : ∀ queueType, after.host.scheduler.queue scid queueType = [] := by
    intro queueType
    simp [Scheduler.queue, spec.queues]
  refine ⟨fun queueType => by simp [empty], fun key => ⟨?_, ?_, ?_, ?_, ?_⟩⟩
  · simp [empty]
  · simp [spec.empty]
  · intro _ waits
    exact absurd (none_ _ _) waits
  · intro _ waits
    exact absurd (none_ _ _) waits
  · simp [empty]

/-- Every step keeps the queues and the transactions consistent. -/
theorem system_consistent_step (consistent : SystemConsistent before)
    (effect : Effect before after) : SystemConsistent after := by
  cases effect with
  | quiet connections packets admission threshold network inserted history =>
    exact quiet_consistent consistent connections packets inserted
  | connected spec inserted history => exact connected_consistent consistent spec inserted
  | requested found unused pull solicited spec enqueued inserted history =>
    refine system_consistent_of_local consistent (enqueued_only_at enqueued inserted) ?_
    rw [pending_of_inserted inserted, queue_of_enqueued enqueued]
    exact requested_consistent (consistent.each _ _ found) unused spec
  | responded found spec enqueued inserted history =>
    refine system_consistent_of_local consistent (enqueued_only_at enqueued inserted) ?_
    rw [pending_of_inserted inserted, queue_of_enqueued enqueued]
    exact responded_consistent (consistent.each _ _ found) spec
  | received spec inserted history =>
    obtain ⟨final, arrived, connections⟩ := spec.arrived
    refine system_consistent_of_local consistent
      (received_only_at consistent spec connections inserted) ?_
    rw [spec.scheduler]
    exact received_consistent (consistent.each _ _ spec.found) spec.unused arrived inserted
  | progressed spec inserted history =>
    rename_i scid connection key old value refunded
    refine system_consistent_of_local consistent (progressed_only_at consistent spec inserted) ?_
    have grants : pending after scid .pushGrant = pending before scid .pushGrant :=
      funext fun rsn => inserted.count scid rsn .pushGrant (.inr rfl)
    have requests : pending after scid .pushRequest = pending before scid .pushRequest :=
      funext fun rsn => inserted.count scid rsn .pushRequest (.inl rfl)
    rw [spec.scheduler, grants, requests]
    exact progress_consistent (consistent.each scid connection spec.found) spec.live spec.progress
  | answered due answer open_ enqueued inserted history =>
    rename_i scid rsn type next connection
    refine system_consistent_of_local consistent (answered_only_at enqueued inserted) ?_
    have waits : pending before scid type rsn ≠ 0 := (List.count_pos_iff.2 due).ne'
    have each := consistent.each scid connection enqueued.found
    rw [queue_of_enqueued enqueued]
    cases type with
    | pushRequest =>
      cases answer
      rw [pending_erase_other .pushGrant inserted (.inr (by simp))]
      exact grant_joined_consistent each waits (pending_erase_self scid rsn .pushRequest inserted)
    | pushGrant =>
      cases answer
      rw [pending_erase_other .pushRequest inserted (.inr (by simp))]
      refine data_joined_consistent each ?_ waits (pending_erase_self scid rsn .pushGrant inserted)
      simpa [isOrdered] using open_
    | _ => cases answer
  | madeEligible due ordered located spec inserted history =>
    rename_i scid rsn connection key transaction packet
    obtain ⟨⟨location, side, rfl⟩, live, present⟩ := lookup_packet_eq_ok.1 located
    obtain rfl : TransactionLocation.initiator = location := Except.ok.inj side
    refine system_consistent_of_local consistent (made_eligible_only_at consistent spec inserted) ?_
    have waits : pending before scid .pushGrant rsn ≠ 0 := (List.count_pos_iff.2 due).ne'
    rw [pending_erase_other .pushRequest inserted (.inr (by simp)),
      spec.packets.queue]
    exact granted_consistent (consistent.each scid connection spec.found) waits live present
      (pending_erase_self scid rsn .pushGrant inserted)
  | retransmitted spec inserted history =>
    refine system_consistent_of_local consistent
      (retransmitted_only_at consistent spec inserted) ?_
    rw [pending_of_inserted inserted, spec.packets.queue]
    exact retransmitted_consistent (consistent.each _ _ spec.found) spec.located spec.sent
      spec.transmitted
  | sent spec inserted history =>
    refine system_consistent_of_local consistent
      (popped_only_at spec.connections spec.packets inserted) ?_
    rw [pending_of_inserted inserted, queue_of_packets spec.packets]
    exact sent_consistent (consistent.each _ _ spec.found) spec.head spec.real spec.located
      spec.eligible spec.transmitted
  | phantom spec inserted history =>
    refine system_consistent_of_local consistent
      (popped_only_at spec.connections spec.packets inserted) ?_
    rw [pending_of_inserted inserted, queue_of_packets spec.packets]
    exact phantom_consistent (consistent.each _ _ spec.found) spec.head spec.phantom spec.located

end Step

theorem system_consistent_initial {system : System} (initial : Initial system) :
    SystemConsistent system := by
  constructor
  · intro scid
    rw [initial.scheduler, initial.connections]
    rfl
  · intro entry member
    rw [initial.inserted] at member
    cases member
  · intro scid connection live
    rw [initial.connections] at live
    cases live

/-- In every reachable state, the queues fit the transactions. -/
theorem reachable_consistent {system : System} (reachable : Reachable system) :
    SystemConsistent system := by
  refine Runs.invariant_of_reachable ?_ ?_ reachable
  · exact fun _ initial => system_consistent_initial initial
  · exact fun _ _ consistent step => system_consistent_step consistent (step_effect step)

end Isekai.SchedulerRunProofs
