import Isekai.SchedulerTransactionProofs

/-! What a step of a host can do, said once: every step either leaves transactions and queues
alone, or does one of a few things to one transaction of one connection. The invariants of runs
are proved from this list and never look at the entry points again. -/

namespace Isekai.SchedulerEffects
open FastConnectionScheduler SchedulerSystem SchedulerFrameProofs SchedulerTransactionProofs
  AdmissionControl

variable {scid : UInt32} {after : Host} {key : TransactionKey} {type : PacketType}
  {transaction : TransactionMetadata}

/-! ## Transactions that move on without the scheduler -/

/-- How the ULP and acks from the network move a transaction on or end it, and whether its bytes
go back to the solicitation window. -/
inductive Progress (old : TransactionMetadata) :
    TransactionLocation → Option TransactionMetadata → Bool → Prop where
  | handed {type : PacketType} {state : TransactionState}
      (data : type = .pullRequest ∨ type = .pushSolicitedData ∨ type = .pushUnsolicitedData)
      (step : old.state.update type .ulpTx = .ok state) :
      Progress old .target (some { old with state := state }) false
  | refused {state : TransactionState}
      (step : old.state.update (ulpPacket old.type) .ulpRnrRx = .ok state) :
      Progress old .target (some { old with state := state }) false
  | accepted {state : TransactionState} (pull : old.type = .pull)
      (step : old.state.update .pullRequest .ulpAckRx = .ok state) :
      Progress old .target (some { old with state := state }) false
  | pushed (push : old.type ≠ .pull)
      (step : ∃ state, old.state.update (ulpPacket old.type) .ulpAckRx = .ok state) :
      Progress old .target none (decide (old.type = .pushSolicited))
  | pulled (step : old.state = .pullDataNtwkRx) : Progress old .initiator none true
  | completed (step : old.state = .pushSolicitedDataAckNtwkRx ∨
      old.state = .pushUnsolicitedDataAckNtwkRx) : Progress old .initiator none false
  | acked {type : PacketType} {location : TransactionLocation} {state : TransactionState}
      (side : getTransactionLocation type false = .ok location)
      (step : old.state.update type .ntwkAckRx = .ok state) :
      Progress old location
        (if type = .pullData then none else some { old with state := state }) false

/-- A transaction of a connection moved on or ended. -/
structure Progressed (before after : Host) (scid : UInt32) (connection : ConnectionState)
    (key : TransactionKey) (old : TransactionMetadata) (value : Option TransactionMetadata)
    (refunded : Bool) : Prop where
  found : before.connections scid = some connection
  live : connection.transactions key = some old
  progress : Progress old key.location value refunded
  connections : after.connections = Function.update before.connections scid
    (some { connection with transactions := Function.update connection.transactions key value })
  scheduler : after.scheduler = before.scheduler
  admission : if refunded then before.admission.refundAdmissionControlResource
      old.requestLength.toUInt64 (old.type = .pushUnsolicited) = .ok after.admission
    else after.admission = before.admission
  settings : SameSettings before after
  network : after.network = before.network

theorem Progressed.of_set {host : Host} {connection : ConnectionState} {old : TransactionMetadata}
    {value : Option TransactionMetadata} (found : host.connections scid = some connection)
    (live : connection.transactions key = some old)
    (progress : Progress old key.location value false) :
    Progressed host (host.setConnection scid { connection with
      transactions := Function.update connection.transactions key value })
      scid connection key old value false :=
  ⟨found, live, progress, rfl, rfl, rfl, ⟨rfl, rfl, rfl, rfl⟩, rfl⟩

theorem update_transaction_eq_ok {host : Host} {stage : TransactionStage}
    (done : updateTransaction host scid key type stage = .ok (transaction, after)) :
    ∃ connection old state, host.connections scid = some connection ∧
      connection.transactions key = some old ∧ old.state.update type stage = .ok state ∧
      transaction = { old with state := state } ∧
      after = host.setConnection scid (connection.setTransaction key transaction) := by
  obtain ⟨connection, found, done⟩ := bind_eq_ok.1 done
  obtain ⟨old, live, done⟩ := bind_eq_ok.1 done
  obtain ⟨moved, updated, final⟩ := bind_eq_ok.1 done
  obtain ⟨state, step, rfl⟩ := update_state_eq_ok.1 updated
  cases final
  exact ⟨connection, old, state, lookup_eq_ok.1 found, get_transaction_eq_ok.1 live, step, rfl, rfl⟩

/-- Ending a transaction right after it moved on. -/
theorem erase_set_eq_ok (host : Host) (connection : ConnectionState)
    (done : erase (host.setConnection scid (connection.setTransaction key transaction)) scid key =
      .ok after) :
    after = host.setConnection scid
      { connection with transactions := Function.update connection.transactions key none } := by
  obtain ⟨current, found, final⟩ := bind_eq_ok.1 done
  rw [lookup_set_connection] at found
  cases found
  cases final
  rw [set_connection_set]
  simp [eraseTransaction, ConnectionState.setTransaction]

theorem refund_eq_ok {host : Host} (done : refund host transaction = .ok after) :
    ∃ admission, host.admission.refundAdmissionControlResource
      transaction.requestLength.toUInt64 (transaction.type = .pushUnsolicited) = .ok admission ∧
      after = { host with admission := admission } := by
  obtain ⟨admission, refunded, final⟩ := bind_eq_ok.1 done
  cases final
  exact ⟨admission, refunded, rfl⟩

section Operations
variable {host after : Host} {scid rsn : UInt32} {type : PacketType}

theorem ack_transaction_spec (done : ackTransaction host scid rsn = .ok after) :
    ∃ connection old value refunded,
      Progressed host after scid connection ⟨rsn, .target⟩ old value refunded := by
  obtain ⟨connection, found, done⟩ := bind_eq_ok.1 done
  obtain ⟨old, live, done⟩ := bind_eq_ok.1 done
  obtain ⟨⟨transaction, middle⟩, updated, done⟩ := bind_eq_ok.1 done
  obtain ⟨_, _, state, foundAgain, liveAgain, step, rfl, rfl⟩ := update_transaction_eq_ok updated
  rw [lookup_eq_ok, foundAgain] at found
  cases found
  rw [get_transaction_eq_ok, liveAgain] at live
  cases live
  dsimp only at done
  split at done
  · rename_i pull
    cases done
    refine ⟨connection, old, some { old with state := state }, false,
      .of_set foundAgain liveAgain (.accepted pull ?_)⟩
    rw [pull] at step
    exact step
  · rename_i solicited
    obtain ⟨paid, refunded, erased⟩ := bind_eq_ok.1 done
    obtain ⟨admission, enough, rfl⟩ := refund_eq_ok refunded
    have final := erase_set_eq_ok { host with admission := admission } connection erased
    subst final
    refine ⟨connection, old, none, true, foundAgain, liveAgain, ?_, rfl, rfl, enough,
      ⟨rfl, rfl, rfl, rfl⟩, rfl⟩
    have pushed : Progress old .target none (decide (old.type = .pushSolicited)) :=
      .pushed (by rw [solicited]; simp) ⟨state, step⟩
    simpa [solicited] using pushed
  · rename_i unsolicited
    rw [erase_set_eq_ok host connection done]
    refine ⟨connection, old, none, false, .of_set foundAgain liveAgain ?_⟩
    have pushed : Progress old .target none (decide (old.type = .pushSolicited)) :=
      .pushed (by rw [unsolicited]; simp) ⟨state, step⟩
    simpa [unsolicited] using pushed

theorem rnr_nack_transaction_spec (done : rnrNackTransaction host scid rsn = .ok (type, after)) :
    (type = .pullRequest ∨ type = .pushSolicitedData ∨ type = .pushUnsolicitedData) ∧
      ∃ connection old value refunded,
        Progressed host after scid connection ⟨rsn, .target⟩ old value refunded := by
  obtain ⟨connection, found, done⟩ := bind_eq_ok.1 done
  obtain ⟨old, live, done⟩ := bind_eq_ok.1 done
  obtain ⟨⟨transaction, middle⟩, updated, final⟩ := bind_eq_ok.1 done
  cases final
  obtain ⟨_, _, state, foundAgain, liveAgain, step, rfl, rfl⟩ := update_transaction_eq_ok updated
  rw [lookup_eq_ok, foundAgain] at found
  cases found
  rw [get_transaction_eq_ok, liveAgain] at live
  cases live
  refine ⟨?_, connection, old, _, false, .of_set foundAgain liveAgain (.refused step)⟩
  cases old.type <;> simp [ulpPacket]

theorem ack_from_network_spec (done : ackFromNetwork host scid rsn type = .ok after) :
    ∃ connection key old value refunded,
      Progressed host after scid connection key old value refunded := by
  obtain ⟨location, side, done⟩ := bind_eq_ok.1 done
  obtain ⟨⟨transaction, middle⟩, updated, done⟩ := bind_eq_ok.1 done
  obtain ⟨connection, old, state, found, live, step, rfl, rfl⟩ := update_transaction_eq_ok updated
  dsimp only at done
  have progress := Progress.acked side step
  split at done
  · rename_i data
    rw [if_pos data] at progress
    rw [erase_set_eq_ok host connection done]
    exact ⟨connection, ⟨rsn, location⟩, old, none, false, .of_set found live progress⟩
  · rename_i other
    rw [if_neg other] at progress
    cases done
    exact ⟨connection, ⟨rsn, location⟩, old, _, false, .of_set found live progress⟩

/-- The kinds of callbacks. -/
inductive CalledBack (host after : Host) (scid rsn : UInt32) (type : PacketType) : Prop where
  | progressed {connection : ConnectionState} {location : TransactionLocation}
      {old : TransactionMetadata} {value : Option TransactionMetadata} {refunded : Bool}
      (kind : type ≠ .pushRequest ∧ type ≠ .pushGrant)
      (spec : Progressed host after scid connection ⟨rsn, location⟩ old value refunded)
  | answered {next : PacketType} (answer : getNextFalconPacket type = .ok next)
      (done : host.enqueuePacket scid rsn next = .ok after)

theorem handed_spec
    (data : type = .pullRequest ∨ type = .pushSolicitedData ∨ type = .pushUnsolicitedData)
    (done : reorderCallback host scid rsn type = .ok after) :
    CalledBack host after scid rsn type := by
  rcases data with rfl | rfl | rfl
  all_goals
    obtain ⟨⟨transaction, middle⟩, updated, done⟩ := bind_eq_ok.1 done
    obtain ⟨packet, -, final⟩ := bind_eq_ok.1 done
    obtain ⟨connection, old, state, found, live, step, rfl, rfl⟩ := update_transaction_eq_ok updated
    cases final
    exact .progressed (by simp) (.of_set found live (.handed (by simp) step))

theorem reorder_callback_spec (done : reorderCallback host scid rsn type = .ok after) :
    CalledBack host after scid rsn type := by
  cases type with
  | pullRequest => exact handed_spec (by simp) done
  | pushSolicitedData => exact handed_spec (by simp) done
  | pushUnsolicitedData => exact handed_spec (by simp) done
  | pullData =>
    obtain ⟨⟨transaction, middle⟩, updated, done⟩ := bind_eq_ok.1 done
    obtain ⟨packet, -, done⟩ := bind_eq_ok.1 done
    obtain ⟨paid, refunded, erased⟩ := bind_eq_ok.1 done
    obtain ⟨connection, old, state, found, live, step, rfl, rfl⟩ := update_transaction_eq_ok updated
    obtain ⟨admission, enough, rfl⟩ := refund_eq_ok refunded
    obtain rfl := erase_set_eq_ok { host with admission := admission } connection erased
    have arrived := (expect_eq_ok.1 step).1
    exact .progressed (by simp) ⟨found, live, .pulled (by simpa using arrived), rfl, rfl, enough,
      ⟨rfl, rfl, rfl, rfl⟩, rfl⟩
  | pushRequest =>
    obtain ⟨next, answer, done⟩ := bind_eq_ok.1 done
    obtain ⟨location, -, done⟩ := bind_eq_ok.1 done
    obtain ⟨connection, -, done⟩ := bind_eq_ok.1 done
    obtain ⟨transaction, -, done⟩ := bind_eq_ok.1 done
    obtain ⟨packet, -, done⟩ := bind_eq_ok.1 done
    exact .answered answer done
  | pushGrant =>
    obtain ⟨next, answer, done⟩ := bind_eq_ok.1 done
    obtain ⟨location, -, done⟩ := bind_eq_ok.1 done
    obtain ⟨connection, -, done⟩ := bind_eq_ok.1 done
    obtain ⟨transaction, -, done⟩ := bind_eq_ok.1 done
    obtain ⟨packet, -, done⟩ := bind_eq_ok.1 done
    exact .answered answer done
  | ack =>
    obtain ⟨connection, found, done⟩ := bind_eq_ok.1 done
    obtain ⟨transaction, live, done⟩ := bind_eq_ok.1 done
    dsimp only at done
    split at done
    · obtain ⟨⟨transaction, middle⟩, updated, erased⟩ := bind_eq_ok.1 done
      obtain ⟨connection, old, state, found, live, step, rfl, rfl⟩ :=
        update_transaction_eq_ok updated
      have acked := (expect_eq_ok.1 step).1
      rw [erase_set_eq_ok host connection erased]
      exact .progressed (by simp) (.of_set found live (.completed (.inl (by simpa using acked))))
    · obtain ⟨⟨transaction, middle⟩, updated, erased⟩ := bind_eq_ok.1 done
      obtain ⟨connection, old, state, found, live, step, rfl, rfl⟩ :=
        update_transaction_eq_ok updated
      have acked := (expect_eq_ok.1 step).1
      rw [erase_set_eq_ok host connection erased]
      exact .progressed (by simp) (.of_set found live (.completed (.inr (by simpa using acked))))
    · cases done
  | resync => cases done
  | nack => cases done
  | back => cases done
  | eack => cases done
  | invalid => cases done

end Operations

/-! ## Effects of steps -/

theorem MadeEligible.of_core {before middle : Host} {connection : ConnectionState}
    {packet : PacketMetadata}
    (made : MadeEligible before middle scid connection key transaction packet)
    (core : SameCore middle after) :
    MadeEligible before after scid connection key transaction packet :=
  ⟨made.found, core.connections.trans made.connections, made.packets.trans core.packets,
    made.admission.trans (made.settings.now ▸ core.admission), made.settings.trans core.settings,
    core.network.trans made.network⟩

/-- `EnqueuePacket` makes parked data eligible, or adds the packet's work items. -/
theorem enqueue_packet_spec {before : Host} {rsn : UInt32}
    (done : before.enqueuePacket scid rsn type = .ok after) :
    ∃ connection, before.connections scid = some connection ∧
      ((connection.orderedMode = .ordered ∧ type = .pushSolicitedData ∧
        ∃ key transaction packet,
          connection.lookupPacket rsn type = .ok (key, transaction, packet) ∧
          MadeEligible before after scid connection key transaction packet) ∨
      (¬(connection.orderedMode = .ordered ∧ type = .pushSolicitedData) ∧
        Enqueued before after scid connection ⟨rsn, type⟩)) := by
  obtain ⟨middle, added, recomputed⟩ := bind_eq_ok.1 done
  have core := recompute_core recomputed
  obtain ⟨connection, found, spec⟩ := add_packet_spec added
  refine ⟨connection, found, ?_⟩
  rcases spec with ⟨ordered, data, key, transaction, packet, located, made⟩ | ⟨other, enqueued⟩
  · exact .inl ⟨ordered, data, key, transaction, packet, located, MadeEligible.of_core made core⟩
  · exact .inr ⟨other, enqueued.of_core core⟩

/-- The entries of the reorder engine that the scheduler is answered from. -/
def answered (type : PacketType) : Prop := type = .pushRequest ∨ type = .pushGrant

/-- The reorder engine holds the same push requests and grants, and nothing new of other
connections. -/
structure SamePending (scid : UInt32) (before after : List (UInt32 × UInt32 × PacketType)) :
    Prop where
  count : ∀ other rsn type, answered type →
    after.count (other, rsn, type) = before.count (other, rsn, type)
  fresh : ∀ entry ∈ after, entry ∈ before ∨ entry.1 = scid

/-- A new connection. -/
structure Connected (before after : Host) (scid : UInt32) (connection : ConnectionState) :
    Prop where
  fresh : before.connections scid = none
  empty : connection.transactions = fun _ => none
  nextRsn : connection.nextRequestSequenceNumber = 0
  connections : after.connections = Function.update before.connections scid (some connection)
  unknown : before.scheduler.connectionQueues scid = none
  queues : after.scheduler.connectionQueues =
    Function.update before.scheduler.connectionQueues scid (some fun _ => [])
  counts : after.scheduler.packetQueueWisePktCount = before.scheduler.packetQueueWisePktCount
  admission : after.admission = before.admission
  settings : SameSettings before after
  network : after.network = before.network

/-- A packet from the network was taken in. -/
structure Received (before after : Host) (scid : UInt32) (connection : ConnectionState)
    (packet : NetworkPacket) (location : TransactionLocation)
    (base transaction : TransactionMetadata) : Prop where
  found : before.connections scid = some connection
  unused : beginsTransaction packet.type = true →
    connection.transactions ⟨packet.rsn, .target⟩ = none
  arrived : ∃ final, Arrived connection packet location base transaction final ∧
    after.connections = Function.update before.connections scid (some final)
  scheduler : after.scheduler = before.scheduler
  admission : after.admission = before.admission
  settings : SameSettings before after
  network : after.network = before.network

/-- A packet was sent again. -/
structure Retransmitted (before after : Host) (scid : UInt32) (item : WorkId)
    (connection : ConnectionState) (key : TransactionKey) (transaction : TransactionMetadata)
    (packet : PacketMetadata) (final : ConnectionState) : Prop where
  found : before.connections scid = some connection
  located : connection.lookupPacket item.rsn item.type = .ok (key, transaction, packet)
  sent : packet.transmitAttempts ≠ 0
  transmitted : Transmitted connection item key transaction packet final
  connections : after.connections = Function.update before.connections scid (some final)
  packets : SamePackets before.scheduler after.scheduler
  admission : before.admission.Agrees before.now after.admission
  settings : SameSettings before after
  network : after.network = before.network ++ [(scid, item)]

/-- What a step does. -/
inductive Effect (before after : System) : Prop where
  | quiet
      (connections : ∀ scid, Option.Rel SameTransactions (before.host.connections scid)
        (after.host.connections scid))
      (packets : SamePackets before.host.scheduler after.host.scheduler)
      (admission : before.host.admission.Agrees before.host.now after.host.admission)
      (threshold : after.host.thresholdSolicit = before.host.thresholdSolicit)
      (network : after.host.network = before.host.network)
      (inserted : after.inserted = before.inserted) (history : after.history = before.history)
  | connected {scid : UInt32} {connection : ConnectionState}
      (spec : Connected before.host after.host scid connection)
      (inserted : after.inserted = before.inserted) (history : after.history = before.history)
  | requested {scid rsn : UInt32} {connection final : ConnectionState} {kind : RequestKind}
      {type : PacketType} {transaction : TransactionMetadata}
      (found : before.host.connections scid = some connection)
      (unused : connection.transactions ⟨rsn, .initiator⟩ = none)
      (pull : kind = .pull ↔ type = .pullRequest)
      (solicited : kind = .solicitedPush ↔ type = .pushRequest)
      (spec : Requested connection rsn type transaction final)
      (enqueued : Enqueued (before.host.setConnection scid final) after.host scid final ⟨rsn, type⟩)
      (inserted : after.inserted = before.inserted)
      (history : after.history =
        Function.update before.history scid ((before.history scid).submit rsn (some kind)))
  | responded {scid rsn : UInt32} {connection final : ConnectionState}
      {old transaction : TransactionMetadata}
      (found : before.host.connections scid = some connection)
      (spec : Responded connection rsn old transaction final)
      (enqueued : Enqueued (before.host.setConnection scid final) after.host scid final
        ⟨rsn, .pullData⟩)
      (inserted : after.inserted = before.inserted) (history : after.history = before.history)
  | received {scid : UInt32} {packet : NetworkPacket} {connection : ConnectionState}
      {location : TransactionLocation} {base transaction : TransactionMetadata}
      (spec : Received before.host after.host scid connection packet location base transaction)
      (inserted : after.inserted = before.inserted ++ [(scid, packet.rsn, packet.type)])
      (history : after.history = if packet.type = .pushGrant then
        Function.update before.history scid ((before.history scid).record
          (.granted ((before.history scid).number packet.rsn)))
        else before.history)
  | progressed {scid : UInt32} {connection : ConnectionState} {key : TransactionKey}
      {old : TransactionMetadata} {value : Option TransactionMetadata} {refunded : Bool}
      (spec : Progressed before.host after.host scid connection key old value refunded)
      (inserted : SamePending scid before.inserted after.inserted)
      (history : after.history = before.history)
  | answered {scid rsn : UInt32} {type next : PacketType} {connection : ConnectionState}
      (due : (scid, rsn, type) ∈ before.inserted) (answer : getNextFalconPacket type = .ok next)
      (open_ : ¬(connection.orderedMode = .ordered ∧ next = .pushSolicitedData))
      (enqueued : Enqueued before.host after.host scid connection ⟨rsn, next⟩)
      (inserted : after.inserted = before.inserted.erase (scid, rsn, type))
      (history : after.history = before.history)
  | madeEligible {scid rsn : UInt32} {connection : ConnectionState} {key : TransactionKey}
      {transaction : TransactionMetadata} {packet : PacketMetadata}
      (due : (scid, rsn, .pushGrant) ∈ before.inserted)
      (ordered : connection.orderedMode = .ordered)
      (located : connection.lookupPacket rsn .pushSolicitedData = .ok (key, transaction, packet))
      (spec : MadeEligible before.host after.host scid connection key transaction packet)
      (inserted : after.inserted = before.inserted.erase (scid, rsn, .pushGrant))
      (history : after.history = before.history)
  | retransmitted {scid : UInt32} {connection final : ConnectionState} {item : WorkId}
      {key : TransactionKey} {transaction : TransactionMetadata} {packet : PacketMetadata}
      (spec : Retransmitted before.host after.host scid item connection key transaction packet
        final)
      (inserted : after.inserted = before.inserted) (history : after.history = before.history)
  | sent {scid : UInt32} {queueType : PacketTypeQueue} {item : WorkId}
      {connection final : ConnectionState} {key : TransactionKey}
      {transaction : TransactionMetadata} {packet : PacketMetadata} {rest : List WorkId}
      (spec : Sent before.host after.host scid queueType item connection key transaction packet
        final rest)
      (inserted : after.inserted = before.inserted)
      (history : after.history = Function.update before.history scid
        ((before.history scid).record
          (.transmitted ((before.history scid).number item.rsn) item.type)))
  | phantom {scid : UInt32} {queueType : PacketTypeQueue} {item : WorkId}
      {connection : ConnectionState} {key : TransactionKey} {transaction : TransactionMetadata}
      {packet : PacketMetadata} {rest : List WorkId}
      (spec : PhantomHandled before.host after.host scid queueType item connection key transaction
        packet rest)
      (inserted : after.inserted = before.inserted) (history : after.history = before.history)

theorem set_policies_packets {types : List PacketTypeQueue} {before after : Scheduler}
    (done : types.foldlM (fun (scheduler : Scheduler) queueType => do
      let policy ← checked ((scheduler.connectionPolicy queueType).initializeEntity
        WeightedRoundRobin.equalWeights scid)
      return scheduler.setConnectionPolicy queueType policy) before = .ok after) :
    SamePackets before after := by
  induction types generalizing before with
  | nil =>
    cases done
    exact .refl _
  | cons queueType rest ih =>
    obtain ⟨middle, one, done⟩ := bind_eq_ok.1 done
    obtain ⟨policy, -, final⟩ := bind_eq_ok.1 one
    cases final
    have first : SamePackets before (before.setConnectionPolicy queueType policy) := ⟨rfl, rfl⟩
    exact first.trans (ih done)

theorem init_queues_spec {before after : Scheduler}
    (done : before.initConnectionSchedulerQueues scid = .ok after) :
    before.connectionQueues scid = none ∧
      after.connectionQueues = Function.update before.connectionQueues scid (some fun _ => []) ∧
      after.packetQueueWisePktCount = before.packetQueueWisePktCount := by
  unfold Scheduler.initConnectionSchedulerQueues at done
  split at done
  · cases done
  · rename_i unknown
    obtain ⟨middle, set, done⟩ := bind_eq_ok.1 done
    obtain ⟨ordered, -, done⟩ := bind_eq_ok.1 done
    obtain ⟨phantom, -, final⟩ := bind_eq_ok.1 done
    cases final
    have same := set_policies_packets set
    exact ⟨unknown, same.queues, same.counts⟩

theorem SamePending.refl (scid : UInt32) (pending : List (UInt32 × UInt32 × PacketType)) :
    SamePending scid pending pending :=
  ⟨fun _ _ _ _ => rfl, fun _ member => .inl member⟩

theorem SamePending.append (scid rsn : UInt32) (other : ¬answered type)
    (pending : List (UInt32 × UInt32 × PacketType)) :
    SamePending scid pending (pending ++ [(scid, rsn, type)]) := by
  constructor
  · intro otherScid otherRsn otherType answers
    rw [List.count_append, List.count_singleton, if_neg, Nat.add_zero]
    simp only [beq_iff_eq, Prod.mk.injEq, not_and]
    rintro - - rfl
    exact other answers
  · intro entry member
    rcases List.mem_append.1 member with old | new
    · exact .inl old
    · rw [List.mem_singleton] at new
      exact .inr (by rw [new])

theorem SamePending.erase (scid rsn : UInt32) (other : ¬answered type)
    (pending : List (UInt32 × UInt32 × PacketType)) :
    SamePending scid pending (pending.erase (scid, rsn, type)) := by
  constructor
  · intro otherScid otherRsn otherType answers
    rw [List.count_erase_of_ne]
    simp only [ne_eq, Prod.mk.injEq, not_and]
    rintro - - rfl
    exact other answers
  · exact fun entry member => .inl (List.mem_of_mem_erase member)

theorem option_rel_refl {connections : UInt32 → Option ConnectionState} (scid : UInt32) :
    Option.Rel SameTransactions (connections scid) (connections scid) := by
  cases connections scid with
  | none => exact .none
  | some current => exact .some (.refl _)

/-- Every step does one of the things on the list. -/
theorem step_effect {before after : System} (step : Step before after) : Effect before after := by
  cases step with
  | connect scid mode congestionControl scheduler fresh done established =>
    subst established
    obtain ⟨unknown, queues, counts⟩ := init_queues_spec done
    exact .connected ⟨fresh, rfl, rfl, rfl, unknown, queues, counts, rfl, ⟨rfl, rfl, rfl, rfl⟩, rfl⟩
      rfl rfl
  | submit scid op known unused done =>
    rename_i host connection
    obtain ⟨current, found, done⟩ := bind_eq_ok.1 done
    rw [lookup_eq_ok, known] at found
    cases found
    obtain ⟨⟨rsn, type, final⟩, created, done⟩ := bind_eq_ok.1 done
    obtain ⟨middle, foundFinal, spec⟩ := enqueue_packet_spec done
    have same : middle = final := by
      simp only [Host.setConnection, Function.update_self, Option.some.injEq] at foundFinal
      exact foundFinal.symm
    subst same
    rcases create_from_ulp_spec created with
      ⟨kind, transaction, isKind, pull, solicited, requested⟩ |
        ⟨old, transaction, isNone, rfl, responded⟩
    · have unusedNow := unused (by rw [isKind]; rfl)
      rw [← requested.assigned] at unusedNow
      rcases spec with ⟨-, data, -⟩ | ⟨-, enqueued⟩
      · have request := requested.new.request
        rw [data] at request
        rcases request with request | request | request <;> cases request
      · refine .requested known unusedNow pull solicited requested enqueued rfl ?_
        rw [isKind, ← requested.assigned]
    · rcases spec with ⟨-, data, -⟩ | ⟨-, enqueued⟩
      · cases data
      · refine .responded known responded enqueued rfl ?_
        rw [isNone]
        exact Function.update_eq_self _ _
  | receive scid packet known unused done =>
    obtain ⟨current, found, done⟩ := bind_eq_ok.1 done
    rw [lookup_eq_ok, known] at found
    cases found
    obtain ⟨final, created, done⟩ := bind_eq_ok.1 done
    cases done
    obtain ⟨location, base, transaction, arrived⟩ := create_from_network_spec created
    exact .received ⟨known, unused, ⟨final, arrived, rfl⟩, rfl, rfl, ⟨rfl, rfl, rfl, rfl⟩, rfl⟩
      rfl rfl
  | callback scid rsn type due done =>
    rcases reorder_callback_spec done with ⟨kind, spec⟩ | ⟨answer, done⟩
    · exact .progressed spec (.erase scid rsn (by simp [answered, kind]) _) rfl
    · obtain ⟨connection, found, spec⟩ := enqueue_packet_spec done
      rcases spec with ⟨ordered, rfl, key, transaction, packet, located, made⟩ | ⟨open_, enqueued⟩
      · have grant : type = .pushGrant := by
          cases type <;> simp [getNextFalconPacket] at answer ⊢
        subst grant
        exact .madeEligible due ordered located made rfl rfl
      · exact .answered due answer open_ enqueued rfl rfl
  | ulpAck scid rsn done =>
    obtain ⟨connection, old, value, refunded, spec⟩ := ack_transaction_spec done
    exact .progressed spec (.refl _ _) rfl
  | ulpRnrNack scid rsn done =>
    obtain ⟨type, connection, old, value, refunded, spec⟩ := rnr_nack_transaction_spec done
    refine .progressed spec (.append scid rsn ?_ _) rfl
    rcases type with rfl | rfl | rfl <;> simp [answered]
  | networkAck scid rsn type done =>
    obtain ⟨connection, key, old, value, refunded, spec⟩ := ack_from_network_spec done
    refine .progressed spec ?_ rfl
    dsimp only
    split
    · exact .append scid rsn (by simp [answered]) _
    · exact .refl _ _
  | gating scid known write done =>
    rename_i host connection changed
    have core := write_gating_core done
    refine .quiet (fun other => ?_) core.packets core.admission core.thresholdSolicit core.network
      rfl rfl
    rw [core.connections]
    by_cases same : other = scid
    · subst same
      simp only [Host.setConnection, Function.update_self, known]
      unfold GatingWrite at write
      exact .some ⟨by rw [write], by rw [write], by rw [write]⟩
    · simp only [Host.setConnection, Function.update_of_ne same]
      exact option_rel_refl other
  | retransmit scid item known located sent done =>
    obtain ⟨connection, key, transaction, packet, final, middle, found, locatedAgain, transmitted,
      core, rfl⟩ := transmit_packet_spec done
    rw [lookup_eq_ok, known] at found
    cases found
    rw [located] at locatedAgain
    cases locatedAgain
    exact .retransmitted ⟨known, located, sent, transmitted, core.connections, core.packets,
      core.admission, ⟨core.thresholdSolicit, core.enablePause, core.packetBuilderXoff, core.now⟩,
      by rw [core.network]; rfl⟩ rfl rfl
  | tick => exact .quiet option_rel_refl (.refl _) (.refl _ _) rfl rfl rfl rfl
  | xoff xoff => exact .quiet option_rel_refl (.refl _) (.refl _ _) rfl rfl rfl rfl
  | idle done =>
    rename_i host
    have core := has_work_core before.host
    rw [done] at core
    refine .quiet (fun other => ?_) core.packets core.admission core.thresholdSolicit core.network
      rfl rfl
    rw [core.connections]
    exact option_rel_refl other
  | schedule work done =>
    rename_i ready host
    have core := has_work_core before.host
    rw [work] at core
    obtain ⟨scid, queueType, item, connection, key, transaction, packet, rest, spec⟩ :=
      schedule_work_spec done
    rcases spec with ⟨final, sent⟩ | handled
    · have sent := sent.of_core core
      refine .sent sent rfl ?_
      dsimp only
      rw [sent.network, List.drop_left]
      rfl
    · have handled := handled.of_core core
      refine .phantom handled rfl ?_
      dsimp only
      rw [handled.network, List.drop_length]
      rfl

end Isekai.SchedulerEffects
