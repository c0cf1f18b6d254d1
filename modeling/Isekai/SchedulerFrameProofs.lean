import Isekai.SchedulerSystem

/-! What the operations of the connection scheduler leave alone: recomputing eligibility and
asking for work touch the policies and refill token buckets, nothing else. From this follows
what one call of `ScheduleWork` does to the queues, the transactions and the wire. -/

namespace Isekai.SchedulerFrameProofs
open FastConnectionScheduler AdmissionControl WeightedRoundRobin

variable {before after host : Host} {scid : UInt32} {connection : ConnectionState}
  {queueType : PacketTypeQueue} {item : WorkId} {type : PacketType} {key : TransactionKey}
  {transaction : TransactionMetadata} {packet : PacketMetadata} {rest : List WorkId}

/-- Two schedulers with the same packets in their queues. -/
structure SamePackets (before after : Scheduler) : Prop where
  queues : after.connectionQueues = before.connectionQueues
  counts : after.packetQueueWisePktCount = before.packetQueueWisePktCount

theorem SamePackets.refl (scheduler : Scheduler) : SamePackets scheduler scheduler :=
  ⟨rfl, rfl⟩

theorem SamePackets.trans {first second third : Scheduler} (one : SamePackets first second)
    (two : SamePackets second third) : SamePackets first third :=
  ⟨two.queues.trans one.queues, two.counts.trans one.counts⟩

theorem SamePackets.queue {before after : Scheduler} (same : SamePackets before after) :
    after.queue = before.queue := by
  funext scid queueType
  simp only [Scheduler.queue, same.queues]

/-- Two hosts that differ in their policies and in tokens already accounted for, at most. -/
structure SameCore (before after : Host) : Prop where
  connections : after.connections = before.connections
  packets : SamePackets before.scheduler after.scheduler
  admission : before.admission.Agrees before.now after.admission
  thresholdSolicit : after.thresholdSolicit = before.thresholdSolicit
  enablePause : after.enablePauseInitialTransmissionOnOowDrops =
    before.enablePauseInitialTransmissionOnOowDrops
  packetBuilderXoff : after.packetBuilderXoff = before.packetBuilderXoff
  now : after.now = before.now
  network : after.network = before.network

theorem SameCore.refl (host : Host) : SameCore host host :=
  ⟨rfl, .refl _, .refl _ _, rfl, rfl, rfl, rfl, rfl⟩

theorem SameCore.trans {first second third : Host} (one : SameCore first second)
    (two : SameCore second third) : SameCore first third :=
  ⟨two.connections.trans one.connections, one.packets.trans two.packets,
    one.admission.trans (one.now ▸ two.admission),
    two.thresholdSolicit.trans one.thresholdSolicit, two.enablePause.trans one.enablePause,
    two.packetBuilderXoff.trans one.packetBuilderXoff, two.now.trans one.now,
    two.network.trans one.network⟩

theorem SameCore.of_packets {scheduler : Scheduler} (same : SamePackets host.scheduler scheduler) :
    SameCore host { host with scheduler := scheduler } :=
  ⟨rfl, same, .refl _ _, rfl, rfl, rfl, rfl, rfl⟩

theorem SameCore.of_admission {admission : AdmissionControlManager}
    (agrees : host.admission.Agrees host.now admission) :
    SameCore host { host with admission := admission } :=
  ⟨rfl, .refl _, agrees, rfl, rfl, rfl, rfl, rfl⟩

/-! ## Recomputation -/

theorem apply_marks_packets {before after : Scheduler} {marks : QueueMarks}
    (done : before.applyMarks scid queueType marks = .ok after) : SamePackets before after := by
  obtain ⟨policy, -, rest⟩ := bind_eq_ok.1 done
  obtain ⟨phantom, -, rest⟩ := bind_eq_ok.1 rest
  obtain ⟨ordered, -, final⟩ := bind_eq_ok.1 rest
  cases final
  exact ⟨rfl, rfl⟩

theorem recompute_connection_packets {enablePause : Bool} {queues : ConnectionSchedulerQueues}
    {types : List PacketTypeQueue} {before after : Scheduler}
    (done : before.recomputeConnection connection enablePause scid queues types = .ok after) :
    SamePackets before after := by
  induction types generalizing before with
  | nil =>
    cases done
    exact .refl _
  | cons queueType rest ih =>
    rw [Scheduler.recomputeConnection] at done
    obtain ⟨marks, -, done⟩ := bind_eq_ok.1 done
    obtain ⟨middle, applied, done⟩ := bind_eq_ok.1 done
    exact (apply_marks_packets applied).trans (ih done)

theorem mark_packet_type_packets {before after : Scheduler} {active : Bool}
    (done : before.markPacketType queueType active = .ok after) : SamePackets before after := by
  obtain ⟨policy, -, final⟩ := bind_eq_ok.1 done
  cases final
  exact ⟨rfl, rfl⟩

theorem global_criteria_core (host : Host) (queueType : PacketTypeQueue) :
    SameCore host (host.meetsGlobalCriteria queueType).2 := by
  unfold Host.meetsGlobalCriteria
  split
  · exact .of_admission (AdmissionControlManager.meets_agrees _ _ _ _)
  · dsimp only
    split
    · exact .of_packets ⟨rfl, rfl⟩
    · split
      · exact .of_packets ⟨rfl, rfl⟩
      · exact ⟨rfl, ⟨rfl, rfl⟩, AdmissionControlManager.meets_agrees _ _ _ _,
          rfl, rfl, rfl, rfl, rfl⟩
  all_goals exact .refl host

theorem recompute_queue_type_core (done : before.recomputeQueueType queueType = .ok after) :
    SameCore before after := by
  have criteria := global_criteria_core before queueType
  unfold Host.recomputeQueueType at done
  dsimp only at done
  split at done
  · cases done
  · rename_i scheduler marked
    cases done
    refine criteria.trans (.of_packets (SamePackets.trans ?_ (mark_packet_type_packets marked)))
    split <;> exact ⟨rfl, rfl⟩

theorem recompute_types_core {types : List PacketTypeQueue}
    (done : types.foldlM Host.recomputeQueueType before = .ok after) : SameCore before after := by
  induction types generalizing before with
  | nil =>
    cases done
    exact .refl _
  | cons queueType rest ih =>
    obtain ⟨middle, one, done⟩ := bind_eq_ok.1 done
    exact (recompute_queue_type_core one).trans (ih done)

theorem has_work_core (host : Host) : SameCore host host.hasWork.2 := by
  unfold Host.hasWork
  dsimp only
  split
  · exact .of_packets ⟨rfl, rfl⟩
  · split <;> exact .of_packets ⟨rfl, rfl⟩

/-- Recomputing eligibility changes policies and refills buckets. -/
theorem recompute_core (done : before.recomputeEligibility scid = .ok after) :
    SameCore before after := by
  unfold Host.recomputeEligibility at done
  obtain ⟨scheduler, first, done⟩ := bind_eq_ok.1 done
  obtain ⟨middle, second, final⟩ := bind_eq_ok.1 done
  cases final
  have packets : SamePackets before.scheduler scheduler := by
    unfold Host.recomputeOwnQueues at first
    split at first
    · cases first
      exact .refl _
    · split at first
      · cases first
      · exact recompute_connection_packets first
  exact (SameCore.of_packets packets).trans ((recompute_types_core second).trans (has_work_core _))

/-- A write to a gating variable changes the connection, and what recomputing changes. -/
theorem write_gating_core (done : before.writeGating scid connection = .ok after) :
    SameCore (before.setConnection scid connection) after :=
  recompute_core done

/-! ## Replacing a connection -/

theorem lookup_eq_ok :
    host.lookup scid = .ok connection ↔ host.connections scid = some connection := by
  unfold Host.lookup
  split <;> simp_all

theorem lookup_set_connection (host : Host) (scid : UInt32) (connection : ConnectionState) :
    (host.setConnection scid connection).lookup scid = .ok connection := by
  simp [lookup_eq_ok, Host.setConnection]

/-- Two hosts that differ in a connection, beside policies and tokens. -/
theorem SameCore.set_connection {middle : Host} (same : SameCore before middle) (scid : UInt32)
    (connection : ConnectionState) :
    SameCore (before.setConnection scid connection) (middle.setConnection scid connection) :=
  ⟨by simp [Host.setConnection, same.connections], same.packets, same.admission,
    same.thresholdSolicit, same.enablePause, same.packetBuilderXoff, same.now, same.network⟩

theorem set_connection_set (host : Host) (scid : UInt32) (first second : ConnectionState) :
    (host.setConnection scid first).setConnection scid second =
      host.setConnection scid second := by
  simp [Host.setConnection]

theorem set_connection_self (found : host.lookup scid = .ok connection) :
    host.setConnection scid connection = host := by
  have same : Function.update host.connections scid (some connection) = host.connections := by
    rw [← lookup_eq_ok.1 found, Function.update_eq_self]
  simp only [Host.setConnection, same]

theorem SameCore.replace {middle : Host} {first second : ConnectionState}
    (one : SameCore (before.setConnection scid first) middle)
    (two : SameCore (middle.setConnection scid second) after) :
    SameCore (before.setConnection scid second) after := by
  have replaced := (one.set_connection scid second).trans two
  rwa [set_connection_set] at replaced

theorem SameCore.lookup (same : SameCore (before.setConnection scid connection) after) :
    after.lookup scid = .ok connection := by
  rw [lookup_eq_ok, same.connections]
  simp [Host.setConnection]

/-- Connections with the same transactions and the same counter of RSNs. -/
structure SameTransactions (before after : ConnectionState) : Prop where
  orderedMode : after.orderedMode = before.orderedMode
  transactions : after.transactions = before.transactions
  nextRsn : after.nextRequestSequenceNumber = before.nextRequestSequenceNumber

theorem SameTransactions.refl (connection : ConnectionState) :
    SameTransactions connection connection :=
  ⟨rfl, rfl, rfl⟩

theorem modify_tx_window_transactions (connection : ConnectionState) (type : PacketType)
    (change : TransmitterWindow → TransmitterWindow) :
    SameTransactions connection (connection.modifyTxWindow type change) := by
  unfold ConnectionState.modifyTxWindow
  split <;> exact ⟨rfl, rfl, rfl⟩

theorem lookup_packet_eq_ok {rsn : UInt32} :
    connection.lookupPacket rsn type = .ok (key, transaction, packet) ↔
      (∃ location, getTransactionLocation type false = .ok location ∧ key = ⟨rsn, location⟩) ∧
        connection.transactions key = some transaction ∧ transaction.packets type = some packet := by
  unfold ConnectionState.lookupPacket
  constructor
  · intro found
    split at found
    · cases found
    · rename_i location located
      split at found
      · cases found
      · rename_i current live
        split at found
        · cases found
        · rename_i current present
          cases found
          exact ⟨⟨location, located, rfl⟩, live, present⟩
  · rintro ⟨⟨location, located, rfl⟩, live, present⟩
    simp only [located, live, present]

/-! ## Transmission -/

/-- What the transmission of a packet makes of its connection. -/
structure Transmitted (connection : ConnectionState) (item : WorkId) (key : TransactionKey)
    (transaction : TransactionMetadata) (packet : PacketMetadata) (after : ConnectionState) :
    Prop where
  orderedMode : after.orderedMode = connection.orderedMode
  nextRsn : after.nextRequestSequenceNumber = connection.nextRequestSequenceNumber
  transactions : ∃ (sent : PacketMetadata) (moved : TransactionMetadata),
    after.transactions = Function.update connection.transactions key (some moved) ∧
    sent.isTransmissionEligible = packet.isTransmissionEligible ∧
    Host.transmittedTransaction (transaction.createPacket item.type sent) item.type
      (packet.transmitAttempts + 1 = 1) = .ok moved

/-- The result of the first part of a transmission. -/
structure Assigned (connection : ConnectionState) (item : WorkId) (key : TransactionKey)
    (transaction : TransactionMetadata) (packet : PacketMetadata) (first : Bool)
    (after : ConnectionState) : Prop where
  orderedMode : after.orderedMode = connection.orderedMode
  nextRsn : after.nextRequestSequenceNumber = connection.nextRequestSequenceNumber
  first : first = decide (packet.transmitAttempts + 1 = 1)
  transactions : ∃ sent : PacketMetadata,
    after.transactions = Function.update connection.transactions key
      (some (transaction.createPacket item.type sent)) ∧
    sent.isTransmissionEligible = packet.isTransmissionEligible

theorem assign_psn_spec {first : Bool}
    (done : before.assignPsnAndSsn scid item = .ok (first, after)) :
    ∃ connection key transaction packet final,
      before.lookup scid = .ok connection ∧
      connection.lookupPacket item.rsn item.type = .ok (key, transaction, packet) ∧
      Assigned connection item key transaction packet first final ∧
      SameCore (before.setConnection scid final) after := by
  obtain ⟨connection, found, done⟩ := bind_eq_ok.1 done
  obtain ⟨⟨key, transaction, packet⟩, located, done⟩ := bind_eq_ok.1 done
  refine ⟨connection, key, transaction, packet, ?_⟩
  dsimp only at done
  split at done
  · rename_i one
    obtain ⟨middle, written, done⟩ := bind_eq_ok.1 done
    have core := write_gating_core written
    have same := modify_tx_window_transactions
      (connection.setTransaction key (transaction.createPacket item.type
        { packet with
          transmitAttempts := packet.transmitAttempts + 1
          psn := (connection.txWindow item.type).nextPsn })) item.type
      (fun window => { window with nextPsn := window.nextPsn + 1 })
    split at done
    · obtain ⟨current, again, final⟩ := bind_eq_ok.1 done
      cases final
      rw [core.lookup] at again
      cases again
      refine ⟨_, found, located, ?_, core.replace (.refl _)⟩
      exact ⟨same.orderedMode, same.nextRsn, by simp [one], _, same.transactions, rfl⟩
    · cases done
      exact ⟨_, found, located, ⟨same.orderedMode, same.nextRsn, by simp [one],
        _, same.transactions, rfl⟩, core⟩
  · rename_i more
    cases done
    refine ⟨_, found, located, ?_, .refl (before.setConnection scid _)⟩
    exact ⟨rfl, rfl, by simp [more], _, rfl, rfl⟩

theorem increment_request_count_spec {first : Bool} (found : before.lookup scid = .ok connection)
    (done : before.incrementRequestCount scid type first = .ok after) :
    ∃ final, SameTransactions connection final ∧ SameCore (before.setConnection scid final) after := by
  obtain ⟨current, again, done⟩ := bind_eq_ok.1 done
  rw [found] at again
  cases again
  split at done
  · exact ⟨_, modify_tx_window_transactions connection type _, write_gating_core done⟩
  · cases done
    refine ⟨connection, .refl _, ?_⟩
    rw [set_connection_self found]
    exact .refl _

theorem transmit_packet_spec (done : before.transmitPacket scid item = .ok after) :
    ∃ connection key transaction packet final middle,
      before.lookup scid = .ok connection ∧
      connection.lookupPacket item.rsn item.type = .ok (key, transaction, packet) ∧
      Transmitted connection item key transaction packet final ∧
      SameCore (before.setConnection scid final) middle ∧
      after = { middle with network := middle.network ++ [(scid, item)] } := by
  obtain ⟨⟨first, middle⟩, assigned, done⟩ := bind_eq_ok.1 done
  obtain ⟨counted, incremented, done⟩ := bind_eq_ok.1 done
  obtain ⟨connection, key, transaction, packet, one, found, located, spec, core⟩ :=
    assign_psn_spec assigned
  obtain ⟨two, same, coreCounted⟩ := increment_request_count_spec core.lookup incremented
  obtain ⟨current, again, done⟩ := bind_eq_ok.1 done
  rw [coreCounted.lookup] at again
  cases again
  obtain ⟨⟨keyAgain, moving, packetAgain⟩, locatedAgain, done⟩ := bind_eq_ok.1 done
  obtain ⟨moved, transition, final⟩ := bind_eq_ok.1 done
  cases final
  obtain ⟨sent, transactions, eligible⟩ := spec.transactions
  obtain ⟨⟨location, side, rfl⟩, live, -⟩ := lookup_packet_eq_ok.1 located
  obtain ⟨⟨locationAgain, sideAgain, rfl⟩, liveAgain, -⟩ := lookup_packet_eq_ok.1 locatedAgain
  rw [side] at sideAgain
  cases sideAgain
  rw [same.transactions, transactions] at liveAgain
  simp only [Function.update_self, Option.some.injEq] at liveAgain
  subst liveAgain
  rw [spec.first] at transition
  refine ⟨connection, _, transaction, packet, two.setTransaction ⟨item.rsn, location⟩ moved, _,
    found, located, ⟨same.orderedMode.trans spec.orderedMode, same.nextRsn.trans spec.nextRsn,
      sent, moved, ?_, eligible, transition⟩, ?_, rfl⟩
  · simp [ConnectionState.setTransaction, same.transactions, transactions]
  · exact (core.replace coreCounted).replace (.refl _)

/-! ## One call of `ScheduleWork` -/

/-- What stays the same when packets are scheduled. -/
structure SameSettings (before after : Host) : Prop where
  thresholdSolicit : after.thresholdSolicit = before.thresholdSolicit
  enablePause : after.enablePauseInitialTransmissionOnOowDrops =
    before.enablePauseInitialTransmissionOnOowDrops
  packetBuilderXoff : after.packetBuilderXoff = before.packetBuilderXoff
  now : after.now = before.now

theorem SameCore.settings (same : SameCore before after) : SameSettings before after :=
  ⟨same.thresholdSolicit, same.enablePause, same.packetBuilderXoff, same.now⟩

/-- A packet at the head of its queue was sent. -/
structure Sent (before after : Host) (scid : UInt32) (queueType : PacketTypeQueue) (item : WorkId)
    (connection : ConnectionState) (key : TransactionKey) (transaction : TransactionMetadata)
    (packet : PacketMetadata) (final : ConnectionState) (rest : List WorkId) : Prop where
  found : before.connections scid = some connection
  located : connection.lookupPacket item.rsn item.type = .ok (key, transaction, packet)
  head : before.scheduler.queue scid queueType = item :: rest
  real : item.type ≠ .invalid
  eligible : packet.isTransmissionEligible = true
  admitted : before.admission.admits transaction.requestLength.toUInt64 item.type before.now = true
  transmitted : Transmitted connection item key transaction packet final
  connections : after.connections = Function.update before.connections scid (some final)
  packets : SamePackets ((before.scheduler.countDequeued queueType).setQueue scid queueType rest)
    after.scheduler
  reserved : before.admission.Reserved transaction.requestLength.toUInt64 item.type after.admission
  settings : SameSettings before after
  network : after.network = before.network ++ [(scid, item)]

/-- A phantom request at the head of its queue was handled. -/
structure PhantomHandled (before after : Host) (scid : UInt32) (queueType : PacketTypeQueue)
    (item : WorkId) (connection : ConnectionState) (key : TransactionKey)
    (transaction : TransactionMetadata) (packet : PacketMetadata) (rest : List WorkId) :
    Prop where
  found : before.connections scid = some connection
  located : connection.lookupPacket item.rsn .pushUnsolicitedData = .ok (key, transaction, packet)
  phantom : item.type = .invalid
  head : before.scheduler.queue scid queueType = item :: rest
  connections : after.connections = Function.update before.connections scid
    (some (connection.setTransaction key (transaction.createPacket .pushUnsolicitedData
      { packet with isTransmissionEligible := true })))
  packets : SamePackets ((before.scheduler.countDequeued queueType).setQueue scid queueType rest)
    after.scheduler
  admission : before.admission.Agrees before.now after.admission
  settings : SameSettings before after
  network : after.network = before.network

theorem pop_eq_ok :
    before.pop scid queueType = .ok after ↔
      ∃ item rest, before.scheduler.queue scid queueType = item :: rest ∧
        after = { before with scheduler := before.scheduler.setQueue scid queueType rest } := by
  unfold Host.pop
  split
  · simp_all
  · rename_i item rest queue
    simp only [queue, Except.ok.injEq, List.cons.injEq]
    constructor
    · rintro rfl
      exact ⟨item, rest, ⟨rfl, rfl⟩, rfl⟩
    · rintro ⟨_, _, ⟨rfl, rfl⟩, rfl⟩
      rfl

theorem set_queue_packets {before after : Scheduler} (same : SamePackets before after)
    (scid : UInt32) (queueType : PacketTypeQueue) (items : List WorkId) :
    SamePackets (before.setQueue scid queueType items) (after.setQueue scid queueType items) :=
  ⟨by simp [Scheduler.setQueue, same.queues, same.queue], same.counts⟩

theorem next_work_spec (done : before.nextWork = .ok (queueType, scid, item, after)) :
    SameCore before after ∧ ∃ rest, before.scheduler.queue scid queueType = item :: rest := by
  obtain ⟨⟨type, policy⟩, -, done⟩ := bind_eq_ok.1 done
  obtain ⟨⟨chosen, connectionPolicy⟩, -, done⟩ := bind_eq_ok.1 done
  dsimp only at done
  split at done
  · cases done
  · rename_i head rest queue
    cases done
    exact ⟨.of_packets ⟨rfl, rfl⟩, rest, queue⟩

theorem can_send_spec {sendable : Bool} (done : before.canSend scid item = .ok (sendable, after)) :
    SameCore before after ∧ ∃ connection key transaction packet,
      before.connections scid = some connection ∧
      connection.lookupPacket item.rsn item.type = .ok (key, transaction, packet) ∧
      (sendable = true ↔ packet.isTransmissionEligible = true ∧ connection.isOpRateLimited = false ∧
        connection.meetsCcCriteria item.type = true ∧
        before.admission.admits transaction.requestLength.toUInt64 item.type before.now = true ∧
        connection.meetsOowCriteria before.enablePauseInitialTransmissionOnOowDrops item.type =
          true) := by
  obtain ⟨connection, found, done⟩ := bind_eq_ok.1 done
  obtain ⟨⟨key, transaction, packet⟩, located, final⟩ := bind_eq_ok.1 done
  obtain ⟨rfl, rfl⟩ := Prod.mk.inj (Except.ok.inj final)
  refine ⟨.of_admission (AdmissionControlManager.meets_agrees _ _ _ _), connection, key,
    transaction, packet, lookup_eq_ok.1 found, located, ?_⟩
  simp [AdmissionControlManager.admits, and_assoc]

theorem limit_op_rate_spec (done : before.limitOpRate scid = .ok after)
    (found : before.lookup scid = .ok connection) :
    ∃ final, SameTransactions connection final ∧ SameCore (before.setConnection scid final) after := by
  obtain ⟨current, again, done⟩ := bind_eq_ok.1 done
  rw [found] at again
  cases again
  split at done
  · cases done
    refine ⟨connection, .refl _, ?_⟩
    rw [set_connection_self found]
    exact .refl _
  · refine ⟨_, ?_, write_gating_core done⟩
    exact ⟨rfl, rfl, rfl⟩

theorem lookup_packet_same {before after : ConnectionState} (same : SameTransactions before after)
    (rsn : UInt32) (type : PacketType) :
    after.lookupPacket rsn type = before.lookupPacket rsn type := by
  simp only [ConnectionState.lookupPacket, same.transactions]

theorem reserved_of_agrees {before middle after : AdmissionControlManager} {length : UInt64}
    {now : Nat} (reserved : before.Reserved length type middle) (agrees : middle.Agrees now after) :
    before.Reserved length type after :=
  ⟨agrees.policy.trans reserved.policy, agrees.window.trans reserved.window,
    agrees.solicited.trans reserved.solicited⟩

/-- What scheduling the packet at the head of a queue does. -/
theorem schedule_packet_spec (found : before.connections scid = some connection)
    (located : connection.lookupPacket item.rsn item.type = .ok (key, transaction, packet))
    (head : before.scheduler.queue scid queueType = item :: rest) (real : item.type ≠ .invalid)
    (eligible : packet.isTransmissionEligible = true)
    (admitted : before.admission.admits transaction.requestLength.toUInt64 item.type before.now =
      true) (done : before.schedulePacket scid queueType item = .ok after) :
    ∃ final, Sent before after scid queueType item connection key transaction packet final rest := by
  obtain ⟨current, again, done⟩ := bind_eq_ok.1 done
  rw [lookup_eq_ok, found] at again
  cases again
  obtain ⟨⟨_, _, _⟩, locatedAgain, done⟩ := bind_eq_ok.1 done
  rw [located] at locatedAgain
  cases locatedAgain
  obtain ⟨admission, reserved, done⟩ := bind_eq_ok.1 done
  obtain ⟨limited, limiting, done⟩ := bind_eq_ok.1 done
  obtain ⟨sent, transmitting, done⟩ := bind_eq_ok.1 done
  obtain ⟨popped, popping, recomputed⟩ := bind_eq_ok.1 done
  obtain ⟨paused, same, limitedCore⟩ := limit_op_rate_spec limiting (lookup_eq_ok.2 found)
  obtain ⟨_, _, _, _, final, middle, pausedFound, pausedLocated, transmitted, sentCore, rfl⟩ :=
    transmit_packet_spec transmitting
  rw [limitedCore.lookup] at pausedFound
  cases pausedFound
  rw [lookup_packet_same same, located] at pausedLocated
  cases pausedLocated
  have core := limitedCore.replace sentCore
  have packets : SamePackets (before.scheduler.countDequeued queueType) middle.scheduler :=
    core.packets
  have agrees : admission.Agrees before.now middle.admission := core.admission
  obtain ⟨_, _, queue, rfl⟩ := pop_eq_ok.1 popping
  have sameQueue := congrFun (congrFun core.packets.queue scid) queueType
  rw [queue] at sameQueue
  change _ = before.scheduler.queue scid queueType at sameQueue
  rw [head] at sameQueue
  cases sameQueue
  have last := recompute_core recomputed
  obtain ⟨sentPacket, moved, transactions, sameEligible, transition⟩ := transmitted.transactions
  refine ⟨final, found, located, head, real, eligible, admitted,
    ⟨transmitted.orderedMode.trans same.orderedMode, transmitted.nextRsn.trans same.nextRsn,
      sentPacket, moved, ?_, sameEligible, transition⟩, ?_, ?_, ?_, ?_, ?_⟩
  · rw [transactions, same.transactions]
  · exact last.connections.trans core.connections
  · exact (set_queue_packets packets scid queueType rest).trans last.packets
  · exact reserved_of_agrees
      (reserved_of_agrees (AdmissionControlManager.reserve_spec reserved) agrees) last.admission
  · exact ⟨last.thresholdSolicit.trans core.thresholdSolicit,
      last.enablePause.trans core.enablePause,
      last.packetBuilderXoff.trans core.packetBuilderXoff, last.now.trans core.now⟩
  · rw [last.network]
    change middle.network ++ _ = _
    rw [core.network]
    rfl

theorem handle_phantom_spec (head : before.scheduler.queue scid queueType = item :: rest)
    (phantom : item.type = .invalid)
    (done : before.handlePhantomRequest scid queueType item = .ok after) :
    ∃ connection key transaction packet,
      PhantomHandled before after scid queueType item connection key transaction packet rest := by
  obtain ⟨connection, found, done⟩ := bind_eq_ok.1 done
  obtain ⟨⟨key, transaction, packet⟩, located, done⟩ := bind_eq_ok.1 done
  obtain ⟨_, -, done⟩ := bind_eq_ok.1 done
  obtain ⟨popped, popping, recomputed⟩ := bind_eq_ok.1 done
  obtain ⟨_, _, queue, rfl⟩ := pop_eq_ok.1 popping
  change before.scheduler.queue scid queueType = _ at queue
  rw [head] at queue
  cases queue
  have last := recompute_core recomputed
  refine ⟨connection, key, transaction, packet, lookup_eq_ok.1 found, located, phantom, head,
    last.connections, ?_, last.admission, ?_, last.network⟩
  · exact ⟨last.packets.queues, last.packets.counts⟩
  · exact ⟨last.thresholdSolicit, last.enablePause, last.packetBuilderXoff, last.now⟩

theorem set_queue_dequeued {before next : Scheduler} (same : SamePackets before next)
    (scid : UInt32) (queueType : PacketTypeQueue) (rest : List WorkId) :
    SamePackets ((before.countDequeued queueType).setQueue scid queueType rest)
      ((next.countDequeued queueType).setQueue scid queueType rest) := by
  have counted : SamePackets (before.countDequeued queueType) (next.countDequeued queueType) :=
    ⟨same.queues, by simp [Scheduler.countDequeued, same.counts]⟩
  exact set_queue_packets counted scid queueType rest

theorem SameSettings.trans {first second third : Host} (one : SameSettings first second)
    (two : SameSettings second third) : SameSettings first third :=
  ⟨two.thresholdSolicit.trans one.thresholdSolicit, two.enablePause.trans one.enablePause,
    two.packetBuilderXoff.trans one.packetBuilderXoff, two.now.trans one.now⟩

/-- Whatever holds of a call after policies and tokens changed holds of it before. -/
theorem Sent.of_core {next : Host} {final : ConnectionState} (core : SameCore before next)
    (sent : Sent next after scid queueType item connection key transaction packet final rest) :
    Sent before after scid queueType item connection key transaction packet final rest where
  found := by rw [← core.connections, sent.found]
  located := sent.located
  head := by rw [← core.packets.queue, sent.head]
  real := sent.real
  eligible := sent.eligible
  admitted := by
    rw [← core.admission.admits (le_refl _), ← core.now]
    exact sent.admitted
  transmitted := sent.transmitted
  connections := by rw [← core.connections, sent.connections]
  packets := (set_queue_dequeued core.packets scid queueType rest).trans sent.packets
  reserved := by
    have reserved := sent.reserved
    refine ⟨reserved.policy.trans core.admission.policy,
      reserved.window.trans core.admission.window, ?_⟩
    have window : next.admission.windowBased = before.admission.windowBased := by
      simp only [AdmissionControlManager.windowBased, core.admission.policy]
    rw [reserved.solicited, core.admission.solicited, window]
  settings := core.settings.trans sent.settings
  network := by rw [sent.network, core.network]

theorem PhantomHandled.of_core {next : Host} (core : SameCore before next)
    (handled : PhantomHandled next after scid queueType item connection key transaction packet
      rest) :
    PhantomHandled before after scid queueType item connection key transaction packet rest where
  found := by rw [← core.connections, handled.found]
  located := handled.located
  phantom := handled.phantom
  head := by rw [← core.packets.queue, handled.head]
  connections := by rw [← core.connections, handled.connections]
  packets := (set_queue_dequeued core.packets scid queueType rest).trans handled.packets
  admission := core.admission.trans (core.now ▸ handled.admission)
  settings := core.settings.trans handled.settings
  network := by rw [handled.network, core.network]

/-- One call of `ScheduleWork` that succeeds sends the packet at the head of a queue, which is
eligible and admitted, or handles a phantom request. -/
theorem schedule_work_spec (done : before.scheduleWork = .ok after) :
    ∃ scid queueType item connection key transaction packet rest,
      (∃ final, Sent before after scid queueType item connection key transaction packet final rest) ∨
      PhantomHandled before after scid queueType item connection key transaction packet rest := by
  obtain ⟨⟨queueType, scid, item, next⟩, chosen, done⟩ := bind_eq_ok.1 done
  obtain ⟨nextCore, rest, head⟩ := next_work_spec chosen
  have nextHead : next.scheduler.queue scid queueType = item :: rest := by
    rw [nextCore.packets.queue, head]
  dsimp only at done
  split at done
  · rename_i phantom
    obtain ⟨connection, key, transaction, packet, handled⟩ :=
      handle_phantom_spec nextHead phantom done
    exact ⟨scid, queueType, item, connection, key, transaction, packet, rest,
      .inr (handled.of_core nextCore)⟩
  · rename_i real
    obtain ⟨⟨sendable, asked⟩, asking, done⟩ := bind_eq_ok.1 done
    obtain ⟨askedCore, connection, key, transaction, packet, found, located, criteria⟩ :=
      can_send_spec asking
    dsimp only at done
    split at done
    · rename_i can
      obtain ⟨eligible, -, -, admitted, -⟩ := criteria.1 can
      rw [← askedCore.connections] at found
      rw [← askedCore.admission.admits (le_refl _), ← askedCore.now] at admitted
      obtain ⟨final, sent⟩ := schedule_packet_spec found located
        (by rw [askedCore.packets.queue, nextHead]) real eligible admitted done
      exact ⟨scid, queueType, item, connection, key, transaction, packet, rest,
        .inl ⟨final, (sent.of_core askedCore).of_core nextCore⟩⟩
    · cases done

/-! ## Enqueueing -/

/-- The work item that an ordered push brings along: a phantom request, or its data. -/
def companion (ordered : Bool) (item : WorkId) (queueType : PacketTypeQueue) : List WorkId :=
  if ordered = true ∧ item.type = .pushUnsolicitedData ∧ queueType = .pullAndOrderedPushRequest then
    [⟨item.rsn, .invalid⟩]
  else if ordered = true ∧ item.type = .pushRequest ∧ queueType = .pushData then
    [⟨item.rsn, .pushSolicitedData⟩]
  else []

/-- The work items that join the queues when a packet is added. -/
def joining (ordered : Bool) (item : WorkId) (queueType : PacketTypeQueue) : List WorkId :=
  (if Host.queueOf ordered item.type = .ok queueType then [item] else []) ++
    companion ordered item queueType

/-- Whether a work item is counted when it joins. Ordered solicited data is counted later. -/
def countedOnJoin (ordered : Bool) (item : WorkId) : Bool :=
  !(ordered && item.type = .pushSolicitedData)

/-- A packet was added to the queues of a connection. -/
structure Enqueued (before after : Host) (scid : UInt32) (connection : ConnectionState)
    (item : WorkId) : Prop where
  found : before.connections scid = some connection
  located : ∃ key transaction packet,
    connection.lookupPacket item.rsn item.type = .ok (key, transaction, packet)
  connections : after.connections = before.connections
  queue : ∀ other queueType, after.scheduler.queue other queueType =
    if other = scid then
      before.scheduler.queue scid queueType ++
        joining (connection.orderedMode = .ordered) item queueType
    else before.scheduler.queue other queueType
  known : ∀ other, (after.scheduler.connectionQueues other).isSome =
    (decide (other = scid) || (before.scheduler.connectionQueues other).isSome)
  counts : ∀ queueType, after.scheduler.packetQueueWisePktCount queueType =
    before.scheduler.packetQueueWisePktCount queueType +
      ((joining (connection.orderedMode = .ordered) item queueType).filter
        (countedOnJoin (connection.orderedMode = .ordered))).length
  admission : before.admission.Agrees before.now after.admission
  settings : SameSettings before after
  network : after.network = before.network

/-- The grant of an ordered solicited push was passed on. -/
structure MadeEligible (before after : Host) (scid : UInt32) (connection : ConnectionState)
    (key : TransactionKey) (transaction : TransactionMetadata) (packet : PacketMetadata) :
    Prop where
  found : before.connections scid = some connection
  connections : after.connections = Function.update before.connections scid
    (some (connection.setTransaction key (transaction.createPacket .pushSolicitedData
      { packet with isTransmissionEligible := true })))
  packets : SamePackets (before.scheduler.countEnqueued .pushData) after.scheduler
  admission : before.admission.Agrees before.now after.admission
  settings : SameSettings before after
  network : after.network = before.network

theorem queue_set_queue (scheduler : Scheduler) (scid : UInt32) (queueType : PacketTypeQueue)
    (items : List WorkId) (other : UInt32) (otherType : PacketTypeQueue) :
    (scheduler.setQueue scid queueType items).queue other otherType =
      if other = scid ∧ otherType = queueType then items
      else scheduler.queue other otherType := by
  by_cases same : other = scid
  · subst same
    by_cases sameType : otherType = queueType
    · subst sameType
      simp [Scheduler.queue, Scheduler.setQueue]
    · simp [Scheduler.queue, Scheduler.setQueue, sameType]
  · simp [Scheduler.queue, Scheduler.setQueue, same]

@[simp] theorem queue_count_enqueued (scheduler : Scheduler) (queueType : PacketTypeQueue) :
    (scheduler.countEnqueued queueType).queue = scheduler.queue := rfl

theorem queues_set_queue_some (scheduler : Scheduler) (scid : UInt32) (queueType : PacketTypeQueue)
    (items : List WorkId) (other : UInt32) :
    ((scheduler.setQueue scid queueType items).connectionQueues other).isSome =
      (decide (other = scid) || (scheduler.connectionQueues other).isSome) := by
  by_cases same : other = scid
  · subst same
    simp [Scheduler.setQueue]
  · simp [Scheduler.setQueue, same]

theorem Enqueued.of_core {middle : Host} (enqueued : Enqueued before middle scid connection item)
    (core : SameCore middle after) :
    Enqueued before after scid connection item where
  found := enqueued.found
  located := enqueued.located
  connections := core.connections.trans enqueued.connections
  queue := by rw [core.packets.queue]; exact enqueued.queue
  known := by rw [core.packets.queues]; exact enqueued.known
  counts := by rw [core.packets.counts]; exact enqueued.counts
  admission := enqueued.admission.trans (enqueued.settings.now ▸ core.admission)
  settings := enqueued.settings.trans core.settings
  network := core.network.trans enqueued.network

/-- `AddPacketToQueue` makes ordered solicited data eligible, or adds the packet's work items. -/
theorem add_packet_spec {rsn : UInt32} (done : before.addPacketToQueue scid rsn type = .ok after) :
    ∃ connection, before.connections scid = some connection ∧
      ((connection.orderedMode = .ordered ∧ type = .pushSolicitedData ∧
        ∃ key transaction packet,
          connection.lookupPacket rsn type = .ok (key, transaction, packet) ∧
          MadeEligible before after scid connection key transaction packet) ∨
      (¬(connection.orderedMode = .ordered ∧ type = .pushSolicitedData) ∧
        Enqueued before after scid connection ⟨rsn, type⟩)) := by
  obtain ⟨connection, found, done⟩ := bind_eq_ok.1 done
  obtain ⟨⟨key, transaction, packet⟩, located, done⟩ := bind_eq_ok.1 done
  obtain ⟨queueType, queueOf, done⟩ := bind_eq_ok.1 done
  rw [lookup_eq_ok] at found
  refine ⟨connection, found, ?_⟩
  dsimp only at done
  split at done
  · rename_i parked
    obtain ⟨ordered, rfl⟩ := by simpa using parked
    cases queueOf
    cases done
    exact .inl ⟨ordered, rfl, key, transaction, packet, located, found, rfl, ⟨rfl, rfl⟩,
      .refl _ _, ⟨rfl, rfl, rfl, rfl⟩, rfl⟩
  · rename_i notParked
    refine .inr ⟨by simpa using notParked, ?_⟩
    split at done
    · rename_i unsolicited
      obtain ⟨ordered, rfl⟩ := by simpa using unsolicited
      obtain ⟨_, -, done⟩ := bind_eq_ok.1 done
      cases queueOf
      cases done
      refine ⟨found, ⟨_, _, _, located⟩, rfl, ?_, ?_, ?_, .refl _ _, ⟨rfl, rfl, rfl, rfl⟩, rfl⟩
      · intro other otherType
        simp only [Host.enqueue, Host.countEnqueued, queue_set_queue, queue_count_enqueued]
        by_cases same : other = scid
        · subst same
          cases otherType <;> simp [joining, companion, Host.queueOf, ordered]
        · simp [same]
      · intro other
        simp [Host.enqueue, Host.countEnqueued, queues_set_queue_some, Scheduler.countEnqueued]
      · intro otherType
        cases otherType <;>
          simp [Host.enqueue, Host.countEnqueued, Scheduler.countEnqueued, Scheduler.setQueue,
            joining, companion, Host.queueOf, ordered, countedOnJoin]
    · rename_i notUnsolicited
      split at done
      · rename_i request
        obtain ⟨ordered, rfl⟩ := by simpa using request
        obtain ⟨_, -, done⟩ := bind_eq_ok.1 done
        simp only [Host.queueOf, ordered, decide_true, if_true, Except.ok.injEq] at queueOf
        subst queueOf
        cases done
        refine ⟨found, ⟨_, _, _, located⟩, rfl, ?_, ?_, ?_, .refl _ _, ⟨rfl, rfl, rfl, rfl⟩, rfl⟩
        · intro other otherType
          simp only [Host.enqueue, Host.countEnqueued, queue_set_queue, queue_count_enqueued]
          by_cases same : other = scid
          · subst same
            cases otherType <;> simp [joining, companion, Host.queueOf, ordered]
          · simp [same]
        · intro other
          simp [Host.enqueue, Host.countEnqueued, queues_set_queue_some, Scheduler.countEnqueued]
        · intro otherType
          cases otherType <;>
            simp [Host.enqueue, Host.countEnqueued, Scheduler.countEnqueued, Scheduler.setQueue,
              joining, companion, Host.queueOf, ordered, countedOnJoin]
      · rename_i notRequest
        cases done
        have alone : ∀ otherType, companion (connection.orderedMode = .ordered) ⟨rsn, type⟩
            otherType = [] := by
          intro otherType
          simp only [companion]
          rw [if_neg, if_neg]
          · rintro ⟨ordered, request, -⟩
            exact notRequest ⟨by simpa using ordered, request⟩
          · rintro ⟨ordered, unsolicited, -⟩
            exact notUnsolicited ⟨by simpa using ordered, unsolicited⟩
        refine ⟨found, ⟨_, _, _, located⟩, rfl, ?_, ?_, ?_, .refl _ _, ⟨rfl, rfl, rfl, rfl⟩, rfl⟩
        · intro other otherType
          simp only [Host.enqueue, Host.countEnqueued, queue_set_queue, queue_count_enqueued]
          by_cases same : other = scid
          · subst same
            by_cases sameType : otherType = queueType
            · subst sameType
              simp [joining, alone, queueOf]
            · have different : queueType ≠ otherType := fun equal => sameType equal.symm
              simp [joining, alone, queueOf, sameType, different]
          · simp [same]
        · intro other
          simp [Host.enqueue, Host.countEnqueued, queues_set_queue_some, Scheduler.countEnqueued]
        · intro otherType
          have counted : countedOnJoin (connection.orderedMode = .ordered) ⟨rsn, type⟩ = true := by
            simp only [countedOnJoin]
            by_contra parked
            simp at parked
            exact notParked (by simpa using parked)
          by_cases sameType : otherType = queueType
          · subst sameType
            simp [Host.enqueue, Host.countEnqueued, Scheduler.countEnqueued, Scheduler.setQueue,
              joining, alone, queueOf, counted]
          · have different : queueType ≠ otherType := fun equal => sameType equal.symm
            simp [Host.enqueue, Host.countEnqueued, Scheduler.countEnqueued, Scheduler.setQueue,
              joining, alone, queueOf, sameType, different]

end Isekai.SchedulerFrameProofs
