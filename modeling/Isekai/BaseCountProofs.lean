import Isekai.BaseConnectionScheduler
import Isekai.QueueCountProofs

/-! The packet counts of the base scheduler. Its steps do to transactions and queues what the steps
of the fast scheduler do, and differ in when unsolicited data is counted. -/

namespace Isekai.BaseCountProofs
open FastConnectionScheduler SchedulerSystem SchedulerFrameProofs SchedulerTransactionProofs
open SchedulerEffects SchedulerRunProofs QueueCounts QueueCountProofs AdmissionControl
open BaseConnectionScheduler (initConnectionSchedulerQueues addPacketToQueue assignPsnAndSsn
  incrementRequestCount transmitConnection)

variable {scid : UInt32} {connection : ConnectionState} {key : TransactionKey} {rest : List WorkId}
  {item : WorkId}

/-! ## Transmission -/

section Transmission
variable {connection after : ConnectionState} {item : WorkId}

theorem assigned_of_ok {first : Bool}
    (done : assignPsnAndSsn connection item = .ok (first, after)) :
    ∃ key transaction packet,
      connection.lookupPacket item.rsn item.type = .ok (key, transaction, packet) ∧
      Assigned connection item key transaction packet first after := by
  obtain ⟨⟨key, transaction, packet⟩, located, done⟩ := bind_eq_ok.1 done
  refine ⟨key, transaction, packet, located, ?_⟩
  dsimp only at done
  split at done
  · rename_i one
    have same := modify_tx_window_transactions
      (connection.setTransaction key (transaction.createPacket item.type
        { packet with
          transmitAttempts := packet.transmitAttempts + 1
          psn := (connection.txWindow item.type).nextPsn })) item.type
      (fun window => { window with nextPsn := window.nextPsn + 1 })
    split at done <;>
    · cases done
      exact ⟨same.orderedMode, same.nextRsn, by simp [one], _, same.transactions, rfl⟩
  · rename_i more
    cases done
    exact ⟨rfl, rfl, by simp [more], _, rfl, rfl⟩

theorem increment_same (connection : ConnectionState) (type : PacketType) (first : Bool) :
    SameTransactions connection (incrementRequestCount connection type first) := by
  unfold incrementRequestCount
  split
  · exact modify_tx_window_transactions connection type _
  · exact .refl connection

theorem transmitted_of_ok (done : transmitConnection connection item = .ok after) :
    ∃ key transaction packet,
      connection.lookupPacket item.rsn item.type = .ok (key, transaction, packet) ∧
      Transmitted connection item key transaction packet after := by
  obtain ⟨⟨first, assigned⟩, numbered, done⟩ := bind_eq_ok.1 done
  obtain ⟨⟨keyAgain, moving, _⟩, locatedAgain, done⟩ := bind_eq_ok.1 done
  obtain ⟨moved, transition, final⟩ := bind_eq_ok.1 done
  cases final
  obtain ⟨key, transaction, packet, located, spec⟩ := assigned_of_ok numbered
  have same := increment_same assigned item.type first
  obtain ⟨sent, transactions, eligible⟩ := spec.transactions
  obtain ⟨⟨location, side, rfl⟩, live, -⟩ := lookup_packet_eq_ok.1 located
  obtain ⟨⟨_, sideAgain, rfl⟩, liveAgain, -⟩ := lookup_packet_eq_ok.1 locatedAgain
  rw [side] at sideAgain
  cases sideAgain
  rw [same.transactions, transactions] at liveAgain
  simp only [Function.update_self, Option.some.injEq] at liveAgain
  subst liveAgain
  rw [spec.first] at transition
  refine ⟨_, transaction, packet, located, same.orderedMode.trans spec.orderedMode,
    same.nextRsn.trans spec.nextRsn, sent, moved, ?_, eligible, transition⟩
  simp [ConnectionState.setTransaction, same.transactions, transactions]

end Transmission

section Operations
variable {before after : Host} {scid rsn : UInt32} {type : PacketType} {item : WorkId}
  {queueType : PacketTypeQueue}

theorem transmit_packet_spec (done : BaseConnectionScheduler.transmitPacket before scid item =
      .ok after) :
    ∃ connection key transaction packet final, before.connections scid = some connection ∧
      connection.lookupPacket item.rsn item.type = .ok (key, transaction, packet) ∧
      Transmitted connection item key transaction packet final ∧
      after = { before.setConnection scid final with
        network := before.network ++ [(scid, item)] } := by
  obtain ⟨connection, found, done⟩ := bind_eq_ok.1 done
  obtain ⟨final, transmitting, done⟩ := bind_eq_ok.1 done
  cases done
  obtain ⟨key, transaction, packet, located, transmitted⟩ := transmitted_of_ok transmitting
  exact ⟨connection, key, transaction, packet, final, lookup_eq_ok.1 found, located, transmitted,
    rfl⟩

theorem retransmit_spec {transaction : TransactionMetadata} {packet : PacketMetadata}
    (known : before.connections scid = some connection)
    (located : connection.lookupPacket item.rsn item.type = .ok (key, transaction, packet))
    (sent : packet.transmitAttempts ≠ 0)
    (done : BaseConnectionScheduler.transmitPacket before scid item = .ok after) :
    ∃ final, Retransmitted before after scid item connection key transaction packet final := by
  obtain ⟨_, _, _, _, final, found, again, transmitted, rfl⟩ := transmit_packet_spec done
  rw [known] at found
  cases found
  rw [located] at again
  cases again
  exact ⟨final, known, located, sent, transmitted, rfl, .refl _, .refl _ _, ⟨rfl, rfl, rfl, rfl⟩,
    rfl⟩

/-- A packet that `CanSend` lets through is sent. -/
theorem schedule_packet_spec {ready : Host}
    (head : before.scheduler.queue scid queueType = item :: rest) (real : item.type ≠ .invalid)
    (asked : BaseConnectionScheduler.canSend before scid item = .ok (true, ready))
    (done : BaseConnectionScheduler.schedulePacket ready scid queueType item = .ok after) :
    ∃ connection key transaction packet final,
      Sent before after scid queueType item connection key transaction packet final rest := by
  obtain ⟨connection, found, asked⟩ := bind_eq_ok.1 asked
  obtain ⟨⟨key, transaction, packet⟩, located, answer⟩ := bind_eq_ok.1 asked
  obtain ⟨sendable, rfl⟩ := Prod.mk.inj (Except.ok.inj answer)
  obtain ⟨_, foundAgain, done⟩ := bind_eq_ok.1 done
  obtain ⟨⟨_, _, _⟩, again, done⟩ := bind_eq_ok.1 done
  obtain ⟨admission, reserved, done⟩ := bind_eq_ok.1 done
  obtain ⟨sent, transmitting, popping⟩ := bind_eq_ok.1 done
  obtain ⟨_, _, _, _, final, foundSent, locatedSent, transmitted, rfl⟩ :=
    transmit_packet_spec transmitting
  obtain ⟨_, _, queue, rfl⟩ := pop_eq_ok.1 popping
  rw [lookup_eq_ok] at found foundAgain
  change before.connections scid = _ at foundAgain foundSent
  rw [found] at foundAgain foundSent
  cases foundAgain
  cases foundSent
  rw [located] at again locatedSent
  cases again
  cases locatedSent
  change before.scheduler.queue scid queueType = _ at queue
  rw [head] at queue
  cases queue
  simp only [Bool.and_eq_true] at sendable
  have agrees := AdmissionControlManager.meets_agrees before.admission
    transaction.requestLength.toUInt64 item.type before.now
  have admitted := (agrees.admits (Nat.le_refl _) transaction.requestLength.toUInt64
    item.type).trans sendable.2.1.2
  refine ⟨connection, key, transaction, packet, final, Sent.of_core (.of_admission agrees) ?_⟩
  exact ⟨found, located, head, real, sendable.1, admitted, transmitted, rfl, ⟨rfl, rfl⟩,
    AdmissionControlManager.reserve_spec reserved, ⟨rfl, rfl, rfl, rfl⟩, rfl⟩

/-- The counts of the fast scheduler where the base scheduler counts an item of push data late. -/
def countedLate (host : Host) : Host :=
  recounted host (host.countEnqueued .pushData).scheduler.packetQueueWisePktCount

theorem counted_late_counts (host : Host) (queueType : PacketTypeQueue) :
    (countedLate host).scheduler.packetQueueWisePktCount queueType =
      host.scheduler.packetQueueWisePktCount queueType +
        if queueType = .pushData then 1 else 0 := by
  cases queueType <;> simp [countedLate, recounted, Host.countEnqueued, Scheduler.countEnqueued]

theorem phantom_spec (head : before.scheduler.queue scid queueType = item :: rest)
    (phantom : item.type = .invalid) (request : queueType = .pullAndOrderedPushRequest)
    (done : BaseConnectionScheduler.handlePhantomRequest before scid queueType item = .ok after) :
    ∃ connection key transaction packet counts,
      PhantomHandled before (recounted after counts) scid queueType item connection key transaction
        packet rest ∧
      ∀ other, after.scheduler.packetQueueWisePktCount other =
        counts other + if other = .pushData then 1 else 0 := by
  obtain ⟨connection, found, done⟩ := bind_eq_ok.1 done
  obtain ⟨⟨key, transaction, packet⟩, located, done⟩ := bind_eq_ok.1 done
  obtain ⟨_, -, done⟩ := bind_eq_ok.1 done
  obtain ⟨popped, popping, done⟩ := bind_eq_ok.1 done
  obtain ⟨_, _, queue, rfl⟩ := pop_eq_ok.1 popping
  change before.scheduler.queue scid queueType = _ at queue
  rw [head] at queue
  cases queue
  cases done
  subst request
  refine ⟨connection, key, transaction, packet,
    (before.scheduler.countDequeued .pullAndOrderedPushRequest).packetQueueWisePktCount,
    ⟨lookup_eq_ok.1 found, located, phantom, head, rfl, ⟨rfl, rfl⟩, .refl _ _,
      ⟨rfl, rfl, rfl, rfl⟩, rfl⟩, fun other => ?_⟩
  cases other <;> simp [Host.countEnqueued, Scheduler.countEnqueued, Scheduler.countDequeued,
    Scheduler.setQueue, Host.setPacket, Host.setConnection]

theorem counted_late_enqueue (host : Host) (scid : UInt32) (item phantom : WorkId) :
    (((host.enqueue scid .pushData item).countEnqueued .pushData).countEnqueued
        .pullAndOrderedPushRequest).enqueue scid .pullAndOrderedPushRequest phantom =
      countedLate (((host.enqueue scid .pushData item).countEnqueued
        .pullAndOrderedPushRequest).enqueue scid .pullAndOrderedPushRequest phantom) := by
  unfold countedLate
  refine congrArg (recounted (((host.enqueue scid .pushData item).countEnqueued
    .pullAndOrderedPushRequest).enqueue scid .pullAndOrderedPushRequest phantom)) ?_
  funext other
  cases other <;> simp [Host.enqueue, Host.countEnqueued, Scheduler.countEnqueued,
    Scheduler.setQueue]

/-- The base scheduler adds the packets that the fast scheduler adds. -/
theorem add_packet_fast (found : before.connections scid = some connection)
    (done : addPacketToQueue before scid rsn type = .ok after) :
    before.addPacketToQueue scid rsn type = .ok
      (if connection.orderedMode = .ordered ∧ type = .pushUnsolicitedData then countedLate after
        else after) := by
  obtain ⟨_, again, done⟩ := bind_eq_ok.1 done
  rw [lookup_eq_ok, found] at again
  cases again
  obtain ⟨⟨key, transaction, packet⟩, located, done⟩ := bind_eq_ok.1 done
  obtain ⟨queueType, queueOf, done⟩ := bind_eq_ok.1 done
  refine bind_eq_ok.2 ⟨connection, lookup_eq_ok.2 found, ?_⟩
  refine bind_eq_ok.2 ⟨(key, transaction, packet), located, ?_⟩
  refine bind_eq_ok.2 ⟨queueType, queueOf, ?_⟩
  dsimp only at done ⊢
  split at done
  · rename_i parked
    obtain ⟨ordered, rfl⟩ := by simpa using parked
    cases done
    rw [if_pos parked, if_neg (by simp)]
    rfl
  · rename_i notParked
    rw [if_neg notParked]
    split at done
    · rename_i unsolicited
      obtain ⟨ordered, rfl⟩ := by simpa using unsolicited
      obtain ⟨phantom, present, done⟩ := bind_eq_ok.1 done
      cases queueOf
      cases done
      rw [if_pos unsolicited, if_pos ⟨ordered, rfl⟩]
      exact bind_eq_ok.2 ⟨phantom, present, congrArg Except.ok (counted_late_enqueue ..)⟩
    · rename_i notUnsolicited
      rw [if_neg notUnsolicited, if_neg notUnsolicited]
      exact done

theorem joined_count_late (ordered : Bool) (item : WorkId) (queueType : PacketTypeQueue) :
    joinedCount true ordered item queueType = joinedCount false ordered item queueType +
      if ordered = true ∧ item.type = .pushUnsolicitedData ∧ queueType = .pushData then 1
      else 0 := by
  obtain ⟨rsn, type⟩ := item
  cases ordered <;> cases type <;> cases queueType <;> rfl

/-- `AddPacketToQueue` of the base scheduler makes ordered solicited data eligible, or adds the
packet's work items. -/
theorem base_add_packet_spec (done : addPacketToQueue before scid rsn type = .ok after) :
    ∃ connection, before.connections scid = some connection ∧
      ((connection.orderedMode = .ordered ∧ type = .pushSolicitedData ∧
        ∃ key transaction packet,
          connection.lookupPacket rsn type = .ok (key, transaction, packet) ∧
          MadeEligible before after scid connection key transaction packet) ∨
      (¬(connection.orderedMode = .ordered ∧ type = .pushSolicitedData) ∧
        ∃ counts, Enqueued before (recounted after counts) scid connection ⟨rsn, type⟩ ∧
          ∀ other, after.scheduler.packetQueueWisePktCount other =
            before.scheduler.packetQueueWisePktCount other +
              joinedCount false (isOrdered connection) ⟨rsn, type⟩ other)) := by
  obtain ⟨connection, found, -⟩ := bind_eq_ok.1 done
  rw [lookup_eq_ok] at found
  have fast := add_packet_fast found done
  obtain ⟨_, again, spec⟩ := SchedulerFrameProofs.add_packet_spec fast
  rw [found] at again
  cases again
  refine ⟨connection, found, ?_⟩
  by_cases late : connection.orderedMode = .ordered ∧ type = .pushUnsolicitedData
  · rw [if_pos late] at spec
    rcases spec with ⟨-, rfl, -⟩ | ⟨other, enqueued⟩
    · cases late.2
    · refine .inr ⟨other, _, enqueued, fun queueType => ?_⟩
      have counts := (counted_late_counts after queueType).symm.trans (enqueued.counts queueType)
      rw [← joined_count_early, joined_count_late, late.2] at counts
      simp only [late.1, decide_true, true_and] at counts
      rw [show isOrdered connection = true from decide_eq_true late.1, late.2]
      omega
  · rw [if_neg late] at spec
    rcases spec with made | ⟨other, enqueued⟩
    · exact .inl made
    · refine .inr ⟨other, after.scheduler.packetQueueWisePktCount, enqueued, fun queueType => ?_⟩
      rw [enqueued.counts, ← joined_count_early, joined_count_late, if_neg]
      · rfl
      · rintro ⟨ordered, unsolicited, -⟩
        exact late ⟨by simpa using ordered, unsolicited⟩

end Operations

/-! ## Steps -/

section Step
variable {before after : System}

theorem follows_same {early : Bool} (effect : Effect before after)
    (exact_ : Exact early after.host) : Follows early before after :=
  ⟨⟨after.host.scheduler.packetQueueWisePktCount, effect⟩, exact_⟩

theorem follows_join {ordered : Bool} (counts : PacketTypeQueue → Nat)
    (known : Counted false before) (effect : Effect before (withCounts after counts))
    (number : ∀ queueType, counted false (withCounts after counts).host queueType =
      counted false before.host queueType + joinedCount false ordered item queueType)
    (exact_ : ∀ queueType, after.host.scheduler.packetQueueWisePktCount queueType =
      before.host.scheduler.packetQueueWisePktCount queueType +
        joinedCount false ordered item queueType) : Follows false before after := by
  refine ⟨⟨counts, effect⟩, fun queueType => ?_⟩
  rw [exact_, known.counts]
  exact (number queueType).symm

theorem follows_progress {early : Bool} {old : TransactionMetadata}
    {value : Option TransactionMetadata} {refunded : Bool} (known : Counted early before)
    (spec : Progressed before.host after.host scid connection key old value refunded)
    (inserted : SamePending scid before.inserted after.inserted)
    (history : after.history = before.history) : Follows early before after := by
  refine follows_same (.progressed spec inserted history) fun queueType => ?_
  rw [spec.scheduler, counted_progressed known.consistent spec inserted]
  exact known.counts queueType

theorem follows_quiet {early : Bool} (known : Counted early before)
    (connections : ∀ scid, Option.Rel SameTransactions (before.host.connections scid)
      (after.host.connections scid))
    (packets : SamePackets before.host.scheduler after.host.scheduler)
    (admission : before.host.admission.Agrees before.host.now after.host.admission)
    (threshold : after.host.thresholdSolicit = before.host.thresholdSolicit)
    (network : after.host.network = before.host.network)
    (inserted : after.inserted = before.inserted) (history : after.history = before.history) :
    Follows early before after := by
  refine follows_same
    (.quiet connections packets admission threshold network inserted history) fun queueType => ?_
  rw [packets.counts, counted_quiet connections packets]
  exact known.counts queueType

theorem follows_submission {op : UlpOp} (known : Counted false before)
    (found : before.host.connections scid = some connection)
    (unused : (requestKind before.host.thresholdSolicit op).isSome →
      connection.transactions ⟨connection.nextRequestSequenceNumber, .initiator⟩ = none)
    (done : BaseConnectionScheduler.initiateTransaction before.host scid op = .ok after.host)
    (inserted : after.inserted = before.inserted)
    (history : after.history = Function.update before.history scid ((before.history scid).submit
      connection.nextRequestSequenceNumber (requestKind before.host.thresholdSolicit op))) :
    Follows false before after := by
  obtain ⟨_, again, done⟩ := bind_eq_ok.1 done
  rw [lookup_eq_ok, found] at again
  cases again
  obtain ⟨⟨rsn, type, final⟩, created, done⟩ := bind_eq_ok.1 done
  obtain ⟨middle, foundFinal, spec⟩ := base_add_packet_spec done
  have same : middle = final := by
    simp only [Host.setConnection, Function.update_self, Option.some.injEq] at foundFinal
    exact foundFinal.symm
  subst same
  rcases create_from_ulp_spec created with
    ⟨kind, transaction, isKind, pull, solicited, requested⟩ |
      ⟨old, transaction, isNone, rfl, responded⟩
  · have unusedNow := unused (by rw [isKind]; rfl)
    rw [← requested.assigned] at unusedNow
    rcases spec with ⟨-, data, -⟩ | ⟨-, counts, enqueued, exact_⟩
    · have request := requested.new.request
      rw [data] at request
      rcases request with request | request | request <;> cases request
    · rw [isKind, ← requested.assigned] at history
      exact follows_join counts known
        (.requested found unusedNow pull solicited requested enqueued inserted history)
        (counted_requested known.consistent found unusedNow requested enqueued inserted) exact_
  · rcases spec with ⟨-, data, -⟩ | ⟨-, counts, enqueued, exact_⟩
    · cases data
    · have same : after.history = before.history := by
        rw [history, isNone]
        exact Function.update_eq_self _ _
      exact follows_join counts known (.responded found responded enqueued inserted same)
        (counted_responded known.consistent found responded enqueued inserted) exact_

theorem follows_callback {rsn : UInt32} {type : PacketType} (known : Counted false before)
    (due : (scid, rsn, type) ∈ before.inserted)
    (done : BaseConnectionScheduler.reorderCallback before.host scid rsn type = .ok after.host)
    (inserted : after.inserted = before.inserted.erase (scid, rsn, type))
    (history : after.history = before.history) : Follows false before after := by
  by_cases answers : answered type
  · have added : ∃ next, getNextFalconPacket type = .ok next ∧
        addPacketToQueue before.host scid rsn next = .ok after.host := by
      rcases answers with rfl | rfl
      all_goals
        obtain ⟨next, answer, done⟩ := bind_eq_ok.1 done
        obtain ⟨location, -, done⟩ := bind_eq_ok.1 done
        obtain ⟨connection, -, done⟩ := bind_eq_ok.1 done
        obtain ⟨transaction, -, done⟩ := bind_eq_ok.1 done
        obtain ⟨packet, -, done⟩ := bind_eq_ok.1 done
        exact ⟨next, answer, done⟩
    obtain ⟨next, answer, added⟩ := added
    obtain ⟨connection, found, spec⟩ := base_add_packet_spec added
    rcases spec with ⟨ordered, rfl, key, transaction, packet, located, made⟩ |
      ⟨open_, counts, enqueued, exact_⟩
    · have grant : type = .pushGrant := by
        cases type <;> simp [getNextFalconPacket] at answer ⊢
      subst grant
      refine follows_same (.madeEligible due ordered located made inserted history)
        fun queueType => ?_
      rw [counted_made_eligible known.consistent due ordered located made inserted,
        ← known.counts, made.packets.counts]
      by_cases data : queueType = .pushData
      · subst data
        simp [Scheduler.countEnqueued]
      · simp [Scheduler.countEnqueued, data]
    · exact follows_join counts known
        (.answered due answer open_ enqueued inserted history)
        (counted_answered known.consistent due answer open_ enqueued inserted) exact_
  · have other : SchedulerSystem.reorderCallback before.host scid rsn type =
        .ok after.host := by
      unfold answered at answers
      rw [BaseConnectionScheduler.reorderCallback] at done
      · exact done
      · exact fun request => answers (.inl request)
      · exact fun grant => answers (.inr grant)
    rcases reorder_callback_spec other with ⟨kind, spec⟩ | ⟨answer, -⟩
    · have same := SamePending.erase scid rsn answers before.inserted
      rw [← inserted] at same
      exact follows_progress known spec same history
    · exact absurd (answer_type answer) answers

theorem follows_receive {packet : NetworkPacket} (known : Counted false before)
    (found : before.host.connections scid = some connection)
    (unused : beginsTransaction packet.type = true →
      connection.transactions ⟨packet.rsn, .target⟩ = none)
    (done : transferRxPacket before.host scid packet = .ok after.host)
    (inserted : after.inserted = before.inserted ++ [(scid, packet.rsn, packet.type)])
    (history : after.history = if packet.type = .pushGrant then
      Function.update before.history scid ((before.history scid).record
        (.granted ((before.history scid).number packet.rsn)))
      else before.history) : Follows false before after := by
  obtain ⟨current, again, done⟩ := bind_eq_ok.1 done
  rw [lookup_eq_ok, found] at again
  cases again
  obtain ⟨final, created, done⟩ := bind_eq_ok.1 done
  obtain ⟨location, base, transaction, arrived⟩ := create_from_network_spec created
  have same : after.host = before.host.setConnection scid final := (Except.ok.inj done).symm
  have spec : Received before.host after.host scid connection packet location base transaction := by
    rw [same]
    exact ⟨found, unused, ⟨final, arrived, rfl⟩, rfl, rfl, ⟨rfl, rfl, rfl, rfl⟩, rfl⟩
  refine follows_same (.received spec inserted history) fun queueType => ?_
  rw [spec.scheduler, counted_received known.consistent spec inserted]
  exact known.counts queueType

theorem follows_retransmit {final : ConnectionState} {transaction : TransactionMetadata}
    {packet : PacketMetadata} {early : Bool} (known : Counted early before)
    (spec : Retransmitted before.host after.host scid item connection key transaction packet final)
    (inserted : after.inserted = before.inserted) (history : after.history = before.history) :
    Follows early before after := by
  refine follows_same (.retransmitted spec inserted history) fun queueType => ?_
  rw [spec.packets.counts, counted_retransmitted known.consistent spec inserted]
  exact known.counts queueType

theorem follows_sent {served : PacketTypeQueue} {final : ConnectionState}
    {transaction : TransactionMetadata} {packet : PacketMetadata} {early : Bool}
    (known : Counted early before)
    (spec : Sent before.host after.host scid served item connection key transaction packet
      final rest) (inserted : after.inserted = before.inserted)
    (history : after.history = Function.update before.history scid
      ((before.history scid).record
        (.transmitted ((before.history scid).number item.rsn) item.type))) :
    Follows early before after := by
  refine follows_same (.sent spec inserted history) fun queueType => ?_
  have left := @counted_sent early _ _ _ _ _ _ _ _ _ _ _ spec inserted queueType
  rw [counts_popped known.counts spec.packets]
  omega

theorem follows_phantom {served : PacketTypeQueue} (known : Counted false before)
    (head : before.host.scheduler.queue scid served = item :: rest)
    (phantom : item.type = .invalid)
    (done : BaseConnectionScheduler.handlePhantomRequest before.host scid served item =
      .ok after.host) (inserted : after.inserted = before.inserted)
    (history : after.history = before.history) : Follows false before after := by
  obtain ⟨connection, found, -⟩ := bind_eq_ok.1 done
  rw [lookup_eq_ok] at found
  obtain rfl := phantom_queue known.consistent found head phantom
  obtain ⟨connection, key, transaction, packet, counts, spec, exact_⟩ :=
    phantom_spec head phantom rfl done
  have handled : PhantomHandled before.host (withCounts after counts).host scid
      .pullAndOrderedPushRequest item connection key transaction packet rest := spec
  refine ⟨⟨counts, .phantom handled inserted history⟩, fun queueType => ?_⟩
  have number : counted false after.host queueType + _ = counted false before.host queueType + _ :=
    counted_phantom known.consistent (known.paired scid) handled inserted queueType
  have popped : counts queueType = _ := counts_popped known.counts handled.packets queueType
  rw [exact_, popped]
  simp only [true_and] at number
  by_cases data : queueType = .pushData
  · subst data
    simp at number ⊢
    omega
  · simp only [data, if_false] at number ⊢
    omega

theorem base_step_follows (known : Counted false before)
    (step : BaseConnectionScheduler.Step before after) : Follows false before after := by
  cases step with
  | connect scid mode congestionControl scheduler fresh done established =>
    subst established
    unfold BaseConnectionScheduler.initConnectionSchedulerQueues at done
    split at done
    · cases done
    · rename_i unknown
      cases done
      have spec : Connected before.host ({ before.host with
          scheduler := { before.host.scheduler with
            connectionQueues := Function.update before.host.scheduler.connectionQueues scid
              (some fun _ => []) } }.setConnection scid
            { orderedMode := mode, congestionControl := congestionControl }) scid
          { orderedMode := mode, congestionControl := congestionControl } :=
        ⟨fresh, rfl, rfl, rfl, unknown, rfl, rfl, rfl, ⟨rfl, rfl, rfl, rfl⟩, rfl⟩
      refine follows_same (.connected spec rfl rfl) fun queueType => ?_
      rw [counted_connected spec]
      exact known.counts queueType
  | submit scid op found unused done =>
    exact follows_submission known found unused done rfl rfl
  | receive scid packet found unused done =>
    exact follows_receive known found unused done rfl rfl
  | callback scid rsn type due done => exact follows_callback known due done rfl rfl
  | ulpAck scid rsn done =>
    obtain ⟨connection, old, value, refunded, spec⟩ := ack_transaction_spec done
    exact follows_progress known spec (.refl _ _) rfl
  | ulpRnrNack scid rsn done =>
    obtain ⟨type, connection, old, value, refunded, spec⟩ := rnr_nack_transaction_spec done
    refine follows_progress known spec (.append scid rsn ?_ _) rfl
    rcases type with rfl | rfl | rfl <;> simp [answered]
  | networkAck scid rsn type done =>
    obtain ⟨connection, key, old, value, refunded, spec⟩ := ack_from_network_spec done
    refine follows_progress known spec ?_ rfl
    dsimp only
    split
    · exact .append scid rsn (by simp [answered]) _
    · exact .refl _ _
  | gating scid found write =>
    rename_i connection changed
    refine follows_quiet known (fun other => ?_) (.refl _) (.refl _ _) rfl rfl rfl rfl
    by_cases same : other = scid
    · subst same
      simp only [Host.setConnection, Function.update_self, found]
      unfold GatingWrite at write
      exact .some ⟨by rw [write], by rw [write], by rw [write]⟩
    · simp only [Host.setConnection, Function.update_of_ne same]
      exact option_rel_refl other
  | retransmit scid item found located sent done =>
    obtain ⟨final, spec⟩ := retransmit_spec found located sent done
    exact follows_retransmit known spec rfl rfl
  | tick => exact follows_quiet known option_rel_refl (.refl _) (.refl _ _) rfl rfl rfl rfl
  | xoff xoff =>
    exact follows_quiet known option_rel_refl (.refl _) (.refl _ _) rfl rfl rfl rfl
  | refuse scid queueType head real asked =>
    obtain ⟨connection, found, asked⟩ := bind_eq_ok.1 asked
    obtain ⟨⟨key, transaction, packet⟩, located, answer⟩ := bind_eq_ok.1 asked
    obtain ⟨-, rfl⟩ := Prod.mk.inj (Except.ok.inj answer)
    exact follows_quiet known option_rel_refl (.refl _)
      (AdmissionControlManager.meets_agrees _ _ _ _) rfl rfl rfl rfl
  | schedule scid queueType head real asked done =>
    obtain ⟨connection, key, transaction, packet, final, spec⟩ :=
      schedule_packet_spec head real asked done
    exact follows_sent known spec rfl rfl
  | phantom scid queueType head phantom done =>
    exact follows_phantom known head phantom done rfl rfl

end Step

/-! ## Both schedulers -/

inductive Variant where
  | fast | base
  deriving DecidableEq, Repr

namespace Variant

def Step : Variant → System → System → Prop
  | .fast => SchedulerSystem.Step
  | .base => BaseConnectionScheduler.Step

def Reachable (variant : Variant) : System → Prop := Runs.Reachable Initial variant.Step

/-- Whether unsolicited data of an ordered connection counts before its phantom is handled. -/
def countsAtOnce : Variant → Bool
  | .fast => true
  | .base => false

end Variant

/-- What the packet counts of a scheduler stand for, and what follows. -/
structure CountsSound (variant : Variant) (system : System) : Prop where
  counts : ∀ queueType, system.host.scheduler.packetQueueWisePktCount queueType =
    counted variant.countsAtOnce system.host queueType
  distinct : ∀ scid queueType, (system.host.scheduler.queue scid queueType).Nodup
  single : ∀ scid item first second, item ∈ system.host.scheduler.queue scid first →
    item ∈ system.host.scheduler.queue scid second → first = second
  removed : ∀ next scid queueType item, variant.Step system next →
    Left system next scid queueType item →
    next.host.scheduler.packetQueueWisePktCount queueType + 1 =
      system.host.scheduler.packetQueueWisePktCount queueType
  empty : ∀ queueType, (∀ scid, system.host.scheduler.queue scid queueType = []) →
    system.host.scheduler.packetQueueWisePktCount queueType = 0
  weight : ∀ scid connection queueType item, system.host.connections scid = some connection →
    item ∈ system.host.scheduler.queue scid queueType →
    isCounted variant.countsAtOnce connection item = true →
    0 < system.host.scheduler.weight queueType

section Sound
variable {variant : Variant} {system : System}

theorem variant_step_follows {next : System} (known : Counted variant.countsAtOnce system)
    (step : variant.Step system next) : Follows variant.countsAtOnce system next := by
  cases variant with
  | fast => exact fast_step_follows known step
  | base => exact base_step_follows known step

theorem reachable_counted (reachable : variant.Reachable system) :
    Counted variant.countsAtOnce system := by
  apply Runs.invariant_of_reachable _ _ reachable
  · intro state initial
    exact counted_initial variant.countsAtOnce initial
  · intro state next known step
    exact (variant_step_follows known step).counted known

/-- A connection without state has no work items. -/
theorem queue_of_unknown (consistent : SystemConsistent system)
    (unknown : system.host.connections scid = none) (queueType : PacketTypeQueue) :
    system.host.scheduler.queue scid queueType = [] := by
  have known := consistent.known scid
  rw [unknown, Option.isSome_none, Option.isSome_eq_false_iff, Option.isNone_iff_eq_none] at known
  simp only [Scheduler.queue, known]

theorem counted_pos {early : Bool} {scid : UInt32} {connection : ConnectionState}
    {queueType : PacketTypeQueue} {item : WorkId}
    (found : system.host.connections scid = some connection)
    (mem : item ∈ system.host.scheduler.queue scid queueType)
    (counts : isCounted early connection item = true) :
    0 < counted early system.host queueType := by
  have here : 0 < countedAt early system.host queueType scid := by
    rw [counted_at_of_found found]
    exact List.countP_pos_iff.2 ⟨item, mem, counts⟩
  exact Nat.lt_of_lt_of_le here (Ledger.balance_le_total _ scid)

/-- In both schedulers every work item that may be served counts once, as long as it waits. -/
theorem counts_sound (reachable : variant.Reachable system) : CountsSound variant system := by
  have known := reachable_counted reachable
  have waits {scid : UInt32} {queueType : PacketTypeQueue} {item : WorkId}
      (mem : item ∈ system.host.scheduler.queue scid queueType) :
      ∃ connection, system.host.connections scid = some connection ∧
        Waiting connection queueType item := by
    cases found : system.host.connections scid with
    | none =>
      rw [queue_of_unknown known.consistent found] at mem
      cases mem
    | some connection =>
      exact ⟨connection, rfl,
        ((known.consistent.each scid connection found).each _).waiting queueType item mem rfl⟩
  constructor
  case counts => exact known.counts
  case distinct =>
    intro scid queueType
    cases found : system.host.connections scid with
    | none =>
      rw [queue_of_unknown known.consistent found]
      exact List.nodup_nil
    | some connection => exact (known.consistent.each scid connection found).nodup queueType
  case single =>
    intro scid item first second inFirst inSecond
    obtain ⟨connection, found, one⟩ := waits inFirst
    obtain ⟨_, again, two⟩ := waits inSecond
    rw [found] at again
    cases again
    exact belongs_in_unique one.queue two.queue
  case removed =>
    intro next scid queueType item step left
    exact count_of_left known (variant_step_follows known step) left
  case empty =>
    intro queueType nothing
    rw [known.counts]
    refine Ledger.total_zero fun scid => ?_
    unfold countedAt
    split
    · rfl
    · rw [nothing]
      rfl
  case weight =>
    intro scid connection queueType item found mem counts
    have positive := counted_pos found mem counts
    rw [← known.counts] at positive
    unfold Scheduler.weight computePacketTypeWeight
    omega

end Sound

/-! ## A write on an ordered connection -/

/-- A host of the base scheduler with one ordered connection. -/
def orderedHost : Host :=
  let host := SchedulerExecution.freshHost SchedulerAdmissionProofs.windowAdmission 4096
  { host with
    scheduler := { host.scheduler with
      connectionQueues := Function.update host.scheduler.connectionQueues 0
        (some fun _ => []) } }.setConnection 0
    { orderedMode := .ordered, congestionControl := SchedulerExecution.openWindow }

/-- Unsolicited data waits, and only its phantom is counted. -/
def dataWaits (host : Host) : Bool :=
  decide (host.scheduler.packetQueueWisePktCount .pushData = 0) &&
    decide (host.scheduler.packetQueueWisePktCount .pullAndOrderedPushRequest = 1) &&
    decide (⟨0, .pushUnsolicitedData⟩ ∈ host.scheduler.queue 0 .pushData) &&
    (host.connections 0).isSome

theorem data_waits : ∃ system, Variant.base.Reachable system ∧ dataWaits system.host = true := by
  have initial : Variant.base.Reachable _ := Runs.reachable_initial
    (SchedulerExecution.fresh_host_initial SchedulerAdmissionProofs.windowAdmission 4096 rfl)
  have connected : Variant.base.Reachable { host := orderedHost } := by
    refine Runs.reachable_step initial ?_
    exact BaseConnectionScheduler.Step.connect 0 .ordered SchedulerExecution.openWindow _ rfl rfl rfl
  have waits : (match BaseConnectionScheduler.initiateTransaction orderedHost 0 (.write 64 64 0) with
      | .ok host => dataWaits host
      | .error _ => false) = true := by decide +kernel
  split at waits
  · rename_i host done
    have submitted := @BaseConnectionScheduler.Step.submit { host := orderedHost } host _ 0
      (.write 64 64 0) rfl (fun _ => rfl) done
    exact ⟨_, Runs.reachable_step connected submitted, waits⟩
  · cases waits

theorem counts_sound_of_write : ∃ system, Variant.base.Reachable system ∧
    system.host.scheduler.packetQueueWisePktCount .pullAndOrderedPushRequest = 1 ∧
    CountsSound .base system := by
  obtain ⟨system, reachable, waits⟩ := data_waits
  simp only [dataWaits, Bool.and_eq_true, decide_eq_true_eq] at waits
  exact ⟨system, reachable, waits.1.1.2, counts_sound reachable⟩

/-- The base scheduler does not count unsolicited data that waits for its phantom. -/
theorem base_counts_late : ¬∀ (variant : Variant) (system : System), variant.Reachable system →
    ∀ queueType, system.host.scheduler.packetQueueWisePktCount queueType =
      counted true system.host queueType := by
  intro claimed
  obtain ⟨system, reachable, waits⟩ := data_waits
  simp only [dataWaits, Bool.and_eq_true, decide_eq_true_eq] at waits
  obtain ⟨⟨⟨nothing, -⟩, mem⟩, live⟩ := waits
  obtain ⟨connection, found⟩ := Option.isSome_iff_exists.1 live
  have positive := @counted_pos system true 0 connection .pushData _ found mem (by simp [isCounted])
  rw [← claimed .base system reachable, nothing] at positive
  exact absurd positive (Nat.lt_irrefl 0)

end Isekai.BaseCountProofs
