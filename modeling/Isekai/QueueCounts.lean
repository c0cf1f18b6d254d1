import Isekai.SchedulerAdmissionProofs

/-! What the packet counts of a connection scheduler stand for: the work items in the queues of a
type, over all connections, that may be served as far as their own flag goes. The fast scheduler
counts unsolicited data from the moment it is queued, the base scheduler from the moment its phantom
is handled. Here is what each effect of a step does to the number of these items. -/

namespace Isekai.QueueCounts
open FastConnectionScheduler SchedulerSystem SchedulerFrameProofs SchedulerTransactionProofs
open SchedulerEffects SchedulerRunProofs

variable {type : PacketType} {transaction : TransactionMetadata}

/-! ## The items that count -/

/-- The `is_transmission_eligible` flag of a packet of a transaction. -/
def flagOf (transaction : Option TransactionMetadata) (type : PacketType) : Bool :=
  transaction.any fun transaction => (transaction.packets type).any (·.isTransmissionEligible)

/-- Whether the packet of a work item may be served. -/
def isEligible (connection : ConnectionState) (item : WorkId) : Bool :=
  flagOf (connection.transactions (itemKey item)) item.type

/-- Whether a work item counts, where `early` is whether unsolicited data counts at once. -/
def isCounted (early : Bool) (connection : ConnectionState) (item : WorkId) : Bool :=
  isEligible connection item || (early && item.type = .pushUnsolicitedData)

def countedAt (early : Bool) (host : Host) (queueType : PacketTypeQueue) (scid : UInt32) : Nat :=
  match host.connections scid with
  | none => 0
  | some connection => (host.scheduler.queue scid queueType).countP (isCounted early connection)

/-- The work items in the queues of a type that count, over all connections. -/
noncomputable def counted (early : Bool) (host : Host) (queueType : PacketTypeQueue) : Nat :=
  Ledger.total (countedAt early host queueType)

section Connection
variable {early : Bool} {connection after : ConnectionState} {queues : PacketTypeQueue → List WorkId}
  {grants requests : UInt32 → Nat} {queueType : PacketTypeQueue} {item : WorkId}

theorem counted_at_of_found {host : Host} {scid : UInt32}
    (found : host.connections scid = some connection) : countedAt early host queueType scid =
      (host.scheduler.queue scid queueType).countP (isCounted early connection) := by
  simp only [countedAt, found]

theorem flag_of_present {packet : PacketMetadata}
    (present : transaction.packets type = some packet) :
    flagOf (some transaction) type = packet.isTransmissionEligible := by
  simp [flagOf, present]

/-- A change of one transaction leaves the flags of the items alone that it leaves alone there. -/
theorem is_eligible_update {key : TransactionKey} {value : Option TransactionMetadata}
    (transactions : after.transactions = Function.update connection.transactions key value)
    (same : itemKey item = key → flagOf value item.type =
      flagOf (connection.transactions key) item.type) :
    isEligible after item = isEligible connection item := by
  unfold isEligible
  rw [transactions]
  by_cases here : itemKey item = key
  · rw [here, Function.update_self, same here]
  · rw [Function.update_of_ne here]

theorem is_counted_congr (same : isEligible after item = isEligible connection item) :
    isCounted early after item = isCounted early connection item := by
  unfold isCounted
  rw [same]

theorem count_congr {items : List WorkId}
    (same : ∀ item ∈ items, isEligible after item = isEligible connection item) :
    items.countP (isCounted early after) = items.countP (isCounted early connection) :=
  List.countP_congr fun item mem => by rw [is_counted_congr (same item mem)]

/-- The work items of an idle transaction are in no queue, so its end or its beginning changes no
flag. -/
theorem eligible_of_idle {key : TransactionKey} {value : Option TransactionMetadata}
    (idle : Idle queues grants requests key)
    (transactions : after.transactions = Function.update connection.transactions key value)
    (mem : item ∈ queues queueType) : isEligible after item = isEligible connection item :=
  is_eligible_update transactions fun here => absurd here (idle.items queueType item mem)

end Connection

section Hosts
variable {early : Bool} {before after : System} {scid : UInt32}
  {connection final : ConnectionState} {queueType : PacketTypeQueue}

/-- What a step that concerns one connection does to the number. -/
theorem counted_move (found : before.host.connections scid = some connection)
    (only : OnlyAt before after scid final) :
    counted early after.host queueType +
        (before.host.scheduler.queue scid queueType).countP (isCounted early connection) =
      counted early before.host queueType +
        (after.host.scheduler.queue scid queueType).countP (isCounted early final) := by
  have here : after.host.connections scid = some final := by
    rw [only.connections, Function.update_self]
  rw [← counted_at_of_found found, ← counted_at_of_found here]
  refine Ledger.total_move _ _ scid fun other different => ?_
  simp only [countedAt, only.connections, Function.update_of_ne different,
    only.queues other different]

/-- The number stays when the items of the connection and their flags do. -/
theorem counted_keep (found : before.host.connections scid = some connection)
    (only : OnlyAt before after scid final)
    (queue : after.host.scheduler.queue scid queueType = before.host.scheduler.queue scid queueType)
    (same : ∀ item ∈ before.host.scheduler.queue scid queueType,
      isEligible final item = isEligible connection item) :
    counted early after.host queueType = counted early before.host queueType := by
  have moved := @counted_move early _ _ _ _ _ queueType found only
  rw [queue, count_congr same] at moved
  omega

/-- New items at the end of the queue add those of them that count. -/
theorem counted_join (found : before.host.connections scid = some connection)
    (only : OnlyAt before after scid final) {joined : List WorkId}
    (queue : after.host.scheduler.queue scid queueType =
      before.host.scheduler.queue scid queueType ++ joined)
    (same : ∀ item ∈ before.host.scheduler.queue scid queueType,
      isEligible final item = isEligible connection item) :
    counted early after.host queueType =
      counted early before.host queueType + joined.countP (isCounted early final) := by
  have moved := @counted_move early _ _ _ _ _ queueType found only
  rw [queue, List.countP_append, count_congr same] at moved
  omega

end Hosts

/-! ## Transactions that arrive or move on -/

section Flags
variable {connection final : ConnectionState} {queues : PacketTypeQueue → List WorkId}
  {grants requests : UInt32 → Nat} {queueType : PacketTypeQueue} {item : WorkId}

/-- A packet for a transaction that exists does not begin a new one. -/
theorem emplaced_of_live {packet : NetworkPacket} {location : TransactionLocation}
    {base : TransactionMetadata} (side : getTransactionLocation packet.type true = .ok location)
    (emplaced : emplaceTransaction connection packet = .ok base)
    (live : connection.transactions ⟨packet.rsn, location⟩ = some transaction) :
    base = transaction := by
  unfold emplaceTransaction at emplaced
  cases type : packet.type <;> rw [type] at side emplaced <;> cases side <;>
    simp_all [ConnectionState.getTransaction]

/-- A packet that arrives is of another type than those that wait to be sent. -/
theorem received_eligible (consistent : Consistent connection queues grants requests)
    {packet : NetworkPacket} {location : TransactionLocation} {base : TransactionMetadata}
    (arrived : Arrived connection packet location base transaction final)
    (mem : item ∈ queues queueType) : isEligible final item = isEligible connection item := by
  refine @is_eligible_update connection final item ⟨packet.rsn, location⟩ (some transaction)
    (by rw [arrived.after]; rfl) fun here => ?_
  obtain ⟨old, waiting, live, -⟩ := ((consistent.each _).waiting queueType item mem rfl).live
  rw [here] at live
  have different : item.type ≠ packet.type := by
    intro same
    have side := arrived.side
    have location_ : itemLocation item.type = location := congrArg TransactionKey.location here
    rw [← same] at side
    cases type : item.type <;> rw [type] at side location_ <;> cases side <;> cases location_
  rw [live, ← emplaced_of_live arrived.side arrived.emplaced live]
  simp only [flagOf, Option.any_some, arrived.others item.type different]

/-- A transaction that moves on keeps its packets, and one that ends has none in the queues. -/
theorem progress_eligible (consistent : Consistent connection queues grants requests)
    {key : TransactionKey} {old : TransactionMetadata} {value : Option TransactionMetadata}
    {refunded : Bool} (live : connection.transactions key = some old)
    (progress : Progress old key.location value refunded) (mem : item ∈ queues queueType) :
    isEligible { connection with
      transactions := Function.update connection.transactions key value } item =
        isEligible connection item := by
  have ended : old.state ∉ liveStates key.location → isEligible { connection with
      transactions := Function.update connection.transactions key value } item =
        isEligible connection item := by
    intro past
    refine eligible_of_idle (idle_of_state consistent fun transaction found => ?_) rfl mem
    rw [live] at found
    cases found
    exact past
  have moved (state : TransactionState) (same : value = some { old with state := state }) :
      isEligible { connection with
        transactions := Function.update connection.transactions key value } item =
          isEligible connection item := by
    refine is_eligible_update rfl fun _ => ?_
    rw [live, same]
    rfl
  obtain ⟨rsn, location⟩ := key
  dsimp only at progress ended
  cases progress with
  | handed data step => exact moved _ rfl
  | refused step => exact moved _ rfl
  | accepted pull step => exact moved _ rfl
  | pushed push step =>
    refine ended ?_
    obtain ⟨state, step⟩ := step
    cases type : old.type <;> rw [type] at step <;>
    · have before := (expect_eq_ok.1 step).1
      simp at before
      simp [before, liveStates]
  | pulled step => exact ended (by simp [step, liveStates])
  | completed step =>
    refine ended ?_
    rcases step with step | step <;> simp [step, liveStates]
  | acked side step =>
    rename_i type state
    by_cases data : type = .pullData
    · subst data
      cases side
      have before := (expect_eq_ok.1 step).1
      simp at before
      exact ended (by simp [before, liveStates])
    · exact moved state (if_neg data)

end Flags

/-! ## Work items that join -/

/-- Whether a work item counts when it joins. Ordered solicited data counts later, and so does
ordered unsolicited data, unless it counts at once. -/
def countsOnJoin (early ordered : Bool) (item : WorkId) : Bool :=
  !(ordered && (item.type = .pushSolicitedData || (!early && item.type = .pushUnsolicitedData)))

/-- How many of the work items that join a queue with a packet count. -/
def joinedCount (early ordered : Bool) (item : WorkId) (queueType : PacketTypeQueue) : Nat :=
  ((joining ordered item queueType).filter (countsOnJoin early ordered)).length

section Joins
variable {early : Bool} {connection final : ConnectionState}
  {queues : PacketTypeQueue → List WorkId} {grants requests : UInt32 → Nat}
  {queueType : PacketTypeQueue} {item joined : WorkId} {rsn : UInt32}

theorem joined_count_early (ordered : Bool) (item : WorkId) (queueType : PacketTypeQueue) :
    joinedCount true ordered item queueType =
      ((joining ordered item queueType).filter (countedOnJoin ordered)).length := by
  have same : countsOnJoin true ordered = countedOnJoin ordered := by
    funext other
    simp [countsOnJoin, countedOnJoin]
  rw [joinedCount, same]

theorem count_joined (same : ∀ joined ∈ joining (isOrdered final) item queueType,
      isCounted early final joined = countsOnJoin early (isOrdered final) joined) :
    (joining (isOrdered final) item queueType).countP (isCounted early final) =
      joinedCount early (isOrdered final) item queueType := by
  rw [joinedCount, ← List.countP_eq_length_filter]
  exact List.countP_congr fun joined mem => by rw [same joined mem]

theorem mem_joining {ordered : Bool} (mem : joined ∈ joining ordered item queueType) :
    joined = item ∨
      (ordered = true ∧ item.type = .pushUnsolicitedData ∧ joined = ⟨item.rsn, .invalid⟩) ∨
      (ordered = true ∧ item.type = .pushRequest ∧ joined = ⟨item.rsn, .pushSolicitedData⟩) := by
  unfold joining companion at mem
  rw [List.mem_append] at mem
  rcases mem with own | brought
  · split at own
    · exact .inl (List.mem_singleton.1 own)
    · cases own
  · split_ifs at brought with unsolicited request
    · exact .inr (.inl ⟨unsolicited.1, unsolicited.2.1, List.mem_singleton.1 brought⟩)
    · exact .inr (.inr ⟨request.1, request.2.1, List.mem_singleton.1 brought⟩)
    · cases brought

/-- The work items of a new request. -/
theorem requested_counts (spec : Requested connection rsn type transaction final)
    (mem : joined ∈ joining (isOrdered final) ⟨rsn, type⟩ queueType) :
    isCounted early final joined = countsOnJoin early (isOrdered final) joined := by
  have same : isOrdered final = isOrdered connection := by
    unfold isOrdered
    rw [spec.orderedMode]
  have live : final.transactions ⟨rsn, .initiator⟩ = some transaction := by
    rw [spec.transactions, Function.update_self]
  obtain ⟨request, -, ⟨packet, present, -, eligible⟩, data, phantom⟩ := spec.new
  rw [← same] at eligible data phantom
  unfold isCounted isEligible countsOnJoin
  rcases mem_joining mem with rfl | ⟨ordered, unsolicited, rfl⟩ | ⟨ordered, solicited, rfl⟩
  · have key : itemKey ⟨rsn, type⟩ = ⟨rsn, .initiator⟩ := by
      rcases request with rfl | rfl | rfl <;> rfl
    rw [key, live, flag_of_present present, eligible]
    rcases request with rfl | rfl | rfl <;> cases isOrdered final <;> cases early <;> rfl
  · obtain ⟨marker, markerPresent, -, markerEligible⟩ := phantom ordered unsolicited
    have key : itemKey ⟨rsn, .invalid⟩ = ⟨rsn, .initiator⟩ := rfl
    rw [key, live, flag_of_present markerPresent, markerEligible]
    simp
  · obtain ⟨parked, parkedPresent, -, parkedEligible⟩ := data solicited
    have key : itemKey ⟨rsn, .pushSolicitedData⟩ = ⟨rsn, .initiator⟩ := rfl
    rw [key, live, flag_of_present parkedPresent, parkedEligible, ordered]
    simp

/-- A work item that joins alone, with its flag set, counts. -/
theorem eligible_counts {ordered : Bool} (eligible : isEligible final item = true)
    (notRequest : item.type ≠ .pushRequest) (notUnsolicited : item.type ≠ .pushUnsolicitedData)
    (open_ : ordered = true → item.type ≠ .pushSolicitedData)
    (mem : joined ∈ joining ordered item queueType) :
    isCounted early final joined = countsOnJoin early ordered joined := by
  rcases mem_joining mem with rfl | ⟨-, unsolicited, -⟩ | ⟨-, request, -⟩
  · unfold isCounted countsOnJoin
    rw [eligible]
    cases ordered with
    | false => rfl
    | true => simp [open_ rfl, notUnsolicited]
  · exact absurd unsolicited notUnsolicited
  · exact absurd request notRequest

end Joins

/-! ## Work items that leave, and flags that are set -/

section Changes
variable {early : Bool} {connection final : ConnectionState} {items rest : List WorkId}
  {item : WorkId} {key : TransactionKey} {transaction : TransactionMetadata}
  {packet : PacketMetadata}

theorem flag_of_create (transaction : TransactionMetadata) (type other : PacketType)
    (packet : PacketMetadata) : flagOf (some (transaction.createPacket type packet)) other =
      if other = type then packet.isTransmissionEligible else flagOf (some transaction) other := by
  by_cases same : other = type
  · subst same
    simp [flagOf, create_packet_self]
  · simp [flagOf, create_packet_other transaction packet same, same]

theorem transmitted_flags {before moved : TransactionMetadata} {first : Bool}
    (done : Host.transmittedTransaction before type first = .ok moved) (other : PacketType) :
    flagOf (some moved) other = flagOf (some before) other := by
  unfold Host.transmittedTransaction at done
  split at done
  · obtain ⟨state, -, rfl⟩ := update_state_eq_ok.1 done
    rfl
  · cases done
    rfl

/-- A transmission leaves all flags as they are. -/
theorem transmitted_eligible
    (located : connection.lookupPacket item.rsn item.type = .ok (key, transaction, packet))
    (transmitted : Transmitted connection item key transaction packet final) (other : WorkId) :
    isEligible final other = isEligible connection other := by
  obtain ⟨sent, moved, transactions, eligible, step⟩ := transmitted.transactions
  obtain ⟨-, live, present⟩ := lookup_packet_eq_ok.1 located
  refine is_eligible_update transactions fun _ => ?_
  rw [live, transmitted_flags step, flag_of_create]
  split
  · rename_i same
    rw [same, flag_of_present present, eligible]
  · rfl

/-- The head of a queue that counts leaves. -/
theorem count_left (head : isCounted early connection item = true)
    (same : ∀ other ∈ rest, isEligible final other = isEligible connection other) :
    rest.countP (isCounted early final) + 1 =
      (item :: rest).countP (isCounted early connection) := by
  rw [List.countP_cons_of_pos head, count_congr same]

/-- One item of a queue begins to count. -/
theorem count_flip (nodup : items.Nodup) (mem : item ∈ items)
    (was : isCounted early connection item = false) (now : isCounted early final item = true)
    (others : ∀ other ∈ items, other ≠ item →
      isEligible final other = isEligible connection other) :
    items.countP (isCounted early final) = items.countP (isCounted early connection) + 1 := by
  have perm := List.perm_cons_erase mem
  have same : ∀ other ∈ items.erase item, isEligible final other = isEligible connection other := by
    intro other stays
    obtain ⟨different, inside⟩ := nodup.mem_erase_iff.1 stays
    exact others other inside different
  rw [perm.countP_eq, perm.countP_eq, List.countP_cons_of_pos now,
    List.countP_cons_of_neg (by simp [was]), count_congr same]

/-- Setting the flag of one packet sets the flag of its work item only. -/
theorem set_flag_eligible {type : PacketType}
    (located : connection.lookupPacket item.rsn type = .ok (key, transaction, packet))
    (transactions : final.transactions = Function.update connection.transactions key
      (some (transaction.createPacket type { packet with isTransmissionEligible := true })))
    (other : WorkId) : isEligible final other =
      (isEligible connection other || other = ⟨item.rsn, type⟩) := by
  have keyIs : key = itemKey ⟨item.rsn, type⟩ := item_key_of_located located
  obtain ⟨-, live, present⟩ := lookup_packet_eq_ok.1 located
  by_cases here : other = ⟨item.rsn, type⟩
  · unfold isEligible
    rw [here, ← keyIs, transactions, Function.update_self, flag_of_create, if_pos rfl]
    simp
  · rw [decide_eq_false here, Bool.or_false]
    refine is_eligible_update transactions fun same => ?_
    have otherType : other.type ≠ type := by
      rintro rfl
      rw [keyIs] at same
      have rsn : other.rsn = item.rsn := congrArg TransactionKey.rsn same
      exact here (by rw [← rsn])
    rw [live, flag_of_create, if_neg otherType]

end Changes

/-! ## What the effects of a step do to the number -/

section Effects
variable {early : Bool} {before after : System} {scid rsn : UInt32}
  {connection final : ConnectionState} {item : WorkId} {key : TransactionKey}
  {transaction old : TransactionMetadata} {packet : PacketMetadata} {rest : List WorkId}

theorem counted_quiet (connections : ∀ scid, Option.Rel SameTransactions
      (before.host.connections scid) (after.host.connections scid))
    (packets : SamePackets before.host.scheduler after.host.scheduler)
    (queueType : PacketTypeQueue) :
    counted early after.host queueType = counted early before.host queueType := by
  refine Ledger.total_congr fun other => ?_
  unfold countedAt
  rw [packets.queue]
  have related := connections other
  generalize before.host.connections other = was, after.host.connections other = now at related ⊢
  cases related with
  | none => rfl
  | some same =>
    refine count_congr fun item _ => ?_
    unfold isEligible
    rw [same.transactions]

theorem counted_connected (spec : Connected before.host after.host scid connection)
    (queueType : PacketTypeQueue) :
    counted early after.host queueType = counted early before.host queueType := by
  refine Ledger.total_congr fun other => ?_
  by_cases same : other = scid
  · subst same
    simp [countedAt, spec.connections, spec.fresh, Scheduler.queue, spec.queues]
  · simp [countedAt, spec.connections, Scheduler.queue, spec.queues, same]

theorem counted_requested (consistent : SystemConsistent before)
    (found : before.host.connections scid = some connection)
    (unused : connection.transactions ⟨rsn, .initiator⟩ = none)
    (spec : Requested connection rsn type transaction final)
    (enqueued : Enqueued (before.host.setConnection scid final) after.host scid final ⟨rsn, type⟩)
    (inserted : after.inserted = before.inserted) (queueType : PacketTypeQueue) :
    counted early after.host queueType = counted early before.host queueType +
      joinedCount early (isOrdered final) ⟨rsn, type⟩ queueType := by
  have idle : Idle (before.host.scheduler.queue scid) (pending before scid .pushGrant)
      (pending before scid .pushRequest) ⟨rsn, .initiator⟩ :=
    idle_of_state (consistent.each scid connection found) (by simp [unused])
  rw [counted_join found (enqueued_only_at enqueued inserted)
      (congrFun (queue_of_enqueued enqueued) queueType)
      (fun item mem => eligible_of_idle idle spec.transactions mem),
    count_joined fun joined mem => requested_counts spec mem]

theorem counted_responded (consistent : SystemConsistent before)
    (found : before.host.connections scid = some connection)
    (spec : Responded connection rsn old transaction final)
    (enqueued : Enqueued (before.host.setConnection scid final) after.host scid final
      ⟨rsn, .pullData⟩)
    (inserted : after.inserted = before.inserted) (queueType : PacketTypeQueue) :
    counted early after.host queueType = counted early before.host queueType +
      joinedCount early (isOrdered final) ⟨rsn, .pullData⟩ queueType := by
  have idle : Idle (before.host.scheduler.queue scid) (pending before scid .pushGrant)
      (pending before scid .pushRequest) ⟨rsn, .target⟩ :=
    idle_of_state (consistent.each scid connection found)
      (by simp [spec.live, spec.before, liveStates])
  obtain ⟨sent, present, -, flag⟩ := spec.packet
  have eligible : isEligible final ⟨rsn, .pullData⟩ = true := by
    have key : itemKey ⟨rsn, .pullData⟩ = ⟨rsn, .target⟩ := rfl
    unfold isEligible
    rw [key, spec.transactions, Function.update_self, flag_of_present present, flag]
  rw [counted_join found (enqueued_only_at enqueued inserted)
      (congrFun (queue_of_enqueued enqueued) queueType)
      (fun item mem => eligible_of_idle idle spec.transactions mem),
    count_joined fun joined mem => eligible_counts eligible (by simp) (by simp) (by simp) mem]

theorem counted_received {packet : NetworkPacket} {location : TransactionLocation}
    {base : TransactionMetadata} (consistent : SystemConsistent before)
    (spec : Received before.host after.host scid connection packet location base transaction)
    (inserted : after.inserted = before.inserted ++ [(scid, packet.rsn, packet.type)])
    (queueType : PacketTypeQueue) :
    counted early after.host queueType = counted early before.host queueType := by
  obtain ⟨final, arrived, connections⟩ := spec.arrived
  exact counted_keep spec.found (received_only_at consistent spec connections inserted)
    (by rw [spec.scheduler]) fun item mem =>
      received_eligible (consistent.each scid connection spec.found) arrived mem

theorem counted_progressed {value : Option TransactionMetadata} {refunded : Bool}
    (consistent : SystemConsistent before)
    (spec : Progressed before.host after.host scid connection key old value refunded)
    (inserted : SamePending scid before.inserted after.inserted) (queueType : PacketTypeQueue) :
    counted early after.host queueType = counted early before.host queueType :=
  counted_keep spec.found (progressed_only_at consistent spec inserted) (by rw [spec.scheduler])
    fun _ mem =>
      progress_eligible (consistent.each scid connection spec.found) spec.live spec.progress mem

theorem counted_retransmitted (consistent : SystemConsistent before)
    (spec : Retransmitted before.host after.host scid item connection key transaction packet final)
    (inserted : after.inserted = before.inserted) (queueType : PacketTypeQueue) :
    counted early after.host queueType = counted early before.host queueType :=
  counted_keep spec.found (retransmitted_only_at consistent spec inserted)
    (by rw [spec.packets.queue]) fun other _ =>
      transmitted_eligible spec.located spec.transmitted other

theorem counted_answered {next : PacketType} (consistent : SystemConsistent before)
    (due : (scid, rsn, type) ∈ before.inserted) (answer : getNextFalconPacket type = .ok next)
    (open_ : ¬(connection.orderedMode = .ordered ∧ next = .pushSolicitedData))
    (enqueued : Enqueued before.host after.host scid connection ⟨rsn, next⟩)
    (inserted : after.inserted = before.inserted.erase (scid, rsn, type))
    (queueType : PacketTypeQueue) :
    counted early after.host queueType = counted early before.host queueType +
      joinedCount early (isOrdered connection) ⟨rsn, next⟩ queueType := by
  have each := consistent.each scid connection enqueued.found
  have waits : pending before scid type rsn ≠ 0 := (List.count_pos_iff.2 due).ne'
  have only := answered_only_at enqueued inserted
  have joins (eligible : isEligible connection ⟨rsn, next⟩ = true) (notRequest : next ≠ .pushRequest)
      (notUnsolicited : next ≠ .pushUnsolicitedData)
      (solicited : isOrdered connection = true → next ≠ .pushSolicitedData) :
      counted early after.host queueType = counted early before.host queueType +
        joinedCount early (isOrdered connection) ⟨rsn, next⟩ queueType := by
    rw [counted_join enqueued.found only (congrFun (queue_of_enqueued enqueued) queueType)
        (fun _ _ => rfl),
      count_joined fun joined mem =>
        eligible_counts eligible notRequest notUnsolicited solicited mem]
  cases type with
  | pushRequest =>
    cases answer
    obtain ⟨-, grant, sent, live, -, present, flag, -, -⟩ :=
      (each.each ⟨rsn, .target⟩).requested rfl waits
    refine joins ?_ (by simp) (by simp) (by simp)
    have key : itemKey ⟨rsn, .pushGrant⟩ = ⟨rsn, .target⟩ := rfl
    unfold isEligible
    rw [key, live, flag_of_present present, flag]
  | pushGrant =>
    cases answer
    obtain ⟨-, push, live, -, data, present, -, flag, -⟩ :=
      (each.each ⟨rsn, .initiator⟩).granted rfl waits
    have unordered : isOrdered connection = false := by simpa [isOrdered] using open_
    refine joins ?_ (by simp) (by simp) (by simp [unordered])
    have key : itemKey ⟨rsn, .pushSolicitedData⟩ = ⟨rsn, .initiator⟩ := rfl
    unfold isEligible
    rw [key, live, flag_of_present present, flag, unordered]
    rfl
  | _ => cases answer

theorem data_queue {queues : PacketTypeQueue → List WorkId} {grants requests : UInt32 → Nat}
    (consistent : Consistent connection queues grants requests)
    (data : type = .pushSolicitedData ∨ type = .pushUnsolicitedData) {queueType : PacketTypeQueue}
    (mem : ⟨rsn, type⟩ ∈ queues queueType) : queueType = .pushData := by
  have belongs := ((consistent.each _).waiting queueType ⟨rsn, type⟩ mem rfl).queue
  unfold BelongsIn at belongs
  rcases data with rfl | rfl <;>
  · rw [if_neg (by simp)] at belongs
    exact (Except.ok.inj belongs).symm

/-- The grant of an ordered push makes its queued data count. -/
theorem counted_made_eligible (consistent : SystemConsistent before)
    (due : (scid, rsn, .pushGrant) ∈ before.inserted) (ordered : connection.orderedMode = .ordered)
    (located : connection.lookupPacket rsn .pushSolicitedData = .ok (key, transaction, packet))
    (spec : MadeEligible before.host after.host scid connection key transaction packet)
    (inserted : after.inserted = before.inserted.erase (scid, rsn, .pushGrant))
    (queueType : PacketTypeQueue) :
    counted early after.host queueType = counted early before.host queueType +
      if queueType = .pushData then 1 else 0 := by
  have each := consistent.each scid connection spec.found
  have waits : pending before scid .pushGrant rsn ≠ 0 := (List.count_pos_iff.2 due).ne'
  have only := made_eligible_only_at consistent spec inserted
  have queue : after.host.scheduler.queue scid queueType =
      before.host.scheduler.queue scid queueType := by
    rw [spec.packets.queue]
    rfl
  have flags (other : WorkId) : isEligible (connection.setTransaction key
      (transaction.createPacket .pushSolicitedData { packet with isTransmissionEligible := true }))
        other = (isEligible connection other || other = ⟨rsn, .pushSolicitedData⟩) :=
    @set_flag_eligible _ _ ⟨rsn, .pushSolicitedData⟩ _ _ _ _ located rfl other
  split
  · rename_i data
    subst data
    obtain ⟨-, push, live, -, parked, present, -, flag, queued⟩ :=
      (each.each ⟨rsn, .initiator⟩).granted rfl waits
    have isOrdered_ : isOrdered connection = true := decide_eq_true ordered
    have was : isEligible connection ⟨rsn, .pushSolicitedData⟩ = false := by
      have keyIs : itemKey ⟨rsn, .pushSolicitedData⟩ = ⟨rsn, .initiator⟩ := rfl
      unfold isEligible
      rw [keyIs, live, flag_of_present present, flag, isOrdered_]
      rfl
    have wasCounted : isCounted early connection ⟨rsn, .pushSolicitedData⟩ = false := by
      simp [isCounted, was]
    have nowCounted : isCounted early (connection.setTransaction key
        (transaction.createPacket .pushSolicitedData
          { packet with isTransmissionEligible := true })) ⟨rsn, .pushSolicitedData⟩ = true := by
      simp [isCounted, flags]
    have flipped := count_flip (each.nodup .pushData) (queued.2 isOrdered_) wasCounted nowCounted
      fun other _ different => by rw [flags, decide_eq_false different, Bool.or_false]
    have moved := @counted_move early _ _ _ _ _ .pushData spec.found only
    rw [queue, flipped] at moved
    omega
  · rename_i other
    refine counted_keep spec.found only queue fun item mem => ?_
    have different : item ≠ ⟨rsn, .pushSolicitedData⟩ := by
      rintro rfl
      exact other (data_queue each (.inl rfl) mem)
    rw [flags, decide_eq_false different, Bool.or_false]

/-- The head of a queue of a connection, after its pop. -/
theorem queue_popped {queueType : PacketTypeQueue}
    (packets : SamePackets ((before.host.scheduler.countDequeued queueType).setQueue scid queueType
      rest) after.host.scheduler) (other : PacketTypeQueue) :
    after.host.scheduler.queue scid other =
      if other = queueType then rest else before.host.scheduler.queue scid other := by
  rw [packets.queue, queue_set_queue]
  simp only [true_and]
  rfl

theorem counted_sent {served : PacketTypeQueue} (spec : Sent before.host after.host scid served item
      connection key transaction packet final rest)
    (inserted : after.inserted = before.inserted) (queueType : PacketTypeQueue) :
    counted early after.host queueType + (if queueType = served then 1 else 0) =
      counted early before.host queueType := by
  have only := popped_only_at spec.connections spec.packets inserted
  have flags := transmitted_eligible spec.located spec.transmitted
  obtain ⟨-, live, present⟩ := lookup_packet_eq_ok.1 spec.located
  have head : isCounted early connection item = true := by
    unfold isCounted isEligible
    rw [← item_key_of_located spec.located, live, flag_of_present present, spec.eligible]
    rfl
  split
  · rename_i same
    subst same
    have left : rest.countP (isCounted early final) + 1 =
        (item :: rest).countP (isCounted early connection) :=
      count_left head fun other _ => flags other
    have moved := @counted_move early _ _ _ _ _ queueType spec.found only
    rw [queue_popped spec.packets, if_pos rfl, spec.head] at moved
    omega
  · rename_i other
    exact counted_keep spec.found only (by rw [queue_popped spec.packets, if_neg other])
      fun item _ => flags item

/-- A phantom waits together with the data that it stands for. -/
def Paired (queues : PacketTypeQueue → List WorkId) : Prop :=
  ∀ rsn, ⟨rsn, .invalid⟩ ∈ queues .pullAndOrderedPushRequest →
    ⟨rsn, .pushUnsolicitedData⟩ ∈ queues .pushData

/-- A phantom that is handled leaves its queue. Its data begins to count, unless it did at once. -/
theorem counted_phantom {served : PacketTypeQueue} (consistent : SystemConsistent before)
    (paired : Paired (before.host.scheduler.queue scid))
    (spec : PhantomHandled before.host after.host scid served item connection key transaction
      packet rest)
    (inserted : after.inserted = before.inserted) (queueType : PacketTypeQueue) :
    counted early after.host queueType + (if queueType = served then 1 else 0) =
      counted early before.host queueType +
        if early = false ∧ queueType = .pushData then 1 else 0 := by
  have each := consistent.each scid connection spec.found
  have only := popped_only_at spec.connections spec.packets inserted
  obtain ⟨itemRsn, itemType⟩ := item
  obtain rfl : itemType = .invalid := spec.phantom
  have mem : ⟨itemRsn, .invalid⟩ ∈ before.host.scheduler.queue scid served := by
    rw [spec.head]
    exact List.mem_cons_self
  have waiting := (each.each _).waiting served _ mem rfl
  obtain ⟨-, rfl⟩ : isOrdered connection = true ∧ served = .pullAndOrderedPushRequest := by
    simpa [BelongsIn] using waiting.queue
  have flags (other : WorkId) : isEligible (connection.setTransaction key
      (transaction.createPacket .pushUnsolicitedData { packet with isTransmissionEligible := true }))
        other = (isEligible connection other || other = ⟨itemRsn, .pushUnsolicitedData⟩) :=
    @set_flag_eligible _ _ ⟨itemRsn, .invalid⟩ _ _ _ _ spec.located rfl other
  have sameFlags {other : WorkId} (different : other ≠ ⟨itemRsn, .pushUnsolicitedData⟩) :
      isEligible (connection.setTransaction key (transaction.createPacket .pushUnsolicitedData
        { packet with isTransmissionEligible := true })) other = isEligible connection other := by
    rw [flags, decide_eq_false different, Bool.or_false]
  have elsewhere (other : queueType ≠ .pushData) {joined : WorkId}
      (inside : joined ∈ before.host.scheduler.queue scid queueType) :
      joined ≠ ⟨itemRsn, .pushUnsolicitedData⟩ := by
    rintro rfl
    exact other (data_queue each (.inr rfl) inside)
  by_cases request : queueType = .pullAndOrderedPushRequest
  · subst request
    obtain ⟨current, marker, live, phantom⟩ := waiting.live
    have eligible : marker.isTransmissionEligible = true := by
      by_contra parked
      have data := (phantom.parked (by simpa using parked)).2
      simp at data
    have head : isCounted early connection ⟨itemRsn, .invalid⟩ = true := by
      unfold isCounted isEligible
      rw [live, flag_of_present phantom.present, eligible]
      rfl
    have left := count_left head fun other inside =>
      sameFlags (elsewhere (by simp) (by rw [spec.head]; exact List.mem_cons_of_mem _ inside))
    have moved := @counted_move early _ _ _ _ _ .pullAndOrderedPushRequest spec.found only
    rw [queue_popped spec.packets, if_pos rfl, spec.head] at moved
    rw [if_pos rfl, if_neg (by simp)]
    omega
  · have queue : after.host.scheduler.queue scid queueType =
        before.host.scheduler.queue scid queueType := by
      rw [queue_popped spec.packets, if_neg request]
    by_cases data : queueType = .pushData
    · subst data
      have moved := @counted_move early _ _ _ _ _ .pushData spec.found only
      rw [queue] at moved
      cases early with
      | true =>
        have same : (before.host.scheduler.queue scid .pushData).countP (isCounted true
            (connection.setTransaction key (transaction.createPacket .pushUnsolicitedData
              { packet with isTransmissionEligible := true }))) =
            (before.host.scheduler.queue scid .pushData).countP (isCounted true connection) := by
          refine List.countP_congr fun other _ => ?_
          by_cases data : other = ⟨itemRsn, .pushUnsolicitedData⟩
          · simp [isCounted, data]
          · rw [is_counted_congr (sameFlags data)]
        rw [if_neg request, if_neg (by simp)]
        omega
      | false =>
        have inside := paired itemRsn mem
        have was : isCounted false connection ⟨itemRsn, .pushUnsolicitedData⟩ = false := by
          obtain ⟨⟨location, side, rfl⟩, live, present⟩ := lookup_packet_eq_ok.1 spec.located
          cases side
          have key : itemKey ⟨itemRsn, .pushUnsolicitedData⟩ = ⟨itemRsn, .initiator⟩ := rfl
          have flag : packet.isTransmissionEligible ≠ true := fun eligible =>
            (each.each _).phantoms rfl transaction packet inside live present eligible mem
          simp only [isCounted, isEligible, key]
          rw [show connection.transactions ⟨itemRsn, .initiator⟩ = some transaction from live,
            flag_of_present present]
          simpa using flag
        have now : isCounted false (connection.setTransaction key
            (transaction.createPacket .pushUnsolicitedData
              { packet with isTransmissionEligible := true })) ⟨itemRsn, .pushUnsolicitedData⟩ =
                true := by
          simp [isCounted, flags]
        have flipped := count_flip (each.nodup .pushData) inside was now fun other _ => sameFlags
        rw [if_neg request, if_pos ⟨rfl, rfl⟩]
        omega
    · rw [if_neg request, if_neg (fun both => data both.2)]
      exact counted_keep spec.found only queue fun other inside => sameFlags (elsewhere data inside)

end Effects

end Isekai.QueueCounts
