import Isekai.QueueCounts

/-! In every run, the packet counts of the fast scheduler are the numbers of the work items that
count, and a phantom waits together with the data that it stands for. -/

namespace Isekai.QueueCountProofs
open FastConnectionScheduler SchedulerSystem SchedulerFrameProofs SchedulerTransactionProofs
open SchedulerEffects SchedulerRunProofs QueueCounts

variable {scid : UInt32} {rest : List WorkId} {connection : ConnectionState}

/-! ## Phantoms and their data -/

def AllPaired (system : System) : Prop :=
  ∀ scid, Paired (system.host.scheduler.queue scid)

section Pairs
variable {queues : PacketTypeQueue → List WorkId} {ordered : Bool} {item : WorkId}

/-- The phantom of a packet joins together with the data. -/
theorem paired_joined (paired : Paired queues) (real : item.type ≠ .invalid) :
    Paired fun queueType => queues queueType ++ joining ordered item queueType := by
  intro rsn mem
  rcases List.mem_append.1 mem with old | joined
  · exact List.mem_append_left _ (paired rsn old)
  · refine List.mem_append_right _ ?_
    rcases mem_joining joined with same | ⟨-, unsolicited, same⟩ | ⟨-, -, same⟩
    · rw [← same] at real
      exact absurd rfl real
    · cases same
      obtain ⟨rsn, type⟩ := item
      cases unsolicited
      exact List.mem_append_left _ (by simp [Host.queueOf])
    · cases same

theorem paired_fewer {after : PacketTypeQueue → List WorkId} (paired : Paired queues)
    (request : ∀ joined ∈ after .pullAndOrderedPushRequest,
      joined ∈ queues .pullAndOrderedPushRequest)
    (data : ∀ rsn, ⟨rsn, .invalid⟩ ∈ after .pullAndOrderedPushRequest →
      ⟨rsn, .pushUnsolicitedData⟩ ∈ queues .pushData →
      ⟨rsn, .pushUnsolicitedData⟩ ∈ after .pushData) : Paired after :=
  fun rsn mem => data rsn mem (paired rsn (request _ mem))

end Pairs

section Step
variable {before after : System}

/-- Only push requests and grants are answered. -/
theorem answer_type {type next : PacketType} (answer : getNextFalconPacket type = .ok next) :
    answered type := by
  unfold getNextFalconPacket at answer
  split at answer
  · exact .inl rfl
  · exact .inr rfl
  · cases answer

theorem paired_at (paired : AllPaired before) {final : ConnectionState}
    (only : OnlyAt before after scid final) (here : Paired (after.host.scheduler.queue scid)) :
    AllPaired after := by
  intro other
  by_cases same : other = scid
  · rw [same]
    exact here
  · rw [only.queues other same]
    exact paired other

/-- Data that is sent is eligible, so its phantom was handled before. -/
theorem paired_sent (consistent : SystemConsistent before) (paired : AllPaired before)
    {queueType : PacketTypeQueue} {item : WorkId} {final : ConnectionState} {key : TransactionKey}
    {transaction : TransactionMetadata} {packet : PacketMetadata}
    (spec : Sent before.host after.host scid queueType item connection key transaction packet
      final rest) : Paired (after.host.scheduler.queue scid) := by
  have queues := queue_popped spec.packets
  have each := consistent.each scid connection spec.found
  refine paired_fewer (paired scid) (fun joined mem => ?_) fun rsn phantom data => ?_
  · rw [queues] at mem
    split at mem
    · rename_i same
      rw [same, spec.head]
      exact List.mem_cons_of_mem _ mem
    · exact mem
  · rw [queues]
    split
    · rename_i same
      subst same
      rw [spec.head] at data
      rcases List.mem_cons.1 data with isHead | stays
      · subst isHead
        rw [queues, if_neg (by simp)] at phantom
        obtain ⟨⟨location, side, rfl⟩, live, present⟩ := lookup_packet_eq_ok.1 spec.located
        cases side
        exact absurd phantom ((each.each ⟨rsn, .initiator⟩).phantoms rfl transaction packet
          (by rw [spec.head]; exact List.mem_cons_self) live present spec.eligible)
      · exact stays
    · exact data

theorem paired_phantom (paired : AllPaired before) {item : WorkId} {key : TransactionKey}
    {transaction : TransactionMetadata} {packet : PacketMetadata}
    (spec : PhantomHandled before.host after.host scid .pullAndOrderedPushRequest item connection
      key transaction packet rest) : Paired (after.host.scheduler.queue scid) := by
  have queues := queue_popped spec.packets
  refine paired_fewer (paired scid) (fun joined mem => ?_) fun rsn _ data => ?_
  · rw [queues, if_pos rfl] at mem
    rw [spec.head]
    exact List.mem_cons_of_mem _ mem
  · rw [queues, if_neg (by simp)]
    exact data

/-- Phantoms wait in the queue of requests. -/
theorem phantom_queue (consistent : SystemConsistent before) {queueType : PacketTypeQueue}
    {item : WorkId} (found : before.host.connections scid = some connection)
    (head : before.host.scheduler.queue scid queueType = item :: rest)
    (phantom : item.type = .invalid) : queueType = .pullAndOrderedPushRequest := by
  have mem : item ∈ before.host.scheduler.queue scid queueType := by
    rw [head]
    exact List.mem_cons_self
  have waiting := ((consistent.each scid connection found).each _).waiting queueType _ mem rfl
  have belongs := waiting.queue
  rw [phantom] at belongs
  simpa [BelongsIn] using belongs.2

theorem paired_step (consistent : SystemConsistent before) (paired : AllPaired before)
    (effect : Effect before after) : AllPaired after := by
  cases effect with
  | quiet connections packets =>
    intro scid
    rw [packets.queue]
    exact paired scid
  | connected spec inserted =>
    rename_i scid connection
    refine paired_at paired (connected_only_at spec inserted) fun rsn mem => ?_
    rw [Scheduler.queue, spec.queues] at mem
    simp at mem
  | requested found unused pull solicited spec enqueued inserted =>
    refine paired_at paired (enqueued_only_at enqueued inserted) ?_
    rw [queue_of_enqueued enqueued]
    refine paired_joined (paired _) ?_
    rcases spec.new.request with type | type | type <;> simp [type]
  | responded found spec enqueued inserted =>
    refine paired_at paired (enqueued_only_at enqueued inserted) ?_
    rw [queue_of_enqueued enqueued]
    exact paired_joined (paired _) (by simp)
  | received spec =>
    intro scid
    rw [spec.scheduler]
    exact paired scid
  | progressed spec =>
    intro scid
    rw [spec.scheduler]
    exact paired scid
  | answered due answer open_ enqueued inserted =>
    refine paired_at paired (answered_only_at enqueued inserted) ?_
    rw [queue_of_enqueued enqueued]
    refine paired_joined (paired _) fun phantom => ?_
    dsimp only at phantom
    rw [phantom] at answer
    rcases answer_type answer with due | due <;> rw [due] at answer <;> cases answer
  | madeEligible due ordered located spec inserted =>
    intro scid
    rw [spec.packets.queue]
    exact paired scid
  | retransmitted spec =>
    intro scid
    rw [spec.packets.queue]
    exact paired scid
  | sent spec inserted =>
    exact paired_at paired (popped_only_at spec.connections spec.packets inserted)
      (paired_sent consistent paired spec)
  | phantom spec inserted =>
    obtain rfl := phantom_queue consistent spec.found spec.head spec.phantom
    exact paired_at paired (popped_only_at spec.connections spec.packets inserted)
      (paired_phantom paired spec)

end Step

/-! ## The fast scheduler -/

/-- The packet counts are the numbers of the work items that count. -/
def Exact (early : Bool) (host : Host) : Prop :=
  ∀ queueType, host.scheduler.packetQueueWisePktCount queueType = counted early host queueType

section Counts
variable {before after : System}

theorem counts_popped {early : Bool} {served : PacketTypeQueue} (exact_ : Exact early before.host)
    (packets : SamePackets ((before.host.scheduler.countDequeued served).setQueue scid served rest)
      after.host.scheduler) (queueType : PacketTypeQueue) :
    after.host.scheduler.packetQueueWisePktCount queueType =
      counted early before.host queueType - if queueType = served then 1 else 0 := by
  rw [packets.counts, ← exact_ queueType]
  by_cases same : queueType = served
  · subst same
    simp [Scheduler.setQueue, Scheduler.countDequeued]
  · simp [Scheduler.setQueue, Scheduler.countDequeued, same]

/-- Every step keeps the counts of the fast scheduler exact. -/
theorem exact_step (consistent : SystemConsistent before) (paired : AllPaired before)
    (exact_ : Exact true before.host) (effect : Effect before after) :
    Exact true after.host := by
  intro queueType
  cases effect with
  | quiet connections packets =>
    rw [packets.counts, counted_quiet connections packets, exact_]
  | connected spec => rw [spec.counts, counted_connected spec, exact_]
  | requested found unused pull solicited spec enqueued inserted =>
    rw [enqueued.counts, counted_requested consistent found unused spec enqueued inserted,
      joined_count_early, ← exact_]
    rfl
  | responded found spec enqueued inserted =>
    rw [enqueued.counts, counted_responded consistent found spec enqueued inserted,
      joined_count_early, ← exact_]
    rfl
  | received spec inserted =>
    rw [spec.scheduler, counted_received consistent spec inserted, exact_]
  | progressed spec inserted =>
    rw [spec.scheduler, counted_progressed consistent spec inserted, exact_]
  | answered due answer open_ enqueued inserted =>
    rw [enqueued.counts, counted_answered consistent due answer open_ enqueued inserted,
      joined_count_early, ← exact_]
    rfl
  | madeEligible due ordered located spec inserted =>
    rw [spec.packets.counts,
      counted_made_eligible consistent due ordered located spec inserted, ← exact_]
    by_cases data : queueType = .pushData
    · subst data
      simp [Scheduler.countEnqueued]
    · simp [Scheduler.countEnqueued, data]
  | retransmitted spec inserted =>
    rw [spec.packets.counts, counted_retransmitted consistent spec inserted, exact_]
  | sent spec inserted =>
    have left := @counted_sent true _ _ _ _ _ _ _ _ _ _ _ spec inserted queueType
    rw [counts_popped exact_ spec.packets]
    omega
  | phantom spec inserted =>
    have left := @counted_phantom true _ _ _ _ _ _ _ _ _ _ consistent (paired _) spec inserted
      queueType
    rw [counts_popped exact_ spec.packets]
    simp only [Bool.true_eq_false, false_and, if_false] at left
    omega

end Counts

/-! ## Steps -/

/-- A host with other packet counts. -/
def recounted (host : Host) (counts : PacketTypeQueue → Nat) : Host :=
  { host with scheduler := { host.scheduler with packetQueueWisePktCount := counts } }

/-- What is known of the queues of a host, and of its counts. -/
structure Counted (early : Bool) (system : System) : Prop where
  consistent : SystemConsistent system
  paired : AllPaired system
  counts : Exact early system.host

theorem counted_initial (early : Bool) {system : System} (initial : Initial system) :
    Counted early system := by
  refine ⟨system_consistent_initial initial, fun scid rsn mem => ?_, fun queueType => ?_⟩
  · rw [initial.scheduler] at mem
    cases mem
  · have nothing : counted early system.host queueType = 0 := by
      refine Ledger.total_zero fun scid => ?_
      simp [countedAt, initial.connections]
    rw [nothing, initial.scheduler]

/-- A system whose host has other packet counts. -/
def withCounts (system : System) (counts : PacketTypeQueue → Nat) : System :=
  { system with host := recounted system.host counts }

/-- A step that does to queues and transactions what a step of the fast scheduler may do, and whose
counts stay exact. -/
structure Follows (early : Bool) (before after : System) : Prop where
  effect : ∃ counts, Effect before (withCounts after counts)
  counts : Exact early after.host

section Followed
variable {early : Bool} {before after : System}

/-- The counts play no part in what a step does to queues and transactions. -/
theorem Follows.counted (known : Counted early before) (follows : Follows early before after) :
    Counted early after := by
  obtain ⟨counts, effect⟩ := follows.effect
  have consistent := system_consistent_step known.consistent effect
  have paired := paired_step known.consistent known.paired effect
  exact ⟨⟨consistent.known, consistent.inserted, consistent.each⟩, paired, follows.counts⟩

theorem fast_step_follows (known : Counted true before) (step : Step before after) :
    Follows true before after where
  effect := ⟨after.host.scheduler.packetQueueWisePktCount, step_effect step⟩
  counts := exact_step known.consistent known.paired known.counts (step_effect step)

end Followed

/-! ## Work items that leave -/

section Leaving
variable {before after : System} {scid : UInt32} {queueType : PacketTypeQueue} {item : WorkId}

/-- A work item left the queue that it was the head of. -/
def Left (before after : System) (scid : UInt32) (queueType : PacketTypeQueue) (item : WorkId) :
    Prop :=
  before.host.scheduler.queue scid queueType = item :: after.host.scheduler.queue scid queueType

theorem not_left {joined : List WorkId} (grown : after.host.scheduler.queue scid queueType =
      before.host.scheduler.queue scid queueType ++ joined) :
    ¬Left before after scid queueType item := by
  intro left
  have lengths := congrArg List.length left
  rw [grown] at lengths
  simp at lengths
  omega

theorem not_left_of_same (same : after.host.scheduler.queue = before.host.scheduler.queue) :
    ¬Left before after scid queueType item :=
  @not_left _ _ _ _ _ [] (by rw [same, List.append_nil])

theorem not_left_of_enqueued {host : Host} {other : UInt32} {enqueuedItem : WorkId}
    (enqueued : Enqueued host after.host other connection enqueuedItem)
    (same : host.scheduler = before.host.scheduler) : ¬Left before after scid queueType item := by
  have queue := enqueued.queue scid queueType
  rw [same] at queue
  split at queue
  · rename_i here
    rw [← here] at queue
    exact not_left queue
  · exact @not_left _ _ _ _ _ [] (by rw [queue, List.append_nil])

theorem left_popped {other : UInt32} {served : PacketTypeQueue} {head : WorkId}
    (left : Left before after scid queueType item)
    (wasHead : before.host.scheduler.queue other served = head :: rest)
    (packets : SamePackets ((before.host.scheduler.countDequeued served).setQueue other served rest)
      after.host.scheduler) : other = scid ∧ served = queueType ∧ head = item := by
  have queue : after.host.scheduler.queue scid queueType =
      if scid = other ∧ queueType = served then rest
      else before.host.scheduler.queue scid queueType := by
    rw [packets.queue, queue_set_queue]
    rfl
  split at queue
  · rename_i here
    obtain ⟨rfl, rfl⟩ := here
    unfold Left at left
    rw [wasHead, queue] at left
    exact ⟨rfl, rfl, (List.cons.inj left).1⟩
  · exact absurd left (@not_left _ _ _ _ _ [] (by rw [queue, List.append_nil]))

/-- Work items leave one at a time, each counted once. -/
theorem count_of_left {early : Bool} (known : Counted early before)
    (follows : Follows early before after) (left : Left before after scid queueType item) :
    after.host.scheduler.packetQueueWisePktCount queueType + 1 =
      before.host.scheduler.packetQueueWisePktCount queueType := by
  rw [follows.counts, known.counts]
  obtain ⟨counts, effect⟩ := follows.effect
  have left_ : Left before (withCounts after counts) scid queueType item := left
  change counted early (withCounts after counts).host queueType + 1 = _
  generalize withCounts after counts = next at effect left_
  cases effect with
  | quiet connections packets => exact absurd left_ (not_left_of_same packets.queue)
  | connected spec inserted history =>
    rename_i other connection
    have grown : next.host.scheduler.queue scid queueType =
        before.host.scheduler.queue scid queueType := by
      unfold Scheduler.queue
      rw [spec.queues]
      by_cases same : scid = other
      · subst same
        rw [Function.update_self, spec.unknown]
      · rw [Function.update_of_ne same]
    exact absurd left_ (@not_left _ _ _ _ _ [] (by rw [grown, List.append_nil]))
  | requested found unused pull solicited spec enqueued =>
    exact absurd left_ (not_left_of_enqueued enqueued rfl)
  | responded found spec enqueued => exact absurd left_ (not_left_of_enqueued enqueued rfl)
  | received spec => exact absurd left_ (not_left_of_same (by rw [spec.scheduler]))
  | progressed spec => exact absurd left_ (not_left_of_same (by rw [spec.scheduler]))
  | answered due answer open_ enqueued => exact absurd left_ (not_left_of_enqueued enqueued rfl)
  | madeEligible due ordered located spec =>
    exact absurd left_ (not_left_of_same spec.packets.queue)
  | retransmitted spec => exact absurd left_ (not_left_of_same spec.packets.queue)
  | sent spec inserted history =>
    obtain ⟨rfl, rfl, rfl⟩ := left_popped left_ spec.head spec.packets
    rename_i served head connection final key transaction packet rest
    have number := @counted_sent early _ _ _ _ _ _ _ _ _ _ _ spec inserted served
    rwa [if_pos rfl] at number
  | phantom spec inserted history =>
    obtain ⟨rfl, rfl, rfl⟩ := left_popped left_ spec.head spec.packets
    obtain rfl := phantom_queue known.consistent spec.found spec.head spec.phantom
    have number := @counted_phantom early _ _ _ _ _ _ _ _ _ _ known.consistent (known.paired _)
      spec inserted .pullAndOrderedPushRequest
    simpa using number

end Leaving

end Isekai.QueueCountProofs
