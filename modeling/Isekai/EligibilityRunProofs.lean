import Isekai.EligibilityCache
import Isekai.RoundRobinArbiter

/-! No packet that may be sent is forgotten by the schedulers: in every state between events, what
the policies of both fast schedulers keep is true, and a connection that pauses for the inter-op gap
has an event that ends the pause. -/

namespace Isekai.EligibilityRunProofs
open FastConnectionScheduler FastRetransmissionScheduler RoundRobinArbiter SchedulerSystem
open SchedulerFrameProofs SchedulerEffects EligibilityCache WeightedRoundRobin

variable {fast after : FastSystem} {scid : UInt32}
variable {host : Host} {type : PacketType} {connection : ConnectionState} {item : WorkId}

/-! ## The retransmission scheduler -/

/-- What the policy of the retransmission scheduler keeps is true, beside one connection that is
about to be recomputed. -/
structure RetransmissionCachedBut (stale : Option UInt32) (fast : FastSystem) : Prop where
  formed : fast.retransmission.connectionPolicy.WellFormed
  marks : ∀ scid connection queues, stale ≠ some scid →
    fast.host.connections scid = some connection →
    fast.retransmission.connectionQueues scid = some queues → connection.isOpRateLimited = false →
    (∃ window, headMeetsCriteria connection (fast.bypasses scid) (queues window) = true) →
    fast.retransmission.connectionPolicy.isActive scid = true

theorem mark_connection_spec {before next : RetransmissionScheduler} {active : Bool}
    (formed : before.connectionPolicy.WellFormed)
    (done : before.markConnection scid active = .ok next) :
    next.connectionPolicy.WellFormed ∧ next.connectionQueues = before.connectionQueues ∧
      ∀ other, next.connectionPolicy.isActive other =
        if other = scid then active else before.connectionPolicy.isActive other := by
  obtain ⟨policy, marked, final⟩ := bind_eq_ok.1 done
  cases final
  obtain ⟨formedPolicy, activity⟩ := mark_spec formed marked
  exact ⟨formedPolicy, rfl, activity⟩

theorem policy_work_spec {scheduler : RetransmissionScheduler}
    (formed : scheduler.connectionPolicy.WellFormed) :
    scheduler.hasPolicyWork.2.connectionPolicy.WellFormed ∧
      ∀ other, scheduler.hasPolicyWork.2.connectionPolicy.isActive other =
        scheduler.connectionPolicy.isActive other := by
  obtain ⟨same, kept⟩ := Policy.has_work_active equalWeights formed
  exact ⟨kept, same.active⟩

/-- What a recomputation of the retransmission scheduler does to its policy. -/
theorem recompute_policy_spec {before next : RetransmissionScheduler}
    {bypass : RetransmissionWorkId → Bool} {queues : RetransmissionSchedulerQueues}
    (formed : before.connectionPolicy.WellFormed)
    (done : before.recomputeConnection connection bypass scid queues = .ok next) :
    next.connectionPolicy.WellFormed ∧ next.connectionQueues = before.connectionQueues ∧
      (∀ other, other ≠ scid →
        next.connectionPolicy.isActive other = before.connectionPolicy.isActive other) ∧
      (connection.isOpRateLimited = false →
        (∃ window, headMeetsCriteria connection bypass (queues window) = true) →
        next.connectionPolicy.isActive scid = true) := by
  unfold RetransmissionScheduler.recomputeConnection at done
  dsimp only at done
  split at done
  · rename_i limited
    obtain ⟨kept, queuesKept, activity⟩ := mark_connection_spec formed done
    refine ⟨kept, queuesKept, fun other different => by rw [activity, if_neg different], ?_⟩
    intro unlimited
    rw [unlimited] at limited
    cases limited
  · split at done
    · obtain ⟨marked, marking, final⟩ := bind_eq_ok.1 done
      cases final
      obtain ⟨kept, queuesKept, activity⟩ := mark_connection_spec formed marking
      obtain ⟨keptAsked, same⟩ := policy_work_spec kept
      refine ⟨keptAsked, queuesKept, fun other different => ?_, fun _ _ => ?_⟩
      · exact (same other).trans (by rw [activity, if_neg different])
      · exact (same scid).trans (by rw [activity, if_pos rfl])
    · rename_i nothing
      obtain ⟨marked, marking, final⟩ := bind_eq_ok.1 done
      cases final
      obtain ⟨kept, queuesKept, activity⟩ := mark_connection_spec formed marking
      obtain ⟨keptAsked, same⟩ := policy_work_spec kept
      refine ⟨keptAsked, queuesKept, fun other different => ?_, ?_⟩
      · exact (same other).trans (by rw [activity, if_neg different])
      · rintro - ⟨window, meets⟩
        cases window <;> simp [meets] at nothing

/-- A recomputation makes what the policy keeps true. -/
theorem recompute_retransmission_spec (cached : RetransmissionCachedBut (some scid) fast)
    (done : fast.recomputeRetransmission scid = .ok after) :
    RetransmissionCachedBut none after ∧
      after = { fast with retransmission := after.retransmission } := by
  unfold FastSystem.recomputeRetransmission at done
  split at done
  · rename_i unknown
    cases done
    refine ⟨⟨cached.formed, fun other connection queues _ found known => ?_⟩, rfl⟩
    refine cached.marks other connection queues ?_ found known
    rintro ⟨rfl⟩
    rw [unknown] at known
    cases known
  · rename_i ownQueues ownKnown
    obtain ⟨current, looked, done⟩ := bind_eq_ok.1 done
    obtain ⟨scheduler, recomputed, final⟩ := bind_eq_ok.1 done
    cases final
    obtain ⟨kept, queuesKept, others, here⟩ := recompute_policy_spec cached.formed recomputed
    refine ⟨⟨kept, fun other connection queues _ found known unlimited meets => ?_⟩, rfl⟩
    dsimp only at found known ⊢
    rw [queuesKept] at known
    by_cases same : other = scid
    · subst same
      rw [ownKnown] at known
      cases known
      rw [lookup_eq_ok, found] at looked
      cases looked
      exact here unlimited meets
    · rw [others other same]
      exact cached.marks other connection queues
        (fun isScid => same (Option.some.inj isScid).symm) found known unlimited meets

/-- A change of a host that may concern the packets of one connection that wait to be sent again. -/
structure RetransmissionTouched (stale : Option UInt32) (before after : FastSystem) : Prop where
  formed : after.retransmission.connectionPolicy.WellFormed
  active : ∀ scid, after.retransmission.connectionPolicy.isActive scid =
    before.retransmission.connectionPolicy.isActive scid
  queues : ∀ scid, stale ≠ some scid →
    after.retransmission.connectionQueues scid = before.retransmission.connectionQueues scid
  connections : ∀ scid connection, stale ≠ some scid →
    after.host.connections scid = some connection →
    ∃ old, before.host.connections scid = some old ∧ SameGates old connection
  bypasses : ∀ scid, stale ≠ some scid → after.bypasses scid = before.bypasses scid

theorem head_meets_of_gates {before after : ConnectionState} (gates : SameGates before after)
    (bypass : RetransmissionWorkId → Bool) (items : List RetransmissionWorkId) :
    headMeetsCriteria after bypass items = headMeetsCriteria before bypass items := by
  cases items with
  | nil => rfl
  | cons head rest =>
    have window : after.txWindow head.type = before.txWindow head.type := by
      unfold ConnectionState.txWindow
      rw [gates.requestWindow, gates.dataWindow]
    change meetsRetransmissionCcCriteria after _ head = meetsRetransmissionCcCriteria before _ head
    unfold meetsRetransmissionCcCriteria
    rw [window, gates.congestionControl]

theorem RetransmissionCachedBut.touch {stale : Option UInt32}
    (cached : RetransmissionCachedBut none fast)
    (touched : RetransmissionTouched stale fast after) : RetransmissionCachedBut stale after where
  formed := touched.formed
  marks other connection queues fresh found known unlimited meets := by
    obtain ⟨old, wasFound, gates⟩ := touched.connections other connection fresh found
    rw [touched.queues other fresh] at known
    rw [gates.isOpRateLimited] at unlimited
    obtain ⟨window, meets⟩ := meets
    rw [head_meets_of_gates gates, touched.bypasses other fresh] at meets
    rw [touched.active]
    exact cached.marks other old queues (by simp) wasFound known unlimited ⟨window, meets⟩

/-! ## Both schedulers -/

/-- A connection that pauses has an event that ends the pause. -/
def LimitsPending (fast : FastSystem) : Prop :=
  ∀ scid connection, fast.host.connections scid = some connection →
    connection.isOpRateLimited = true → ∃ due, (due, scid) ∈ fast.opRateEvents

/-- Whatever the schedulers keep is true. -/
structure Fresh (fast : FastSystem) : Prop where
  host : Cached fast.host
  retransmission : RetransmissionCachedBut none fast
  limited : LimitsPending fast

theorem limits_of_gates (limited : LimitsPending fast) (gates : GatesKept fast.host host) :
    LimitsPending (fast.withHost host) := by
  intro other connection found isLimited
  obtain ⟨old, wasFound, same⟩ := gates other connection found
  rw [same.isOpRateLimited] at isLimited
  exact limited other old wasFound isLimited

theorem Fresh.renew (fresh : Fresh fast) (cached : Cached host) (gates : GatesKept fast.host host) :
    Fresh (fast.withHost host) :=
  ⟨cached, fresh.retransmission.touch ⟨fresh.retransmission.formed, fun _ => rfl, fun _ _ => rfl,
    fun other connection _ found => gates other connection found, fun _ _ => rfl⟩,
    limits_of_gates fresh.limited gates⟩

theorem gates_of_kept {before after : Host} (kept : Kept before after) :
    GatesKept before after := by
  intro other connection found
  obtain ⟨old, wasFound, keeps⟩ := kept.connections other connection found
  exact ⟨old, wasFound, keeps.toSameGates⟩

theorem Fresh.keep (fresh : Fresh fast) (kept : Kept fast.host host) : Fresh (fast.withHost host) :=
  fresh.renew (fresh.host.keep kept) (gates_of_kept kept)

theorem Fresh.renewed (fresh : Fresh fast) (renews : Renews scid fast.host host) :
    Fresh (fast.withHost host) :=
  fresh.renew (renews.cached (fresh.host.weaken (.inl rfl))) renews.gates

/-- A write to a gating variable, after which both schedulers recompute the connection. -/
theorem write_gating_spec {connection : ConnectionState} (host : Cached fast.host)
    (retransmission : RetransmissionCachedBut none fast)
    (done : fast.writeGating scid connection = .ok after) :
    Cached after.host ∧ RetransmissionCachedBut none after ∧
      after.opRateEvents = fast.opRateEvents ∧
      after.host.connections =
        Function.update fast.host.connections scid (some connection) := by
  obtain ⟨written, recomputed, done⟩ := bind_eq_ok.1 done
  have core := write_gating_core recomputed
  have touched := host.touch (.inl rfl) (@touched_set fast.host scid host.formed connection)
  obtain ⟨cached, -⟩ := recompute_spec touched recomputed
  have stale : RetransmissionCachedBut (some scid) (fast.withHost written) := by
    refine retransmission.touch ⟨retransmission.formed, fun _ => rfl, fun _ _ => rfl,
      fun other current fresh found => ⟨current, ?_, .refl current⟩, fun _ _ => rfl⟩
    have different : other ≠ scid := fun same => fresh (by rw [same])
    change written.connections other = _ at found
    rw [core.connections] at found
    simpa only [Host.setConnection, Function.update_of_ne different] using found
  obtain ⟨kept, same⟩ := recompute_retransmission_spec stale done
  rw [same] at kept ⊢
  exact ⟨cached, kept, rfl, core.connections⟩

theorem write_gating_fresh (fresh : Fresh fast)
    (pending : connection.isOpRateLimited = true → ∃ due, (due, scid) ∈ fast.opRateEvents)
    (done : fast.writeGating scid connection = .ok after) : Fresh after := by
  obtain ⟨host, retransmission, events, connections⟩ :=
    write_gating_spec fresh.host fresh.retransmission done
  refine ⟨host, retransmission, fun other current found limited => ?_⟩
  rw [connections] at found
  rw [events]
  by_cases same : other = scid
  · subst same
    rw [Function.update_self] at found
    cases found
    exact pending limited
  · rw [Function.update_of_ne same] at found
    exact fresh.limited other current found limited

/-! ## Transmissions -/

theorem modify_tx_window_limited (connection : ConnectionState) (type : PacketType)
    (change : TransmitterWindow → TransmitterWindow) :
    (connection.modifyTxWindow type change).isOpRateLimited = connection.isOpRateLimited := by
  unfold ConnectionState.modifyTxWindow
  split <;> rfl

theorem flag_of_replaced {transaction : TransactionMetadata} {packet sent : PacketMetadata}
    (present : transaction.packets type = some packet)
    (same : sent.isTransmissionEligible = packet.isTransmissionEligible) (other : PacketType) :
    QueueCounts.flagOf (some (transaction.createPacket type sent)) other =
      QueueCounts.flagOf (some transaction) other := by
  rw [QueueCounts.flag_of_create]
  split
  · rename_i here
    rw [here, QueueCounts.flag_of_present present, same]
  · rfl

theorem assign_psn_fresh {first : Bool} (fresh : Fresh fast)
    (done : fast.assignPsnAndSsn scid item = .ok (first, after)) : Fresh after := by
  obtain ⟨connection, found, done⟩ := bind_eq_ok.1 done
  obtain ⟨⟨key, transaction, packet⟩, located, done⟩ := bind_eq_ok.1 done
  rw [lookup_eq_ok] at found
  dsimp only at done
  split at done
  · obtain ⟨middle, written, done⟩ := bind_eq_ok.1 done
    have freshMiddle : Fresh middle := by
      refine write_gating_fresh fresh (fun limited => ?_) written
      rw [modify_tx_window_limited] at limited
      exact fresh.limited scid connection found limited
    split at done
    · obtain ⟨current, again, final⟩ := bind_eq_ok.1 done
      cases final
      refine freshMiddle.keep (kept_set freshMiddle.host.formed (lookup_eq_ok.1 again) ?_)
      exact ⟨⟨rfl, rfl, rfl, rfl⟩, fun _ _ eligible => eligible⟩
    · cases done
      exact freshMiddle
  · cases done
    obtain ⟨-, live, present⟩ := lookup_packet_eq_ok.1 located
    refine fresh.keep (kept_set fresh.host.formed found ?_)
    refine keeps_update ⟨rfl, rfl, rfl, rfl⟩ rfl fun type _ _ flag => ?_
    rw [live]
    rwa [flag_of_replaced present] at flag
    rfl

theorem increment_request_count_fresh {first : Bool} (fresh : Fresh fast)
    (done : fast.incrementRequestCount scid type first = .ok after) : Fresh after := by
  obtain ⟨connection, found, done⟩ := bind_eq_ok.1 done
  rw [lookup_eq_ok] at found
  split at done
  · refine write_gating_fresh fresh (fun limited => ?_) done
    rw [modify_tx_window_limited] at limited
    exact fresh.limited scid connection found limited
  · cases done
    exact fresh

theorem transmit_packet_fresh (fresh : Fresh fast)
    (done : fast.transmitPacket scid item = .ok after) : Fresh after := by
  obtain ⟨⟨first, assigned⟩, psn, done⟩ := bind_eq_ok.1 done
  obtain ⟨counted, increment, done⟩ := bind_eq_ok.1 done
  have freshCounted := increment_request_count_fresh (assign_psn_fresh fresh psn) increment
  obtain ⟨connection, found, done⟩ := bind_eq_ok.1 done
  obtain ⟨⟨key, transaction, packet⟩, located, done⟩ := bind_eq_ok.1 done
  obtain ⟨moved, transition, final⟩ := bind_eq_ok.1 done
  cases final
  rw [lookup_eq_ok] at found
  obtain ⟨-, live, -⟩ := lookup_packet_eq_ok.1 located
  have keeps : KeepsMarks connection (connection.setTransaction key moved) := by
    refine keeps_update ⟨rfl, rfl, rfl, rfl⟩ rfl fun type _ _ flag => ?_
    rw [live]
    rwa [QueueCounts.transmitted_flags transition] at flag
  have kept := freshCounted.keep (kept_set freshCounted.host.formed found keeps)
  exact ⟨⟨kept.host.formed, kept.host.marks, kept.host.types, kept.host.data⟩,
    ⟨kept.retransmission.formed, kept.retransmission.marks⟩, kept.limited⟩

theorem hand_over_fresh {scheduler : SchedulerType} (fresh : Fresh fast)
    (done : fast.handOver scheduler scid item = .ok after) : Fresh after := by
  have noted : Fresh { fast with
      handed := fast.handed ++ [⟨scheduler, scid, item, fast.host.packetBuilderXoff⟩] } :=
    ⟨fresh.host, ⟨fresh.retransmission.formed, fresh.retransmission.marks⟩, fresh.limited⟩
  exact transmit_packet_fresh noted done

/-- A connection that sends pauses, and an event ends the pause. -/
theorem limit_op_rate_fresh (fresh : Fresh fast) (done : fast.limitOpRate scid = .ok after) :
    Fresh after := by
  obtain ⟨limited, setting, final⟩ := bind_eq_ok.1 done
  cases final
  obtain ⟨connection, found, setting⟩ := bind_eq_ok.1 setting
  split at setting
  · cases setting
    refine ⟨fresh.host, ⟨fresh.retransmission.formed, fresh.retransmission.marks⟩,
      fun other current foundOther isLimited => ?_⟩
    obtain ⟨due, mem⟩ := fresh.limited other current foundOther isLimited
    exact ⟨due, List.mem_append_left _ mem⟩
  · obtain ⟨host, retransmission, events, connections⟩ :=
      write_gating_spec fresh.host fresh.retransmission setting
    refine ⟨host, ⟨retransmission.formed, retransmission.marks⟩,
      fun other current foundOther isLimited => ?_⟩
    dsimp only at foundOther ⊢
    rw [connections] at foundOther
    by_cases same : other = scid
    · exact ⟨_, List.mem_append_right _ (List.mem_singleton.2 (by rw [same]))⟩
    · rw [Function.update_of_ne same] at foundOther
      obtain ⟨due, mem⟩ := fresh.limited other current foundOther isLimited
      exact ⟨due, List.mem_append_left _ (by rwa [events])⟩

/-! ## The connection scheduler -/

theorem schedule_packet_fresh {queueType : PacketTypeQueue} (fresh : Fresh fast)
    (done : fast.schedulePacket scid queueType item = .ok after) : Fresh after := by
  obtain ⟨connection, -, done⟩ := bind_eq_ok.1 done
  obtain ⟨⟨key, transaction, packet⟩, -, done⟩ := bind_eq_ok.1 done
  obtain ⟨admission, -, done⟩ := bind_eq_ok.1 done
  obtain ⟨limited, limit, done⟩ := bind_eq_ok.1 done
  obtain ⟨sent, handed, done⟩ := bind_eq_ok.1 done
  obtain ⟨popped, popping, done⟩ := bind_eq_ok.1 done
  obtain ⟨host, recomputed, final⟩ := bind_eq_ok.1 done
  cases final
  have formed := fresh.host.formed
  have reserved : Kept fast.host { fast.host with
      admission := admission, scheduler := fast.host.scheduler.countDequeued queueType } :=
    ⟨⟨⟨⟨formed.connection, formed.packetType, formed.phantom, formed.orderedPush⟩, fun _ _ => rfl,
      fun _ => rfl, fun _ => rfl⟩, fun _ => rfl⟩, rfl,
      fun _ current found => ⟨current, found, .refl current⟩, rfl⟩
  have freshSent := hand_over_fresh (limit_op_rate_fresh (fresh.keep reserved) limit) handed
  obtain ⟨touched, same⟩ := pop_touched freshSent.host.formed popping
  exact freshSent.renewed
    ((recompute_renews recomputed).after_touch (fun _ => touched) (.of_same same))

theorem schedule_connection_work_fresh (fresh : Fresh fast)
    (done : fast.scheduleConnectionWork = .ok after) : Fresh after := by
  obtain ⟨⟨queueType, scid, item, host⟩, chosen, done⟩ := bind_eq_ok.1 done
  have next := fresh.keep (next_work_kept fresh.host.formed chosen)
  dsimp only at done
  split at done
  · obtain ⟨handled, phantom, final⟩ := bind_eq_ok.1 done
    cases final
    exact next.renewed (handle_phantom_renews next.host.formed phantom)
  · obtain ⟨⟨sendable, asked⟩, asking, done⟩ := bind_eq_ok.1 done
    have askedFresh := next.keep (can_send_kept next.host.formed asking)
    dsimp only at done
    split at done
    · exact schedule_packet_fresh askedFresh done
    · cases done

/-! ## The packets that wait to be sent again -/

theorem seq_lt_total {first second : UInt32} (different : first ≠ second) :
    SequenceNumber.seqLT first second = true ∨ SequenceNumber.seqLT second first = true := by
  rw [SequenceNumber.seq_lt_iff, SequenceNumber.seq_lt_iff, SequenceNumber.distance_mod,
    SequenceNumber.distance_mod]
  have one := first.toNat_lt
  have two := second.toNat_lt
  have apart : first.toNat ≠ second.toNat := fun same => different (UInt32.toNat_inj.mp same)
  omega

/-- A packet whose PSN is not in the set is added. -/
theorem insert_of_fresh (item : RetransmissionWorkId) {items : List RetransmissionWorkId}
    (fresh : ∀ other ∈ items, other.psn ≠ item.psn) : insertWork item items ≠ none := by
  induction items with
  | nil => simp [insertWork]
  | cons head tail ih =>
    rw [insertWork]
    split
    · simp
    · rename_i notBefore
      have later : head < item :=
        (seq_lt_total (fresh head List.mem_cons_self)).resolve_right notBefore
      rw [if_pos later, ne_eq, Option.map_eq_none_iff]
      exact ih fun other mem => fresh other (List.mem_cons_of_mem _ mem)

theorem touched_retransmission_queue (cached : RetransmissionCachedBut (some scid) fast)
    (queueType : WindowTypeQueue) (items : List RetransmissionWorkId) :
    RetransmissionCachedBut (some scid)
      { fast with retransmission := fast.retransmission.setQueue scid queueType items } where
  formed := cached.formed
  marks other connection queues stale found known unlimited meets := by
    have different : other ≠ scid := fun same => stale (by rw [same])
    simp only [RetransmissionScheduler.setQueue, Function.update_of_ne different] at known
    exact cached.marks other connection queues stale found known unlimited meets

theorem RetransmissionCachedBut.weaken (cached : RetransmissionCachedBut none fast)
    (scid : UInt32) : RetransmissionCachedBut (some scid) fast :=
  cached.touch ⟨cached.formed, fun _ => rfl, fun _ _ => rfl,
    fun _ connection _ found => ⟨connection, found, .refl connection⟩, fun _ _ => rfl⟩

/-- A recomputation of the retransmission scheduler completes what is true of a host. -/
theorem fresh_of_recomputed (host : Cached fast.host) (limited : LimitsPending fast)
    (cached : RetransmissionCachedBut (some scid) fast)
    (done : fast.recomputeRetransmission scid = .ok after) :
    Fresh after ∧ after.host = fast.host := by
  obtain ⟨kept, same⟩ := recompute_retransmission_spec cached done
  rw [same] at kept ⊢
  exact ⟨⟨host, kept, limited⟩, rfl⟩

theorem enqueue_retransmission_fresh {rsn : UInt32} {type : PacketType} {added : Bool}
    (host : Cached fast.host) (limited : LimitsPending fast)
    (cached : RetransmissionCachedBut (some scid) fast)
    (free : fast.mayRetransmit scid rsn type = true)
    (done : fast.enqueueRetransmission scid rsn type = .ok (added, after)) :
    Fresh after ∧ after.host = fast.host := by
  obtain ⟨packet, looked, done⟩ := bind_eq_ok.1 done
  obtain ⟨queueType, queue, done⟩ := bind_eq_ok.1 done
  unfold FastSystem.mayRetransmit at free
  simp only [looked, queue, Bool.and_eq_true, decide_eq_true_eq, List.all_eq_true] at free
  split at done
  · rename_i present
    exact absurd present (insert_of_fresh _ free.2)
  · rename_i items inserted
    obtain ⟨recomputed, recompute, final⟩ := bind_eq_ok.1 done
    cases final
    exact @fresh_of_recomputed { fast with
        retransmission := fast.retransmission.setQueue scid queueType items } _ _ host limited
      (touched_retransmission_queue cached queueType items) recompute

theorem initiate_retransmission_fresh {rsn : UInt32} {probe : Bool} (fresh : Fresh fast)
    (free : fast.mayRetransmit scid rsn type = true)
    (done : fast.initiateRetransmission scid rsn type probe = .ok after) : Fresh after := by
  obtain ⟨packet, looked, done⟩ := bind_eq_ok.1 done
  obtain ⟨queueType, queue, done⟩ := bind_eq_ok.1 done
  obtain ⟨⟨added, enqueued⟩, enqueue, done⟩ := bind_eq_ok.1 done
  obtain ⟨again, -, done⟩ := bind_eq_ok.1 done
  have stale : RetransmissionCachedBut (some scid) { fast with
      earlyTlp := Function.update fast.earlyTlp scid (Function.update (fast.earlyTlp scid)
        queueType (Function.update (fast.earlyTlp scid queueType) packet.psn probe)) } := by
    refine fresh.retransmission.touch ⟨fresh.retransmission.formed, fun _ => rfl, fun _ _ => rfl,
      fun _ connection _ found => ⟨connection, found, .refl connection⟩, fun other isOther => ?_⟩
    have different : other ≠ scid := fun same => isOther (by rw [same])
    funext item
    simp only [FastSystem.bypasses, Function.update_of_ne different]
  obtain ⟨freshEnqueued, -⟩ :=
    @enqueue_retransmission_fresh { fast with
        earlyTlp := Function.update fast.earlyTlp scid (Function.update (fast.earlyTlp scid)
          queueType (Function.update (fast.earlyTlp scid queueType) packet.psn probe)) }
      _ _ _ _ _ fresh.host fresh.limited stale free enqueue
  split at done
  · obtain ⟨connection, found, done⟩ := bind_eq_ok.1 done
    rw [lookup_eq_ok] at found
    split at done
    · refine write_gating_fresh freshEnqueued (fun limited => ?_) done
      rw [modify_tx_window_limited] at limited
      exact freshEnqueued.limited scid connection found limited
    · cases done
      exact freshEnqueued
  · cases done
    exact freshEnqueued

theorem dequeue_retransmission_fresh {rsn : UInt32} (fresh : Fresh fast)
    (done : fast.dequeueRetransmission scid rsn type = .ok after) : Fresh after := by
  obtain ⟨packet, -, done⟩ := bind_eq_ok.1 done
  obtain ⟨queueType, -, done⟩ := bind_eq_ok.1 done
  exact (@fresh_of_recomputed { fast with
      retransmission := fast.retransmission.setQueue scid queueType _ } _ _ fresh.host
    fresh.limited (touched_retransmission_queue (fresh.retransmission.weaken scid) queueType _)
    done).1

theorem schedule_retransmission_fresh {queueType : WindowTypeQueue} {item : RetransmissionWorkId}
    (fresh : Fresh fast) (done : fast.scheduleRetransmission scid queueType item = .ok after) :
    Fresh after := by
  obtain ⟨packet, -, done⟩ := bind_eq_ok.1 done
  obtain ⟨limited, limit, done⟩ := bind_eq_ok.1 done
  obtain ⟨sent, handed, done⟩ := bind_eq_ok.1 done
  have freshSent := hand_over_fresh (limit_op_rate_fresh fresh limit) handed
  exact (@fresh_of_recomputed { sent with
      retransmission := sent.retransmission.setQueue scid queueType _ } _ _ freshSent.host
    freshSent.limited
    (touched_retransmission_queue (freshSent.retransmission.weaken scid) queueType _) done).1

theorem schedule_retransmission_work_fresh (fresh : Fresh fast)
    (done : fast.scheduleRetransmissionWork = .ok after) : Fresh after := by
  obtain ⟨⟨scid, queueType, item, scheduler⟩, chosen, done⟩ := bind_eq_ok.1 done
  obtain ⟨connection, -, done⟩ := bind_eq_ok.1 done
  obtain ⟨⟨chosenScid, policy⟩, next, chosen⟩ := bind_eq_ok.1 chosen
  obtain ⟨same, formed⟩ :=
    Policy.get_next_entity_same fresh.retransmission.formed (checked_eq_ok.1 next)
  dsimp only at chosen done
  split at chosen
  · cases chosen
  · cases chosen
    split at done
    · have served : RetransmissionCachedBut none { fast with
          retransmission := { fast.retransmission with connectionPolicy := policy
            }.setNextWindowType scid
              (WindowTypeQueue.next (fast.retransmission.nextWindowType scid)) } :=
        fresh.retransmission.touch ⟨formed, same.active, fun _ _ => rfl,
          fun _ connection _ found => ⟨connection, found, .refl connection⟩, fun _ _ => rfl⟩
      exact @schedule_retransmission_fresh { fast with
          retransmission := { fast.retransmission with connectionPolicy := policy
            }.setNextWindowType scid
              (WindowTypeQueue.next (fast.retransmission.nextWindowType scid)) } _ _ _ _
        ⟨fresh.host, served, fresh.limited⟩ done
    · cases done

/-! ## The arbiter -/

theorem scheduler_has_work_fresh (fresh : Fresh fast) (scheduler : SchedulerType) :
    Fresh (fast.schedulerHasWork scheduler).2 := by
  cases scheduler with
  | connection => exact fresh.keep (has_work_kept fresh.host.formed)
  | retransmission =>
    rw [FastSystem.schedulerHasWork]
    split
    · exact fresh
    · obtain ⟨formed, same⟩ := policy_work_spec fresh.retransmission.formed
      have asked : RetransmissionCachedBut none
          { fast with retransmission := fast.retransmission.hasPolicyWork.2 } :=
        fresh.retransmission.touch ⟨formed, same, fun _ _ => rfl,
          fun _ connection _ found => ⟨connection, found, .refl connection⟩, fun _ _ => rfl⟩
      exact ⟨fresh.host, asked, fresh.limited⟩
  | ackNack => exact fresh

theorem has_work_fresh (fresh : Fresh fast) : Fresh fast.hasWork.2 := by
  have connection := scheduler_has_work_fresh fresh .connection
  have retransmission := scheduler_has_work_fresh connection .retransmission
  unfold FastSystem.hasWork
  dsimp only
  split
  · exact connection
  · split
    · exact retransmission
    · exact scheduler_has_work_fresh retransmission .ackNack

theorem schedule_work_fresh {scheduler : SchedulerType} (fresh : Fresh fast)
    (done : fast.scheduleWork scheduler = .ok after) : Fresh after := by
  cases scheduler with
  | connection => exact schedule_connection_work_fresh fresh done
  | retransmission => exact schedule_retransmission_work_fresh fresh done
  | ackNack =>
    unfold FastSystem.scheduleWork at done
    dsimp only at done
    split at done
    · cases done
    · cases done
      exact ⟨fresh.host, ⟨fresh.retransmission.formed, fresh.retransmission.marks⟩,
        fresh.limited⟩

theorem arbitrate_fresh {current positions : Nat} (fresh : Fresh fast)
    (done : fast.arbitrate current positions = .ok after) : Fresh after := by
  induction positions generalizing fast current with
  | zero =>
    cases done
    exact fresh
  | succ positions ih =>
    rw [FastSystem.arbitrate] at done
    split at done
    · cases done
    · rename_i scheduler turn
      have asked := scheduler_has_work_fresh fresh scheduler
      dsimp only at done
      split at done
      · obtain ⟨served, work, final⟩ := map_eq_ok.1 done
        have freshServed := schedule_work_fresh asked work
        cases final
        exact ⟨freshServed.host, ⟨freshServed.retransmission.formed,
          freshServed.retransmission.marks⟩, freshServed.limited⟩
      · exact ih asked done

theorem do_arbitration_fresh (fresh : Fresh fast) (done : fast.doArbitration = .ok after) :
    Fresh after := by
  have asked := has_work_fresh fresh
  unfold FastSystem.doArbitration at done
  dsimp only at done
  split at done
  · obtain ⟨served, arbitrated, final⟩ := map_eq_ok.1 done
    cases final
    exact has_work_fresh (arbitrate_fresh asked arbitrated)
  · cases done
    exact asked

/-! ## Runs -/

/-- The reorder engine has no part in what the schedulers keep. -/
theorem Fresh.withInserted (fresh : Fresh fast) (inserted : List (UInt32 × UInt32 × PacketType)) :
    Fresh { fast with inserted := inserted } :=
  ⟨fresh.host, ⟨fresh.retransmission.formed, fresh.retransmission.marks⟩, fresh.limited⟩

theorem callback_fresh {rsn : UInt32} (fresh : Fresh fast)
    (done : reorderCallback fast.host scid rsn type = .ok host) : Fresh (fast.withHost host) := by
  cases reorder_callback_spec done with
  | progressed kind spec => exact fresh.keep (progressed_kept fresh.host.formed spec)
  | answered answer enqueued => exact fresh.renewed (enqueue_packet_renews fresh.host.formed enqueued)

theorem connect_fresh {scheduler : Scheduler} {retransmission : RetransmissionScheduler}
    (fresh : Fresh fast) (unlimited : connection.isOpRateLimited = false)
    (init : fast.retransmission.initConnectionSchedulerQueues scid = .ok retransmission)
    (done : fast.host.scheduler.initConnectionSchedulerQueues scid = .ok scheduler) :
    Fresh { fast with
      host := { fast.host with scheduler := scheduler }.setConnection scid connection
      retransmission := retransmission } := by
  unfold RetransmissionScheduler.initConnectionSchedulerQueues at init
  split at init
  · cases init
  · obtain ⟨policy, initialized, final⟩ := bind_eq_ok.1 init
    cases final
    obtain ⟨formed, active⟩ := Policy.initialize_entity_spec fresh.retransmission.formed
      (checked_eq_ok.1 initialized)
    refine ⟨connect_cached fresh.host done, ⟨formed, fun other current queues _ found known
      isUnlimited meets => ?_⟩, fun other current found limited => ?_⟩
    · dsimp only at known ⊢
      by_cases same : other = scid
      · subst same
        rw [Function.update_self] at known
        cases known
        obtain ⟨window, meets⟩ := meets
        cases meets
      · rw [Function.update_of_ne same] at known
        simp only [Host.setConnection, Function.update_of_ne same] at found
        rw [active]
        exact fresh.retransmission.marks other current queues (by simp) found known isUnlimited meets
    · by_cases same : other = scid
      · subst same
        simp only [Host.setConnection, Function.update_self, Option.some.injEq] at found
        subst found
        rw [unlimited] at limited
        cases limited
      · simp only [Host.setConnection, Function.update_of_ne same] at found
        exact fresh.limited other current found limited

/-- The gap of a connection is over: its event is gone, and the connection is free to send. -/
theorem op_rate_fresh {due : Nat} (fresh : Fresh fast)
    (done : ({ fast with opRateEvents := fast.opRateEvents.erase (due, scid)
      } : FastSystem).writeGating scid { connection with isOpRateLimited := false } = .ok after) :
    Fresh after := by
  have known : RetransmissionCachedBut none
      { fast with opRateEvents := fast.opRateEvents.erase (due, scid) } :=
    ⟨fresh.retransmission.formed, fresh.retransmission.marks⟩
  obtain ⟨host, retransmission, events, connections⟩ := @write_gating_spec
    { fast with opRateEvents := fast.opRateEvents.erase (due, scid) } _ _ _ fresh.host known done
  refine ⟨host, retransmission, fun other current found limited => ?_⟩
  rw [connections] at found
  rw [events]
  by_cases same : other = scid
  · subst same
    rw [Function.update_self] at found
    cases found
    cases limited
  · rw [Function.update_of_ne same] at found
    obtain ⟨pending, mem⟩ := fresh.limited other current found limited
    refine ⟨pending, (List.mem_erase_of_ne ?_).2 mem⟩
    rintro ⟨⟩
    exact same rfl

theorem perform_fresh {event : FastSystem.Event} (fresh : Fresh fast)
    (possible : fast.possible event = true) (done : fast.perform event = .ok after) :
    Fresh after := by
  cases event with
  | connect scid mode congestionControl =>
    obtain ⟨retransmission, init, done⟩ := bind_eq_ok.1 done
    obtain ⟨scheduler, initialized, final⟩ := bind_eq_ok.1 done
    cases final
    exact connect_fresh fresh rfl init initialized
  | submit scid op =>
    obtain ⟨host, initiated, final⟩ := bind_eq_ok.1 done
    cases final
    exact fresh.renewed (initiate_renews fresh.host.formed initiated)
  | receive scid packet =>
    obtain ⟨host, transferred, final⟩ := bind_eq_ok.1 done
    cases final
    exact (fresh.keep (transfer_kept fresh.host.formed transferred)).withInserted _
  | callback scid rsn type =>
    obtain ⟨host, called, final⟩ := bind_eq_ok.1 done
    cases final
    exact (callback_fresh fresh called).withInserted _
  | ulpAck scid rsn =>
    obtain ⟨host, acked, final⟩ := bind_eq_ok.1 done
    cases final
    obtain ⟨connection, old, value, refunded, spec⟩ := ack_transaction_spec acked
    exact fresh.keep (progressed_kept fresh.host.formed spec)
  | ulpRnrNack scid rsn =>
    obtain ⟨⟨type, host⟩, nacked, final⟩ := bind_eq_ok.1 done
    cases final
    obtain ⟨-, connection, old, value, refunded, spec⟩ := rnr_nack_transaction_spec nacked
    exact (fresh.keep (progressed_kept fresh.host.formed spec)).withInserted _
  | networkAck scid rsn type =>
    obtain ⟨host, acked, final⟩ := bind_eq_ok.1 done
    cases final
    obtain ⟨connection, key, old, value, refunded, spec⟩ := ack_from_network_spec acked
    exact (fresh.keep (progressed_kept fresh.host.formed spec)).withInserted _
  | gating scid requestWindow dataWindow congestionControl =>
    obtain ⟨connection, found, done⟩ := bind_eq_ok.1 done
    refine write_gating_fresh fresh (fun limited => ?_) done
    exact fresh.limited scid connection (lookup_eq_ok.1 found) limited
  | initiateRetransmission scid rsn type probe =>
    exact initiate_retransmission_fresh fresh possible done
  | dequeueRetransmission scid rsn type => exact dequeue_retransmission_fresh fresh done
  | enqueueAckNack scid =>
    cases done
    exact ⟨fresh.host, ⟨fresh.retransmission.formed, fresh.retransmission.marks⟩, fresh.limited⟩
  | opRate due scid =>
    obtain ⟨connection, found, done⟩ := bind_eq_ok.1 done
    rw [lookup_eq_ok] at found
    split at done
    · exact op_rate_fresh fresh done
    · rename_i unlimited
      cases done
      refine ⟨fresh.host, ⟨fresh.retransmission.formed, fresh.retransmission.marks⟩,
        fun other current foundOther limited => ?_⟩
      obtain ⟨pending, mem⟩ := fresh.limited other current foundOther limited
      refine ⟨pending, (List.mem_erase_of_ne ?_).2 mem⟩
      rintro ⟨⟩
      rw [found] at foundOther
      cases foundOther
      exact unlimited limited
  | setXoff xoff =>
    cases done
    exact fresh.keep ⟨.refl fresh.host.formed, rfl,
      fun _ connection found => ⟨connection, found, .refl connection⟩, rfl⟩
  | arbitrate => exact do_arbitration_fresh fresh done
  | tick =>
    cases done
    exact fresh.keep ⟨.refl fresh.host.formed, rfl,
      fun _ connection found => ⟨connection, found, .refl connection⟩, rfl⟩

theorem fresh_initial (initial : fast.Initial) : Fresh fast := by
  rw [initial.fresh]
  have connections := initial.host.connections
  refine ⟨cached_initial initial.host, ⟨Policy.empty_well_formed true, ?_⟩, ?_⟩
  · intro scid connection queues _ found known
    cases known
  · intro scid connection found
    rw [connections] at found
    cases found

theorem run_fresh {events : List FastSystem.Event} (fresh : Fresh fast)
    (done : fast.run events = some after) : Fresh after := by
  induction events generalizing fast with
  | nil =>
    cases done
    exact fresh
  | cons event rest ih =>
    obtain ⟨middle, performed, done⟩ := Option.bind_eq_some_iff.1 done
    obtain ⟨possible, performed⟩ := Runs.attempt_eq_some.1 performed
    exact ih (perform_fresh fresh possible performed) done

end Isekai.EligibilityRunProofs
