import Isekai.QueueCounts

/-! The eligibility that the fast connection scheduler keeps in its policies. A recomputation marks
the queues of one connection and then every queue type; here is what the marks mean afterwards, and
which changes of a host leave them true. -/

namespace Isekai.EligibilityCache
open FastConnectionScheduler SchedulerSystem SchedulerFrameProofs SchedulerTransactionProofs
open SchedulerEffects QueueCounts AdmissionControl WeightedRoundRobin

variable {scid : UInt32} {before after host : Host} {queueType : PacketTypeQueue}
  {connection final : ConnectionState} {scheduler : Scheduler} {marks : QueueMarks} {item : WorkId}
  {type : PacketType}

/-! ## Policies -/

structure PoliciesFormed (scheduler : Scheduler) : Prop where
  connection : ∀ queueType, (scheduler.connectionPolicy queueType).WellFormed
  packetType : scheduler.packetTypePolicy.WellFormed
  phantom : scheduler.phantomConnectionPolicy.WellFormed
  orderedPush : scheduler.orderedPushReqConnectionPolicy.WellFormed

/-- The connections that are active in the policies stay the same. -/
structure SameConnections (before after : Scheduler) : Prop where
  formed : PoliciesFormed after
  connection : ∀ queueType scid, (after.connectionPolicy queueType).isActive scid =
    (before.connectionPolicy queueType).isActive scid
  phantom : ∀ scid, after.phantomConnectionPolicy.isActive scid =
    before.phantomConnectionPolicy.isActive scid
  orderedPush : ∀ scid, after.orderedPushReqConnectionPolicy.isActive scid =
    before.orderedPushReqConnectionPolicy.isActive scid

/-- All that is active in the policies stays the same. -/
structure Steady (before after : Scheduler) : Prop extends SameConnections before after where
  packetType : ∀ queueType, after.packetTypePolicy.isActive queueType =
    before.packetTypePolicy.isActive queueType

theorem SameConnections.trans {first second third : Scheduler} (one : SameConnections first second)
    (two : SameConnections second third) : SameConnections first third :=
  ⟨two.formed, fun queueType scid => (two.connection queueType scid).trans
      (one.connection queueType scid), fun scid => (two.phantom scid).trans (one.phantom scid),
    fun scid => (two.orderedPush scid).trans (one.orderedPush scid)⟩

theorem Steady.refl (formed : PoliciesFormed scheduler) : Steady scheduler scheduler :=
  ⟨⟨formed, fun _ _ => rfl, fun _ => rfl, fun _ => rfl⟩, fun _ => rfl⟩

theorem Steady.trans {first second third : Scheduler} (one : Steady first second)
    (two : Steady second third) : Steady first third :=
  ⟨one.toSameConnections.trans two.toSameConnections,
    fun queueType => (two.packetType queueType).trans (one.packetType queueType)⟩

section Asking
variable {scheduler : Scheduler}

theorem connection_has_work_steady (formed : PoliciesFormed scheduler)
    (queueType : PacketTypeQueue) :
    Steady scheduler (scheduler.connectionHasWork queueType).2 := by
  obtain ⟨same, kept⟩ := Policy.has_work_active equalWeights (formed.connection queueType)
  refine ⟨⟨⟨fun other => ?_, formed.packetType, formed.phantom, formed.orderedPush⟩,
    fun other scid => ?_, fun _ => rfl, fun _ => rfl⟩, fun _ => rfl⟩ <;>
  · by_cases here : other = queueType
    · subst here
      simp [Scheduler.connectionHasWork, Scheduler.setConnectionPolicy, kept, same.active]
    · simp [Scheduler.connectionHasWork, Scheduler.setConnectionPolicy, here,
        formed.connection other]

theorem phantom_has_work_steady (formed : PoliciesFormed scheduler) :
    Steady scheduler scheduler.phantomHasWork.2 := by
  obtain ⟨same, kept⟩ := Policy.has_work_active equalWeights formed.phantom
  exact ⟨⟨⟨formed.connection, formed.packetType, kept, formed.orderedPush⟩, fun _ _ => rfl,
    same.active, fun _ => rfl⟩, fun _ => rfl⟩

theorem ordered_push_has_work_steady (formed : PoliciesFormed scheduler) :
    Steady scheduler scheduler.orderedPushHasWork.2 := by
  obtain ⟨same, kept⟩ := Policy.has_work_active equalWeights formed.orderedPush
  exact ⟨⟨⟨formed.connection, formed.packetType, formed.phantom, kept⟩, fun _ _ => rfl,
    fun _ => rfl, same.active⟩, fun _ => rfl⟩

theorem packet_type_has_work_steady (formed : PoliciesFormed scheduler) :
    Steady scheduler scheduler.packetTypeHasWork.2 := by
  obtain ⟨same, kept⟩ := Policy.has_work_active scheduler.weight formed.packetType
  exact ⟨⟨⟨formed.connection, kept, formed.phantom, formed.orderedPush⟩, fun _ _ => rfl,
    fun _ => rfl, fun _ => rfl⟩, same.active⟩

theorem has_work_steady (formed : PoliciesFormed host.scheduler) :
    Steady host.scheduler host.hasWork.2.scheduler := by
  have phantom := phantom_has_work_steady formed
  unfold Host.hasWork
  dsimp only
  split_ifs
  · exact phantom
  · exact phantom
  · exact phantom.trans (packet_type_has_work_steady phantom.formed)

end Asking

/-! ## Marks -/

theorem checked_eq_ok {α : Type} {result : Except PolicyError α} {value : α} :
    checked result = .ok value ↔ result = .ok value := by
  unfold checked
  split <;> simp_all

theorem known_of_active {T : Type} [DecidableEq T] {before after : Policy T} {entity : T}
    (done : before.markEntityActive entity = .ok after) : (before.metadata entity).isSome := by
  unfold Policy.markEntityActive at done
  split at done
  · cases done
  · rename_i found
    rw [found]
    rfl

theorem known_of_inactive {T : Type} [DecidableEq T] {before after : Policy T} {entity : T}
    (done : before.markEntityInactive entity = .ok after) : (before.metadata entity).isSome := by
  unfold Policy.markEntityInactive at done
  split at done
  · cases done
  · rename_i found
    rw [found]
    rfl

/-- What marking an entity active or inactive does to a well-formed policy. -/
theorem marked_spec {T : Type} [DecidableEq T] {before after : Policy T} {entity : T}
    {active : Bool} (formed : before.WellFormed)
    (done : (if active then before.markEntityActive entity else before.markEntityInactive entity) =
      .ok after) :
    after.WellFormed ∧ ∀ other, after.isActive other =
      if other = entity then active else before.isActive other := by
  cases active with
  | true =>
    rw [if_pos rfl] at done
    obtain ⟨next, marked, spec⟩ := Policy.mark_entity_active_spec formed (known_of_active done)
    rw [done] at marked
    cases marked
    exact ⟨spec.wellFormed, spec.activity⟩
  | false =>
    rw [if_neg (by simp)] at done
    obtain ⟨next, marked, spec⟩ := Policy.mark_entity_inactive_spec formed (known_of_inactive done)
    rw [done] at marked
    cases marked
    exact ⟨spec.wellFormed, spec.activity⟩

/-- What a mark does to the activity of a connection. -/
theorem mark_spec {before after : Policy UInt32} {active : Option Bool}
    (formed : before.WellFormed) (done : mark before scid active = .ok after) :
    after.WellFormed ∧ ∀ other, after.isActive other =
      if other = scid then active.getD (before.isActive scid) else before.isActive other := by
  cases active with
  | none =>
    cases done
    refine ⟨formed, fun other => ?_⟩
    split
    · rename_i same
      rw [same]
      rfl
    · rfl
  | some active =>
    refine marked_spec formed ?_
    cases active <;> exact checked_eq_ok.1 done

/-- What the marks of a queue promise. -/
structure MarksHold (scheduler : Scheduler) (scid : UInt32) (queueType : PacketTypeQueue)
    (marks : QueueMarks) : Prop where
  active : marks.active = true → (scheduler.connectionPolicy queueType).isActive scid = true
  phantom : marks.phantom = some true → scheduler.phantomConnectionPolicy.isActive scid = true
  orderedPush : marks.orderedPush = some true →
    scheduler.orderedPushReqConnectionPolicy.isActive scid = true

theorem MarksHold.of_same {before after : Scheduler}
    (hold : MarksHold before scid queueType marks) (same : SameConnections before after) :
    MarksHold after scid queueType marks where
  active marked := (same.connection queueType scid).trans (hold.active marked)
  phantom marked := (same.phantom scid).trans (hold.phantom marked)
  orderedPush marked := (same.orderedPush scid).trans (hold.orderedPush marked)

/-- What applying the marks of a queue does. -/
structure Applied (before after : Scheduler) (scid : UInt32) (queueType : PacketTypeQueue)
    (marks : QueueMarks) : Prop where
  formed : PoliciesFormed after
  connection : ∀ other otherScid, (after.connectionPolicy other).isActive otherScid =
    if other = queueType ∧ otherScid = scid then marks.active
    else (before.connectionPolicy other).isActive otherScid
  phantom : ∀ other, after.phantomConnectionPolicy.isActive other =
    if other = scid then marks.phantom.getD (before.phantomConnectionPolicy.isActive scid)
    else before.phantomConnectionPolicy.isActive other
  orderedPush : ∀ other, after.orderedPushReqConnectionPolicy.isActive other =
    if other = scid then marks.orderedPush.getD (before.orderedPushReqConnectionPolicy.isActive scid)
    else before.orderedPushReqConnectionPolicy.isActive other
  packetType : after.packetTypePolicy = before.packetTypePolicy

theorem apply_marks_spec {before after : Scheduler} (formed : PoliciesFormed before)
    (done : before.applyMarks scid queueType marks = .ok after) :
    Applied before after scid queueType marks := by
  obtain ⟨policy, marked, rest⟩ := bind_eq_ok.1 done
  obtain ⟨phantom, markedPhantom, rest⟩ := bind_eq_ok.1 rest
  obtain ⟨orderedPush, markedOrdered, final⟩ := bind_eq_ok.1 rest
  cases final
  obtain ⟨formedPolicy, active⟩ := mark_spec (formed.connection queueType) marked
  obtain ⟨formedPhantom, activePhantom⟩ := mark_spec formed.phantom markedPhantom
  obtain ⟨formedOrdered, activeOrdered⟩ := mark_spec formed.orderedPush markedOrdered
  refine ⟨⟨fun other => ?_, formed.packetType, formedPhantom, formedOrdered⟩,
    fun other otherScid => ?_, activePhantom, activeOrdered, rfl⟩
  · by_cases same : other = queueType
    · subst same
      simpa [Scheduler.setConnectionPolicy] using formedPolicy
    · simpa [Scheduler.setConnectionPolicy, same] using formed.connection other
  · by_cases same : other = queueType
    · subst same
      simp [Scheduler.setConnectionPolicy, active]
    · simp [Scheduler.setConnectionPolicy, same]

theorem Applied.hold {before after : Scheduler}
    (applied : Applied before after scid queueType marks) :
    MarksHold after scid queueType marks where
  active marked := by rw [applied.connection, if_pos ⟨rfl, rfl⟩, marked]
  phantom marked := by rw [applied.phantom, if_pos rfl, marked]; rfl
  orderedPush marked := by rw [applied.orderedPush, if_pos rfl, marked]; rfl

/-- Only the shared queue of requests has a say on phantoms and ordered push requests. -/
theorem marks_of_own_queue {enablePause : Bool} {items : List WorkId}
    (found : queueMarks connection enablePause queueType items = .ok marks)
    (own : queueType ≠ .pullAndOrderedPushRequest) :
    marks.phantom = none ∧ marks.orderedPush = none := by
  unfold queueMarks at found
  simp only [own, if_false, false_and] at found
  split at found
  · cases found
    exact ⟨rfl, rfl⟩
  · split_ifs at found
    · cases found
      exact ⟨rfl, rfl⟩
    · split at found
      · cases found
      · cases found
        exact ⟨rfl, rfl⟩

/-- What is marked for the queues of a connection is what was found for them. -/
def MarkedAt (scheduler : Scheduler) (connection : ConnectionState) (enablePause : Bool)
    (scid : UInt32) (queueType : PacketTypeQueue) (items : List WorkId) : Prop :=
  ∀ marks, queueMarks connection enablePause queueType items = .ok marks →
    MarksHold scheduler scid queueType marks

/-- What marking the queues of a connection leaves alone. -/
structure MarkedOnly (before after : Scheduler) (scid : UInt32) (types : List PacketTypeQueue) :
    Prop where
  formed : PoliciesFormed after
  connection : ∀ queueType other, queueType ∉ types ∨ other ≠ scid →
    (after.connectionPolicy queueType).isActive other =
      (before.connectionPolicy queueType).isActive other
  phantom : ∀ other, .pullAndOrderedPushRequest ∉ types ∨ other ≠ scid →
    after.phantomConnectionPolicy.isActive other = before.phantomConnectionPolicy.isActive other
  orderedPush : ∀ other, .pullAndOrderedPushRequest ∉ types ∨ other ≠ scid →
    after.orderedPushReqConnectionPolicy.isActive other =
      before.orderedPushReqConnectionPolicy.isActive other
  packetType : after.packetTypePolicy = before.packetTypePolicy

theorem recompute_connection_spec {enablePause : Bool} {queues : ConnectionSchedulerQueues}
    {types : List PacketTypeQueue} {before after : Scheduler} (formed : PoliciesFormed before)
    (distinct : types.Nodup)
    (done : before.recomputeConnection connection enablePause scid queues types = .ok after) :
    MarkedOnly before after scid types ∧ ∀ queueType ∈ types,
      MarkedAt after connection enablePause scid queueType (queues queueType) := by
  induction types generalizing before with
  | nil =>
    cases done
    exact ⟨⟨formed, fun _ _ _ => rfl, fun _ _ => rfl, fun _ _ => rfl, rfl⟩, by simp⟩
  | cons queueType rest ih =>
    rw [Scheduler.recomputeConnection] at done
    obtain ⟨marks, found, done⟩ := bind_eq_ok.1 done
    obtain ⟨middle, marked, done⟩ := bind_eq_ok.1 done
    have applied := apply_marks_spec formed marked
    obtain ⟨fresh, distinct⟩ := List.nodup_cons.1 distinct
    obtain ⟨only, held⟩ := ih applied.formed distinct done
    have own := marks_of_own_queue found
    refine ⟨⟨only.formed, fun other otherScid away => ?_, fun other away => ?_, fun other away => ?_,
      only.packetType.trans applied.packetType⟩, fun other mem => ?_⟩
    · rw [only.connection other otherScid (away.imp_left
        List.not_mem_of_not_mem_cons), applied.connection, if_neg]
      rintro ⟨rfl, rfl⟩
      rcases away with outside | different
      · exact outside List.mem_cons_self
      · exact different rfl
    · rw [only.phantom other (away.imp_left List.not_mem_of_not_mem_cons),
        applied.phantom]
      split
      · rename_i same
        rcases away with outside | different
        · rw [(own (List.ne_of_not_mem_cons outside).symm).1, same]
          rfl
        · exact absurd same different
      · rfl
    · rw [only.orderedPush other (away.imp_left List.not_mem_of_not_mem_cons),
        applied.orderedPush]
      split
      · rename_i same
        rcases away with outside | different
        · rw [(own (List.ne_of_not_mem_cons outside).symm).2, same]
          rfl
        · exact absurd same different
      · rfl
    · rcases List.mem_cons.1 mem with rfl | later
      · intro again foundAgain
        rw [found] at foundAgain
        cases foundAgain
        have hold := applied.hold
        by_cases shared : other = .pullAndOrderedPushRequest
        · subst shared
          exact ⟨fun marked => (only.connection _ _ (.inl fresh)).trans (hold.active marked),
            fun marked => (only.phantom _ (.inl fresh)).trans (hold.phantom marked),
            fun marked => (only.orderedPush _ (.inl fresh)).trans (hold.orderedPush marked)⟩
        · refine ⟨fun marked => (only.connection _ _ (.inl fresh)).trans (hold.active marked),
            fun marked => ?_, fun marked => ?_⟩
          · rw [(own shared).1] at marked
            cases marked
          · rw [(own shared).2] at marked
            cases marked
      · exact held other later

/-! ## Queue types -/

def HasActive (policy : Policy UInt32) : Prop := ∃ scid, policy.isActive scid = true

/-- Whether a queue type passes its global criterion. -/
def Passes (host : Host) : PacketTypeQueue → Prop
  | .pushGrant => host.admission.admits maxRequestLength .pushGrant host.now = true
  | .pullAndOrderedPushRequest =>
    HasActive host.scheduler.orderedPushReqConnectionPolicy ∨
      HasActive host.scheduler.phantomConnectionPolicy ∨
      host.admission.admits maxRequestLength .pullRequest host.now = true
  | _ => True

/-- Whether a queue type passes its global criterion whatever admission control says. -/
def IsOpen (scheduler : Scheduler) : PacketTypeQueue → Prop
  | .pushGrant => False
  | .pullAndOrderedPushRequest => HasActive scheduler.orderedPushReqConnectionPolicy ∨
      HasActive scheduler.phantomConnectionPolicy
  | _ => True

theorem passes_of_open (isOpen : IsOpen host.scheduler queueType) : Passes host queueType := by
  cases queueType with
  | pullAndOrderedPushRequest => exact isOpen.imp_right .inl
  | pushGrant => exact isOpen.elim
  | _ => trivial

theorem has_active_congr {before after : Policy UInt32}
    (same : ∀ scid, after.isActive scid = before.isActive scid) :
    HasActive after ↔ HasActive before := by
  unfold HasActive
  simp only [same]

theorem has_work_iff {policy : Policy UInt32} (formed : policy.WellFormed) :
    (policy.hasWork equalWeights).1 = true ↔ HasActive policy := by
  constructor
  · exact Policy.active_of_has_work formed
  · rintro ⟨scid, active⟩
    exact Policy.has_work_of_active formed active Nat.one_pos

/-- What asking for the global criterion of a queue type does. -/
theorem global_criteria_spec (formed : PoliciesFormed host.scheduler)
    (queueType : PacketTypeQueue) :
    Steady host.scheduler (host.meetsGlobalCriteria queueType).2.scheduler ∧
      (Passes host queueType → (host.meetsGlobalCriteria queueType).1 = true) := by
  have ordered := ordered_push_has_work_steady formed
  have both := ordered.trans (phantom_has_work_steady ordered.formed)
  unfold Host.meetsGlobalCriteria
  cases queueType with
  | pushGrant => exact ⟨.refl formed, fun passes => passes⟩
  | pullAndOrderedPushRequest =>
    dsimp only
    split_ifs with orderedWork phantomWork
    · exact ⟨ordered, fun _ => rfl⟩
    · exact ⟨both, fun _ => rfl⟩
    · refine ⟨both, fun passes => ?_⟩
      rcases passes with hasOrdered | hasPhantom | admitted
      · exact absurd ((has_work_iff formed.orderedPush).2 hasOrdered) orderedWork
      · exact absurd ((has_work_iff ordered.formed.phantom).2
          ((has_active_congr ordered.phantom).2 hasPhantom)) phantomWork
      · exact admitted
  | _ => exact ⟨.refl formed, fun _ => rfl⟩

theorem mark_packet_type_spec {before after : Scheduler} {active : Bool}
    (formed : PoliciesFormed before) (done : before.markPacketType queueType active = .ok after) :
    SameConnections before after ∧ ∀ other, after.packetTypePolicy.isActive other =
      if other = queueType then active else before.packetTypePolicy.isActive other := by
  obtain ⟨policy, marked, final⟩ := bind_eq_ok.1 done
  cases final
  obtain ⟨formedPolicy, activity⟩ := marked_spec formed.packetType (checked_eq_ok.1 marked)
  exact ⟨⟨⟨formed.connection, formedPolicy, formed.phantom, formed.orderedPush⟩, fun _ _ => rfl,
    fun _ => rfl, fun _ => rfl⟩, activity⟩

theorem recompute_queue_type_spec (formed : PoliciesFormed before.scheduler)
    (done : before.recomputeQueueType queueType = .ok after) :
    SameConnections before.scheduler after.scheduler ∧
      (∀ other, other ≠ queueType → after.scheduler.packetTypePolicy.isActive other =
        before.scheduler.packetTypePolicy.isActive other) ∧
      (Passes before queueType → HasActive (before.scheduler.connectionPolicy queueType) →
        after.scheduler.packetTypePolicy.isActive queueType = true) := by
  obtain ⟨asked, meets⟩ := global_criteria_spec formed queueType
  have worked := connection_has_work_steady asked.formed queueType
  unfold Host.recomputeQueueType at done
  dsimp only at done
  split at done
  · cases done
  · rename_i scheduler marked
    cases done
    split at marked
    · rename_i met
      obtain ⟨same, activity⟩ := mark_packet_type_spec worked.formed marked
      refine ⟨(asked.trans worked).toSameConnections.trans same, fun other different => ?_,
        fun _ some_ => ?_⟩
      · rw [activity, if_neg different]
        exact (asked.trans worked).packetType other
      · rw [activity, if_pos rfl]
        exact (has_work_iff (asked.formed.connection queueType)).2
          ((has_active_congr (asked.connection queueType)).2 some_)
    · rename_i refused
      obtain ⟨same, activity⟩ := mark_packet_type_spec asked.formed marked
      refine ⟨asked.toSameConnections.trans same, fun other different => ?_, fun passes _ => ?_⟩
      · rw [activity, if_neg different]
        exact asked.packetType other
      · exact absurd (meets passes) refused

/-- The global criteria do not depend on marks, nor on tokens already accounted for. -/
theorem passes_congr (core : SameCore before after)
    (same : SameConnections before.scheduler after.scheduler) (queueType : PacketTypeQueue) :
    Passes after queueType ↔ Passes before queueType := by
  unfold Passes
  have admits (type : PacketType) := core.admission.admits (Nat.le_refl _) maxRequestLength type
  cases queueType with
  | pushGrant => simp only [core.now, admits]
  | pullAndOrderedPushRequest =>
    simp only [core.now, admits, has_active_congr same.phantom, has_active_congr same.orderedPush]
  | _ => exact Iff.rfl

theorem recompute_types_spec {types : List PacketTypeQueue}
    (formed : PoliciesFormed before.scheduler)
    (done : types.foldlM Host.recomputeQueueType before = .ok after) :
    SameConnections before.scheduler after.scheduler ∧
      (∀ other ∉ types, after.scheduler.packetTypePolicy.isActive other =
        before.scheduler.packetTypePolicy.isActive other) ∧
      ∀ queueType ∈ types, Passes before queueType →
        HasActive (before.scheduler.connectionPolicy queueType) →
        after.scheduler.packetTypePolicy.isActive queueType = true := by
  induction types generalizing before with
  | nil =>
    cases done
    exact ⟨(Steady.refl formed).toSameConnections, fun _ _ => rfl, by simp⟩
  | cons queueType rest ih =>
    obtain ⟨middle, one, done⟩ := bind_eq_ok.1 done
    obtain ⟨same, others, here⟩ := recompute_queue_type_spec formed one
    have core := recompute_queue_type_core one
    obtain ⟨sameRest, outside, inside⟩ := ih same.formed done
    refine ⟨same.trans sameRest, fun other away => ?_, fun other mem passes some_ => ?_⟩
    · rw [outside other (List.not_mem_of_not_mem_cons away),
        others other (List.ne_of_not_mem_cons away)]
    · by_cases later : other ∈ rest
      · exact inside other later ((passes_congr core same other).2 passes)
          ((has_active_congr (same.connection other)).2 some_)
      · rcases List.mem_cons.1 mem with rfl | mem
        · rw [outside other later]
          exact here passes some_
        · exact absurd mem later

/-! ## The cache of a host -/

/-- The work items of push data. -/
def isData (type : PacketType) : Prop := type = .pushSolicitedData ∨ type = .pushUnsolicitedData

/-- What the policies keep of a host is true, beside the marks of one connection that is about to be
recomputed. -/
structure CachedBut (stale : Option UInt32) (host : Host) : Prop where
  formed : PoliciesFormed host.scheduler
  marks : ∀ scid connection queues, stale ≠ some scid →
    host.connections scid = some connection →
    host.scheduler.connectionQueues scid = some queues → ∀ queueType,
    MarkedAt host.scheduler connection host.enablePauseInitialTransmissionOnOowDrops scid queueType
      (queues queueType)
  types : ∀ queueType, IsOpen host.scheduler queueType →
    HasActive (host.scheduler.connectionPolicy queueType) →
    host.scheduler.packetTypePolicy.isActive queueType = true
  data : ∀ scid, ∀ item ∈ host.scheduler.queue scid .pushData, isData item.type

abbrev Cached : Host → Prop := CachedBut none

theorem queue_types_all (queueType : PacketTypeQueue) : queueType ∈ queueTypes := by
  cases queueType <;> simp [queueTypes]

theorem is_open_congr {before after : Scheduler} (same : SameConnections before after)
    (queueType : PacketTypeQueue) : IsOpen after queueType ↔ IsOpen before queueType := by
  unfold IsOpen
  cases queueType with
  | pullAndOrderedPushRequest =>
    simp only [has_active_congr same.phantom, has_active_congr same.orderedPush]
  | _ => exact Iff.rfl

/-- The first step of a recomputation makes the marks of the connection true. -/
theorem recompute_own_spec (cached : CachedBut (some scid) host)
    (done : host.recomputeOwnQueues scid = .ok scheduler) :
    PoliciesFormed scheduler ∧ ∀ other connection queues, host.connections other = some connection →
      host.scheduler.connectionQueues other = some queues → ∀ queueType,
      MarkedAt scheduler connection host.enablePauseInitialTransmissionOnOowDrops other queueType
        (queues queueType) := by
  unfold Host.recomputeOwnQueues at done
  split at done
  · rename_i unknown
    cases done
    refine ⟨cached.formed, fun other connection queues found known => ?_⟩
    refine cached.marks other connection queues ?_ found known
    rintro ⟨rfl⟩
    rw [unknown] at known
    cases known
  · rename_i ownQueues ownKnown
    split at done
    · cases done
    · rename_i current looked
      obtain ⟨only, held⟩ :=
        recompute_connection_spec cached.formed (show queueTypes.Nodup by decide) done
      refine ⟨only.formed, fun other connection queues found known queueType => ?_⟩
      by_cases same : other = scid
      · subst same
        rw [ownKnown] at known
        cases known
        rw [lookup_eq_ok, found] at looked
        cases looked
        exact held queueType (queue_types_all queueType)
      · intro marks marked
        have hold := cached.marks other connection queues
          (fun isScid => same (Option.some.inj isScid).symm) found known queueType marks marked
        exact ⟨fun active => (only.connection _ _ (.inr same)).trans (hold.active active),
          fun active => (only.phantom _ (.inr same)).trans (hold.phantom active),
          fun active => (only.orderedPush _ (.inr same)).trans (hold.orderedPush active)⟩

/-- A recomputation makes the whole cache true again, and every queue type that passes its global
criterion has work whenever one of its connections has. -/
theorem recompute_spec (cached : CachedBut (some scid) before)
    (done : before.recomputeEligibility scid = .ok after) :
    Cached after ∧ ∀ queueType, Passes after queueType →
      HasActive (after.scheduler.connectionPolicy queueType) →
      after.scheduler.packetTypePolicy.isActive queueType = true := by
  have core := recompute_core done
  unfold Host.recomputeEligibility at done
  obtain ⟨scheduler, own, done⟩ := bind_eq_ok.1 done
  obtain ⟨middle, typed, final⟩ := bind_eq_ok.1 done
  cases final
  obtain ⟨formed, marks⟩ := recompute_own_spec cached own
  obtain ⟨same, -, active⟩ := recompute_types_spec formed typed
  have asked := has_work_steady same.formed
  have sameAll : SameConnections scheduler middle.hasWork.2.scheduler :=
    same.trans asked.toSameConnections
  have typesCore := (recompute_types_core typed).trans (has_work_core middle)
  have types (queueType : PacketTypeQueue) (passes : Passes middle.hasWork.2 queueType)
      (some_ : HasActive (middle.hasWork.2.scheduler.connectionPolicy queueType)) :
      middle.hasWork.2.scheduler.packetTypePolicy.isActive queueType = true := by
    rw [asked.packetType]
    exact active queueType (queue_types_all queueType)
      ((passes_congr typesCore sameAll queueType).1 passes)
      ((has_active_congr (sameAll.connection queueType)).1 some_)
  refine ⟨⟨asked.formed, fun other connection queues _ found known queueType marked isMarked => ?_,
    fun queueType isOpen => types queueType (passes_of_open isOpen), ?_⟩, types⟩
  · rw [core.connections] at found
    rw [core.packets.queues] at known
    rw [core.enablePause] at isMarked
    exact (marks other connection queues found known queueType marked isMarked).of_same sameAll
  · rw [core.packets.queue]
    exact cached.data

/-! ## Changes that leave the cache true -/

/-- Two states of a connection with the same gating variables. -/
structure SameGates (before after : ConnectionState) : Prop where
  requestWindow : after.requestWindow = before.requestWindow
  dataWindow : after.dataWindow = before.dataWindow
  congestionControl : after.congestionControl = before.congestionControl
  isOpRateLimited : after.isOpRateLimited = before.isOpRateLimited

/-- A change of a connection after which no more of its queues may be served than before. -/
structure KeepsMarks (before after : ConnectionState) : Prop extends SameGates before after where
  flags : ∀ item, isData item.type → isEligible after item = true → isEligible before item = true

theorem SameGates.refl (connection : ConnectionState) : SameGates connection connection :=
  ⟨rfl, rfl, rfl, rfl⟩

theorem SameGates.trans {first second third : ConnectionState} (one : SameGates first second)
    (two : SameGates second third) : SameGates first third :=
  ⟨two.requestWindow.trans one.requestWindow, two.dataWindow.trans one.dataWindow,
    two.congestionControl.trans one.congestionControl,
    two.isOpRateLimited.trans one.isOpRateLimited⟩

theorem KeepsMarks.refl (connection : ConnectionState) : KeepsMarks connection connection :=
  ⟨.refl connection, fun _ _ eligible => eligible⟩

theorem KeepsMarks.criteria {before after : ConnectionState} (keeps : KeepsMarks before after)
    (enablePause : Bool) (type : PacketType) :
    (after.meetsCcCriteria type && after.meetsOowCriteria enablePause type) =
      (before.meetsCcCriteria type && before.meetsOowCriteria enablePause type) := by
  have window : after.txWindow type = before.txWindow type := by
    unfold ConnectionState.txWindow
    rw [keeps.requestWindow, keeps.dataWindow]
  have openFcwnd : after.getOpenFcwnd type = before.getOpenFcwnd type := by
    unfold ConnectionState.getOpenFcwnd
    rw [window, keeps.congestionControl]
  unfold ConnectionState.meetsCcCriteria ConnectionState.meetsOowCriteria
  rw [window, openFcwnd, keeps.congestionControl]

theorem head_eligible_iff (data : isData item.type) :
    headEligible connection .pushData item = .ok true ↔ isEligible connection item = true := by
  obtain ⟨rsn, type⟩ := item
  have side : getTransactionLocation type false = .ok .initiator := by
    rcases data with same | same <;> cases same <;> rfl
  have key : itemKey ⟨rsn, type⟩ = ⟨rsn, .initiator⟩ := by
    rcases data with same | same <;> cases same <;> rfl
  unfold headEligible ConnectionState.lookupPacket isEligible flagOf
  rw [if_pos rfl, side, key]
  dsimp only
  cases connection.transactions ⟨rsn, .initiator⟩ with
  | none => simp
  | some transaction =>
    cases present : transaction.packets type with
    | none => simp [present]
    | some packet => simp [present]

/-- Marks stay true when no more may be served than before. -/
theorem marked_at_of_kept {before after : ConnectionState} {enablePause : Bool}
    {items : List WorkId} (marked : MarkedAt scheduler before enablePause scid queueType items)
    (keeps : KeepsMarks before after)
    (data : queueType = .pushData → ∀ item ∈ items, isData item.type) :
    MarkedAt scheduler after enablePause scid queueType items := by
  intro marks found
  cases items with
  | nil => exact marked marks found
  | cons head rest =>
    by_cases pushData : queueType = .pushData
    · subst pushData
      have headData := data rfl head List.mem_cons_self
      obtain ⟨noPhantom, noOrdered⟩ := marks_of_own_queue found (by simp)
      refine ⟨fun active => ?_, fun phantom => ?_, fun ordered => ?_⟩
      · unfold queueMarks at found
        simp only [reduceCtorEq, false_and, if_false] at found
        split_ifs at found with limited
        · cases found
          cases active
        · split at found
          · cases found
          · rename_i eligible isEligible_
            cases found
            simp only [Bool.and_eq_true] at active
            obtain ⟨flag, criteria⟩ := active
            rw [flag, head_eligible_iff headData] at isEligible_
            have was := (head_eligible_iff headData).2
              (keeps.flags head headData isEligible_)
            refine (marked ⟨true, none, none⟩ ?_).active rfl
            have same := keeps.criteria enablePause head.type
            rw [keeps.isOpRateLimited] at limited
            unfold queueMarks
            simp only [reduceCtorEq, false_and, if_false, limited, was, Bool.true_and]
            rw [← same, criteria.1, criteria.2]
            rfl
      · rw [noPhantom] at phantom
        cases phantom
      · rw [noOrdered] at ordered
        cases ordered
    · refine marked marks ?_
      rw [← found]
      have same := keeps.criteria enablePause head.type
      unfold queueMarks headEligible
      simp only [pushData, if_false, keeps.isOpRateLimited, same]

/-- A change of the host that leaves its policies and its queues alone, and lets no more be
served. -/
structure Kept (before after : Host) : Prop where
  policies : Steady before.scheduler after.scheduler
  queues : after.scheduler.connectionQueues = before.scheduler.connectionQueues
  connections : ∀ scid connection, after.connections scid = some connection →
    ∃ old, before.connections scid = some old ∧ KeepsMarks old connection
  enablePause : after.enablePauseInitialTransmissionOnOowDrops =
    before.enablePauseInitialTransmissionOnOowDrops

theorem queue_of_queues {before after : Scheduler}
    (same : after.connectionQueues = before.connectionQueues) : after.queue = before.queue := by
  funext scid queueType
  simp only [Scheduler.queue, same]

theorem types_of_steady {before after : Scheduler} (steady : Steady before after)
    (types : ∀ queueType, IsOpen before queueType → HasActive (before.connectionPolicy queueType) →
      before.packetTypePolicy.isActive queueType = true) (queueType : PacketTypeQueue)
    (isOpen : IsOpen after queueType) (some_ : HasActive (after.connectionPolicy queueType)) :
    after.packetTypePolicy.isActive queueType = true := by
  rw [steady.packetType]
  exact types queueType ((is_open_congr steady.toSameConnections queueType).1 isOpen)
    ((has_active_congr (steady.connection queueType)).1 some_)

theorem CachedBut.keep {stale : Option UInt32} (cached : CachedBut stale before)
    (kept : Kept before after) : CachedBut stale after where
  formed := kept.policies.formed
  marks scid connection queues fresh found known queueType := by
    obtain ⟨old, wasFound, keeps⟩ := kept.connections scid connection found
    rw [kept.queues] at known
    have marked := cached.marks scid old queues fresh wasFound known queueType
    rw [kept.enablePause]
    have moved : MarkedAt after.scheduler old before.enablePauseInitialTransmissionOnOowDrops scid
        queueType (queues queueType) :=
      fun marks isMarked => (marked marks isMarked).of_same kept.policies.toSameConnections
    refine marked_at_of_kept moved keeps fun pushData item mem => ?_
    subst pushData
    refine cached.data scid item ?_
    simpa [Scheduler.queue, known] using mem
  types := types_of_steady kept.policies cached.types
  data := by
    rw [queue_of_queues kept.queues]
    exact cached.data

/-- A change of a host that concerns one connection, whose marks need not stay true. -/
structure Touched (scid : UInt32) (before after : Host) : Prop where
  policies : Steady before.scheduler after.scheduler
  connections : ∀ other, other ≠ scid → after.connections other = before.connections other
  queues : ∀ other, other ≠ scid →
    after.scheduler.connectionQueues other = before.scheduler.connectionQueues other
  enablePause : after.enablePauseInitialTransmissionOnOowDrops =
    before.enablePauseInitialTransmissionOnOowDrops
  data : ∀ item ∈ after.scheduler.queue scid .pushData,
    item ∈ before.scheduler.queue scid .pushData ∨ isData item.type

theorem CachedBut.touch {stale : Option UInt32} (cached : CachedBut stale before)
    (only : stale = none ∨ stale = some scid) (touched : Touched scid before after) :
    CachedBut (some scid) after where
  formed := touched.policies.formed
  marks other connection queues fresh found known queueType marks isMarked := by
    have different : other ≠ scid := fun same => fresh (by rw [same])
    rw [touched.connections other different] at found
    rw [touched.queues other different] at known
    rw [touched.enablePause] at isMarked
    refine (cached.marks other connection queues ?_ found known queueType marks isMarked).of_same
      touched.policies.toSameConnections
    rcases only with rfl | rfl
    · simp
    · exact fresh
  types := types_of_steady touched.policies cached.types
  data other item mem := by
    by_cases same : other = scid
    · subst same
      rcases touched.data item mem with old | data
      · exact cached.data other item old
      · exact data
    · refine cached.data other item ?_
      simpa only [Scheduler.queue, touched.queues other same] using mem

theorem CachedBut.weaken {stale : Option UInt32} (cached : CachedBut stale host)
    (only : stale = none ∨ stale = some scid) : CachedBut (some scid) host :=
  cached.touch only ⟨.refl cached.formed, fun _ _ => rfl, fun _ _ => rfl, rfl, fun _ => .inl⟩

/-! ## Operations of the host -/

/-- All connections keep their gating variables. -/
def GatesKept (before after : Host) : Prop :=
  ∀ scid connection, after.connections scid = some connection →
    ∃ old, before.connections scid = some old ∧ SameGates old connection

theorem GatesKept.of_same (same : after.connections = before.connections) :
    GatesKept before after :=
  fun _ connection found => ⟨connection, by rw [← same, found], .refl connection⟩

theorem GatesKept.trans {first second third : Host} (one : GatesKept first second)
    (two : GatesKept second third) : GatesKept first third := by
  intro scid connection found
  obtain ⟨middle, foundMiddle, gates⟩ := two scid connection found
  obtain ⟨old, foundOld, earlier⟩ := one scid middle foundMiddle
  exact ⟨old, foundOld, earlier.trans gates⟩

theorem gates_kept_set (found : host.connections scid = some connection)
    (gates : SameGates connection final) : GatesKept host (host.setConnection scid final) := by
  intro other current foundCurrent
  by_cases same : other = scid
  · subst same
    simp only [Host.setConnection, Function.update_self, Option.some.injEq] at foundCurrent
    subst foundCurrent
    exact ⟨connection, found, gates⟩
  · simp only [Host.setConnection, Function.update_of_ne same] at foundCurrent
    exact ⟨current, foundCurrent, .refl current⟩

section Touches
variable {host : Host} {scid : UInt32}

theorem Touched.trans {first second third : Host} (one : Touched scid first second)
    (two : Touched scid second third) : Touched scid first third where
  policies := one.policies.trans two.policies
  connections other different :=
    (two.connections other different).trans (one.connections other different)
  queues other different := (two.queues other different).trans (one.queues other different)
  enablePause := two.enablePause.trans one.enablePause
  data _ mem := (two.data _ mem).elim (one.data _) .inr

theorem touched_set (formed : PoliciesFormed host.scheduler) (connection : ConnectionState) :
    Touched scid host (host.setConnection scid connection) :=
  ⟨.refl formed, fun _ different => Function.update_of_ne different _ _, fun _ _ => rfl, rfl,
    fun _ => .inl⟩

theorem touched_set_queue (formed : PoliciesFormed host.scheduler) {items : List WorkId}
    (data : queueType = .pushData → ∀ item ∈ items,
      item ∈ host.scheduler.queue scid .pushData ∨ isData item.type) :
    Touched scid host { host with scheduler := host.scheduler.setQueue scid queueType items } := by
  refine ⟨⟨⟨⟨formed.connection, formed.packetType, formed.phantom, formed.orderedPush⟩,
    fun _ _ => rfl, fun _ => rfl, fun _ => rfl⟩, fun _ => rfl⟩, fun _ _ => rfl,
    fun other different => Function.update_of_ne different _ _, rfl, fun item mem => ?_⟩
  rw [queue_set_queue] at mem
  split at mem
  · rename_i here
    exact data here.2.symm item mem
  · exact .inl mem

theorem touched_enqueue (formed : PoliciesFormed host.scheduler) {queueType : PacketTypeQueue}
    {item : WorkId} (data : queueType = .pushData → isData item.type) :
    Touched scid host (host.enqueue scid queueType item) := by
  refine touched_set_queue formed fun pushData other mem => ?_
  subst pushData
  rcases List.mem_append.1 mem with old | new
  · exact .inl old
  · rw [List.mem_singleton.1 new]
    exact .inr (data rfl)

theorem touched_count (formed : PoliciesFormed host.scheduler) (counts : PacketTypeQueue → Nat) :
    Touched scid host { host with
      scheduler := { host.scheduler with packetQueueWisePktCount := counts } } :=
  ⟨⟨⟨⟨formed.connection, formed.packetType, formed.phantom, formed.orderedPush⟩, fun _ _ => rfl,
    fun _ => rfl, fun _ => rfl⟩, fun _ => rfl⟩, fun _ _ => rfl, fun _ _ => rfl, rfl, fun _ => .inl⟩

theorem touched_enqueued (formed : PoliciesFormed host.scheduler) (queueType : PacketTypeQueue) :
    Touched scid host (host.countEnqueued queueType) :=
  touched_count formed _

theorem touched_dequeued (formed : PoliciesFormed host.scheduler) (queueType : PacketTypeQueue) :
    Touched scid host { host with scheduler := host.scheduler.countDequeued queueType } :=
  touched_count formed _

end Touches

theorem data_of_queue {ordered : Bool} (queue : Host.queueOf ordered type = .ok .pushData) :
    isData type := by
  cases type <;> cases ordered <;> simp_all [Host.queueOf, isData]

/-- Enqueueing touches one connection and keeps its gating variables. -/
theorem add_packet_touched {rsn : UInt32} (formed : PoliciesFormed before.scheduler)
    (done : before.addPacketToQueue scid rsn type = .ok after) :
    Touched scid before after ∧ GatesKept before after := by
  obtain ⟨connection, found, done⟩ := bind_eq_ok.1 done
  obtain ⟨⟨key, transaction, packet⟩, located, done⟩ := bind_eq_ok.1 done
  obtain ⟨queueType, queueOf, done⟩ := bind_eq_ok.1 done
  rw [lookup_eq_ok] at found
  dsimp only at done
  split at done
  · cases done
    have set := @touched_set before scid formed
      (connection.setTransaction key (transaction.createPacket type
        { packet with isTransmissionEligible := true }))
    have gates : GatesKept before (before.setConnection scid (connection.setTransaction key
        (transaction.createPacket type { packet with isTransmissionEligible := true }))) :=
      gates_kept_set found ⟨rfl, rfl, rfl, rfl⟩
    exact ⟨set.trans (touched_enqueued set.policies.formed queueType), gates⟩
  · have own := @touched_enqueue before scid formed queueType ⟨rsn, type⟩ (by
      rintro rfl
      exact data_of_queue queueOf)
    have counted := own.trans (touched_enqueued own.policies.formed queueType)
    split at done
    · obtain ⟨_, -, done⟩ := bind_eq_ok.1 done
      cases done
      have twice := counted.trans
        (touched_enqueued counted.policies.formed .pullAndOrderedPushRequest)
      exact ⟨twice.trans (touched_enqueue twice.policies.formed (by simp)), .of_same rfl⟩
    · split at done
      · obtain ⟨_, -, done⟩ := bind_eq_ok.1 done
        cases done
        exact ⟨counted.trans (touched_enqueue counted.policies.formed fun _ => .inl rfl),
          .of_same rfl⟩
      · cases done
        exact ⟨counted, .of_same rfl⟩

/-- An operation that makes the cache true, wherever the connection it is about stands. -/
structure Renews (scid : UInt32) (before after : Host) : Prop where
  cached : CachedBut (some scid) before → Cached after
  gates : GatesKept before after

theorem recompute_renews (done : before.recomputeEligibility scid = .ok after) :
    Renews scid before after :=
  ⟨fun cached => (recompute_spec cached done).1, .of_same (recompute_core done).connections⟩

theorem Renews.after_touch {middle : Host} (renews : Renews scid middle after)
    (touched : PoliciesFormed before.scheduler → Touched scid before middle)
    (gates : GatesKept before middle) : Renews scid before after where
  cached cached := renews.cached (cached.touch (.inr rfl) (touched cached.formed))
  gates := gates.trans renews.gates

theorem enqueue_packet_renews {rsn : UInt32} (formed : PoliciesFormed before.scheduler)
    (done : before.enqueuePacket scid rsn type = .ok after) : Renews scid before after := by
  obtain ⟨middle, added, recomputed⟩ := bind_eq_ok.1 done
  obtain ⟨touched, gates⟩ := add_packet_touched formed added
  exact (recompute_renews recomputed).after_touch (fun _ => touched) gates

theorem pop_touched (formed : PoliciesFormed before.scheduler)
    (done : before.pop scid queueType = .ok after) :
    Touched scid before after ∧ after.connections = before.connections := by
  obtain ⟨item, rest, queue, rfl⟩ := pop_eq_ok.1 done
  refine ⟨touched_set_queue formed fun pushData other mem => ?_, rfl⟩
  subst pushData
  rw [queue]
  exact .inl (List.mem_cons_of_mem _ mem)

theorem handle_phantom_renews (formed : PoliciesFormed before.scheduler)
    (done : before.handlePhantomRequest scid queueType item = .ok after) :
    Renews scid before after := by
  obtain ⟨connection, found, done⟩ := bind_eq_ok.1 done
  obtain ⟨⟨key, transaction, packet⟩, located, done⟩ := bind_eq_ok.1 done
  obtain ⟨_, -, done⟩ := bind_eq_ok.1 done
  obtain ⟨popped, popping, recomputed⟩ := bind_eq_ok.1 done
  rw [lookup_eq_ok] at found
  have set := @touched_set before scid formed (connection.setTransaction key
    (transaction.createPacket .pushUnsolicitedData { packet with isTransmissionEligible := true }))
  obtain ⟨pop, same⟩ := pop_touched set.policies.formed popping
  have touched := (set.trans pop).trans (touched_dequeued pop.policies.formed queueType)
  have gates : GatesKept before (before.setConnection scid (connection.setTransaction key
      (transaction.createPacket .pushUnsolicitedData
        { packet with isTransmissionEligible := true }))) :=
    gates_kept_set found ⟨rfl, rfl, rfl, rfl⟩
  exact (recompute_renews recomputed).after_touch (fun _ => touched) (gates.trans (.of_same same))

/-- What the ULP submits begins or moves on a transaction, and leaves the gating variables alone. -/
theorem created_gates {threshold rsn : UInt32} {op : UlpOp}
    (done : createOrUpdateTransactionFromUlp connection threshold op = .ok (rsn, type, final)) :
    SameGates connection final := by
  cases op with
  | readRequest requestLength dataLength sglLength =>
    obtain ⟨transaction, moved, final⟩ := bind_eq_ok.1 done
    cases final
    exact ⟨rfl, rfl, rfl, rfl⟩
  | write requestLength dataLength sglLength =>
    obtain ⟨transaction, moved, final⟩ := bind_eq_ok.1 done
    cases final
    exact ⟨rfl, rfl, rfl, rfl⟩
  | readResponse responseRsn dataLength sglLength =>
    obtain ⟨old, live, done⟩ := bind_eq_ok.1 done
    obtain ⟨transaction, moved, final⟩ := bind_eq_ok.1 done
    cases final
    exact ⟨rfl, rfl, rfl, rfl⟩

theorem initiate_renews {op : UlpOp} (formed : PoliciesFormed before.scheduler)
    (done : initiateTransaction before scid op = .ok after) : Renews scid before after := by
  obtain ⟨connection, found, done⟩ := bind_eq_ok.1 done
  obtain ⟨⟨rsn, type, final⟩, created, done⟩ := bind_eq_ok.1 done
  rw [lookup_eq_ok] at found
  have set := @touched_set before scid formed final
  exact (enqueue_packet_renews set.policies.formed done).after_touch (fun _ => set)
    (gates_kept_set found (created_gates created))

/-! ## Operations that enqueue nothing -/

theorem kept_set (formed : PoliciesFormed host.scheduler)
    (found : host.connections scid = some connection) (keeps : KeepsMarks connection final) :
    Kept host (host.setConnection scid final) := by
  refine ⟨.refl formed, rfl, fun other current foundCurrent => ?_, rfl⟩
  by_cases same : other = scid
  · subst same
    simp only [Host.setConnection, Function.update_self, Option.some.injEq] at foundCurrent
    subst foundCurrent
    exact ⟨connection, found, keeps⟩
  · simp only [Host.setConnection, Function.update_of_ne same] at foundCurrent
    exact ⟨current, foundCurrent, .refl current⟩

/-- A change of one transaction that sets no flag of push data. -/
theorem keeps_update {connection final : ConnectionState} {key : TransactionKey}
    {value : Option TransactionMetadata} (gates : SameGates connection final)
    (transactions : final.transactions = Function.update connection.transactions key value)
    (flags : ∀ type, isData type → key.location = .initiator → flagOf value type = true →
      flagOf (connection.transactions key) type = true) : KeepsMarks connection final := by
  refine ⟨gates, fun item data eligible => ?_⟩
  unfold isEligible at eligible ⊢
  rw [transactions] at eligible
  by_cases here : itemKey item = key
  · rw [here, Function.update_self] at eligible
    rw [here]
    refine flags item.type data ?_ eligible
    rw [← here]
    rcases data with same | same <;> · unfold itemKey; rw [same]; rfl
  · rwa [Function.update_of_ne here] at eligible

theorem received_keeps {packet : NetworkPacket} {location : TransactionLocation}
    {base transaction : TransactionMetadata}
    (arrived : Arrived connection packet location base transaction final) :
    KeepsMarks connection final := by
  obtain ⟨side, emplaced, -, -, -, others, rfl⟩ := arrived
  refine @keeps_update connection _ ⟨packet.rsn, location⟩ (some transaction)
    ⟨rfl, rfl, rfl, rfl⟩ rfl fun type data initiator flag => ?_
  dsimp only at initiator
  subst initiator
  have answer : packet.type = .pullData ∨ packet.type = .pushGrant ∨ packet.type = .ack := by
    cases type : packet.type <;> rw [type] at side <;> cases side <;> simp
  have different : type ≠ packet.type := by
    rintro rfl
    rcases data with same | same <;> rw [same] at answer <;> simp at answer
  have live : connection.transactions ⟨packet.rsn, .initiator⟩ = some base := by
    rcases answer with same | same | same <;> unfold emplaceTransaction at emplaced <;>
      rw [same] at emplaced
    · exact get_transaction_eq_ok.1 emplaced
    · exact get_transaction_eq_ok.1 emplaced
    · cases emplaced
  rw [live]
  simpa only [flagOf, Option.any_some, others type different] using flag

/-- A transaction that moves on keeps its packets, and one that ends has none. -/
theorem progress_keeps {key : TransactionKey} {old : TransactionMetadata}
    {value : Option TransactionMetadata} {refunded : Bool}
    (live : connection.transactions key = some old)
    (progress : Progress old key.location value refunded) :
    KeepsMarks connection { connection with
      transactions := Function.update connection.transactions key value } := by
  have packets : value = none ∨ ∃ state, value = some { old with state := state } := by
    obtain ⟨rsn, location⟩ := key
    dsimp only at progress
    cases progress with
    | handed data step => exact .inr ⟨_, rfl⟩
    | refused step => exact .inr ⟨_, rfl⟩
    | accepted pull step => exact .inr ⟨_, rfl⟩
    | pushed push step => exact .inl rfl
    | pulled step => exact .inl rfl
    | completed step => exact .inl rfl
    | acked side step =>
      split
      · exact .inl rfl
      · exact .inr ⟨_, rfl⟩
  refine keeps_update ⟨rfl, rfl, rfl, rfl⟩ rfl fun type data _ flag => ?_
  rw [live]
  rcases packets with rfl | ⟨state, rfl⟩
  · cases flag
  · exact flag

theorem progressed_kept {key : TransactionKey} {old : TransactionMetadata}
    {value : Option TransactionMetadata} {refunded : Bool}
    (formed : PoliciesFormed before.scheduler)
    (spec : Progressed before after scid connection key old value refunded) :
    Kept before after := by
  have set := kept_set formed spec.found (progress_keeps spec.live spec.progress)
  refine ⟨?_, by rw [spec.scheduler], fun other current found => ?_, spec.settings.enablePause⟩
  · rw [spec.scheduler]
    exact .refl formed
  · rw [spec.connections] at found
    exact set.connections other current found

theorem transfer_kept {packet : NetworkPacket} (formed : PoliciesFormed before.scheduler)
    (done : transferRxPacket before scid packet = .ok after) : Kept before after := by
  obtain ⟨connection, found, done⟩ := bind_eq_ok.1 done
  obtain ⟨final, created, done⟩ := bind_eq_ok.1 done
  cases done
  obtain ⟨location, base, transaction, arrived⟩ := create_from_network_spec created
  exact kept_set formed (lookup_eq_ok.1 found) (received_keeps arrived)

theorem next_work_kept (formed : PoliciesFormed before.scheduler)
    (done : before.nextWork = .ok (queueType, scid, item, after)) : Kept before after := by
  obtain ⟨⟨type, policy⟩, typed, done⟩ := bind_eq_ok.1 done
  obtain ⟨⟨chosen, connectionPolicy⟩, connected, done⟩ := bind_eq_ok.1 done
  obtain ⟨sameType, formedType⟩ :=
    Policy.get_next_entity_same formed.packetType (checked_eq_ok.1 typed)
  obtain ⟨sameConnection, formedConnection⟩ :=
    Policy.get_next_entity_same (formed.connection type) (checked_eq_ok.1 connected)
  dsimp only at done
  split at done
  · cases done
  · cases done
    refine ⟨⟨⟨⟨fun other => ?_, formedType, formed.phantom, formed.orderedPush⟩,
      fun other otherScid => ?_, fun _ => rfl, fun _ => rfl⟩, sameType.active⟩, rfl,
      fun _ connection found => ⟨connection, found, .refl connection⟩, rfl⟩
    · by_cases same : other = queueType
      · subst same
        simpa [Scheduler.setConnectionPolicy] using formedConnection
      · simpa [Scheduler.setConnectionPolicy, same] using formed.connection other
    · by_cases same : other = queueType
      · subst same
        simp [Scheduler.setConnectionPolicy, sameConnection.active]
      · simp [Scheduler.setConnectionPolicy, same]

theorem can_send_kept {sendable : Bool} (formed : PoliciesFormed before.scheduler)
    (done : before.canSend scid item = .ok (sendable, after)) : Kept before after := by
  obtain ⟨connection, found, done⟩ := bind_eq_ok.1 done
  obtain ⟨⟨key, transaction, packet⟩, located, final⟩ := bind_eq_ok.1 done
  cases final
  exact ⟨.refl formed, rfl, fun _ connection found => ⟨connection, found, .refl connection⟩, rfl⟩

theorem has_work_kept (formed : PoliciesFormed host.scheduler) : Kept host host.hasWork.2 := by
  have core := has_work_core host
  refine ⟨has_work_steady formed, core.packets.queues, fun scid connection found => ?_,
    core.enablePause⟩
  rw [core.connections] at found
  exact ⟨connection, found, .refl connection⟩

/-- What setting up the queues of a connection does to the policies. -/
theorem initialize_steady {scid : UInt32} {types : List PacketTypeQueue} {before after : Scheduler}
    (formed : PoliciesFormed before)
    (done : types.foldlM (fun (scheduler : Scheduler) queueType => do
      let policy ← checked ((scheduler.connectionPolicy queueType).initializeEntity
        equalWeights scid)
      return scheduler.setConnectionPolicy queueType policy) before = .ok after) :
    Steady before after := by
  induction types generalizing before with
  | nil =>
    cases done
    exact .refl formed
  | cons queueType rest ih =>
    obtain ⟨middle, one, done⟩ := bind_eq_ok.1 done
    obtain ⟨policy, initialized, final⟩ := bind_eq_ok.1 one
    cases final
    obtain ⟨formedPolicy, active⟩ := Policy.initialize_entity_spec (formed.connection queueType)
      (checked_eq_ok.1 initialized)
    have first : Steady before (before.setConnectionPolicy queueType policy) := by
      refine ⟨⟨⟨fun other => ?_, formed.packetType, formed.phantom, formed.orderedPush⟩,
        fun other otherScid => ?_, fun _ => rfl, fun _ => rfl⟩, fun _ => rfl⟩
      · by_cases same : other = queueType
        · subst same
          simpa [Scheduler.setConnectionPolicy] using formedPolicy
        · simpa [Scheduler.setConnectionPolicy, same] using formed.connection other
      · by_cases same : other = queueType
        · subst same
          simp [Scheduler.setConnectionPolicy, active]
        · simp [Scheduler.setConnectionPolicy, same]
    exact first.trans (ih first.formed done)

theorem init_queues_steady {before after : Scheduler} (formed : PoliciesFormed before)
    (done : before.initConnectionSchedulerQueues scid = .ok after) : Steady before after := by
  unfold Scheduler.initConnectionSchedulerQueues at done
  split at done
  · cases done
  · obtain ⟨middle, set, done⟩ := bind_eq_ok.1 done
    obtain ⟨ordered, orderedDone, done⟩ := bind_eq_ok.1 done
    obtain ⟨phantom, phantomDone, final⟩ := bind_eq_ok.1 done
    cases final
    have steady := @initialize_steady scid queueTypes { before with
        connectionQueues := Function.update before.connectionQueues scid (some fun _ => []) } middle
      ⟨formed.connection, formed.packetType, formed.phantom, formed.orderedPush⟩ set
    obtain ⟨orderedFormed, orderedActive⟩ := Policy.initialize_entity_spec
      steady.formed.orderedPush (checked_eq_ok.1 orderedDone)
    obtain ⟨phantomFormed, phantomActive⟩ := Policy.initialize_entity_spec
      steady.formed.phantom (checked_eq_ok.1 phantomDone)
    exact ⟨⟨⟨steady.formed.connection, steady.formed.packetType, phantomFormed, orderedFormed⟩,
      steady.connection, fun other => (phantomActive other).trans (steady.phantom other),
      fun other => (orderedActive other).trans (steady.orderedPush other)⟩, steady.packetType⟩

theorem marked_at_empty (scheduler : Scheduler) (connection : ConnectionState) (enablePause : Bool)
    (scid : UInt32) (queueType : PacketTypeQueue) :
    MarkedAt scheduler connection enablePause scid queueType [] := by
  intro marks found
  cases found
  constructor <;>
  · intro marked
    split at marked <;> cases marked

/-- A new connection has no work items. -/
theorem connect_cached (cached : Cached before)
    (done : before.scheduler.initConnectionSchedulerQueues scid = .ok scheduler) :
    Cached ({ before with scheduler := scheduler }.setConnection scid connection) := by
  have steady := init_queues_steady cached.formed done
  obtain ⟨-, queues, -⟩ := init_queues_spec done
  refine ⟨steady.formed, fun other current ownQueues _ found known queueType => ?_,
    types_of_steady steady cached.types, fun other item mem => ?_⟩
  · by_cases same : other = scid
    · subst same
      change scheduler.connectionQueues other = _ at known
      rw [queues, Function.update_self] at known
      cases known
      exact marked_at_empty _ _ _ _ _
    · change scheduler.connectionQueues other = _ at known
      rw [queues, Function.update_of_ne same] at known
      simp only [Host.setConnection, Function.update_of_ne same] at found
      have marked := cached.marks other current ownQueues (by simp) found known queueType
      exact fun marks isMarked => (marked marks isMarked).of_same steady.toSameConnections
  · refine cached.data other item ?_
    change item ∈ scheduler.queue other .pushData at mem
    unfold Scheduler.queue at mem ⊢
    rw [queues] at mem
    by_cases same : other = scid
    · subst same
      rw [Function.update_self] at mem
      cases mem
    · rwa [Function.update_of_ne same] at mem

theorem initialize_all {T : Type} [DecidableEq T] [LT T] [DecidableLT T] {entities : List T}
    {fetcher : T → Nat} {before after : Policy T} (formed : before.WellFormed)
    (done : entities.foldlM (fun policy entity => policy.initializeEntity fetcher entity) before =
      .ok after) : after.WellFormed := by
  induction entities generalizing before with
  | nil =>
    cases done
    exact formed
  | cons entity rest ih =>
    obtain ⟨middle, one, done⟩ := bind_eq_ok.1 done
    exact ih (Policy.initialize_entity_spec formed one).1 done

theorem cached_initial (initial : Initial { host := host }) : Cached host := by
  have scheduler := initial.scheduler
  have nothing : ¬HasActive ({ enforceOrder := true } : Policy UInt32) := by
    rintro ⟨scid, active⟩
    cases active
  refine ⟨⟨fun queueType => ?_, ?_, ?_, ?_⟩, fun scid connection queues _ found => ?_,
    fun queueType _ some_ => ?_, fun scid item mem => ?_⟩
  · rw [scheduler]
    exact Policy.empty_well_formed true
  · exact initialize_all (Policy.empty_well_formed true) initial.policy
  · rw [scheduler]
    exact Policy.empty_well_formed false
  · rw [scheduler]
    exact Policy.empty_well_formed false
  · rw [initial.connections] at found
    cases found
  · rw [scheduler] at some_
    exact absurd some_ nothing
  · rw [scheduler] at mem
    cases mem

end Isekai.EligibilityCache
