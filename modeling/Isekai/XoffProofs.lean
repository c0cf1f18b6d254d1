import Isekai.RoundRobinArbiter
import Isekai.SchedulerExecution
import Isekai.SchedulerFrameProofs

/-! Pauses of the packet builder. The retransmission scheduler and the acks have no work during a
pause, but the connection scheduler has while a phantom waits; what it then serves is up to its
policies. So nothing is handed down during pauses exactly when the policies choose a phantom at
each arbitration that a phantom gives work to. -/

namespace Isekai.XoffProofs
open FastConnectionScheduler FastRetransmissionScheduler RoundRobinArbiter SchedulerFrameProofs
open WeightedRoundRobin
open FastSystem (Event)

variable {fast after : FastSystem}
variable {scid : UInt32} {item : WorkId} {scheduler : SchedulerType}

/-! ## What hands nothing over -/

/-- Two states with the same packets handed over and the same pause. -/
structure SamePause (before after : FastSystem) : Prop where
  handed : after.handed = before.handed
  packetBuilderXoff : after.host.packetBuilderXoff = before.host.packetBuilderXoff

theorem SamePause.refl (fast : FastSystem) : SamePause fast fast :=
  ⟨rfl, rfl⟩

theorem SamePause.trans {first second third : FastSystem} (one : SamePause first second)
    (two : SamePause second third) : SamePause first third :=
  ⟨two.handed.trans one.handed, two.packetBuilderXoff.trans one.packetBuilderXoff⟩

theorem recompute_retransmission_pause (done : fast.recomputeRetransmission scid = .ok after) :
    after.host = fast.host ∧ after.handed = fast.handed := by
  unfold FastSystem.recomputeRetransmission at done
  split at done
  · cases done
    exact ⟨rfl, rfl⟩
  · obtain ⟨connection, -, done⟩ := bind_eq_ok.1 done
    obtain ⟨scheduler, -, final⟩ := bind_eq_ok.1 done
    cases final
    exact ⟨rfl, rfl⟩

theorem write_gating_pause {connection : ConnectionState}
    (done : fast.writeGating scid connection = .ok after) : SamePause fast after := by
  obtain ⟨host, written, done⟩ := bind_eq_ok.1 done
  obtain ⟨sameHost, handed⟩ := recompute_retransmission_pause done
  refine ⟨handed, ?_⟩
  rw [sameHost]
  exact (write_gating_core written).packetBuilderXoff

theorem assign_psn_pause {first : Bool}
    (done : fast.assignPsnAndSsn scid item = .ok (first, after)) : SamePause fast after := by
  obtain ⟨connection, -, done⟩ := bind_eq_ok.1 done
  obtain ⟨⟨key, transaction, packet⟩, -, done⟩ := bind_eq_ok.1 done
  dsimp only at done
  split at done
  · obtain ⟨middle, written, done⟩ := bind_eq_ok.1 done
    have same := write_gating_pause written
    split at done
    · obtain ⟨current, -, final⟩ := bind_eq_ok.1 done
      cases final
      exact ⟨same.handed, same.packetBuilderXoff⟩
    · cases done
      exact same
  · cases done
    exact ⟨rfl, rfl⟩

theorem increment_request_count_pause {type : PacketType} {first : Bool}
    (done : fast.incrementRequestCount scid type first = .ok after) : SamePause fast after := by
  obtain ⟨connection, -, done⟩ := bind_eq_ok.1 done
  split at done
  · exact write_gating_pause done
  · cases done
    exact .refl fast

theorem transmit_packet_pause (done : fast.transmitPacket scid item = .ok after) :
    SamePause fast after := by
  obtain ⟨⟨first, assigned⟩, psn, done⟩ := bind_eq_ok.1 done
  obtain ⟨counted, increment, done⟩ := bind_eq_ok.1 done
  obtain ⟨connection, -, done⟩ := bind_eq_ok.1 done
  obtain ⟨⟨key, transaction, packet⟩, -, done⟩ := bind_eq_ok.1 done
  obtain ⟨next, -, final⟩ := bind_eq_ok.1 done
  cases final
  have same := (assign_psn_pause psn).trans (increment_request_count_pause increment)
  exact ⟨same.handed, same.packetBuilderXoff⟩

theorem limit_op_rate_pause (done : fast.limitOpRate scid = .ok after) : SamePause fast after := by
  obtain ⟨limited, set, final⟩ := bind_eq_ok.1 done
  cases final
  have same : SamePause fast limited := by
    obtain ⟨connection, -, set⟩ := bind_eq_ok.1 set
    split at set
    · cases set
      exact .refl fast
    · exact write_gating_pause set
  exact ⟨same.handed, same.packetBuilderXoff⟩

/-! ## What hands a packet over -/

/-- The packets that were handed over in between. -/
def HandsOver (before : FastSystem) (entries : List Handed) (after : FastSystem) : Prop :=
  after.handed = before.handed ++ entries

theorem SamePause.hands (same : SamePause fast after) : HandsOver fast [] after :=
  same.handed.trans (List.append_nil _).symm

/-- The entry of a packet that is handed over now. -/
def entryOf (fast : FastSystem) (scheduler : SchedulerType) (scid : UInt32) (item : WorkId) :
    Handed :=
  ⟨scheduler, scid, item, fast.host.packetBuilderXoff⟩

theorem hand_over_hands (done : fast.handOver scheduler scid item = .ok after) :
    HandsOver fast [entryOf fast scheduler scid item] after :=
  (transmit_packet_pause done).handed

theorem hands_over_later {before middle : FastSystem} (same : SamePause before middle)
    (hands : HandsOver middle [entryOf middle scheduler scid item] after) :
    HandsOver before [entryOf before scheduler scid item] after := by
  unfold HandsOver entryOf at *
  rw [← same.handed, ← same.packetBuilderXoff]
  exact hands

theorem schedule_packet_hands {queueType : PacketTypeQueue}
    (done : fast.schedulePacket scid queueType item = .ok after) :
    HandsOver fast [entryOf fast .connection scid item] after := by
  obtain ⟨connection, -, done⟩ := bind_eq_ok.1 done
  obtain ⟨⟨key, transaction, packet⟩, -, done⟩ := bind_eq_ok.1 done
  obtain ⟨admission, -, done⟩ := bind_eq_ok.1 done
  obtain ⟨limited, limit, done⟩ := bind_eq_ok.1 done
  obtain ⟨sent, handed, done⟩ := bind_eq_ok.1 done
  obtain ⟨popped, -, done⟩ := bind_eq_ok.1 done
  obtain ⟨host, -, final⟩ := bind_eq_ok.1 done
  cases final
  have same := limit_op_rate_pause limit
  have hands := hand_over_hands handed
  exact hands_over_later ⟨same.handed, same.packetBuilderXoff⟩ hands

theorem schedule_retransmission_hands {queueType : WindowTypeQueue} {item : RetransmissionWorkId}
    (done : fast.scheduleRetransmission scid queueType item = .ok after) :
    HandsOver fast [entryOf fast .retransmission scid ⟨item.rsn, item.type⟩] after := by
  obtain ⟨packet, -, done⟩ := bind_eq_ok.1 done
  obtain ⟨limited, limit, done⟩ := bind_eq_ok.1 done
  obtain ⟨sent, handed, done⟩ := bind_eq_ok.1 done
  have hands := hands_over_later (limit_op_rate_pause limit) (hand_over_hands handed)
  exact (recompute_retransmission_pause done).2.trans hands

theorem schedule_retransmission_work_hands (done : fast.scheduleRetransmissionWork = .ok after) :
    ∃ scid item, HandsOver fast [entryOf fast .retransmission scid item] after := by
  obtain ⟨⟨scid, queueType, item, scheduler⟩, -, done⟩ := bind_eq_ok.1 done
  obtain ⟨connection, -, done⟩ := bind_eq_ok.1 done
  dsimp only at done
  split at done
  · have hands := schedule_retransmission_hands done
    exact ⟨scid, ⟨item.rsn, item.type⟩, hands_over_later ⟨rfl, rfl⟩ hands⟩
  · cases done

/-! ## What the connection scheduler serves -/

/-- The entities that the two policies choose next have a phantom at the head of their queue. -/
def nextIsPhantom (host : Host) : Bool :=
  match host.scheduler.packetTypePolicy.getNextEntity host.scheduler.weight with
  | .error _ => false
  | .ok (queueType, _) =>
    match (host.scheduler.connectionPolicy queueType).getNextEntity equalWeights with
    | .error _ => false
    | .ok (scid, _) =>
      (host.scheduler.queue scid queueType).head?.any fun item => item.type = .invalid

theorem next_work_phantom {host next : Host} {queueType : PacketTypeQueue}
    (done : host.nextWork = .ok (queueType, scid, item, next)) :
    nextIsPhantom host = true ↔ item.type = .invalid := by
  obtain ⟨⟨type, policy⟩, typed, done⟩ := bind_eq_ok.1 done
  obtain ⟨⟨chosen, connectionPolicy⟩, connected, done⟩ := bind_eq_ok.1 done
  have chosenType : host.scheduler.packetTypePolicy.getNextEntity host.scheduler.weight =
      .ok (type, policy) := by
    revert typed
    unfold checked
    split <;> simp_all
  have chosenConnection : (host.scheduler.connectionPolicy type).getNextEntity equalWeights =
      .ok (chosen, connectionPolicy) := by
    revert connected
    unfold checked
    split <;> simp_all
  dsimp only at done
  split at done
  · cases done
  · rename_i head rest queue
    cases done
    have sameQueue : host.scheduler.queue scid queueType = item :: rest := queue
    simp only [nextIsPhantom, chosenType, chosenConnection, sameQueue, List.head?_cons,
      Option.any_some, decide_eq_true_eq]

/-- The connection scheduler hands over the packet it chose, unless that is a phantom. -/
theorem schedule_connection_work_hands (done : fast.scheduleConnectionWork = .ok after) :
    nextIsPhantom fast.host = true ∧ HandsOver fast [] after ∨
      nextIsPhantom fast.host = false ∧
        ∃ scid item, HandsOver fast [entryOf fast .connection scid item] after := by
  obtain ⟨⟨queueType, scid, item, host⟩, chosen, done⟩ := bind_eq_ok.1 done
  have phantom := next_work_phantom chosen
  have core := (next_work_spec chosen).1
  dsimp only at done
  split at done
  · rename_i invalid
    obtain ⟨handled, -, final⟩ := bind_eq_ok.1 done
    cases final
    exact .inl ⟨phantom.2 invalid, (List.append_nil _).symm⟩
  · rename_i packet
    obtain ⟨⟨sendable, asked⟩, sendability, done⟩ := bind_eq_ok.1 done
    have pause : asked.packetBuilderXoff = fast.host.packetBuilderXoff :=
      ((can_send_spec sendability).1.packetBuilderXoff).trans core.packetBuilderXoff
    dsimp only at done
    split at done
    · have same : SamePause fast (fast.withHost asked) := ⟨rfl, pause⟩
      have hands := schedule_packet_hands done
      exact .inr ⟨by simpa [packet] using phantom, scid, item, hands_over_later same hands⟩
    · cases done

/-! ## Arbitration -/

theorem scheduler_has_work_pause (fast : FastSystem) (scheduler : SchedulerType) :
    SamePause fast (fast.schedulerHasWork scheduler).2 := by
  cases scheduler with
  | connection => exact ⟨rfl, (has_work_core fast.host).packetBuilderXoff⟩
  | retransmission =>
    unfold FastSystem.schedulerHasWork
    dsimp only
    split
    · exact .refl fast
    · exact ⟨rfl, rfl⟩
  | ackNack => exact .refl fast

theorem has_work_pause (fast : FastSystem) : SamePause fast fast.hasWork.2 := by
  have connection := scheduler_has_work_pause fast .connection
  have retransmission := scheduler_has_work_pause (fast.schedulerHasWork .connection).2 .retransmission
  unfold FastSystem.hasWork
  dsimp only
  split_ifs
  · exact connection
  · exact connection.trans retransmission
  · exact (connection.trans retransmission).trans (scheduler_has_work_pause _ .ackNack)

/-- Whatever a scheduler hands over, it does so in the state it is asked in. -/
theorem schedule_work_hands (done : fast.scheduleWork scheduler = .ok after) :
    ∃ entries, HandsOver fast entries after ∧
      ∀ entry ∈ entries, entry.packetBuilderXoff = fast.host.packetBuilderXoff := by
  cases scheduler with
  | connection =>
    rcases schedule_connection_work_hands done with ⟨-, nothing⟩ | ⟨-, scid, item, hands⟩
    · exact ⟨[], nothing, by simp⟩
    · exact ⟨_, hands, by simp [entryOf]⟩
  | retransmission =>
    obtain ⟨scid, item, hands⟩ := schedule_retransmission_work_hands done
    exact ⟨_, hands, by simp [entryOf]⟩
  | ackNack =>
    rw [FastSystem.scheduleWork] at done
    split at done
    · cases done
    · cases done
      exact ⟨[], (List.append_nil _).symm, by simp⟩

theorem arbitrate_hands {current positions : Nat}
    (done : fast.arbitrate current positions = .ok after) :
    ∃ entries, HandsOver fast entries after ∧
      ∀ entry ∈ entries, entry.packetBuilderXoff = fast.host.packetBuilderXoff := by
  induction positions generalizing fast current with
  | zero =>
    cases done
    exact ⟨[], (List.append_nil _).symm, by simp⟩
  | succ positions ih =>
    rw [FastSystem.arbitrate] at done
    split at done
    · cases done
    · rename_i scheduler turn
      have same := scheduler_has_work_pause fast scheduler
      dsimp only at done
      split at done
      · obtain ⟨served, work, final⟩ := map_eq_ok.1 done
        obtain ⟨entries, hands, paused⟩ := schedule_work_hands work
        cases final
        refine ⟨entries, ?_, same.packetBuilderXoff ▸ paused⟩
        unfold HandsOver at *
        rw [← same.handed]
        exact hands
      · obtain ⟨entries, hands, paused⟩ := ih done
        refine ⟨entries, ?_, same.packetBuilderXoff ▸ paused⟩
        unfold HandsOver at *
        rw [← same.handed]
        exact hands

/-! ## Arbitration during a pause -/

/-- The connection scheduler is among the next positions of the ordering. -/
def Scans (ordering : List SchedulerType) (current positions : Nat) : Prop :=
  ∃ offset < positions, ordering[(current + offset) % ordering.length]? = some .connection

theorem scans_next {ordering : List SchedulerType} {current positions : Nat}
    (turn : ordering[current]? = some scheduler) (other : scheduler ≠ .connection) :
    Scans ordering current (positions + 1) ↔
      Scans ordering ((current + 1) % ordering.length) positions := by
  obtain ⟨inside, -⟩ := List.getElem?_eq_some_iff.1 turn
  have moved (offset : Nat) : ((current + 1) % ordering.length + offset) % ordering.length =
      (current + (offset + 1)) % ordering.length := by
    rw [Nat.mod_add_mod]
    congr 1
    omega
  constructor
  · rintro ⟨offset, below, found⟩
    cases offset with
    | zero =>
      rw [Nat.add_zero, Nat.mod_eq_of_lt inside, turn] at found
      exact absurd (Option.some.inj found) other
    | succ offset => exact ⟨offset, by omega, by rw [moved]; exact found⟩
  · rintro ⟨offset, below, found⟩
    rw [moved] at found
    exact ⟨offset + 1, by omega, found⟩

/-- A whole turn passes every position. -/
theorem scans_all {ordering : List SchedulerType} {current : Nat}
    (inside : current < ordering.length) :
    Scans ordering current ordering.length ↔ SchedulerType.connection ∈ ordering := by
  constructor
  · rintro ⟨offset, -, found⟩
    exact List.mem_of_getElem? found
  · intro mem
    obtain ⟨index, below, found⟩ := List.getElem_of_mem mem
    have back : (current + (index + ordering.length - current) % ordering.length) %
        ordering.length = index := by
      rw [Nat.add_mod_mod, show current + (index + ordering.length - current) =
        index + ordering.length by omega, Nat.add_mod_right, Nat.mod_eq_of_lt below]
    refine ⟨(index + ordering.length - current) % ordering.length, Nat.mod_lt _ (by omega), ?_⟩
    rw [back, List.getElem?_eq_some_iff]
    exact ⟨below, found⟩

/-- The host after the connection scheduler was asked during a pause. -/
theorem phantom_has_work {host : Host} (work : host.scheduler.phantomHasWork.1 = true) :
    host.hasWork = (true, { host with scheduler := host.scheduler.phantomHasWork.2 }) := by
  unfold Host.hasWork
  dsimp only
  rw [if_pos work]

/-- During a pause only the connection scheduler can hand a packet over, if it is reached and its
policies do not choose a phantom. -/
theorem arbitrate_paused {current positions : Nat} (paused : fast.host.packetBuilderXoff = true)
    (work : fast.host.scheduler.phantomHasWork.1 = true)
    (done : fast.arbitrate current positions = .ok after) :
    (Scans fast.schedulerOrdering current positions → nextIsPhantom fast.host = true) ∧
        HandsOver fast [] after ∨
      (Scans fast.schedulerOrdering current positions ∧ nextIsPhantom fast.host = false) ∧
        ∃ scid item, HandsOver fast [entryOf fast .connection scid item] after := by
  induction positions generalizing current with
  | zero =>
    cases done
    exact .inl ⟨fun ⟨offset, below, _⟩ => absurd below (Nat.not_lt_zero offset),
      (List.append_nil _).symm⟩
  | succ positions ih =>
    rw [FastSystem.arbitrate] at done
    split at done
    · cases done
    · rename_i scheduler turn
      cases scheduler with
      | connection =>
        obtain ⟨inside, -⟩ := List.getElem?_eq_some_iff.1 turn
        have scans : Scans fast.schedulerOrdering current (positions + 1) :=
          ⟨0, by omega, by rw [Nat.add_zero, Nat.mod_eq_of_lt inside, turn]⟩
        rw [FastSystem.schedulerHasWork, phantom_has_work work] at done
        obtain ⟨served, scheduled, final⟩ := map_eq_ok.1 done
        have hands := schedule_connection_work_hands scheduled
        cases final
        rcases hands with ⟨phantom, nothing⟩ | ⟨packet, handed⟩
        · exact .inl ⟨fun _ => phantom, nothing⟩
        · exact .inr ⟨⟨scans, packet⟩, handed⟩
      | retransmission =>
        rw [scans_next turn (by decide)]
        rw [FastSystem.schedulerHasWork, if_pos paused] at done
        exact ih done
      | ackNack =>
        rw [scans_next turn (by decide)]
        rw [FastSystem.schedulerHasWork, paused] at done
        exact ih done

/-! ## Runs -/

/-- Nothing was handed to `TransmitPacket` during a pause. -/
def Safe (fast : FastSystem) : Prop :=
  ∀ entry ∈ fast.handed, entry.packetBuilderXoff = false

theorem safe_hands {entries : List Handed} (hands : HandsOver fast entries after) :
    Safe after ↔ Safe fast ∧ ∀ entry ∈ entries, entry.packetBuilderXoff = false := by
  unfold Safe
  rw [hands]
  simp only [List.mem_append, or_imp, forall_and]

/-- An arbitration during a pause, to which a phantom gives work, serves a phantom if it comes to
the connection scheduler. -/
def ServesPhantom (fast : FastSystem) : Event → Prop
  | .arbitrate => fast.host.packetBuilderXoff = true →
      fast.host.scheduler.phantomHasWork.1 = true →
      SchedulerType.connection ∈ fast.schedulerOrdering → nextIsPhantom fast.host = true
  | _ => True

/-- The loop starts within the ordering and passes all of it. -/
theorem scans_turn {current : Nat}
    (done : fast.arbitrate current fast.schedulerOrdering.length = .ok after) :
    Scans fast.schedulerOrdering current fast.schedulerOrdering.length ↔
      SchedulerType.connection ∈ fast.schedulerOrdering := by
  by_cases inside : current < fast.schedulerOrdering.length
  · exact scans_all inside
  · cases positions : fast.schedulerOrdering.length with
    | zero =>
      rw [List.length_eq_zero_iff.1 positions]
      simp [Scans]
    | succ before =>
      rw [positions, FastSystem.arbitrate,
        List.getElem?_eq_none (Nat.le_of_not_lt inside)] at done
      cases done

theorem same_safe (same : SamePause fast after) : Safe after ↔ Safe fast := by
  rw [safe_hands same.hands]
  simp

/-- Without a phantom nothing has work during a pause. -/
theorem no_work_paused (paused : fast.host.packetBuilderXoff = true)
    (idle : ¬fast.host.scheduler.phantomHasWork.1 = true) : fast.hasWork.1 = false := by
  have connection : (fast.schedulerHasWork .connection).1 = false := by
    rw [FastSystem.schedulerHasWork, Host.hasWork]
    dsimp only
    rw [if_neg idle, if_pos paused]
  have stillPaused := (scheduler_has_work_pause fast .connection).packetBuilderXoff.trans paused
  unfold FastSystem.hasWork
  dsimp only
  rw [if_neg (by rw [connection]; decide)]
  simp only [FastSystem.schedulerHasWork] at stillPaused ⊢
  simp [stillPaused]

/-- The state after the arbiter asked for work during a pause, when a phantom waits. -/
def askedPhantom (fast : FastSystem) : FastSystem :=
  fast.withHost { fast.host with scheduler := fast.host.scheduler.phantomHasWork.2 }

theorem has_work_phantom (work : fast.host.scheduler.phantomHasWork.1 = true) :
    fast.hasWork = (true, askedPhantom fast) := by
  unfold FastSystem.hasWork
  rw [FastSystem.schedulerHasWork, phantom_has_work work]
  rfl

theorem arbitrate_safe (paused : fast.host.packetBuilderXoff = true)
    (work : fast.host.scheduler.phantomHasWork.1 = true)
    (done : (askedPhantom fast).arbitrate fast.candidateSchedulerIndex
      fast.schedulerOrdering.length = .ok after) :
    Safe after ↔ Safe fast ∧ ServesPhantom fast .arbitrate := by
  have still : (askedPhantom fast).host.scheduler.phantomHasWork.1 = true := Policy.has_work_again work
  have turn : Scans fast.schedulerOrdering fast.candidateSchedulerIndex
      fast.schedulerOrdering.length ↔ SchedulerType.connection ∈ fast.schedulerOrdering :=
    @scans_turn (askedPhantom fast) after _ done
  have outcome : (Scans fast.schedulerOrdering fast.candidateSchedulerIndex
        fast.schedulerOrdering.length → nextIsPhantom fast.host = true) ∧
        HandsOver fast [] after ∨
      (Scans fast.schedulerOrdering fast.candidateSchedulerIndex
        fast.schedulerOrdering.length ∧ nextIsPhantom fast.host = false) ∧
        ∃ scid item, HandsOver fast [entryOf fast .connection scid item] after :=
    @arbitrate_paused (askedPhantom fast) after _ _ paused still done
  rw [turn] at outcome
  rcases outcome with ⟨phantom, nothing⟩ | ⟨⟨mem, packet⟩, scid, item, handed⟩
  · rw [safe_hands nothing]
    simp only [List.not_mem_nil, false_implies, implies_true, and_true]
    exact (and_iff_left fun _ _ => phantom).symm
  · rw [safe_hands handed]
    refine and_congr_right fun _ => ⟨fun unpaused => ?_, fun serves => ?_⟩
    · have entry := unpaused _ (List.mem_singleton.2 rfl)
      cases paused.symm.trans entry
    · cases packet.symm.trans (serves paused work mem)

theorem do_arbitration_safe (done : fast.doArbitration = .ok after) :
    Safe after ↔ Safe fast ∧ ServesPhantom fast .arbitrate := by
  have same := has_work_pause fast
  unfold FastSystem.doArbitration at done
  dsimp only at done
  by_cases paused : fast.host.packetBuilderXoff = true
  · by_cases work : fast.host.scheduler.phantomHasWork.1 = true
    · rw [has_work_phantom work, if_pos rfl] at done
      obtain ⟨served, arbitrated, final⟩ := map_eq_ok.1 done
      have safe := arbitrate_safe paused work arbitrated
      cases final
      rw [same_safe (has_work_pause served)]
      exact safe
    · rw [if_neg (by rw [no_work_paused paused work]; decide)] at done
      cases done
      rw [same_safe same]
      exact (and_iff_left fun _ phantom => absurd phantom work).symm
  · have served : ∃ entries, HandsOver fast entries after ∧
        ∀ entry ∈ entries, entry.packetBuilderXoff = fast.host.packetBuilderXoff := by
      split at done
      · obtain ⟨served, arbitrated, final⟩ := map_eq_ok.1 done
        obtain ⟨entries, hands, inside⟩ := arbitrate_hands arbitrated
        cases final
        refine ⟨entries, ?_, same.packetBuilderXoff ▸ inside⟩
        unfold HandsOver at *
        rw [(has_work_pause served).handed, hands, same.handed]
      · cases done
        exact ⟨[], same.hands, by simp⟩
    obtain ⟨entries, hands, inside⟩ := served
    have unpaused : fast.host.packetBuilderXoff = false := by simpa using paused
    rw [safe_hands hands]
    exact and_congr_right fun _ =>
      ⟨fun _ pause => absurd pause paused, fun _ entry mem => (inside entry mem).trans unpaused⟩

theorem enqueue_retransmission_handed {rsn : UInt32} {type : PacketType} {added : Bool}
    (done : fast.enqueueRetransmission scid rsn type = .ok (added, after)) :
    after.handed = fast.handed := by
  obtain ⟨packet, -, done⟩ := bind_eq_ok.1 done
  obtain ⟨queueType, -, done⟩ := bind_eq_ok.1 done
  split at done
  · cases done
    rfl
  · obtain ⟨recomputed, recompute, final⟩ := bind_eq_ok.1 done
    cases final
    exact (recompute_retransmission_pause recompute).2

theorem initiate_retransmission_handed {rsn : UInt32} {type : PacketType} {probe : Bool}
    (done : fast.initiateRetransmission scid rsn type probe = .ok after) :
    after.handed = fast.handed := by
  obtain ⟨packet, -, done⟩ := bind_eq_ok.1 done
  obtain ⟨queueType, -, done⟩ := bind_eq_ok.1 done
  obtain ⟨⟨added, enqueued⟩, enqueue, done⟩ := bind_eq_ok.1 done
  obtain ⟨current, -, done⟩ := bind_eq_ok.1 done
  have same := enqueue_retransmission_handed enqueue
  dsimp only at done same
  split at done
  · obtain ⟨connection, -, done⟩ := bind_eq_ok.1 done
    split at done
    · exact (write_gating_pause done).handed.trans same
    · cases done
      exact same
  · cases done
    exact same

/-- Only arbitrations hand packets over. -/
theorem perform_handed {event : Event} (other : event ≠ .arbitrate)
    (done : fast.perform event = .ok after) : after.handed = fast.handed := by
  cases event with
  | connect scid mode congestionControl =>
    obtain ⟨retransmission, -, done⟩ := bind_eq_ok.1 done
    obtain ⟨scheduler, -, final⟩ := bind_eq_ok.1 done
    cases final
    rfl
  | submit | receive | callback | ulpAck | ulpRnrNack | networkAck =>
    obtain ⟨host, -, final⟩ := bind_eq_ok.1 done
    cases final
    rfl
  | gating scid requestWindow dataWindow congestionControl =>
    obtain ⟨connection, -, done⟩ := bind_eq_ok.1 done
    exact (write_gating_pause done).handed
  | initiateRetransmission scid rsn type probe => exact initiate_retransmission_handed done
  | dequeueRetransmission scid rsn type =>
    obtain ⟨packet, -, done⟩ := bind_eq_ok.1 done
    obtain ⟨queueType, -, done⟩ := bind_eq_ok.1 done
    exact (recompute_retransmission_pause done).2
  | opRate due scid =>
    obtain ⟨connection, -, done⟩ := bind_eq_ok.1 done
    dsimp only at done
    split at done
    · exact (write_gating_pause done).handed
    · cases done
      rfl
  | enqueueAckNack | setXoff | tick =>
    cases done
    rfl
  | arbitrate => exact absurd rfl other

theorem perform_safe {event : Event} (done : fast.perform event = .ok after) :
    Safe after ↔ Safe fast ∧ ServesPhantom fast event := by
  by_cases arbitration : event = .arbitrate
  · subst arbitration
    exact do_arbitration_safe done
  · have trivially : ServesPhantom fast event := by
      cases event <;> trivial
    unfold Safe
    rw [perform_handed arbitration done]
    exact (and_iff_left trivially).symm

/-- Every event of a run meets the condition. -/
def AllServePhantoms : List Event → FastSystem → Prop
  | [], _ => True
  | event :: rest, fast => ServesPhantom fast event ∧
    ∀ next, fast.perform event = .ok next → AllServePhantoms rest next

theorem run_safe {events : List Event} {last : FastSystem} (done : fast.run events = some last) :
    Safe last ↔ Safe fast ∧ AllServePhantoms events fast := by
  induction events generalizing fast with
  | nil =>
    cases done
    exact (and_iff_left trivial).symm
  | cons event rest ih =>
    obtain ⟨middle, attempted, after⟩ := Option.bind_eq_some_iff.1 done
    obtain ⟨-, performed⟩ := Runs.attempt_eq_some.1 attempted
    rw [ih after, perform_safe performed, and_assoc]
    refine and_congr_right fun _ => and_congr_right fun _ => ⟨fun all next again => ?_,
      fun all => all middle performed⟩
    cases performed.symm.trans again
    exact all

/-- In every run nothing is handed to `TransmitPacket` during a pause exactly when each arbitration
during a pause, to which a phantom gives work, serves a phantom. -/
theorem nothing_handed_during_pauses_iff (initial : fast.Initial) {events : List Event}
    {last : FastSystem} (done : fast.run events = some last) :
    Safe last ↔ AllServePhantoms events fast := by
  have empty : Safe fast := by
    unfold Safe
    rw [initial.fresh]
    simp
  rw [run_safe done]
  exact and_iff_right empty

/-! ## Two writes on an ordered connection -/

/-- A host that admits ten thousand bytes and does not solicit small writes. -/
def newSystem : FastSystem where
  host := SchedulerExecution.freshHost
    { policy := .rxWindowBased, admissionWindowBytes := 10000
      rxBucket := .full 1 1 1, txBucket := .full 1 1 1 } 4096
  tlpBypassesCc := false
  schedulerOrdering := FastSystem.weightedOrdering 1 1 2

theorem initial_new_system : newSystem.Initial :=
  ⟨SchedulerExecution.fresh_host_initial _ _ rfl, ⟨1, 1, 2, rfl, by decide⟩, rfl⟩

/-- An ordered connection with one write. -/
def oneWrite : List Event :=
  [.connect 1 .ordered SchedulerExecution.openWindow, .submit 1 (.write 64 64 0)]

/-- During the pause the phantom of the write is served, after it the data. -/
theorem nothing_handed_during_pauses_iff_phantom : ∃ last,
    newSystem.run (oneWrite ++ [.setXoff true, .arbitrate, .arbitrate, .setXoff false, .arbitrate]) =
      some last ∧ last.handed.length = 1 ∧
    AllServePhantoms
      (oneWrite ++ [.setXoff true, .arbitrate, .arbitrate, .setXoff false, .arbitrate]) newSystem := by
  have tested : (newSystem.run
      (oneWrite ++ [.setXoff true, .arbitrate, .arbitrate, .setXoff false, .arbitrate])).any
        (fun last => last.handed.all (fun entry => !entry.packetBuilderXoff) &&
          decide (last.handed.length = 1)) = true := by
    decide +kernel
  obtain ⟨last, done, holds⟩ := (Option.any_eq_true _ _).1 tested
  obtain ⟨unpaused, length⟩ := Bool.and_eq_true_iff.1 holds
  have safe : Safe last := fun entry mem => by
    simpa using List.all_eq_true.1 unpaused entry mem
  exact ⟨last, done, of_decide_eq_true length,
    (nothing_handed_during_pauses_iff initial_new_system done).1 safe⟩

/-- The phantom of the first write was served before the pause. During the pause the phantom of the
second write gives the connection scheduler work, and it hands over the data of the first. -/
theorem data_handed_during_pause : ∃ last,
    newSystem.run (oneWrite ++ [.submit 1 (.write 64 64 0), .arbitrate, .setXoff true, .arbitrate]) =
      some last ∧ last.handed = [⟨.connection, 1, ⟨0, .pushUnsolicitedData⟩, true⟩] ∧ ¬Safe last := by
  have tested : (newSystem.run
      (oneWrite ++ [.submit 1 (.write 64 64 0), .arbitrate, .setXoff true, .arbitrate])).any
        (fun last => decide (last.handed = [⟨.connection, 1, ⟨0, .pushUnsolicitedData⟩, true⟩])) =
          true := by
    decide +kernel
  obtain ⟨last, done, holds⟩ := (Option.any_eq_true _ _).1 tested
  have handed := of_decide_eq_true holds
  refine ⟨last, done, handed, fun safe => ?_⟩
  have unpaused := safe _ (handed ▸ List.mem_singleton_self _)
  cases unpaused

end Isekai.XoffProofs
