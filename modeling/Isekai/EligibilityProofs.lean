import Isekai.EligibilityRunProofs

/-! No packet that may be sent is forgotten by the fast schedulers: between any two events, a
connection with a head that may be sent is active, and so is its queue type, unless admission
control has a say on the whole type. -/

namespace Isekai.EligibilityProofs
open FastConnectionScheduler FastRetransmissionScheduler RoundRobinArbiter AdmissionControl
open SchedulerFrameProofs EligibilityCache EligibilityRunProofs
open FastSystem (Event)

variable {fast last : FastSystem} {host : Host} {scid : UInt32} {queueType : PacketTypeQueue}
  {item : WorkId}

/-- The head of a queue of a connection may be served now: it is a phantom, or `CanSend` holds of
it. -/
structure Servable (host : Host) (scid : UInt32) (queueType : PacketTypeQueue) (item : WorkId) :
    Prop where
  known : (host.connections scid).isSome
  head : ∃ rest, host.scheduler.queue scid queueType = item :: rest
  meets : queueType = .pullAndOrderedPushRequest ∧ item.type = .invalid ∨
    ∃ after, host.canSend scid item = .ok (true, after)

/-- Admission control has a say on the queue type as a whole: on push grants, and on the shared
queue for the sake of its pull requests. -/
def gatedByAdmission (queueType : PacketTypeQueue) (item : WorkId) : Bool :=
  queueType = .pushGrant ∨
    queueType = .pullAndOrderedPushRequest ∧ item.type ≠ .pushRequest ∧ item.type ≠ .invalid

/-- Admission control lets out a request of the greatest length, for the queue types that ask. -/
def admitsGreatest (host : Host) : PacketTypeQueue → Bool
  | .pushGrant => host.admission.admits maxRequestLength .pushGrant host.now
  | .pullAndOrderedPushRequest => host.admission.admits maxRequestLength .pullRequest host.now
  | _ => true

/-- The policies offer the queue of the connection to the arbiter. -/
structure Offered (host : Host) (scid : UInt32) (queueType : PacketTypeQueue) : Prop where
  connection : (host.scheduler.connectionPolicy queueType).isActive scid = true
  packetType : host.scheduler.packetTypePolicy.isActive queueType = true

/-- No head that may be sent waits for an unrelated event. -/
structure NothingStranded (fast : FastSystem) : Prop where
  connection : ∀ scid queueType item, Servable fast.host scid queueType item →
    (fast.host.scheduler.connectionPolicy queueType).isActive scid = true
  packetType : ∀ scid queueType item, Servable fast.host scid queueType item →
    gatedByAdmission queueType item = false → Offered fast.host scid queueType
  recomputed : ∀ about after, fast.host.recomputeEligibility about = .ok after →
    ∀ scid queueType item, Servable after scid queueType item →
      admitsGreatest after queueType = true → Offered after scid queueType
  retransmission : ∀ scid connection window head rest,
    fast.host.connections scid = some connection →
    fast.retransmission.queue scid window = head :: rest →
    FastRetransmissionScheduler.canSend connection (fast.bypasses scid head) head = true →
    fast.retransmission.connectionPolicy.isActive scid = true
  limited : LimitsPending fast

/-- What a recomputation marks for a queue whose head `CanSend` would let out. -/
theorem marks_of_servable {connection : ConnectionState} {rest : List WorkId}
    (found : host.connections scid = some connection)
    (meets : queueType = .pullAndOrderedPushRequest ∧ item.type = .invalid ∨
      ∃ after, host.canSend scid item = .ok (true, after)) :
    ∃ marks, queueMarks connection host.enablePauseInitialTransmissionOnOowDrops queueType
        (item :: rest) = .ok marks ∧ marks.active = true ∧
      (queueType = .pullAndOrderedPushRequest → item.type = .invalid →
        marks.phantom = some true) ∧
      (queueType = .pullAndOrderedPushRequest → item.type = .pushRequest →
        marks.orderedPush = some true) := by
  by_cases phantom : queueType = .pullAndOrderedPushRequest ∧ item.type = .invalid
  · refine ⟨⟨true, some true, none⟩, ?_, rfl, fun _ _ => rfl, fun _ push => ?_⟩
    · unfold queueMarks
      dsimp only
      rw [if_pos phantom]
    · rw [phantom.2] at push
      cases push
  · obtain ⟨after, sendable⟩ := meets.resolve_left phantom
    obtain ⟨current, again, sendable⟩ := bind_eq_ok.1 sendable
    obtain ⟨⟨key, transaction, packet⟩, located, final⟩ := bind_eq_ok.1 sendable
    rw [lookup_eq_ok, found] at again
    cases again
    have criteria := congrArg (Except.toOption · |>.map Prod.fst) final
    simp only [Except.toOption, pure, Except.pure, Option.map_some, Option.some.injEq,
      Bool.and_eq_true, Bool.not_eq_true'] at criteria
    obtain ⟨⟨⟨⟨eligible, unlimited⟩, window⟩, -⟩, outOfWindow⟩ := criteria
    have flag : headEligible connection queueType item = .ok true := by
      unfold headEligible
      split
      · rw [located]
        dsimp only
        rw [eligible]
      · rfl
    unfold queueMarks
    dsimp only
    rw [if_neg phantom, unlimited, flag, window, outOfWindow]
    refine ⟨_, rfl, rfl, fun shared isPhantom => absurd ⟨shared, isPhantom⟩ phantom,
      fun shared push => ?_⟩
    simp [shared, push]

theorem queues_of_head {scheduler : Scheduler} {rest : List WorkId}
    (head : scheduler.queue scid queueType = item :: rest) :
    ∃ queues, scheduler.connectionQueues scid = some queues ∧ queues queueType = item :: rest := by
  unfold Scheduler.queue at head
  split at head
  · cases head
  · rename_i queues known
    exact ⟨queues, known, head⟩

/-- Where the policies are true, a connection with a head to serve is active, and so is its queue
type if it is open. -/
theorem active_of_servable (cached : Cached host) (servable : Servable host scid queueType item) :
    (host.scheduler.connectionPolicy queueType).isActive scid = true ∧
      (gatedByAdmission queueType item = false → IsOpen host.scheduler queueType) := by
  obtain ⟨connection, found⟩ := Option.isSome_iff_exists.1 servable.known
  obtain ⟨rest, head⟩ := servable.head
  obtain ⟨queues, known, items⟩ := queues_of_head head
  obtain ⟨marks, marked, active, phantom, push⟩ :=
    @marks_of_servable host scid queueType item connection rest found servable.meets
  have hold := cached.marks scid connection queues nofun found known queueType marks
    (by rw [items]; exact marked)
  refine ⟨hold.active active, fun ungated => ?_⟩
  cases queueType with
  | pushGrant => simp [gatedByAdmission] at ungated
  | pullAndOrderedPushRequest =>
    by_cases isPush : item.type = .pushRequest
    · exact .inl ⟨scid, hold.orderedPush (push rfl isPush)⟩
    · by_cases isPhantom : item.type = .invalid
      · exact .inr ⟨scid, hold.phantom (phantom rfl isPhantom)⟩
      · simp [gatedByAdmission, isPush, isPhantom] at ungated
  | _ => trivial

theorem passes_of_admitted (admitted : admitsGreatest host queueType = true) :
    Passes host queueType := by
  cases queueType with
  | pullAndOrderedPushRequest => exact .inr (.inr admitted)
  | pushGrant => exact admitted
  | _ => trivial

theorem nothing_stranded_of_fresh (fresh : Fresh fast) : NothingStranded fast where
  connection scid queueType item servable := (active_of_servable fresh.host servable).1
  packetType scid queueType item servable ungated := by
    obtain ⟨active, isOpen⟩ := active_of_servable fresh.host servable
    exact ⟨active, fresh.host.types queueType (isOpen ungated) ⟨scid, active⟩⟩
  recomputed about after done scid queueType item servable admitted := by
    obtain ⟨cached, types⟩ := recompute_spec (fresh.host.weaken (.inl rfl)) done
    have active := (active_of_servable cached servable).1
    exact ⟨active, types queueType (passes_of_admitted admitted) ⟨scid, active⟩⟩
  retransmission scid connection window head rest found queue sendable := by
    unfold RetransmissionScheduler.queue at queue
    split at queue
    · cases queue
    · rename_i queues known
      simp only [FastRetransmissionScheduler.canSend, Bool.and_eq_true, Bool.not_eq_true']
        at sendable
      refine fresh.retransmission.marks scid connection queues nofun found known sendable.1
        ⟨window, ?_⟩
      rw [queue]
      exact sendable.2
  limited := fresh.limited

/-- In every run, nothing that may be sent is stranded. -/
theorem nothing_stranded (initial : fast.Initial) {events : List Event}
    (done : fast.run events = some last) : NothingStranded last :=
  nothing_stranded_of_fresh (run_fresh (fresh_initial initial) done)

/-! ## Two reads -/

/-- A host that admits five thousand bytes. -/
def narrowSystem : FastSystem where
  host := SchedulerExecution.freshHost
    { policy := .rxWindowBased, admissionWindowBytes := 5000
      rxBucket := .full 1 1 1, txBucket := .full 1 1 1 } 4096
  tlpBypassesCc := false
  schedulerOrdering := FastSystem.weightedOrdering 1 1 2

theorem initial_narrow_system : narrowSystem.Initial :=
  ⟨SchedulerExecution.fresh_host_initial _ _ rfl, ⟨1, 1, 2, rfl, by decide⟩, rfl⟩

/-- A connection sends a read of 4096 bytes; when its gap is over, another one gets a small read. -/
def twoReads : List Event :=
  [.connect 0 .unordered SchedulerExecution.openWindow,
    .connect 1 .unordered SchedulerExecution.openWindow,
    .submit 0 (.readRequest 4096 4096 0), .arbitrate] ++ List.replicate 25 .tick ++
  [.opRate 25 0, .submit 1 (.readRequest 64 64 0)]

/-- The small read is the head of its queue, and may be sent. -/
def readWaits (fast : FastSystem) : Bool :=
  fast.host.scheduler.queue 1 .pullAndOrderedPushRequest = [⟨0, .pullRequest⟩] &&
    ((fast.host.canSend 1 ⟨0, .pullRequest⟩).toOption.any (·.1))

/-- The small read may be sent, but its queue type is inactive, and no event is pending: the window
has room for it, but not for a request of the greatest length. -/
theorem sendable_read_stranded : ∃ last, narrowSystem.run twoReads = some last ∧
    readWaits last = true ∧
    last.host.scheduler.packetTypePolicy.isActive .pullAndOrderedPushRequest = false ∧
    last.opRateEvents = [] ∧ last.inserted = [] := by
  have tested : (narrowSystem.run twoReads).any (fun last => readWaits last &&
      !last.host.scheduler.packetTypePolicy.isActive .pullAndOrderedPushRequest &&
      decide (last.opRateEvents = []) && decide (last.inserted = [])) = true := by
    decide +kernel
  obtain ⟨last, done, holds⟩ := (Option.any_eq_true _ _).1 tested
  simp only [Bool.and_eq_true, Bool.not_eq_true', decide_eq_true_eq] at holds
  exact ⟨last, done, holds.1.1.1, holds.1.1.2, holds.1.2, holds.2⟩

/-- The connection with the small read is active all the same. -/
theorem nothing_stranded_narrow : ∃ last, narrowSystem.run twoReads = some last ∧
    readWaits last = true ∧ NothingStranded last := by
  have tested : (narrowSystem.run twoReads).any readWaits = true := by decide +kernel
  obtain ⟨last, done, holds⟩ := (Option.any_eq_true _ _).1 tested
  exact ⟨last, done, holds, nothing_stranded initial_narrow_system done⟩

end Isekai.EligibilityProofs
