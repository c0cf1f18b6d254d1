import Isekai.RdmaSchedulerProofs

/-! No wake-up is lost in the RDMA work scheduler: a queue pair that may send is active or will be
added again, and a scheduler that can send has a callback that drives it. Each event is looked at for
the queue pairs that it makes eligible and for those that it takes off a list. -/

namespace Isekai.RdmaWakeupProofs
open Outcomes RdmaFalcon RdmaFalcon.State RdmaSchedulerProofs
open Roce (WorkType)

variable {type : WorkType} {qpId id : Nat} {rsn : UInt32}

/-! ## Waiting to be served -/

/-- The queue pair has credits for its next transaction of the type, and that is not a read that has
to wait for the outstanding ones. -/
def Eligible (config : Config) (context : QpContext) (type : WorkType) : Prop :=
  context.hasCredits config.toSizeConfig type = true ∧
    (type = .request → context.ordBlocked config = false)

/-- The queue pair is in the list of the type, or a callback will add it there. -/
def Waits (state : State) (qpId : Nat) (type : WorkType) : Prop :=
  qpId ∈ state.wqs type ∨ ∃ due, (due, .addQpToScheduleSet qpId type) ∈ state.pending ∨
    (due, .readdQp qpId type) ∈ state.pending

/-- The eligible queue pairs wait, except for some. -/
def AwaitedBut (config : Config) (exempt : Nat → WorkType → Prop) (state : State) : Prop :=
  ∀ qpId type, ¬ exempt qpId type → Eligible config (state.contexts qpId) type →
    Waits state qpId type

/-- Every queue pair that is eligible waits. -/
def Awaited (config : Config) (state : State) : Prop := AwaitedBut config (fun _ _ => False) state

/-- The operations in the send queues are under numbers that were given out. -/
def Numbered (state : State) : Prop :=
  ∀ qpId, ∀ id ∈ (state.contexts qpId).sendQueue, id < (state.contexts qpId).nextOp

section Waiting
variable {config : Config} {state next : State} {exempt : Nat → WorkType → Prop}

/-- Nothing that waited was removed. -/
structure Grows (before after : State) : Prop where
  wqs : ∀ type qpId, qpId ∈ before.wqs type → qpId ∈ after.wqs type
  pending : ∀ entry ∈ before.pending, entry ∈ after.pending

theorem Waits.grow (waits : Waits state qpId type) (grows : Grows state next) :
    Waits next qpId type := by
  rcases waits with active | ⟨due, added | again⟩
  · exact .inl (grows.wqs type qpId active)
  · exact .inr ⟨due, .inl (grows.pending _ added)⟩
  · exact .inr ⟨due, .inr (grows.pending _ again)⟩

theorem AwaitedBut.grow (awaited : AwaitedBut config exempt state) (grows : Grows state next)
    (contexts : next.contexts = state.contexts) : AwaitedBut config exempt next := by
  intro qpId type free eligible
  rw [contexts] at eligible
  exact (awaited qpId type free eligible).grow grows

theorem grows_of_follows {allowed : Callback → Prop} (follows : Follows allowed state next) :
    Grows state next := by
  obtain ⟨extra, pending, -⟩ := follows.pending
  refine ⟨fun type qpId active => ?_, fun entry member => ?_⟩
  · rw [follows.wqs]
    exact active
  · rw [pending]
    exact List.mem_append_left _ member

theorem grows_of_added (added : Added config qpId type state next) : Grows state next := by
  obtain ⟨extra, pending, -⟩ := added.pending
  refine ⟨fun kind other active => ?_, fun entry member => ?_⟩
  · rcases added.wqs kind with same | ⟨-, longer⟩
    · rw [same]
      exact active
    · rw [longer]
      exact List.mem_append_left _ active
  · rw [pending]
    exact List.mem_append_left _ member

theorem added_waits (added : Added config qpId type state next)
    (credits : (state.contexts qpId).hasCredits config.toSizeConfig type = true) :
    Waits next qpId type := by
  rcases added.awaited credits with active | ⟨due, later⟩
  · exact .inl active
  · exact .inr ⟨due, .inl later⟩

/-- A queue pair that was added is no longer an exception. -/
theorem added_awaited_but (added : Added config qpId type state next)
    (awaited : AwaitedBut config exempt state) :
    AwaitedBut config (fun other kind => exempt other kind ∧ ¬ (other = qpId ∧ kind = type))
      next := by
  intro other kind free eligible
  rw [added.contexts] at eligible
  by_cases same : other = qpId ∧ kind = type
  · obtain ⟨rfl, rfl⟩ := same
    exact added_waits added eligible.1
  · exact (awaited other kind (fun out => free ⟨out, same⟩) eligible).grow (grows_of_added added)

/-- The queue pair was the only exception. -/
theorem added_awaited (added : Added config qpId type state next)
    (awaited : AwaitedBut config (fun other kind => other = qpId ∧ kind = type) state) :
    Awaited config next := by
  intro other kind _ eligible
  exact added_awaited_but added awaited other kind (fun out => out.2 out.1) eligible

/-- A queue pair changes, and is as eligible as before apart from the exceptions. -/
theorem AwaitedBut.set (awaited : Awaited config state) (qpId : Nat) (context : QpContext)
    (kept : ∀ type, ¬ exempt qpId type → Eligible config context type →
      Eligible config (state.contexts qpId) type) :
    AwaitedBut config exempt (state.setContext qpId context) := by
  intro other type free eligible
  simp only [setContext, Function.update_apply] at eligible
  refine awaited other type id ?_
  split_ifs at eligible with same
  · subst same
    exact kept type free eligible
  · exact eligible

/-- A callback that adds no queue pair is taken out to run. -/
theorem Awaited.erase (awaited : Awaited config state) (due : Nat) (callback : Callback)
    (neither : ∀ qpId type, callback ≠ .addQpToScheduleSet qpId type ∧
      callback ≠ .readdQp qpId type) :
    Awaited config { state with pending := state.pending.erase (due, callback) } := by
  intro qpId type _ eligible
  rcases awaited qpId type id eligible with active | ⟨moment, added | again⟩
  · exact .inl active
  · refine .inr ⟨moment, .inl ((List.mem_erase_of_ne fun same => ?_).2 added)⟩
    exact (neither qpId type).1 (Prod.mk.inj same).2.symm
  · refine .inr ⟨moment, .inr ((List.mem_erase_of_ne fun same => ?_).2 again)⟩
    exact (neither qpId type).2 (Prod.mk.inj same).2.symm

/-- A callback that adds a queue pair is taken out: only that queue pair may not be waiting. -/
theorem Awaited.erase_own (awaited : Awaited config state) {due : Nat} {callback : Callback}
    (own : callback = .addQpToScheduleSet qpId type ∨ callback = .readdQp qpId type) :
    AwaitedBut config (fun other kind => other = qpId ∧ kind = type)
      { state with pending := state.pending.erase (due, callback) } := by
  intro other kind free eligible
  rcases awaited other kind id eligible with active | ⟨moment, added | again⟩
  · exact .inl active
  · refine .inr ⟨moment, .inl ((List.mem_erase_of_ne fun same => ?_).2 added)⟩
    rcases own with rfl | rfl <;> cases same
    exact free ⟨rfl, rfl⟩
  · refine .inr ⟨moment, .inr ((List.mem_erase_of_ne fun same => ?_).2 again)⟩
    rcases own with rfl | rfl <;> cases same
    exact free ⟨rfl, rfl⟩

end Waiting

/-! ## Changes of a queue pair -/

section Contexts
variable {config : Config} {context : QpContext}

/-- An operation that is posted behind others does not change what is next. -/
theorem posted_eligible {op : RdmaOp} (numbered : ∀ id ∈ context.sendQueue, id < context.nextOp)
    (behind : type = .request → (context.post op).sendQueue.length ≠ 1)
    (eligible : Eligible config (context.post op) type) : Eligible config context type := by
  unfold QpContext.post at eligible behind
  split_ifs at eligible behind with received
  · exact eligible
  cases type with
  | response => exact ⟨eligible.1, fun other => by cases other⟩
  | request =>
    cases queue : context.sendQueue with
    | nil => simp [queue] at behind
    | cons id rest =>
      have older : id ≠ context.nextOp := (numbered id (by simp [queue])).ne
      simpa [Eligible, QpContext.hasCredits, QpContext.nextCredit, QpContext.ordBlocked,
        QpContext.headIsRead, queue, Function.update_of_ne older] using eligible

/-- What a packet of an operation changes in the operation when it is finished. -/
theorem packet_finished_op (other : Nat) :
    (context.packetFinished rsn id).ops other =
      { context.ops other with nPktFinished := if other = id then
          (context.ops id).nPktFinished + 1 else (context.ops other).nPktFinished } := by
  by_cases same : other = id
  · subst same
    simp [QpContext.packetFinished]
  · simp [QpContext.packetFinished, same]

theorem packet_finished_credits {sizes : SizeConfig} :
    (context.packetFinished rsn id).hasCredits sizes type = context.hasCredits sizes type := by
  have same : (context.packetFinished rsn id).nextCredit sizes type =
      context.nextCredit sizes type := by
    cases type with
    | response => rfl
    | request =>
      simp only [QpContext.nextCredit, packet_finished_op]
      rfl
  unfold QpContext.hasCredits
  rw [same]
  rfl

theorem packet_finished_head : (context.packetFinished rsn id).headIsRead = context.headIsRead := by
  simp only [QpContext.headIsRead, packet_finished_op]
  rfl

theorem packet_finished_eligible (eligible : Eligible config (context.packetFinished rsn id) type) :
    Eligible config context type := by
  unfold Eligible QpContext.ordBlocked at eligible ⊢
  rw [packet_finished_credits, packet_finished_head] at eligible
  exact eligible

/-- The answer to a read that does not let the next one go makes no queue pair eligible. -/
theorem answered_eligible
    (held : type = .request → ¬ (QpContext.finished (context.ops id) = true ∧
      (context.readAnswered rsn id).outboundReadRequests < config.outboundReadQueueDepth ∧
      (context.readAnswered rsn id).headIsRead = true))
    (eligible : Eligible config (context.readAnswered rsn id) type) :
    Eligible config context type := by
  obtain ⟨credits, free⟩ := eligible
  have same : (context.readAnswered rsn id).hasCredits config.toSizeConfig type =
      (context.packetFinished rsn id).hasCredits config.toSizeConfig type := by
    cases type <;> rfl
  have head : (context.readAnswered rsn id).headIsRead = context.headIsRead := by
    have finished : (context.packetFinished rsn id).headIsRead = context.headIsRead :=
      packet_finished_head
    exact finished
  refine ⟨by rwa [same, packet_finished_credits] at credits, fun request => ?_⟩
  have unblocked := free request
  have still := held request
  rw [head] at still
  simp only [QpContext.ordBlocked, head] at unblocked ⊢
  cases read : context.headIsRead with
  | false => simp
  | true =>
    have below : (context.readAnswered rsn id).outboundReadRequests <
        config.outboundReadQueueDepth := by
      simpa [read] using unblocked
    have unfinished : QpContext.finished (context.ops id) = false := by
      simpa [below, read] using still
    simpa [QpContext.readAnswered, unfinished] using below

/-- A read request that is enqueued behind others does not change which one is next. -/
theorem enqueued_eligible {request : InboundReadRequest}
    (behind : type = .response → (context.enqueued request).inboundReadRequestQueue.length ≠ 1)
    (eligible : Eligible config (context.enqueued request) type) :
    Eligible config context type := by
  cases type with
  | request => exact eligible
  | response =>
    cases queue : context.inboundReadRequestQueue with
    | nil => simp [QpContext.enqueued, queue] at behind
    | cons next rest =>
      simpa [Eligible, QpContext.hasCredits, QpContext.nextCredit, QpContext.enqueued, queue]
        using eligible

/-- Serving a transaction does not bring the queue pair within its credits for the other type: then a
counter has wrapped. -/
def Unwrapped (config : Config) (context : QpContext) (served : WorkType) : Prop :=
  match context.nextCredit config.toSizeConfig served,
      context.nextCredit config.toSizeConfig (other served) with
  | some credit, some later => context.creditUsage + credit + later ≤ context.creditLimit →
      context.creditUsage + later ≤ context.creditLimit
  | _, _ => True

/-- Only the type that was served may become eligible. -/
theorem sent_eligible {taken : QpContext} {packet : Packet} {credit : FalconCredit}
    {served : WorkType} {now : Nat}
    (done : take config.toSizeConfig context served = .ok (taken, packet, credit))
    (unwrapped : Unwrapped config context served) (different : type ≠ served)
    (eligible : Eligible config (taken.charged config packet credit now) type) :
    Eligible config context type := by
  cases served with
  | request =>
    obtain rfl : type = .response := by cases type <;> simp_all
    obtain ⟨id, rest, left, queue, computed, -, rfl⟩ := take_request_eq_ok done
    obtain ⟨credits, -⟩ := eligible
    refine ⟨?_, fun other => by cases other⟩
    cases inbound : context.inboundReadRequestQueue with
    | nil =>
      simp [QpContext.hasCredits, QpContext.nextCredit, QpContext.charged, QpContext.requested,
        inbound] at credits
    | cons request later =>
      simp only [Unwrapped, QpContext.nextCredit, queue, inbound, other, List.head?_cons,
        Option.bind_some, computed, Except.toOption, Option.map_some] at unwrapped
      simp only [QpContext.hasCredits, QpContext.nextCredit, QpContext.charged,
        QpContext.requested, inbound, List.head?_cons, Option.map_some, decide_eq_true_eq]
        at credits ⊢
      exact unwrapped credits
  | response =>
    obtain rfl : type = .request := by cases type <;> simp_all
    obtain ⟨request, rest, queue, rfl, response, rfl⟩ := take_response_eq_ok done
    obtain ⟨credits, free⟩ := eligible
    refine ⟨?_, fun _ => ?_⟩
    · cases next : context.nextCredit config.toSizeConfig .request with
      | none =>
        have none_ : ({ context with inboundReadRequestQueue := rest }.charged config packet
            (computeResponseCredit config.toSizeConfig request) now).nextCredit
              config.toSizeConfig .request = none := next
        simp [QpContext.hasCredits, none_] at credits
      | some later =>
        have some_ : ({ context with inboundReadRequestQueue := rest }.charged config packet
            (computeResponseCredit config.toSizeConfig request) now).nextCredit
              config.toSizeConfig .request = some later := next
        have first : context.nextCredit config.toSizeConfig .response =
            some (computeResponseCredit config.toSizeConfig request) := by
          simp [QpContext.nextCredit, queue]
        simp only [Unwrapped, first, other, next] at unwrapped
        simp only [QpContext.hasCredits, some_, next, decide_eq_true_eq] at credits ⊢
        exact unwrapped credits
    · have unblocked := free rfl
      rwa [response_blocked rfl response] at unblocked

end Contexts

/-! ## All events -/

section Events
variable {config : Config} {state next : State}

theorem numbered_kept {event : Event} (numbered : Numbered state)
    (performed : state.perform config event = .ok next) : Numbered next := by
  intro qpId id member
  rcases changed_of_perform next performed qpId with same | changed
  · rw [same] at member ⊢
    exact numbered qpId id member
  generalize next.contexts qpId = context at changed member
  cases changed with
  | posted opcode sgl inlinePayloadLength =>
    unfold QpContext.post at member ⊢
    split_ifs at member ⊢
    · exact numbered qpId id member
    · rcases List.mem_append.1 member with old | new
      · exact Nat.lt_succ_of_lt (numbered qpId id old)
      · rw [List.mem_singleton] at new
        exact new ▸ Nat.lt_succ_self _
  | sent due _ taken packet credit done =>
    cases current : state.currentWorkType with
    | request =>
      rw [current] at done
      obtain ⟨first, rest, left, queue, -, -, rfl⟩ := take_request_eq_ok done
      refine numbered qpId id ?_
      change id ∈ (if packet.isLastPacket then rest else (state.contexts qpId).sendQueue) at member
      split_ifs at member
      · rw [queue]
        exact List.mem_cons_of_mem _ member
      · exact member
    | response =>
      rw [current] at done
      obtain ⟨request, rest, -, rfl, -⟩ := take_response_eq_ok done
      exact numbered qpId id member
  | credited | answered | completed | enqueued => exact numbered qpId id member

/-- What is asked of the events of a run: responses are not served for queue pairs that are blocked,
serving one type does not make the other one eligible, and a queue pair is added again under the work
type that it was served for. -/
def Undisturbed (config : Config) (state : State) (event : Event) : Prop :=
  Unblocked config state event ∧
    match event with
    | .run _ (.sendTransaction qpId) =>
      Unwrapped config (state.contexts qpId) state.currentWorkType
    | .run _ (.readdQp _ served) => state.currentWorkType = served
    | _ => True

/-- Who waits goes on waiting, but for the queue pair that was served. -/
theorem waits_of_sent (sent : Sent config qpId type state next) {other : Nat} {kind : WorkType}
    (different : ¬ (other = qpId ∧ kind = type)) (waits : Waits state other kind) :
    Waits next other kind := by
  obtain ⟨extra, pending, -⟩ := sent.pending
  rcases waits with active | ⟨due, later⟩
  · left
    by_cases own : kind = type
    · subst own
      obtain ⟨rest, before, after⟩ := sent.own
      rw [before] at active
      rcases List.mem_cons.1 active with same | behind
      · exact absurd ⟨same, rfl⟩ different
      · rcases after with kept | popped
        · rw [kept]
          exact active
        · rw [popped]
          exact behind
    · rw [(sent.others kind own).1]
      exact active
  · refine .inr ⟨due, ?_⟩
    rw [pending]
    exact later.imp (List.mem_append_left _) (List.mem_append_left _)

theorem sent_awaited {due : Nat} (awaited : Awaited config state)
    (unblocked : Unblocked config state (.run due (.sendTransaction qpId)))
    (unwrapped : Unwrapped config (state.contexts qpId) state.currentWorkType)
    (happens : Happens config state (.run due (.sendTransaction qpId)) next) :
    Awaited config next := by
  obtain ⟨-, handed, handedOver, sent⟩ := happens
  obtain ⟨context, packet, credit, taken, contexts, pending⟩ := handedOver.taken
  intro other kind _ eligible
  rw [sent.contexts] at eligible
  by_cases own : other = qpId ∧ kind = state.currentWorkType
  · obtain ⟨rfl, rfl⟩ := own
    have free : (handed.contexts other).ordBlocked config = false := by
      by_contra blocked
      rw [Bool.not_eq_false] at blocked
      have request := handedOver.guarded blocked
      have unblocked := eligible.2 request
      rw [blocked] at unblocked
      cases unblocked
    rcases sent.awaited free eligible.1 with active | ⟨moment, again⟩
    · exact .inl active
    · exact .inr ⟨moment, .inr again⟩
  · refine waits_of_sent sent own ?_
    have before : Eligible config (state.contexts other) kind := by
      rw [contexts, Function.update_apply] at eligible
      split_ifs at eligible with same
      · subst same
        exact sent_eligible taken unwrapped (fun served => own ⟨rfl, served⟩) eligible
      · exact eligible
    have waiting := awaited.erase due (.sendTransaction qpId)
      (fun _ _ => ⟨nofun, nofun⟩) other kind id before
    refine Waits.grow waiting ⟨fun type one active => ?_, fun entry member => ?_⟩
    · rw [handedOver.wqs]
      exact active
    · rw [pending]
      exact List.mem_append_left _ member

/-- A queue pair is added, or nothing is to be added. -/
theorem awaited_if {condition : Prop} [Decidable condition] {middle : State}
    (done : if condition then Added config qpId type middle next else next = middle)
    (added : condition → AwaitedBut config (fun other kind => other = qpId ∧ kind = type) middle)
    (nothing : ¬ condition → Awaited config middle) : Awaited config next := by
  split_ifs at done with met
  · exact added_awaited done (added met)
  · exact done ▸ nothing met

theorem awaited_kept {event : Event} (awaited : Awaited config state) (numbered : Numbered state)
    (covered : Undisturbed config state event) (happens : Happens config state event next) :
    Awaited config next := by
  cases event with
  | postOp qpId opcode sgl inlinePayloadLength =>
    refine awaited_if happens (fun _ => ?_) fun behind => ?_
    · refine AwaitedBut.set awaited qpId _ fun type other eligible => ?_
      exact posted_eligible (numbered qpId) (fun same => absurd ⟨rfl, same⟩ other) eligible
    · refine AwaitedBut.set awaited qpId _ fun type _ eligible => ?_
      exact posted_eligible (numbered qpId) (fun _ => behind) eligible
  | setXoff => exact AwaitedBut.grow awaited (grows_of_follows happens) happens.contexts
  | returnCredit qpId credit =>
    obtain ⟨-, first, second, requests, responses, follows⟩ := happens
    have middle : AwaitedBut config (fun other _ => other = qpId)
        (state.setContext qpId ((state.contexts qpId).credited credit)) :=
      AwaitedBut.set awaited qpId _ fun type other => absurd rfl other
    have one : AwaitedBut config (fun other kind => other = qpId ∧ kind = .response) first := by
      intro other kind free eligible
      refine added_awaited_but requests middle other kind (fun ⟨same, not⟩ => ?_) eligible
      cases kind with
      | request => exact not ⟨same, rfl⟩
      | response => exact free ⟨same, rfl⟩
    exact AwaitedBut.grow (added_awaited responses one) (grows_of_follows follows) follows.contexts
  | readRequestArrives qpId request refused =>
    obtain rfl := happens
    unfold processIncomingReadRequest
    dsimp only
    split_ifs
    · exact awaited
    · exact AwaitedBut.grow awaited (grows_of_follows (scheduled_follows (fun _ => True) _ trivial)) rfl
  | readResponseArrives qpId rsn =>
    obtain ⟨id, mapped, answered⟩ := happens
    refine awaited_if answered (fun _ => ?_) fun held => ?_
    · refine AwaitedBut.set awaited qpId _ fun type other eligible => ?_
      exact answered_eligible (fun same => absurd ⟨rfl, same⟩ other) eligible
    · refine AwaitedBut.set awaited qpId _ fun type _ eligible => ?_
      exact answered_eligible (fun _ => held) eligible
  | completionArrives qpId rsn =>
    obtain ⟨id, mapped, rfl⟩ := happens
    exact AwaitedBut.set awaited qpId _ fun type _ eligible => packet_finished_eligible eligible
  | run due callback =>
    have idle : (∀ qpId type, callback ≠ .addQpToScheduleSet qpId type ∧
        callback ≠ .readdQp qpId type) →
        Awaited config { state with pending := state.pending.erase (due, callback) } :=
      fun neither => awaited.erase due callback neither
    cases callback with
    | runWorkScheduler =>
      exact AwaitedBut.grow (idle fun _ _ => ⟨nofun, nofun⟩) (grows_of_follows happens)
        happens.contexts
    | sendTransaction qpId => exact sent_awaited awaited covered.1 covered.2 happens
    | addQpToScheduleSet qpId type => exact added_awaited happens (awaited.erase_own (.inl rfl))
    | readdQp qpId served =>
      obtain rfl := covered.2
      exact added_awaited happens (awaited.erase_own (.inr rfl))
    | initiateTransaction qpId packet =>
      obtain rfl := happens
      exact idle fun _ _ => ⟨nofun, nofun⟩
    | ackReadRequest qpId request =>
      obtain rfl := happens
      exact AwaitedBut.grow (idle fun _ _ => ⟨nofun, nofun⟩)
        (grows_of_follows (scheduled_follows (fun _ => True) _ trivial)) rfl
    | enqueueReadRequest qpId request =>
      have taken := idle fun _ _ => ⟨nofun, nofun⟩
      refine awaited_if happens (fun _ => ?_) fun behind => ?_
      · refine AwaitedBut.set taken qpId _ fun type other eligible => ?_
        exact enqueued_eligible (fun same => absurd ⟨rfl, same⟩ other) eligible
      · refine AwaitedBut.set taken qpId _ fun type _ eligible => ?_
        exact enqueued_eligible (fun _ => behind) eligible
  | tick =>
    obtain rfl := happens
    exact AwaitedBut.grow awaited ⟨fun _ _ active => active, fun _ member => member⟩ rfl

theorem initial_awaited (initial : State.Initial state) : Awaited config state := by
  intro qpId type _ eligible
  obtain ⟨sendQueue, inbound, -⟩ := initial.1 qpId
  have work := has_work_of_has_credits eligible.1
  cases type
  · exact absurd sendQueue work
  · exact absurd inbound work

theorem initial_numbered (initial : State.Initial state) : Numbered state := by
  intro qpId id member
  rw [(initial.1 qpId).1] at member
  cases member

/-- A scheduler that can send is driven by a callback. -/
theorem driven (sound : Sound config state) (able : state.canSend config type = true) :
    ∃ due callback, (due, callback) ∈ state.pending ∧ isToken callback = true := by
  have awake : state.isIdle = false := by
    by_contra idle
    rw [Bool.not_eq_false] at idle
    rw [sound.asleep idle type] at able
    cases able
  have one : 0 < tokens state.pending := by
    rw [sound.token, awake]
    exact Nat.one_pos
  obtain ⟨⟨due, callback⟩, member, drives⟩ := List.countP_pos_iff.1 one
  exact ⟨due, callback, member, drives⟩

end Events

/-- In every run whose events are undisturbed no wake-up is lost: each queue pair that has work and
credits, and is not held back by its outstanding reads, is active or will be added; and a scheduler
that can send has a callback that drives it. -/
theorem wakeups_kept {config : Config} {state : State}
    (reached : Runs.Reachable State.Initial (CoveredStep config (Undisturbed config)) state) :
    (∀ qpId type, Eligible config (state.contexts qpId) type → Waits state qpId type) ∧
    ∀ type, state.canSend config type = true →
      ∃ due callback, (due, callback) ∈ state.pending ∧ isToken callback = true := by
  have sound : ∀ state, Runs.Reachable State.Initial (CoveredStep config (Undisturbed config))
      state → Sound config state := fun _ => sound_of_reachable fun _ _ covered => covered.1
  have kept : Numbered state ∧ Awaited config state := by
    apply Runs.invariant_of_reachable_with sound _ _ reached
    · exact fun first initial => ⟨initial_numbered initial, initial_awaited initial⟩
    · rintro before after sound ⟨numbered, awaited⟩ ⟨event, possible, covered, done⟩
      have happens := ((perform_spec sound possible covered.1).2 after done).2
      exact ⟨numbered_kept numbered done, awaited_kept awaited numbered covered happens⟩
  exact ⟨fun qpId type => kept.2 qpId type id, fun type => driven (sound state reached)⟩

instance (config : Config) (context : QpContext) (served : WorkType) :
    Decidable (Unwrapped config context served) := by
  unfold Unwrapped
  split <;> infer_instance

instance (config : Config) (state : State) :
    (event : Event) → Decidable (Undisturbed config state event)
  | .postOp .. | .setXoff .. | .returnCredit .. | .readRequestArrives .. | .readResponseArrives ..
  | .completionArrives .. | .tick | .run _ .runWorkScheduler | .run _ (.sendTransaction _)
  | .run _ (.addQpToScheduleSet ..) | .run _ (.readdQp ..) | .run _ (.initiateTransaction ..)
  | .run _ (.ackReadRequest ..) | .run _ (.enqueueReadRequest ..) =>
    inferInstanceAs (Decidable (_ ∧ _))

/-- One of three writes is sent, and the queue pair will be added again for the others. -/
def firstWriteSent : List Event :=
  [.readRequestArrives 2 inboundRead false, .tick, .run 1 (.ackReadRequest 2 inboundRead),
    .postOp 1 .write [100] 0, .postOp 1 .write [100] 0, .postOp 1 .write [100] 0,
    .run 1 (.sendTransaction 1), .tick, .run 2 (.enqueueReadRequest 2 inboundRead),
    .run 2 (.readdQp 1 .request), .run 2 .runWorkScheduler, .run 2 (.sendTransaction 1), .tick]

/-- The queue pair with one more write waits for its turn. -/
theorem wakeups_kept_write : ∃ state : State, (state.contexts 1).sendQueue = [2] ∧
    Waits state 1 .request ∧
    ∃ due callback, (due, callback) ∈ state.pending ∧ isToken callback = true := by
  have tested : (Runs.execute (tryEvent narrowConfig (Undisturbed narrowConfig)) firstWriteSent
      freshState).any (fun state => decide ((state.contexts 1).sendQueue = [2] ∧
        (state.contexts 1).hasCredits narrowConfig.toSizeConfig .request = true ∧
        (state.contexts 1).ordBlocked narrowConfig = false ∧
        state.canSend narrowConfig .response = true)) = true := by decide +kernel
  obtain ⟨state, reached, passed⟩ := reached_covered fresh_state_initial tested
  obtain ⟨queue, credits, free, able⟩ := of_decide_eq_true passed
  obtain ⟨waits, driving⟩ := wakeups_kept reached
  exact ⟨state, queue, waits 1 .request ⟨credits, fun _ => free⟩, driving .response able⟩

/-- The scheduler has turned to the responses when the queue pair is added again, so that it is looked
up under the wrong type and its last write is never sent. -/
theorem readd_loses_write : ∃ state, Runs.Reachable Initial (State.Step narrowConfig) state ∧
    Eligible narrowConfig (state.contexts 1) .request ∧ ¬ Waits state 1 .request := by
  have tested : (Runs.execute (tryEvent narrowConfig fun _ _ => True)
      (firstWriteSent ++ [.run 3 (.readdQp 1 .request)]) freshState).any (fun state =>
        decide ((state.contexts 1).hasCredits narrowConfig.toSizeConfig .request = true ∧
          (state.contexts 1).ordBlocked narrowConfig = false ∧ 1 ∉ state.wqs .request ∧
          ∀ entry ∈ state.pending, entry.2 ≠ .addQpToScheduleSet 1 .request ∧
            entry.2 ≠ .readdQp 1 .request)) = true := by decide +kernel
  obtain ⟨state, reached, passed⟩ := reached_by fresh_state_initial tested
  obtain ⟨credits, free, inactive, none_⟩ := of_decide_eq_true passed
  refine ⟨state, reached, ⟨credits, fun _ => free⟩, ?_⟩
  rintro (active | ⟨due, added | again⟩)
  · exact inactive active
  · exact (none_ _ added).1 rfl
  · exact (none_ _ again).2 rfl

end Isekai.RdmaWakeupProofs
