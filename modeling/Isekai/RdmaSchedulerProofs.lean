import Isekai.CreditRunProofs
import Isekai.Outcomes
import Isekai.RdmaFalconModel

/-! The lists of active queue pairs in every run of the RDMA work scheduler: they list what their sets
contain, each queue pair in them has work, one callback at a time drives the scheduler, and it is idle
only if it can send nothing. -/

namespace Isekai.RdmaSchedulerProofs
open Outcomes RdmaFalcon RdmaFalcon.State
open Roce (WorkType)

variable {qpId : Nat} {type : WorkType} {rest : List Nat}

/-! ## Outcomes that never take the front of an empty queue -/

/-- The operation does not take the front of an empty queue, and what it returns meets the
condition. -/
def Serves {A : Type} (outcome : Except Fault A) (post : A → Prop) : Prop :=
  outcome ≠ .error .emptyQueue ∧ Ensures outcome post

section Serving
variable {A B : Type}

theorem serves_ok {value : A} {post : A → Prop} (holds : post value) :
    Serves (.ok value) post :=
  ⟨by simp, ensures_ok.2 holds⟩

theorem serves_error {fault : Fault} {post : A → Prop} (harmless : fault ≠ .emptyQueue) :
    Serves (.error fault) post :=
  ⟨fun same => harmless (Except.error.inj same), ensures_error⟩

theorem Serves.mono {outcome : Except Fault A} {weak strong : A → Prop}
    (serves : Serves outcome strong) (weaker : ∀ value, strong value → weak value) :
    Serves outcome weak :=
  ⟨serves.1, serves.2.mono weaker⟩

theorem Serves.bind {first : Except Fault A} {second : A → Except Fault B} {middle : A → Prop}
    {post : B → Prop} (before : Serves first middle)
    (after : ∀ value, middle value → Serves (second value) post) :
    Serves (first >>= second) post := by
  cases first with
  | error fault =>
    exact serves_error fun same => before.1 (congrArg Except.error same)
  | ok value => exact after value (before.2 value rfl)

/-- What comes before is harmless, and nothing is known of its result. -/
theorem Serves.bind_any {first : Except Fault A} {second : A → Except Fault B} {post : B → Prop}
    (harmless : first ≠ .error .emptyQueue) (after : ∀ value, Serves (second value) post) :
    Serves (first >>= second) post := by
  have any : Serves first fun _ => True := ⟨harmless, fun _ _ => trivial⟩
  exact any.bind fun value _ => after value

theorem serves_ite {condition : Prop} [Decidable condition] {one other : Except Fault A}
    {post : A → Prop} (holds : condition → Serves one post)
    (fails : ¬ condition → Serves other post) :
    Serves (if condition then one else other) post := by
  split_ifs with met
  · exact holds met
  · exact fails met

end Serving

/-! ## What drives the scheduler -/

/-- The callbacks that drive the scheduler: it runs, or the lookup of a queue pair finishes. -/
def isToken : Callback → Bool
  | .runWorkScheduler | .sendTransaction _ => true
  | _ => false

/-- How many callbacks drive the scheduler. -/
def tokens (pending : List (Nat × Callback)) : Nat := pending.countP fun entry => isToken entry.2

theorem tokens_append (one other : List (Nat × Callback)) :
    tokens (one ++ other) = tokens one + tokens other := List.countP_append

theorem not_pending_of_quiet {pending : List (Nat × Callback)} (quiet : tokens pending = 0)
    {due : Nat} {callback : Callback} (drives : isToken callback = true) :
    (due, callback) ∉ pending := by
  intro member
  exact List.countP_eq_zero.1 quiet (due, callback) member drives

/-- Two states with the same queue pairs, lists and credits, of which the second has more callbacks of
some kinds. -/
structure Follows (allowed : Callback → Prop) (before after : State) : Prop where
  contexts : after.contexts = before.contexts
  wqs : after.wqs = before.wqs
  qpSet : after.qpSet = before.qpSet
  now : after.now = before.now
  pending : ∃ extra, after.pending = before.pending ++ extra ∧
    ∀ entry ∈ extra, allowed entry.2

/-- One callback drives the scheduler unless it is idle, the queue pair that is looked up is at the
head of the list that is served, and an idle scheduler can send nothing. -/
structure Paced (config : Config) (state : State) : Prop where
  token : tokens state.pending = if state.isIdle then 0 else 1
  front : ∀ due qpId, (due, .sendTransaction qpId) ∈ state.pending →
    (state.wqs state.currentWorkType).head? = some qpId
  asleep : state.isIdle = true → ∀ type, state.canSend config type = false

section Running
variable {config : Config} {state : State}

theorem wqs_of_can_send (able : state.canSend config type = true) : state.wqs type ≠ [] := by
  intro none_
  simp [canSend, none_] at able

/-- A callback that drives the scheduler is scheduled where none was. -/
theorem scheduled_paced (quiet : tokens state.pending = 0) (awake : state.isIdle = false)
    (delay : Nat) {callback : Callback} (drives : isToken callback = true)
    (front : ∀ qpId, callback = .sendTransaction qpId →
      (state.wqs state.currentWorkType).head? = some qpId) :
    Paced config (state.schedule delay callback) := by
  refine ⟨?_, fun due qpId member => ?_, fun idle => ?_⟩
  · simp only [schedule, tokens_append, quiet, awake]
    simp [tokens, drives]
  · rcases List.mem_append.1 member with old | new
    · exact absurd old (not_pending_of_quiet quiet rfl)
    · rw [List.mem_singleton, Prod.mk.injEq] at new
      exact front qpId new.2.symm
  · rw [show (state.schedule delay callback).isIdle = state.isIdle from rfl, awake] at idle
    cases idle

theorem scheduled_follows (allowed : Callback → Prop) (delay : Nat) {callback : Callback}
    (kind : allowed callback) : Follows allowed state (state.schedule delay callback) :=
  ⟨rfl, rfl, rfl, rfl, [_], rfl, by simpa using kind⟩

/-- Where one of the two types can be sent, the type that is served next can. -/
theorem can_send_chosen (able : ∃ type, state.canSend config type = true) :
    state.canSend config (if state.canSend config state.currentWorkType = true then
      state.currentWorkType else other state.currentWorkType) = true := by
  obtain ⟨type, able⟩ := able
  split_ifs with same
  · exact same
  · cases currently : state.currentWorkType <;> cases type <;> simp_all [other]

theorem dispatch_spec (quiet : tokens state.pending = 0) (awake : state.isIdle = false)
    (able : ∃ type, state.canSend config type = true) :
    Serves (state.dispatch config) fun next =>
      Follows (isToken · = true) state next ∧ Paced config next := by
  unfold dispatch
  generalize chosen : (if state.canSend config state.currentWorkType = true then
    state.currentWorkType else other state.currentWorkType) = current
  have sendable : state.canSend config current = true := chosen ▸ can_send_chosen able
  dsimp only
  split
  · rename_i empty
    exact absurd empty (wqs_of_can_send sendable)
  · rename_i qpId rest head
    refine serves_ok ⟨⟨rfl, rfl, rfl, rfl, [_], rfl, by simp [isToken]⟩, ?_⟩
    apply scheduled_paced
    · exact quiet
    · exact awake
    · rfl
    · rintro _ ⟨⟩
      exact congrArg List.head? head

/-- A run of the scheduler where no callback drives it. -/
theorem run_spec (config : Config) (state : State) (quiet : tokens state.pending = 0) :
    Serves (state.runWorkScheduler config) fun next =>
      Follows (isToken · = true) state next ∧ Paced config next := by
  have rescheduled : ∀ (bucket : AdmissionControl.TokenBucket) (delay : Nat),
      Serves (.ok (({ state with isIdle := false, txTokenBucket := bucket } : State).schedule delay
        .runWorkScheduler)) fun next => Follows (isToken · = true) state next ∧ Paced config next := by
    intro bucket delay
    refine serves_ok ⟨⟨rfl, rfl, rfl, rfl, [_], rfl, by simp [isToken]⟩, ?_⟩
    apply scheduled_paced
    · exact quiet
    · rfl
    · rfl
    · rintro _ ⟨⟩
  unfold runWorkScheduler
  dsimp only
  refine serves_ite (fun _ => rescheduled state.txTokenBucket _) fun _ => ?_
  refine serves_ite (fun _ => rescheduled _ _) fun _ => ?_
  refine serves_ite (fun unable => ?_) fun able => ?_
  · refine serves_ok ⟨⟨rfl, rfl, rfl, rfl, [], by simp, by simp⟩, by simpa using quiet,
      fun due qpId member => absurd member (not_pending_of_quiet quiet rfl), fun _ type => ?_⟩
    simp only [Bool.and_eq_true, Bool.not_eq_true'] at unable
    cases type
    · exact unable.1
    · exact unable.2
  · refine (dispatch_spec ?_ ?_ ?_).mono fun next ⟨follows, paced⟩ => ⟨⟨follows.contexts, follows.wqs,
      follows.qpSet, follows.now, follows.pending⟩, paced⟩
    · exact quiet
    · rfl
    · simp only [Bool.and_eq_true, Bool.not_eq_true', not_and_or, Bool.not_eq_false] at able
      rcases able with request | response
      · exact ⟨.request, request⟩
      · exact ⟨.response, response⟩

/-- What is known before the scheduler is woken: it may be idle although it can send. -/
structure Waking (state : State) : Prop where
  token : tokens state.pending = if state.isIdle then 0 else 1
  front : ∀ due qpId, (due, .sendTransaction qpId) ∈ state.pending →
    (state.wqs state.currentWorkType).head? = some qpId

theorem wake_spec (waking : Waking state) : Serves (state.wake config) fun next =>
    Follows (isToken · = true) state next ∧ Paced config next := by
  unfold wake
  refine serves_ite (fun idle => ?_) fun awake => ?_
  · apply run_spec
    rw [waking.token, if_pos idle]
  · exact serves_ok ⟨⟨rfl, rfl, rfl, rfl, [], by simp, by simp⟩, waking.token, waking.front,
      fun idle => absurd idle awake⟩

end Running

/-! ## The lists -/

/-- The lists and their sets agree, and every queue pair in a list has work of its type. -/
structure Listed (state : State) : Prop where
  nodup : ∀ type, (state.wqs type).Nodup
  listed : ∀ type qpId, qpId ∈ state.wqs type ↔ qpId ∈ state.qpSet type
  working : ∀ type qpId, qpId ∈ state.wqs type → (state.contexts qpId).HasWork type

section Adding
variable {config : Config} {state next : State}

theorem Listed.follows (listed : Listed state) {allowed : Callback → Prop}
    (follows : Follows allowed state next) : Listed next := by
  obtain ⟨contexts, wqs, qpSet, -, -⟩ := follows
  exact ⟨wqs ▸ listed.nodup, by rw [wqs, qpSet]; exact listed.listed,
    by rw [wqs, contexts]; exact listed.working⟩

theorem has_work_of_has_credits {sizes : SizeConfig} {context : QpContext}
    (credits : context.hasCredits sizes type = true) : context.HasWork type := by
  cases type <;> intro none_ <;>
    simp [QpContext.hasCredits, QpContext.nextCredit, none_] at credits

/-- The queue pair is put on the list of the type if it is added now. -/
def Joins (config : Config) (now : Nat) (context : QpContext) (type : WorkType) : Prop :=
  context.nextScheduleTime ≤ now ∧ context.hasCredits config.toSizeConfig type = true

instance (config : Config) (now : Nat) (context : QpContext) (type : WorkType) :
    Decidable (Joins config now context type) := inferInstanceAs (Decidable (_ ∧ _))

/-- What adding a queue pair to a list does. -/
structure Added (config : Config) (qpId : Nat) (type : WorkType) (before after : State) : Prop where
  contexts : after.contexts = before.contexts
  now : after.now = before.now
  wqs : ∀ kind, after.wqs kind = before.wqs kind ∨
    kind = type ∧ after.wqs kind = before.wqs kind ++ [qpId]
  pending : ∃ extra, after.pending = before.pending ++ extra ∧ ∀ entry ∈ extra,
    isToken entry.2 = true ∨ entry.2 = .addQpToScheduleSet qpId type
  awaited : (before.contexts qpId).hasCredits config.toSizeConfig type = true →
    qpId ∈ after.wqs type ∨ ∃ due, (due, .addQpToScheduleSet qpId type) ∈ after.pending
  joined : qpId ∈ after.wqs type →
    qpId ∈ before.wqs type ∨ Joins config before.now (before.contexts qpId) type

/-- `AddQpToScheduleSet` keeps the lists and the pace. -/
theorem add_spec (listed : Listed state) (paced : Paced config state) (qpId : Nat)
    (type : WorkType) : Serves (state.addQpToScheduleSet config qpId type) fun next =>
      Listed next ∧ Paced config next ∧ Added config qpId type state next := by
  unfold addQpToScheduleSet
  refine serves_ite (fun early => ?_) fun late => serves_ite (fun poor => ?_) fun rich =>
    serves_ite (fun present => ?_) fun absent => ?_
  · refine serves_ok ⟨listed.follows (scheduled_follows (fun _ => True) _ trivial), ?_,
      rfl, rfl, fun _ => .inl rfl, ⟨[_], rfl, by simp⟩,
      fun _ => .inr ⟨_, List.mem_append_right _ (List.mem_singleton_self _)⟩, .inl⟩
    · refine ⟨?_, fun due looked member => ?_, paced.asleep⟩
      · refine (tokens_append _ _).trans ?_
        rw [paced.token]
        rfl
      · rcases List.mem_append.1 member with old | new
        · exact paced.front due looked old
        · simp at new
  · refine serves_ok ⟨listed, paced, rfl, rfl, fun _ => .inl rfl, ⟨[], by simp, by simp⟩,
      fun credits => ?_, .inl⟩
    rw [credits] at poor
    simp at poor
  · exact serves_ok ⟨listed, paced, rfl, rfl, fun _ => .inl rfl, ⟨[], by simp, by simp⟩,
      fun _ => .inl ((listed.listed type qpId).2 present), .inl⟩
  · have new : qpId ∉ state.wqs type := fun member => absent ((listed.listed type qpId).1 member)
    have credits : (state.contexts qpId).hasCredits config.toSizeConfig type = true := by
      simpa using rich
    have waking : Waking ({ state with
        wqs := Function.update state.wqs type (state.wqs type ++ [qpId])
        qpSet := Function.update state.qpSet type (insert qpId (state.qpSet type)) } : State) := by
      refine ⟨paced.token, fun due looked member => ?_⟩
      have head := paced.front due looked member
      simp only [Function.update_apply]
      split_ifs with same
      · rw [← same, List.head?_append, head]
        rfl
      · exact head
    refine (wake_spec waking).mono fun next ⟨follows, pacedNext⟩ => ⟨?_, pacedNext,
      follows.contexts, follows.now, fun kind => ?_, ?_, fun _ => .inl ?_,
      fun _ => .inr ⟨Nat.le_of_not_lt late, credits⟩⟩
    · refine Listed.follows ⟨fun kind => ?_, fun kind other => ?_, fun kind other member => ?_⟩
        follows
      · by_cases same : kind = type
        · subst same
          simp only [Function.update_self]
          exact List.nodup_append.2 ⟨listed.nodup kind, List.nodup_singleton _, by
            intro one first two second
            rw [List.mem_singleton] at second
            rintro rfl
            exact new (second ▸ first)⟩
        · simp only [Function.update_of_ne same]
          exact listed.nodup kind
      · by_cases same : kind = type
        · subst same
          simp [listed.listed kind other, or_comm]
        · simp only [Function.update_of_ne same]
          exact listed.listed kind other
      · by_cases same : kind = type
        · subst same
          simp only [Function.update_self, List.mem_append, List.mem_singleton] at member
          rcases member with old | rfl
          · exact listed.working kind other old
          · exact has_work_of_has_credits credits
        · simp only [Function.update_of_ne same] at member
          exact listed.working kind other member
    · rw [follows.wqs]
      by_cases same : kind = type
      · subst same
        exact .inr ⟨rfl, Function.update_self ..⟩
      · exact .inl (Function.update_of_ne same ..)
    · obtain ⟨extra, more, driving⟩ := follows.pending
      exact ⟨extra, more, fun entry member => .inl (driving entry member)⟩
    · rw [follows.wqs]
      simp

end Adding

/-! ## Sending -/

section Taking
variable {config : Config} {sizes : SizeConfig} {context : QpContext}

theorem take_request_eq_ok {taken : QpContext} {packet : Packet} {credit : FalconCredit}
    (done : context.takeRequest sizes = .ok (taken, packet, credit)) :
    ∃ id rest left, context.sendQueue = id :: rest ∧
      computeRequestCredit sizes (context.ops id) = .ok credit ∧
      createRequestPacket sizes (context.ops id) context.nextRsn = .ok (packet, left) ∧
      taken = context.requested id rest packet left := by
  unfold QpContext.takeRequest at done
  split at done
  · cases done
  · rename_i id rest queue
    obtain ⟨computed, credits, remaining⟩ := bind_eq_ok.1 done
    obtain ⟨⟨created, left⟩, packets, last⟩ := bind_eq_ok.1 remaining
    cases last
    exact ⟨id, rest, left, queue, credits, packets, rfl⟩

theorem take_response_eq_ok {taken : QpContext} {packet : Packet} {credit : FalconCredit}
    (done : context.takeResponse sizes = .ok (taken, packet, credit)) :
    ∃ request rest, context.inboundReadRequestQueue = request :: rest ∧
      taken = { context with inboundReadRequestQueue := rest } ∧
      packet.opcode = .readResponseOnly ∧ credit = computeResponseCredit sizes request := by
  unfold QpContext.takeResponse at done
  split at done
  · cases done
  · rename_i request rest queue
    obtain ⟨created, packets, last⟩ := bind_eq_ok.1 done
    obtain ⟨length, -, made⟩ := bind_eq_ok.1 packets
    cases made
    cases last
    exact ⟨request, rest, queue, rfl, rfl, rfl⟩

/-- Taking a request from a send queue that is not empty. -/
theorem take_request_serves (sizes : SizeConfig) (work : context.HasWork .request) :
    Serves (context.takeRequest sizes) fun taken =>
      taken.1.inboundReadRequestQueue = context.inboundReadRequestQueue ∧
        taken.1.nextScheduleTime = context.nextScheduleTime := by
  unfold QpContext.takeRequest
  split
  · rename_i empty
    exact absurd empty work
  · apply Serves.bind_any
    · intro failed
      cases compute_request_fault failed
    intro credit
    apply Serves.bind_any
    · intro failed
      rcases create_request_fault failed with reason | reason | reason <;> cases reason
    · rintro ⟨packet, left⟩
      exact serves_ok ⟨rfl, rfl⟩

/-- Taking a response leaves the side of the requests as it is. -/
theorem take_response_serves (sizes : SizeConfig) (work : context.HasWork .response) :
    Serves (context.takeResponse sizes) fun taken =>
      ∃ request rest, context.inboundReadRequestQueue = request :: rest ∧
        taken.1 = { context with inboundReadRequestQueue := rest } ∧
        taken.2.1.opcode = .readResponseOnly ∧
        taken.2.2 = computeResponseCredit sizes request := by
  unfold QpContext.takeResponse
  split
  · rename_i empty
    exact absurd empty work
  · rename_i request rest queue
    cases created : createResponsePacket request with
    | error fault =>
      refine serves_error ?_
      rintro rfl
      cases create_response_fault created
    | ok packet =>
      obtain ⟨length, -, done⟩ := bind_eq_ok.1 created
      cases done
      exact serves_ok ⟨request, rest, queue, rfl, rfl, rfl⟩

variable {state : State}

theorem hand_over_serves (qpId : Nat) (packet : Packet) (credit : FalconCredit) :
    Serves (state.handOver config qpId context packet credit) fun next =>
      next.contexts = Function.update state.contexts qpId
        (context.charged config packet credit state.now) ∧
      next.wqs = state.wqs ∧ next.qpSet = state.qpSet ∧ next.now = state.now ∧
      next.isIdle = state.isIdle ∧ next.currentWorkType = state.currentWorkType ∧
      next.pending = state.pending ++
        [(state.now + config.schedulerPipelineDelayTime, .initiateTransaction qpId packet)] := by
  unfold handOver
  dsimp only
  split
  · exact serves_error (by decide)
  · exact serves_ok ⟨rfl, rfl, rfl, rfl, rfl, rfl, rfl⟩

/-- What follows a transaction that was handed over: the queue pair stays at the head of the list it
was served from, or is taken off that list; then it is added again later if it has credits. -/
structure Sent (config : Config) (qpId : Nat) (type : WorkType) (before after : State) : Prop where
  contexts : after.contexts = before.contexts
  now : after.now = before.now
  others : ∀ kind, kind ≠ type →
    after.wqs kind = before.wqs kind ∧ after.qpSet kind = before.qpSet kind
  own : ∃ rest, before.wqs type = qpId :: rest ∧
    (after.wqs type = qpId :: rest ∨ after.wqs type = rest)
  pending : ∃ extra, after.pending = before.pending ++ extra ∧ ∀ entry ∈ extra,
    isToken entry.2 = true ∨ entry.2 = .readdQp qpId type
  blocked : (before.contexts qpId).ordBlocked config = true → qpId ∉ after.wqs type
  awaited : (before.contexts qpId).ordBlocked config = false →
    (before.contexts qpId).hasCredits config.toSizeConfig type = true →
      qpId ∈ after.wqs type ∨ ∃ due, (due, .readdQp qpId type) ∈ after.pending

/-- The lists are in order, but the queue pair that was just served may have no more work. -/
structure ListedBut (qpId : Nat) (type : WorkType) (state : State) : Prop where
  nodup : ∀ kind, (state.wqs kind).Nodup
  listed : ∀ kind other, other ∈ state.wqs kind ↔ other ∈ state.qpSet kind
  working : ∀ kind other, other ∈ state.wqs kind → (kind = type ∧ other = qpId) ∨
    (state.contexts other).HasWork kind

theorem pop_serves (head : state.wqs type = qpId :: rest) :
    state.popActive qpId type = .ok { state with
      wqs := Function.update state.wqs type rest
      qpSet := Function.update state.qpSet type ((state.qpSet type).erase qpId) } := by
  simp only [popActive, head]

theorem popped_listed (listed : ListedBut qpId type state) (head : state.wqs type = qpId :: rest) :
    Listed { state with
      wqs := Function.update state.wqs type rest
      qpSet := Function.update state.qpSet type ((state.qpSet type).erase qpId) } := by
  have distinct := listed.nodup type
  rw [head, List.nodup_cons] at distinct
  refine ⟨fun kind => ?_, fun kind other => ?_, fun kind other member => ?_⟩ <;>
    by_cases same : kind = type
  · subst same
    simpa using distinct.2
  · simpa [Function.update_of_ne same] using listed.nodup kind
  · subst same
    have both := listed.listed kind other
    rw [head, List.mem_cons] at both
    simp only [Function.update_self, Finset.mem_erase, ← both]
    constructor
    · intro member
      exact ⟨fun equal => distinct.1 (equal ▸ member), .inr member⟩
    · rintro ⟨different, equal | member⟩
      · exact absurd equal different
      · exact member
  · simpa [Function.update_of_ne same] using listed.listed kind other
  · subst same
    simp only [Function.update_self] at member
    rcases listed.working kind other (head ▸ List.mem_cons_of_mem _ member) with ⟨_, rfl⟩ | work
    · exact absurd member distinct.1
    · exact work
  · simp only [Function.update_of_ne same] at member
    rcases listed.working kind other member with ⟨equal, _⟩ | work
    · exact absurd equal same
    · exact work

/-- Serving the next queue pair only changes the quanta, the work type and the pace. -/
theorem serve_next_spec (config : Config) (quiet : tokens state.pending = 0) (awake : state.isIdle = false) :
    Follows (isToken · = true) state (state.serveNext config) ∧
      Paced config (state.serveNext config) := by
  have kept : ∀ middle : State, tokens middle.pending = 0 → middle.isIdle = false →
      Follows (isToken · = true) middle
          ((middle.updateWorkType config).schedule config.chipCycleTime .runWorkScheduler) ∧
        Paced config
          ((middle.updateWorkType config).schedule config.chipCycleTime .runWorkScheduler) := by
    intro middle quiet awake
    unfold updateWorkType
    split_ifs
    all_goals
      refine ⟨⟨rfl, rfl, rfl, rfl, [_], rfl, by simp [isToken]⟩, ?_⟩
      apply scheduled_paced
      · exact quiet
      · exact awake
      · rfl
      · rintro _ ⟨⟩
  obtain ⟨follows, paced⟩ := kept { state with
    remainingQuantaBytes := Function.update state.remainingQuantaBytes state.currentWorkType 0
    remainingQuantaOps := Function.update state.remainingQuantaOps state.currentWorkType 0 } quiet awake
  exact ⟨⟨follows.contexts, follows.wqs, follows.qpSet, follows.now, follows.pending⟩, paced⟩

/-- The queue pair at the head is taken off, and the next one is served. -/
theorem popped_spec (listed : ListedBut qpId state.currentWorkType state)
    (quiet : tokens state.pending = 0) (awake : state.isIdle = false)
    (head : state.wqs state.currentWorkType = qpId :: rest) (extra : List (Nat × Callback))
    (readded : ∀ entry ∈ extra, entry.2 = .readdQp qpId state.currentWorkType) {popped : State}
    (after : popped = { state with
      wqs := Function.update state.wqs state.currentWorkType rest
      qpSet := Function.update state.qpSet state.currentWorkType
        ((state.qpSet state.currentWorkType).erase qpId)
      pending := state.pending ++ extra })
    (awaited : (state.contexts qpId).ordBlocked config = false →
      (state.contexts qpId).hasCredits config.toSizeConfig state.currentWorkType = true →
        extra ≠ []) :
    Listed (popped.serveNext config) ∧ Paced config (popped.serveNext config) ∧
      Sent config qpId state.currentWorkType state (popped.serveNext config) := by
  have distinct := listed.nodup state.currentWorkType
  rw [head, List.nodup_cons] at distinct
  have poppedListed : Listed popped := by
    have plain := popped_listed listed head
    subst after
    exact ⟨plain.nodup, plain.listed, plain.working⟩
  have quietly : tokens popped.pending = 0 := by
    subst after
    rw [tokens_append, quiet, zero_add]
    refine List.countP_eq_zero.2 fun entry member => ?_
    rw [readded entry member]
    exact Bool.false_ne_true
  obtain ⟨follows, paced⟩ := serve_next_spec config quietly (by subst after; exact awake)
  have own : (popped.serveNext config).wqs state.currentWorkType = rest := by
    rw [follows.wqs]
    subst after
    exact Function.update_self ..
  obtain ⟨more, pending, driving⟩ := follows.pending
  refine ⟨poppedListed.follows follows, paced, ?_, ?_, fun kind different => ?_,
    ⟨rest, head, .inr own⟩, ⟨extra ++ more, ?_, fun entry member => ?_⟩, fun _ => ?_,
    fun free credits => .inr ?_⟩
  · rw [follows.contexts, after]
  · rw [follows.now, after]
  · rw [follows.wqs, follows.qpSet, after]
    exact ⟨Function.update_of_ne different .., Function.update_of_ne different ..⟩
  · rw [pending, after, List.append_assoc]
  · rcases List.mem_append.1 member with again | driven
    · exact .inr (readded entry again)
    · exact .inl (driving entry driven)
  · rw [own]
    exact distinct.1
  · obtain ⟨⟨due, callback⟩, member⟩ := List.exists_mem_of_ne_nil _ (awaited free credits)
    refine ⟨due, ?_⟩
    rw [pending, after, ← readded _ member]
    exact List.mem_append_left _ (List.mem_append_right _ member)

/-- What `SendTransaction` decides, where a response was not served for a queue pair that is
blocked. -/
theorem after_send_spec (listed : ListedBut qpId state.currentWorkType state)
    (quiet : tokens state.pending = 0) (awake : state.isIdle = false)
    (head : state.wqs state.currentWorkType = qpId :: rest)
    (guarded : (state.contexts qpId).ordBlocked config = true →
      state.currentWorkType = .request) :
    Serves (state.afterSend config qpId) fun next =>
      Listed next ∧ Paced config next ∧ Sent config qpId state.currentWorkType state next := by
  unfold afterSend
  dsimp only
  refine serves_ite (fun blocked => ?_) fun free => serves_ite (fun continues => ?_) fun _ => ?_
  · have request := guarded blocked
    rw [← request, pop_serves head]
    refine serves_ok (popped_spec listed quiet awake head [] (by simp) (by simp) fun free => ?_)
    rw [blocked] at free
    cases free
  · have credits := continues.2.2
    have whole : Listed state := by
      refine ⟨listed.nodup, listed.listed, fun kind other member => ?_⟩
      rcases listed.working kind other member with ⟨rfl, rfl⟩ | work
      · exact has_work_of_has_credits credits
      · exact work
    refine serves_ok ⟨whole.follows (scheduled_follows (fun _ => True) _ trivial), ?_,
      rfl, rfl, fun _ _ => ⟨rfl, rfl⟩, ⟨rest, head, .inl head⟩, ⟨[_], rfl, by simp [isToken]⟩,
      fun blocked => absurd blocked free, fun _ _ => .inl ?_⟩
    · apply scheduled_paced
      · exact quiet
      · exact awake
      · rfl
      · rintro _ ⟨⟩
    · change qpId ∈ state.wqs state.currentWorkType
      rw [head]
      exact List.mem_cons_self
  · rw [pop_serves head]
    by_cases credits :
        (state.contexts qpId).hasCredits config.toSizeConfig state.currentWorkType = true
    · simp only [credits, if_true]
      exact serves_ok (popped_spec listed quiet awake head [_] (by simp) rfl fun _ _ => by simp)
    · simp only [credits]
      exact serves_ok (popped_spec listed quiet awake head [] (by simp) (by simp) fun _ with_ =>
        absurd with_ credits)

/-- The next transaction of a type. -/
def take (sizes : SizeConfig) (context : QpContext) : WorkType →
    Except Fault (QpContext × Packet × FalconCredit)
  | .request => context.takeRequest sizes
  | .response => context.takeResponse sizes

/-- A transaction of the queue pair was handed over. -/
structure Handed (config : Config) (qpId : Nat) (before after : State) : Prop where
  taken : ∃ context packet credit,
    take config.toSizeConfig (before.contexts qpId) before.currentWorkType =
      .ok (context, packet, credit) ∧
    after.contexts = Function.update before.contexts qpId
      (context.charged config packet credit before.now) ∧
    after.pending = before.pending ++
      [(before.now + config.schedulerPipelineDelayTime, .initiateTransaction qpId packet)]
  wqs : after.wqs = before.wqs
  qpSet : after.qpSet = before.qpSet
  now : after.now = before.now
  currentWorkType : after.currentWorkType = before.currentWorkType
  guarded : (after.contexts qpId).ordBlocked config = true → before.currentWorkType = .request

/-- A response leaves the queue pair as blocked as it was. -/
theorem response_blocked {taken : QpContext} {packet : Packet} {rest : List InboundReadRequest}
    (same : taken = { context with inboundReadRequestQueue := rest })
    (response : packet.opcode = .readResponseOnly) (credit : FalconCredit) (now : Nat) :
    (taken.charged config packet credit now).ordBlocked config = context.ordBlocked config := by
  subst same
  simp only [QpContext.ordBlocked, QpContext.charged, QpContext.headIsRead, response, reduceCtorEq,
    if_false]

theorem send_transaction_eq : state.sendTransaction config qpId =
    take config.toSizeConfig (state.contexts qpId) state.currentWorkType >>= fun taken =>
      state.handOver config qpId taken.1 taken.2.1 taken.2.2 >>= fun handed =>
        handed.afterSend config qpId := by
  unfold sendTransaction take
  cases state.currentWorkType <;> rfl

/-- `SendTransaction` for the queue pair at the head of the list that is served. -/
theorem send_spec (config : Config) (state : State) (listed : Listed state)
    (quiet : tokens state.pending = 0) (awake : state.isIdle = false)
    (front : (state.wqs state.currentWorkType).head? = some qpId)
    (guarded : state.currentWorkType = .response →
      (state.contexts qpId).ordBlocked config = false) :
    Serves (state.sendTransaction config qpId) fun next => Listed next ∧ Paced config next ∧
      ∃ handed, Handed config qpId state handed ∧
        Sent config qpId state.currentWorkType handed next := by
  obtain ⟨rest, head⟩ := List.head?_eq_some_iff.1 front
  have work := listed.working state.currentWorkType qpId (by rw [head]; exact List.mem_cons_self)
  have taking : Serves (take config.toSizeConfig (state.contexts qpId) state.currentWorkType)
      fun taken => take config.toSizeConfig (state.contexts qpId) state.currentWorkType = .ok taken ∧
        (∀ kind, kind ≠ state.currentWorkType → (state.contexts qpId).HasWork kind →
          (taken.1.charged config taken.2.1 taken.2.2 state.now).HasWork kind) ∧
        ((taken.1.charged config taken.2.1 taken.2.2 state.now).ordBlocked config = true →
          state.currentWorkType = .request) := by
    cases current : state.currentWorkType with
    | request =>
      rw [current] at work
      have served := take_request_serves config.toSizeConfig work
      refine ⟨served.1, fun taken done => ⟨done, fun kind different old => ?_, fun _ => rfl⟩⟩
      cases kind with
      | request => exact absurd rfl different
      | response =>
        change taken.1.inboundReadRequestQueue ≠ []
        rw [(served.2 taken done).1]
        exact old
    | response =>
      rw [current] at work
      have served := take_response_serves config.toSizeConfig work
      refine ⟨served.1, fun taken done => ⟨done, fun kind different old => ?_, fun blocked => ?_⟩⟩
      all_goals obtain ⟨request, later, queue, same, response, -⟩ := served.2 taken done
      · cases kind with
        | response => exact absurd rfl different
        | request =>
          change taken.1.sendQueue ≠ []
          rw [same]
          exact old
      · rw [response_blocked same response, guarded current] at blocked
        cases blocked
  rw [send_transaction_eq]
  refine taking.bind fun ⟨context, packet, credit⟩ ⟨taken, kept, request⟩ => ?_
  refine (hand_over_serves qpId packet credit).bind fun handed
    ⟨contexts, wqs, qpSet, now, idle, current, pending⟩ => ?_
  have listedHanded : ListedBut qpId handed.currentWorkType handed := by
    refine ⟨wqs ▸ listed.nodup, by rw [wqs, qpSet]; exact listed.listed,
      fun kind other member => ?_⟩
    rw [wqs] at member
    have old := listed.working kind other member
    rw [contexts]
    by_cases same : other = qpId
    · subst same
      by_cases own : kind = handed.currentWorkType
      · exact .inl ⟨own, rfl⟩
      · rw [Function.update_self]
        exact .inr (kept kind (current ▸ own) old)
    · rw [Function.update_of_ne same]
      exact .inr old
  have quietly : tokens handed.pending = 0 := by
    rw [pending, tokens_append, quiet]
    rfl
  have guard : (handed.contexts qpId).ordBlocked config = true →
      state.currentWorkType = .request := by
    rw [contexts, Function.update_self]
    exact request
  refine (after_send_spec listedHanded quietly (idle.trans awake) (by rw [wqs, current]; exact head)
    ?_).mono fun next ⟨lists, paced, sent⟩ => ⟨lists, paced, handed,
      ⟨⟨context, packet, credit, taken, contexts, pending⟩, wqs, qpSet, now, current, guard⟩,
      current ▸ sent⟩
  rw [current]
  exact guard

end Taking

/-! ## All events -/

/-- The lists are in order and the scheduler keeps its pace. -/
structure Sound (config : Config) (state : State) : Prop extends Listed state, Paced config state

section Events
variable {config : Config} {state : State}

/-- A queue pair may change as long as no queue runs empty. -/
theorem Sound.setContext (sound : Sound config state) (qpId : Nat) (context : QpContext)
    (kept : ∀ type, (state.contexts qpId).HasWork type → context.HasWork type) :
    Sound config (state.setContext qpId context) := by
  refine ⟨⟨sound.nodup, sound.listed, fun type other member => ?_⟩,
    ⟨sound.token, sound.front, sound.asleep⟩⟩
  simp only [State.setContext, Function.update_apply]
  split_ifs with same
  · exact kept type (same ▸ sound.working type other member)
  · exact sound.working type other member

/-- A callback that does not drive the scheduler may be scheduled. -/
theorem Sound.schedule (sound : Sound config state) (delay : Nat) {callback : Callback}
    (idle : isToken callback = false) : Sound config (state.schedule delay callback) := by
  refine ⟨⟨sound.nodup, sound.listed, sound.working⟩, ⟨?_, fun due qpId member => ?_,
    sound.asleep⟩⟩
  · refine (tokens_append _ _).trans ?_
    rw [sound.token, show tokens [(state.now + delay, callback)] = 0 by simp [tokens, idle]]
    rfl
  · rcases List.mem_append.1 member with old | new
    · exact sound.front due qpId old
    · rw [List.mem_singleton, Prod.mk.injEq] at new
      rw [← new.2] at idle
      cases idle

theorem tokens_erase {pending : List (Nat × Callback)} {entry : Nat × Callback}
    (member : entry ∈ pending) :
    tokens pending = tokens (pending.erase entry) + if isToken entry.2 then 1 else 0 := by
  rw [tokens, (List.perm_cons_erase member).countP_eq, List.countP_cons]
  rfl

/-- A callback that does not drive the scheduler may be taken out to run. -/
theorem Sound.erase (sound : Sound config state) {due : Nat} {callback : Callback}
    (member : (due, callback) ∈ state.pending) (idle : isToken callback = false) :
    Sound config { state with pending := state.pending.erase (due, callback) } := by
  refine ⟨⟨sound.nodup, sound.listed, sound.working⟩, ⟨?_, fun other qpId found => ?_,
    sound.asleep⟩⟩
  · have count := tokens_erase member
    rw [idle] at count
    exact count.symm.trans sound.token
  · exact sound.front other qpId (List.mem_of_mem_erase found)

/-- The callback that drives the scheduler is taken out: then none is left, and it was not idle. -/
theorem tokens_taken {idle : Bool} {pending : List (Nat × Callback)} {entry : Nat × Callback}
    (token : tokens pending = if idle then 0 else 1) (member : entry ∈ pending)
    (drives : isToken entry.2 = true) : tokens (pending.erase entry) = 0 ∧ idle = false := by
  have count := tokens_erase member
  rw [drives, if_pos rfl, token] at count
  cases idle with
  | false => exact ⟨by simpa using count.symm, rfl⟩
  | true => simp at count

/-- `AddQpToScheduleSet`, also where it is called only if there are credits. -/
theorem sound_add (sound : Sound config state) (qpId : Nat) (type : WorkType) :
    Serves (state.addQpToScheduleSet config qpId type) fun next =>
      Sound config next ∧ Added config qpId type state next :=
  (add_spec sound.toListed sound.toPaced qpId type).mono fun _ ⟨listed, paced, added⟩ =>
    ⟨⟨listed, paced⟩, added⟩

theorem Added.refl (waits : (state.contexts qpId).hasCredits config.toSizeConfig type = true →
      qpId ∈ state.wqs type ∨ ∃ due, (due, .addQpToScheduleSet qpId type) ∈ state.pending) :
    Added config qpId type state state :=
  ⟨rfl, rfl, fun _ => .inl rfl, ⟨[], by simp, by simp⟩, waits, .inl⟩

theorem sound_add_if (sound : Sound config state) (qpId : Nat) (type : WorkType) :
    Serves (state.addIfCredits config qpId type) fun next =>
      Sound config next ∧ Added config qpId type state next := by
  refine serves_ite (fun _ => sound_add sound qpId type) fun poor => serves_ok ⟨sound, ?_⟩
  exact Added.refl fun credits => absurd credits poor

theorem sound_wake (state : State) (listed : Listed state) (waking : Waking state) :
    Serves (state.wake config) fun next =>
      Sound config next ∧ Follows (isToken · = true) state next :=
  (wake_spec waking).mono fun _ ⟨follows, paced⟩ => ⟨⟨listed.follows follows, paced⟩, follows⟩

/-! ### What each event does -/

theorem post_has_work (context : QpContext) (op : RdmaOp) (work : context.HasWork type) :
    (context.post op).HasWork type := by
  unfold QpContext.post
  split_ifs
  · exact work
  · cases type with
    | request => exact List.append_ne_nil_of_right_ne_nil _ (List.cons_ne_nil _ _)
    | response => exact work

theorem post_op_spec (sound : Sound config state) (qpId : Nat) (op : RdmaOp) :
    Serves (state.postOp config qpId op) fun next => Sound config next ∧
      let middle := state.setContext qpId ((state.contexts qpId).post op)
      if ((state.contexts qpId).post op).sendQueue.length = 1 then
        Added config qpId .request middle next
      else next = middle := by
  have posted := sound.setContext qpId ((state.contexts qpId).post op)
    fun _ work => post_has_work _ op work
  unfold postOp
  dsimp only
  split_ifs
  · exact sound_add_if posted qpId .request
  · exact serves_ok ⟨posted, rfl⟩

theorem set_xoff_spec (sound : Sound config state) (requestXoff globalXoff : Bool) :
    Serves (state.setXoff config requestXoff globalXoff) fun next =>
      Sound config next ∧ Follows (isToken · = true) state next := by
  refine (sound_wake { state with requestXoff := requestXoff, globalXoff := globalXoff }
    ⟨sound.nodup, sound.listed, sound.working⟩ ⟨sound.token, sound.front⟩).mono
    fun next ⟨after, follows⟩ => ⟨after, ?_⟩
  exact ⟨follows.contexts, follows.wqs, follows.qpSet, follows.now, follows.pending⟩

theorem return_credit_spec (sound : Sound config state) (qpId : Nat) (credit : FalconCredit) :
    Serves (state.returnCredit config qpId credit) fun next => Sound config next ∧
      credit ≤ (state.contexts qpId).creditUsage ∧ ∃ first second,
        Added config qpId .request
          (state.setContext qpId ((state.contexts qpId).credited credit)) first ∧
        Added config qpId .response first second ∧ Follows (isToken · = true) second next := by
  refine serves_ite (fun within => ?_) fun _ => serves_error (by decide)
  have returned := sound.setContext qpId
    ((state.contexts qpId).credited credit) fun type work => by cases type <;> exact work
  refine (sound_add_if returned qpId .request).bind fun first ⟨one, requests⟩ => ?_
  refine (sound_add_if one qpId .response).bind fun second ⟨two, responses⟩ => ?_
  refine (sound_wake { second with
      remainingGlobalCredits := second.remainingGlobalCredits + credit }
    ⟨two.nodup, two.listed, two.working⟩ ⟨two.token, two.front⟩).mono
    fun next ⟨after, follows⟩ => ⟨after, within, first, second, requests, responses, ?_⟩
  exact ⟨follows.contexts, follows.wqs, follows.qpSet, follows.now, follows.pending⟩

theorem answered_has_work (context : QpContext) (rsn : UInt32) (id : Nat)
    (work : context.HasWork type) : (context.readAnswered rsn id).HasWork type := by
  cases type <;> exact work

theorem read_response_spec (sound : Sound config state) (qpId : Nat) (rsn : UInt32) :
    Serves (state.processIncomingReadResponse config qpId rsn) fun next => Sound config next ∧
      ∃ id, (state.contexts qpId).rsnToOp rsn = some id ∧
        let answered := (state.contexts qpId).readAnswered rsn id
        let middle := state.setContext qpId answered
        if QpContext.finished ((state.contexts qpId).ops id) ∧
            answered.outboundReadRequests < config.outboundReadQueueDepth ∧
            answered.headIsRead then Added config qpId .request middle next
        else next = middle := by
  unfold processIncomingReadResponse
  cases mapped : (state.contexts qpId).rsnToOp rsn with
  | none => simpa only [mapped] using serves_error (by decide)
  | some id =>
    have answered := sound.setContext qpId ((state.contexts qpId).readAnswered rsn id)
      fun _ work => answered_has_work _ rsn id work
    simp only [mapped]
    split_ifs with unblocked
    · exact (sound_add answered qpId .request).mono fun next ⟨after, added⟩ =>
        ⟨after, id, rfl, by rw [if_pos unblocked]; exact added⟩
    · exact serves_ok ⟨answered, id, rfl, by rw [if_neg unblocked]⟩

theorem completion_spec (sound : Sound config state) (qpId : Nat) (rsn : UInt32) :
    Serves (state.processCompletion qpId rsn) fun next => Sound config next ∧
      ∃ id, (state.contexts qpId).rsnToOp rsn = some id ∧
        next = state.setContext qpId ((state.contexts qpId).packetFinished rsn id) := by
  unfold processCompletion
  cases mapped : (state.contexts qpId).rsnToOp rsn with
  | none => simpa only [mapped] using serves_error (by decide)
  | some id =>
    simp only [mapped]
    exact serves_ok ⟨sound.setContext _ _ fun type work => by cases type <;> exact work,
      id, rfl, rfl⟩

theorem enqueue_spec (sound : Sound config state) (qpId : Nat) (request : InboundReadRequest) :
    Serves (state.enqueueReadRequest config qpId request) fun next => Sound config next ∧
      let middle := state.setContext qpId ((state.contexts qpId).enqueued request)
      if ((state.contexts qpId).enqueued request).inboundReadRequestQueue.length = 1 then
        Added config qpId .response middle next
      else next = middle := by
  have longer := sound.setContext qpId ((state.contexts qpId).enqueued request)
    fun type work => by
      cases type with
      | request => exact work
      | response => exact List.append_ne_nil_of_right_ne_nil _ (List.cons_ne_nil _ _)
  unfold enqueueReadRequest
  dsimp only
  split_ifs
  · exact sound_add_if longer qpId .response
  · exact serves_ok ⟨longer, rfl⟩

/-- What an event does. -/
def Happens (config : Config) (state : State) : Event → State → Prop
  | .postOp qpId opcode sgl inlinePayloadLength, next =>
    let posted := (state.contexts qpId).post { opcode, sgl, inlinePayloadLength }
    if posted.sendQueue.length = 1 then
      Added config qpId .request (state.setContext qpId posted) next
    else next = state.setContext qpId posted
  | .setXoff _ _, next => Follows (isToken · = true) state next
  | .returnCredit qpId credit, next =>
    credit ≤ (state.contexts qpId).creditUsage ∧ ∃ first second,
      Added config qpId .request
        (state.setContext qpId ((state.contexts qpId).credited credit)) first ∧
      Added config qpId .response first second ∧ Follows (isToken · = true) second next
  | .readRequestArrives qpId request refused, next =>
    next = state.processIncomingReadRequest config qpId request refused
  | .readResponseArrives qpId rsn, next =>
    ∃ id, (state.contexts qpId).rsnToOp rsn = some id ∧
      let answered := (state.contexts qpId).readAnswered rsn id
      if QpContext.finished ((state.contexts qpId).ops id) ∧
          answered.outboundReadRequests < config.outboundReadQueueDepth ∧ answered.headIsRead then
        Added config qpId .request (state.setContext qpId answered) next
      else next = state.setContext qpId answered
  | .completionArrives qpId rsn, next =>
    ∃ id, (state.contexts qpId).rsnToOp rsn = some id ∧
      next = state.setContext qpId ((state.contexts qpId).packetFinished rsn id)
  | .run due callback, next =>
    let taken := { state with pending := state.pending.erase (due, callback) }
    match callback with
    | .runWorkScheduler => Follows (isToken · = true) taken next
    | .sendTransaction qpId => (state.wqs state.currentWorkType).head? = some qpId ∧
        ∃ handed, Handed config qpId taken handed ∧
          Sent config qpId state.currentWorkType handed next
    | .addQpToScheduleSet qpId type => Added config qpId type taken next
    | .readdQp qpId _ => Added config qpId state.currentWorkType taken next
    | .initiateTransaction _ _ => next = taken
    | .ackReadRequest qpId request =>
      next = taken.schedule config.responseLatency (.enqueueReadRequest qpId request)
    | .enqueueReadRequest qpId request =>
      let longer := (state.contexts qpId).enqueued request
      if longer.inboundReadRequestQueue.length = 1 then
        Added config qpId .response (taken.setContext qpId longer) next
      else next = taken.setContext qpId longer
  | .tick, next => next = { state with now := state.now + 1 }

/-- A response is not served for a queue pair that has as many reads outstanding as it may and a read
at the head of its send queue. -/
def Unblocked (config : Config) (state : State) : Event → Prop
  | .run _ (.sendTransaction qpId) => state.currentWorkType = .response →
    (state.contexts qpId).ordBlocked config = false
  | _ => True

/-- Every event whose responses are not blocked keeps the lists and the pace. -/
theorem perform_spec (sound : Sound config state) {event : Event} (possible : state.Possible event)
    (unblocked : Unblocked config state event) :
    Serves (state.perform config event) fun next =>
      Sound config next ∧ Happens config state event next := by
  cases event with
  | postOp qpId opcode sgl inlinePayloadLength => exact post_op_spec sound qpId _
  | setXoff requestXoff globalXoff => exact set_xoff_spec sound requestXoff globalXoff
  | returnCredit qpId credit => exact return_credit_spec sound qpId credit
  | readRequestArrives qpId request refused =>
    refine serves_ok ⟨?_, rfl⟩
    unfold processIncomingReadRequest
    dsimp only
    split_ifs
    · exact sound
    · exact sound.schedule _ rfl
  | readResponseArrives qpId rsn => exact read_response_spec sound qpId rsn
  | completionArrives qpId rsn => exact completion_spec sound qpId rsn
  | run due callback =>
    have member := possible.1
    cases callback with
    | runWorkScheduler =>
      obtain ⟨quiet, -⟩ := tokens_taken sound.token member rfl
      have lists : Listed { state with pending := state.pending.erase (due, .runWorkScheduler) } :=
        ⟨sound.nodup, sound.listed, sound.working⟩
      exact (run_spec config { state with
        pending := state.pending.erase (due, .runWorkScheduler) } quiet).mono
        fun next ⟨follows, paced⟩ => ⟨⟨lists.follows follows, paced⟩, follows⟩
    | sendTransaction qpId =>
      obtain ⟨quiet, awake⟩ := tokens_taken sound.token member rfl
      have front := sound.front due qpId member
      exact (send_spec config { state with
        pending := state.pending.erase (due, .sendTransaction qpId) }
        ⟨sound.nodup, sound.listed, sound.working⟩ quiet awake front unblocked).mono
        fun next ⟨listed, paced, handed⟩ => ⟨⟨listed, paced⟩, front, handed⟩
    | addQpToScheduleSet qpId type => exact sound_add (sound.erase member rfl) qpId type
    | readdQp qpId served => exact sound_add (sound.erase member rfl) qpId _
    | initiateTransaction qpId packet => exact serves_ok ⟨sound.erase member rfl, rfl⟩
    | ackReadRequest qpId request =>
      exact serves_ok ⟨(sound.erase member rfl).schedule _ rfl, rfl⟩
    | enqueueReadRequest qpId request => exact enqueue_spec (sound.erase member rfl) qpId request
  | tick => exact serves_ok ⟨⟨⟨sound.nodup, sound.listed, sound.working⟩,
      ⟨sound.token, sound.front, sound.asleep⟩⟩, rfl⟩

theorem initial_sound (initial : State.Initial state) : Sound config state := by
  obtain ⟨-, wqs, qpSet, idle, pending⟩ := initial
  refine ⟨⟨fun type => ?_, fun type qpId => ?_, fun type qpId member => ?_⟩,
    ⟨?_, fun due qpId member => ?_, fun _ type => ?_⟩⟩
  · rw [wqs]
    exact List.nodup_nil
  · simp [wqs, qpSet]
  · simp [wqs] at member
  · rw [pending, idle]
    rfl
  · simp [pending] at member
  · simp [canSend, wqs]

theorem sound_of_reachable {condition : State → Event → Prop}
    (covers : ∀ state event, condition state event → Unblocked config state event)
    (reached : Runs.Reachable State.Initial (CoveredStep config condition) state) :
    Sound config state := by
  apply Runs.invariant_of_reachable _ _ reached
  · exact fun first initial => initial_sound initial
  · rintro before after sound ⟨event, possible, met, done⟩
    exact ((perform_spec sound possible (covers before event met)).2 after done).1

end Events

/-- In every run in which no response is served for a blocked queue pair, the lists and their sets
list the same queue pairs, each once and with work; no event takes the front of an empty queue; and
`SendTransaction` only changes the list it serves, of which it may take off the queue pair it served,
the head. -/
theorem lists_sound {config : Config} {state : State}
    (reached : Runs.Reachable State.Initial (CoveredStep config (Unblocked config)) state) :
    (∀ type, (state.wqs type).Nodup ∧ (∀ qpId, qpId ∈ state.wqs type ↔ qpId ∈ state.qpSet type) ∧
      ∀ qpId ∈ state.wqs type, (state.contexts qpId).HasWork type) ∧
    (∀ event, state.Possible event → Unblocked config state event →
      state.perform config event ≠ .error .emptyQueue) ∧
    ∀ due qpId next, state.Possible (.run due (.sendTransaction qpId)) →
      Unblocked config state (.run due (.sendTransaction qpId)) →
      state.perform config (.run due (.sendTransaction qpId)) = .ok next →
      (∃ rest, state.wqs state.currentWorkType = qpId :: rest ∧
        (next.wqs state.currentWorkType = qpId :: rest ∨ next.wqs state.currentWorkType = rest)) ∧
      ∀ type, type ≠ state.currentWorkType →
        next.wqs type = state.wqs type ∧ next.qpSet type = state.qpSet type := by
  have sound := sound_of_reachable (fun _ _ met => met) reached
  refine ⟨fun type => ⟨sound.nodup type, sound.listed type, sound.working type⟩,
    fun event possible unblocked => (perform_spec sound possible unblocked).1,
    fun due qpId next possible unblocked done => ?_⟩
  obtain ⟨-, -, handed, handedOver, sent⟩ :=
    (perform_spec sound possible unblocked).2 next done
  refine ⟨?_, fun type different => ?_⟩
  · have own := sent.own
    rwa [handedOver.wqs] at own
  · have others := sent.others type different
    rwa [handedOver.wqs, handedOver.qpSet] at others

/-! ## The queue pairs -/

/-- How an event changes a queue pair. -/
inductive Changed (config : Config) (state : State) : Event → Nat → QpContext → Prop
  | posted (qpId : Nat) (opcode : Roce.RdmaOpcode) (sgl : List UInt32) (inlinePayloadLength : UInt32) :
    Changed config state (.postOp qpId opcode sgl inlinePayloadLength) qpId
      ((state.contexts qpId).post { opcode, sgl, inlinePayloadLength })
  | credited (qpId : Nat) (credit : FalconCredit)
      (within : credit ≤ (state.contexts qpId).creditUsage) :
    Changed config state (.returnCredit qpId credit) qpId ((state.contexts qpId).credited credit)
  | answered (qpId : Nat) (rsn : UInt32) (id : Nat)
      (mapped : (state.contexts qpId).rsnToOp rsn = some id) :
    Changed config state (.readResponseArrives qpId rsn) qpId
      ((state.contexts qpId).readAnswered rsn id)
  | completed (qpId : Nat) (rsn : UInt32) (id : Nat)
      (mapped : (state.contexts qpId).rsnToOp rsn = some id) :
    Changed config state (.completionArrives qpId rsn) qpId
      ((state.contexts qpId).packetFinished rsn id)
  | sent (due qpId : Nat) (context : QpContext) (packet : Packet) (credit : FalconCredit)
      (taken : take config.toSizeConfig (state.contexts qpId) state.currentWorkType =
        .ok (context, packet, credit)) :
    Changed config state (.run due (.sendTransaction qpId)) qpId
      (context.charged config packet credit state.now)
  | enqueued (due qpId : Nat) (request : InboundReadRequest) :
    Changed config state (.run due (.enqueueReadRequest qpId request)) qpId
      ((state.contexts qpId).enqueued request)

section QueuePairs
variable {config : Config} {state : State}

/-- The operation leaves the queue pairs as they are. -/
def KeepsPairs (contexts : Nat → QpContext) (outcome : Except Fault State) : Prop :=
  Ensures outcome fun next => next.contexts = contexts

theorem run_keeps_pairs : KeepsPairs state.contexts (state.runWorkScheduler config) := by
  unfold runWorkScheduler dispatch
  dsimp only
  refine ensures_ite (fun _ => ensures_ok.2 rfl) fun _ => ?_
  refine ensures_ite (fun _ => ensures_ok.2 rfl) fun _ => ?_
  refine ensures_ite (fun _ => ensures_ok.2 rfl) fun _ => ?_
  split
  · exact ensures_error
  · exact ensures_ok.2 rfl

theorem wake_keeps_pairs : KeepsPairs state.contexts (state.wake config) :=
  ensures_ite (fun _ => run_keeps_pairs) fun _ => ensures_ok.2 rfl

theorem add_keeps_pairs :
    KeepsPairs state.contexts (state.addQpToScheduleSet config qpId type) := by
  unfold addQpToScheduleSet
  refine ensures_ite (fun _ => ensures_ok.2 rfl) fun _ => ?_
  refine ensures_ite (fun _ => ensures_ok.2 rfl) fun _ => ?_
  refine ensures_ite (fun _ => ensures_ok.2 rfl) fun _ => ?_
  exact wake_keeps_pairs

theorem add_if_keeps_pairs : KeepsPairs state.contexts (state.addIfCredits config qpId type) :=
  ensures_ite (fun _ => add_keeps_pairs) fun _ => ensures_ok.2 rfl

theorem pop_keeps_pairs : KeepsPairs state.contexts (state.popActive qpId type) := by
  unfold popActive
  split
  · exact ensures_error
  · exact ensures_ok.2 rfl

theorem serve_next_contexts : (state.serveNext config).contexts = state.contexts := by
  unfold serveNext updateWorkType
  dsimp only
  split_ifs <;> rfl

theorem after_send_keeps_pairs : KeepsPairs state.contexts (state.afterSend config qpId) := by
  unfold afterSend
  dsimp only
  refine ensures_ite (fun _ => ?_) fun _ => ensures_ite (fun _ => ensures_ok.2 rfl) fun _ => ?_
  · exact ensures_map.2 (pop_keeps_pairs.mono fun popped same => serve_next_contexts.trans same)
  · refine ensures_map.2 (pop_keeps_pairs.mono fun popped same => serve_next_contexts.trans ?_)
    split_ifs <;> exact same

theorem send_changes : Ensures (state.sendTransaction config qpId) fun next =>
    ∃ context packet credit, take config.toSizeConfig (state.contexts qpId) state.currentWorkType =
      .ok (context, packet, credit) ∧ next.contexts = Function.update state.contexts qpId
        (context.charged config packet credit state.now) := by
  rw [send_transaction_eq]
  refine ensures_bind fun ⟨context, packet, credit⟩ taken => ?_
  refine ensures_bind fun handed done => after_send_keeps_pairs.mono fun next same => ?_
  exact ⟨context, packet, credit, taken, same.trans ((hand_over_serves qpId packet credit).2 _ done).1⟩

/-- An event changes a queue pair in its own way or leaves it as it is. -/
theorem changed_of_perform {event : Event} : Ensures (state.perform config event) fun next =>
    ∀ qpId, next.contexts qpId = state.contexts qpId ∨
      Changed config state event qpId (next.contexts qpId) := by
  have one : ∀ (changed : Nat) (context : QpContext) (next : State),
      next.contexts = Function.update state.contexts changed context →
      Changed config state event changed context →
      ∀ qpId, next.contexts qpId = state.contexts qpId ∨
        Changed config state event qpId (next.contexts qpId) := by
    intro changed context next after change qpId
    rw [after]
    by_cases same : qpId = changed
    · subst same
      rw [Function.update_self]
      exact .inr change
    · exact .inl (Function.update_of_ne same ..)
  have none_ : ∀ outcome, KeepsPairs state.contexts outcome → Ensures outcome fun next =>
      ∀ qpId, next.contexts qpId = state.contexts qpId ∨
        Changed config state event qpId (next.contexts qpId) :=
    fun outcome keeps => keeps.mono fun next same qpId => .inl (congrFun same qpId)
  cases event with
  | postOp posting opcode sgl inlinePayloadLength =>
    have change : Changed config state _ posting _ :=
      .posted posting opcode sgl inlinePayloadLength
    refine ensures_ite (fun _ => ?_) fun _ => ensures_ok.2 (one posting _ _ rfl change)
    exact add_if_keeps_pairs.mono fun next same => one posting _ next same change
  | setXoff => exact none_ _ wake_keeps_pairs
  | returnCredit owner credit =>
    refine ensures_ite (fun within => ?_) fun _ => ensures_error
    refine ensures_bind fun first requests => ensures_bind fun second responses => ?_
    refine wake_keeps_pairs.mono fun next same => one owner _ next ?_ (.credited owner credit within)
    exact same.trans ((add_if_keeps_pairs _ responses).trans (add_if_keeps_pairs _ requests))
  | readRequestArrives owner request refused =>
    refine none_ _ (ensures_ok.2 ?_)
    unfold processIncomingReadRequest
    dsimp only
    split_ifs <;> rfl
  | readResponseArrives owner rsn =>
    unfold perform processIncomingReadResponse
    dsimp only
    split
    · exact ensures_error
    · rename_i id mapped
      refine ensures_ite (fun _ => add_keeps_pairs.mono fun next same => ?_) fun _ => ensures_ok.2 ?_
      · exact one owner _ next same (.answered owner rsn id mapped)
      · exact one owner _ _ rfl (.answered owner rsn id mapped)
  | completionArrives owner rsn =>
    unfold perform processCompletion
    dsimp only
    split
    · exact ensures_error
    · rename_i id mapped
      exact ensures_ok.2 (one owner _ _ rfl (.completed owner rsn id mapped))
  | run due callback =>
    cases callback with
    | runWorkScheduler => exact none_ _ run_keeps_pairs
    | sendTransaction served =>
      refine send_changes.mono fun next ⟨context, packet, credit, taken, contexts⟩ => ?_
      exact one served _ next contexts (.sent due served context packet credit taken)
    | addQpToScheduleSet owner type => exact none_ _ add_keeps_pairs
    | readdQp owner served => exact none_ _ add_keeps_pairs
    | initiateTransaction owner packet => exact none_ _ (ensures_ok.2 rfl)
    | ackReadRequest owner request => exact none_ _ (ensures_ok.2 rfl)
    | enqueueReadRequest owner request =>
      have change : Changed config state _ owner _ := .enqueued due owner request
      refine ensures_ite (fun _ => ?_) fun _ => ensures_ok.2 (one owner _ _ rfl change)
      exact add_if_keeps_pairs.mono fun next same => one owner _ next same change
  | tick => exact none_ _ (ensures_ok.2 rfl)

end QueuePairs

/-! ## Executed runs -/

instance (config : Config) (state : State) (event : Event) :
    Decidable (Unblocked config state event) := by
  delta Unblocked
  split <;> infer_instance

/-- The operation fails in this way. -/
def failsWith {A : Type} (fault : Fault) : Except Fault A → Bool
  | .error other => other = fault
  | .ok _ => false

theorem fails_with_iff {A : Type} {fault : Fault} {outcome : Except Fault A} :
    failsWith fault outcome = true ↔ outcome = .error fault := by
  cases outcome <;> simp [failsWith]

/-- The state after an event that can happen and meets a condition. -/
def tryEvent (config : Config) (condition : State → Event → Prop)
    [∀ state event, Decidable (condition state event)] (state : State) (event : Event) :
    Option State :=
  Runs.attempt (state.Possible event ∧ condition state event) (state.perform config event)

theorem reached_covered {config : Config} {condition : State → Event → Prop}
    [∀ state event, Decidable (condition state event)] {first : State} (initial : Initial first)
    {events : List Event} {test : State → Bool}
    (tested : (Runs.execute (tryEvent config condition) events first).any test = true) :
    ∃ state, Runs.Reachable Initial (CoveredStep config condition) state ∧ test state = true := by
  apply Runs.reached_with _ initial tested
  intro state event next done
  obtain ⟨⟨possible, met⟩, performed⟩ := Runs.attempt_eq_some.1 done
  exact ⟨event, possible, met, performed⟩

theorem step_of_covered {config : Config} {condition : State → Event → Prop} {state next : State}
    (covered : CoveredStep config condition state next) : State.Step config state next := by
  obtain ⟨event, possible, -, performed⟩ := covered
  exact ⟨event, possible, performed⟩

/-- What a run reaches, where nothing more is asked of its events. -/
theorem reached_by {config : Config} {first : State} (initial : Initial first)
    {events : List Event} {test : State → Bool}
    (tested : (Runs.execute (tryEvent config fun _ _ => True) events first).any test = true) :
    ∃ state, Runs.Reachable Initial (State.Step config) state ∧ test state = true := by
  obtain ⟨state, ⟨start, started, path⟩, passed⟩ := reached_covered initial tested
  have steps : Relation.ReflTransGen (State.Step config) start state :=
    Relation.ReflTransGen.mono (fun _ _ covered => step_of_covered covered) _ _ path
  exact ⟨state, ⟨start, started, steps⟩, passed⟩

/-- One outstanding read is allowed, and every transaction uses up the quanta. -/
def narrowConfig : Config :=
  { CreditRunProofs.smallConfig with
    outboundReadQueueDepth := 1, inboundReadQueueDepth := 1, workSchedulerQuanta := 1
    chipCycleTime := 1, schedulerPipelineDelayTime := 100, perQpInterOpGap := 1, ackNackLatency := 1
    responseLatency := 1, quantaRange := by decide }

/-- Queue pairs with credits for many packets. -/
def freshState : State :=
  { contexts := fun _ => { ops := fun _ => { opcode := .send }
                           creditLimit := ⟨99, 99, 99, 99, 99, 99⟩, creditUsage := 0 }
    remainingGlobalCredits := ⟨999, 999, 999, 999, 999, 999⟩
    txTokenBucket := AdmissionControl.TokenBucket.full 100000 1 100000 }

theorem fresh_state_initial : Initial freshState :=
  ⟨fun _ => ⟨rfl, rfl, fun _ => rfl, (by decide : (0 : FalconCredit) ≤ ⟨99, 99, 99, 99, 99, 99⟩), rfl,
    rfl⟩, fun _ => rfl, fun _ => rfl, rfl, rfl⟩

/-- The first of two reads is sent, and the other is held back. -/
def firstReadSent : List Event :=
  [.postOp 1 .read [100] 0, .postOp 1 .read [100] 0, .tick, .run 1 .runWorkScheduler,
    .run 1 (.sendTransaction 1), .tick, .run 2 .runWorkScheduler]

/-- A read request that the peer sends. -/
def inboundRead : InboundReadRequest := { rsn := 0, sgl := [100] }

/-- While a read is held back, the peer's read is answered and a write is active. -/
theorem lists_sound_responding :
    ∃ state : State, state.wqs .response = [1] ∧ 1 ∈ state.qpSet .response ∧
      (state.contexts 1).HasWork .response := by
  have tested : (Runs.execute (tryEvent narrowConfig (Unblocked narrowConfig))
      (firstReadSent ++ [.readRequestArrives 1 inboundRead false, .tick,
        .run 3 (.ackReadRequest 1 inboundRead), .tick, .run 4 (.enqueueReadRequest 1 inboundRead)])
      freshState).any (fun state => state.wqs .response = [1]) = true := by decide +kernel
  obtain ⟨state, reached, list⟩ := reached_covered fresh_state_initial tested
  have active : state.wqs .response = [1] := of_decide_eq_true list
  have sound := (lists_sound reached).1 .response
  have member : 1 ∈ state.wqs .response := by simp [active]
  exact ⟨state, active, (sound.2.1 1).1 member, sound.2.2 1 member⟩

/-- Where that response is served, the write loses its place in the list but not in the set, and the
next run of the scheduler takes the front of the empty queue of inbound reads. -/
theorem blocked_response_corrupts : ∃ state, Runs.Reachable Initial (State.Step narrowConfig) state ∧
    2 ∈ state.qpSet .request ∧ 2 ∉ state.wqs .request ∧ 1 ∈ state.wqs .response ∧
      (state.contexts 1).inboundReadRequestQueue = [] ∧
      state.Possible (.run 5 (.sendTransaction 1)) ∧
      state.perform narrowConfig (.run 5 (.sendTransaction 1)) = .error .emptyQueue := by
  have tested : (Runs.execute (tryEvent narrowConfig fun _ _ => True)
      (firstReadSent ++ [.readRequestArrives 1 inboundRead false, .tick,
        .run 3 (.ackReadRequest 1 inboundRead), .tick, .run 4 (.enqueueReadRequest 1 inboundRead),
        .postOp 2 .write [100] 0, .run 4 (.sendTransaction 1), .tick, .run 5 .runWorkScheduler])
      freshState).any (fun state => decide (2 ∈ state.qpSet .request ∧ 2 ∉ state.wqs .request ∧
        1 ∈ state.wqs .response ∧ (state.contexts 1).inboundReadRequestQueue = [] ∧
        state.Possible (.run 5 (.sendTransaction 1)) ∧
        failsWith .emptyQueue (state.perform narrowConfig (.run 5 (.sendTransaction 1))))) =
      true := by decide +kernel
  obtain ⟨state, reached, passed⟩ := reached_by fresh_state_initial tested
  obtain ⟨inSet, notInList, stale, empty, possible, fails⟩ := of_decide_eq_true passed
  exact ⟨state, reached, inSet, notInList, stale, empty, possible, fails_with_iff.1 fails⟩

end Isekai.RdmaSchedulerProofs
