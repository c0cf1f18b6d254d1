import Isekai.RdmaReadProofs

/-! The depths of the read queues: how many reads of a queue pair are outstanding and how many inbound
read requests it holds, in runs in which queue pairs are made active only when they may send and read
requests are accepted only when there is room for those on their way. -/

namespace Isekai.RdmaDepthProofs
open Outcomes RdmaFalcon RdmaFalcon.State RdmaSchedulerProofs RdmaReadProofs
open Roce (RdmaOpcode WorkType)

variable {type : WorkType} {owner qpId : Nat}

/-! ## Outbound reads -/

/-- No queue pair that is active for requests has to wait for its outstanding reads. -/
def Free (config : Config) (state : State) : Prop :=
  ∀ qpId ∈ state.wqs .request, (state.contexts qpId).ordBlocked config = false

/-- The counter covers the outstanding reads, and stays within the depth. -/
structure Limited (config : Config) (context : QpContext) : Prop where
  covered : context.outstandingReads.length ≤ context.outboundReadRequests.toNat
  within : context.outboundReadRequests ≤ config.outboundReadQueueDepth

section Lists
variable {config : Config} {state next : State}

theorem free_follows {allowed : Callback → Prop} (free : Free config state)
    (follows : Follows allowed state next) : Free config next := by
  intro qpId active
  rw [follows.wqs] at active
  rw [follows.contexts]
  exact free qpId active

/-- A queue pair that is added may send if it joins the list. -/
theorem free_added (free : Free config state) (added : Added config qpId type state next)
    (allowed : type = .request → Joins config state.now (state.contexts qpId) .request →
      (state.contexts qpId).ordBlocked config = false) : Free config next := by
  intro other active
  rw [added.contexts]
  rcases added.wqs .request with same | ⟨rfl, longer⟩
  · rw [same] at active
    exact free other active
  · have member := active
    rw [longer] at member
    rcases List.mem_append.1 member with old | new
    · exact free other old
    · obtain rfl := List.mem_singleton.1 new
      rcases added.joined active with old | joins
      · exact free other old
      · exact allowed rfl joins

theorem free_set (free : Free config state) (qpId : Nat) (context : QpContext)
    (kept : qpId ∈ state.wqs .request → (state.contexts qpId).ordBlocked config = false →
      context.ordBlocked config = false) : Free config (state.setContext qpId context) := by
  intro other active
  simp only [setContext, Function.update_apply]
  split_ifs with same
  · subst same
    exact kept active (free other active)
  · exact free other active

/-- The queue pair that was served is taken off the list if it has to wait. -/
theorem free_sent (free : Free config state)
    (handedOver : ∃ handed, Handed config qpId state handed ∧
      Sent config qpId state.currentWorkType handed next) : Free config next := by
  obtain ⟨handed, handedOver, sent⟩ := handedOver
  obtain ⟨context, packet, credit, -, contexts, -⟩ := handedOver.taken
  intro other active
  rw [sent.contexts]
  by_cases same : other = qpId
  · subst same
    by_contra blocked
    rw [Bool.not_eq_false] at blocked
    have request := handedOver.guarded blocked
    exact sent.blocked blocked (request ▸ active)
  · rw [contexts, Function.update_of_ne same]
    refine free other ?_
    rw [← handedOver.wqs]
    by_cases request : WorkType.request = state.currentWorkType
    · obtain ⟨rest, before, after⟩ := sent.own
      rw [← request] at before after
      rw [before]
      rcases after with kept | popped
      · rwa [kept] at active
      · rw [popped] at active
        exact List.mem_cons_of_mem _ active
    · rwa [(sent.others .request request).1] at active

end Lists

section Contexts
variable {config : Config} {context : QpContext}

theorem posted_blocked {op : RdmaOp} (known : Known context) (work : context.HasWork .request) :
    (context.post op).ordBlocked config = context.ordBlocked config := by
  unfold QpContext.post
  split_ifs
  · rfl
  · cases queue : context.sendQueue with
    | nil => exact absurd queue work
    | cons id rest =>
      have older : id ≠ context.nextOp := (known.queued id (by simp [queue])).ne
      simp [QpContext.ordBlocked, QpContext.headIsRead, queue, Function.update_of_ne older]

theorem outstanding_positive (known : Known context) (limited : Limited config context)
    {rsn : UInt32} {id : Nat} (mapped : context.rsnToOp rsn = some id)
    (read : (context.ops id).opcode = .read) : 1 ≤ context.outboundReadRequests := by
  apply UInt32.le_iff_toNat_le.2
  exact Nat.le_trans (mapped_outstanding known mapped read) limited.covered

/-- The answer to a read does not raise the counter. -/
theorem answered_outbound (rsn : UInt32) (id : Nat) (one : 1 ≤ context.outboundReadRequests) :
    (context.readAnswered rsn id).outboundReadRequests ≤ context.outboundReadRequests ∧
      context.outboundReadRequests.toNat ≤
        (context.readAnswered rsn id).outboundReadRequests.toNat + 1 := by
  change (if QpContext.finished (context.ops id) = true then context.outboundReadRequests - 1
    else context.outboundReadRequests) ≤ context.outboundReadRequests ∧
      context.outboundReadRequests.toNat ≤ (if QpContext.finished (context.ops id) = true then
        context.outboundReadRequests - 1 else context.outboundReadRequests).toNat + 1
  have sub := UInt32.toNat_sub_of_le _ _ one
  split_ifs
  · rw [UInt32.le_iff_toNat_le, sub]
    exact ⟨Nat.sub_le .., Nat.le_add_of_sub_le (Nat.le_refl _)⟩
  · exact ⟨UInt32.le_refl _, Nat.le_succ _⟩

theorem answered_blocked (known : Known context) (limited : Limited config context) {rsn : UInt32}
    {id : Nat} (mapped : context.rsnToOp rsn = some id) (read : (context.ops id).opcode = .read)
    (free : context.ordBlocked config = false) :
    (context.readAnswered rsn id).ordBlocked config = false := by
  have below := (answered_outbound rsn id (outstanding_positive known limited mapped read)).1
  have head : (context.readAnswered rsn id).headIsRead = context.headIsRead := by
    have finished : (context.packetFinished rsn id).headIsRead = context.headIsRead :=
      RdmaWakeupProofs.packet_finished_head
    exact finished
  unfold QpContext.ordBlocked at free ⊢
  rw [head]
  cases kind : context.headIsRead with
  | false => simp
  | true =>
    rw [kind, Bool.and_true, decide_eq_false_iff_not, UInt32.not_le] at free
    rw [Bool.and_true, decide_eq_false_iff_not, UInt32.not_le]
    exact UInt32.lt_of_le_of_lt below free

theorem answered_limited (known : Known context) (limited : Limited config context) {rsn : UInt32}
    {id : Nat} (mapped : context.rsnToOp rsn = some id) (read : (context.ops id).opcode = .read) :
    Limited config (context.readAnswered rsn id) := by
  have one := outstanding_positive known limited mapped read
  obtain ⟨below, near⟩ := answered_outbound rsn id one
  refine ⟨?_, UInt32.le_trans below limited.within⟩
  have shorter := List.length_erase_of_mem (known.outstanding rsn id mapped read)
  have positive := mapped_outstanding known mapped read
  have covered := limited.covered
  change (context.outstandingReads.erase rsn).length ≤ _
  omega

theorem requested_limited (limited : Limited config context) {taken : QpContext} {packet : Packet}
    {credit : FalconCredit} {now : Nat}
    (done : context.takeRequest config.toSizeConfig = .ok (taken, packet, credit))
    (free : context.ordBlocked config = false) :
    Limited config (taken.charged config packet credit now) := by
  obtain ⟨id, rest, left, queue, -, created, rfl⟩ := take_request_eq_ok done
  have kind := (created_packet created).2.1
  by_cases read : packet.opcode = .readRequest
  · have below : context.outboundReadRequests < config.outboundReadQueueDepth := by
      simpa [QpContext.ordBlocked, QpContext.headIsRead, queue, kind.1 read] using free
    have room := UInt32.lt_iff_toNat_lt.1 below
    have bound := config.outboundReadQueueDepth.toNat_lt
    have sum : (context.outboundReadRequests + 1).toNat = context.outboundReadRequests.toNat + 1 := by
      rw [UInt32.toNat_add]
      exact Nat.mod_eq_of_lt (Nat.lt_of_le_of_lt room bound)
    refine ⟨?_, ?_⟩
    · change (if packet.opcode = .readRequest then context.outstandingReads ++ [packet.rsn]
        else context.outstandingReads).length ≤ (if packet.opcode = .readRequest then
          context.outboundReadRequests + 1 else context.outboundReadRequests).toNat
      rw [if_pos read, if_pos read, sum, List.length_append]
      exact Nat.add_le_add_right limited.covered 1
    · change (if packet.opcode = .readRequest then context.outboundReadRequests + 1
        else context.outboundReadRequests) ≤ config.outboundReadQueueDepth
      rw [if_pos read, UInt32.le_iff_toNat_le, sum]
      exact room
  · have same : (QpContext.charged config (context.requested id rest packet left) packet credit
        now).outstandingReads = context.outstandingReads := if_neg read
    have counter : (QpContext.charged config (context.requested id rest packet left) packet credit
        now).outboundReadRequests = context.outboundReadRequests := if_neg read
    exact ⟨by rw [same, counter]; exact limited.covered, by rw [counter]; exact limited.within⟩

theorem responded_limited (limited : Limited config context) {taken : QpContext} {packet : Packet}
    {credit : FalconCredit} {now : Nat}
    (done : context.takeResponse config.toSizeConfig = .ok (taken, packet, credit)) :
    Limited config (taken.charged config packet credit now) := by
  obtain ⟨request, rest, -, rfl, response, -⟩ := take_response_eq_ok done
  have other : packet.opcode ≠ .readRequest := by simp [response]
  refine ⟨?_, ?_⟩
  · change (if packet.opcode = .readRequest then _ else context.outstandingReads).length ≤
      (if packet.opcode = .readRequest then _ else context.outboundReadRequests).toNat
    rw [if_neg other, if_neg other]
    exact limited.covered
  · change (if packet.opcode = .readRequest then _ else context.outboundReadRequests) ≤ _
    rw [if_neg other]
    exact limited.within

end Contexts

/-! ## Inbound reads -/

/-- The callbacks that an accepted read request of the queue pair waits for. -/
def isPiped (qpId : Nat) : Callback → Bool
  | .ackReadRequest owner _ | .enqueueReadRequest owner _ => owner = qpId
  | _ => false

/-- How many accepted read requests are on their way to the queue. -/
def piped (state : State) (qpId : Nat) : Nat :=
  state.pending.countP fun entry => isPiped qpId entry.2

/-- The read requests that wait for their responses, or will. -/
def load (state : State) (qpId : Nat) : Nat :=
  (state.contexts qpId).inboundReadRequestQueue.length + piped state qpId

section Loads
variable {config : Config} {state next : State} {qpId : Nat}

theorem piped_more {extra : List (Nat × Callback)} (pending : next.pending = state.pending ++ extra)
    (others : ∀ entry ∈ extra, isPiped qpId entry.2 = false) :
    piped next qpId = piped state qpId := by
  have none_ : extra.countP (fun entry => isPiped qpId entry.2) = 0 := by
    apply List.countP_eq_zero.2
    intro entry member
    simp [others entry member]
  rw [piped, pending, List.countP_append, none_]
  rfl

theorem not_piped_of_token {callback : Callback} (drives : isToken callback = true) :
    isPiped qpId callback = false := by
  cases callback <;> first | rfl | cases drives

theorem piped_follows (follows : Follows (isToken · = true) state next) :
    piped next qpId = piped state qpId := by
  obtain ⟨extra, pending, driving⟩ := follows.pending
  exact piped_more pending fun entry member => not_piped_of_token (driving entry member)

theorem piped_added (added : Added config owner type state next) :
    piped next qpId = piped state qpId := by
  obtain ⟨extra, pending, kinds⟩ := added.pending
  refine piped_more pending fun entry member => ?_
  rcases kinds entry member with drives | same
  · exact not_piped_of_token drives
  · rw [same]
    rfl

theorem piped_sent (sent : Sent config owner type state next) :
    piped next qpId = piped state qpId := by
  obtain ⟨extra, pending, kinds⟩ := sent.pending
  refine piped_more pending fun entry member => ?_
  rcases kinds entry member with drives | same
  · exact not_piped_of_token drives
  · rw [same]
    rfl

theorem piped_handed (handed : Handed config owner state next) :
    piped next qpId = piped state qpId := by
  obtain ⟨context, packet, credit, -, -, pending⟩ := handed.taken
  exact piped_more pending (by simp [isPiped])

/-- A callback is taken out to run. -/
theorem piped_erase {due : Nat} {callback : Callback} (member : (due, callback) ∈ state.pending) :
    piped state qpId = piped { state with pending := state.pending.erase (due, callback) } qpId +
      if isPiped qpId callback then 1 else 0 := by
  rw [piped, (List.perm_cons_erase member).countP_eq, List.countP_cons]
  rfl

theorem load_eq (contexts : next.contexts = state.contexts)
    (same : piped next qpId = piped state qpId) : load next qpId = load state qpId := by
  rw [load, load, contexts, same]

/-- Serving a transaction leaves no more inbound read requests than before. -/
theorem sent_inbound {context taken : QpContext} {packet : Packet} {credit : FalconCredit}
    {now : Nat} (done : take config.toSizeConfig context type = .ok (taken, packet, credit)) :
    (taken.charged config packet credit now).inboundReadRequestQueue.length ≤
      context.inboundReadRequestQueue.length := by
  cases type with
  | request =>
    obtain ⟨id, rest, left, -, -, -, rfl⟩ := take_request_eq_ok done
    exact Nat.le_refl _
  | response =>
    obtain ⟨request, rest, queue, rfl, -⟩ := take_response_eq_ok done
    rw [queue]
    exact Nat.le_succ _

/-- A queue pair changes apart from its inbound read requests. -/
theorem load_set {context : QpContext}
    (same : context.inboundReadRequestQueue = (state.contexts owner).inboundReadRequestQueue) :
    load (state.setContext owner context) qpId = load state qpId := by
  unfold load
  simp only [setContext, Function.update_apply]
  split_ifs with owned
  · rw [same, owned]
    rfl
  · rfl

theorem load_added (added : Added config owner type state next) :
    load next qpId = load state qpId := load_eq added.contexts (piped_added added)

theorem load_follows (follows : Follows (isToken · = true) state next) :
    load next qpId = load state qpId := load_eq follows.contexts (piped_follows follows)

/-- A queue pair is added, or nothing is to be added. -/
theorem load_if {condition : Prop} [Decidable condition] {middle : State}
    (done : if condition then Added config owner type middle next else next = middle) :
    load next qpId = load middle qpId := by
  split_ifs at done
  · exact load_added done
  · rw [done]

/-- Taking out a callback that no read request waits for leaves the load as it is. -/
theorem load_erase {due : Nat} {callback : Callback} (member : (due, callback) ∈ state.pending) :
    load state qpId = load { state with pending := state.pending.erase (due, callback) } qpId +
      if isPiped qpId callback then 1 else 0 := by
  rw [load, piped_erase member, ← Nat.add_assoc]
  rfl

theorem load_run {due : Nat} {callback : Callback} (member : (due, callback) ∈ state.pending)
    (happens : Happens config state (.run due callback) next) :
    load next qpId ≤ load state qpId := by
  rw [load_erase member]
  cases callback with
  | runWorkScheduler => exact Nat.le_of_eq (load_follows happens)
  | sendTransaction owner =>
    obtain ⟨-, handed, handedOver, sent⟩ := happens
    rw [load_eq sent.contexts (piped_sent sent), load, piped_handed handedOver]
    obtain ⟨context, packet, credit, taken, contexts, -⟩ := handedOver.taken
    refine Nat.add_le_add_right ?_ _
    rw [contexts, Function.update_apply]
    split_ifs with same
    · rw [same]
      exact sent_inbound taken
    · exact Nat.le_refl _
  | addQpToScheduleSet owner type => exact Nat.le_of_eq (load_added happens)
  | readdQp owner served => exact Nat.le_of_eq (load_added happens)
  | initiateTransaction owner packet => exact Nat.le_of_eq (by rw [happens]; rfl)
  | ackReadRequest owner request =>
    obtain rfl := happens
    rw [load, piped]
    simp only [schedule, List.countP_append, List.countP_singleton, ← Nat.add_assoc]
    exact Nat.le_refl _
  | enqueueReadRequest owner request =>
    rw [load_if happens, load, load]
    simp only [setContext, Function.update_apply, isPiped, decide_eq_true_eq]
    by_cases same : qpId = owner
    · subst same
      rw [if_pos rfl, if_pos rfl, QpContext.enqueued, List.length_append, List.length_singleton,
        Nat.add_right_comm]
      exact Nat.le_refl _
    · rw [if_neg same, if_neg fun equal => same equal.symm]
      exact Nat.le_refl _

/-- The load only grows where a read request is accepted. -/
theorem load_of_happens {event : Event} (possible : state.Possible event)
    (happens : Happens config state event next) : load next qpId ≤ load state qpId ∨
      (∃ request, event = .readRequestArrives qpId request false) ∧
        (state.contexts qpId).inboundReadRequestQueue.length < config.inboundReadQueueDepth.toNat ∧
        load next qpId = load state qpId + 1 := by
  cases event with
  | postOp owner opcode sgl inlinePayloadLength =>
    refine .inl (Nat.le_of_eq ((load_if happens).trans (load_set ?_)))
    unfold QpContext.post
    split_ifs <;> rfl
  | setXoff => exact .inl (Nat.le_of_eq (load_follows happens))
  | returnCredit owner credit =>
    obtain ⟨-, first, second, requests, responses, follows⟩ := happens
    rw [load_follows follows, load_added responses, load_added requests]
    exact .inl (Nat.le_of_eq (load_set rfl))
  | readRequestArrives owner request refused =>
    obtain rfl := happens
    unfold processIncomingReadRequest
    dsimp only
    split_ifs with closed
    · exact .inl (Nat.le_refl _)
    · rw [Bool.or_eq_true, decide_eq_true_eq, not_or, Bool.not_eq_true, Nat.not_le] at closed
      obtain ⟨accepted, room⟩ := closed
      by_cases same : owner = qpId
      · subst same
        refine .inr ⟨⟨request, by rw [accepted]⟩, room, ?_⟩
        simp only [load, piped, schedule, List.countP_append, List.countP_singleton, isPiped,
          decide_true, if_true]
        rfl
      · refine .inl (Nat.le_of_eq ?_)
        simp only [load, piped, schedule, List.countP_append, List.countP_singleton, isPiped, same,
          decide_false, Bool.false_eq_true, if_false]
        rfl
  | readResponseArrives owner rsn =>
    obtain ⟨id, -, answered⟩ := happens
    exact .inl (Nat.le_of_eq ((load_if answered).trans (load_set rfl)))
  | completionArrives owner rsn =>
    obtain ⟨id, -, rfl⟩ := happens
    exact .inl (Nat.le_of_eq (load_set rfl))
  | run due callback => exact .inl (load_run possible.1 happens)
  | tick => exact .inl (Nat.le_of_eq (by rw [happens]; rfl))

end Loads

/-! ## All events -/

/-- What is asked of an event: responses are not served for queue pairs that are blocked, a queue pair
that joins the requests may send its next one, and a read request is accepted only if there is room
for it next to those that are on their way. -/
def Restrained (config : Config) (state : State) (event : Event) : Prop :=
  Unblocked config state event ∧
    match event with
    | .postOp qpId opcode sgl inlinePayloadLength =>
      let posted := (state.contexts qpId).post { opcode, sgl, inlinePayloadLength }
      posted.sendQueue.length = 1 → Joins config state.now posted .request →
        posted.ordBlocked config = false
    | .returnCredit qpId credit =>
      Joins config state.now ((state.contexts qpId).credited credit) .request →
        (state.contexts qpId).ordBlocked config = false
    | .readRequestArrives qpId _ refused => refused = false →
      (state.contexts qpId).inboundReadRequestQueue.length < config.inboundReadQueueDepth.toNat →
        load state qpId < config.inboundReadQueueDepth.toNat
    | .run _ (.addQpToScheduleSet qpId .request) =>
      Joins config state.now (state.contexts qpId) .request →
        (state.contexts qpId).ordBlocked config = false
    | .run _ (.readdQp qpId _) => state.currentWorkType = .request →
      Joins config state.now (state.contexts qpId) .request →
        (state.contexts qpId).ordBlocked config = false
    | _ => True

section Events
variable {config : Config} {state next : State}

theorem free_if {condition : Prop} [Decidable condition] {middle : State}
    (done : if condition then Added config qpId type middle next else next = middle)
    (free : Free config middle) (allowed : condition → type = .request →
      Joins config middle.now (middle.contexts qpId) .request →
        (middle.contexts qpId).ordBlocked config = false) : Free config next := by
  split_ifs at done with met
  · exact free_added free done (allowed met)
  · rw [done]
    exact free

theorem free_kept {event : Event} (sound : Sound config state)
    (known : ∀ qpId, Known (state.contexts qpId))
    (limited : ∀ qpId, Limited config (state.contexts qpId)) (free : Free config state)
    (possible : state.Possible event) (restrained : Restrained config state event)
    (happens : Happens config state event next) : Free config next := by
  have own : ∀ (qpId : Nat) (context : QpContext),
      (state.setContext qpId context).contexts qpId = context :=
    fun qpId context => Function.update_self ..
  cases event with
  | postOp qpId opcode sgl inlinePayloadLength =>
    refine free_if happens (free_set free qpId _ fun active old => ?_) fun first _ joins => ?_
    · rw [posted_blocked (known qpId) (sound.working .request qpId active)]
      exact old
    · rw [own] at joins ⊢
      exact restrained.2 first joins
  | setXoff => exact free_follows free happens
  | returnCredit qpId credit =>
    obtain ⟨-, first, second, requests, responses, follows⟩ := happens
    have returned : Free config (state.setContext qpId ((state.contexts qpId).credited credit)) :=
      free_set free qpId _ fun _ old => old
    have one : Free config first := by
      refine free_added returned requests fun _ joins => ?_
      rw [own] at joins ⊢
      exact restrained.2 joins
    exact free_follows (free_added one responses fun same => by cases same) follows
  | readRequestArrives qpId request refused =>
    obtain rfl := happens
    unfold processIncomingReadRequest
    dsimp only
    split_ifs <;> exact free
  | readResponseArrives qpId rsn =>
    obtain ⟨id, mapped, answered⟩ := happens
    simp only [Possible, opcodeOf, mapped, Option.map_some, Option.some.injEq] at possible
    refine free_if answered (free_set free qpId _ fun _ old => ?_) fun unblocked _ _ => ?_
    · exact answered_blocked (known qpId) (limited qpId) mapped possible old
    · rw [own, QpContext.ordBlocked, decide_eq_false (UInt32.not_le.2 unblocked.2.1)]
      rfl
  | completionArrives qpId rsn =>
    obtain ⟨id, -, rfl⟩ := happens
    refine free_set free qpId _ fun _ old => ?_
    rw [QpContext.ordBlocked, RdmaWakeupProofs.packet_finished_head]
    exact old
  | run due callback =>
    have taken : Free config { state with pending := state.pending.erase (due, callback) } := free
    cases callback with
    | runWorkScheduler => exact free_follows taken happens
    | sendTransaction qpId => exact free_sent taken happens.2
    | addQpToScheduleSet qpId type =>
      refine free_added taken happens ?_
      rintro rfl joins
      exact restrained.2 joins
    | readdQp qpId served => exact free_added taken happens restrained.2
    | initiateTransaction qpId packet =>
      obtain rfl := happens
      exact free
    | ackReadRequest qpId request =>
      obtain rfl := happens
      exact free
    | enqueueReadRequest qpId request =>
      exact free_if happens (free_set taken qpId _ fun _ old => old) fun _ same => by cases same
  | tick =>
    obtain rfl := happens
    exact free

theorem limited_of_changed {event : Event} {context : QpContext} (sound : Sound config state)
    (known : Known (state.contexts qpId)) (limited : Limited config (state.contexts qpId))
    (free : Free config state) (possible : state.Possible event)
    (changed : Changed config state event qpId context) : Limited config context := by
  cases changed with
  | posted _ opcode sgl inlinePayloadLength =>
    unfold QpContext.post
    split_ifs <;> exact ⟨limited.covered, limited.within⟩
  | credited _ credit => exact ⟨limited.covered, limited.within⟩
  | answered _ rsn id mapped =>
    simp only [Possible, opcodeOf, mapped, Option.map_some, Option.some.injEq] at possible
    exact answered_limited known limited mapped possible
  | completed _ rsn id => exact ⟨limited.covered, limited.within⟩
  | sent due _ taken packet credit done =>
    have front := sound.front due qpId possible.1
    cases current : state.currentWorkType <;> rw [current] at done front
    · exact requested_limited limited done (free qpId (List.mem_of_mem_head? front))
    · exact responded_limited limited done
  | enqueued due _ request => exact ⟨limited.covered, limited.within⟩

end Events

/-- In every run whose events are restrained, no queue pair has more reads outstanding, nor holds more
inbound read requests, than the depths of its queues. -/
theorem depths_kept {config : Config} {state : State}
    (reached : Runs.Reachable State.Initial (CoveredStep config (Restrained config)) state)
    (qpId : Nat) :
    (state.contexts qpId).outstandingReads.length ≤ config.outboundReadQueueDepth.toNat ∧
      (state.contexts qpId).inboundReadRequestQueue.length ≤ config.inboundReadQueueDepth.toNat := by
  have sound : ∀ state, Runs.Reachable State.Initial (CoveredStep config (Restrained config))
      state → Sound config state := fun _ => sound_of_reachable fun _ _ covered => covered.1
  have kept : Free config state ∧ ∀ qpId, Known (state.contexts qpId) ∧
      Limited config (state.contexts qpId) ∧ load state qpId ≤ config.inboundReadQueueDepth.toNat := by
    apply Runs.invariant_of_reachable_with sound _ _ reached
    · intro first initial
      refine ⟨fun qpId active => ?_, fun qpId => ?_⟩
      · simp [initial.2.1] at active
      · obtain ⟨queue, inbound, unmapped, -, outbound, outstanding⟩ := initial.1 qpId
        refine ⟨⟨?_, ?_, ?_⟩, ⟨?_, ?_⟩, ?_⟩
        · simp [queue]
        · simp [unmapped]
        · simp [unmapped]
        · simp [outstanding]
        · simp [outbound, UInt32.le_iff_toNat_le]
        · simp [load, piped, inbound, initial.2.2.2.2]
    · rintro before after sound ⟨free, pairs⟩ ⟨event, possible, restrained, done⟩
      have happens := ((perform_spec sound possible restrained.1).2 after done).2
      refine ⟨free_kept sound (fun qpId => (pairs qpId).1) (fun qpId => (pairs qpId).2.1) free
        possible restrained happens, fun qpId => ?_⟩
      obtain ⟨known, limited, room⟩ := pairs qpId
      have loads : load after qpId ≤ config.inboundReadQueueDepth.toNat := by
        have grown : load after qpId ≤ load before qpId ∨ _ := load_of_happens possible happens
        rcases grown with less | ⟨⟨request, rfl⟩, open_, more⟩
        · exact Nat.le_trans less room
        · rw [more]
          exact restrained.2 rfl open_
      rcases changed_of_perform after done qpId with same | changed
      · rw [same]
        exact ⟨known, limited, loads⟩
      · exact ⟨known_of_changed known changed,
          limited_of_changed sound known limited free possible changed, loads⟩
  obtain ⟨-, limited, room⟩ := kept.2 qpId
  refine ⟨Nat.le_trans limited.covered (UInt32.le_iff_toNat_le.1 limited.within), ?_⟩
  exact Nat.le_trans (Nat.le_add_right ..) room

instance (config : Config) (state : State) :
    (event : Event) → Decidable (Restrained config state event)
  | .postOp .. | .setXoff .. | .returnCredit .. | .readRequestArrives .. | .readResponseArrives ..
  | .completionArrives .. | .tick | .run _ .runWorkScheduler | .run _ (.sendTransaction _)
  | .run _ (.addQpToScheduleSet _ .request) | .run _ (.addQpToScheduleSet _ .response)
  | .run _ (.readdQp ..) | .run _ (.initiateTransaction ..) | .run _ (.ackReadRequest ..)
  | .run _ (.enqueueReadRequest ..) => inferInstanceAs (Decidable (_ ∧ _))

/-- One read is outstanding and one inbound read request is held, as many as there may be. -/
theorem depths_kept_full : ∃ state : State, (state.contexts 1).outstandingReads = [0] ∧
    (state.contexts 1).inboundReadRequestQueue = [inboundRead] ∧
    (state.contexts 1).outstandingReads.length ≤ 1 ∧
    (state.contexts 1).inboundReadRequestQueue.length ≤ 1 := by
  have tested : (Runs.execute (tryEvent narrowConfig (Restrained narrowConfig))
      (firstReadSent ++ [.readRequestArrives 1 inboundRead false, .tick,
        .run 3 (.ackReadRequest 1 inboundRead), .tick, .run 4 (.enqueueReadRequest 1 inboundRead)])
      freshState).any (fun state => decide ((state.contexts 1).outstandingReads = [0] ∧
        (state.contexts 1).inboundReadRequestQueue = [inboundRead])) = true := by decide +kernel
  obtain ⟨state, reached, passed⟩ := reached_covered fresh_state_initial tested
  obtain ⟨outstanding, held⟩ := of_decide_eq_true passed
  exact ⟨state, outstanding, held, depths_kept reached 1⟩

/-- A read that is posted to an empty send queue is sent while one is outstanding, and two read
requests are accepted before the first is enqueued. -/
theorem depths_exceeded :
    (∃ state, Runs.Reachable Initial (State.Step narrowConfig) state ∧
      narrowConfig.outboundReadQueueDepth.toNat < (state.contexts 1).outstandingReads.length) ∧
    ∃ state, Runs.Reachable Initial (State.Step narrowConfig) state ∧
      narrowConfig.inboundReadQueueDepth.toNat <
        (state.contexts 1).inboundReadRequestQueue.length := by
  have sent : (Runs.execute (tryEvent narrowConfig fun _ _ => True)
      [.postOp 1 .read [100] 0, .tick, .run 1 .runWorkScheduler, .run 1 (.sendTransaction 1), .tick,
        .run 2 .runWorkScheduler, .postOp 1 .read [100] 0, .run 2 (.sendTransaction 1)]
      freshState).any (fun state => decide (1 < (state.contexts 1).outstandingReads.length)) =
        true := by decide +kernel
  have accepted : (Runs.execute (tryEvent narrowConfig fun _ _ => True)
      [.readRequestArrives 1 inboundRead false, .readRequestArrives 1 inboundRead false, .tick,
        .run 1 (.ackReadRequest 1 inboundRead), .run 1 (.ackReadRequest 1 inboundRead), .tick,
        .run 2 (.enqueueReadRequest 1 inboundRead), .run 2 (.enqueueReadRequest 1 inboundRead)]
      freshState).any (fun state =>
        decide (1 < (state.contexts 1).inboundReadRequestQueue.length)) = true := by decide +kernel
  obtain ⟨one, reachedOne, more⟩ := reached_by fresh_state_initial sent
  obtain ⟨other, reachedOther, longer⟩ := reached_by fresh_state_initial accepted
  exact ⟨⟨one, reachedOne, of_decide_eq_true more⟩, other, reachedOther, of_decide_eq_true longer⟩

end Isekai.RdmaDepthProofs
