import Isekai.CreditChecks
import Isekai.RdmaSchedulerProofs
import Mathlib.Algebra.Order.BigOperators.Group.Finset

/-! The global credits and the tokens of the RDMA work scheduler in every run. What was checked when
a queue pair was looked up is still there when its transaction is cut, since one lookup goes on at a
time and only a transaction takes credits or tokens. -/

namespace Isekai.CreditCheckRuns
open Outcomes RdmaFalcon RdmaFalcon.State CreditProofs CreditChecks
open RdmaSchedulerProofs (isToken tokens tokens_append tokens_erase tokens_taken can_send_chosen
  not_pending_of_quiet take take_request_eq_ok send_transaction_eq)
open Roce (RdmaOpcode WorkType)

variable {qpId : Nat} {context : QpContext}

/-! ## What is there when a transaction is cut -/

/-- One callback drives the scheduler unless it is idle, and while a queue pair is looked up the
credits and the tokens that were checked for it are there. -/
structure Ready (config : Config) (state : State) : Prop where
  token : tokens state.pending = if state.isIdle then 0 else 1
  credits : ∀ due qpId, (due, .sendTransaction qpId) ∈ state.pending →
    minimumCredit config state.currentWorkType ≤ state.remainingGlobalCredits
  bytes : ∀ due qpId, (due, .sendTransaction qpId) ∈ state.pending →
    config.rdmaMtu.toNat + 28 ≤ state.txTokenBucket.availableTokens

/-- The queue pairs and the global credits are the same. -/
structure SamePools (before after : State) : Prop where
  contexts : after.contexts = before.contexts
  remaining : after.remainingGlobalCredits = before.remainingGlobalCredits

theorem SamePools.trans {before middle after : State} (one : SamePools before middle)
    (two : SamePools middle after) : SamePools before after :=
  ⟨two.contexts.trans one.contexts, two.remaining.trans one.remaining⟩

section Scheduling
variable {config : Config} {state : State}

theorem running_ready (quiet : tokens state.pending = 0) (awake : state.isIdle = false)
    (delay : Nat) : Ready config (state.schedule delay .runWorkScheduler) := by
  have none_ : ∀ due qpId,
      (due, .sendTransaction qpId) ∉ (state.schedule delay .runWorkScheduler).pending := by
    intro due qpId member
    rcases List.mem_append.1 member with old | new
    · exact not_pending_of_quiet quiet rfl old
    · simp at new
  refine ⟨?_, fun due qpId member => absurd member (none_ due qpId),
    fun due qpId member => absurd member (none_ due qpId)⟩
  simp only [schedule, tokens_append, quiet, awake]
  rfl

/-- A callback that does not drive the scheduler is scheduled. -/
theorem Ready.schedule (ready : Ready config state) (delay : Nat) {callback : Callback}
    (other : isToken callback = false) : Ready config (state.schedule delay callback) := by
  have old : ∀ due qpId, (due, .sendTransaction qpId) ∈ (state.schedule delay callback).pending →
      (due, .sendTransaction qpId) ∈ state.pending := by
    intro due qpId member
    rcases List.mem_append.1 member with before | new
    · exact before
    · rw [List.mem_singleton, Prod.mk.injEq] at new
      rw [← new.2] at other
      cases other
  refine ⟨?_, fun due qpId member => ready.credits due qpId (old due qpId member),
    fun due qpId member => ready.bytes due qpId (old due qpId member)⟩
  refine (tokens_append _ _).trans ?_
  rw [ready.token, show tokens [(state.now + delay, callback)] = 0 by simp [tokens, other]]
  rfl

theorem dispatch_ready (quiet : tokens state.pending = 0) (awake : state.isIdle = false)
    (able : ∃ type, state.canSend config type = true)
    (bytes : config.rdmaMtu.toNat + 28 ≤ state.txTokenBucket.availableTokens) :
    Ensures (state.dispatch config) fun next => Ready config next ∧ SamePools state next := by
  unfold dispatch
  generalize chosen : (if state.canSend config state.currentWorkType = true then
    state.currentWorkType else other state.currentWorkType) = current
  have sendable : state.canSend config current = true := chosen ▸ can_send_chosen able
  have credits : minimumCredit config current ≤ state.remainingGlobalCredits := by
    simp only [canSend, Bool.and_eq_true, decide_eq_true_eq] at sendable
    exact sendable.2
  dsimp only
  split
  · exact ensures_error
  · refine ensures_ok.2 ⟨⟨?_, fun _ _ _ => credits, fun _ _ _ => bytes⟩, rfl, rfl⟩
    simp only [schedule, tokens_append, quiet, awake]
    rfl

/-- A run of the scheduler where no callback drives it. -/
theorem run_ready (quiet : tokens state.pending = 0) :
    Ensures (state.runWorkScheduler config) fun next =>
      Ready config next ∧ SamePools state next := by
  have rescheduled : ∀ (bucket : AdmissionControl.TokenBucket) (delay : Nat),
      Ensures (.ok (({ state with isIdle := false, txTokenBucket := bucket } : State).schedule delay
        .runWorkScheduler) : Except Fault State) fun next =>
          Ready config next ∧ SamePools state next := by
    intro bucket delay
    refine ensures_ok.2 ⟨?_, rfl, rfl⟩
    apply running_ready
    · exact quiet
    · rfl
  unfold runWorkScheduler
  dsimp only
  refine ensures_ite (fun _ => rescheduled state.txTokenBucket _) fun _ => ?_
  refine ensures_ite (fun _ => rescheduled _ _) fun passed => ?_
  refine ensures_ite (fun _ => ?_) fun able => ?_
  · refine ensures_ok.2 ⟨⟨quiet, fun due qpId member => ?_, fun due qpId member => ?_⟩, rfl, rfl⟩
    · exact absurd member (not_pending_of_quiet quiet rfl)
    · exact absurd member (not_pending_of_quiet quiet rfl)
  · have bytes : config.rdmaMtu.toNat + 28 ≤
        (state.txTokenBucket.areTokensAvailable (config.rdmaMtu + rdmaHeader).toNat
          state.now).2.availableTokens := by
      rw [← checked_tokens]
      simpa [AdmissionControl.TokenBucket.areTokensAvailable] using passed
    refine (dispatch_ready ?_ ?_ ?_ bytes).mono ?_
    rotate_right
    · rintro next ⟨ready, same⟩
      exact ⟨ready, same.contexts, same.remaining⟩
    · exact quiet
    · rfl
    · simp only [Bool.and_eq_true, Bool.not_eq_true', not_and_or, Bool.not_eq_false] at able
      rcases able with request | response
      · exact ⟨.request, request⟩
      · exact ⟨.response, response⟩

theorem wake_ready (ready : Ready config state) :
    Ensures (state.wake config) fun next => Ready config next ∧ SamePools state next := by
  unfold wake
  refine ensures_ite (fun idle => run_ready ?_) fun _ => ensures_ok.2 ⟨ready, rfl, rfl⟩
  rw [ready.token, if_pos idle]

theorem add_ready (ready : Ready config state) (qpId : Nat) (type : WorkType) :
    Ensures (state.addQpToScheduleSet config qpId type) fun next =>
      Ready config next ∧ SamePools state next := by
  unfold addQpToScheduleSet
  refine ensures_ite (fun _ => ensures_ok.2 ⟨ready.schedule _ rfl, rfl, rfl⟩) fun _ => ?_
  refine ensures_ite (fun _ => ensures_ok.2 ⟨ready, rfl, rfl⟩) fun _ => ?_
  refine ensures_ite (fun _ => ensures_ok.2 ⟨ready, rfl, rfl⟩) fun _ => ?_
  refine (wake_ready ?_).mono fun next ⟨woken, same⟩ => ⟨woken, same.contexts, same.remaining⟩
  exact ⟨ready.token, ready.credits, ready.bytes⟩

theorem add_if_ready (ready : Ready config state) (qpId : Nat) (type : WorkType) :
    Ensures (state.addIfCredits config qpId type) fun next =>
      Ready config next ∧ SamePools state next :=
  ensures_ite (fun _ => add_ready ready qpId type) fun _ => ensures_ok.2 ⟨ready, rfl, rfl⟩

/-- A queue pair changes. -/
theorem Ready.setContext (ready : Ready config state) (qpId : Nat) (context : QpContext) :
    Ready config (state.setContext qpId context) :=
  ⟨ready.token, ready.credits, ready.bytes⟩

/-- A callback that does not drive the scheduler is taken out to run. -/
theorem Ready.erase (ready : Ready config state) {due : Nat} {callback : Callback}
    (member : (due, callback) ∈ state.pending) (other : isToken callback = false) :
    Ready config { state with pending := state.pending.erase (due, callback) } := by
  have count := tokens_erase member
  rw [other] at count
  exact ⟨count.symm.trans ready.token,
    fun due qpId found => ready.credits due qpId (List.mem_of_mem_erase found),
    fun due qpId found => ready.bytes due qpId (List.mem_of_mem_erase found)⟩

theorem serve_next_ready (quiet : tokens state.pending = 0) (awake : state.isIdle = false) :
    Ready config (state.serveNext config) ∧ SamePools state (state.serveNext config) := by
  unfold serveNext updateWorkType
  dsimp only
  split_ifs
  all_goals
    refine ⟨?_, rfl, rfl⟩
    apply running_ready
    · exact quiet
    · exact awake

theorem after_send_ready (quiet : tokens state.pending = 0) (awake : state.isIdle = false) :
    Ensures (state.afterSend config qpId) fun next =>
      Ready config next ∧ SamePools state next := by
  have popping : ∀ type, Ensures (state.popActive qpId type) fun popped =>
      tokens popped.pending = 0 ∧ popped.isIdle = false ∧ SamePools state popped := by
    intro type
    unfold popActive
    split
    · exact ensures_error
    · exact ensures_ok.2 ⟨quiet, awake, rfl, rfl⟩
  unfold afterSend
  dsimp only
  refine ensures_ite (fun _ => ?_) fun _ => ensures_ite (fun _ => ?_) fun _ => ?_
  · refine ensures_map.2 ((popping _).mono fun popped ⟨quietly, awake, same⟩ => ?_)
    obtain ⟨ready, pools⟩ := @serve_next_ready config popped quietly awake
    exact ⟨ready, same.trans pools⟩
  · exact ensures_ok.2 ⟨running_ready quiet awake _, rfl, rfl⟩
  · refine ensures_map.2 ((popping _).mono fun popped ⟨quietly, awake, same⟩ => ?_)
    split_ifs
    · have still : tokens (popped.schedule ((state.contexts qpId).nextScheduleTime - popped.now)
          (.readdQp qpId state.currentWorkType)).pending = 0 := by
        simp only [State.schedule, tokens_append, quietly]
        rfl
      obtain ⟨ready, pools⟩ := @serve_next_ready config _ still awake
      exact ⟨ready, same.trans ⟨pools.contexts, pools.remaining⟩⟩
    · obtain ⟨ready, pools⟩ := @serve_next_ready config popped quietly awake
      exact ⟨ready, same.trans pools⟩

end Scheduling

/-! ## Sending -/

/-- The transaction that an event cuts fits the checks. -/
def Fitting (config : Config) (state : State) : Event → Prop
  | .run _ (.sendTransaction qpId) =>
    match state.currentWorkType with
    | .request => ∀ id ∈ (state.contexts qpId).sendQueue.head?,
      RequestFits config.toSizeConfig ((state.contexts qpId).ops id)
    | .response => ∀ request ∈ (state.contexts qpId).inboundReadRequestQueue.head?,
      ResponseFits config.toSizeConfig request
  | _ => True

section Sending
variable {config : Config} {state : State} {due qpId : Nat} {context : QpContext} {packet : Packet}
  {credit : FalconCredit}

/-- A transaction that fits is covered, and taking it changes no credits in use. -/
theorem taken_covered (fitting : Fitting config state (.run due (.sendTransaction qpId)))
    (taken : take config.toSizeConfig (state.contexts qpId) state.currentWorkType =
      .ok (context, packet, credit)) :
    Covered config state.currentWorkType credit packet ∧
      context.creditUsage = (state.contexts qpId).creditUsage := by
  unfold Fitting at fitting
  cases current : state.currentWorkType with
  | request =>
    rw [current] at fitting taken
    obtain ⟨id, rest, left, queue, computed, created, rfl⟩ := take_request_eq_ok taken
    have fits := fitting id (by simp [queue])
    exact ⟨(request_covered_iff computed created).2 fits, rfl⟩
  | response =>
    rw [current] at fitting taken
    rw [take, QpContext.takeResponse] at taken
    cases queue : (state.contexts qpId).inboundReadRequestQueue with
    | nil =>
      rw [queue] at taken
      cases taken
    | cons request rest =>
      rw [queue] at taken
      obtain ⟨made, created, last⟩ := bind_eq_ok.1 taken
      cases last
      have fits := fitting request (by simp [queue])
      exact ⟨(response_covered_iff created).2 fits, rfl⟩

/-- A transaction that is cut takes no more credits and tokens than there are. -/
theorem taken_within (ready : Ready config state)
    (possible : state.Possible (.run due (.sendTransaction qpId)))
    (fitting : Fitting config state (.run due (.sendTransaction qpId)))
    (taken : take config.toSizeConfig (state.contexts qpId) state.currentWorkType =
      .ok (context, packet, credit)) :
    credit ≤ state.remainingGlobalCredits ∧
      (tokensConsumed packet).toNat ≤ state.txTokenBucket.availableTokens := by
  obtain ⟨credits, bytes⟩ := (taken_covered fitting taken).1
  refine ⟨credits _ (ready.credits due qpId possible.1), ?_⟩
  have enough := ready.bytes due qpId possible.1
  rw [← checked_tokens] at enough
  exact (request_tokens_iff _ _).1 (bytes _ enough)

/-- `SendTransaction` charges the queue pair and the global credits. -/
theorem send_ready (quiet : tokens state.pending = 0) (awake : state.isIdle = false) :
    Ensures (state.sendTransaction config qpId) fun next => Ready config next ∧
      ∃ context packet credit,
        take config.toSizeConfig (state.contexts qpId) state.currentWorkType =
          .ok (context, packet, credit) ∧
        next.contexts = Function.update state.contexts qpId
          (context.charged config packet credit state.now) ∧
        next.remainingGlobalCredits = state.remainingGlobalCredits - credit := by
  rw [send_transaction_eq]
  refine ensures_bind fun ⟨context, packet, credit⟩ taken => ?_
  refine ensures_bind fun handed done => ?_
  unfold handOver at done
  dsimp only at done
  split at done
  · cases done
  · cases done
    refine (after_send_ready ?_ ?_).mono fun next ⟨ready, same⟩ =>
      ⟨ready, context, packet, credit, taken, same.contexts, same.remaining⟩
    · exact (tokens_append _ _).trans (Nat.add_eq_zero_iff.2 ⟨quiet, rfl⟩)
    · exact awake

theorem take_fault {sizes : SizeConfig} {type : WorkType} {fault : Fault}
    (failed : take sizes context type = .error fault) : fault ≠ .tokensUnavailable := by
  rintro rfl
  cases type with
  | request =>
    rw [take, QpContext.takeRequest] at failed
    split at failed
    · cases failed
    · refine bind_ne_error (fun computing => ?_) (fun credit => ?_) failed
      · cases compute_request_fault computing
      · refine bind_ne_error (fun creating => ?_) fun created => nofun
        rcases create_request_fault creating with reason | reason | reason <;> cases reason
  | response =>
    rw [take, QpContext.takeResponse] at failed
    split at failed
    · cases failed
    · rename_i request rest queue
      cases creating : createResponsePacket request with
      | error fault =>
        rw [creating] at failed
        cases failed
        cases create_response_fault creating
      | ok packet =>
        rw [creating] at failed
        cases failed

theorem after_send_fault : state.afterSend config qpId ≠ .error .tokensUnavailable := by
  have popping : ∀ type, state.popActive qpId type ≠ .error .tokensUnavailable := by
    intro type
    unfold popActive
    split <;> nofun
  unfold afterSend
  dsimp only
  split_ifs
  · exact map_ne_error (popping _)
  · nofun
  · exact map_ne_error (popping _)
  · exact map_ne_error (popping _)

/-- The check of the token bucket does not fail where the tokens are there. -/
theorem send_fault (within : ∀ context packet credit,
      take config.toSizeConfig (state.contexts qpId) state.currentWorkType =
        .ok (context, packet, credit) →
      (tokensConsumed packet).toNat ≤ state.txTokenBucket.availableTokens) :
    state.sendTransaction config qpId ≠ .error .tokensUnavailable := by
  rw [send_transaction_eq]
  cases taken : take config.toSizeConfig (state.contexts qpId) state.currentWorkType with
  | error fault => exact fun same => take_fault taken (Except.error.inj same)
  | ok result =>
    obtain ⟨context, packet, credit⟩ := result
    obtain ⟨rest, enough⟩ := (request_tokens_iff _ _).2 (within context packet credit taken)
    change (state.handOver config qpId context packet credit).bind
      (fun handed => handed.afterSend config qpId) ≠ .error .tokensUnavailable
    refine bind_ne_error ?_ fun handed => after_send_fault
    unfold handOver
    dsimp only
    rw [enough]
    nofun

end Sending

/-! ## The counters of the global credits -/

/-- The global credits with some more, and the credits that any queue pairs have in use, are
together numbers of 32 bits in every pool. -/
def RoomFor (extra : FalconCredit) (state : State) : Prop :=
  ∀ (pool : FalconCredit.Pool) (pairs : Finset Nat),
    (state.remainingGlobalCredits.of pool).toNat + (extra.of pool).toNat +
      ∑ qpId ∈ pairs, ((state.contexts qpId).creditUsage.of pool).toNat < 2 ^ 32

/-- The global credits and the credits in use are together numbers of 32 bits. -/
def Countable (state : State) : Prop := RoomFor 0 state

section Counting
variable {config : Config} {state next : State} {extra : FalconCredit}

theorem RoomFor.of_same (room : RoomFor extra state) (same : SamePools state next) :
    RoomFor extra next := by
  intro pool pairs
  rw [same.contexts, same.remaining]
  exact room pool pairs

/-- The credits in use of one queue pair change. -/
theorem sum_set (contexts : Nat → QpContext) (qpId : Nat) (context : QpContext)
    (pool : FalconCredit.Pool) (pairs : Finset Nat) :
    ∑ other ∈ pairs, ((Function.update contexts qpId context other).creditUsage.of pool).toNat +
        (if qpId ∈ pairs then ((contexts qpId).creditUsage.of pool).toNat else 0) =
      ∑ other ∈ pairs, ((contexts other).creditUsage.of pool).toNat +
        if qpId ∈ pairs then (context.creditUsage.of pool).toNat else 0 := by
  by_cases member : qpId ∈ pairs
  · rw [if_pos member, if_pos member, ← Finset.sum_erase_add _ _ member,
      ← Finset.sum_erase_add pairs (fun other => ((contexts other).creditUsage.of pool).toNat)
        member, Function.update_self]
    have others : ∑ other ∈ pairs.erase qpId,
        ((Function.update contexts qpId context other).creditUsage.of pool).toNat =
        ∑ other ∈ pairs.erase qpId, ((contexts other).creditUsage.of pool).toNat := by
      refine Finset.sum_congr rfl fun other listed => ?_
      rw [Function.update_of_ne (Finset.ne_of_mem_erase listed)]
    omega
  · rw [if_neg member, if_neg member]
    congr 1
    refine Finset.sum_congr rfl fun other listed => ?_
    rw [Function.update_of_ne (ne_of_mem_of_not_mem listed member)]

/-- A queue pair changes but not its credits in use. -/
theorem RoomFor.set_context (room : RoomFor extra state)
    (usage : context.creditUsage = (state.contexts qpId).creditUsage) :
    RoomFor extra (state.setContext qpId context) := by
  intro pool pairs
  have moved := sum_set state.contexts qpId context pool pairs
  rw [usage] at moved
  have before := room pool pairs
  simp only [State.setContext]
  omega

/-- A transaction moves credits from the pools to its queue pair. -/
theorem Countable.charge (room : Countable state) {credit : FalconCredit}
    (within : credit ≤ state.remainingGlobalCredits)
    (usage : context.creditUsage = (state.contexts qpId).creditUsage + credit)
    (contexts : next.contexts = Function.update state.contexts qpId context)
    (remaining : next.remainingGlobalCredits = state.remainingGlobalCredits - credit) :
    Countable next := by
  intro pool pairs
  have moved := sum_set state.contexts qpId context pool pairs
  have before := room pool pairs
  have enough := (FalconCredit.le_iff _ _).1 within pool
  have less : ((state.remainingGlobalCredits - credit).of pool).toNat =
      (state.remainingGlobalCredits.of pool).toNat - (credit.of pool).toNat := by
    rw [FalconCredit.of_sub, UInt32.toNat_sub_of_le _ _ (UInt32.le_iff_toNat_le.2 enough)]
  have more : (context.creditUsage.of pool).toNat ≤
      ((state.contexts qpId).creditUsage.of pool).toNat + (credit.of pool).toNat := by
    rw [usage, FalconCredit.of_add, UInt32.toNat_add]
    exact Nat.mod_le _ _
  rw [contexts, remaining, less]
  simp only [FalconCredit.of_zero, UInt32.toNat_zero] at before ⊢
  split_ifs at moved <;> omega

/-- A queue pair gives credits back, for which the counters of the pools have room. -/
theorem Countable.give_back (room : Countable state) {credit : FalconCredit}
    (within : credit ≤ (state.contexts qpId).creditUsage) :
    RoomFor credit (state.setContext qpId ((state.contexts qpId).credited credit)) := by
  intro pool pairs
  have used := (FalconCredit.le_iff _ _).1 within pool
  have less : (((state.contexts qpId).credited credit).creditUsage.of pool).toNat =
      ((state.contexts qpId).creditUsage.of pool).toNat - (credit.of pool).toNat := by
    rw [QpContext.credited, FalconCredit.of_sub,
      UInt32.toNat_sub_of_le _ _ (UInt32.le_iff_toNat_le.2 used)]
  have moved := sum_set state.contexts qpId ((state.contexts qpId).credited credit) pool pairs
  have before := room pool (insert qpId pairs)
  simp only [FalconCredit.of_zero, UInt32.toNat_zero, State.setContext] at before ⊢
  by_cases member : qpId ∈ pairs
  · rw [Finset.insert_eq_of_mem member] at before
    rw [if_pos member, if_pos member, less] at moved
    omega
  · rw [Finset.sum_insert member] at before
    rw [if_neg member, if_neg member] at moved
    omega

/-- The pools take what there is room for. -/
theorem RoomFor.add (room : RoomFor extra state) :
    Countable { state with
      remainingGlobalCredits := state.remainingGlobalCredits + extra } ∧
    ∀ needed : FalconCredit, needed ≤ state.remainingGlobalCredits →
      needed ≤ state.remainingGlobalCredits + extra := by
  have sum : ∀ pool, ((state.remainingGlobalCredits + extra).of pool).toNat =
      (state.remainingGlobalCredits.of pool).toNat + (extra.of pool).toNat := by
    intro pool
    have small := room pool ∅
    rw [Finset.sum_empty] at small
    rw [FalconCredit.of_add, UInt32.toNat_add]
    omega
  refine ⟨fun pool pairs => ?_, fun needed within => (FalconCredit.le_iff _ _).2 fun pool => ?_⟩
  · have before := room pool pairs
    simp only [FalconCredit.of_zero, UInt32.toNat_zero, sum pool]
    omega
  · have enough := (FalconCredit.le_iff _ _).1 within pool
    rw [sum pool]
    omega

end Counting

/-! ## All events -/

/-- The invariant of the runs. -/
structure Sound (config : Config) (state : State) : Prop extends Ready config state where
  countable : Countable state

section Events
variable {config : Config} {state : State}

theorem Sound.followed (outcome : Except Fault State) (sound : Sound config state)
    (follows : Ensures outcome fun next => Ready config next ∧ SamePools state next) :
    Ensures outcome (Sound config) :=
  follows.mono fun _ ⟨ready, same⟩ => ⟨ready, sound.countable.of_same same⟩

theorem Sound.setContext (sound : Sound config state)
    (usage : context.creditUsage = (state.contexts qpId).creditUsage) :
    Sound config (state.setContext qpId context) :=
  ⟨sound.toReady.setContext qpId context, sound.countable.set_context usage⟩

theorem Sound.erase (sound : Sound config state) {due : Nat} {callback : Callback}
    (member : (due, callback) ∈ state.pending) (other : isToken callback = false) :
    Sound config { state with pending := state.pending.erase (due, callback) } :=
  ⟨sound.toReady.erase member other, sound.countable⟩

theorem add_sound (sound : Sound config state) (qpId : Nat) (type : WorkType) :
    Ensures (state.addQpToScheduleSet config qpId type) (Sound config) :=
  sound.followed _ (add_ready sound.toReady qpId type)

theorem add_if_sound (sound : Sound config state) (qpId : Nat) (type : WorkType) :
    Ensures (state.addIfCredits config qpId type) (Sound config) :=
  sound.followed _ (add_if_ready sound.toReady qpId type)

theorem post_usage (context : QpContext) (op : RdmaOp) :
    (context.post op).creditUsage = context.creditUsage := by
  unfold QpContext.post
  split_ifs <;> rfl

/-- The credits of a queue pair come back while nothing else takes any. -/
theorem return_sound (sound : Sound config state) (qpId : Nat) (credit : FalconCredit) :
    Ensures (state.returnCredit config qpId credit) (Sound config) := by
  unfold returnCredit
  refine ensures_ite (fun within => ?_) fun _ => ensures_error
  have given := sound.countable.give_back within
  have ready := sound.toReady.setContext qpId ((state.contexts qpId).credited credit)
  refine (add_if_ready ready qpId .request).bind fun first ⟨firstReady, firstSame⟩ => ?_
  refine (add_if_ready firstReady qpId .response).bind fun second ⟨secondReady, secondSame⟩ => ?_
  obtain ⟨countable, kept⟩ := (given.of_same (firstSame.trans secondSame)).add
  refine (wake_ready ?_).mono fun next ⟨woken, same⟩ => ⟨woken, countable.of_same same⟩
  exact ⟨secondReady.token,
    fun due other member => kept _ (secondReady.credits due other member), secondReady.bytes⟩

theorem send_sound (sound : Sound config state) {due : Nat}
    (possible : state.Possible (.run due (.sendTransaction qpId)))
    (fitting : Fitting config state (.run due (.sendTransaction qpId))) :
    Ensures (state.perform config (.run due (.sendTransaction qpId))) (Sound config) := by
  obtain ⟨quiet, awake⟩ := tokens_taken sound.token possible.1 rfl
  have sending := @send_ready config
    { state with pending := state.pending.erase (due, .sendTransaction qpId) } qpId quiet awake
  refine sending.mono fun next ⟨ready, context, packet, credit, taken, contexts, remaining⟩ => ?_
  have within := (taken_within sound.toReady possible fitting taken).1
  have usage := (taken_covered fitting taken).2
  refine ⟨ready, sound.countable.charge within ?_ contexts remaining⟩
  exact congrArg (· + credit) usage

theorem kept (sound : Sound config state) {event : Event} (possible : state.Possible event)
    (fitting : Fitting config state event) :
    Ensures (state.perform config event) (Sound config) := by
  cases event with
  | postOp qpId opcode sgl inlinePayloadLength =>
    have posted := sound.setContext
      (post_usage (state.contexts qpId) { opcode, sgl, inlinePayloadLength })
    exact ensures_ite (fun _ => add_if_sound posted qpId .request) fun _ => ensures_ok.2 posted
  | setXoff requestXoff globalXoff =>
    have told : Sound config { state with requestXoff := requestXoff, globalXoff := globalXoff } :=
      ⟨⟨sound.token, sound.credits, sound.bytes⟩, sound.countable⟩
    exact told.followed _ (wake_ready told.toReady)
  | returnCredit qpId credit => exact return_sound sound qpId credit
  | readRequestArrives qpId request refused =>
    refine ensures_ok.2 ?_
    unfold processIncomingReadRequest
    dsimp only
    split_ifs
    · exact sound
    · exact ⟨sound.toReady.schedule _ rfl, sound.countable⟩
  | readResponseArrives qpId rsn =>
    unfold perform processIncomingReadResponse
    dsimp only
    split
    · exact ensures_error
    · rename_i id mapped
      have answered : Sound config
          (state.setContext qpId ((state.contexts qpId).readAnswered rsn id)) :=
        sound.setContext rfl
      exact ensures_ite (fun _ => add_sound answered qpId .request) fun _ => ensures_ok.2 answered
  | completionArrives qpId rsn =>
    unfold perform processCompletion
    dsimp only
    split
    · exact ensures_error
    · exact ensures_ok.2 (sound.setContext rfl)
  | run due callback =>
    have member := possible.1
    cases callback with
    | runWorkScheduler =>
      obtain ⟨quiet, -⟩ := tokens_taken sound.token member rfl
      exact (@run_ready config
        { state with pending := state.pending.erase (due, .runWorkScheduler) } quiet).mono
        fun next ⟨ready, same⟩ => ⟨ready, sound.countable.of_same ⟨same.contexts, same.remaining⟩⟩
    | sendTransaction qpId => exact send_sound sound possible fitting
    | addQpToScheduleSet qpId type => exact add_sound (sound.erase member rfl) qpId type
    | readdQp qpId served => exact add_sound (sound.erase member rfl) qpId _
    | initiateTransaction qpId packet => exact ensures_ok.2 (sound.erase member rfl)
    | ackReadRequest qpId request =>
      have taken := sound.erase member rfl
      exact ensures_ok.2 ⟨taken.toReady.schedule _ rfl, taken.countable⟩
    | enqueueReadRequest qpId request =>
      have enqueued : Sound config (State.setContext
          { state with pending := state.pending.erase (due, .enqueueReadRequest qpId request) }
          qpId ((state.contexts qpId).enqueued request)) := (sound.erase member rfl).setContext rfl
      exact ensures_ite (fun _ => add_if_sound enqueued qpId .response) fun _ =>
        ensures_ok.2 enqueued
  | tick => exact ensures_ok.2 ⟨⟨sound.token, sound.credits, sound.bytes⟩, sound.countable⟩

/-- The scheduler has just been set up, and its credits with those that the queue pairs have in use
from the start are numbers of 32 bits. -/
def Start (state : State) : Prop := State.Initial state ∧ Countable state

/-- No queue pair has credits in use, as where no caller asks for initial ones. -/
theorem countable_of_unused (unused : ∀ qpId, (state.contexts qpId).creditUsage = 0) :
    Countable state := by
  intro pool pairs
  have none_ : ∑ qpId ∈ pairs, ((state.contexts qpId).creditUsage.of pool).toNat = 0 := by
    refine Finset.sum_eq_zero fun qpId _ => ?_
    rw [unused qpId, FalconCredit.of_zero]
    rfl
  rw [none_, FalconCredit.of_zero]
  exact UInt32.toNat_lt _

theorem sound_of_reachable
    (reached : Runs.Reachable Start (CoveredStep config (Fitting config)) state) :
    Sound config state := by
  refine @Runs.invariant_of_reachable State _ _ (Sound config) (fun first started => ?_)
    (fun before after sound taken => ?_) _ reached
  · obtain ⟨⟨-, -, -, idle, pending⟩, countable⟩ := started
    refine ⟨⟨?_, fun due qpId member => ?_, fun due qpId member => ?_⟩, countable⟩
    · rw [pending, idle]
      rfl
    · simp [pending] at member
    · simp [pending] at member
  · obtain ⟨event, possible, fitting, done⟩ := taken
    exact kept sound possible fitting after done

/-- A transaction takes no more global credits than there are, and the check of the token bucket
does not fail. -/
structure Affordable (config : Config) (state : State) (due qpId : Nat) : Prop where
  credits : ∀ context packet credit,
    take config.toSizeConfig (state.contexts qpId) state.currentWorkType =
      .ok (context, packet, credit) → credit ≤ state.remainingGlobalCredits
  tokens : state.perform config (.run due (.sendTransaction qpId)) ≠ .error .tokensUnavailable

/-- The checks before sending cover a request exactly if its operation fits, and a response exactly
if it fits; and in every run whose transactions fit, each is affordable when it is cut. -/
theorem checks_cover_iff (config : Config) :
    (∀ op rsn packet left credit, computeRequestCredit config.toSizeConfig op = .ok credit →
      createRequestPacket config.toSizeConfig op rsn = .ok (packet, left) →
      (Covered config .request credit packet ↔ RequestFits config.toSizeConfig op)) ∧
    (∀ request packet, createResponsePacket request = .ok packet →
      (Covered config .response (computeResponseCredit config.toSizeConfig request) packet ↔
        ResponseFits config.toSizeConfig request)) ∧
    ∀ state, Runs.Reachable Start (CoveredStep config (Fitting config)) state →
      ∀ due qpId, state.Possible (.run due (.sendTransaction qpId)) →
        Fitting config state (.run due (.sendTransaction qpId)) →
        Affordable config state due qpId := by
  refine ⟨fun op rsn packet left credit computed created => request_covered_iff computed created,
    fun request packet created => response_covered_iff created,
    fun state reached due qpId possible fitting => ?_⟩
  have ready := (sound_of_reachable reached).toReady
  refine ⟨fun context packet credit taken => (taken_within ready possible fitting taken).1, ?_⟩
  exact @send_fault config
    { state with pending := state.pending.erase (due, .sendTransaction qpId) } qpId
    fun context packet credit taken => (taken_within ready possible fitting taken).2

end Events

/-! ## A read of a full packet -/

/-- Global credits for exactly one request at the MTU, by the minimum. -/
def lastBuffers : State :=
  { RdmaSchedulerProofs.freshState with
    remainingGlobalCredits := minimumCredit RdmaSchedulerProofs.narrowConfig .request }

theorem last_buffers_start : Start lastBuffers := by
  obtain ⟨created, wqs, qpSet, idle, pending⟩ := RdmaSchedulerProofs.fresh_state_initial
  exact ⟨⟨created, wqs, qpSet, idle, pending⟩, countable_of_unused fun _ => rfl⟩

/-- The transaction of queue pair 1 is charged more than the global credits that are left, and the
counter of the rx buffers wraps. -/
def wraps (config : Config) (state : State) : Bool :=
  (match take config.toSizeConfig (state.contexts 1) state.currentWorkType with
    | .ok (_, _, credit) => !decide (credit ≤ state.remainingGlobalCredits)
    | .error _ => false) &&
  match state.perform config (.run 1 (.sendTransaction 1)) with
    | .ok next => state.remainingGlobalCredits.requestRxBuffer == 32 &&
      next.remainingGlobalCredits.requestRxBuffer == 4294967295
    | .error _ => false

theorem wraps_spec {config : Config} {state : State} (wrapped : wraps config state = true) :
    ¬ Affordable config state 1 1 ∧
    ∃ next, state.perform config (.run 1 (.sendTransaction 1)) = .ok next ∧
      state.remainingGlobalCredits.requestRxBuffer = 32 ∧
      next.remainingGlobalCredits.requestRxBuffer = 4294967295 := by
  obtain ⟨charged, wrapped⟩ := Bool.and_eq_true_iff.1 wrapped
  constructor
  · intro affordable
    split at charged
    · rename_i context packet credit taken
      have within := affordable.credits context packet credit taken
      simp [within] at charged
    · cases charged
  · split at wrapped
    · rename_i next done
      obtain ⟨before, after⟩ := Bool.and_eq_true_iff.1 wrapped
      exact ⟨next, done, eq_of_beq before, eq_of_beq after⟩
    · cases wrapped

/-- The response to a read of 4096 bytes takes 33 rx buffers of 128 bytes with its header, and 32
were checked. -/
theorem full_read_wraps : ∃ config state, Runs.Reachable Start (State.Step config) state ∧
    state.Possible (.run 1 (.sendTransaction 1)) ∧ ¬ Affordable config state 1 1 ∧
    ∃ next, state.perform config (.run 1 (.sendTransaction 1)) = .ok next ∧
      state.remainingGlobalCredits.requestRxBuffer = 32 ∧
      next.remainingGlobalCredits.requestRxBuffer = 4294967295 := by
  have tested : (Runs.execute (RdmaSchedulerProofs.tryEvent RdmaSchedulerProofs.narrowConfig
      fun _ _ => True) [.postOp 1 .read [4096] 0, .tick, .run 1 .runWorkScheduler]
      lastBuffers).any (fun state => decide (state.Possible (.run 1 (.sendTransaction 1))) &&
        wraps RdmaSchedulerProofs.narrowConfig state) = true := by
    decide +kernel
  obtain ⟨state, reached, holds⟩ := @Runs.reached_with State Start
    (State.Step RdmaSchedulerProofs.narrowConfig) Event _ (fun before event next done => by
      obtain ⟨⟨possible, -⟩, performed⟩ := Runs.attempt_eq_some.1 done
      exact ⟨event, possible, performed⟩) _ _ last_buffers_start _ tested
  obtain ⟨possible, wrapped⟩ := Bool.and_eq_true_iff.1 holds
  exact ⟨_, state, reached, of_decide_eq_true possible, wraps_spec wrapped⟩

end Isekai.CreditCheckRuns
