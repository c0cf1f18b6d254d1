import Isekai.RoceActiveQueues
import Isekai.RocePacingProofs

/-! The runs of the work scheduler. It arms itself while there is work, a work queue that becomes
active arms it when there was none, and the end of a pause runs it at once, whether or not it is
armed. -/

namespace Isekai.RoceSchedulerRuns
open Outcomes Roce RoceWorkScheduler RoceActiveQueues

variable {qps : Nat} {config : HostConfig} {host next : Host qps}

/-- The time of a chip cycle. -/
def cycle (config : HostConfig) : Int :=
  nanoseconds config.chipCycleTimeNs.toNat

theorem cycle_nonneg (config : HostConfig) : 0 ≤ cycle config := by
  unfold cycle nanoseconds
  omega

/-- The end of a pause does not find the scheduler armed over work. -/
def Unarmed (host : Host qps) : Host.Event qps → Prop
  | .setPfcXoff xoff => xoff = false → host.scheduledWork = [] ∨ host.schedulerEvents = []
  | _ => True

def Step (config : HostConfig) (host next : Host qps) : Prop :=
  ∃ event, host.Possible event ∧ host.perform config event = .ok next

def UnarmedStep (config : HostConfig) (host next : Host qps) : Prop :=
  ∃ event, host.Possible event ∧ Unarmed host event ∧ host.perform config event = .ok next

/-- The scheduler is armed once at most, and its packets are a cycle apart. -/
structure Regular (config : HostConfig) (host : Host qps) : Prop where
  single : host.schedulerEvents.length ≤ 1
  apart : host.transmitted.Pairwise fun earlier later =>
    earlier.time + cycle config ≤ later.time

/-- Where a queue pair has a packet to send and there is no pause, the scheduler is armed. -/
def Awaited (host : Host qps) : Prop :=
  (∃ qpId workType, (host.contexts qpId).hasMoreWork workType = true) → host.pfcXoff = false →
    host.schedulerEvents ≠ []

/-! ## The ordered set -/

/-- Of two different work queues one is before the other. -/
theorem eq_of_not_less {one two : ScheduledWork qps} (notBefore : one.less two = false)
    (notAfter : two.less one = false) : one = two := by
  obtain ⟨oneTime, oneQueue, oneType⟩ := one
  obtain ⟨twoTime, twoQueue, twoType⟩ := two
  simp only [ScheduledWork.less, WorkQueue.less, decide_eq_false_iff_not, not_or, not_and,
    decide_eq_true_eq] at notBefore notAfter
  obtain ⟨late, lateQueue⟩ := notBefore
  obtain ⟨early, earlyQueue⟩ := notAfter
  obtain rfl : oneTime = twoTime := by omega
  obtain ⟨above, aboveType⟩ := lateQueue rfl
  obtain ⟨below, belowType⟩ := earlyQueue rfl
  obtain rfl : oneQueue = twoQueue := Fin.le_antisymm (Fin.not_lt.1 below) (Fin.not_lt.1 above)
  have request := aboveType rfl
  have response := belowType rfl
  cases oneType <;> cases twoType <;> simp at request response ⊢

theorem mem_insert_work {entry other : ScheduledWork qps} {work : List (ScheduledWork qps)} :
    other ∈ insertWork entry work ↔ other = entry ∨ other ∈ work := by
  induction work with
  | nil => simp [insertWork]
  | cons first rest ih =>
    unfold insertWork
    split_ifs with before after
    · simp
    · rw [List.mem_cons, ih, List.mem_cons]
      tauto
    · have same := eq_of_not_less ((Bool.not_eq_true _).mp before) ((Bool.not_eq_true _).mp after)
      rw [same, List.mem_cons]
      tauto

theorem insert_work_ne_nil (entry : ScheduledWork qps) (work : List (ScheduledWork qps)) :
    insertWork entry work ≠ [] :=
  List.ne_nil_of_mem (mem_insert_work.2 (.inl rfl))

/-! ## What a run of the scheduler does -/

/-- A host that has sent a packet of a work queue. -/
def afterPacket (host : Host qps) (workQueue : WorkQueue qps) (served : QpContext)
    (nextSendTime : Int) : Host qps :=
  { host with
    lastSchedulerRunTime := host.now
    contexts := Function.update host.contexts workQueue.qpId served
    nextSendTime := Function.update host.nextSendTime workQueue.qpId nextSendTime
    transmitted := host.transmitted ++ [⟨workQueue, host.now, nextSendTime⟩] }

/-- It does nothing in a pause or without work, it waits for the first work queue, or it sends a
packet of it. -/
inductive Turn (config : HostConfig) (host next : Host qps) : Prop where
  | idle (none_to_send : host.pfcXoff = true ∨ host.scheduledWork = []) (same : next = host)
  | waits (first : ScheduledWork qps) (work : first ∈ host.scheduledWork)
      (early : host.now < first.nextSendTime)
      (armed : next = { host with
        schedulerEvents := host.schedulerEvents ++ [first.nextSendTime] })
  | sends (first : ScheduledWork qps) (rest : List (ScheduledWork qps))
      (work : host.scheduledWork = first :: rest) (served : QpContext) (nextSendTime : Int)
      (aside : Aside first.workQueue.workType (host.contexts first.workQueue.qpId) served)
      (sent : next = ((afterPacket host first.workQueue served nextSendTime).requeue
        first.workQueue rest).scheduleNextRun config)

theorem run_cases (config : HostConfig) (host : Host qps) :
    Ensures (host.runWorkScheduler config) (Turn config host) := by
  unfold Host.runWorkScheduler
  refine ensures_ite (fun paused => ensures_ok.2 (.idle (.inl paused) rfl)) fun _ => ?_
  cases work : host.scheduledWork with
  | nil => exact ensures_ok.2 (.idle (.inr work) rfl)
  | cons first rest =>
    refine ensures_ite (fun early => ensures_ok.2 ?_) fun _ => ?_
    · refine .waits first ?_ early (by rw [work])
      rw [work]
      exact List.mem_cons_self
    · refine ensures_map.2 (ensures_bind fun packet _ => ensures_map.2 fun served transmitted => ?_)
      have aside := transmit_aside config.toConfig (host.contexts first.workQueue.qpId)
        first.workQueue.workType served transmitted
      refine .sends first rest work served
        (host.now + Host.sendingTime config packet (host.rate first.workQueue.qpId)) aside ?_
      unfold afterPacket
      rw [work]

/-- The scheduler is armed again if there is work, a cycle later at the earliest. -/
theorem schedule_next_run_spec (config : HostConfig) (host : Host qps) :
    host.scheduledWork = [] ∧ host.scheduleNextRun config = host ∨
      host.scheduledWork ≠ [] ∧ ∃ due, host.now + cycle config ≤ due ∧
        host.scheduleNextRun config =
          { host with schedulerEvents := host.schedulerEvents ++ [due] } := by
  unfold Host.scheduleNextRun
  cases work : host.scheduledWork with
  | nil => exact .inl ⟨rfl, rfl⟩
  | cons first rest =>
    refine .inr ⟨List.cons_ne_nil _ _, _, ?_, rfl⟩
    unfold cycle
    split_ifs <;> omega

/-! ## The scheduler is armed once -/

structure Sound (config : HostConfig) (host : Host qps) : Prop where
  ahead : ∀ due ∈ host.schedulerEvents, host.now ≤ due
  single : host.schedulerEvents.length ≤ 1
  idle : host.scheduledWork = [] → host.schedulerEvents = []
  armed : ∀ due ∈ host.schedulerEvents, host.lastSchedulerRunTime + cycle config ≤ due
  unarmed : host.schedulerEvents = [] → host.scheduledWork ≠ [] →
    host.lastSchedulerRunTime + cycle config ≤ host.now
  recorded : ∀ sent ∈ host.transmitted, sent.time ≤ host.lastSchedulerRunTime
  apart : host.transmitted.Pairwise fun earlier later =>
    earlier.time + cycle config ≤ later.time

namespace Sound

theorem initial (initial : host.Initial) : Sound config host := by
  obtain ⟨-, fresh⟩ := initial
  rw [fresh]
  constructor
  · exact fun due listed => absurd listed List.not_mem_nil
  · exact Nat.zero_le _
  · exact fun _ => rfl
  · exact fun due listed => absurd listed List.not_mem_nil
  · exact fun _ work => absurd rfl work
  · exact fun sent listed => absurd listed List.not_mem_nil
  · exact .nil

/-- The scheduler runs while it is not armed, a cycle after its last packet. -/
theorem run {base : Host qps} (turn : Turn config base next)
    (unarmed : base.schedulerEvents = [])
    (later : base.scheduledWork ≠ [] → base.lastSchedulerRunTime + cycle config ≤ base.now)
    (recorded : ∀ sent ∈ base.transmitted, sent.time ≤ base.lastSchedulerRunTime)
    (apart : base.transmitted.Pairwise fun earlier later =>
      earlier.time + cycle config ≤ later.time) : Sound config next := by
  cases turn with
  | idle none_to_send same =>
    rw [same]
    constructor
    · intro due listed
      rw [unarmed] at listed
      cases listed
    · rw [unarmed]
      exact Nat.zero_le _
    · exact fun _ => unarmed
    · intro due listed
      rw [unarmed] at listed
      cases listed
    · exact fun _ work => later work
    · exact recorded
    · exact apart
  | waits first work early armed =>
    have ready := later (List.ne_nil_of_mem work)
    have events : next.schedulerEvents = [first.nextSendTime] := by
      rw [armed]
      dsimp only
      rw [unarmed]
      rfl
    constructor
    · intro due listed
      rw [events] at listed
      rw [List.mem_singleton.1 listed, armed]
      dsimp only
      omega
    · rw [events]
      exact le_refl 1
    · intro none_left
      rw [armed] at none_left
      exact absurd none_left (List.ne_nil_of_mem work)
    · intro due listed
      rw [events] at listed
      rw [List.mem_singleton.1 listed, armed]
      dsimp only
      omega
    · intro empty
      rw [events] at empty
      cases empty
    · rw [armed]
      exact recorded
    · rw [armed]
      exact apart
  | sends first rest work served nextSendTime aside sent =>
    have ready : base.lastSchedulerRunTime + cycle config ≤ base.now :=
      later (by rw [work]; exact List.cons_ne_nil _ _)
    have past := cycle_nonneg config
    set requeued := (afterPacket base first.workQueue served nextSendTime).requeue first.workQueue
      rest with result
    have transmitted : requeued.transmitted =
        base.transmitted ++ [⟨first.workQueue, base.now, nextSendTime⟩] := rfl
    have all_recorded : ∀ one ∈ requeued.transmitted, one.time ≤ base.now := by
      intro one listed
      rw [transmitted] at listed
      rcases List.mem_append.1 listed with old | new
      · have before := recorded one old
        omega
      · obtain rfl := List.mem_singleton.1 new
        exact Int.le_refl base.now
    have all_apart : requeued.transmitted.Pairwise fun earlier later =>
        earlier.time + cycle config ≤ later.time := by
      rw [transmitted]
      refine List.pairwise_append.2 ⟨apart, List.pairwise_singleton _ _, ?_⟩
      intro earlier old latest new
      have before := recorded earlier old
      rw [List.mem_singleton.1 new]
      dsimp only
      omega
    have still : requeued.schedulerEvents = [] := unarmed
    rcases schedule_next_run_spec config requeued with ⟨none_left, same⟩ | ⟨more, due, far, armed⟩
    · rw [sent, same]
      constructor
      · intro due listed
        rw [still] at listed
        cases listed
      · rw [still]
        exact Nat.zero_le _
      · exact fun _ => still
      · intro due listed
        rw [still] at listed
        cases listed
      · exact fun _ work => absurd none_left work
      · exact all_recorded
      · exact all_apart
    · have now : requeued.now = base.now := rfl
      have ran : requeued.lastSchedulerRunTime = base.now := rfl
      rw [sent, armed, still]
      rw [now] at far
      constructor
      · intro other listed
        rw [List.mem_singleton.1 listed]
        change base.now ≤ due
        omega
      · exact le_refl 1
      · exact fun none_left => absurd none_left more
      · intro other listed
        rw [List.mem_singleton.1 listed]
        exact far
      · intro empty
        cases empty
      · exact all_recorded
      · exact all_apart

/-- A work queue becomes active. The scheduler is armed if it is the first one. -/
theorem add (sound : Sound config host) (workQueue : WorkQueue qps) :
    Sound config (host.addWorkQueueToActiveSet config workQueue) := by
  obtain ⟨ahead, single, idle, armed, unarmed, recorded, apart⟩ := sound
  have filled := insert_work_ne_nil
    ⟨max host.now (host.nextSendTime workQueue.qpId), workQueue⟩ host.scheduledWork
  unfold Host.addWorkQueueToActiveSet
  dsimp only
  split_ifs with empty
  · have none_ahead := idle (List.isEmpty_iff.1 empty)
    rw [none_ahead, List.nil_append]
    constructor
    · intro due listed
      rw [List.mem_singleton.1 listed]
      exact Int.le_max_right _ _
    · exact le_refl 1
    · exact fun none_left => absurd none_left filled
    · intro due listed
      rw [List.mem_singleton.1 listed]
      exact Int.le_max_left _ _
    · intro empty
      cases empty
    · exact recorded
    · exact apart
  · have work : host.scheduledWork ≠ [] := fun none_left => empty (List.isEmpty_iff.2 none_left)
    constructor
    · exact ahead
    · exact single
    · exact fun none_left => absurd none_left filled
    · exact armed
    · exact fun none_ahead _ => unarmed none_ahead work
    · exact recorded
    · exact apart

theorem add_all (sound : Sound config host) (workTypes : List WorkType) (qpId : Fin qps) :
    Sound config (workTypes.foldl
      (fun host workType => host.addWorkQueueToActiveSet config ⟨qpId, workType⟩) host) := by
  induction workTypes generalizing host with
  | nil => exact sound
  | cons workType rest ih => exact ih (sound.add _)

/-- The event of the scheduler is its only one. -/
theorem run_event (sound : Sound config host) (due : host.now ∈ host.schedulerEvents) :
    Ensures (Host.runWorkScheduler config
      { host with schedulerEvents := host.schedulerEvents.erase host.now }) (Sound config) := by
  have only : host.schedulerEvents = [host.now] := by
    cases events : host.schedulerEvents with
    | nil =>
      rw [events] at due
      cases due
    | cons first rest =>
      have one := sound.single
      rw [events] at one due
      obtain rfl : rest = [] := List.length_eq_zero_iff.1 (by simpa using one)
      rw [List.mem_singleton.1 due]
  have none_left : host.schedulerEvents.erase host.now = [] := by
    rw [only]
    simp
  have later := sound.armed host.now due
  refine (run_cases config _).mono fun next turn => ?_
  exact run turn none_left (fun _ => later) sound.recorded sound.apart

theorem perform (sound : Sound config host) {event : Host.Event qps}
    (possible : host.Possible event) (unarmed : Unarmed host event) :
    Ensures (host.perform config event) (Sound config) := by
  cases event with
  | queuePair qpId event =>
    refine ensures_map.2 fun next _ => ?_
    have changed : Sound config
        { host with contexts := Function.update host.contexts qpId next } :=
      ⟨sound.ahead, sound.single, sound.idle, sound.armed, sound.unarmed, sound.recorded,
        sound.apart⟩
    exact changed.add_all _ qpId
  | setRate qpId rate =>
    exact ensures_ok.2 ⟨sound.ahead, sound.single, sound.idle, sound.armed, sound.unarmed,
      sound.recorded, sound.apart⟩
  | setPfcXoff xoff =>
    refine ensures_ite (fun resumed => ?_) fun _ => ensures_ok.2 ⟨sound.ahead, sound.single,
      sound.idle, sound.armed, sound.unarmed, sound.recorded, sound.apart⟩
    have xon : xoff = false := by simpa using resumed.1
    have work : host.scheduledWork ≠ [] := by simpa using resumed.2
    rcases unarmed xon with none_left | none_ahead
    · exact absurd none_left work
    · refine (run_cases config _).mono fun next turn => ?_
      exact run turn none_ahead (sound.unarmed none_ahead) sound.recorded sound.apart
  | runWorkScheduler => exact sound.run_event possible
  | tick duration =>
    refine ensures_ok.2 ⟨possible.2.1, sound.single, sound.idle, sound.armed, ?_, sound.recorded,
      sound.apart⟩
    intro none_ahead work
    have before := sound.unarmed none_ahead work
    have forward := possible.1
    dsimp only
    omega

end Sound

/-! ## No work is forgotten -/

theorem has_more_work_set (context : QpContext) (active : Bool) (workType other : WorkType) :
    (context.setWorkQueueActive active workType).hasMoreWork other =
      context.hasMoreWork other := by
  cases workType <;> rfl

theorem is_active_set (context : QpContext) (active : Bool) (workType other : WorkType) :
    (context.setWorkQueueActive active workType).isWorkQueueActive other =
      if other = workType then active else context.isWorkQueueActive other := by
  cases workType <;> cases other <;> rfl

/-- Work without a pause keeps the scheduler armed. -/
def Awake (host : Host qps) : Prop :=
  host.pfcXoff = false → host.scheduledWork ≠ [] → host.schedulerEvents ≠ []

/-- A work queue that has work is active, active work queues are in the set, and the scheduler is
armed for them. -/
structure Live (host : Host qps) : Prop where
  busy : ∀ qpId, Busy (host.contexts qpId)
  listed : ∀ qpId workType, (host.contexts qpId).isWorkQueueActive workType = true →
    ∃ entry ∈ host.scheduledWork, entry.workQueue = ⟨qpId, workType⟩
  awake : Awake host

/-- What activating work queues changes. -/
structure Adds (host next : Host qps) (qpId : Fin qps) (workTypes : List WorkType) : Prop where
  contexts : next.contexts = host.contexts
  kept : ∀ entry ∈ host.scheduledWork, entry ∈ next.scheduledWork
  added : ∀ workType ∈ workTypes, ∃ entry ∈ next.scheduledWork, entry.workQueue = ⟨qpId, workType⟩
  awake : Awake host → Awake next

theorem adds_one (config : HostConfig) (host : Host qps) (qpId : Fin qps) (workType : WorkType) :
    Adds host (host.addWorkQueueToActiveSet config ⟨qpId, workType⟩) qpId [workType] := by
  unfold Host.addWorkQueueToActiveSet
  dsimp only
  split_ifs with empty
  · refine ⟨rfl, fun entry listed => mem_insert_work.2 (.inr listed), fun other listed => ?_,
      fun _ _ _ => by simp⟩
    rw [List.mem_singleton.1 listed]
    exact ⟨_, mem_insert_work.2 (.inl rfl), rfl⟩
  · refine ⟨rfl, fun entry listed => mem_insert_work.2 (.inr listed), fun other listed => ?_,
      fun awake running _ => ?_⟩
    · rw [List.mem_singleton.1 listed]
      exact ⟨_, mem_insert_work.2 (.inl rfl), rfl⟩
    · exact awake running fun none_left => empty (List.isEmpty_iff.2 none_left)

theorem adds_all (config : HostConfig) (host : Host qps) (qpId : Fin qps)
    (workTypes : List WorkType) :
    Adds host (workTypes.foldl
      (fun host workType => host.addWorkQueueToActiveSet config ⟨qpId, workType⟩) host) qpId
      workTypes := by
  induction workTypes generalizing host with
  | nil =>
    exact ⟨rfl, fun _ listed => listed, fun _ listed => absurd listed List.not_mem_nil, id⟩
  | cons first rest ih =>
    have one := adds_one config host qpId first
    have all := ih (host.addWorkQueueToActiveSet config ⟨qpId, first⟩)
    refine ⟨all.contexts.trans one.contexts, fun entry listed => all.kept _ (one.kept _ listed),
      fun workType listed => ?_, fun awake => all.awake (one.awake awake)⟩
    rcases List.mem_cons.1 listed with rfl | later
    · obtain ⟨entry, inserted, own⟩ := one.added _ (List.mem_singleton_self _)
      exact ⟨entry, all.kept _ inserted, own⟩
    · exact all.added workType later

namespace Live

theorem initial (initial : host.Initial) : Live host := by
  obtain ⟨fresh, same⟩ := initial
  refine ⟨fun qpId => busy_initial (fresh qpId).1, fun qpId workType active => ?_, ?_⟩
  · obtain ⟨_, _, _, -, -, created⟩ := (fresh qpId).1
    rw [created] at active
    cases workType <;> cases active
  · intro _ work
    rw [same] at work
    exact absurd rfl work

theorem awaited (live : Live host) : Awaited host := by
  rintro ⟨qpId, workType, more⟩ running
  obtain ⟨entry, listed, -⟩ := live.listed qpId workType (live.busy qpId workType more)
  exact live.awake running (List.ne_nil_of_mem listed)

/-- The work queue that was served is inactive, or in the set again. -/
theorem run {base : Host qps} (turn : Turn config base next)
    (busy : ∀ qpId, Busy (base.contexts qpId))
    (listed : ∀ qpId workType, (base.contexts qpId).isWorkQueueActive workType = true →
      ∃ entry ∈ base.scheduledWork, entry.workQueue = ⟨qpId, workType⟩) : Live next := by
  cases turn with
  | idle none_to_send same =>
    rw [same]
    refine ⟨busy, listed, fun running work => ?_⟩
    rcases none_to_send with paused | none_left
    · rw [running] at paused
      cases paused
    · exact absurd none_left work
  | waits first work early armed =>
    rw [armed]
    exact ⟨busy, listed, fun _ _ => by simp⟩
  | sends first rest work served nextSendTime aside sent =>
    set requeued := (afterPacket base first.workQueue served nextSendTime).requeue first.workQueue
      rest with result
    have more : ((afterPacket base first.workQueue served nextSendTime).contexts
        first.workQueue.qpId) = served := Function.update_self _ _ _
    have own : requeued.contexts first.workQueue.qpId = served.setWorkQueueActive
        (served.hasMoreWork first.workQueue.workType) first.workQueue.workType := by
      rw [result]
      unfold Host.requeue
      dsimp only
      rw [Function.update_self, more]
    have others : ∀ qpId, qpId ≠ first.workQueue.qpId →
        requeued.contexts qpId = base.contexts qpId := by
      intro qpId other
      rw [result]
      unfold Host.requeue afterPacket
      dsimp only
      rw [Function.update_of_ne other, Function.update_of_ne other]
    have queue : requeued.scheduledWork =
        if served.hasMoreWork first.workQueue.workType = true then
          insertWork ⟨nextSendTime, first.workQueue⟩ rest
        else rest := by
      rw [result]
      unfold Host.requeue
      dsimp only
      rw [more]
      unfold afterPacket
      dsimp only
      rw [Function.update_self]
    have stays : ∀ entry ∈ base.scheduledWork, entry.workQueue ≠ first.workQueue →
        entry ∈ requeued.scheduledWork := by
      intro entry before other
      rw [work] at before
      rw [queue]
      rcases List.mem_cons.1 before with rfl | later
      · exact absurd rfl other
      · split_ifs
        · exact mem_insert_work.2 (.inr later)
        · exact later
    have all_busy : ∀ qpId, Busy (requeued.contexts qpId) := by
      intro qpId workType more_work
      by_cases same : qpId = first.workQueue.qpId
      · rw [same, own] at more_work ⊢
        rw [has_more_work_set] at more_work
        rw [is_active_set]
        split_ifs with kind
        · rwa [kind] at more_work
        · rw [(aside workType kind).2]
          rw [(aside workType kind).1] at more_work
          exact busy _ workType more_work
      · rw [others qpId same] at more_work ⊢
        exact busy qpId workType more_work
    have all_listed : ∀ qpId workType,
        (requeued.contexts qpId).isWorkQueueActive workType = true →
          ∃ entry ∈ requeued.scheduledWork, entry.workQueue = ⟨qpId, workType⟩ := by
      intro qpId workType active
      by_cases same : qpId = first.workQueue.qpId
      · rw [same, own, is_active_set] at active
        rw [same]
        split_ifs at active with kind
        · rw [queue, if_pos active, kind]
          exact ⟨_, mem_insert_work.2 (.inl rfl), rfl⟩
        · rw [(aside workType kind).2] at active
          obtain ⟨entry, before, named⟩ := listed _ workType active
          refine ⟨entry, stays entry before fun equal => kind ?_, named⟩
          rw [named] at equal
          exact congrArg WorkQueue.workType equal
      · rw [others qpId same] at active
        obtain ⟨entry, before, named⟩ := listed qpId workType active
        refine ⟨entry, stays entry before fun equal => same ?_, named⟩
        rw [named] at equal
        exact congrArg WorkQueue.qpId equal
    rcases schedule_next_run_spec config requeued with ⟨none_left, next_same⟩ |
      ⟨-, due, -, armed⟩
    · rw [sent, next_same]
      exact ⟨all_busy, all_listed, fun _ work => absurd none_left work⟩
    · rw [sent, armed]
      exact ⟨all_busy, all_listed, fun _ _ => by simp⟩

theorem perform (live : Live host) {event : Host.Event qps} (possible : host.Possible event) :
    Ensures (host.perform config event) Live := by
  cases event with
  | queuePair qpId event =>
    have serves : Ensures ((host.contexts qpId).perform config.toConfig event)
        (Serves (host.contexts qpId)) := by
      apply Serves.perform
      rintro workType rfl
      exact Bool.false_ne_true possible.1
    refine ensures_map.2 (serves.mono fun after served => ?_)
    have adds := adds_all config
      { host with contexts := Function.update host.contexts qpId after } qpId
      (Host.activated (host.contexts qpId) after)
    refine ⟨fun other => ?_, fun other workType active => ?_, adds.awake live.awake⟩
    · rw [adds.contexts]
      dsimp only
      by_cases same : other = qpId
      · rw [same, Function.update_self]
        exact served.busy (live.busy qpId)
      · rw [Function.update_of_ne same]
        exact live.busy other
    · rw [adds.contexts] at active
      dsimp only at active
      by_cases same : other = qpId
      · rw [same, Function.update_self] at active
        rw [same]
        by_cases before : (host.contexts qpId).isWorkQueueActive workType = true
        · obtain ⟨entry, listed, named⟩ := live.listed qpId workType before
          exact ⟨entry, adds.kept entry listed, named⟩
        · -- it has just become active
          apply adds.added
          apply List.mem_filter.2
          constructor
          · cases workType <;> simp
          · rw [active, (Bool.not_eq_true _).mp before]
            rfl
      · rw [Function.update_of_ne same] at active
        obtain ⟨entry, listed, named⟩ := live.listed other workType active
        exact ⟨entry, adds.kept entry listed, named⟩
  | setRate qpId rate => exact ensures_ok.2 ⟨live.busy, live.listed, live.awake⟩
  | setPfcXoff xoff =>
    refine ensures_ite (fun _ => ?_) fun still => ensures_ok.2 ⟨live.busy, live.listed, ?_⟩
    · exact (run_cases config _).mono fun next turn => run turn live.busy live.listed
    · intro running work
      dsimp only at running work
      rw [running] at still
      exact absurd (by simpa using work) (not_and.1 still rfl)
  | runWorkScheduler =>
    exact (run_cases config _).mono fun next turn => run turn live.busy live.listed
  | tick duration =>
    refine ensures_ok.2 ⟨fun qpId => ?_, fun qpId workType active => ?_, live.awake⟩
    · intro workType more
      have busy := live.busy qpId workType
      cases workType <;> exact busy more
    · have listed := live.listed qpId workType
      cases workType <;> exact listed active

end Live

/-! ## Runs -/

theorem sound_of_reachable
    (reached : Runs.Reachable Host.Initial (UnarmedStep config) host) : Sound config host := by
  apply Runs.invariant_of_reachable _ _ reached
  · intro first started
    exact Sound.initial started
  · rintro before after sound ⟨event, possible, unarmed, done⟩
    exact sound.perform possible unarmed after done

theorem live_of_reachable (reached : Runs.Reachable Host.Initial (Step config) host) :
    Live host := by
  apply Runs.invariant_of_reachable _ _ reached
  · intro first started
    exact Live.initial started
  · rintro before after live ⟨event, possible, done⟩
    exact live.perform possible after done

theorem reachable_of_unarmed
    (reached : Runs.Reachable Host.Initial (UnarmedStep config) host) :
    Runs.Reachable Host.Initial (Step config) host := by
  obtain ⟨first, started, path⟩ := reached
  have steps : ∀ before after : Host qps, UnarmedStep config before after →
      Step config before after := by
    rintro before after ⟨event, possible, -, done⟩
    exact ⟨event, possible, done⟩
  exact ⟨first, started, Relation.ReflTransGen.mono steps _ _ path⟩

/-- The end of a pause over work arms the scheduler once more. -/
theorem armed_twice (armed : host.schedulerEvents ≠ []) (work : host.scheduledWork ≠ [])
    (done : host.setPfcXoff config false = .ok next) (more : next.scheduledWork ≠ []) :
    1 < next.schedulerEvents.length := by
  have some_ahead := List.length_pos_iff.2 armed
  have resumed : (!false) = true ∧ (!host.scheduledWork.isEmpty) = true := by simpa using work
  unfold Host.setPfcXoff at done
  rw [if_pos resumed] at done
  cases run_cases config _ next done with
  | idle none_to_send same =>
    rcases none_to_send with paused | none_left
    · cases paused
    · exact absurd none_left work
  | waits first listed early again =>
    rw [again]
    simp only [List.length_append, List.length_singleton]
    omega
  | sends first rest listed served nextSendTime aside sent =>
    rcases schedule_next_run_spec config ((afterPacket { host with pfcXoff := false }
      first.workQueue served nextSendTime).requeue first.workQueue rest) with
      ⟨none_left, same⟩ | ⟨-, due, -, again⟩
    · rw [sent, same] at more
      exact absurd none_left more
    · rw [sent, again]
      simp only [List.length_append, List.length_singleton]
      change 1 < host.schedulerEvents.length + 1
      omega

/-- Where no pause ends over work while the scheduler is armed, it is armed once at most, its packets
are a cycle apart, and it is armed while a queue pair has a packet to send and there is no pause; and
the first pause that ends otherwise, with work left, arms it twice. -/
theorem one_scheduler_loop (reached : Runs.Reachable Host.Initial (UnarmedStep config) host) :
    Regular config host ∧ Awaited host ∧
      ∀ event next, host.Possible event → host.perform config event = .ok next →
        next.scheduledWork ≠ [] →
        (next.schedulerEvents.length ≤ 1 ↔ Unarmed host event) := by
  have sound := sound_of_reachable reached
  have live := live_of_reachable (reachable_of_unarmed reached)
  refine ⟨⟨sound.single, sound.apart⟩, live.awaited, fun event after possible done more => ?_⟩
  constructor
  · intro once
    cases event with
    | setPfcXoff xoff =>
      rintro rfl
      by_contra neither
      obtain ⟨work, armed⟩ := not_or.1 neither
      have twice := armed_twice armed work done more
      omega
    | queuePair qpId event => exact trivial
    | setRate qpId rate => exact trivial
    | runWorkScheduler => exact trivial
    | tick duration => exact trivial
  · exact fun unarmed => (sound.perform possible unarmed after done).single

instance (host : Host qps) : (event : Host.Event qps) → Decidable (Unarmed host event)
  | .setPfcXoff _ => inferInstanceAs (Decidable (_ → _ ∨ _))
  | .queuePair _ _ | .setRate _ _ | .runWorkScheduler | .tick _ => isTrue trivial

/-- A write of two packets is posted, and the first one is sent. -/
def firstOfTwo : List (Host.Event 1) :=
  [.queuePair ⟨0, Nat.one_pos⟩ (.post { opcode := .write, length := 2000, completionCallback := 0 }),
    .tick 40, .runWorkScheduler]

theorem one_scheduler_loop_first_of_two : ∃ host : Host 1,
    host.transmitted.length = 1 ∧ Regular RocePacingProofs.thousandBytes host ∧ Awaited host ∧
      ∀ event next, host.Possible event →
        host.perform RocePacingProofs.thousandBytes event = .ok next →
        next.scheduledWork ≠ [] →
        (next.schedulerEvents.length ≤ 1 ↔ Unarmed host event) := by
  have taken : ∀ (host : Host 1) event next,
      Runs.attempt (host.Possible event ∧ Unarmed host event)
        (host.perform RocePacingProofs.thousandBytes event) = some next →
      UnarmedStep RocePacingProofs.thousandBytes host next := by
    intro host event next done
    obtain ⟨⟨possible, unarmed⟩, performed⟩ := Runs.attempt_eq_some.1 done
    exact ⟨event, possible, unarmed, performed⟩
  obtain ⟨host, reached, tested⟩ := @Runs.reached_with _ Host.Initial _ _ _ taken firstOfTwo
    RocePacingProofs.newHost RocePacingProofs.initial_new_host
    (fun host => decide (host.transmitted.length = 1)) (by decide +kernel)
  exact ⟨host, of_decide_eq_true tested, one_scheduler_loop reached⟩

/-- The end of a pause that was none arms the scheduler a second time. -/
theorem resume_arms_twice : ∃ host : Host 1,
    Runs.Reachable Host.Initial (Step RocePacingProofs.thousandBytes) host ∧
      host.schedulerEvents = [388, 388] ∧ ¬ Regular RocePacingProofs.thousandBytes host := by
  have taken : ∀ (host : Host 1) event next,
      Runs.attempt (host.Possible event)
        (host.perform RocePacingProofs.thousandBytes event) = some next →
      Step RocePacingProofs.thousandBytes host next := by
    intro host event next done
    exact ⟨event, Runs.attempt_eq_some.1 done⟩
  obtain ⟨host, reached, tested⟩ := @Runs.reached_with _ Host.Initial _ _ _ taken
    (firstOfTwo ++ [.setPfcXoff false]) RocePacingProofs.newHost RocePacingProofs.initial_new_host
    (fun host => decide (host.schedulerEvents = [388, 388])) (by decide +kernel)
  have twice := of_decide_eq_true tested
  refine ⟨host, reached, twice, fun regular => ?_⟩
  have once := regular.single
  rw [twice] at once
  exact absurd once (by decide)

end Isekai.RoceSchedulerRuns
