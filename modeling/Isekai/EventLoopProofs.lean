import Isekai.EventLoop
import Isekai.FalconTypes

/-! Ids grow with every scheduled event and new events are not earlier than the clock, so what is
executed is before all that waits; a call ends at its own stop event or at one that was left in the
queue by a call which a callback stopped. -/

namespace Isekai.EventLoop

/-! ## The order of events -/

def Before (first second : Event) : Prop :=
  first.scheduledTime.1 < second.scheduledTime.1 ∨
    first.scheduledTime.1 = second.scheduledTime.1 ∧
      first.eventId.toNat < second.eventId.toNat

theorem lower_iff (event other : Event) : event.lower other ↔ Before other event := by
  unfold Event.lower Before
  rw [gt_iff_lt, gt_iff_lt, UInt64.lt_iff_toNat_lt]
  by_cases same : event.scheduledTime = other.scheduledTime
  · rw [if_pos same, same]
    simp
  · rw [if_neg same]
    have differ : event.scheduledTime.1 ≠ other.scheduledTime.1 := fun equal =>
      same (Subtype.ext equal)
    have times : other.scheduledTime < event.scheduledTime ↔
      other.scheduledTime.1 < event.scheduledTime.1 := Iff.rfl
    rw [times]
    omega

instance : Std.Total fun event other : Event => ¬ event.lower other where
  total := by
    intro event other
    rw [lower_iff, lower_iff]
    unfold Before
    omega

instance : IsTrans Event fun event other => ¬ event.lower other where
  trans := by
    intro first second third
    rw [lower_iff, lower_iff, lower_iff]
    unfold Before
    omega

theorem plus_later (time : Duration) {delay : Duration} (nonnegative : ¬ delay < zeroDuration) :
    time.1 ≤ (time.plus delay).1 := by
  have sign : ¬ delay.1 < 0 := nonnegative
  have bounded := time.2
  unfold Duration.plus
  dsimp only
  omega

namespace SimpleEnvironment

variable {env next : SimpleEnvironment}

theorem mem_emplace (env : SimpleEnvironment) (event other : Event) :
    other ∈ (env.emplace event).queue ↔ other = event ∨ other ∈ env.queue :=
  List.mem_orderedInsert _

theorem emplace_sorted (event : Event)
    (sorted : env.queue.Pairwise fun event other => ¬ event.lower other) :
    (env.emplace event).queue.Pairwise fun event other => ¬ event.lower other :=
  List.Pairwise.orderedInsert event _ sorted

theorem schedule_event_eq_ok (delay : Duration) : env.scheduleEvent delay = .ok next ↔
    ¬ delay < zeroDuration ∧
      { env.emplace (env.newEvent delay) with scheduledEvents := env.scheduledEvents + 1 } =
        next := by
  unfold scheduleEvent
  by_cases negative : delay < zeroDuration
  · simp [negative]
  · simp [negative]

theorem start_until_eq_ok (deadline : Duration) : env.startUntil deadline = .ok next ↔
    env.elapsedTime < deadline ∧
      { env.emplace (stopEvent deadline) with stopped := false } = next := by
  unfold startUntil
  by_cases ahead : deadline > env.elapsedTime
  · simp [ahead]
  · rw [if_neg ahead]
    simp only [reduceCtorEq, false_iff, not_and]
    exact fun later => absurd later ahead

theorem start_for_eq_ok (delay : Duration) : env.startFor delay = .ok next ↔
    ¬ delay < zeroDuration ∧
      { env.emplace (stopEvent (env.elapsedTime.plus delay)) with stopped := false } = next := by
  unfold startFor
  by_cases nonnegative : delay ≥ zeroDuration
  · rw [if_pos nonnegative, Except.ok.injEq, and_iff_right (not_lt.2 nonnegative)]
  · rw [if_neg nonnegative]
    simp only [reduceCtorEq, false_iff, not_and]
    exact fun later => absurd (not_lt.1 later) nonnegative

theorem next_event_eq_some {event : Event} : env.nextEvent = some (event, next) ↔
    env.stopped = false ∧ ∃ queue, env.queue = event :: queue ∧
      { env with elapsedTime := event.scheduledTime, queue } = next := by
  unfold nextEvent
  cases stopped : env.stopped with
  | true => simp
  | false =>
    cases queue : env.queue with
    | nil => simp
    | cons first rest =>
      simp only [Bool.false_eq_true, if_false, Option.some.injEq, Prod.mk.injEq, true_and,
        List.cons.injEq]
      constructor
      · rintro ⟨rfl, rfl⟩
        exact ⟨rest, ⟨rfl, rfl⟩, rfl⟩
      · rintro ⟨queue, ⟨rfl, rfl⟩, rfl⟩
        exact ⟨rfl, rfl⟩

end SimpleEnvironment

namespace World
open SimpleEnvironment

variable {world next : World}

theorem mem_waiting {event : Event} : event ∈ world.waiting ↔
    event ∈ world.env.queue ∧ event.stops = false := by
  simp [waiting, List.mem_filter]

/-- What holds of the queue, the clock and the two lists in all calls and between them. -/
structure Books (world : World) : Prop where
  sorted : world.env.queue.Pairwise fun event other => ¬ event.lower other
  later : ∀ event ∈ world.env.queue, world.env.elapsedTime.1 ≤ event.scheduledTime.1
  stopIds : ∀ event ∈ world.env.queue, event.stops = true → event.eventId = -1
  room : world.env.scheduledEvents.toNat < 2 ^ 64 - 1
  numbered : world.scheduled.Pairwise fun event other => event.eventId.toNat < other.eventId.toNat
  issued : ∀ event ∈ world.scheduled, event.eventId.toNat ≤ world.env.scheduledEvents.toNat
  accounted : world.scheduled.Perm (world.executed ++ world.waiting)
  past : ∀ event ∈ world.executed, event.scheduledTime.1 ≤ world.env.elapsedTime.1
  ordered : world.executed.Pairwise Before
  ahead : ∀ event ∈ world.executed, ∀ other ∈ world.waiting, Before event other

/-- The call that nothing has stopped will find its stop event. -/
def Pending (world : World) : Prop := ∀ call deadline, world.call = some call →
  call.deadline = some deadline → call.interrupted = false →
    world.env.stopped = false ∧ stopEvent deadline ∈ world.env.queue

/-- Or it has found it. -/
def Settled (world : World) : Prop := ∀ call deadline, world.call = some call →
  call.deadline = some deadline → call.interrupted = false →
    (world.env.stopped = false ∧ stopEvent deadline ∈ world.env.queue) ∨
      world.env.stopped = true ∧ world.env.elapsedTime = deadline ∧
        ∀ event ∈ world.waiting, deadline.1 < event.scheduledTime.1

theorem Pending.settled (pending : world.Pending) : world.Settled :=
  fun call deadline here named kept => .inl (pending call deadline here named kept)

theorem books_initial : Books {} := by
  constructor <;> simp [waiting]

namespace Books

theorem executed_scheduled (books : world.Books) {event : Event}
    (listed : event ∈ world.executed) : event ∈ world.scheduled :=
  books.accounted.mem_iff.2 (List.mem_append_left _ listed)

theorem waiting_scheduled (books : world.Books) {event : Event}
    (listed : event ∈ world.waiting) : event ∈ world.scheduled :=
  books.accounted.mem_iff.2 (List.mem_append_right _ listed)

/-! ## Scheduling -/

theorem schedule (books : world.Books) {delay : Duration} (nonnegative : ¬ delay < zeroDuration)
    (room : world.env.scheduledEvents.toNat + 1 < 2 ^ 64 - 1) :
    Books { world with
      env := { world.env.emplace (world.env.newEvent delay) with
        scheduledEvents := world.env.scheduledEvents + 1 }
      scheduled := world.scheduled ++ [world.env.newEvent delay] } := by
  have later := plus_later world.env.elapsedTime nonnegative
  have id : (world.env.scheduledEvents + 1).toNat = world.env.scheduledEvents.toNat + 1 := by
    rw [UInt64.toNat_add]
    simp only [UInt64.toNat_one]
    omega
  have members : ∀ event, event ∈ ((world.env.emplace (world.env.newEvent delay)).queue.filter
      fun event => !event.stops) ↔ event = world.env.newEvent delay ∨ event ∈ world.waiting := by
    intro event
    rw [List.mem_filter, mem_emplace, mem_waiting]
    constructor
    · rintro ⟨rfl | old, user⟩
      · exact .inl rfl
      · exact .inr ⟨old, by simpa using user⟩
    · rintro (rfl | ⟨old, user⟩)
      · exact ⟨.inl rfl, rfl⟩
      · exact ⟨.inr old, by simpa using user⟩
  constructor
  · exact emplace_sorted _ books.sorted
  · intro event listed
    rcases (mem_emplace _ _ _).1 listed with rfl | old
    · exact later
    · exact books.later event old
  · intro event listed stops
    rcases (mem_emplace _ _ _).1 listed with rfl | old
    · cases stops
    · exact books.stopIds event old stops
  · dsimp only
    omega
  · refine List.pairwise_append.2 ⟨books.numbered, List.pairwise_singleton _ _, ?_⟩
    intro event listed other new
    rw [List.mem_singleton.1 new]
    have issued := books.issued event listed
    unfold newEvent
    dsimp only
    omega
  · intro event listed
    dsimp only
    rcases List.mem_append.1 listed with old | new
    · have issued := books.issued event old
      omega
    · rw [List.mem_singleton.1 new]
      exact le_of_eq rfl
  · have queue := (List.perm_orderedInsert (fun event other => ¬ event.lower other)
      (world.env.newEvent delay) world.env.queue).filter fun event => !event.stops
    have user : ((world.env.newEvent delay) :: world.env.queue).filter (fun event => !event.stops) =
      world.env.newEvent delay :: world.waiting := rfl
    rw [user] at queue
    have last := List.perm_append_singleton (world.env.newEvent delay) world.scheduled
    exact last.trans ((books.accounted.cons _).trans
      ((List.perm_middle.symm).trans (queue.symm.append_left world.executed)))
  · exact books.past
  · exact books.ordered
  · intro event listed other waits
    rcases (members other).1 waits with rfl | old
    · have issued := books.issued event (books.executed_scheduled listed)
      have past := books.past event listed
      unfold Before newEvent
      dsimp only
      omega
    · exact books.ahead event listed other old

/-- An action keeps the books if there is an id for its event. -/
theorem act {action : Action} (books : world.Books) (pending : world.Pending)
    (room : world.env.scheduledEvents.toNat + [action].countP schedules < 2 ^ 64 - 1)
    (done : world.act action = .ok next) : next.Books ∧ next.Pending ∧
      next.env.scheduledEvents.toNat =
        world.env.scheduledEvents.toNat + [action].countP schedules := by
  cases action with
  | schedule delay =>
    obtain ⟨env, scheduled, rfl⟩ := map_eq_ok.1 done
    obtain ⟨nonnegative, rfl⟩ := (schedule_event_eq_ok delay).1 scheduled
    have one : [Action.schedule delay].countP schedules = 1 := rfl
    rw [one] at room ⊢
    refine ⟨books.schedule nonnegative room, ?_, ?_⟩
    · intro call deadline here named kept
      obtain ⟨running, own⟩ := pending call deadline here named kept
      exact ⟨running, (mem_emplace _ _ _).2 (.inr own)⟩
    · dsimp only
      rw [UInt64.toNat_add]
      simp only [UInt64.toNat_one]
      omega
  | stop =>
    cases done
    refine ⟨⟨books.sorted, books.later, books.stopIds, books.room, books.numbered, books.issued,
      books.accounted, books.past, books.ordered, books.ahead⟩, ?_, rfl⟩
    intro call deadline here named kept
    obtain ⟨before, _, rfl⟩ := Option.map_eq_some_iff.1 here
    cases kept

theorem acts {actions : List Action} (books : world.Books) (pending : world.Pending)
    (room : world.env.scheduledEvents.toNat + actions.countP schedules < 2 ^ 64 - 1)
    (done : actions.foldlM World.act world = .ok next) : next.Books ∧ next.Pending := by
  induction actions generalizing world with
  | nil =>
    cases done
    exact ⟨books, pending⟩
  | cons action rest ih =>
    rw [List.foldlM_cons] at done
    obtain ⟨middle, first, after⟩ := bind_eq_ok.1 done
    have count : (action :: rest).countP schedules =
        [action].countP schedules + rest.countP schedules := by
      rw [← List.countP_append]
      rfl
    rw [count] at room
    obtain ⟨kept, found, ids⟩ := books.act pending (by omega) first
    exact ih kept found (by omega) after

/-! ## Turns -/

/-- The top of the queue is an event of the program: all that was executed is before it, and it is
before all that still waits. -/
theorem take (books : world.Books) {event : Event} {queue : List Event}
    (top : world.env.queue = event :: queue) (user : event.stops = false) :
    Books { world with
      env := { world.env with elapsedTime := event.scheduledTime, queue }
      executed := world.executed ++ [event] } := by
  have waits : world.waiting = event :: queue.filter fun event => !event.stops := by
    unfold waiting
    rw [top, List.filter_cons_of_pos (by simpa using user)]
  have listed : event ∈ world.waiting := by
    rw [waits]
    exact List.mem_cons_self
  have sorted := books.sorted
  have accounted := books.accounted
  rw [top] at sorted
  rw [waits] at accounted
  obtain ⟨first, rest⟩ := List.pairwise_cons.1 sorted
  have numbered := books.numbered
  have distinct : (event :: queue.filter fun event => !event.stops).Pairwise
      fun event other => event.eventId.toNat ≠ other.eventId.toNat := by
    have apart : world.scheduled.Pairwise fun event other =>
      event.eventId.toNat ≠ other.eventId.toNat := numbered.imp Nat.ne_of_lt
    exact (List.pairwise_append.1 ((accounted.pairwise_iff fun differ => differ.symm).1 apart)).2.1
  have inQueue : ∀ other ∈ queue, other ∈ world.env.queue := fun other queued => by
    rw [top]
    exact List.mem_cons_of_mem _ queued
  have own := books.later event (by rw [top]; exact List.mem_cons_self)
  constructor
  · exact rest
  · intro other queued
    have order := first other queued
    rw [lower_iff] at order
    unfold Before at order
    dsimp only
    omega
  · exact fun other queued => books.stopIds other (inQueue other queued)
  · exact books.room
  · exact numbered
  · exact books.issued
  · dsimp only
    rw [List.append_assoc]
    exact accounted
  · intro other executed
    dsimp only
    rcases List.mem_append.1 executed with old | new
    · have past := books.past other old
      omega
    · rw [List.mem_singleton.1 new]
  · refine List.pairwise_append.2 ⟨books.ordered, List.pairwise_singleton _ _, ?_⟩
    intro other executed last new
    rw [List.mem_singleton.1 new]
    exact books.ahead other executed event listed
  · intro other executed later queued
    rcases List.mem_append.1 executed with old | new
    · refine books.ahead other old later ?_
      rw [waits]
      exact List.mem_cons_of_mem _ queued
    · rw [List.mem_singleton.1 new]
      have order := first later (List.mem_filter.1 queued).1
      have differ := (List.pairwise_cons.1 distinct).1 later queued
      rw [lower_iff] at order
      unfold Before at order ⊢
      omega

/-- The top of the queue is a stop event. -/
theorem take_stop (books : world.Books) {event : Event} {queue : List Event}
    (top : world.env.queue = event :: queue) (stops : event.stops = true) :
    Books { world with
      env := { world.env with
        elapsedTime := event.scheduledTime
        queue
        stopped := true } } := by
  have waits : world.waiting = queue.filter fun event => !event.stops := by
    unfold waiting
    rw [top, List.filter_cons_of_neg (by simpa using stops)]
  have sorted := books.sorted
  rw [top] at sorted
  obtain ⟨first, rest⟩ := List.pairwise_cons.1 sorted
  have inQueue : ∀ other ∈ queue, other ∈ world.env.queue := fun other queued => by
    rw [top]
    exact List.mem_cons_of_mem _ queued
  have own := books.later event (by rw [top]; exact List.mem_cons_self)
  refine ⟨rest, ?_, fun other queued => books.stopIds other (inQueue other queued), books.room,
    books.numbered, books.issued, ?_, ?_, books.ordered, ?_⟩
  · intro other queued
    have order := first other queued
    rw [lower_iff] at order
    unfold Before at order
    dsimp only
    omega
  · have accounted := books.accounted
    rw [waits] at accounted
    exact accounted
  · intro other executed
    have past := books.past other executed
    dsimp only
    omega
  · have ahead := books.ahead
    rw [waits] at ahead
    exact ahead

/-- The stop event on top of the queue leaves only events after its time. -/
theorem stop_last (books : world.Books) {event other : Event} {queue : List Event}
    (top : world.env.queue = event :: queue) (stops : event.stops = true)
    (queued : other ∈ queue) (user : other.stops = false) :
    event.scheduledTime.1 < other.scheduledTime.1 := by
  have sorted := books.sorted
  rw [top] at sorted
  have order := (List.pairwise_cons.1 sorted).1 other queued
  have waits : other ∈ world.waiting :=
    mem_waiting.2 ⟨by rw [top]; exact List.mem_cons_of_mem _ queued, user⟩
  have issued := books.issued other (books.waiting_scheduled waits)
  have room := books.room
  have id := books.stopIds event (by rw [top]; exact List.mem_cons_self) stops
  have last : (-1 : UInt64).toNat = 2 ^ 64 - 1 := by decide
  rw [lower_iff] at order
  unfold Before at order
  rw [id, last] at order
  omega

end Books

end World
end Isekai.EventLoop
