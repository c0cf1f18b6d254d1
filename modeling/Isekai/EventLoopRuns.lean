import Isekai.EventLoopProofs

/-! Every run of the simulation environment: the books are kept by each step, and a call that no
callback stops ends at its deadline as long as no stop event of another call is in its way. -/

namespace Isekai.EventLoop.World
open SimpleEnvironment

variable {world next : World}

/-! ## Calls -/

/-- A stop event is not among the events that wait. -/
theorem waiting_emplace_stop (env : SimpleEnvironment) (deadline : Duration) :
    ((env.emplace (stopEvent deadline)).queue.filter fun event => !event.stops).Perm
      (env.queue.filter fun event => !event.stops) := by
  have queue := (List.perm_orderedInsert (fun event other => ¬ event.lower other)
    (stopEvent deadline) env.queue).filter fun event => !event.stops
  have stops : (stopEvent deadline :: env.queue).filter (fun event => !event.stops) =
      env.queue.filter fun event => !event.stops := rfl
  rw [stops] at queue
  exact queue

/-- A call puts its stop event into the queue. -/
theorem Books.start (books : world.Books) {deadline : Duration}
    (ahead : world.env.elapsedTime.1 ≤ deadline.1) (call : Option Call) :
    Books { world with
      env := { world.env.emplace (stopEvent deadline) with stopped := false }
      call := call } := by
  have waits := waiting_emplace_stop world.env deadline
  constructor
  · exact emplace_sorted _ books.sorted
  · intro event listed
    rcases (mem_emplace _ _ _).1 listed with rfl | old
    · exact ahead
    · exact books.later event old
  · intro event listed stops
    rcases (mem_emplace _ _ _).1 listed with rfl | old
    · rfl
    · exact books.stopIds event old stops
  · exact books.room
  · exact books.numbered
  · exact books.issued
  · exact books.accounted.trans (waits.symm.append_left world.executed)
  · exact books.past
  · exact books.ordered
  · exact fun event listed other waiting =>
      books.ahead event listed other (waits.mem_iff.1 waiting)

/-- The call waits for its own stop event. -/
theorem pending_start (env : SimpleEnvironment) (deadline : Duration)
    (scheduled executed : List Event) :
    Pending { env := { env.emplace (stopEvent deadline) with stopped := false }
              call := some ⟨some deadline, false⟩
              scheduled := scheduled
              executed := executed } := by
  intro call named here same kept
  cases here
  cases same
  exact ⟨rfl, (mem_emplace _ _ _).2 (.inl rfl)⟩

/-- Neither the open call nor the number of events that ran is in the books. -/
theorem Books.recount (books : world.Books) (call : Option Call) (executedEvents : UInt64) :
    Books { world with env := { world.env with executedEvents }, call } :=
  ⟨books.sorted, books.later, books.stopIds, books.room, books.numbered, books.issued,
    books.accounted, books.past, books.ordered, books.ahead⟩

/-! ## Turns -/

/-- The loop goes on, so the call has not found its stop event yet. -/
theorem Settled.pending (settled : world.Settled) (running : world.env.stopped = false) :
    world.Pending := by
  intro call deadline here named kept
  rcases settled call deadline here named kept with open_ | ⟨beyond, -⟩
  · exact open_
  · rw [running] at beyond
    cases beyond

/-- A stop event that is not left from another call is the one of the call. -/
theorem settled_stop (books : world.Books) (pending : world.Pending) {event : Event}
    {queue : List Event} (top : world.env.queue = event :: queue) (stops : event.stops = true)
    (own : world.ownStop = true) : Settled { world with
      env := { world.env with
        elapsedTime := event.scheduledTime
        queue
        stopped := true } } := by
  intro call deadline here named kept
  obtain ⟨-, queued⟩ := pending call deadline here named kept
  have later : deadline ≤ event.scheduledTime := by
    have opened : world.call = some call := here
    simpa [ownStop, top, stops, opened, named] using own
  have sooner : event.scheduledTime.1 ≤ deadline.1 := by
    have sorted := books.sorted
    rw [top] at sorted queued
    rcases List.mem_cons.1 queued with same | behind
    · rw [← same]
      exact le_refl _
    · have order := (List.pairwise_cons.1 sorted).1 _ behind
      rw [lower_iff] at order
      unfold Before at order
      have time : (stopEvent deadline).scheduledTime = deadline := rfl
      rw [time] at order
      omega
  have reached : event.scheduledTime = deadline :=
    Subtype.ext (le_antisymm sooner later)
  refine .inr ⟨rfl, reached, fun other waiting => ?_⟩
  obtain ⟨behind, user⟩ := mem_waiting.1 waiting
  rw [← reached]
  exact books.stop_last top stops behind user

/-- An event of the program leaves the stop event of the call in the queue. -/
theorem pending_take (pending : world.Pending) {event : Event} {queue : List Event}
    (top : world.env.queue = event :: queue) (user : event.stops = false)
    (executed : List Event) : Pending { world with
      env := { world.env with elapsedTime := event.scheduledTime, queue }
      executed := executed } := by
  intro call deadline here named kept
  obtain ⟨running, queued⟩ := pending call deadline here named kept
  rw [top] at queued
  refine ⟨running, (List.mem_cons.1 queued).resolve_left fun same => ?_⟩
  rw [← same] at user
  cases user

/-- One turn of the loop. -/
theorem turn_kept (books : world.Books) (settled : world.Settled) {actions : List Action}
    (untroubled : world.Untroubled (.turn actions)) (done : world.step (.turn actions) = some next) :
    next.Books ∧ next.Settled := by
  obtain ⟨⟨event, env⟩, found, after⟩ := Option.bind_eq_some_iff.1 done
  obtain ⟨running, queue, top, rfl⟩ := next_event_eq_some.1 found
  have pending := settled.pending running
  obtain ⟨-, performed⟩ := Runs.attempt_eq_some.1 after
  obtain ⟨last, called, rfl⟩ := map_eq_ok.1 performed
  unfold callback at called
  cases stops : event.stops with
  | true =>
    rw [if_pos stops] at called
    cases called
    exact ⟨(books.take_stop top stops).recount _ _,
      settled_stop books pending top stops (untroubled.1 rfl)⟩
  | false =>
    rw [if_neg (by simp [stops])] at called
    obtain ⟨kept, waits⟩ := (books.take top stops).acts
      (pending_take pending top stops _) untroubled.2 called
    exact ⟨kept.recount _ _, waits.settled⟩

/-! ## Runs -/

/-- A step that meets the condition keeps the books. -/
theorem step_kept (books : world.Books) (settled : world.Settled)
    (step : UntroubledSteps world next) : next.Books ∧ next.Settled := by
  obtain ⟨input, untroubled, done⟩ := step
  cases input with
  | act action =>
    obtain ⟨free, performed⟩ := Runs.attempt_eq_some.1 done
    have none_ : world.call = none := Option.isNone_iff_eq_none.1 free
    have pending : world.Pending := by
      intro call deadline here
      rw [none_] at here
      cases here
    obtain ⟨kept, waits, -⟩ := books.act pending untroubled.2 performed
    exact ⟨kept, waits.settled⟩
  | run =>
    obtain ⟨-, performed⟩ := Runs.attempt_eq_some.1 done
    cases performed
    refine ⟨books.recount _ _, fun call deadline here named => ?_⟩
    cases here
    cases named
  | runUntil deadline =>
    obtain ⟨-, performed⟩ := Runs.attempt_eq_some.1 done
    obtain ⟨env, started, rfl⟩ := map_eq_ok.1 performed
    obtain ⟨ahead, rfl⟩ := (start_until_eq_ok deadline).1 started
    exact ⟨books.start (le_of_lt ahead) _, (pending_start world.env deadline _ _).settled⟩
  | runFor delay =>
    obtain ⟨-, performed⟩ := Runs.attempt_eq_some.1 done
    obtain ⟨env, started, rfl⟩ := map_eq_ok.1 performed
    obtain ⟨nonnegative, rfl⟩ := (start_for_eq_ok delay).1 started
    have later := plus_later world.env.elapsedTime nonnegative
    exact ⟨books.start later _, (pending_start world.env _ _ _).settled⟩
  | turn actions => exact turn_kept books settled untroubled done
  | returns =>
    obtain ⟨-, performed⟩ := Runs.attempt_eq_some.1 done
    cases performed
    refine ⟨books.recount _ _, fun call deadline here => ?_⟩
    cases here

theorem books_reached (reached : Runs.Reachable Initial UntroubledSteps world) :
    world.Books ∧ world.Settled := by
  refine @Runs.invariant_of_reachable World Initial UntroubledSteps
    (fun world => world.Books ∧ world.Settled) ?_ ?_ _ reached
  · rintro _ rfl
    refine ⟨books_initial, fun call deadline here => ?_⟩
    cases here
  · exact fun _ _ ⟨books, settled⟩ step => step_kept books settled step

/-! ## What is promised -/

/-- The clock is not moved by callbacks. -/
theorem acts_time {actions : List Action} (done : actions.foldlM World.act world = .ok next) :
    next.env.elapsedTime = world.env.elapsedTime := by
  induction actions generalizing world with
  | nil =>
    cases done
    rfl
  | cons action rest ih =>
    rw [List.foldlM_cons] at done
    obtain ⟨middle, first, after⟩ := bind_eq_ok.1 done
    rw [ih after]
    cases action with
    | schedule delay =>
      obtain ⟨env, scheduled, rfl⟩ := map_eq_ok.1 first
      obtain ⟨-, rfl⟩ := (schedule_event_eq_ok delay).1 scheduled
      rfl
    | stop =>
      cases first
      rfl

/-- No step turns the clock back. -/
theorem Books.forward (books : world.Books) {input : Input}
    (done : world.step input = some next) : world.env.elapsedTime ≤ next.env.elapsedTime := by
  cases input with
  | act action =>
    obtain ⟨-, performed⟩ := Runs.attempt_eq_some.1 done
    have single : [action].foldlM World.act world = .ok next := by
      rw [List.foldlM_cons, performed]
      rfl
    exact le_of_eq (acts_time single).symm
  | run =>
    obtain ⟨-, performed⟩ := Runs.attempt_eq_some.1 done
    cases performed
    exact le_refl _
  | runUntil deadline =>
    obtain ⟨-, performed⟩ := Runs.attempt_eq_some.1 done
    obtain ⟨env, started, rfl⟩ := map_eq_ok.1 performed
    obtain ⟨-, rfl⟩ := (start_until_eq_ok deadline).1 started
    exact le_refl _
  | runFor delay =>
    obtain ⟨-, performed⟩ := Runs.attempt_eq_some.1 done
    obtain ⟨env, started, rfl⟩ := map_eq_ok.1 performed
    obtain ⟨-, rfl⟩ := (start_for_eq_ok delay).1 started
    exact le_refl _
  | turn actions =>
    obtain ⟨⟨event, env⟩, found, after⟩ := Option.bind_eq_some_iff.1 done
    obtain ⟨-, queue, top, rfl⟩ := next_event_eq_some.1 found
    have later := books.later event (by rw [top]; exact List.mem_cons_self)
    obtain ⟨-, performed⟩ := Runs.attempt_eq_some.1 after
    obtain ⟨last, called, rfl⟩ := map_eq_ok.1 performed
    unfold callback at called
    by_cases stops : event.stops = true
    · rw [if_pos stops] at called
      cases called
      exact later
    · rw [if_neg stops] at called
      have time := acts_time called
      change world.env.elapsedTime ≤ last.env.elapsedTime
      rw [time]
      exact later
  | returns =>
    obtain ⟨-, performed⟩ := Runs.attempt_eq_some.1 done
    cases performed
    exact le_refl _

/-- Where ids grow, an event with a lower one was scheduled before. -/
theorem pair_sublist {scheduled : List Event} {first second : Event}
    (numbered : scheduled.Pairwise fun event other => event.eventId.toNat < other.eventId.toNat)
    (one : first ∈ scheduled) (two : second ∈ scheduled)
    (lower : first.eventId.toNat < second.eventId.toNat) :
    [first, second].Sublist scheduled := by
  induction scheduled with
  | nil => cases one
  | cons event rest ih =>
    obtain ⟨above, ordered⟩ := List.pairwise_cons.1 numbered
    rcases List.mem_cons.1 two with rfl | later
    · rcases List.mem_cons.1 one with rfl | behind
      · exact absurd lower (Nat.lt_irrefl _)
      · exact absurd (above first behind) (Nat.lt_asymm lower)
    · rcases List.mem_cons.1 one with rfl | behind
      · exact .cons_cons _ (List.singleton_sublist.2 later)
      · exact .cons _ (ih ordered behind later)

theorem correct_of_books (books : world.Books) (settled : world.Settled) : world.Correct := by
  refine ⟨?_, ⟨?_, books.accounted⟩, fun input next done => books.forward done, ?_⟩
  · refine books.ordered.imp_of_mem fun {first second} one two before => ?_
    rcases before with sooner | ⟨together, lower⟩
    · exact .inl sooner
    · exact .inr ⟨Subtype.ext together, pair_sublist books.numbered
        (books.executed_scheduled one) (books.executed_scheduled two) lower⟩
  · refine books.numbered.imp fun lower same => ?_
    rw [same] at lower
    exact Nat.lt_irrefl _ lower
  · intro call deadline here beyond named kept
    rcases settled call deadline here named kept with ⟨running, queued⟩ | ⟨-, time, rest⟩
    · obtain ⟨event, queue, top⟩ := List.exists_cons_of_ne_nil (List.ne_nil_of_mem queued)
      have found := next_event_eq_some.2 ⟨running, queue, top, rfl⟩
      rw [beyond] at found
      cases found
    · exact ⟨time, rest⟩

/-- A number of quarters of a nanosecond. -/
def ticks (number : Fin 100) : Duration :=
  ⟨number, by
    have small := number.2
    unfold infiniteTicks
    omega⟩

/-- An event at 1 that schedules another one at once, and a call until 2. -/
def twoEvents : List Input :=
  [.act (.schedule (ticks 1)), .runUntil (ticks 2), .turn [.schedule (ticks 0)], .turn [], .turn []]

/-- An input that meets the condition. -/
def tryUntroubled (world : World) (input : Input) : Option World :=
  if world.Untroubled input then world.step input else none

theorem untroubled_of_try (world : World) (input : Input) (next : World)
    (tried : tryUntroubled world input = some next) : UntroubledSteps world next := by
  unfold tryUntroubled at tried
  by_cases untroubled : world.Untroubled input
  · rw [if_pos untroubled] at tried
    exact ⟨input, untroubled, tried⟩
  · rw [if_neg untroubled] at tried
    cases tried

/-- A call until 2 that an event at 1 stops, and another call until 4. -/
def stoppedCall : List Input :=
  [.act (.schedule (ticks 1)), .runUntil (ticks 2), .turn [.stop], .returns,
    .act (.schedule (ticks 2)), .runUntil (ticks 4), .turn []]

end Isekai.EventLoop.World
