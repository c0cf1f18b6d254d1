import Isekai.Runs
import Mathlib.Algebra.Order.Ring.Int
import Mathlib.Data.List.Sort

/-! The simulation environment of the tests: a queue of events by time and scheduling order, calls
that run it, and callbacks that schedule events and stop calls. The end of a call is an event in the
queue like any other. -/

namespace Isekai.EventLoop

/-- `absl::InfiniteDuration` in ticks of a quarter of a nanosecond, more than all finite ones. -/
def infiniteTicks : ℤ := 2 ^ 63 * 4000000000

abbrev Duration := {ticks : ℤ // ticks ≤ infiniteTicks}

instance : DecidableLT Duration := fun time other => Int.decLt time.1 other.1

instance : DecidableLE Duration := fun time other => Int.decLe time.1 other.1

def zeroDuration : Duration := ⟨0, by decide⟩

/-- A sum of durations saturates. -/
def Duration.plus (time delay : Duration) : Duration :=
  ⟨min infiniteTicks (time.1 + delay.1), min_le_left _ _⟩

/-- Of a callback it is known whether it is the one that `RunUntil` and `RunFor` give, which stops
the loop. What the others do is up to the program. -/
structure Event where
  eventId : UInt64
  scheduledTime : Duration
  stops : Bool
  deriving DecidableEq

/-- `operator<`: the comparison is flipped around, an event that comes earlier is higher. -/
def Event.lower (event other : Event) : Prop :=
  if event.scheduledTime = other.scheduledTime then event.eventId > other.eventId
  else event.scheduledTime > other.scheduledTime

instance (event other : Event) : Decidable (event.lower other) := by
  unfold Event.lower
  infer_instance

inductive Fatal where
  | deadlinePassed
  | negativeDelay
  deriving DecidableEq, Repr

/-- The top of the queue is its first event. -/
structure SimpleEnvironment where
  scheduledEvents : UInt64 := 0
  executedEvents : UInt64 := 0
  elapsedTime : Duration := zeroDuration
  queue : List Event := []
  stopped : Bool := false

/-- What a callback does. -/
inductive Action where
  | schedule (delay : Duration)
  | stop
  deriving DecidableEq

namespace SimpleEnvironment

def emplace (env : SimpleEnvironment) (event : Event) : SimpleEnvironment :=
  { env with queue := env.queue.orderedInsert (fun event other => ¬ event.lower other) event }

/-- The event that `ScheduleEvent` makes. -/
def newEvent (env : SimpleEnvironment) (delay : Duration) : Event :=
  ⟨env.scheduledEvents + 1, env.elapsedTime.plus delay, false⟩

def scheduleEvent (env : SimpleEnvironment) (delay : Duration) : Except Fatal SimpleEnvironment :=
  if delay < zeroDuration then .error .negativeDelay
  else .ok { env.emplace (env.newEvent delay) with scheduledEvents := env.scheduledEvents + 1 }

def stop (env : SimpleEnvironment) : SimpleEnvironment := { env with stopped := true }

/-- The id is -1, so that all scheduled events of the same time come first. -/
def stopEvent (deadline : Duration) : Event := ⟨-1, deadline, true⟩

/-- `RunUntil` up to `Run`. -/
def startUntil (env : SimpleEnvironment) (deadline : Duration) : Except Fatal SimpleEnvironment :=
  if deadline > env.elapsedTime then
    .ok { env.emplace (stopEvent deadline) with stopped := false }
  else .error .deadlinePassed

/-- `RunFor` up to `Run`. -/
def startFor (env : SimpleEnvironment) (delay : Duration) : Except Fatal SimpleEnvironment :=
  if delay ≥ zeroDuration then
    .ok { env.emplace (stopEvent (env.elapsedTime.plus delay)) with stopped := false }
  else .error .negativeDelay

/-- The top of the queue and what is left without it, unless the loop of `Run` is over. -/
def nextEvent (env : SimpleEnvironment) : Option (Event × SimpleEnvironment) :=
  if env.stopped then none
  else match env.queue with
    | [] => none
    | event :: queue => some (event, { env with elapsedTime := event.scheduledTime, queue })

end SimpleEnvironment

/-- A call of `Run`, or of `RunUntil` or `RunFor` with the time of its end, and whether a callback
has stopped it. -/
structure Call where
  deadline : Option Duration
  interrupted : Bool := false

/-- An environment, its call that has not returned yet, and the events that were scheduled and
those whose callbacks were called, in this order. -/
structure World where
  env : SimpleEnvironment := {}
  call : Option Call := none
  scheduled : List Event := []
  executed : List Event := []

/-- What happens next: `turn` is one of the loop of `Run`, with what the callback does. -/
inductive Input where
  | act (action : Action)
  | run
  | runUntil (deadline : Duration)
  | runFor (delay : Duration)
  | turn (actions : List Action)
  | returns

namespace World

def act (world : World) : Action → Except Fatal World
  | .schedule delay => (world.env.scheduleEvent delay).map fun env =>
      { world with env, scheduled := world.scheduled ++ [world.env.newEvent delay] }
  | .stop => .ok { world with
      env := world.env.stop
      call := world.call.map fun call => { call with interrupted := true } }

def countExecuted (world : World) : World :=
  { world with env.executedEvents := world.env.executedEvents + 1 }

/-- The call of a callback. -/
def callback (world : World) (event : Event) (actions : List Action) : Except Fatal World :=
  if event.stops then .ok { world with env := world.env.stop }
  else actions.foldlM act { world with executed := world.executed ++ [event] }

def step (world : World) : Input → Option World
  | .act action => Runs.attempt (world.call.isNone) (world.act action)
  | .run => Runs.attempt (world.call.isNone) (Except.ok (ε := Fatal)
      { world with call := some ⟨none, false⟩ })
  | .runUntil deadline => Runs.attempt (world.call.isNone)
      ((world.env.startUntil deadline).map fun env =>
        { world with env, call := some ⟨some deadline, false⟩ })
  | .runFor delay => Runs.attempt (world.call.isNone)
      ((world.env.startFor delay).map fun env =>
        { world with env, call := some ⟨some (world.env.elapsedTime.plus delay), false⟩ })
  | .turn actions => world.env.nextEvent.bind fun (event, env) =>
      Runs.attempt (world.call.isSome)
        (({ world with env }.callback event actions).map countExecuted)
  | .returns => Runs.attempt (world.call.isSome ∧ world.env.nextEvent.isNone)
      (Except.ok (ε := Fatal) { world with call := none })

/-- The events of the program that wait. -/
def waiting (world : World) : List Event := world.env.queue.filter fun event => !event.stops

/-- By time, and then in the order in which they were scheduled. -/
def InOrder (scheduled : List Event) (first second : Event) : Prop :=
  first.scheduledTime < second.scheduledTime ∨
    first.scheduledTime = second.scheduledTime ∧ [first, second].Sublist scheduled

/-- Events are executed in order, each of them once or it still waits; time does not go back; and a
call whose loop is over without a callback that stopped it has reached its deadline, with all events
up to it executed. -/
structure Correct (world : World) : Prop where
  ordered : world.executed.Pairwise (InOrder world.scheduled)
  once : world.scheduled.Nodup ∧ world.scheduled.Perm (world.executed ++ world.waiting)
  forward : ∀ input next, world.step input = some next →
    world.env.elapsedTime ≤ next.env.elapsedTime
  ends : ∀ call deadline, world.call = some call → world.env.nextEvent = none →
    call.deadline = some deadline → call.interrupted = false →
      world.env.elapsedTime = deadline ∧
      ∀ event ∈ world.waiting, deadline < event.scheduledTime

/-! ## When it holds -/

def schedules : Action → Bool
  | .schedule _ => true
  | .stop => false

/-- How many events an input schedules. -/
def scheduling : Input → ℕ
  | .act action => [action].countP schedules
  | .turn actions => actions.countP schedules
  | _ => 0

def turns : Input → Bool
  | .turn _ => true
  | _ => false

/-- A stop event on top of the queue is not earlier than the deadline of the call, so it is not left
from another one. -/
def ownStop (world : World) : Bool :=
  world.env.queue.head?.all fun event => !event.stops ||
    (world.call.bind Call.deadline).all fun deadline => deadline ≤ event.scheduledTime

/-- No turn takes a stop event that was left in the queue, and the ids of events do not reach the
one of stop events. -/
def Untroubled (world : World) (input : Input) : Prop :=
  (turns input → world.ownStop) ∧
    world.env.scheduledEvents.toNat + scheduling input < 2 ^ 64 - 1

instance (world : World) (input : Input) : Decidable (world.Untroubled input) :=
  inferInstanceAs (Decidable (_ ∧ _))

def Initial (world : World) : Prop := world = {}

def Steps (world next : World) : Prop := ∃ input, world.step input = some next

def UntroubledSteps (world next : World) : Prop :=
  ∃ input, world.Untroubled input ∧ world.step input = some next

end World
end Isekai.EventLoop
