import Isekai.Dcqcn

/-! The timers of DCQCN. A rate-increase timer is never taken back: it is stale when the start time
that its queue pair has stored is another one. The start time is read when the timer fires, the
increase comes with the lookup after it, and a decrease between the two, or at the instant of an
increase, leaves two timers that are both valid. -/

namespace Isekai.DcqcnTimers
open Dcqcn Runs

variable {Qp : Type} [DecidableEq Qp]

/-- The timers and the callbacks of the lookups that they initiate. -/
inductive Callback (Qp : Type) where
  | alphaUpdateTimer (qpId : Qp)
  | rateDecreaseTimer (qpId : Qp)
  | rateIncreaseTimer (qpId : Qp)
  | alphaUpdateLookup (qpId : Qp)
  | rateDecreaseLookup (qpId : Qp)
  | rateIncreaseLookup (qpId : Qp)
  deriving DecidableEq

structure Scheduled (Qp : Type) where
  due : ℕ
  callback : Callback Qp
  deriving DecidableEq

/-- A rate increase by the timer, or a rate decrease, and its time. -/
inductive RateChange where
  | increase (time : ℕ)
  | decrease (time : ℕ)
  deriving DecidableEq

def RateChange.time : RateChange → ℕ
  | .increase time | .decrease time => time

/-- The queue pairs with the events ahead. The rate changes of each queue pair are recorded beside,
the last one first. -/
structure Simulation (Qp : Type) where
  now : ℕ
  contexts : Qp → QpContext
  scheduled : List (Scheduled Qp)
  changes : Qp → List RateChange

namespace Simulation

def start (options : Options) : Simulation Qp where
  now := 0
  contexts := fun _ => initContext options
  scheduled := []
  changes := fun _ => []

/-- `ScheduleEvent`. -/
def scheduleEvent (simulation : Simulation Qp) (delay : ℕ) (callback : Callback Qp) :
    Simulation Qp :=
  { simulation with
    scheduled := simulation.scheduled ++ [Scheduled.mk (simulation.now + delay) callback] }

/-- `InitiateQpLookup`. -/
def initiateQpLookup (simulation : Simulation Qp) (callback : Callback Qp) : Simulation Qp :=
  simulation.scheduleEvent 0 callback

def setContext (simulation : Simulation Qp) (qpId : Qp) (context : QpContext) : Simulation Qp :=
  { simulation with contexts := Function.update simulation.contexts qpId context }

def record (simulation : Simulation Qp) (qpId : Qp) (change : RateChange) : Simulation Qp :=
  { simulation with
    changes := Function.update simulation.changes qpId (change :: simulation.changes qpId) }

/-- `HandleRxPacket`. -/
def handleRxPacket (options : Options) (simulation : Simulation Qp) (qpId : Qp)
    (opcode : Roce.Opcode) : Simulation Qp :=
  if opcode ≠ .congestionNotification then simulation
  else
    let context := simulation.contexts qpId
    let notified := simulation.setContext qpId (receiveCnp options simulation.now context)
    if context.firstCnp then
      (((notified.scheduleEvent (microseconds options.dceAlphaUpdatePeriod)
        (.alphaUpdateTimer qpId)).scheduleEvent (microseconds options.rateReduceMonitorPeriod)
        (.rateDecreaseTimer qpId)).scheduleEvent (microseconds options.timeReset)
        (.rateIncreaseTimer qpId)).record qpId (.decrease simulation.now)
    else notified

/-- What runs when an event is due. -/
def run (options : Options) (simulation : Simulation Qp) : Callback Qp → Simulation Qp
  | .alphaUpdateTimer qpId => simulation.initiateQpLookup (.alphaUpdateLookup qpId)
  | .alphaUpdateLookup qpId =>
    (simulation.setContext qpId (updateAlpha options (simulation.contexts qpId))).scheduleEvent
      (microseconds options.dceAlphaUpdatePeriod) (.alphaUpdateTimer qpId)
  | .rateDecreaseTimer qpId => simulation.initiateQpLookup (.rateDecreaseLookup qpId)
  | .rateDecreaseLookup qpId =>
    let context := simulation.contexts qpId
    let monitored := simulation.scheduleEvent (microseconds options.rateReduceMonitorPeriod)
      (.rateDecreaseTimer qpId)
    if context.decreaseCnpArrived then
      ((monitored.setContext qpId (decreaseRate options simulation.now context)).scheduleEvent
        (microseconds options.timeReset) (.rateIncreaseTimer qpId)).record qpId
        (.decrease simulation.now)
    else monitored
  | .rateIncreaseTimer qpId =>
    let startTime := (simulation.contexts qpId).rateIncreaseTimerStartTime
    if startTime + microseconds options.timeReset ≠ simulation.now then simulation
    else simulation.initiateQpLookup (.rateIncreaseLookup qpId)
  | .rateIncreaseLookup qpId =>
    ((simulation.scheduleEvent (microseconds options.timeReset)
      (.rateIncreaseTimer qpId)).setContext qpId
      (increaseByTimer options simulation.now (simulation.contexts qpId))).record qpId
      (.increase simulation.now)

/-- What can happen: a packet is received, bytes are counted, one of the events that are due runs, or
time goes on where none is left. -/
inductive Action (Qp : Type) where
  | packet (qpId : Qp) (opcode : Roce.Opcode)
  | bytes (qpId : Qp) (bytes : UInt32)
  | event (callback : Callback Qp)
  | elapse (later : ℕ)

def perform (options : Options) (simulation : Simulation Qp) : Action Qp → Option (Simulation Qp)
  | .packet qpId opcode => some (simulation.handleRxPacket options qpId opcode)
  | .bytes qpId bytes =>
    (sentBytes options bytes (simulation.contexts qpId)).map (simulation.setContext qpId)
  | .event callback =>
    let event := Scheduled.mk simulation.now callback
    if event ∈ simulation.scheduled then
      some (run options { simulation with scheduled := simulation.scheduled.erase event } callback)
    else none
  | .elapse later =>
    if simulation.now ≤ later ∧ ∀ event ∈ simulation.scheduled, later ≤ event.due then
      some { simulation with now := later }
    else none

/-- The rate is not about to be decreased while an increase is under way, nor at the instant at which
the increase timer was started. -/
def Undisturbed (simulation : Simulation Qp) : Action Qp → Prop
  | .event (.rateDecreaseLookup qpId) =>
    (simulation.contexts qpId).decreaseCnpArrived →
      (simulation.contexts qpId).rateIncreaseTimerStartTime ≠ simulation.now ∧
        ∀ event ∈ simulation.scheduled, event.callback ≠ .rateIncreaseLookup qpId
  | _ => True

/-- Any action. -/
def Step (options : Options) (simulation next : Simulation Qp) : Prop :=
  ∃ action, simulation.perform options action = some next

/-- Any action under which the increase timer stays the only one. -/
def UndisturbedStep (options : Options) (simulation next : Simulation Qp) : Prop :=
  ∃ action, simulation.Undisturbed action ∧ simulation.perform options action = some next

/-- An increase that is under way, or a timer that the stored start time has not made stale. -/
def Alive (options : Options) (simulation : Simulation Qp) (qpId : Qp) (event : Scheduled Qp) :
    Prop :=
  event.callback = .rateIncreaseLookup qpId ∨ event.callback = .rateIncreaseTimer qpId ∧
    event.due =
      (simulation.contexts qpId).rateIncreaseTimerStartTime + microseconds options.timeReset

instance (options : Options) (simulation : Simulation Qp) (qpId : Qp) :
    DecidablePred (simulation.Alive options qpId) :=
  fun _ => inferInstanceAs (Decidable (_ ∨ _))

/-- How many timer chains of a queue pair go on. -/
def chains (options : Options) (simulation : Simulation Qp) (qpId : Qp) : ℕ :=
  simulation.scheduled.countP (simulation.Alive options qpId)

end Simulation

/-- A rate increase comes at least the reset time after a rate change before it. -/
def Apart (options : Options) : RateChange → RateChange → Prop
  | .increase time, earlier => earlier.time + microseconds options.timeReset ≤ time
  | .decrease _, _ => True

instance (options : Options) : DecidableRel (Apart options)
  | .increase _, _ => inferInstanceAs (Decidable (_ ≤ _))
  | .decrease _, _ => isTrue trivial

end Isekai.DcqcnTimers
