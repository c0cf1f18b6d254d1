import Isekai.FalconTypes
import Isekai.Runs

/-! The transmit side of a host's packet builder. It sends the packets of its queue one by one,
each a while after the one before, unless PFC frames pause it: every frame is processed after a
delay, by an event of its own, and every pause ends with an event that remembers the pause which
it is for. -/

namespace Isekai.PacketBuilder

inductive QueueState where
  | idle | active | paused
  deriving DecidableEq, Repr

inductive Transport where
  | falcon | roce
  deriving DecidableEq, Repr

/-- The classes that a PFC frame is for, and the pause quanta of each. -/
structure PfcFrame where
  classEnable : Nat → Bool := fun _ => false
  timeClass : Nat → Int := fun _ => 0

/-- A packet to build. `SendoutPacket` answers after how long the next one can be. -/
structure TxPacket where
  isRoce : Bool
  nextBuildDuration : Int
  deriving DecidableEq, Repr

structure Config where
  transport : Transport
  supportPfc : Bool := false
  rxPfcDelay : Nat := 100
  /-- The time that the pause quanta of a frame take on the transmission channel. -/
  pauseDuration : Int → Int
  txQueueLengthThreshold : Nat := 4294967295

/-- The number of classes of service of a PFC frame. -/
def classesOfService : Nat := 8

/-- The callbacks of scheduled events, with what they captured. -/
inductive Callback where
  | setPfcPaused (priority : Nat) (pauseDuration : Int)
  | wakeUpTxQueue (priority : Nat) (unpausedTime : Int)
  | encapsulateAndSend (priority : Nat)
  deriving DecidableEq, Repr

structure Scheduled where
  due : Int
  callback : Callback
  deriving DecidableEq, Repr

inductive Fatal where
  | negativeDelay
  deriving DecidableEq, Repr

structure Builder where
  now : Int := 0
  queueStates : Nat → QueueState := fun _ => .idle
  txQueueUnpauseTimes : Nat → Int := fun _ => 0
  txQueue : List TxPacket := []
  /-- The events of the environment that have not run. -/
  scheduled : List Scheduled := []
  /-- What the transport was told last: by the length of the queue, and by PFC. -/
  falconXoff : Bool := false
  pfcXoff : Bool := false
  /-- The packets that were sent, in order; nothing reads them. -/
  sent : List TxPacket := []

namespace Builder

/-- `OmnestEnvironment::ScheduleEvent`. -/
def scheduleEvent (builder : Builder) (delay : Int) (callback : Callback) :
    Except Fatal Builder :=
  if delay < 0 then .error .negativeDelay
  else .ok { builder with
    scheduled := builder.scheduled ++ [{ due := builder.now + delay, callback }] }

def setQueueState (builder : Builder) (priority : Nat) (state : QueueState) : Builder :=
  { builder with queueStates := Function.update builder.queueStates priority state }

/-- `SetFalconFlowControl`. -/
def setFalconFlowControl (config : Config) (builder : Builder) (xoff : Bool) : Builder :=
  if config.transport = .falcon then { builder with falconXoff := xoff } else builder

/-- `SetPfcXoff` of the transport, which only RoCE has. -/
def setPfcXoff (config : Config) (builder : Builder) (xoff : Bool) : Builder :=
  if config.transport = .roce then { builder with pfcXoff := xoff } else builder

/-- `EncapsulateAndSendTransportPacket`, with the packet's protocol. Only Falcon's half ends the
flow control of a long queue. -/
def encapsulateAndSend (config : Config) (builder : Builder) (priority : Nat) :
    Except Fatal Builder :=
  if builder.queueStates priority = .paused then .ok builder
  else
    match builder.txQueue with
    | [] => .ok (builder.setQueueState priority .idle)
    | packet :: rest =>
      let dequeued := { builder with txQueue := rest, sent := builder.sent ++ [packet] }
      let relieved :=
        if !packet.isRoce && rest.length + 1 = config.txQueueLengthThreshold then
          setFalconFlowControl config dequeued false
        else dequeued
      relieved.scheduleEvent packet.nextBuildDuration (.encapsulateAndSend priority)

/-- `EnqueuePacket`: there is one queue, that of priority 0. -/
def enqueuePacket (config : Config) (builder : Builder) (packet : TxPacket) :
    Except Fatal Builder :=
  let enqueued := { builder with txQueue := builder.txQueue ++ [packet] }
  let limited :=
    if enqueued.txQueue.length = config.txQueueLengthThreshold then
      setFalconFlowControl config enqueued true
    else enqueued
  if limited.queueStates 0 = .idle then
    encapsulateAndSend config (limited.setQueueState 0 .active) 0
  else .ok limited

/-- `HandlePfc` for one class. -/
def handleClass (config : Config) (frame : PfcFrame) (builder : Builder) (priority : Nat) :
    Except Fatal Builder :=
  if frame.classEnable priority then
    builder.scheduleEvent config.rxPfcDelay
      (.setPfcPaused priority (config.pauseDuration (frame.timeClass priority)))
  else .ok builder

def handlePfc (config : Config) (builder : Builder) (frame : PfcFrame) : Except Fatal Builder :=
  (List.range classesOfService).foldlM (handleClass config frame) builder

/-- `SetPfcPaused`. -/
def setPfcPaused (config : Config) (builder : Builder) (priority : Nat) (pauseDuration : Int) :
    Except Fatal Builder :=
  let told := setPfcXoff config builder (decide (pauseDuration ≠ 0))
  let unpausedTime := told.now + pauseDuration
  let paused := { told with
    txQueueUnpauseTimes := Function.update told.txQueueUnpauseTimes priority unpausedTime }
  (paused.setQueueState priority .paused).scheduleEvent pauseDuration
    (.wakeUpTxQueue priority unpausedTime)

/-- `WakeUpTxQueue`: the event of a pause that another one replaced does nothing. -/
def wakeUpTxQueue (config : Config) (builder : Builder) (priority : Nat) (unpausedTime : Int) :
    Except Fatal Builder :=
  if unpausedTime = builder.txQueueUnpauseTimes priority then
    encapsulateAndSend config
      ((setPfcXoff config builder false).setQueueState priority .active) priority
  else .ok builder

/-- The event runs. -/
def run (config : Config) (builder : Builder) (event : Scheduled) : Except Fatal Builder :=
  let taken := { builder with scheduled := builder.scheduled.erase event }
  match event.callback with
  | .setPfcPaused priority pauseDuration => setPfcPaused config taken priority pauseDuration
  | .wakeUpTxQueue priority unpausedTime => wakeUpTxQueue config taken priority unpausedTime
  | .encapsulateAndSend priority => encapsulateAndSend config taken priority

end Builder

/-! ## Runs -/

/-- What the transport and the network hand over, the events that are due, and the passing of
time. -/
inductive Event where
  | enqueuePacket (packet : TxPacket)
  | handlePfc (frame : PfcFrame)
  | run (event : Scheduled)
  | advance (time : Int)

/-- Events run when they are due, in any order; time passes up to the first of them. -/
def Event.Possible (config : Config) (builder : Builder) : Event → Prop
  | .enqueuePacket _ => True
  | .handlePfc _ => config.supportPfc = true
  | .run event => event ∈ builder.scheduled ∧ event.due = builder.now
  | .advance time => builder.now < time ∧ ∀ event ∈ builder.scheduled, time ≤ event.due

instance Event.decidablePossible (config : Config) (builder : Builder) :
    (event : Event) → Decidable (event.Possible config builder)
  | .enqueuePacket _ => inferInstanceAs (Decidable True)
  | .handlePfc _ => inferInstanceAs (Decidable (_ = _))
  | .run _ | .advance _ => inferInstanceAs (Decidable (_ ∧ _))

def perform (config : Config) (builder : Builder) : Event → Except Fatal Builder
  | .enqueuePacket packet => builder.enqueuePacket config packet
  | .handlePfc frame => builder.handlePfc config frame
  | .run event => builder.run config event
  | .advance time => .ok { builder with now := time }

end Isekai.PacketBuilder
