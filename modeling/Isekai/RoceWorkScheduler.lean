import Isekai.RoceModel
import Isekai.Outcomes

/-! The work scheduler of a RoCE host. The active work queues of all queue pairs stand in an ordered
set, each with the time from which it may send, and the scheduler serves the first one when its time
has come. Sending a packet moves the time from which its queue pair may send again, as its rate
allows. Times are in quarters of a nanosecond, which is the resolution of a duration. -/

namespace Isekai.RoceWorkScheduler
open Outcomes Roce

/-- `Nanoseconds`. -/
def nanoseconds (count : Nat) : Int :=
  4 * count

def bthHeaderSize : UInt32 := 12
def rethHeaderSize : UInt32 := 16
def aethHeaderSize : UInt32 := 4

/-- `GetHeaderSize`. -/
def getHeaderSize : Opcode → UInt32
  | .sendFirst | .sendMiddle | .sendLast | .sendOnly => bthHeaderSize
  | .writeFirst | .writeOnly => bthHeaderSize + rethHeaderSize
  | .writeMiddle | .writeLast => bthHeaderSize
  | .readRequest => bthHeaderSize + rethHeaderSize
  | .readResponseFirst | .readResponseLast | .readResponseOnly => bthHeaderSize + aethHeaderSize
  | .readResponseMiddle => bthHeaderSize
  | .ack => bthHeaderSize + aethHeaderSize
  | .congestionNotification => bthHeaderSize

/-- What is configured for a host. -/
structure HostConfig extends Config where
  outerHeaderSize : UInt32
  chipCycleTimeNs : UInt64

/-- `WorkQueue`. -/
structure WorkQueue (qps : Nat) where
  qpId : Fin qps
  workType : WorkType
  deriving DecidableEq, Repr

/-- `operator<`. -/
def WorkQueue.less {qps : Nat} (one two : WorkQueue qps) : Bool :=
  one.qpId < two.qpId ∨
    one.qpId = two.qpId ∧ one.workType = .request ∧ two.workType = .response

/-- A work queue in the ordered set, with the time from which it may send. -/
structure ScheduledWork (qps : Nat) where
  nextSendTime : Int
  workQueue : WorkQueue qps
  deriving DecidableEq, Repr

/-- The order of pairs. -/
def ScheduledWork.less {qps : Nat} (one two : ScheduledWork qps) : Bool :=
  one.nextSendTime < two.nextSendTime ∨
    one.nextSendTime = two.nextSendTime ∧ one.workQueue.less two.workQueue

/-- The insertion into the ordered set. -/
def insertWork {qps : Nat} (entry : ScheduledWork qps) :
    List (ScheduledWork qps) → List (ScheduledWork qps)
  | [] => [entry]
  | first :: rest =>
    if entry.less first then entry :: first :: rest
    else if first.less entry then first :: insertWork entry rest
    else first :: rest

/-- A packet of a work queue that was passed to the packet builder, when that was, and the time from
which its queue pair may send again. -/
structure Transmission (qps : Nat) where
  workQueue : WorkQueue qps
  time : Int
  nextSendTime : Int
  deriving DecidableEq, Repr

/-- The model with its queue pairs, their rates in Mbps, the state of the work scheduler, and the
times for which it is scheduled to run. -/
structure Host (qps : Nat) where
  contexts : Fin qps → QpContext
  rate : Fin qps → UInt64
  nextSendTime : Fin qps → Int := fun _ => 0
  scheduledWork : List (ScheduledWork qps) := []
  lastSchedulerRunTime : Int := 0
  pfcXoff : Bool := false
  now : Int := 0
  schedulerEvents : List Int := []
  transmitted : List (Transmission qps) := []

namespace Host

variable {qps : Nat} (config : HostConfig) (host : Host qps)

/-- `AddWorkQueueToActiveSet` for a work queue that has work and was not active. -/
def addWorkQueueToActiveSet (workQueue : WorkQueue qps) : Host qps :=
  let inserted := { host with
    scheduledWork := insertWork
      ⟨max host.now (host.nextSendTime workQueue.qpId), workQueue⟩ host.scheduledWork }
  if host.scheduledWork.isEmpty then
    { inserted with schedulerEvents := inserted.schedulerEvents ++
        [max (host.lastSchedulerRunTime + nanoseconds config.chipCycleTimeNs.toNat) host.now] }
  else inserted

/-- The work queues that an event of a queue pair activates. -/
def activated (before after : QpContext) : List WorkType :=
  [.request, .response].filter fun workType =>
    after.isWorkQueueActive workType && !before.isWorkQueueActive workType

/-- An event of a queue pair. -/
def performAt (qpId : Fin qps) (event : QpContext.Event) : Except Fault (Host qps) :=
  ((host.contexts qpId).perform config.toConfig event).map fun next =>
    (activated (host.contexts qpId) next).foldl
      (fun host workType => host.addWorkQueueToActiveSet config ⟨qpId, workType⟩)
      { host with contexts := Function.update host.contexts qpId next }

/-- The size of a packet, in the arithmetic of 32 bits. -/
def packetSize (packet : Packet) : UInt32 :=
  packet.payloadLength + getHeaderSize packet.opcode + config.outerHeaderSize

/-- The time that a rate allows for a packet. -/
def sendingTime (packet : Packet) (rate : UInt64) : Int :=
  nanoseconds ((packetSize config packet * 8 * 1000).toUInt64 / rate).toNat

/-- The packet that `TransmitPacket` creates. -/
def createPacket (context : QpContext) : WorkType → Except Fault Packet
  | .request => (context.createRequestPacket config.toConfig).map Prod.fst
  | .response => (context.createResponsePacket config.toConfig).map Prod.fst

/-- `TransmitPacket`. -/
def transmitPacket (workQueue : WorkQueue qps) : Except Fault (Host qps) :=
  let context := host.contexts workQueue.qpId
  (createPacket config context workQueue.workType).bind fun packet =>
  (context.transmitPacket config.toConfig workQueue.workType).map fun next =>
    let nextSendTime := host.now + sendingTime config packet (host.rate workQueue.qpId)
    { host with
      contexts := Function.update host.contexts workQueue.qpId next
      nextSendTime := Function.update host.nextSendTime workQueue.qpId nextSendTime
      transmitted := host.transmitted ++ [⟨workQueue, host.now, nextSendTime⟩] }

/-- What `RunWorkScheduler` does with a work queue that was served: it is inserted again if it has
more work, and else it is not active any more. -/
def requeue (workQueue : WorkQueue qps) (rest : List (ScheduledWork qps)) : Host qps :=
  let context := host.contexts workQueue.qpId
  let more := context.hasMoreWork workQueue.workType
  { host with
    contexts := Function.update host.contexts workQueue.qpId
      (context.setWorkQueueActive more workQueue.workType)
    scheduledWork :=
      if more then insertWork ⟨host.nextSendTime workQueue.qpId, workQueue⟩ rest else rest }

/-- When `RunWorkScheduler` is to run again. -/
def scheduleNextRun : Host qps :=
  match host.scheduledWork with
  | [] => host
  | next :: _ =>
    let cycle := nanoseconds config.chipCycleTimeNs.toNat
    let delta :=
      if host.now ≤ next.nextSendTime then
        max (next.nextSendTime - host.lastSchedulerRunTime) cycle
      else cycle
    { host with schedulerEvents := host.schedulerEvents ++ [host.now + delta] }

def runWorkScheduler : Except Fault (Host qps) :=
  if host.pfcXoff then .ok host
  else
    match host.scheduledWork with
    | [] => .ok host
    | first :: rest =>
      if host.now < first.nextSendTime then
        .ok { host with schedulerEvents := host.schedulerEvents ++ [first.nextSendTime] }
      else
        ({ host with lastSchedulerRunTime := host.now }.transmitPacket config
          first.workQueue).map fun (sent : Host qps) =>
            (sent.requeue first.workQueue rest).scheduleNextRun config

/-- `SetPfcXoff`. -/
def setPfcXoff (xoff : Bool) : Except Fault (Host qps) :=
  let paused := { host with pfcXoff := xoff }
  if !xoff ∧ !host.scheduledWork.isEmpty then paused.runWorkScheduler config else .ok paused

/-! ## Runs -/

/-- What can happen to a host: an event of a queue pair, a change of its rate, a pause, the scheduler
runs, or time passes. -/
inductive Event (qps : Nat) where
  | queuePair (qpId : Fin qps) (event : QpContext.Event)
  | setRate (qpId : Fin qps) (rate : UInt64)
  | setPfcXoff (xoff : Bool)
  | runWorkScheduler
  | tick (duration : Int)

/-- The events of a queue pair by itself. -/
def ofQueuePair : QpContext.Event → Bool
  | .transmit _ | .tick _ => false
  | .post _ | .receive _ | .retransmissionTimer | .ackCoalescingTimer => true

def Possible : Event qps → Prop
  | .queuePair qpId event => ofQueuePair event = true ∧ (host.contexts qpId).Possible event
  | .setRate _ rate => 0 < rate
  | .setPfcXoff _ => True
  | .runWorkScheduler => host.now ∈ host.schedulerEvents
  | .tick duration => 0 < duration ∧ (∀ due ∈ host.schedulerEvents, host.now + duration ≤ due) ∧
    ∀ qpId, (host.contexts qpId).Possible (.tick duration)

instance : (event : Event qps) → Decidable (host.Possible event)
  | .queuePair _ _ => inferInstanceAs (Decidable (_ ∧ _))
  | .setRate _ _ => inferInstanceAs (Decidable (_ < _))
  | .setPfcXoff _ => .isTrue trivial
  | .runWorkScheduler => inferInstanceAs (Decidable (_ ∈ _))
  | .tick _ => inferInstanceAs (Decidable (_ ∧ _))

def perform : Event qps → Except Fault (Host qps)
  | .queuePair qpId event => host.performAt config qpId event
  | .setRate qpId rate => .ok { host with rate := Function.update host.rate qpId rate }
  | .setPfcXoff xoff => host.setPfcXoff config xoff
  | .runWorkScheduler =>
    { host with schedulerEvents := host.schedulerEvents.erase host.now }.runWorkScheduler config
  | .tick duration => .ok { host with
      now := host.now + duration
      contexts := fun qpId =>
        { host.contexts qpId with now := (host.contexts qpId).now + duration } }

/-- A host with queue pairs that were just created. -/
def Initial : Prop :=
  (∀ qpId, (host.contexts qpId).Initial ∧ 0 < host.rate qpId) ∧
    host = { contexts := host.contexts, rate := host.rate }

/-- The state after some events, if each of them is possible and succeeds. -/
def run (events : List (Event qps)) : Option (Host qps) :=
  Runs.execute (fun host event => Runs.attempt (host.Possible event) (host.perform config event))
    events host

end Host
end Isekai.RoceWorkScheduler
