import Isekai.FalconTypes
import Isekai.MemoryManagementUnit
import Isekai.Runs

/-! A network router: packets arrive at its ports, wait for the routing pipeline, are enqueued at
an output port or dropped, and are sent when the port is free and their queue is not paused. The
memory management unit pauses senders by frames that the ports send before any packet, and the
frames that the router receives pause its own queues until a refreshment event. Messages are
events with a time; those of a kind that the source has once for each port or queue are pending
or not. -/

namespace Isekai.NetworkRouter
open MemoryManagementUnit

inductive PortState where
  | idle | active
  deriving DecidableEq, Repr

/-- The classes that a PFC frame is for, and the pause quanta of each. -/
structure PfcFrame where
  classEnable : Nat → Bool := fun _ => false
  timeClass : Nat → Int := fun _ => 0

/-- A network port, its packet queues apart. -/
structure Port where
  state : PortState := .idle
  pfcQueue : List PfcFrame := []
  /-- `getTransmissionFinishTime` of the port's channel. -/
  transmissionFinish : Nat := 0

/-- A received packet. The router reads its size in cells, its priority, its TTL and where it
goes. -/
structure Packet where
  id : Nat
  size : Nat
  priority : Nat := 0
  timeToLive : Nat
  destination : Nat
  deriving DecidableEq, Repr

/-- A packet in the router is on its way to the routing pipeline, by a delayed event, or in an
output queue. -/
inductive Place where
  | pipeline (due : Nat)
  | outputQueue (queue : QueueId)
  deriving DecidableEq, Repr

/-- When the routing pipeline handles a packet. -/
def Place.due : Place → Option Nat
  | .pipeline due => some due
  | .outputQueue _ => none

structure HeldPacket where
  packet : Packet
  tag : TaggedPacket
  place : Place
  deriving DecidableEq, Repr

structure Config where
  mmu : MemoryManagementUnit.Config
  portsNum : Nat
  queuesNum : Nat
  pfcXon : Bool := true
  rxPfcDelay : Nat := 0
  pfcPauseDuration : Nat := 0
  maxFrameTransmissionTime : Nat → Nat := fun _ => 0
  routerDelay : Nat := 600
  ifgDelay : Nat → Nat := fun _ => 0
  /-- The time that the channel of a port takes for a packet of some cells, or a PFC frame. -/
  transmissionTime : Nat → Nat → Nat
  pfcTransmissionTime : Nat → Nat
  /-- `ConvertToPauseDuration` and `ConvertToPauseQuanta` at a port. -/
  pauseDuration : Nat → Int → Int
  pauseQuanta : Nat → Nat → Int
  /-- `GetOutputPort`: the routing table and the selection among its ports. -/
  outputPort : Packet → Option Nat
  connected : Nat → Bool := fun _ => true

/-- The delay for enqueueing one packet. -/
def enqueueDelay : Nat := 10

/-- The number of classes of service of a PFC frame. -/
def classesOfService : Nat := 8

structure Router where
  now : Nat := 0
  ingress : Ingress
  egress : Egress
  /-- What the router holds; an output queue has its packets in this order. -/
  held : List HeldPacket := []
  ports : Nat → Port := fun _ => {}
  /-- `output_schedule_messages_`, by port. -/
  outputDue : Nat → Option Nat := fun _ => none
  unpauseTimes : QueueId → Nat := fun _ => 0
  /-- `pfc_set_paused_messages_`: when, and the pause duration. -/
  setPausedDue : QueueId → Option (Nat × Int) := fun _ => none
  /-- `pfc_refreshment_messages_`. -/
  refreshmentDue : QueueId → Option Nat := fun _ => none
  /-- `pfc_send_pause_messages_`. -/
  sendPauseDue : QueueId → Option Nat := fun _ => none
  /-- The packets that left the router after their admission, and those whose ingress memory was
  released, in order; nothing reads them. -/
  departed : List Nat := []
  released : List Nat := []

def update {Key Value : Type} [DecidableEq Key] (map : Key → Value) (key : Key) (value : Value) :
    Key → Value :=
  fun other => if other = key then value else map other

namespace Router

def packetQueue (router : Router) (queue : QueueId) : List HeldPacket :=
  router.held.filter fun held => held.place = .outputQueue queue

def setPort (router : Router) (port : Nat) (value : Port) : Router :=
  { router with ports := update router.ports port value }

/-- `NetworkRouter::ScheduleOutput`. -/
def scheduleOutput (router : Router) (port delay : Nat) : Except Fatal Router :=
  if router.outputDue port ≠ none then .error .outputAlreadyScheduled
  else .ok { router with outputDue := update router.outputDue port (some (router.now + delay)) }

/-- The end of `EnqueuePacket` and `GeneratePfc`: an idle port becomes active. -/
def wakeUp (router : Router) (port : Nat) : Except Fatal Router :=
  if (router.ports port).state = .idle then
    (router.setPort port { router.ports port with state := .active }).scheduleOutput port
      enqueueDelay
  else .ok router

/-! ## Sending PFC frames -/

/-- `CreatePfcPacket` and `PfcFrameUpdate`. -/
def setClass (frame : PfcFrame) (priority : Nat) (pauseUnits : Int) : PfcFrame where
  classEnable := update frame.classEnable priority true
  timeClass := update frame.timeClass priority pauseUnits

def generatePfc (router : Router) (port priority : Nat) (pauseUnits : Int) :
    Except Fatal Router :=
  match (router.ports port).pfcQueue with
  | [] =>
    (router.setPort port { router.ports port with
      pfcQueue := [setClass {} priority pauseUnits] }).wakeUp port
  | [frame] =>
    (router.setPort port { router.ports port with
      pfcQueue := [setClass frame priority pauseUnits] }).wakeUp port
  | _ => .error .wrongPfcGeneration

/-- `SendPfc`: a pause frame now, and the next one before its duration is over. -/
def sendPfc (config : Config) (router : Router) (queue : QueueId) : Except Fatal Router :=
  if (router.ingress.queues queue).pfcSendingTriggered then
    let delay := config.pfcPauseDuration +
      ((router.ports queue.port).transmissionFinish - router.now)
    if delay < config.maxFrameTransmissionTime queue.port then .error .eventInThePast
    else
      (router.generatePfc queue.port queue.priority
        (config.pauseQuanta queue.port config.pfcPauseDuration)).map fun sent =>
          { sent with
            sendPauseDue := update sent.sendPauseDue queue
              (some (router.now + (delay - config.maxFrameTransmissionTime queue.port))) }
  else .ok router

/-- What `DisablePfcSending` does after it clears the flag. -/
def sendXon (config : Config) (router : Router) (queue : QueueId) : Except Fatal Router :=
  if config.pfcXon then router.generatePfc queue.port queue.priority 0 else .ok router

/-! ## Receiving -/

/-- The counters of the unit after a packet, and its first pause frame if the packet starts a
pause. -/
def countIngress (config : Config) (router : Router) (queue : QueueId) (ingress : Ingress) :
    Except Fatal Router :=
  if !(router.ingress.queues queue).pfcSendingTriggered &&
      (ingress.queues queue).pfcSendingTriggered then
    sendPfc config { router with ingress } queue
  else .ok { router with ingress }

/-- `NetworkPort::ReceivePacket` for a data packet within the MTU. The unit sends its first pause
in the midst of `ReceivedData`; neither reads what the other writes later. -/
def receiveData (config : Config) (router : Router) (port : Nat) (packet : Packet) :
    Except Fatal Router :=
  let queue : QueueId := ⟨port, packet.priority⟩
  router.ingress.receivedData config.mmu queue packet.size >>= fun admitted =>
    (router.countIngress config queue admitted.2).map fun counted =>
      if admitted.1.drop then counted
      else
        { counted with
          held := counted.held ++ [{
            packet
            tag := addIngressTag queue packet.size admitted.1
            place := .pipeline (router.now + config.routerDelay) }] }

/-- `ReceivedPfc` for one class: the message that will set its pause. -/
def receiveClass (config : Config) (frame : PfcFrame) (port : Nat) (router : Router)
    (priority : Nat) : Except Fatal Router :=
  let queue : QueueId := ⟨port, priority⟩
  if frame.classEnable priority then
    if router.setPausedDue queue ≠ none then .error .eventAlreadyScheduled
    else
      .ok { router with
        setPausedDue := update router.setPausedDue queue (some (router.now + config.rxPfcDelay,
          config.pauseDuration port (frame.timeClass priority))) }
  else .ok router

def receivePfc (config : Config) (router : Router) (port : Nat) (frame : PfcFrame) :
    Except Fatal Router :=
  (List.range classesOfService).foldlM (receiveClass config frame port) router

/-! ## Routing -/

/-- An admitted packet that is deleted before it is sent. -/
def discard (router : Router) (packet : Packet) : Router :=
  { router with departed := router.departed ++ [packet.id] }

/-- `NetworkPort::EnqueuePacket`, with the queue's `Enqueue`. -/
def enqueuePacket (config : Config) (router : Router) (packet : Packet) (tag : TaggedPacket)
    (port : Nat) : Except Fatal Router :=
  let queue : QueueId := ⟨port, packet.priority⟩
  router.egress.requestEnqueue config.mmu queue packet.size >>= fun requested =>
    if requested.1 then
      wakeUp { router with
        egress := requested.2
        held := router.held ++ [{ packet, tag, place := .outputQueue queue }] } port
    else .ok ({ router with egress := requested.2 }.discard packet)

/-- `NetworkRoutingPipeline::RoutePacket`: a packet without TTL or output port is deleted. -/
def routePacket (config : Config) (router : Router) (packet : Packet) (tag : TaggedPacket) :
    Except Fatal Router :=
  if packet.timeToLive = 0 then .ok (router.discard packet)
  else
    let packet := { packet with timeToLive := packet.timeToLive - 1 }
    match config.outputPort packet with
    | none => .ok (router.discard packet)
    | some port =>
      if port < config.portsNum ∧ config.connected port then
        router.enqueuePacket config packet tag port
      else .error .invalidOutputPort

/-! ## Sending -/

/-- `IsPaused`. -/
def isPaused (router : Router) (queue : QueueId) : Bool := router.now < router.unpauseTimes queue

def canTransmit (config : Config) (router : Router) (queue : QueueId) : Bool :=
  router.packetQueue queue ≠ [] && !(config.mmu.supportPfc && router.isPaused queue)

/-- `NetworkPort::SendPacket`, for the time that the packet takes on the channel. -/
def sendPacket (config : Config) (router : Router) (port duration : Nat) : Except Fatal Router :=
  (router.setPort port { router.ports port with
    transmissionFinish := router.now + duration }).scheduleOutput port
      (duration + config.ifgDelay port)

/-- `NetworkPacketQueue::Dequeue` of the first packet, with `DequeuedPacket`. -/
def dequeue (config : Config) (router : Router) (queue : QueueId) (held : HeldPacket) :
    Except Fatal Router :=
  router.ingress.dequeuedPacket config.mmu held.tag >>= fun ingress =>
    router.egress.dequeuedPacket queue held.packet.size >>= fun egress =>
      let dequeued : Router := { router with
        ingress
        egress
        held := router.held.erase held
        departed := router.departed ++ [held.packet.id]
        released := router.released ++ [held.packet.id] }
      if (router.ingress.queues held.tag.queue).pfcSendingTriggered &&
          !(ingress.queues held.tag.queue).pfcSendingTriggered then
        sendXon config dequeued held.tag.queue
      else .ok dequeued

/-- The arbiter: the first queue of the port that can transmit. -/
def arbitrate (config : Config) (router : Router) (port : Nat) : Option QueueId :=
  ((List.range config.queuesNum).map (QueueId.mk port)).find? (router.canTransmit config)

/-- `NetworkPort::ScheduleOutput`: a PFC frame first, then a packet; without either the port is
idle. -/
def transmit (config : Config) (router : Router) (port : Nat) : Except Fatal Router :=
  if (router.ports port).state ≠ .active then .error .wrongPortState
  else
    match (router.ports port).pfcQueue with
    | _ :: rest =>
      (router.setPort port { router.ports port with pfcQueue := rest }).sendPacket config port
        (config.pfcTransmissionTime port)
    | [] =>
      match router.arbitrate config port with
      | none => .ok (router.setPort port { router.ports port with state := .idle })
      | some queue =>
        match router.packetQueue queue with
        | [] => .ok router
        | held :: _ =>
          router.dequeue config queue held >>= fun router =>
            router.sendPacket config port (config.transmissionTime port held.packet.size)

/-- `ResumeOutput`. -/
def resumeOutput (config : Config) (router : Router) (port : Nat) : Except Fatal Router :=
  if (router.ports port).state = .idle then
    (router.setPort port { router.ports port with state := .active }).transmit config port
  else .ok router

/-- `SetPfcPaused`: a pause replaces the refreshment event of an earlier one; an X-on frame only
cancels it. -/
def setPfcPaused (router : Router) (queue : QueueId) (pauseDuration : Int) :
    Except Fatal Router :=
  if pauseDuration < 0 then .error .eventInThePast
  else
    let unpauseTime := router.now + pauseDuration.toNat
    .ok { router with
      unpauseTimes := update router.unpauseTimes queue unpauseTime
      refreshmentDue := update router.refreshmentDue queue
        (if unpauseTime ≠ router.now then some unpauseTime else none) }

end Router

/-! ## Runs -/

/-- What arrives from outside, the events of the router that fall due, and the passing of time. -/
inductive Event where
  | receiveData (port : Nat) (packet : Packet)
  | receivePfc (port : Nat) (frame : PfcFrame)
  | routerDelay (held : HeldPacket)
  | outputScheduling (port : Nat)
  | setPfcPaused (queue : QueueId)
  | pfcRefreshment (queue : QueueId)
  | pfcPauseSend (queue : QueueId)
  | advance (time : Nat)

/-- An event is handled when it is due, and time passes up to the first event that is. A packet
and the classes of a frame have priorities of the queues, and a packet has its own identity. -/
def Event.Possible (config : Config) (router : Router) : Event → Prop
  | .receiveData port packet =>
    port < config.portsNum ∧ packet.priority < config.queuesNum ∧
      packet.id ∉ router.departed ∧ ∀ held ∈ router.held, held.packet.id ≠ packet.id
  | .receivePfc port frame => config.mmu.supportPfc = true ∧ port < config.portsNum ∧
    ∀ priority < classesOfService, frame.classEnable priority = true →
      priority < config.queuesNum
  | .routerDelay held => held ∈ router.held ∧ held.place = .pipeline router.now
  | .outputScheduling port => router.outputDue port = some router.now
  | .setPfcPaused queue => (router.setPausedDue queue).map Prod.fst = some router.now
  | .pfcRefreshment queue => router.refreshmentDue queue = some router.now
  | .pfcPauseSend queue => router.sendPauseDue queue = some router.now
  | .advance time => router.now < time ∧
    (∀ held ∈ router.held, ∀ due ∈ held.place.due, time ≤ due) ∧
    ∀ port < config.portsNum, (∀ due ∈ router.outputDue port, time ≤ due) ∧
      ∀ priority < config.queuesNum,
        (∀ due ∈ router.setPausedDue ⟨port, priority⟩, time ≤ due.1) ∧
        (∀ due ∈ router.refreshmentDue ⟨port, priority⟩, time ≤ due) ∧
        ∀ due ∈ router.sendPauseDue ⟨port, priority⟩, time ≤ due

instance Event.decidablePossible (config : Config) (router : Router) :
    (event : Event) → Decidable (event.Possible config router)
  | .receiveData .. | .receivePfc .. | .routerDelay _ | .advance _ =>
    inferInstanceAs (Decidable (_ ∧ _))
  | .outputScheduling _ | .setPfcPaused _ | .pfcRefreshment _ | .pfcPauseSend _ =>
    inferInstanceAs (Decidable (_ = _))

/-- `handleMessage`. -/
def perform (config : Config) (router : Router) : Event → Except Fatal Router
  | .receiveData port packet => router.receiveData config port packet
  | .receivePfc port frame => router.receivePfc config port frame
  | .routerDelay held =>
    { router with held := router.held.erase held }.routePacket config held.packet held.tag
  | .outputScheduling port =>
    { router with outputDue := update router.outputDue port none }.transmit config port
  | .setPfcPaused queue =>
    { router with setPausedDue := update router.setPausedDue queue none }.setPfcPaused queue
      (((router.setPausedDue queue).map Prod.snd).getD 0)
  | .pfcRefreshment queue =>
    { router with refreshmentDue := update router.refreshmentDue queue none }.resumeOutput config
      queue.port
  | .pfcPauseSend queue =>
    { router with sendPauseDue := update router.sendPauseDue queue none }.sendPfc config queue
  | .advance time => .ok { router with now := time }

def start (config : Config) : Router where
  ingress := { poolFreeCells := config.mmu.ingressServicePoolSize }
  egress := { poolFreeCells := config.mmu.egressServicePoolSize }

def Initial (config : Config) (router : Router) : Prop := router = start config

theorem start_initial (config : Config) : Initial config (start config) := rfl

/-- An event that is possible and meets a condition on the state before it. -/
def Step (config : Config) (condition : Router → Event → Prop) (router next : Router) : Prop :=
  ∃ event, event.Possible config router ∧ condition router event ∧
    perform config router event = .ok next

/-- An event that can be executed. -/
def attempt (config : Config) (condition : Router → Event → Prop)
    [∀ router event, Decidable (condition router event)] (router : Router) (event : Event) :
    Option Router :=
  Runs.attempt (event.Possible config router ∧ condition router event)
    (perform config router event)

theorem attempt_step {config : Config} {condition : Router → Event → Prop}
    [∀ router event, Decidable (condition router event)] (router : Router) (event : Event)
    (next : Router) (done : attempt config condition router event = some next) :
    Step config condition router next := by
  obtain ⟨⟨possible, met⟩, performed⟩ := Runs.attempt_eq_some.1 done
  exact ⟨event, possible, met, performed⟩

end Isekai.NetworkRouter
