import Mathlib.Data.Rat.Defs

/-! The memory management unit of a router: the ingress side, which places every received packet
in the minimal guarantee of its queue, the shared pool or the headroom and pauses the sender of a
queue that grows too long, and the egress side, which bounds what the output queues hold. Memory
is counted in cells. -/

namespace Isekai.MemoryManagementUnit

/-- A port and a priority, of the ingress or of the egress direction. -/
structure QueueId where
  port : Nat
  priority : Nat
  deriving DecidableEq, Repr

/-- `CosProfile`: the configuration of a queue. The factors are doubles in the source; the limits
that they give are computed exactly here. -/
structure CosProfile where
  ingressAlpha : Rat := 0
  egressAlpha : Rat := 0
  ingressMinimalGuarantee : Nat := 0
  pfcHeadroom : Nat := 0

structure Config where
  supportPfc : Bool := true
  ingressServicePoolSize : Nat
  egressServicePoolSize : Nat
  portEgressAlpha : Nat → Rat
  queue : QueueId → CosProfile

/-- The checks of the unit and of the router around it that end a run. -/
inductive Fatal where
  | notEnoughIngressPool
  | wrongPacketOccupancy
  | wrongMinimalGuarantee
  | wrongHeadroom
  | wrongIngressCounting
  | packetLoss
  | notEnoughEgressCells
  | wrongPortEgressCounting
  | wrongQueueEgressCounting
  | outputAlreadyScheduled
  | eventAlreadyScheduled
  | eventInThePast
  | invalidOutputPort
  | wrongPortState
  | wrongPfcGeneration
  deriving DecidableEq, Repr

/-- What the unit counts of an ingress queue. -/
structure IngressQueue where
  minimalGuaranteeOccupancy : Nat := 0
  headroomOccupancy : Nat := 0
  occupancy : Nat := 0
  pfcSendingTriggered : Bool := false
  deriving DecidableEq, Repr

structure Ingress where
  poolFreeCells : Nat
  queues : QueueId → IngressQueue := fun _ => {}

/-- `IngressMemoryOccupancy`: where the cells of a received packet are. -/
structure IngressMemoryOccupancy where
  drop : Bool := true
  minimalGuarantee : Nat := 0
  sharedPool : Nat := 0
  headroom : Nat := 0
  deriving DecidableEq, Repr

/-- An admitted packet with its `IngressPacketTag`; its size is `GetPacketOccupancy`. -/
structure TaggedPacket where
  queue : QueueId
  size : Nat
  minimalGuarantee : Nat
  sharedPool : Nat
  headroom : Nat
  deriving DecidableEq, Repr

/-- `AddIngressTag`. -/
def addIngressTag (queue : QueueId) (size : Nat) (occupancy : IngressMemoryOccupancy) :
    TaggedPacket :=
  ⟨queue, size, occupancy.minimalGuarantee, occupancy.sharedPool, occupancy.headroom⟩

namespace Ingress

def setQueue (ingress : Ingress) (queue : QueueId) (value : IngressQueue) : Ingress :=
  { ingress with queues := fun other => if other = queue then value else ingress.queues other }

@[simp] theorem set_queue_same (ingress : Ingress) (queue : QueueId) (value : IngressQueue) :
    (ingress.setQueue queue value).queues queue = value := by simp [setQueue]

@[simp] theorem set_queue_free (ingress : Ingress) (queue : QueueId) (value : IngressQueue) :
    (ingress.setQueue queue value).poolFreeCells = ingress.poolFreeCells := rfl

theorem set_queue_other (ingress : Ingress) {queue other : QueueId} (value : IngressQueue)
    (different : other ≠ queue) : (ingress.setQueue queue value).queues other =
      ingress.queues other := by simp [setQueue, different]

/-- The limit of a queue's occupancy from which on its sender is paused. -/
def pfcTriggerLimit (config : Config) (ingress : Ingress) (queue : QueueId) : Rat :=
  ingress.poolFreeCells * (config.queue queue).ingressAlpha +
    (config.queue queue).ingressMinimalGuarantee

/-- Whether a packet that arrives for a queue not yet paused starts the sending of pauses. -/
def triggersPfc (config : Config) (ingress : Ingress) (queue : QueueId) (packetSize : Nat) : Bool :=
  ((ingress.queues queue).occupancy : Rat) ≥ ingress.pfcTriggerLimit config queue ||
    ingress.poolFreeCells < packetSize

/-- `EnablePfcSending` and `DisablePfcSending`, without the frames that they send. -/
def setPfcSending (ingress : Ingress) (queue : QueueId) (triggered : Bool) : Ingress :=
  ingress.setQueue queue { ingress.queues queue with pfcSendingTriggered := triggered }

/-- The first check of `ReceivedData`. -/
def checkPfcTrigger (config : Config) (ingress : Ingress) (queue : QueueId) (packetSize : Nat) :
    Ingress :=
  if !(ingress.queues queue).pfcSendingTriggered && ingress.triggersPfc config queue packetSize then
    ingress.setPfcSending queue true
  else ingress

/-- The admission of a packet to a queue whose sender is not paused. -/
def admitToPool (config : Config) (ingress : Ingress) (queue : QueueId) (packetSize : Nat) :
    Except Fatal (IngressMemoryOccupancy × Ingress) :=
  let counters := ingress.queues queue
  let guarantee := (config.queue queue).ingressMinimalGuarantee
  if counters.occupancy ≥ guarantee then
    if ingress.poolFreeCells < packetSize then .error .notEnoughIngressPool
    else
      .ok ({ sharedPool := packetSize },
        { ingress with poolFreeCells := ingress.poolFreeCells - packetSize })
  else if counters.minimalGuaranteeOccupancy + packetSize ≤ guarantee then
    .ok ({ minimalGuarantee := packetSize },
      ingress.setQueue queue { counters with
        minimalGuaranteeOccupancy := counters.minimalGuaranteeOccupancy + packetSize })
  else
    let poolOccupancy := counters.minimalGuaranteeOccupancy + packetSize - guarantee
    let counters := { counters with minimalGuaranteeOccupancy := guarantee }
    -- the guarantee's part is taken after the counter was set, so it is 0
    let occupancy : IngressMemoryOccupancy := {
      sharedPool := poolOccupancy
      minimalGuarantee := guarantee - counters.minimalGuaranteeOccupancy }
    if ingress.poolFreeCells < poolOccupancy then .error .notEnoughIngressPool
    else
      .ok (occupancy, { ingress.setQueue queue counters with
        poolFreeCells := ingress.poolFreeCells - poolOccupancy })

/-- The admission of a packet to a queue whose sender is paused; it may be dropped. -/
def admitToHeadroom (config : Config) (ingress : Ingress) (queue : QueueId) (packetSize : Nat) :
    Option (IngressMemoryOccupancy × Ingress) :=
  let counters := ingress.queues queue
  if (config.queue queue).pfcHeadroom < counters.headroomOccupancy + packetSize then none
  else
    some ({ headroom := packetSize },
      ingress.setQueue queue { counters with
        headroomOccupancy := counters.headroomOccupancy + packetSize })

/-- The end of `ReceivedData` for a packet that is not dropped. -/
def countOccupancy (queue : QueueId) (packetSize : Nat)
    (admitted : IngressMemoryOccupancy × Ingress) : IngressMemoryOccupancy × Ingress :=
  ({ admitted.1 with drop := false },
    admitted.2.setQueue queue { admitted.2.queues queue with
      occupancy := (admitted.2.queues queue).occupancy + packetSize })

def receivedData (config : Config) (ingress : Ingress) (queue : QueueId) (packetSize : Nat) :
    Except Fatal (IngressMemoryOccupancy × Ingress) :=
  if config.supportPfc then
    let ingress := ingress.checkPfcTrigger config queue packetSize
    if (ingress.queues queue).pfcSendingTriggered then
      match ingress.admitToHeadroom config queue packetSize with
      | none => .ok ({}, ingress)
      | some admitted => .ok (countOccupancy queue packetSize admitted)
    else (ingress.admitToPool config queue packetSize).map (countOccupancy queue packetSize)
  else .ok ({ drop := false }, ingress)

def ingressAccountingRelease (ingress : Ingress) (packet : TaggedPacket) : Except Fatal Ingress :=
  let counters := ingress.queues packet.queue
  if packet.size ≠ packet.minimalGuarantee + packet.sharedPool + packet.headroom then
    .error .wrongPacketOccupancy
  else if counters.minimalGuaranteeOccupancy < packet.minimalGuarantee then
    .error .wrongMinimalGuarantee
  else if counters.headroomOccupancy < packet.headroom then .error .wrongHeadroom
  else if counters.occupancy < packet.size then .error .wrongIngressCounting
  else
    .ok { ingress.setQueue packet.queue { counters with
        minimalGuaranteeOccupancy := counters.minimalGuaranteeOccupancy - packet.minimalGuarantee
        headroomOccupancy := counters.headroomOccupancy - packet.headroom
        occupancy := counters.occupancy - packet.size } with
      poolFreeCells := ingress.poolFreeCells + packet.sharedPool }

/-- Whether the pauses of a queue end with the release of one of its packets. -/
def resumesPfc (config : Config) (ingress : Ingress) (queue : QueueId) : Bool :=
  (ingress.queues queue).pfcSendingTriggered &&
    ((ingress.queues queue).occupancy : Rat) < ingress.pfcTriggerLimit config queue

def checkPfcResume (config : Config) (ingress : Ingress) (queue : QueueId) : Ingress :=
  if ingress.resumesPfc config queue then ingress.setPfcSending queue false else ingress

/-- The ingress half of `DequeuedPacket`. -/
def dequeuedPacket (config : Config) (ingress : Ingress) (packet : TaggedPacket) :
    Except Fatal Ingress :=
  if config.supportPfc then
    (ingress.ingressAccountingRelease packet).map fun ingress =>
      ingress.checkPfcResume config packet.queue
  else .ok ingress

end Ingress

/-! ## The egress side -/

structure Egress where
  poolFreeCells : Nat
  portOccupancy : Nat → Nat := fun _ => 0
  queueOccupancy : QueueId → Nat := fun _ => 0

namespace Egress

/-- `RequestEnqueue`: whether an output queue takes a packet of the given size. With PFC, a packet
that it does not take is a fatal loss. -/
def requestEnqueue (config : Config) (egress : Egress) (queue : QueueId) (packetOccupancy : Nat) :
    Except Fatal (Bool × Egress) :=
  if ((egress.portOccupancy queue.port + packetOccupancy : Nat) : Rat) ≥
        egress.poolFreeCells * config.portEgressAlpha queue.port ∨
      ((egress.queueOccupancy queue + packetOccupancy : Nat) : Rat) ≥
        egress.poolFreeCells * (config.queue queue).egressAlpha then
    if config.supportPfc then .error .packetLoss else .ok (false, egress)
  else if egress.poolFreeCells < packetOccupancy then .error .notEnoughEgressCells
  else
    .ok (true, {
      poolFreeCells := egress.poolFreeCells - packetOccupancy
      portOccupancy := fun port =>
        if port = queue.port then egress.portOccupancy port + packetOccupancy
        else egress.portOccupancy port
      queueOccupancy := fun other =>
        if other = queue then egress.queueOccupancy other + packetOccupancy
        else egress.queueOccupancy other })

/-- The egress half of `DequeuedPacket`. -/
def dequeuedPacket (egress : Egress) (queue : QueueId) (packetOccupancy : Nat) :
    Except Fatal Egress :=
  if egress.portOccupancy queue.port < packetOccupancy then .error .wrongPortEgressCounting
  else if egress.queueOccupancy queue < packetOccupancy then .error .wrongQueueEgressCounting
  else
    .ok {
      poolFreeCells := egress.poolFreeCells + packetOccupancy
      portOccupancy := fun port =>
        if port = queue.port then egress.portOccupancy port - packetOccupancy
        else egress.portOccupancy port
      queueOccupancy := fun other =>
        if other = queue then egress.queueOccupancy other - packetOccupancy
        else egress.queueOccupancy other }

end Egress

end Isekai.MemoryManagementUnit
