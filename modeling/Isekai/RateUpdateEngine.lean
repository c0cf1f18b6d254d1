import Isekai.FormatAdapter

/-! `ProtocolRateUpdateEngine` and `Gen2RateUpdateEngine`: notifications of the reliability
manager become events for the congestion control algorithm, which are processed one at a time and
whose responses come back after a latency.

The two generations differ in the key that an event is accounted under, a connection or a flow of
one, and in the formats. What a generation has of its own is a record, and the engine is written
once over it. Statistics are left out. -/

namespace Isekai.RateUpdate

/-! ## Generations -/

/-- What the engine uses of a generation, whose keys are `RueKey`s. -/
structure Generation (Key Event Response : Type) where
  units : TimeUnits
  /-- `scid` of a key. -/
  scid : Key → BitVec 32
  /-- The key of a connection and a flow label. -/
  keyOf : BitVec 32 → BitVec flowLabelBits → Key
  /-- `GetRueKeyFromResponse`. -/
  keyOfResponse : Response → Key
  /-- The functions of the format adapter that fill an event. -/
  fill : Key → Packet → CongestionControlMetadata → FillCall → Except Fatal Event
  /-- `UpdateConnectionStateFromResponse`. -/
  update : BitVec flowLabelBits → ConnectionState → Response → Except Fatal ConnectionState
  /-- The part of an event that both formats have. -/
  header : Event → EventHeader
  /-- What the algorithm may answer to an event. -/
  answers : Event → Response → Prop

/-- `Gen2RueKey`. -/
structure Gen2RueKey where
  scid : BitVec 32
  flowId : BitVec 8
  deriving DecidableEq, Repr

/-- The first generation: keys are connections, and the algorithm reflects the connection. -/
def gen1 (units : TimeUnits) : Generation (BitVec 32) EventDna ResponseDna where
  units := units
  scid key := key
  keyOf cid _ := cid
  keyOfResponse response := response.connectionId.setWidth 32
  fill key packet ccmeta call := call.fillDna units key packet ccmeta
  update flowLabel connection response :=
    .ok (updateConnectionStateFromResponseDna units flowLabel connection response)
  header event := event.toEventHeader
  answers event response := response.connectionId = event.connectionId

/-- `GetFlowIdFromFlowLabel`, for the number of flows of the connection. -/
def getFlowIdFromFlowLabel (flowLabel : BitVec flowLabelBits) (numFlows : Nat) : BitVec 8 :=
  BitVec.ofNat 8 (flowLabel.toNat % numFlows)

/-- The flow of an event as the algorithm reads it, the last two bits of the label if the
connection has several paths. -/
def EventBna.flowId (event : EventBna) : BitVec flowIdBits :=
  if event.multipathEnable then event.flowLabel.setWidth flowIdBits else 0

/-- The second generation, with the number of flows of each connection. The algorithm reflects
the connection and the flow, and weighs the flows of a connection with several paths. -/
def gen2 (units : TimeUnits) (numFlows : BitVec 32 → Nat) :
    Generation Gen2RueKey EventBna ResponseBna where
  units := units
  scid key := key.scid
  keyOf cid flowLabel := ⟨cid, getFlowIdFromFlowLabel flowLabel (numFlows cid)⟩
  keyOfResponse response := ⟨response.connectionId.setWidth 32, response.flowId.setWidth 8⟩
  fill key packet ccmeta call := call.fillBna units key.scid packet ccmeta
  update _ connection response := updateConnectionStateFromResponseBna units connection response
  header event := event.toEventHeader
  answers event response :=
    response.connectionId = event.connectionId ∧ response.flowId = event.flowId ∧
      (event.multipathEnable → response.weights ≠ 0)

/-! ## The engine -/

/-- The configuration of the event queue and of the engine's latency. -/
structure RueConfig where
  eventQueueSize : Nat
  eventQueueThreshold1 : Nat
  eventQueueThreshold2 : Nat
  eventQueueThreshold3 : Nat
  predicate1TimeThreshold : Span
  predicate2PacketCountThreshold : BitVec 32
  /-- `default_falcon_latency_ns_`. -/
  falconLatency : Nat
  deriving DecidableEq, Repr

/-- What is kept for each key in the metadata of its connection. -/
structure Account where
  /-- `last_rue_event_time`; before the first event it is minus infinity. -/
  lastRueEventTime : Option Span := none
  numAcked : BitVec 32 := 0
  outstandingRueEvent : Bool := false
  deriving DecidableEq, Repr

/-- The engine, the two queues of its adapter, and what it has scheduled. -/
structure Engine (Key Event Response : Type) where
  connections : BitVec 32 → Option ConnectionState
  accounts : Key → Option Account
  eventQueue : List Event := []
  responseQueue : List Response := []
  queueScheduled : Bool := false
  elapsedTime : Span := 0
  /-- When the scheduled calls of `ProcessNextEvent` are due. -/
  scheduledEvents : List Span := []
  /-- When the scheduled calls of `HandleNextResponse` are due. -/
  scheduledResponses : List Span := []
  /-- The connections that the reliability manager was told of by `HandleRtoReduction`. -/
  rtoReductions : List (BitVec 32) := []

namespace Engine
variable {Key Event Response : Type} [DecidableEq Key]

/-- `PerformDirectLookup`. -/
def performDirectLookup (engine : Engine Key Event Response) (cid : BitVec 32) :
    Except Fatal ConnectionState :=
  match engine.connections cid with
  | some connection => .ok connection
  | none => .error .unknownConnection

/-- The account of a key in the metadata of its connection. -/
def account (engine : Engine Key Event Response) (key : Key) : Except Fatal Account :=
  match engine.accounts key with
  | some account => .ok account
  | none => .error .unknownConnection

def setAccount (engine : Engine Key Event Response) (key : Key) (account : Account) :
    Engine Key Event Response :=
  { engine with accounts := Function.update engine.accounts key (some account) }

/-- `AccumulateNumAcked` of the reliability manager, after the unrolling delay if there is one. -/
def accumulateNumAcked (engine : Engine Key Event Response) (key : Key) :
    Except Fatal (Engine Key Event Response) :=
  (engine.account key).map fun account =>
    engine.setAccount key { account with numAcked := account.numAcked + 1 }

/-- Whether the events of a key are far enough apart. -/
def predicate1 (config : RueConfig) (engine : Engine Key Event Response) (account : Account) :
    Bool :=
  match account.lastRueEventTime with
  | some time => config.predicate1TimeThreshold ≤ engine.elapsedTime - time
  | none => true

/-- Whether a key has acknowledged enough packets. -/
def predicate2 (config : RueConfig) (account : Account) : Bool :=
  config.predicate2PacketCountThreshold ≤ account.numAcked

/-- `CanEnqueueEvent`. -/
def canEnqueueEvent (config : RueConfig) (engine : Engine Key Event Response)
    (account : Account) : Bool :=
  let numEvents := engine.eventQueue.length
  if account.outstandingRueEvent then false
  else if numEvents < config.eventQueueThreshold1 then true
  else if numEvents < config.eventQueueThreshold2 then
    engine.predicate1 config account || predicate2 config account
  else if numEvents < config.eventQueueThreshold3 then engine.predicate1 config account
  else if numEvents < config.eventQueueSize then
    engine.predicate1 config account && predicate2 config account
  else false

/-- `UpdateOutstandingEvent`, and the `CHECK` that the flag changes. -/
def updateOutstandingEvent (engine : Engine Key Event Response) (key : Key) (value : Bool) :
    Except Fatal (Engine Key Event Response) :=
  engine.account key >>= fun account =>
    if account.outstandingRueEvent = value then .error .outstandingEvent
    else .ok (engine.setAccount key { account with outstandingRueEvent := value })

/-- One nanosecond, in quarters. -/
def nanosecond : Span := 4

/-- `PrepareForEnqueueEvent`. -/
def prepareForEnqueueEvent (engine : Engine Key Event Response) (key : Key) :
    Except Fatal (Engine Key Event Response) :=
  (engine.updateOutstandingEvent key true).map fun engine =>
    if engine.queueScheduled then engine
    else { engine with
      queueScheduled := true
      scheduledEvents := engine.scheduledEvents ++ [engine.elapsedTime + nanosecond] }

/-- The end of every notification that is not ignored: the event is filled from the connection
and enqueued. -/
def enqueueEvent (generation : Generation Key Event Response)
    (engine : Engine Key Event Response) (key : Key) (packet : Packet) (account : Account)
    (call : FillCall) : Except Fatal (Engine Key Event Response) :=
  let engine := engine.setAccount key
    { account with numAcked := 0, lastRueEventTime := some engine.elapsedTime }
  engine.performDirectLookup (generation.scid key) >>= fun connection =>
    generation.fill key packet connection.congestionControlMetadata call >>= fun event =>
      (engine.prepareForEnqueueEvent key).map fun engine =>
        { engine with eventQueue := engine.eventQueue ++ [event] }

/-- The number of acknowledged packets that an event reports. -/
def numPacketsAcked (account : Account) : BitVec 32 :=
  BitVec.ofNat 32 (saturateHigh numPacketsAckedBits account.numAcked.toNat)

/-- What `ExplicitAckReceived` and `NackReceived` do with the key of their packet. -/
def feedbackReceived (generation : Generation Key Event Response) (config : RueConfig)
    (engine : Engine Key Event Response) (cid : BitVec 32) (packet : Packet)
    (call : BitVec 32 → FillCall) : Except Fatal (Engine Key Event Response) :=
  checkBits connectionIdBits cid.toNat >>= fun _ =>
    let key := generation.keyOf cid packet.flowLabel
    engine.account key >>= fun account =>
      if engine.canEnqueueEvent config account then
        enqueueEvent generation engine key packet account (call (numPacketsAcked account))
      else .ok engine

/-- `ExplicitAckReceived`. -/
def explicitAckReceived (generation : Generation Key Event Response) (config : RueConfig)
    (engine : Engine Key Event Response) (packet : Packet) (eack eackDrop : Bool) :
    Except Fatal (Engine Key Event Response) :=
  if packet.packetType = .ack then
    feedbackReceived generation config engine packet.ack.destCid packet
      (.explicitAck · eack eackDrop)
  else .error .packetType

/-- `NackReceived`. -/
def nackReceived (generation : Generation Key Event Response) (config : RueConfig)
    (engine : Engine Key Event Response) (packet : Packet) :
    Except Fatal (Engine Key Event Response) :=
  if packet.packetType = .nack then
    feedbackReceived generation config engine packet.nack.destCid packet .nack
  else .error .packetType

/-- `PacketTimeoutRetransmitted`. -/
def packetTimeoutRetransmitted (generation : Generation Key Event Response) (config : RueConfig)
    (engine : Engine Key Event Response) (cid : BitVec 32) (packet : Packet)
    (retransmitCount : BitVec 8) : Except Fatal (Engine Key Event Response) :=
  if packet.packetType = .ack ∨ packet.packetType = .nack then .error .packetType
  else
    let retransmitCount := if 7 ≤ retransmitCount then 6 else retransmitCount
    checkBits connectionIdBits cid.toNat >>= fun _ =>
      let key := generation.keyOf cid packet.flowLabel
      engine.account key >>= fun account =>
        let account := { account with numAcked := 0 }
        let engine := engine.setAccount key account
        if engine.canEnqueueEvent config account then
          enqueueEvent generation engine key packet account
            (.timeoutRetransmitted retransmitCount)
        else .ok engine

/-- `PacketEarlyRetransmitted` does nothing. -/
def packetEarlyRetransmitted (engine : Engine Key Event Response) : Engine Key Event Response :=
  engine

/-- `ProcessNextEvent`, for a call that was due at some time: the algorithm gives the response,
and the latency generator its latency. -/
def processNextEvent (generation : Generation Key Event Response) (config : RueConfig)
    (engine : Engine Key Event Response) (due : Span) (response : Response) (latency : Nat) :
    Except Fatal (Engine Key Event Response) :=
  let engine := { engine with scheduledEvents := engine.scheduledEvents.erase due }
  if engine.queueScheduled = false then .error .notScheduled
  else match engine.eventQueue with
    | [] => .ok { engine with queueScheduled := false }
    | _ :: eventQueue =>
      (generation.units.toFalconTimeUnits engine.elapsedTime).map fun _ =>
        { engine with
          eventQueue
          responseQueue := engine.responseQueue ++ [response]
          scheduledEvents := engine.scheduledEvents ++ [engine.elapsedTime + latency]
          scheduledResponses := engine.scheduledResponses ++
            [engine.elapsedTime + (config.falconLatency + latency)] }

/-- `HandleNextResponse`, for a call that was due at some time; `flowLabel` is what
`GenerateRandomFlowLabel` returns. -/
def handleNextResponse (generation : Generation Key Event Response)
    (engine : Engine Key Event Response) (due : Span) (flowLabel : BitVec flowLabelBits) :
    Except Fatal (Engine Key Event Response) :=
  let engine := { engine with scheduledResponses := engine.scheduledResponses.erase due }
  match engine.responseQueue with
  | [] => .error .noResponse
  | response :: responseQueue =>
    let key := generation.keyOfResponse response
    let cid := generation.scid key
    engine.performDirectLookup cid >>= fun connection =>
      generation.update flowLabel connection response >>= fun updated =>
        let reduced := updated.congestionControlMetadata.retransmitTimeout <
          connection.congestionControlMetadata.retransmitTimeout
        let engine := { engine with
          responseQueue
          connections := Function.update engine.connections cid (some updated)
          rtoReductions :=
            if reduced then engine.rtoReductions ++ [cid] else engine.rtoReductions }
        engine.updateOutstandingEvent key false

end Engine

/-! ## Runs -/

/-- What happens to the engine: notifications, scheduled calls, and the passing of time. -/
inductive Action (Key Response : Type) where
  | accumulateNumAcked (key : Key)
  | explicitAckReceived (packet : Packet) (eack eackDrop : Bool)
  | nackReceived (packet : Packet)
  | packetTimeoutRetransmitted (cid : BitVec 32) (packet : Packet) (retransmitCount : BitVec 8)
  | packetEarlyRetransmitted (cid : BitVec 32) (packet : Packet) (retransmitCount : BitVec 8)
  | processNextEvent (due : Span) (response : Response) (latency : Nat)
  | handleNextResponse (due : Span) (flowLabel : BitVec flowLabelBits)
  | advance (time : Span)

section
variable {Key Event Response : Type} [DecidableEq Key]

/-- Scheduled calls happen when they are due, the algorithm answers the event that is processed,
and no due call is passed over. -/
def Action.Possible (generation : Generation Key Event Response)
    (engine : Engine Key Event Response) : Action Key Response → Prop
  | processNextEvent due response _ => due ∈ engine.scheduledEvents ∧ due = engine.elapsedTime ∧
      ∀ event ∈ engine.eventQueue.head?, generation.answers event response
  | handleNextResponse due _ => due ∈ engine.scheduledResponses ∧ due = engine.elapsedTime
  | advance time => engine.elapsedTime ≤ time ∧
      ∀ due ∈ engine.scheduledEvents ++ engine.scheduledResponses, time ≤ due
  | _ => True

/-- The engine after an action. -/
def perform (generation : Generation Key Event Response) (config : RueConfig)
    (engine : Engine Key Event Response) :
    Action Key Response → Except Fatal (Engine Key Event Response)
  | .accumulateNumAcked key => engine.accumulateNumAcked key
  | .explicitAckReceived packet eack eackDrop =>
    engine.explicitAckReceived generation config packet eack eackDrop
  | .nackReceived packet => engine.nackReceived generation config packet
  | .packetTimeoutRetransmitted cid packet retransmitCount =>
    engine.packetTimeoutRetransmitted generation config cid packet retransmitCount
  | .packetEarlyRetransmitted _ _ _ => .ok engine.packetEarlyRetransmitted
  | .processNextEvent due response latency =>
    engine.processNextEvent generation config due response latency
  | .handleNextResponse due flowLabel => engine.handleNextResponse generation due flowLabel
  | .advance time => .ok { engine with elapsedTime := time }

/-! ## Acknowledged packets -/

/-- The packets of a key that were acknowledged since its last timeout: how many, how many of them
each event took and reported, and how many wait for the next event. -/
structure Tally where
  acknowledged : Nat := 0
  taken : List Nat := []
  reported : List (BitVec numPacketsAckedBits) := []
  waiting : Nat := 0
  deriving DecidableEq, Repr

namespace Tally

def acknowledge (tally : Tally) : Tally :=
  { tally with acknowledged := tally.acknowledged + 1, waiting := tally.waiting + 1 }

/-- The next event takes the packets that wait. -/
def report (tally : Tally) (number : BitVec numPacketsAckedBits) : Tally :=
  { tally with
    taken := tally.taken ++ [tally.waiting]
    reported := tally.reported ++ [number]
    waiting := 0 }

end Tally

/-- The tallies after a notification of a key, which reports if it enqueued an event. -/
def reportEvent (generation : Generation Key Event Response)
    (before after : Engine Key Event Response) (key : Key) (tallies : Key → Tally) :
    Key → Tally :=
  match after.eventQueue.drop before.eventQueue.length with
  | [] => tallies
  | event :: _ => Function.update tallies key
      ((tallies key).report (generation.header event).numPacketsAcked)

/-- The tallies after an action. -/
def Action.observe (generation : Generation Key Event Response)
    (before after : Engine Key Event Response) (tallies : Key → Tally) :
    Action Key Response → Key → Tally
  | accumulateNumAcked key => Function.update tallies key (tallies key).acknowledge
  | explicitAckReceived packet _ _ => reportEvent generation before after
      (generation.keyOf packet.ack.destCid packet.flowLabel) tallies
  | nackReceived packet => reportEvent generation before after
      (generation.keyOf packet.nack.destCid packet.flowLabel) tallies
  | packetTimeoutRetransmitted cid packet _ =>
    Function.update tallies (generation.keyOf cid packet.flowLabel) {}
  | _ => tallies

/-- An engine and the tallies of its keys. -/
structure State (Key Event Response : Type) where
  engine : Engine Key Event Response
  tallies : Key → Tally

/-- An action and what is observed of it. -/
def Step (generation : Generation Key Event Response) (config : RueConfig)
    (state next : State Key Event Response) : Prop :=
  ∃ action : Action Key Response, action.Possible generation state.engine ∧
    perform generation config state.engine action = .ok next.engine ∧
    next.tallies = action.observe generation state.engine next.engine state.tallies

end
end Isekai.RateUpdate
