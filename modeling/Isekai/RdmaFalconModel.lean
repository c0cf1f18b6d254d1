import Isekai.AdmissionControl
import Isekai.FalconCredits

/-! The RDMA model over Falcon with its round-robin work scheduler. Queue pairs with work and credits
are active in one list for requests and one for responses; the scheduler serves the head of the list
of its current work type and hands one transaction at a time to Falcon. -/

namespace Isekai.RdmaFalcon
open AdmissionControl (TokenBucket)
open Roce (RdmaOpcode WorkType)

/-! ## Configuration and state -/

/-- `RdmaConfig`, as far as the model reads it, with the sizes that it shares with Falcon. Times are
in ticks of the clock, and the quanta are a number of the C++ type `int`. -/
structure Config extends SizeConfig where
  outboundReadQueueDepth : UInt32
  inboundReadQueueDepth : UInt32
  workSchedulerQuanta : UInt32
  chipCycleTime : Nat
  schedulerPipelineDelayTime : Nat
  perQpInterOpGap : Nat
  ackNackLatency : Nat
  responseLatency : Nat
  quantaRange : workSchedulerQuanta.toNat < 2 ^ 31

/-- `kRdmaHeader`. -/
def rdmaHeader : UInt32 := 28

/-- `kOuterRdmaHeaderSize`. -/
def outerRdmaHeaderSize : UInt32 := 24 + 12 + 8 + 40 + 14

/-- `kMaxOpsPerQuanta`. -/
def maxOpsPerQuanta : Int := 8

/-- `FalconQpContext`. An operation is known by a number, under which `ops` has it wherever a queue
points to it. `outstandingReads` are the sequence numbers of the read requests that were sent and
have not been answered. -/
structure QpContext where
  ops : Nat → RdmaOp
  nextOp : Nat := 0
  sendQueue : List Nat := []
  inboundReadRequestQueue : List InboundReadRequest := []
  completionQueue : UInt32 → Option Nat := fun _ => none
  rsnToOp : UInt32 → Option Nat := fun _ => none
  creditLimit : FalconCredit
  creditUsage : FalconCredit
  nextRsn : UInt32 := 0
  outboundReadRequests : UInt32 := 0
  nextScheduleTime : Nat := 0
  outstandingReads : List UInt32 := []

/-- The callbacks that are scheduled. The last re-add of a queue pair takes the work type when it
runs; `served` is the type that it was served for. -/
inductive Callback where
  | runWorkScheduler
  | sendTransaction (qpId : Nat)
  | addQpToScheduleSet (qpId : Nat) (workType : WorkType)
  | readdQp (qpId : Nat) (served : WorkType)
  | initiateTransaction (qpId : Nat) (packet : Packet)
  | ackReadRequest (qpId : Nat) (request : InboundReadRequest)
  | enqueueReadRequest (qpId : Nat) (request : InboundReadRequest)
  deriving DecidableEq, Repr

/-- The queue pairs, and `RdmaFalconRoundRobinWorkScheduler` with the time and its events. `wqs` and
`qpSet` are `request_wqs_`, `response_wqs_` and their sets. -/
structure State where
  contexts : Nat → QpContext
  wqs : WorkType → List Nat := fun _ => []
  qpSet : WorkType → Finset Nat := fun _ => ∅
  requestXoff : Bool := false
  globalXoff : Bool := false
  isIdle : Bool := true
  remainingQuantaBytes : WorkType → Int := fun _ => 0
  remainingQuantaOps : WorkType → Int := fun _ => 0
  currentWorkType : WorkType := .request
  lastSchedulerRunTime : Nat := 0
  remainingGlobalCredits : FalconCredit
  txTokenBucket : TokenBucket
  now : Nat := 0
  pending : List (Nat × Callback) := []

namespace QpContext

/-- The queue that work of a type comes from is not empty. -/
def HasWork (context : QpContext) : WorkType → Prop
  | .request => context.sendQueue ≠ []
  | .response => context.inboundReadRequestQueue ≠ []

instance (context : QpContext) (type : WorkType) : Decidable (context.HasWork type) := by
  cases type <;> exact inferInstanceAs (Decidable (_ ≠ _))

/-- The next operation is a read. -/
def headIsRead (context : QpContext) : Bool :=
  match context.sendQueue with
  | [] => false
  | id :: _ => (context.ops id).opcode = .read

/-- What the next transaction of a type costs. A receive is in no send queue. -/
def nextCredit (config : SizeConfig) (context : QpContext) : WorkType → Option FalconCredit
  | .request => context.sendQueue.head?.bind fun id =>
    (computeRequestCredit config (context.ops id)).toOption
  | .response => context.inboundReadRequestQueue.head?.map (computeResponseCredit config)

/-- `HasCredits`. -/
def hasCredits (config : SizeConfig) (context : QpContext) (type : WorkType) : Bool :=
  match context.nextCredit config type with
  | none => false
  | some credit => context.creditUsage + credit ≤ context.creditLimit

/-- As many read requests are outstanding as may be, and the next operation is a read. -/
def ordBlocked (config : Config) (context : QpContext) : Bool :=
  config.outboundReadQueueDepth ≤ context.outboundReadRequests && context.headIsRead

/-- `emplace`: an entry that is there stays. -/
def emplace (map : UInt32 → Option Nat) (rsn : UInt32) (id : Nat) : UInt32 → Option Nat :=
  if (map rsn).isSome then map else Function.update map rsn (some id)

/-- The operation after a packet was cut from it. -/
def cutOp (op : RdmaOp) (packet : Packet) (left : List UInt32) : RdmaOp :=
  let psn := if op.isScheduled then op.psn else packet.rsn
  if packet.isLastPacket then
    { op with sgl := left, isScheduled := true, psn := psn, endPsn := packet.rsn
              nPkts := packet.rsn - psn + 1 }
  else { op with sgl := left, isScheduled := true, psn := psn }

/-- The queue pair after the packet was created from the operation at the head of its send queue. -/
def requested (context : QpContext) (id : Nat) (rest : List Nat) (packet : Packet)
    (left : List UInt32) : QpContext :=
  { context with
    ops := Function.update context.ops id (cutOp (context.ops id) packet left)
    nextRsn := context.nextRsn + 1
    rsnToOp := emplace context.rsnToOp packet.rsn id
    completionQueue :=
      if packet.isLastPacket then emplace context.completionQueue packet.rsn id
      else context.completionQueue
    sendQueue := if packet.isLastPacket then rest else context.sendQueue }

/-- The request at the head of the send queue, with its credit. -/
def takeRequest (config : SizeConfig) (context : QpContext) :
    Except Fault (QpContext × Packet × FalconCredit) :=
  match context.sendQueue with
  | [] => .error .emptyQueue
  | id :: rest => do
    let credit ← computeRequestCredit config (context.ops id)
    let (packet, left) ← createRequestPacket config (context.ops id) context.nextRsn
    .ok (context.requested id rest packet left, packet, credit)

/-- The response to the request at the head of the queue of inbound reads, with its credit. -/
def takeResponse (config : SizeConfig) (context : QpContext) :
    Except Fault (QpContext × Packet × FalconCredit) :=
  match context.inboundReadRequestQueue with
  | [] => .error .emptyQueue
  | request :: rest => do
    let packet ← createResponsePacket request
    .ok ({ context with inboundReadRequestQueue := rest }, packet,
      computeResponseCredit config request)

/-- The queue pair is charged for the packet, and may send its next one after the gap. -/
def charged (config : Config) (context : QpContext) (packet : Packet) (credit : FalconCredit)
    (now : Nat) : QpContext :=
  { context with
    creditUsage := context.creditUsage + credit
    outboundReadRequests :=
      if packet.opcode = .readRequest then context.outboundReadRequests + 1
      else context.outboundReadRequests
    outstandingReads :=
      if packet.opcode = .readRequest then context.outstandingReads ++ [packet.rsn]
      else context.outstandingReads
    nextScheduleTime :=
      if context.nextScheduleTime ≤ now then now + config.perQpInterOpGap
      else context.nextScheduleTime + config.perQpInterOpGap }

/-- An operation has finished with its last packet. -/
def finished (op : RdmaOp) : Bool := 0 < op.nPkts ∧ op.nPktFinished + 1 = op.nPkts

/-- One more packet of the operation under the number is finished, and it is no longer mapped; a
finished operation leaves the completion queue. -/
def packetFinished (context : QpContext) (rsn : UInt32) (id : Nat) : QpContext :=
  let op := context.ops id
  { context with
    ops := Function.update context.ops id { op with nPktFinished := op.nPktFinished + 1 }
    completionQueue :=
      if finished op then Function.update context.completionQueue op.endPsn none
      else context.completionQueue
    rsnToOp := Function.update context.rsnToOp rsn none }

/-- The queue pair after a read response: a finished read is no longer outstanding. -/
def readAnswered (context : QpContext) (rsn : UInt32) (id : Nat) : QpContext :=
  { context.packetFinished rsn id with
    outboundReadRequests :=
      if finished (context.ops id) then context.outboundReadRequests - 1
      else context.outboundReadRequests
    outstandingReads := context.outstandingReads.erase rsn }

/-- `RdmaBaseModel::PostOp`. -/
def post (context : QpContext) (op : RdmaOp) : QpContext :=
  if op.opcode = .recv then context
  else
    { context with
      ops := Function.update context.ops context.nextOp op
      nextOp := context.nextOp + 1
      sendQueue := context.sendQueue ++ [context.nextOp] }

/-- The queue pair after credits came back. -/
def credited (context : QpContext) (credit : FalconCredit) : QpContext :=
  { context with creditUsage := context.creditUsage - credit }

/-- The queue pair with one more inbound read request. -/
def enqueued (context : QpContext) (request : InboundReadRequest) : QpContext :=
  { context with
    inboundReadRequestQueue := context.inboundReadRequestQueue ++ [request] }

end QpContext

namespace State

def setContext (state : State) (qpId : Nat) (context : QpContext) : State :=
  { state with contexts := Function.update state.contexts qpId context }

/-- `ScheduleEvent`. -/
def schedule (state : State) (delay : Nat) (callback : Callback) : State :=
  { state with pending := state.pending ++ [(state.now + delay, callback)] }

/-! ## The work scheduler -/

section Scheduler
variable (config : Config)

/-- `minimum_request_credit_` and `minimum_response_credit_`. -/
def minimumCredit : WorkType → FalconCredit
  | .request =>
    { requestTxPacket := 1
      requestTxBuffer :=
        calculateFalconTxBufferCredits 256 650 config.txBufferMinimumAllocationUnit
      requestRxPacket := 1
      requestRxBuffer :=
        calculateFalconRxBufferCredits config.rdmaMtu config.rxBufferMinimumAllocationUnit }
  | .response =>
    { responseTxPacket := 1
      responseTxBuffer :=
        calculateFalconTxBufferCredits 256 650 config.txBufferMinimumAllocationUnit }

/-- `CanSendRequest` and `CanSendResponse`. -/
def canSend (state : State) (type : WorkType) : Bool :=
  !((type = .request && state.requestXoff) || state.globalXoff || (state.wqs type).isEmpty) &&
    minimumCredit config type ≤ state.remainingGlobalCredits

/-- The other work type. -/
def other : WorkType → WorkType
  | .request => .response
  | .response => .request

/-- Picks the list to serve, replenishes its quanta, and looks up the queue pair at its head. -/
def dispatch (state : State) : Except Fault State :=
  let current := if state.canSend config state.currentWorkType then state.currentWorkType
    else other state.currentWorkType
  let fresh := state.remainingQuantaBytes current = 0 ∧ state.remainingQuantaOps current = 0
  let state := { state with
    currentWorkType := current
    remainingQuantaBytes := if fresh then
      Function.update state.remainingQuantaBytes current config.workSchedulerQuanta.toInt32.toInt
      else state.remainingQuantaBytes
    remainingQuantaOps := if fresh then
      Function.update state.remainingQuantaOps current maxOpsPerQuanta
      else state.remainingQuantaOps }
  match state.wqs current with
  | [] => .error .emptyQueue
  | qpId :: _ => .ok (state.schedule 0 (.sendTransaction qpId))

/-- `RunWorkScheduler`. -/
def runWorkScheduler (state : State) : Except Fault State :=
  let state := { state with isIdle := false }
  let nextRunTime := max state.now (state.lastSchedulerRunTime + config.chipCycleTime)
  if state.now < nextRunTime then
    .ok (state.schedule (nextRunTime - state.now) .runWorkScheduler)
  else
    let (sufficient, bucket) := state.txTokenBucket.areTokensAvailable
      (config.rdmaMtu + rdmaHeader).toNat state.now
    let state := { state with txTokenBucket := bucket }
    if !sufficient then
      .ok (state.schedule
        (bucket.lastRefillTimestamp + bucket.bucketRefillInterval - state.now) .runWorkScheduler)
    else if !state.canSend config .request && !state.canSend config .response then
      .ok { state with isIdle := true }
    else state.dispatch config

/-- Runs the scheduler if it was idle. -/
def wake (state : State) : Except Fault State :=
  if state.isIdle then state.runWorkScheduler config else .ok state

/-- `AddQpToScheduleSet`. -/
def addQpToScheduleSet (state : State) (qpId : Nat) (type : WorkType) : Except Fault State :=
  let context := state.contexts qpId
  if state.now < context.nextScheduleTime then
    .ok (state.schedule (context.nextScheduleTime - state.now) (.addQpToScheduleSet qpId type))
  else if !context.hasCredits config.toSizeConfig type then .ok state
  else if qpId ∈ state.qpSet type then .ok state
  else
    wake config { state with
      wqs := Function.update state.wqs type (state.wqs type ++ [qpId])
      qpSet := Function.update state.qpSet type (insert qpId (state.qpSet type)) }

/-- Adds the queue pair if it has credits for its next transaction of the type. -/
def addIfCredits (state : State) (qpId : Nat) (type : WorkType) : Except Fault State :=
  if (state.contexts qpId).hasCredits config.toSizeConfig type then
    state.addQpToScheduleSet config qpId type
  else .ok state

/-- `SetXoff`. -/
def setXoff (state : State) (requestXoff globalXoff : Bool) : Except Fault State :=
  wake config { state with requestXoff := requestXoff, globalXoff := globalXoff }

/-- `UpdateWorkType`. -/
def updateWorkType (state : State) : State :=
  if state.canSend config (other state.currentWorkType) then
    { state with currentWorkType := other state.currentWorkType }
  else state

/-- `GetRequestQuantaSize` and `GetResponseQuantaSize`. -/
def quantaSize (packet : Packet) : UInt32 :=
  if packet.opcode = .readRequest then packet.dataLength + outerRdmaHeaderSize
  else packet.requestLength + outerRdmaHeaderSize

/-- The tokens that a packet consumes. -/
def tokensConsumed (packet : Packet) : UInt32 :=
  if packet.opcode = .readRequest then packet.dataLength else packet.requestLength

/-- Takes the queue pair at the head off the active list of a type. -/
def popActive (state : State) (qpId : Nat) (type : WorkType) : Except Fault State :=
  match state.wqs type with
  | [] => .error .emptyQueue
  | _ :: rest => .ok { state with
      wqs := Function.update state.wqs type rest
      qpSet := Function.update state.qpSet type ((state.qpSet type).erase qpId) }

/-- Resets the quanta for the next queue pair, updates the work type and runs again. -/
def serveNext (state : State) : State :=
  let state := { state with
    remainingQuantaBytes := Function.update state.remainingQuantaBytes state.currentWorkType 0
    remainingQuantaOps := Function.update state.remainingQuantaOps state.currentWorkType 0 }
  (state.updateWorkType config).schedule config.chipCycleTime .runWorkScheduler

/-- The transaction is charged to the global credits, the quanta and the tokens, and handed to
Falcon. -/
def handOver (state : State) (qpId : Nat) (context : QpContext) (packet : Packet)
    (credit : FalconCredit) : Except Fault State :=
  let current := state.currentWorkType
  let bytes := state.remainingQuantaBytes current
  let size : Int := (quantaSize packet).toNat
  match state.txTokenBucket.requestTokens (tokensConsumed packet).toNat with
  | .error _ => .error .tokensUnavailable
  | .ok bucket =>
    let state := { state with
      remainingGlobalCredits := state.remainingGlobalCredits - credit
      remainingQuantaBytes := Function.update state.remainingQuantaBytes current
        (if size ≤ bytes then bytes - size else 0)
      remainingQuantaOps := Function.update state.remainingQuantaOps current
        (state.remainingQuantaOps current - 1)
      txTokenBucket := bucket
      lastSchedulerRunTime := state.now }
    .ok ((state.setContext qpId (context.charged config packet credit state.now)).schedule
      config.schedulerPipelineDelayTime (.initiateTransaction qpId packet))

/-- What `SendTransaction` decides after the transaction was handed over. -/
def afterSend (state : State) (qpId : Nat) : Except Fault State :=
  let context := state.contexts qpId
  let current := state.currentWorkType
  if context.ordBlocked config then
    -- The source takes the queue pair off the request list, whatever it has just served.
    (state.popActive qpId .request).map (serveNext config)
  else
    let hasCredits := context.hasCredits config.toSizeConfig current
    if 0 < state.remainingQuantaBytes current ∧ 0 < state.remainingQuantaOps current ∧
        hasCredits then
      .ok (state.schedule config.chipCycleTime .runWorkScheduler)
    else (state.popActive qpId current).map fun popped =>
      serveNext config (if hasCredits then
        popped.schedule (context.nextScheduleTime - popped.now) (.readdQp qpId current)
        else popped)

/-- `SendTransaction`. -/
def sendTransaction (state : State) (qpId : Nat) : Except Fault State := do
  let (context, packet, credit) ← match state.currentWorkType with
    | .request => (state.contexts qpId).takeRequest config.toSizeConfig
    | .response => (state.contexts qpId).takeResponse config.toSizeConfig
  let handed ← state.handOver config qpId context packet credit
  handed.afterSend config qpId

/-! ## The model -/

/-- `PostOp`. -/
def postOp (state : State) (qpId : Nat) (op : RdmaOp) : Except Fault State :=
  let context := (state.contexts qpId).post op
  let state := state.setContext qpId context
  if context.sendQueue.length = 1 then state.addIfCredits config qpId .request else .ok state

/-- `ReturnFalconCredit`. -/
def returnCredit (state : State) (qpId : Nat) (credit : FalconCredit) : Except Fault State :=
  let context := state.contexts qpId
  if credit ≤ context.creditUsage then do
    let state ← (state.setContext qpId (context.credited credit)).addIfCredits config qpId .request
    let state ← state.addIfCredits config qpId .response
    wake config { state with remainingGlobalCredits := state.remainingGlobalCredits + credit }
  else .error .creditAboveUsage

/-- `ProcessIncomingReadRequest`, where `refused` says that the sequence number is not acceptable or
that the random check refuses the request. -/
def processIncomingReadRequest (state : State) (qpId : Nat) (request : InboundReadRequest)
    (refused : Bool) : State :=
  let queue := (state.contexts qpId).inboundReadRequestQueue
  if refused || config.inboundReadQueueDepth.toNat ≤ queue.length then state
  else state.schedule config.ackNackLatency (.ackReadRequest qpId request)

/-- The end of the response latency: the read request is enqueued. -/
def enqueueReadRequest (state : State) (qpId : Nat) (request : InboundReadRequest) :
    Except Fault State :=
  let context := (state.contexts qpId).enqueued request
  let state := state.setContext qpId context
  if context.inboundReadRequestQueue.length = 1 then state.addIfCredits config qpId .response
  else .ok state

/-- `ProcessIncomingReadResponse`. -/
def processIncomingReadResponse (state : State) (qpId : Nat) (rsn : UInt32) : Except Fault State :=
  let context := state.contexts qpId
  match context.rsnToOp rsn with
  | none => .error .unknownRsn
  | some id =>
    let answered := context.readAnswered rsn id
    let state := state.setContext qpId answered
    if QpContext.finished (context.ops id) ∧
        answered.outboundReadRequests < config.outboundReadQueueDepth ∧ answered.headIsRead then
      state.addQpToScheduleSet config qpId .request
    else .ok state

/-- `ProcessCompletion` of a write or a send. -/
def processCompletion (state : State) (qpId : Nat) (rsn : UInt32) : Except Fault State :=
  let context := state.contexts qpId
  match context.rsnToOp rsn with
  | none => .error .unknownRsn
  | some id => .ok (state.setContext qpId (context.packetFinished rsn id))

/-- A callback runs. -/
def call (state : State) : Callback → Except Fault State
  | .runWorkScheduler => state.runWorkScheduler config
  | .sendTransaction qpId => state.sendTransaction config qpId
  | .addQpToScheduleSet qpId type => state.addQpToScheduleSet config qpId type
  | .readdQp qpId _ => state.addQpToScheduleSet config qpId state.currentWorkType
  | .initiateTransaction _ _ => .ok state
  | .ackReadRequest qpId request =>
    .ok (state.schedule config.responseLatency (.enqueueReadRequest qpId request))
  | .enqueueReadRequest qpId request => state.enqueueReadRequest config qpId request

end Scheduler

/-! ## Runs -/

/-- What happens to the model: an operation is posted, Falcon reports xoff, credits, a request, a
response or a completion, a callback that is due runs, or time passes. -/
inductive Event where
  | postOp (qpId : Nat) (opcode : RdmaOpcode) (sgl : List UInt32) (inlinePayloadLength : UInt32)
  | setXoff (requestXoff globalXoff : Bool)
  | returnCredit (qpId : Nat) (credit : FalconCredit)
  | readRequestArrives (qpId : Nat) (request : InboundReadRequest) (refused : Bool)
  | readResponseArrives (qpId : Nat) (rsn : UInt32)
  | completionArrives (qpId : Nat) (rsn : UInt32)
  | run (due : Nat) (callback : Callback)
  | tick

section Runs
variable (config : Config)

/-- The opcode of the operation that a sequence number was sent for. -/
def opcodeOf (state : State) (qpId : Nat) (rsn : UInt32) : Option RdmaOpcode :=
  ((state.contexts qpId).rsnToOp rsn).map fun id => ((state.contexts qpId).ops id).opcode

/-- What can happen: Falcon answers reads with responses and writes and sends with completions, and
callbacks run when they are due. -/
def Possible (state : State) : Event → Prop
  | .readResponseArrives qpId rsn => state.opcodeOf qpId rsn = some .read
  | .completionArrives qpId rsn =>
    (state.opcodeOf qpId rsn).isSome ∧ state.opcodeOf qpId rsn ≠ some .read
  | .run due callback => (due, callback) ∈ state.pending ∧ due ≤ state.now
  | .tick => ∀ entry ∈ state.pending, state.now < entry.1
  | _ => True

instance (state : State) (event : Event) : Decidable (state.Possible event) := by
  cases event <;> unfold Possible <;> infer_instance

def perform (state : State) : Event → Except Fault State
  | .postOp qpId opcode sgl inlinePayloadLength =>
    state.postOp config qpId { opcode, sgl, inlinePayloadLength }
  | .setXoff requestXoff globalXoff => state.setXoff config requestXoff globalXoff
  | .returnCredit qpId credit => state.returnCredit config qpId credit
  | .readRequestArrives qpId request refused =>
    .ok (state.processIncomingReadRequest config qpId request refused)
  | .readResponseArrives qpId rsn => state.processIncomingReadResponse config qpId rsn
  | .completionArrives qpId rsn => state.processCompletion qpId rsn
  | .run due callback =>
    call config { state with pending := state.pending.erase (due, callback) } callback
  | .tick => .ok { state with now := state.now + 1 }

/-- A step of the model. -/
def Step (state next : State) : Prop :=
  ∃ event, state.Possible event ∧ state.perform config event = .ok next

/-- A queue pair that was just created. -/
def Created (context : QpContext) : Prop :=
  context.sendQueue = [] ∧ context.inboundReadRequestQueue = [] ∧
    (∀ rsn, context.rsnToOp rsn = none) ∧ context.creditUsage ≤ context.creditLimit ∧
    context.outboundReadRequests = 0 ∧ context.outstandingReads = []

/-- A step of the model that meets a condition. -/
def CoveredStep (condition : State → Event → Prop) (state next : State) : Prop :=
  ∃ event, state.Possible event ∧ condition state event ∧ state.perform config event = .ok next

/-- The scheduler has just been set up, and all queue pairs have been created. -/
def Initial (state : State) : Prop :=
  (∀ qpId, Created (state.contexts qpId)) ∧ (∀ type, state.wqs type = []) ∧
    (∀ type, state.qpSet type = ∅) ∧ state.isIdle = true ∧ state.pending = []

end Runs

end State

end Isekai.RdmaFalcon
