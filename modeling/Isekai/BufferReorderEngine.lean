import Isekai.FalconTypes
import Isekai.SequenceBuffer

/-! `ProtocolBufferReorderEngine`: the per-connection buffers that put packets back into
RSN or SSN order, with the RNR handling of the target side. Calls of the Falcon model's
`ReorderCallback` are recorded in the order in which they are made. -/

namespace Isekai.BufferReorderEngine

/-- A call of `ReorderCallback(cid, rsn, type)`. -/
structure ReorderCall where
  cid : UInt32
  rsn : UInt32
  packetType : PacketType
  deriving DecidableEq, Repr

/-- An entry of the target RSN buffer. A retry time of zero means ready to be sent to the
ULP, an infinite one that it was sent and the ULP has not answered yet. -/
structure TransactionMetadata where
  packetType : PacketType
  retryTime : Duration := .zero
  deriving DecidableEq, Repr

/-- `ConnectionReorderMetadata`. -/
structure ConnectionReorderMetadata where
  nextInitiatorRsn : UInt32
  nextTargetRsn : UInt32
  nextTargetNetworkRsn : UInt32
  nextInitiatorSsn : UInt32
  nextTargetSsn : UInt32
  orderingMode : OrderingMode
  inRnr : Bool := false
  rnrTimeout : Nat := 0
  initiatorRsnBuffer : SequenceBuffer PacketType := ∅
  targetRsnBuffer : SequenceBuffer TransactionMetadata := ∅
  initiatorSsnBuffer : SequenceBuffer UInt32 := ∅
  targetSsnBuffer : SequenceBuffer UInt32 := ∅

/-- An event that will run `HandleRnrTimeout(cid, rsn)` at `time`. -/
structure RnrTimer where
  cid : UInt32
  rsn : UInt32
  time : Nat
  deriving DecidableEq, Repr

/-- One connection while the engine works on it, with the callbacks made so far. -/
structure Progress where
  info : ConnectionReorderMetadata
  calls : List ReorderCall

/-- The engine: the connections it knows, the callbacks it made and the timers it set. -/
structure Engine where
  reorderInfo : UInt32 → Option ConnectionReorderMetadata
  calls : List ReorderCall
  timers : List RnrTimer

/-! ## Draining the buffers -/

/-- What is left of a buffer, the next number and the callbacks after draining. -/
structure Drained (V : Type) where
  next : UInt32
  buffer : SequenceBuffer V
  calls : List ReorderCall

/-- The loop of the `Check*Buffer` functions: while the buffer is not empty and its first
entry carries the next number, call back for it, erase it and move on. -/
def drainLoop {V : Type} (call : UInt32 → V → ReorderCall) : Nat → Drained V → Drained V
  | 0, drained => drained
  | fuel + 1, drained =>
    match drained.buffer.first with
    | none => drained
    | some (number, value) =>
      if drained.next = number then
        drainLoop call fuel
          { next := drained.next + 1
            buffer := drained.buffer.erase number
            calls := drained.calls ++ [call number value] }
      else drained

/-- Every turn of the loop erases an entry, so the size of the buffer bounds it. -/
def drain {V : Type} (call : UInt32 → V → ReorderCall) (drained : Drained V) : Drained V :=
  drainLoop call drained.buffer.size drained

def checkInitiatorRsnBuffer (cid : UInt32) (progress : Progress) : Progress :=
  let drained := drain (fun rsn packetType => ⟨cid, rsn, packetType⟩)
    ⟨progress.info.nextInitiatorRsn, progress.info.initiatorRsnBuffer, progress.calls⟩
  { info := { progress.info with
      nextInitiatorRsn := drained.next, initiatorRsnBuffer := drained.buffer }
    calls := drained.calls }

def checkInitiatorSsnBuffer (cid : UInt32) (progress : Progress) : Progress :=
  let drained := drain (fun _ rsn => ⟨cid, rsn, .pushGrant⟩)
    ⟨progress.info.nextInitiatorSsn, progress.info.initiatorSsnBuffer, progress.calls⟩
  { info := { progress.info with
      nextInitiatorSsn := drained.next, initiatorSsnBuffer := drained.buffer }
    calls := drained.calls }

def checkTargetSsnBuffer (cid : UInt32) (progress : Progress) : Progress :=
  let drained := drain (fun _ rsn => ⟨cid, rsn, .pushRequest⟩)
    ⟨progress.info.nextTargetSsn, progress.info.targetSsnBuffer, progress.calls⟩
  { info := { progress.info with
      nextTargetSsn := drained.next, targetSsnBuffer := drained.buffer }
    calls := drained.calls }

/-- `SendToUlpTarget` for an entry of the target RSN buffer. -/
def sendToUlpTarget (cid rsn : UInt32) (entry : TransactionMetadata) (progress : Progress) :
    Progress :=
  let info := progress.info
  { info := { info with
      targetRsnBuffer := info.targetRsnBuffer.insert rsn { entry with retryTime := .infinite }
      nextTargetRsn := if info.orderingMode = .ordered then info.nextTargetRsn + 1
        else info.nextTargetRsn }
    calls := progress.calls ++ [⟨cid, rsn, entry.packetType⟩] }

/-- The loop of `CheckTargetRsnBuffer` over the keys that its iterator visits. The loop
changes entries but not keys, so these are known when it starts. -/
def scanTarget (cid : UInt32) (now : Nat) : List UInt32 → Progress → Progress
  | [], progress => progress
  | key :: rest, progress =>
    match progress.info.targetRsnBuffer[key]? with
    | none => progress
    | some entry =>
      if progress.info.nextTargetRsn = key ∧ entry.retryTime.elapsedBy now then
        scanTarget cid now rest (sendToUlpTarget cid key entry progress)
      else progress

/-- The iterator starts at `find(next_target_rsn)`. -/
def checkTargetRsnBuffer (cid : UInt32) (now : Nat) (progress : Progress) : Progress :=
  scanTarget cid now (progress.info.targetRsnBuffer.keysFrom progress.info.nextTargetRsn) progress

/-! ## One connection -/

/-- The connection with the packet type of an RSN remembered for possible RNR NACKs. -/
def remember (rsn : UInt32) (packetType : PacketType) (info : ConnectionReorderMetadata) :
    Progress :=
  ⟨{ info with targetRsnBuffer := info.targetRsnBuffer.insert rsn { packetType } }, []⟩

/-- `InsertPacket` for an unordered connection. -/
def insertUnordered (cid : UInt32) (packetType : PacketType) (rsn : UInt32)
    (info : ConnectionReorderMetadata) : Except Abort (Status × Progress) :=
  match packetType with
  | .pullRequest | .pushSolicitedData | .pushUnsolicitedData =>
    if rsn ∈ info.targetRsnBuffer then .error .rsnAlreadyBuffered
    else .ok (.ok, sendToUlpTarget cid rsn { packetType } (remember rsn packetType info))
  | _ => .ok (.ok, ⟨info, [⟨cid, rsn, packetType⟩]⟩)

/-- `InsertPacket` for an ordered connection. -/
def insertOrdered (cid : UInt32) (now : Nat) (packetType : PacketType) (rsn ssn : UInt32)
    (info : ConnectionReorderMetadata) : Except Abort (Status × Progress) :=
  match packetType with
  | .pullData | .ack | .nack =>
    if rsn = info.nextInitiatorRsn then
      .ok (.ok, checkInitiatorRsnBuffer cid
        ⟨{ info with nextInitiatorRsn := info.nextInitiatorRsn + 1 }, [⟨cid, rsn, packetType⟩]⟩)
    else
      .ok (.ok, ⟨{ info with
        initiatorRsnBuffer := info.initiatorRsnBuffer.insert rsn packetType }, []⟩)
  | .pullRequest | .pushSolicitedData | .pushUnsolicitedData =>
    if rsn ∈ info.targetRsnBuffer then .error .rsnAlreadyBuffered
    else if rsn = info.nextTargetRsn then
      .ok (.ok, checkTargetRsnBuffer cid now
        (sendToUlpTarget cid rsn { packetType } (remember rsn packetType info)))
    else if info.inRnr && packetType ≠ .pullRequest then
      .ok (.failedPrecondition, remember rsn packetType info)
    else .ok (.ok, remember rsn packetType info)
  | .pushGrant =>
    if ssn = info.nextInitiatorSsn then
      .ok (.ok, checkInitiatorSsnBuffer cid
        ⟨{ info with nextInitiatorSsn := info.nextInitiatorSsn + 1 }, [⟨cid, rsn, packetType⟩]⟩)
    else
      .ok (.ok, ⟨{ info with
        initiatorSsnBuffer := info.initiatorSsnBuffer.insert ssn rsn }, []⟩)
  | .pushRequest =>
    if ssn = info.nextTargetSsn then
      .ok (.ok, checkTargetSsnBuffer cid
        ⟨{ info with nextTargetSsn := info.nextTargetSsn + 1 }, [⟨cid, rsn, packetType⟩]⟩)
    else
      .ok (.ok, ⟨{ info with
        targetSsnBuffer := info.targetSsnBuffer.insert ssn rsn }, []⟩)
  | .back | .eack => .error .unsupportedPacketType
  | .resync | .invalid => .error .unexpectedPacketType

/-- `InsertPacket` on a connection that is known. -/
def insertInto (cid : UInt32) (now : Nat) (packetType : PacketType) (rsn ssn : UInt32)
    (info : ConnectionReorderMetadata) : Except Abort (Status × Progress) :=
  match info.orderingMode with
  | .unordered => insertUnordered cid packetType rsn info
  | .ordered => insertOrdered cid now packetType rsn ssn info

/-- `RetryRnrNackedPacket` on a connection that is known. -/
def retryInto (cid : UInt32) (now : Nat) (rsn : UInt32) (info : ConnectionReorderMetadata) :
    Except Abort (Status × Progress) :=
  let unchanged : Progress := ⟨info, []⟩
  match info.targetRsnBuffer[rsn]? with
  | none => .error .rsnNotBuffered
  | some entry =>
    if entry.packetType = .pullRequest then .error .unexpectedPacketType
    else if entry.retryTime = .infinite then .ok (.ok, unchanged)
    else if info.orderingMode = .unordered then .ok (.ok, sendToUlpTarget cid rsn entry unchanged)
    else if rsn = info.nextTargetRsn then
      let due := { info with targetRsnBuffer :=
        info.targetRsnBuffer.insert rsn { entry with retryTime := .ticks now } }
      .ok (.ok, checkTargetRsnBuffer cid now ⟨due, []⟩)
    else if info.inRnr then .ok (.failedPrecondition, unchanged)
    else .ok (.ok, unchanged)

/-- `HandleRnrNackFromUlp`, less the timer it schedules. A missing entry is created, as
`operator[]` of the map does; its packet type is then not initialized. -/
def rnrNackInto (now : Nat) (rsn : UInt32) (rnrTimeout : Nat) (info : ConnectionReorderMetadata) :
    ConnectionReorderMetadata :=
  let entry := info.targetRsnBuffer.getD rsn { packetType := .invalid }
  let buffer := info.targetRsnBuffer.insert rsn
    { entry with retryTime := .ticks (now + rnrTimeout) }
  match info.orderingMode with
  | .ordered =>
    { info with
      nextTargetRsn := if rsn < info.nextTargetRsn then rsn else info.nextTargetRsn
      inRnr := true
      rnrTimeout
      targetRsnBuffer := buffer }
  | .unordered => { info with targetRsnBuffer := buffer }

def ackInto (rsn : UInt32) (info : ConnectionReorderMetadata) : ConnectionReorderMetadata :=
  let erased := { info with targetRsnBuffer := info.targetRsnBuffer.erase rsn }
  match info.orderingMode with
  | .ordered =>
    { erased with nextTargetNetworkRsn := info.nextTargetNetworkRsn + 1, inRnr := false }
  | .unordered => erased

/-- `HandleRnrTimeout` on a connection that is known. -/
def rnrTimeoutInto (cid : UInt32) (now : Nat) (rsn : UInt32) (info : ConnectionReorderMetadata) :
    Progress :=
  let unchanged : Progress := ⟨info, []⟩
  match info.targetRsnBuffer[rsn]? with
  | none => unchanged
  | some entry =>
    if entry.retryTime ≠ .ticks now then unchanged
    else if info.orderingMode = .unordered then sendToUlpTarget cid rsn entry unchanged
    else if rsn ≠ info.nextTargetRsn then unchanged
    else checkTargetRsnBuffer cid now unchanged

/-- The metadata that `InitializeConnection` sets up. -/
def newConnection (initiatorRsn targetRsn initiatorSsn targetSsn : UInt32)
    (orderingMode : OrderingMode) : ConnectionReorderMetadata where
  nextInitiatorRsn := initiatorRsn
  nextInitiatorSsn := initiatorSsn
  nextTargetRsn := targetRsn
  nextTargetNetworkRsn := targetRsn
  nextTargetSsn := targetSsn
  orderingMode := orderingMode

/-! ## The engine -/

namespace Engine

def empty : Engine := ⟨fun _ => none, [], []⟩

/-- Write a connection back and record the callbacks made for it. -/
def record (engine : Engine) (cid : UInt32) (progress : Progress) : Engine :=
  { engine with
    reorderInfo := fun other => if other = cid then some progress.info else engine.reorderInfo other
    calls := engine.calls ++ progress.calls }

def initializeConnection (engine : Engine)
    (cid initiatorRsn targetRsn initiatorSsn targetSsn : UInt32) (orderingMode : OrderingMode) :
    Status × Engine :=
  match engine.reorderInfo cid with
  | some _ => (.alreadyExists, engine)
  | none =>
    (.ok, engine.record cid
      ⟨newConnection initiatorRsn targetRsn initiatorSsn targetSsn orderingMode, []⟩)

def deleteConnection (engine : Engine) (cid : UInt32) : Status × Engine :=
  match engine.reorderInfo cid with
  | none => (.notFound, engine)
  | some _ =>
    (.ok, { engine with
      reorderInfo := fun other => if other = cid then none else engine.reorderInfo other })

def insertPacket (engine : Engine) (now : Nat) (packetType : PacketType) (cid rsn ssn : UInt32) :
    Except Abort (Status × Engine) :=
  match engine.reorderInfo cid with
  | none => .ok (.notFound, engine)
  | some info =>
    match insertInto cid now packetType rsn ssn info with
    | .error abort => .error abort
    | .ok (status, progress) => .ok (status, engine.record cid progress)

def retryRnrNackedPacket (engine : Engine) (now : Nat) (cid rsn : UInt32) :
    Except Abort (Status × Engine) :=
  match engine.reorderInfo cid with
  | none => .ok (.notFound, engine)
  | some info =>
    match retryInto cid now rsn info with
    | .error abort => .error abort
    | .ok (status, progress) => .ok (status, engine.record cid progress)

def handleRnrNackFromUlp (engine : Engine) (now : Nat) (cid rsn : UInt32) (rnrTimeout : Nat) :
    Except Abort Engine :=
  match engine.reorderInfo cid with
  | none => .error .unknownConnection
  | some info =>
    let recorded := engine.record cid ⟨rnrNackInto now rsn rnrTimeout info, []⟩
    .ok { recorded with timers := recorded.timers ++ [⟨cid, rsn, now + rnrTimeout⟩] }

/-- For a connection that does not exist the source goes on with an uninitialized entry. -/
def handleAckFromUlp (engine : Engine) (cid rsn : UInt32) : Except Abort Engine :=
  match engine.reorderInfo cid with
  | none => .error .unknownConnection
  | some info => .ok (engine.record cid ⟨ackInto rsn info, []⟩)

/-- A timer goes off at `now`. -/
def handleRnrTimeout (engine : Engine) (now : Nat) (cid rsn : UInt32) : Except Abort Engine :=
  match engine.reorderInfo cid with
  | none => .error .unknownConnection
  | some info => .ok (engine.record cid (rnrTimeoutInto cid now rsn info))

end Engine

/-- The operations of the engine, with the time at which they happen where it matters. -/
inductive Operation where
  | initializeConnection (cid initiatorRsn targetRsn initiatorSsn targetSsn : UInt32)
      (orderingMode : OrderingMode)
  | deleteConnection (cid : UInt32)
  | insertPacket (now : Nat) (packetType : PacketType) (cid rsn ssn : UInt32)
  | retryRnrNackedPacket (now : Nat) (cid rsn : UInt32)
  | handleRnrNackFromUlp (now : Nat) (cid rsn : UInt32) (rnrTimeout : Nat)
  | handleAckFromUlp (cid rsn : UInt32)
  | handleRnrTimeout (now : Nat) (cid rsn : UInt32)

/-- The connection an operation is about. -/
def Operation.cid : Operation → UInt32
  | .initializeConnection cid _ _ _ _ _ | .deleteConnection cid | .insertPacket _ _ cid _ _
  | .retryRnrNackedPacket _ cid _ | .handleRnrNackFromUlp _ cid _ _ | .handleAckFromUlp cid _
  | .handleRnrTimeout _ cid _ => cid

/-- The engine after an operation, whatever status it returned. -/
def Engine.perform (engine : Engine) : Operation → Except Abort Engine
  | .initializeConnection cid initiatorRsn targetRsn initiatorSsn targetSsn orderingMode =>
    .ok (engine.initializeConnection cid initiatorRsn targetRsn initiatorSsn targetSsn
      orderingMode).2
  | .deleteConnection cid => .ok (engine.deleteConnection cid).2
  | .insertPacket now packetType cid rsn ssn =>
    (engine.insertPacket now packetType cid rsn ssn).map Prod.snd
  | .retryRnrNackedPacket now cid rsn => (engine.retryRnrNackedPacket now cid rsn).map Prod.snd
  | .handleRnrNackFromUlp now cid rsn rnrTimeout =>
    engine.handleRnrNackFromUlp now cid rsn rnrTimeout
  | .handleAckFromUlp cid rsn => engine.handleAckFromUlp cid rsn
  | .handleRnrTimeout now cid rsn => engine.handleRnrTimeout now cid rsn

end Isekai.BufferReorderEngine
