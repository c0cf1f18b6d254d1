import Isekai.BufferReorderEngine
import Isekai.SequenceNumber
import Isekai.Runs

/-! The target side of an ordered connection together with its ULP: the reorder engine hands
RSNs to the receiving queue pair, which accepts them one after the other or answers with RNR
NACKs, and the answers, the RNR timers and retried packets come back in any order. -/

namespace Isekai.RnrSystem
open BufferReorderEngine SequenceNumber

/-- `RdmaConnectedMode`. -/
inductive RdmaConnectedMode where
  | orderedRc | unorderedRc
  deriving DecidableEq

/-- The receive side of `FalconQpContext`. -/
structure FalconQpContext where
  rcMode : RdmaConnectedMode
  nextRxRsn : UInt32
  inRnr : Bool := false
  deriving DecidableEq

/-- `Packet::Syndrome` of the answers that a target ULP gives. -/
inductive Syndrome where
  | ack | rnrNak
  deriving DecidableEq

def isRsnAcceptable (context : FalconQpContext) (rsn : UInt32) : Except Abort Bool :=
  if context.rcMode = .orderedRc ∧ rsn ≠ context.nextRxRsn then
    if context.inRnr then .ok false else .error .unexpectedRsn
  else .ok true

def updateNextRsnToReceive (context : FalconQpContext) : FalconQpContext :=
  if context.rcMode = .orderedRc then { context with nextRxRsn := context.nextRxRsn + 1 }
  else context

def enterRnrState (context : FalconQpContext) : FalconQpContext :=
  if context.rcMode = .orderedRc then { context with inRnr := true } else context

def leaveRnrState (context : FalconQpContext) : FalconQpContext :=
  if context.rcMode = .orderedRc then { context with inRnr := false } else context

/-- `ProcessIncomingReadRequest` and `ProcessIncomingWrite` as far as the answer goes. The
receiver may refuse an acceptable RSN: a full read request queue, or a random RNR NACK. -/
def processIncoming (context : FalconQpContext) (rsn : UInt32) (refuse : Bool) :
    Except Abort (Syndrome × FalconQpContext) :=
  match isRsnAcceptable context rsn with
  | .error abort => .error abort
  | .ok acceptable =>
    if !acceptable || refuse then .ok (.rnrNak, enterRnrState context)
    else .ok (.ack, leaveRnrState (updateNextRsnToReceive context))

/-! ## The system -/

/-- The engine's connection and its timers, the queue pair, the RSNs handed to it and not
processed yet, and its answers that are on their way back. `arrived` and `acknowledged` are
positions in the RSN sequence: the packets inserted, and those whose ack came back. -/
structure System where
  now : Nat
  info : ConnectionReorderMetadata
  timers : List RnrTimer
  context : FalconQpContext
  queue : List UInt32
  nacks : List UInt32
  acks : List UInt32
  accepted : List UInt32
  arrived : List Nat
  acknowledged : List Nat

/-- The engine and the queue pair agree on the first RSN. -/
def System.initial (start : UInt32) (info : ConnectionReorderMetadata) : System where
  now := 0
  info := info
  timers := []
  context := { rcMode := .orderedRc, nextRxRsn := start }
  queue := []
  nacks := []
  acks := []
  accepted := []
  arrived := []
  acknowledged := []

/-- What the engine did to the connection; the RSNs it called back for join the queue. -/
def System.absorb (system : System) (progress : Progress) : System :=
  { system with
    info := progress.info
    queue := system.queue ++ progress.calls.map ReorderCall.rsn }

/-- The queue pair's answer to the RSN it processed. -/
def System.answer (system : System) (rsn : UInt32) (rest : List UInt32) :
    Syndrome × FalconQpContext → System
  | (.ack, context) =>
    { system with
      context, queue := rest
      acks := system.acks ++ [rsn]
      accepted := system.accepted ++ [rsn] }
  | (.rnrNak, context) => { system with context, queue := rest, nacks := system.nacks ++ [rsn] }

/-- Packet types that `InsertPacket` orders by target RSN. -/
def isTargetRequest : PacketType → Bool
  | .pullRequest | .pushSolicitedData | .pushUnsolicitedData => true
  | _ => false

/-- The steps of the system for connection `cid`. A packet is inserted once for each position
of the sequence, and fewer than 2^32 positions are open at a time; duplicates of a packet
that is still buffered are retried; timers go off when their time has come. The RNR NACKs
that reach the engine are those that `nackAllowed` admits. -/
inductive Step (cid start : UInt32) (nackAllowed : System → UInt32 → Prop) :
    System → System → Prop where
  | insert {system : System} {packetType : PacketType} {position : Nat} {ssn : UInt32}
      {status : Status} {progress : Progress} (request : isTargetRequest packetType)
      (once : position ∉ system.arrived)
      (window : ∀ earlier, earlier + 2 ^ 32 ≤ position + 1 → earlier ∈ system.acknowledged)
      (done : insertInto cid system.now packetType (advance start position) ssn system.info =
        .ok (status, progress)) :
      Step cid start nackAllowed system
        { system.absorb progress with arrived := system.arrived ++ [position] }
  | process {system : System} {rsn : UInt32} {rest : List UInt32} {refuse : Bool}
      {result : Syndrome × FalconQpContext} (head : system.queue = rsn :: rest)
      (done : processIncoming system.context rsn refuse = .ok result) :
      Step cid start nackAllowed system (system.answer rsn rest result)
  | deliverAck {system : System} {position : Nat} {before after : List UInt32}
      (arrived : position ∈ system.arrived) (pending : position ∉ system.acknowledged)
      (answered : system.acks = before ++ advance start position :: after) :
      Step cid start nackAllowed system
        { system with
          info := ackInto (advance start position) system.info
          acks := before ++ after
          acknowledged := system.acknowledged ++ [position] }
  | deliverNack {system : System} {rsn : UInt32} {before after : List UInt32} (rnrTimeout : Nat)
      (answered : system.nacks = before ++ rsn :: after) (allowed : nackAllowed system rsn) :
      Step cid start nackAllowed system
        { system with
          info := rnrNackInto system.now rsn rnrTimeout system.info
          timers := system.timers ++ [⟨cid, rsn, system.now + rnrTimeout⟩]
          nacks := before ++ after }
  | retry {system : System} {rsn : UInt32} {status : Status} {progress : Progress}
      (done : retryInto cid system.now rsn system.info = .ok (status, progress)) :
      Step cid start nackAllowed system (system.absorb progress)
  | timeout {system : System} {timer : RnrTimer} (set : timer ∈ system.timers)
      (due : timer.time = system.now) :
      Step cid start nackAllowed system
        { system.absorb (rnrTimeoutInto cid system.now timer.rsn system.info) with
          timers := system.timers.erase timer }
  | tick {system : System} {time : Nat} (later : system.now ≤ time)
      (inTime : ∀ timer ∈ system.timers, time ≤ timer.time) :
      Step cid start nackAllowed system { system with now := time }

/-- The states of all runs from the first RSN on. The initial numbers of the other three
sequences do not matter. -/
def Reachable (cid start : UInt32) (nackAllowed : System → UInt32 → Prop) (system : System) :
    Prop :=
  Runs.Reachable
    (fun first => ∃ initiatorRsn initiatorSsn targetSsn, first = System.initial start
      (newConnection initiatorRsn start initiatorSsn targetSsn .ordered))
    (Step cid start nackAllowed) system

/-- An RSN that was handed to the ULP and whose answer did not reach the engine yet. -/
def System.inFlight (system : System) : List UInt32 :=
  system.queue ++ system.nacks ++ system.acks

/-- The engine's numeric comparison of an RNR-NACKed RSN with the next one it will hand out
agrees with their order in the sequence, counted from the RSN that the ULP needs. -/
def ComparisonAgrees (system : System) (rsn : UInt32) : Prop :=
  rsn < system.info.nextTargetRsn ↔
    distance system.context.nextRxRsn rsn <
      distance system.context.nextRxRsn system.info.nextTargetRsn

/-- What the engine and the ULP owe to each other in a state. -/
structure Sound (start : UInt32) (system : System) : Prop where
  handedOnce : system.inFlight.Nodup
  acceptedInOrder : system.accepted =
    (List.range system.accepted.length).map (advance start)
  neverFatal : ∀ rsn rest refuse, system.queue = rsn :: rest →
    ∃ result, processIncoming system.context rsn refuse = .ok result
  neverWedged : system.context.nextRxRsn ∈ system.info.targetRsnBuffer →
    system.context.nextRxRsn ∉ system.inFlight →
      system.info.nextTargetRsn = system.context.nextRxRsn ∨
        ∃ timer ∈ system.timers, timer.rsn = system.context.nextRxRsn

end Isekai.RnrSystem
