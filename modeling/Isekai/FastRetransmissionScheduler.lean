import Isekai.FastConnectionScheduler

/-! The fast retransmission scheduler: for every connection the packets of each window that wait to
be sent again, in the order of their PSNs, and the round robin over the connections of which one
may be sent. -/

namespace Isekai.FastRetransmissionScheduler
open FastConnectionScheduler WeightedRoundRobin

/-- A packet that is to be sent again. -/
structure RetransmissionWorkId where
  rsn : UInt32
  psn : UInt32
  type : PacketType
  deriving DecidableEq, Repr

instance : LT RetransmissionWorkId where
  lt first second := SequenceNumber.seqLT first.psn second.psn = true

instance : DecidableLT RetransmissionWorkId := fun first second =>
  inferInstanceAs (Decidable (SequenceNumber.seqLT first.psn second.psn = true))

inductive WindowTypeQueue where
  | request | data
  deriving DecidableEq, Repr

/-- The window whose turn is after the given one. -/
def WindowTypeQueue.next : WindowTypeQueue → WindowTypeQueue
  | .request => .data
  | .data => .request

/-- The queue that packets of a type wait in. -/
def queueOf : PacketType → Except Abort WindowTypeQueue
  | .pullRequest | .pushRequest => .ok .request
  | .pullData | .pushGrant | .pushSolicitedData | .pushUnsolicitedData => .ok .data
  | _ => .error .unexpectedPacketType

/-- Inserts into the ordered set, unless an equal item is there. -/
def insertWork (item : RetransmissionWorkId) :
    List RetransmissionWorkId → Option (List RetransmissionWorkId)
  | [] => some [item]
  | head :: tail =>
    if item < head then some (item :: head :: tail)
    else if head < item then (insertWork item tail).map (head :: ·)
    else none

/-- Erases the item that is equal to the given one. -/
def eraseWork (item : RetransmissionWorkId) : List RetransmissionWorkId → List RetransmissionWorkId
  | [] => []
  | head :: tail =>
    if item < head then head :: tail
    else if head < item then head :: eraseWork item tail
    else tail

abbrev RetransmissionSchedulerQueues := WindowTypeQueue → List RetransmissionWorkId

structure RetransmissionScheduler where
  connectionPolicy : Policy UInt32 := { enforceOrder := true }
  connectionQueues : UInt32 → Option RetransmissionSchedulerQueues := fun _ => none
  nextWindowType : UInt32 → WindowTypeQueue := fun _ => .request

/-- `MeetsRetransmissionCCTxGatingCriteria`. A probe passes where probes bypass the windows. -/
def meetsRetransmissionCcCriteria (connection : ConnectionState) (bypass : Bool)
    (item : RetransmissionWorkId) : Bool :=
  let window := connection.txWindow item.type
  let psnBound := window.basePsn +
    UInt32.ofNat (roundedFcwnd connection.congestionControl.fabricCongestionWindow)
  if bypass then true
  else if !SequenceNumber.seqLT item.psn psnBound then false
  else if ConnectionState.countsAsRequest item.type then
    decide (window.outstandingRetransmissionRequestsCounter <
      connection.congestionControl.nicCongestionWindow)
  else true

/-- `CanSend`. -/
def canSend (connection : ConnectionState) (bypass : Bool) (item : RetransmissionWorkId) : Bool :=
  !connection.isOpRateLimited && meetsRetransmissionCcCriteria connection bypass item

/-- Whether the head of a queue may be sent as far as the windows go. -/
def headMeetsCriteria (connection : ConnectionState) (bypass : RetransmissionWorkId → Bool) :
    List RetransmissionWorkId → Bool
  | [] => false
  | head :: _ => meetsRetransmissionCcCriteria connection (bypass head) head

/-- The window that is next, given which of the two have work. -/
def nextWindow (current : WindowTypeQueue) (hasRequestWork hasDataWork : Bool) : WindowTypeQueue :=
  let first := if current = .request ∧ !hasRequestWork then .data else current
  if first = .data ∧ !hasDataWork then .request else first

namespace RetransmissionScheduler

variable (scheduler : RetransmissionScheduler)

def queue (scid : UInt32) (queueType : WindowTypeQueue) : List RetransmissionWorkId :=
  match scheduler.connectionQueues scid with
  | none => []
  | some queues => queues queueType

def setQueue (scid : UInt32) (queueType : WindowTypeQueue) (items : List RetransmissionWorkId) :
    RetransmissionScheduler :=
  { scheduler with
    connectionQueues := Function.update scheduler.connectionQueues scid
      (some (Function.update (scheduler.queue scid) queueType items)) }

def setNextWindowType (scid : UInt32) (windowType : WindowTypeQueue) : RetransmissionScheduler :=
  { scheduler with nextWindowType := Function.update scheduler.nextWindowType scid windowType }

/-- `InitConnectionSchedulerQueues`. -/
def initConnectionSchedulerQueues (scid : UInt32) : Except Abort RetransmissionScheduler :=
  match scheduler.connectionQueues scid with
  | some _ => .error .unknownQueues
  | none => do
    let policy ← checked (scheduler.connectionPolicy.initializeEntity equalWeights scid)
    return { scheduler with
      connectionPolicy := policy
      connectionQueues := Function.update scheduler.connectionQueues scid (some fun _ => [])
      nextWindowType := Function.update scheduler.nextWindowType scid .request }

def hasPolicyWork : Bool × RetransmissionScheduler :=
  let (work, policy) := scheduler.connectionPolicy.hasWork equalWeights
  (work, { scheduler with connectionPolicy := policy })

def markConnection (scid : UInt32) (active : Bool) : Except Abort RetransmissionScheduler := do
  let policy ← mark scheduler.connectionPolicy scid (some active)
  return { scheduler with connectionPolicy := policy }

/-- `RecomputeEligibility` of a connection that has queues. At its end it asks whether there is
work, to wake the arbiter. -/
def recomputeConnection (connection : ConnectionState) (bypass : RetransmissionWorkId → Bool)
    (scid : UInt32) (queues : RetransmissionSchedulerQueues) :
    Except Abort RetransmissionScheduler :=
  if connection.isOpRateLimited then scheduler.markConnection scid false
  else
    let hasRequestWork := headMeetsCriteria connection bypass (queues .request)
    let hasDataWork := headMeetsCriteria connection bypass (queues .data)
    if hasRequestWork || hasDataWork then do
      let marked ← scheduler.markConnection scid true
      return (marked.setNextWindowType scid
        (nextWindow (marked.nextWindowType scid) hasRequestWork hasDataWork)).hasPolicyWork.2
    else do
      let marked ← scheduler.markConnection scid false
      return marked.hasPolicyWork.2

/-- The connection that comes next, and its packet. -/
def nextWork : Except Abort (UInt32 × WindowTypeQueue × RetransmissionWorkId ×
    RetransmissionScheduler) := do
  let (scid, policy) ← checked (scheduler.connectionPolicy.getNextEntity equalWeights)
  let scheduler := { scheduler with connectionPolicy := policy }
  let queueType := scheduler.nextWindowType scid
  match scheduler.queue scid queueType with
  | [] => .error .emptyQueue
  | item :: _ => return (scid, queueType, item, scheduler)

end RetransmissionScheduler
end Isekai.FastRetransmissionScheduler
