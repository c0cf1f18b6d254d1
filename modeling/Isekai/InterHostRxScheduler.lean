import Isekai.FalconTypes
import Isekai.Runs

/-! The scheduler that hands the received packets of several hosts to the RDMA model, one at a time,
and its round-robin policy. A host is served while it has packets and RDMA has not xoffed it. -/

namespace Isekai.InterHostRx

/-! ## The round-robin policy -/

/-- `HostPolicyState`. The iterator is the place of the host in the list that it is in. -/
structure HostPolicyState where
  isActive : Bool := false
  isXoff : Bool := false
  deriving DecidableEq, Repr

/-- Why the scheduler stops: a check that fails, or the front of an empty queue. -/
inductive Fault where
  | duplicateHost | noSuchHost | emptyQueue
  deriving DecidableEq, Repr

/-- `InterHostRxSchedulingRoundRobinPolicy`. -/
structure Policy where
  hostState : UInt8 → Option HostPolicyState := fun _ => none
  activeHosts : List UInt8 := []
  inactiveHosts : List UInt8 := []

namespace Policy

def setHost (policy : Policy) (bifurcationId : UInt8) (state : HostPolicyState) : Policy :=
  { policy with hostState := Function.update policy.hostState bifurcationId (some state) }

/-- Moves a host from the inactive hosts to the end of the active ones. -/
def toActive (policy : Policy) (bifurcationId : UInt8) : Policy :=
  { policy with
    inactiveHosts := policy.inactiveHosts.erase bifurcationId
    activeHosts := policy.activeHosts ++ [bifurcationId] }

/-- Moves a host from the active hosts to the end of the inactive ones. -/
def toInactive (policy : Policy) (bifurcationId : UInt8) : Policy :=
  { policy with
    activeHosts := policy.activeHosts.erase bifurcationId
    inactiveHosts := policy.inactiveHosts ++ [bifurcationId] }

def initHost (policy : Policy) (bifurcationId : UInt8) : Except Fault Policy :=
  if (policy.hostState bifurcationId).isSome then .error .duplicateHost
  else .ok { policy.setHost bifurcationId {} with
    inactiveHosts := policy.inactiveHosts ++ [bifurcationId] }

/-- Takes the host at the front of the active hosts, and moves it to their end. -/
def selectHost (policy : Policy) : Option (UInt8 × Policy) :=
  match policy.activeHosts with
  | [] => none
  | bifurcationId :: rest =>
    some (bifurcationId, { policy with activeHosts := rest ++ [bifurcationId] })

def markHostActive (policy : Policy) (bifurcationId : UInt8) : Except Fault Policy :=
  match policy.hostState bifurcationId with
  | none => .error .noSuchHost
  | some state =>
    if state.isActive then .ok policy
    else
      let marked := policy.setHost bifurcationId { state with isActive := true }
      .ok (if state.isXoff then marked else marked.toActive bifurcationId)

def markHostInactive (policy : Policy) (bifurcationId : UInt8) : Except Fault Policy :=
  match policy.hostState bifurcationId with
  | none => .error .noSuchHost
  | some state =>
    if !state.isActive then .ok policy
    else
      let marked := policy.setHost bifurcationId { state with isActive := false }
      .ok (if state.isXoff then marked else marked.toInactive bifurcationId)

def xoffHost (policy : Policy) (bifurcationId : UInt8) : Except Fault Policy :=
  match policy.hostState bifurcationId with
  | none => .error .noSuchHost
  | some state =>
    if state.isXoff then .ok policy
    else
      let marked := policy.setHost bifurcationId { state with isXoff := true }
      .ok (if state.isActive then marked.toInactive bifurcationId else marked)

def xonHost (policy : Policy) (bifurcationId : UInt8) : Except Fault Policy :=
  match policy.hostState bifurcationId with
  | none => .error .noSuchHost
  | some state =>
    if !state.isXoff then .ok policy
    else
      let marked := policy.setHost bifurcationId { state with isXoff := false }
      .ok (if state.isActive then marked.toActive bifurcationId else marked)

def hasWork (policy : Policy) : Bool := !policy.activeHosts.isEmpty

end Policy

/-! ## The scheduler -/

/-- Times are in ticks of the clock. `serializationDelay` is the time that a packet of a size takes
on the link to RDMA. -/
structure Config where
  schedulerCycleTime : Nat
  serializationDelay : UInt32 → Nat

/-- A callback that is enqueued. It updates the inter-packet gap if it hands over a packet, and does
nothing else to the scheduler. -/
structure Work where
  callback : Nat
  packetSize : Option UInt32 := none
  deriving DecidableEq, Repr

/-- `ProtocolInterHostRxScheduler`, with the time and the due times of its `ScheduleWork` events.
`enqueued` and `executed` are all the callbacks so far. -/
structure State where
  policy : Policy
  hostsQueue : UInt8 → List Work := fun _ => []
  isRunning : Bool := false
  lastSchedulerRunTime : Nat := 0
  interPacketGap : Nat
  now : Nat := 0
  pending : List Nat := []
  enqueued : List (UInt8 × Work) := []
  executed : List (UInt8 × Work) := []

namespace State

/-- Schedules the next run when none is scheduled. -/
def start (state : State) : State :=
  let nextRunTime := max (state.lastSchedulerRunTime + state.interPacketGap) state.now
  { state with
    isRunning := true
    pending := state.pending ++ [state.now + (nextRunTime - state.now)] }

def enqueue (state : State) (bifurcationId : UInt8) (work : Work) : Except Fault State :=
  (state.policy.markHostActive bifurcationId).map fun policy =>
    let state := { state with
      policy := policy
      hostsQueue := Function.update state.hostsQueue bifurcationId
        (state.hostsQueue bifurcationId ++ [work])
      enqueued := state.enqueued ++ [(bifurcationId, work)] }
    if state.isRunning then state else state.start

section
variable (config : Config)

/-- `UpdateInterPacketGap`, if the callback hands over a packet. -/
def updateInterPacketGap (state : State) (packetSize : Option UInt32) : State :=
  match packetSize with
  | none => state
  | some size => { state with
      interPacketGap := max config.schedulerCycleTime (config.serializationDelay size) }

/-- The next event is scheduled if there is work. -/
def continueWork (state : State) : State :=
  if state.policy.hasWork then
    { state with
      isRunning := true
      pending := state.pending ++ [state.now + state.interPacketGap] }
  else state

def scheduleWork (state : State) : Except Fault State :=
  let state := { state with isRunning := false }
  match state.policy.selectHost with
  | none => .ok state
  | some (bifurcationId, policy) =>
    match state.hostsQueue bifurcationId with
    | [] => .error .emptyQueue
    | work :: rest =>
      let ran := { state with lastSchedulerRunTime := state.now }.updateInterPacketGap config
        work.packetSize
      (if rest.isEmpty then policy.markHostInactive bifurcationId else .ok policy).map
        fun policy => continueWork { ran with
          policy := policy
          hostsQueue := Function.update ran.hostsQueue bifurcationId rest
          executed := ran.executed ++ [(bifurcationId, work)] }

def setXoff (state : State) (bifurcationId : UInt8) (xoff : Bool) : Except Fault State :=
  if xoff then
    (state.policy.xoffHost bifurcationId).map fun policy => { state with policy := policy }
  else
    (state.policy.xonHost bifurcationId).map fun policy =>
      let state := { state with policy := policy }
      if state.policy.hasWork && !state.isRunning then state.start else state

/-! ### Runs -/

/-- Callbacks are enqueued, hosts are xoffed and xonned, the scheduler runs when it is due, and time
passes. -/
inductive Event where
  | enqueue (bifurcationId : UInt8) (work : Work)
  | setXoff (bifurcationId : UInt8) (xoff : Bool)
  | scheduleWork (due : Nat)
  | tick
  deriving DecidableEq, Repr

def Possible (state : State) : Event → Prop
  | .scheduleWork due => due ∈ state.pending ∧ due ≤ state.now
  | .tick => ∀ due ∈ state.pending, state.now < due
  | _ => True

def perform (state : State) : Event → Except Fault State
  | .enqueue bifurcationId work => state.enqueue bifurcationId work
  | .setXoff bifurcationId xoff => state.setXoff bifurcationId xoff
  | .scheduleWork due => scheduleWork config { state with pending := state.pending.erase due }
  | .tick => .ok { state with now := state.now + 1 }

def Step (state next : State) : Prop :=
  ∃ event, state.Possible event ∧ state.perform config event = .ok next

/-- The policy with a number of hosts. -/
def initHosts (numberOfHosts : UInt8) : Except Fault Policy :=
  ((List.range numberOfHosts.toNat).map UInt8.ofNat).foldlM Policy.initHost {}

/-- A scheduler that was just created. -/
def Initial (state : State) : Prop :=
  ∃ numberOfHosts policy now, initHosts numberOfHosts = .ok policy ∧
    state = { policy := policy, interPacketGap := config.schedulerCycleTime, now := now }

end

end State

end Isekai.InterHostRx
