import Isekai.SchedulerSystem

/-! The steps of a host as a function of a command, so that runs can be executed. What a list
of commands leads to from an initial state is reachable. -/

namespace Isekai.SchedulerExecution
open FastConnectionScheduler SchedulerSystem AdmissionControl

inductive Command where
  | connect (scid : UInt32) (mode : OrderingMode) (congestionControl : CongestionControlMetadata)
  | submit (scid : UInt32) (op : UlpOp)
  | receive (scid : UInt32) (packet : NetworkPacket)
  | callback (scid rsn : UInt32) (type : PacketType)
  | ulpAck (scid rsn : UInt32)
  | networkAck (scid rsn : UInt32) (type : PacketType)
  | gating (scid : UInt32) (change : TransmitterWindow → TransmitterWindow) (isOpRateLimited : Bool)
  | tick
  | schedule

/-- Lets an operation go on when a condition on the run holds. -/
def require (condition : Bool) : Except Abort Unit :=
  if condition then .ok () else .error .unexpectedRsn

theorem require_eq_ok {condition : Bool} {result : Unit} :
    require condition = .ok result ↔ condition = true := by
  cases condition <;> simp [require]

/-- The gating variables that a command writes. -/
def written (connection : ConnectionState) (change : TransmitterWindow → TransmitterWindow)
    (isOpRateLimited : Bool) : ConnectionState :=
  { connection with
    requestWindow := change connection.requestWindow, dataWindow := change connection.dataWindow,
    isOpRateLimited := isOpRateLimited }

def perform (system : System) : Command → Except Abort System
  | .connect scid mode congestionControl => do
    require (system.host.connections scid).isNone
    let scheduler ← system.host.scheduler.initConnectionSchedulerQueues scid
    return { system with
      host := { system.host with scheduler := scheduler }.setConnection scid
        { orderedMode := mode, congestionControl := congestionControl } }
  | .submit scid op => do
    let connection ← system.host.lookup scid
    require ((requestKind system.host.thresholdSolicit op).isNone ||
      (connection.transactions ⟨connection.nextRequestSequenceNumber, .initiator⟩).isNone)
    let host ← initiateTransaction system.host scid op
    return { system with
      host := host
      history := Function.update system.history scid ((system.history scid).submit
        connection.nextRequestSequenceNumber (requestKind system.host.thresholdSolicit op)) }
  | .receive scid packet => do
    let connection ← system.host.lookup scid
    require (!beginsTransaction packet.type ||
      (connection.transactions ⟨packet.rsn, .target⟩).isNone)
    let host ← transferRxPacket system.host scid packet
    return { system with
      host := host
      inserted := system.inserted ++ [(scid, packet.rsn, packet.type)]
      history :=
        if packet.type = .pushGrant then
          Function.update system.history scid ((system.history scid).record
            (.granted ((system.history scid).number packet.rsn)))
        else system.history }
  | .callback scid rsn type => do
    require (decide ((scid, rsn, type) ∈ system.inserted))
    let host ← reorderCallback system.host scid rsn type
    return { system with host := host, inserted := system.inserted.erase (scid, rsn, type) }
  | .ulpAck scid rsn => do
    let host ← ackTransaction system.host scid rsn
    return { system with host := host }
  | .networkAck scid rsn type => do
    let host ← ackFromNetwork system.host scid rsn type
    return { system with
      host := host
      inserted := if type = .pushSolicitedData ∨ type = .pushUnsolicitedData then
        system.inserted ++ [(scid, rsn, .ack)] else system.inserted }
  | .gating scid change isOpRateLimited => do
    let connection ← system.host.lookup scid
    let host ← system.host.writeGating scid (written connection change isOpRateLimited)
    return { system with host := host }
  | .tick => .ok { system with host := { system.host with now := system.host.now + 1 } }
  | .schedule => do
    require system.host.hasWork.1
    let host ← system.host.hasWork.2.scheduleWork
    return { system with
      host := host
      history := recordTransmissions system.history
        (host.network.drop system.host.network.length) }

theorem lookup_some {host : Host} {scid : UInt32} {connection : ConnectionState}
    (found : host.lookup scid = .ok connection) : host.connections scid = some connection := by
  unfold Host.lookup at found
  split at found <;> simp_all

/-- A command that succeeds is a step. -/
theorem perform_step {system next : System} {command : Command}
    (done : perform system command = .ok next) : Step system next := by
  cases command with
  | connect scid mode congestionControl =>
    obtain ⟨_, fresh, done⟩ := bind_eq_ok.1 done
    obtain ⟨scheduler, initialized, final⟩ := bind_eq_ok.1 done
    cases final
    exact .connect scid mode congestionControl scheduler
      (Option.isNone_iff_eq_none.1 (require_eq_ok.1 fresh)) initialized rfl
  | submit scid op =>
    obtain ⟨connection, found, done⟩ := bind_eq_ok.1 done
    obtain ⟨_, unused, done⟩ := bind_eq_ok.1 done
    obtain ⟨host, initiated, final⟩ := bind_eq_ok.1 done
    cases final
    refine .submit scid op (lookup_some found) (fun request => ?_) initiated
    have required := require_eq_ok.1 unused
    simpa [Option.isNone_iff_eq_none, Option.isSome_iff_ne_none.1 request] using required
  | receive scid packet =>
    obtain ⟨connection, found, done⟩ := bind_eq_ok.1 done
    obtain ⟨_, unused, done⟩ := bind_eq_ok.1 done
    obtain ⟨host, received, final⟩ := bind_eq_ok.1 done
    cases final
    refine .receive scid packet (lookup_some found) (fun begins => ?_) received
    have required := require_eq_ok.1 unused
    simpa [begins] using required
  | callback scid rsn type =>
    obtain ⟨_, due, done⟩ := bind_eq_ok.1 done
    obtain ⟨host, called, final⟩ := bind_eq_ok.1 done
    cases final
    exact .callback scid rsn type (of_decide_eq_true (require_eq_ok.1 due)) called
  | ulpAck scid rsn =>
    obtain ⟨host, acked, final⟩ := bind_eq_ok.1 done
    cases final
    exact .ulpAck scid rsn acked
  | networkAck scid rsn type =>
    obtain ⟨host, acked, final⟩ := bind_eq_ok.1 done
    cases final
    exact .networkAck scid rsn type acked
  | gating scid change isOpRateLimited =>
    obtain ⟨connection, found, done⟩ := bind_eq_ok.1 done
    obtain ⟨host, recomputed, final⟩ := bind_eq_ok.1 done
    cases final
    have write : GatingWrite connection (written connection change isOpRateLimited) := rfl
    exact .gating scid (lookup_some found) write recomputed
  | tick =>
    cases done
    exact .tick
  | schedule =>
    obtain ⟨_, work, done⟩ := bind_eq_ok.1 done
    obtain ⟨host, scheduled, final⟩ := bind_eq_ok.1 done
    cases final
    exact .schedule (Prod.ext (require_eq_ok.1 work) rfl) scheduled

/-- Performs commands one after the other. -/
def run (system : System) (commands : List Command) : Except Abort System :=
  commands.foldlM perform system

theorem run_reachable {system next : System} (reachable : Reachable system)
    {commands : List Command} (done : run system commands = .ok next) : Reachable next := by
  induction commands generalizing system with
  | nil =>
    cases done
    exact reachable
  | cons command rest ih =>
    obtain ⟨middle, first, done⟩ := bind_eq_ok.1 done
    exact ih (Runs.reachable_step reachable (perform_step first)) done

/-- A window of 32 packets. -/
def openWindow : CongestionControlMetadata :=
  { fabricCongestionWindow := 32 * 1024, nicCongestionWindow := 32, withinWindow := by decide }

/-- A host that has set up no connection, under the given admission control. -/
def freshHost (admission : AdmissionControlManager) (thresholdSolicit : UInt32) : Host :=
  { admission := admission
    thresholdSolicit := thresholdSolicit
    enablePauseInitialTransmissionOnOowDrops := false
    scheduler := {
      packetQueueWisePktCount := fun _ => 0
      packetTypePolicy :=
        match Scheduler.initialPacketTypePolicy with
        | .ok policy => policy
        | .error _ => {}
      connectionPolicy := fun _ => { enforceOrder := true } } }

theorem fresh_host_initial (admission : AdmissionControlManager) (thresholdSolicit : UInt32)
    (empty : admission.solicitedDataBytes = 0) :
    Initial { host := freshHost admission thresholdSolicit } :=
  ⟨rfl, rfl, rfl, empty, rfl, rfl, rfl⟩

/-- What a run leads to is reachable, and can be looked at. -/
theorem run_of_check {system : System} (commands : List Command) (check : System → Bool)
    (reachable : Reachable system)
    (checked : (match run system commands with
      | .ok next => check next
      | .error _ => false) = true) :
    ∃ next, Reachable next ∧ check next = true := by
  split at checked
  · rename_i next done
    exact ⟨next, run_reachable reachable done, checked⟩
  · cases checked

end Isekai.SchedulerExecution
