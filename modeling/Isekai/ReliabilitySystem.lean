import Isekai.ReliabilityManager
import Isekai.Runs

/-! Runs of one end of a connection: its clock, its timers, the packets that its schedulers send,
what arrives from the network, and what its ULP does. What arrives is arbitrary, and so is the
order in which the schedulers take their work. -/

namespace Isekai.Reliability

/-- What can happen to one end of a connection. `others` is what the other connections of the
host do to the state that they share. -/
inductive Event where
  | tick (now : Int)
  | transmit (work : WorkId)
  | retransmit (window : WindowType) (work : RetransmissionWorkId)
  | receivePacket (packet : Packet) (resourcesAvailable isRnr : Bool) (rnrTimeout : Int)
  | receiveAck (ack : AckPacket)
  | receiveNack (nack : NackPacket)
  | retransmitTimeout
  | tlpTimeout
  | updateRates (fabricCongestionWindow nicCongestionWindow : UInt32)
      (retransmitTimeout rtt : Int)
  | initiate (operation : Endpoint.UlpOperation)
  | ackTransaction (rsn : UInt32)
  | nackTransaction (rsn : UInt32) (isRnr : Bool) (rnrTimeout : Int)
  | deliver (work : WorkId)
  | others (prng : Nat → Nat) (outstandingConnCounter outstandingPktCounter : UInt32)

namespace Endpoint

/-- All packets that wait for a timeout or for their retransmission. -/
def pendingWorks (endpoint : Endpoint) : List RetransmissionWorkId :=
  (endpoint.tx .request).outstandingPackets ++ (endpoint.tx .data).outstandingPackets ++
    (endpoint.retransmissions .request ++ endpoint.retransmissions .data)

/-- The transaction of an outgoing packet. -/
def belongsTo (work : RetransmissionWorkId) (key : TransactionKey) : Prop :=
  work.rsn = key.rsn ∧ getTransactionLocation work.type false = .ok key.location

/-- No pending packet belongs to the transaction. -/
def Unreferenced (endpoint : Endpoint) (key : TransactionKey) : Prop :=
  ∀ work ∈ endpoint.pendingWorks, ¬ belongsTo work key

/-- Outgoing packets are only created for a transaction none of whose earlier packets is still
pending: an RSN is not taken again before its last transaction is through with them. -/
def CreatesFresh (config : Config) (endpoint : Endpoint) : Event → Prop
  | .initiate (.readResponse rsn) => endpoint.Unreferenced ⟨rsn, .target⟩
  | .initiate _ => endpoint.Unreferenced ⟨endpoint.nextRequestSequenceNumber, .initiator⟩
  | .receivePacket packet resourcesAvailable _ _ =>
    (startedTransaction packet.type).isSome → ∀ received,
      endpoint.receivePacket config packet resourcesAvailable = .ok (received, true) →
      received.transactions ⟨packet.rsn, .target⟩ = none →
      received.Unreferenced ⟨packet.rsn, .target⟩
  | _ => True

/-- No transaction is kept under the key, and no packet of one waits for its acknowledgement. -/
def Unused (endpoint : Endpoint) (key : TransactionKey) : Prop :=
  endpoint.transactions key = none ∧ ∀ window psn context,
    (endpoint.tx window).outstandingPacketContexts psn = some context →
    context.rsn = key.rsn → getTransactionLocation context.packetType false ≠ .ok key.location

/-- Transactions are only started under RSNs that are not in use. -/
def StartsFresh (config : Config) (endpoint : Endpoint) : Event → Prop
  | .initiate (.readResponse _) => True
  | .initiate _ => endpoint.Unused ⟨endpoint.nextRequestSequenceNumber, .initiator⟩
  | .receivePacket packet resourcesAvailable _ _ =>
    (startedTransaction packet.type).isSome → ∀ received,
      endpoint.receivePacket config packet resourcesAvailable = .ok (received, true) →
      received.Unused ⟨packet.rsn, .target⟩
  | _ => True

/-- An event that can happen. The schedulers send what their gates let through, events run at
their time, and no time is passed over. -/
def Possible (config : Config) (endpoint : Endpoint) : Event → Prop
  | .tick now =>
    endpoint.now ≤ now ∧ (∀ time ∈ endpoint.rtoEvents, now ≤ time) ∧
      ∀ time ∈ endpoint.tlpEvents, now ≤ time
  | .transmit work =>
    work ∈ endpoint.scheduled ∧
      endpoint.meetsInitialTransmissionGatingCriteria config work.type = .ok true
  | .retransmit window work =>
    work ∈ endpoint.retransmissions window ∧
      endpoint.meetsRetransmissionGatingCriteria config work.psn work.type = .ok true
  | .retransmitTimeout => endpoint.now ∈ endpoint.rtoEvents
  | .tlpTimeout => endpoint.now ∈ endpoint.tlpEvents
  | .deliver work => work ∈ endpoint.reordered
  | _ => True

/-- What an event does. -/
def perform (config : Config) (endpoint : Endpoint) : Event → Except Abort Endpoint
  | .tick now => .ok { endpoint with now := now }
  | .transmit work =>
    (endpoint.transmitPacket config work.rsn work.type).map fun (sent, _) =>
      { sent with scheduled := sent.scheduled.erase work }
  | .retransmit window work =>
    (endpoint.transmitPacket config work.rsn work.type).map fun (sent, _) =>
      { sent with
        retransmissions :=
          Function.update sent.retransmissions window
            (eraseWork (sent.retransmissions window) work.psn) }
  | .receivePacket packet resourcesAvailable isRnr rnrTimeout =>
    endpoint.transferRxPacket config packet resourcesAvailable isRnr rnrTimeout
  | .receiveAck ack => endpoint.handleAck config ack
  | .receiveNack nack => endpoint.handleNack config nack
  | .retransmitTimeout =>
    ({ endpoint with
      rtoEvents := endpoint.rtoEvents.erase endpoint.now }).handleRetransmitTimeout config
  | .tlpTimeout =>
    ({ endpoint with tlpEvents := endpoint.tlpEvents.erase endpoint.now }).handleTlpTimeout config
  | .updateRates fabricCongestionWindow nicCongestionWindow retransmitTimeout rtt =>
    endpoint.updateRates config fabricCongestionWindow nicCongestionWindow retransmitTimeout rtt
  | .initiate operation => endpoint.initiateTransaction operation
  | .ackTransaction rsn => endpoint.ackTransaction rsn
  | .nackTransaction rsn isRnr rnrTimeout => endpoint.nackTransaction rsn isRnr rnrTimeout
  | .deliver work =>
    ({ endpoint with reordered := endpoint.reordered.erase work }).reorderCallback work
  | .others prng outstandingConnCounter outstandingPktCounter =>
    .ok { endpoint with
      prng := prng
      outstandingConnCounter := outstandingConnCounter
      outstandingPktCounter := outstandingPktCounter }

instance (config : Config) (endpoint : Endpoint) : (event : Event) →
    Decidable (endpoint.Possible config event)
  | .tick _ => inferInstanceAs (Decidable (_ ∧ _))
  | .transmit _ => inferInstanceAs (Decidable (_ ∧ _))
  | .retransmit _ _ => inferInstanceAs (Decidable (_ ∧ _))
  | .retransmitTimeout => inferInstanceAs (Decidable (_ ∈ _))
  | .tlpTimeout => inferInstanceAs (Decidable (_ ∈ _))
  | .deliver _ => inferInstanceAs (Decidable (_ ∈ _))
  | .receivePacket .. => .isTrue trivial
  | .receiveAck _ => .isTrue trivial
  | .receiveNack _ => .isTrue trivial
  | .updateRates .. => .isTrue trivial
  | .initiate _ => .isTrue trivial
  | .ackTransaction _ => .isTrue trivial
  | .nackTransaction .. => .isTrue trivial
  | .others .. => .isTrue trivial

/-- Something happens. -/
def Step (config : Config) (before after : Endpoint) : Prop :=
  ∃ event, before.Possible config event ∧ before.perform config event = .ok after

/-- A connection before anything is sent or received. -/
structure Initial (config : Config) (endpoint : Endpoint) : Prop where
  tx : endpoint.tx = fun _ => {}
  rx : ∀ window, ((endpoint.rx window).basePacketSequenceNumber = 0 ∧
    (endpoint.rx window).receiveWindow = .empty (config.rxWindowSize window)) ∧
    (endpoint.rx window).ackWindow = .empty (config.rxWindowSize window)
  receivedPacketContexts : endpoint.receivedPacketContexts = fun _ => none
  transactions : endpoint.transactions = fun _ => none
  rtoExpirationBaseTime : endpoint.rtoExpirationBaseTime = 0
  rtoExpirationJitter : endpoint.rtoExpirationJitter = 0
  rtoEvents : endpoint.rtoEvents = []
  tlpEvents : endpoint.tlpEvents = []
  nextRequestSequenceNumber : endpoint.nextRequestSequenceNumber = 0
  scheduled : endpoint.scheduled = []
  retransmissions : endpoint.retransmissions = fun _ => []
  reordered : endpoint.reordered = []

/-- A new connection with the timeout and the congestion windows that it starts with. -/
def starting (config : Config) (retransmitTimeout : Int)
    (fabricCongestionWindow nicCongestionWindow : UInt32) : Endpoint where
  rx window := {
    receiveWindow := .empty (config.rxWindowSize window)
    ackWindow := .empty (config.rxWindowSize window) }
  retransmitTimeout := retransmitTimeout
  fabricCongestionWindow := fabricCongestionWindow
  nicCongestionWindow := nicCongestionWindow

theorem initial_starting (config : Config) (retransmitTimeout : Int)
    (fabricCongestionWindow nicCongestionWindow : UInt32) :
    (starting config retransmitTimeout fabricCongestionWindow nicCongestionWindow).Initial
      config := by
  constructor <;> intros <;> simp [starting]

/-- An event that can happen, executed. -/
def attempt (config : Config) (endpoint : Endpoint) (event : Event) : Option Endpoint :=
  Runs.attempt (endpoint.Possible config event) (endpoint.perform config event)

theorem step_of_attempt {config : Config} (endpoint : Endpoint) (event : Event) (next : Endpoint)
    (done : endpoint.attempt config event = some next) : endpoint.Step config next :=
  ⟨event, Runs.attempt_eq_some.1 done⟩

end Endpoint
end Isekai.Reliability
