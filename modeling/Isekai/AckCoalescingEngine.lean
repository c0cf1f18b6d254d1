import Isekai.ReliabilityManager

/-! The acknowledgements that a receiver owes: the counter and the timer under which they are
gathered, the explicit ACKs that settle them, and the packets on which they are piggybacked. The
keys of a connection are told apart by `Flow`; the first generation has one. -/

namespace Isekai.AckCoalescing
open SequenceNumber Reliability

/-- What the configuration says about acknowledgements. -/
structure CoalescingConfig where
  eackTriggerByHoleInRxBitmap : Bool := true
  ignoreIncomingArBit : Bool := false
  enableEackOwn : Bool := false
  eackBasedEarlyRetransmissionIsEnabled : Bool := false
  deriving DecidableEq, Repr

/-- `AckCoalescingEntry`. -/
structure AckCoalescingEntry where
  coalescingCounterThreshold : UInt32 := 10
  coalescingTimeoutThreshold : Int := 8000
  coalescingCounter : UInt32 := 0
  timerTriggerTime : Int := 0
  deriving DecidableEq, Repr

/-- A call of `HandleAckCoalescingTimeout` that is to come. -/
structure CoalescingTimer (Flow : Type) where
  due : Int
  flow : Flow
  deriving DecidableEq, Repr

instance {Flow : Type} [DecidableEq Flow] : LawfulBEq (CoalescingTimer Flow) := inferInstance

/-- `ReceivedPacketContext`. -/
structure ReceivedContext where
  type : PacketType
  psn : UInt32
  isAckRequested : Bool
  deriving DecidableEq, Repr

/-- What tells the peer what was received: an ACK or EACK, or the base PSNs on another packet. -/
inductive Report
  | explicitAck (packet : AckPacket)
  | piggyback (rrbpsn rdbpsn : UInt32)

/-- The receiving side of one connection. `timers` are the events that the environment has still
to run, `sent` what was handed to the ACK scheduler or put on other packets, the latest last. -/
structure Receiver (Flow : Type) where
  now : Int := 0
  rx : WindowType → RxWindow
  implicitlyAckedCounter : UInt32 := 0
  receivedPacketContexts : UInt32 → Option ReceivedContext := fun _ => none
  entries : Flow → AckCoalescingEntry
  timers : List (CoalescingTimer Flow) := []
  sent : List Report := []

/-- `FirstHoleIndex`: the first zero below the number of ones, or -1. -/
def firstHoleIndex (bitmap : FalconBitmap) : Int :=
  let ones := (List.range bitmap.size).countP bitmap.bits
  match (List.range ones).find? fun index => !bitmap.bits index with
  | some index => index
  | none => -1

/-- `GetAckCoalescingThreshold`: a packet counts once when it is received and once when the ULP
acknowledges it. -/
def AckCoalescingEntry.threshold (entry : AckCoalescingEntry) : UInt32 :=
  entry.coalescingCounterThreshold * 2

namespace Receiver

variable {Flow : Type}

def modifyRx (receiver : Receiver Flow) (window : WindowType) (change : RxWindow → RxWindow) :
    Receiver Flow :=
  { receiver with rx := Function.update receiver.rx window (change (receiver.rx window)) }

/-- `HasExperiencedOowDrops`. -/
def hasExperiencedOowDrops (receiver : Receiver Flow) : Bool :=
  (receiver.rx .request).hasOowDrop || (receiver.rx .data).hasOowDrop

/-- The two windows no longer say that packets were dropped. -/
def resetOowDrops (receiver : Receiver Flow) : Receiver Flow :=
  { receiver with rx := fun window => { receiver.rx window with hasOowDrop := false } }

/-! ## Explicit ACKs -/

/-- Whether the bits that are set are more than an ACK can say. -/
def needsEack (config : CoalescingConfig) (receiver : Receiver Flow) : Bool :=
  let received := (receiver.rx .data).receiveWindow
  !(receiver.rx .request).ackWindow.isEmpty || !(receiver.rx .data).ackWindow.isEmpty ||
    (if config.eackTriggerByHoleInRxBitmap then decide (0 ≤ firstHoleIndex received)
      else !received.isEmpty) ||
    receiver.hasExperiencedOowDrops

/-- `CreateExplicitAckOrEack`, with `FillInBaseAckFields` and `FillInAckBitmaps`. -/
def createExplicitAckOrEack (config : CoalescingConfig) (receiver : Receiver Flow) :
    AckPacket × Receiver Flow :=
  let bases : AckPacket :=
    { rrbpsn := (receiver.rx .request).basePacketSequenceNumber
      rdbpsn := (receiver.rx .data).basePacketSequenceNumber }
  if receiver.needsEack config then
    ({ bases with
        isEack := true
        receiverRequestBitmap := (receiver.rx .request).ackWindow
        receiverDataBitmap := (receiver.rx .data).ackWindow
        receivedBitmap := (receiver.rx .data).receiveWindow
        requestOwn := (receiver.rx .request).hasOowDrop
        dataOwn := (receiver.rx .data).hasOowDrop }, receiver.resetOowDrops)
  else (bases, receiver)

variable [DecidableEq Flow]

def modifyEntry (receiver : Receiver Flow) (flow : Flow)
    (change : AckCoalescingEntry → AckCoalescingEntry) : Receiver Flow :=
  { receiver with
    entries := Function.update receiver.entries flow (change (receiver.entries flow)) }

/-- `TransmitACK`. -/
def transmitAck (config : CoalescingConfig) (receiver : Receiver Flow) (flow : Flow) : Receiver Flow :=
  let reset := { receiver.modifyEntry flow fun entry =>
      { entry with coalescingCounter := 0, timerTriggerTime := 0 } with
    implicitlyAckedCounter := 0 }
  let (packet, created) := reset.createExplicitAckOrEack config
  { created with sent := created.sent ++ [.explicitAck packet] }

/-! ## Coalescing -/

/-- `SetupAckCoalescingTimer`. The environment refuses a negative delay. -/
def setupAckCoalescingTimer (receiver : Receiver Flow) (flow : Flow) :
    Except Abort (Receiver Flow) :=
  let delay := (receiver.entries flow).coalescingTimeoutThreshold
  let armed := receiver.modifyEntry flow fun entry =>
    { entry with timerTriggerTime := receiver.now }
  if delay < 0 then .error .negativeDelay
  else .ok { armed with timers := armed.timers ++ [⟨receiver.now + delay, flow⟩] }

/-- `GenerateAckOrUpdateCoalescingState`. -/
def generateAckOrUpdateCoalescingState (config : CoalescingConfig) (receiver : Receiver Flow) (flow : Flow)
    (immediateAckReq : Bool) (countIncrement : UInt32) : Except Abort (Receiver Flow) :=
  let counted := receiver.modifyEntry flow fun entry =>
    { entry with coalescingCounter := entry.coalescingCounter + countIncrement }
  let immediate := immediateAckReq &&
    !(config.ignoreIncomingArBit && receiver.hasExperiencedOowDrops)
  let entry := counted.entries flow
  if immediate || decide (entry.threshold ≤ entry.coalescingCounter) then
    .ok (counted.transmitAck config flow)
  else if entry.timerTriggerTime = 0 then counted.setupAckCoalescingTimer flow
  else .ok counted

/-- The part of `PiggybackAck` that lowers the counter. -/
def lowerCounter (receiver : Receiver Flow) (flow : Flow) : Receiver Flow :=
  if receiver.hasExperiencedOowDrops then receiver
  else
    { receiver.modifyEntry flow fun entry =>
        { entry with
          coalescingCounter :=
            if receiver.implicitlyAckedCounter * 2 ≤ entry.coalescingCounter then
              entry.coalescingCounter - receiver.implicitlyAckedCounter * 2
            else 0 } with
      implicitlyAckedCounter := 0 }

/-- `PiggybackAck`. -/
def piggybackAck (receiver : Receiver Flow) (flow : Flow) : Receiver Flow :=
  let lowered := receiver.lowerCounter flow
  { lowered.modifyEntry flow fun entry =>
      if entry.coalescingCounter = 0 then { entry with timerTriggerTime := 0 } else entry with
    sent := lowered.sent ++ [.piggyback (lowered.rx .request).basePacketSequenceNumber
      (lowered.rx .data).basePacketSequenceNumber] }

/-- `TransmitNACK`. -/
def transmitNack (receiver : Receiver Flow) (flow : Flow) : Receiver Flow :=
  (receiver.piggybackAck flow).resetOowDrops

/-- `HandleAckCoalescingTimeout`. -/
def handleAckCoalescingTimeout (config : CoalescingConfig) (receiver : Receiver Flow) (flow : Flow) :
    Receiver Flow :=
  let entry := receiver.entries flow
  if receiver.now - entry.timerTriggerTime = entry.coalescingTimeoutThreshold ∧
      0 < entry.coalescingCounter then receiver.transmitAck config flow
  else receiver

/-! ## What is received -/

/-- `UpdateReceiveAckBitmap`. -/
def updateReceiveAckBitmap (receiver : Receiver Flow) (window : WindowType) (psn : UInt32) :
    Except Abort (Receiver Flow) :=
  let rx := receiver.rx window
  let index := (psn - rx.basePacketSequenceNumber).toNat % rx.receiveWindow.size
  (rx.ackWindow.set index true).map fun acked =>
    if psn = rx.basePacketSequenceNumber then
      let delta := Endpoint.leadingOnes acked
      { receiver.modifyRx window fun rx =>
          { rx with
            ackWindow := acked.rightShift delta
            receiveWindow := rx.receiveWindow.rightShift delta
            basePacketSequenceNumber := rx.basePacketSequenceNumber + UInt32.ofNat delta } with
        implicitlyAckedCounter := receiver.implicitlyAckedCounter + UInt32.ofNat delta }
    else receiver.modifyRx window fun rx => { rx with ackWindow := acked }

/-- A packet from the network, as far as the receiving side reads it. -/
structure IncomingPacket where
  type : PacketType
  rsn : UInt32
  psn : UInt32
  ackReq : Bool
  deriving DecidableEq, Repr

/-- `CreateOrUpdateReceiverPacketContext` for an incoming packet of the target side, the only one
whose contexts the ULP acknowledges. -/
def createReceivedContext (receiver : Receiver Flow) (packet : IncomingPacket) : Receiver Flow :=
  if getTransactionLocation packet.type true = .ok .target then
    { receiver with
      receivedPacketContexts := Function.update receiver.receivedPacketContexts packet.rsn
        (some ⟨packet.type, packet.psn, packet.ackReq⟩) }
  else receiver

/-- A packet that the receive window and the resources admit. -/
def accept (config : CoalescingConfig) (receiver : Receiver Flow) (flow : Flow) (packet : IncomingPacket)
    (index : Nat) : Except Abort (Receiver Flow) :=
  let window := windowOf packet.type
  ((receiver.rx window).receiveWindow.set index true).bind fun received =>
    let stored := receiver.modifyRx window fun rx => { rx with receiveWindow := received }
    (if Endpoint.isPushData packet.type then
        stored.generateAckOrUpdateCoalescingState config flow false 1
      else
        (stored.updateReceiveAckBitmap window packet.psn).bind fun updated =>
          updated.generateAckOrUpdateCoalescingState config flow packet.ackReq 2).map fun counted =>
      counted.createReceivedContext packet

/-- `HandleIncomingPacketOrResync`. The NACKs for a packet beyond the window and for a duplicate
of a packet that the ULP refused are transmitted by themselves. -/
def handleIncomingPacket (config : CoalescingConfig) (receiver : Receiver Flow) (flow : Flow)
    (packet : IncomingPacket) (resourcesAvailable : Bool) : Except Abort (Receiver Flow) :=
  let window := windowOf packet.type
  let rx := receiver.rx window
  if seqLT packet.psn rx.basePacketSequenceNumber then
    receiver.generateAckOrUpdateCoalescingState config flow packet.ackReq 2
  else if seqGEQ packet.psn
      (rx.basePacketSequenceNumber + UInt32.ofNat rx.receiveWindow.size) then
    if config.eackBasedEarlyRetransmissionIsEnabled && config.enableEackOwn then
      (receiver.modifyRx window fun rx => { rx with hasOowDrop := true })
        |>.generateAckOrUpdateCoalescingState config flow packet.ackReq 2
    else .ok receiver
  else
    let index := (packet.psn - rx.basePacketSequenceNumber).toNat % rx.receiveWindow.size
    (rx.receiveWindow.get index).bind fun isReceived =>
      if isReceived then
        receiver.generateAckOrUpdateCoalescingState config flow packet.ackReq 2
      else if resourcesAvailable then receiver.accept config flow packet index
      else .ok receiver

/-- `HandleAckFromUlp`. -/
def handleAckFromUlp (config : CoalescingConfig) (receiver : Receiver Flow) (flow : Flow) (rsn : UInt32) :
    Except Abort (Receiver Flow) :=
  match receiver.receivedPacketContexts rsn with
  | none => .error .unknownPsn
  | some context =>
    if context.type = .pullRequest then .ok receiver
    else
      ({ receiver with
          receivedPacketContexts := Function.update receiver.receivedPacketContexts rsn none
        }.updateReceiveAckBitmap (windowOf context.type) context.psn).bind fun updated =>
        updated.generateAckOrUpdateCoalescingState config flow context.isAckRequested 1

end Receiver

/-! ## The steps of a connection -/

/-- What happens to the receiving side. -/
inductive Event (Flow : Type) where
  | tick (now : Int)
  | receive (flow : Flow) (packet : Receiver.IncomingPacket) (resourcesAvailable : Bool)
  | ulpAck (flow : Flow) (rsn : UInt32)
  | transmitAck (flow : Flow)
  | transmitNack (flow : Flow)
  | piggyback (flow : Flow)
  | timeout (timer : CoalescingTimer Flow)
  deriving DecidableEq, Repr

namespace Receiver

variable {Flow : Type} [DecidableEq Flow]

/-- The environment runs its events in the order of their times, and leaves none behind. The ULP
acknowledges what was delivered to it. -/
def Possible (receiver : Receiver Flow) : Event Flow → Prop
  | .tick now => receiver.now ≤ now ∧ ∀ timer ∈ receiver.timers, now ≤ timer.due
  | .ulpAck _ rsn => ∀ context ∈ receiver.receivedPacketContexts rsn,
    Endpoint.isPushData context.type = true ∨ context.type = .pullRequest
  | .timeout timer => timer ∈ receiver.timers ∧ timer.due = receiver.now
  | _ => True

instance (receiver : Receiver Flow) (event : Event Flow) : Decidable (receiver.Possible event) := by
  cases event <;> unfold Possible <;> infer_instance

def perform (config : CoalescingConfig) (receiver : Receiver Flow) :
    Event Flow → Except Abort (Receiver Flow)
  | .tick now => .ok { receiver with now := now }
  | .receive flow packet resourcesAvailable =>
    receiver.handleIncomingPacket config flow packet resourcesAvailable
  | .ulpAck flow rsn => receiver.handleAckFromUlp config flow rsn
  | .transmitAck flow => .ok (receiver.transmitAck config flow)
  | .transmitNack flow => .ok (receiver.transmitNack flow)
  | .piggyback flow => .ok (receiver.piggybackAck flow)
  | .timeout timer =>
    .ok ({ receiver with timers := receiver.timers.erase timer }.handleAckCoalescingTimeout config
      timer.flow)

/-- `kRxRequestWindowSize` and `kRxDataWindowSize`. -/
def rxWindowSize : WindowType → Nat
  | .request => 64
  | .data => 128

/-- A new connection. -/
structure Initial (receiver : Receiver Flow) : Prop where
  rx : receiver.rx = fun window =>
    { receiveWindow := .empty (rxWindowSize window), ackWindow := .empty (rxWindowSize window) }
  implicitlyAckedCounter : receiver.implicitlyAckedCounter = 0
  receivedPacketContexts : receiver.receivedPacketContexts = fun _ => none
  counters : ∀ flow, (receiver.entries flow).coalescingCounter = 0
  triggers : ∀ flow, (receiver.entries flow).timerTriggerTime = 0
  timers : receiver.timers = []
  sent : receiver.sent = []

/-- A step of the receiving side. -/
def Step (config : CoalescingConfig) (before after : Receiver Flow) : Prop :=
  ∃ event, before.Possible event ∧ before.perform config event = .ok after

end Receiver
end Isekai.AckCoalescing
