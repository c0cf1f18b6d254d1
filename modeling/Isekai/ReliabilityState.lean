import Isekai.FalconBitmap
import Isekai.FastConnectionScheduler
import Isekai.RueFormat

/-! One end of a connection as the packet reliability manager keeps it: the sliding windows, the
packets that wait for an acknowledgement or for their retransmission, the transactions that they
belong to, and the timers.

Times are counted in quarters of a nanosecond. Statistics, congestion control metadata that only
the rate update engine reads, lengths, flow labels and addresses are left out. -/

namespace Isekai.Reliability
open SequenceNumber
open RateUpdate (NackCode)

/-- `WindowType`. -/
inductive WindowType where
  | request | data
  deriving DecidableEq, Repr

/-- `GetAppropriateTxWindow` and `GetAppropriateRxWindow`: the window of a packet. -/
def windowOf (type : PacketType) : WindowType :=
  if belongsToRequestWindow type then .request else .data

/-- `RetransmitReason`. -/
inductive RetransmitReason where
  | timeout | earlyOooDis | earlyRack | earlyTlp | earlyNack | ulpRto
  deriving DecidableEq, Repr

/-- `FalconConfig::EarlyRetx::TlpType`. -/
inductive TlpType where
  | last | firstUnreceived | firstUnacked
  deriving DecidableEq, Repr

/-- The generation of the manager, and for the second one `decrement_orc_on_pull_response`. -/
inductive Version where
  | gen1
  | gen2 (decrementOrcOnPullResponse : Bool)
  deriving DecidableEq, Repr

/-- What the manager reads of the configuration and of the connection's metadata. The products
of a time and a floating point factor are functions of the time. -/
structure Config where
  version : Version := .gen1
  rxWindowSize : WindowType → Nat := fun | .request => 64 | .data => 128
  retxJitterRangeNs : UInt32 := 0
  retxJitterConnFactorNs : UInt32 := 0
  retxJitterPktFactorNs : UInt32 := 0
  enableOooCount : Bool := false
  enableOooDistance : Bool := true
  enableEackOwn : Bool := false
  enableRecencyCheckBypass : Bool := false
  enableScanningExitCriteriaBypass : Bool := false
  enableSmallerPsnRecencyCheckBypass : Bool := false
  enablePauseInitialTransmissionOnOowDrops : Bool := false
  windowSlack : WindowType → UInt32 := fun _ => 0
  enableRack : Bool := false
  rackUseT1 : Bool := true
  rackTimeWindow : Int → Int := fun rtt => rtt / 4
  minRackTimeWindow : Int := 0
  enableTlp : Bool := false
  tlpTimeout : Int → Int := fun rtt => 2 * rtt + 32000
  minTlpTimeout : Int := 200000
  tlpType : TlpType := .firstUnacked
  tlpBypassCc : Bool := false
  earlyRetxThreshold : UInt32 := 0xFFFFFFFF
  oooDistanceThreshold : Nat := 3
  oooCountThreshold : Nat := 3
  maxRetransmitAttempts : UInt32 := 0x7FFFFFFF
  earlyRetransmitLimit : UInt32 := 64

/-- `decrement_orc_on_pull_response_`, which the first generation does not have. -/
def Config.decrementOrcOnPullResponse (config : Config) : Bool :=
  match config.version with
  | .gen1 => false
  | .gen2 flag => flag

/-! ## Packets -/

/-- `PacketMetadata`: a packet of a pending transaction. -/
structure PacketMetadata where
  psn : UInt32 := 0
  transmitAttempts : UInt32 := 0
  timeoutRetransmissionAttempts : UInt32 := 0
  earlyRetxAttempts : UInt32 := 0
  retransmissionReason : RetransmitReason := .timeout
  transmissionTime : Int := 0
  received : Bool := false
  nackCode : NackCode := .notANack
  rnrTimeout : Int := 0
  bypassRecencyCheck : Bool := true
  bypassScanningExitCriteria : Bool := false
  deriving DecidableEq, Repr

/-- `TransactionMetadata`. -/
structure Transaction where
  type : TransactionType
  state : TransactionState := .invalid
  decrementOrrcOnPullResponse : Bool := true
  packets : PacketType → Option PacketMetadata := fun _ => none

/-- `GetPacketMetadata`. -/
def Transaction.getPacketMetadata (transaction : Transaction) (type : PacketType) :
    Except Abort PacketMetadata :=
  match transaction.packets type with
  | none => .error .unknownPacket
  | some packet => .ok packet

/-- `CreatePacket`. -/
def Transaction.createPacket (transaction : Transaction) (type : PacketType)
    (packet : PacketMetadata) : Transaction :=
  { transaction with packets := Function.update transaction.packets type (some packet) }

/-- `WorkId`. -/
structure WorkId where
  rsn : UInt32
  type : PacketType
  deriving DecidableEq, Repr

/-- `RetransmissionWorkId`. -/
structure RetransmissionWorkId where
  rsn : UInt32
  psn : UInt32
  type : PacketType
  deriving DecidableEq, Repr

/-- `OutstandingPacketContext`. -/
structure OutstandingPacketContext where
  rsn : UInt32
  packetType : PacketType
  deriving DecidableEq, Repr

/-- `ReceivedPacketContext`. -/
structure ReceivedPacketContext where
  psn : UInt32 := 0
  type : PacketType := .invalid
  deriving DecidableEq, Repr

/-! ## Ordered sets of work

The sets are ordered by `SeqLT` on the PSN alone, so two items with one PSN are the same. -/

def containsPsn (works : List RetransmissionWorkId) (psn : UInt32) : Bool :=
  works.any fun work => work.psn == psn

/-- `insert`, which leaves an item with the same PSN in place. -/
def insertWork (work : RetransmissionWorkId) :
    List RetransmissionWorkId → List RetransmissionWorkId
  | [] => [work]
  | first :: rest =>
    if work.psn = first.psn then first :: rest
    else if seqLT work.psn first.psn then work :: first :: rest
    else first :: insertWork work rest

def eraseWork (works : List RetransmissionWorkId) (psn : UInt32) : List RetransmissionWorkId :=
  works.filter fun work => work.psn != psn

/-! ## Windows -/

/-- `TransmitterReliabilityWindowMetadata`. -/
structure TxWindow where
  basePacketSequenceNumber : UInt32 := 0
  nextPacketSequenceNumber : UInt32 := 0
  outstandingRequestsCounter : UInt32 := 0
  outstandingRetransmissionRequestsCounter : UInt32 := 0
  oowNotificationReceived : Bool := false
  window : FalconBitmap := .empty FastConnectionScheduler.txBitmapWidth
  outstandingPackets : List RetransmissionWorkId := []
  outstandingPacketContexts : UInt32 → Option OutstandingPacketContext := fun _ => none

/-- `ReceiverReliabilityWindowMetadata`. -/
structure RxWindow where
  basePacketSequenceNumber : UInt32 := 0
  hasOowDrop : Bool := false
  receiveWindow : FalconBitmap
  ackWindow : FalconBitmap

/-! ## The state of one end -/

/-- The state of one connection at its host, with the queues that hold its packets: `scheduled`
are those that the connection scheduler may send for the first time, `retransmissions` those of
the retransmission scheduler, and `reordered` what the reorder engine has still to hand over.
The two counters of outstanding connections and packets are those of the whole host, and `prng`
are the numbers that its random engine gives next. -/
structure Endpoint where
  now : Int := 0
  prng : Nat → Nat := fun _ => 0
  outstandingConnCounter : UInt32 := 0
  outstandingPktCounter : UInt32 := 0
  tx : WindowType → TxWindow := fun _ => {}
  rx : WindowType → RxWindow
  receivedPacketContexts : TransactionKey → Option ReceivedPacketContext := fun _ => none
  transactions : TransactionKey → Option Transaction := fun _ => none
  rtoExpirationBaseTime : Int := 0
  rtoExpirationJitter : Int := 0
  rtoEvents : List Int := []
  rackXmitTs : Int := 0
  rackRto : Option Int := none
  tlpPto : Int := 0
  tlpEvents : List Int := []
  retransmitTimeout : Int
  ulpRto : Int := 20000000
  rtt : Int := 0
  fabricCongestionWindow : UInt32
  nicCongestionWindow : UInt32
  nextRequestSequenceNumber : UInt32 := 0
  scheduled : List WorkId := []
  retransmissions : WindowType → List RetransmissionWorkId := fun _ => []
  reordered : List WorkId := []

/-- What an operation returns on an outgoing packet. -/
structure Located where
  key : TransactionKey
  transaction : Transaction
  packet : PacketMetadata

namespace Endpoint

def modifyTx (endpoint : Endpoint) (window : WindowType) (change : TxWindow → TxWindow) :
    Endpoint :=
  { endpoint with tx := Function.update endpoint.tx window (change (endpoint.tx window)) }

def modifyRx (endpoint : Endpoint) (window : WindowType) (change : RxWindow → RxWindow) :
    Endpoint :=
  { endpoint with rx := Function.update endpoint.rx window (change (endpoint.rx window)) }

def setTransaction (endpoint : Endpoint) (key : TransactionKey) (transaction : Transaction) :
    Endpoint :=
  { endpoint with
    transactions := Function.update endpoint.transactions key (some transaction) }

def eraseTransaction (endpoint : Endpoint) (key : TransactionKey) : Endpoint :=
  { endpoint with
    transactions := Function.update endpoint.transactions key none
    receivedPacketContexts := Function.update endpoint.receivedPacketContexts key none }

/-- `GetTransaction`. -/
def getTransaction (endpoint : Endpoint) (key : TransactionKey) : Except Abort Transaction :=
  match endpoint.transactions key with
  | none => .error .unknownTransaction
  | some transaction => .ok transaction

/-- `GetTransaction` and `GetPacketMetadata` for an outgoing packet. -/
def locate (endpoint : Endpoint) (rsn : UInt32) (type : PacketType) : Except Abort Located :=
  (getTransactionLocation type false).bind fun location =>
  (endpoint.getTransaction ⟨rsn, location⟩).bind fun transaction =>
  (transaction.getPacketMetadata type).map fun packet => ⟨⟨rsn, location⟩, transaction, packet⟩

/-- Writes to the packet that `locate` found. -/
def setPacket (endpoint : Endpoint) (located : Located) (type : PacketType)
    (packet : PacketMetadata) : Endpoint :=
  endpoint.setTransaction located.key (located.transaction.createPacket type packet)

/-- `TransactionMetadata::UpdateState` on the transaction under a key. -/
def updateState (endpoint : Endpoint) (key : TransactionKey) (type : PacketType)
    (stage : TransactionStage) : Except Abort Endpoint :=
  (endpoint.getTransaction key).bind fun transaction =>
  (transaction.state.update type stage).map fun state =>
    endpoint.setTransaction key { transaction with state := state }

/-! ## Counters -/

/-- `IncrementOutstandingRequestCount`. -/
def incrementOutstandingRequestCount (endpoint : Endpoint) (type : PacketType) : Endpoint :=
  if FastConnectionScheduler.ConnectionState.countsAsRequest type then
    endpoint.modifyTx (windowOf type) fun window =>
      { window with outstandingRequestsCounter := window.outstandingRequestsCounter + 1 }
  else endpoint

/-- The window whose counters the acknowledgement of a packet lowers: the request window for
solicited data too, as it is the push request that raised it. -/
def countedWindow (type : PacketType) : WindowType :=
  if type = .pushUnsolicitedData then .data else .request

/-- `DecrementOutstandingRequestCount`. -/
def decrementOutstandingRequestCount (config : Config) (endpoint : Endpoint)
    (type : PacketType) : Endpoint :=
  if type = .pullRequest ∧ config.decrementOrcOnPullResponse then endpoint
  else if type = .pullRequest ∨ type = .pushSolicitedData ∨ type = .pushUnsolicitedData then
    endpoint.modifyTx (countedWindow type) fun window =>
      { window with outstandingRequestsCounter := window.outstandingRequestsCounter - 1 }
  else endpoint

/-- `DecrementOutstandingRequestCountOnPullResponse`. -/
def decrementOutstandingRequestCountOnPullResponse (endpoint : Endpoint) : Endpoint :=
  endpoint.modifyTx .request fun window =>
    { window with outstandingRequestsCounter := window.outstandingRequestsCounter - 1 }

/-- `IncrementOutstandingRetransmittedRequestCount`. -/
def incrementOutstandingRetransmittedRequestCount (endpoint : Endpoint) (type : PacketType) :
    Endpoint :=
  if FastConnectionScheduler.ConnectionState.countsAsRequest type then
    endpoint.modifyTx (windowOf type) fun window =>
      { window with
        outstandingRetransmissionRequestsCounter :=
          window.outstandingRetransmissionRequestsCounter + 1 }
  else endpoint

/-- `DecrementOutstandingRetransmittedRequestCount`. -/
def decrementOutstandingRetransmittedRequestCount (config : Config) (endpoint : Endpoint)
    (type : PacketType) (isAcked : Bool) : Endpoint :=
  if config.decrementOrcOnPullResponse ∧ type = .pullRequest ∧ isAcked then endpoint
  else if type = .pullRequest ∨ type = .pushUnsolicitedData ∨
      (type = .pushSolicitedData ∧ isAcked) ∨ (type = .pushRequest ∧ !isAcked) then
    endpoint.modifyTx (countedWindow type) fun window =>
      { window with
        outstandingRetransmissionRequestsCounter :=
          window.outstandingRetransmissionRequestsCounter - 1 }
  else endpoint

/-- `DecrementOutstandingRetransmittedRequestCountOnPullResponse`. -/
def decrementOutstandingRetransmittedRequestCountOnPullResponse (endpoint : Endpoint) :
    Endpoint :=
  endpoint.modifyTx .request fun window =>
    { window with
      outstandingRetransmissionRequestsCounter :=
        window.outstandingRetransmissionRequestsCounter - 1 }

/-- `CountOutstandingPackets`. -/
def countOutstandingPackets (endpoint : Endpoint) : Nat :=
  (endpoint.tx .request).outstandingPackets.length + (endpoint.tx .data).outstandingPackets.length

/-- `UpdateOutstandingCounterAfterErase`. -/
def updateOutstandingCounterAfterErase (endpoint : Endpoint) : Endpoint :=
  { endpoint with
    outstandingConnCounter :=
      if endpoint.countOutstandingPackets = 0 then endpoint.outstandingConnCounter - 1
      else endpoint.outstandingConnCounter
    outstandingPktCounter := endpoint.outstandingPktCounter - 1 }

/-- `outstanding_packets.erase` and the update of the counters after it. -/
def eraseOutstanding (endpoint : Endpoint) (window : WindowType) (psn : UInt32) : Endpoint :=
  (endpoint.modifyTx window fun tx =>
    { tx with outstandingPackets := eraseWork tx.outstandingPackets psn })
    |>.updateOutstandingCounterAfterErase

/-! ## Gates -/

/-- `CHECK_LE(rounded_fcwnd, window->Size())` and the PSN that the fabric window ends at. -/
def psnBound (endpoint : Endpoint) (window : WindowType) : Except Abort UInt32 :=
  let rounded := FastConnectionScheduler.roundedFcwnd endpoint.fabricCongestionWindow
  if rounded ≤ (endpoint.tx window).window.size then
    .ok ((endpoint.tx window).basePacketSequenceNumber + UInt32.ofNat rounded)
  else .error .windowTooSmall

/-- `MeetsInitialTransmissionCCTxGatingCriteria` and, under its flag,
`MeetsInitialTransmissionOowTxGatingCriteria`. -/
def meetsInitialTransmissionGatingCriteria (config : Config) (endpoint : Endpoint)
    (type : PacketType) : Except Abort Bool :=
  let window := endpoint.tx (windowOf type)
  (endpoint.psnBound (windowOf type)).map fun bound =>
    seqLT window.nextPacketSequenceNumber bound &&
    (!FastConnectionScheduler.ConnectionState.countsAsRequest type ||
      decide (window.outstandingRequestsCounter < endpoint.nicCongestionWindow)) &&
    !(config.enablePauseInitialTransmissionOnOowDrops && window.oowNotificationReceived)

/-- `MeetsRetransmissionCCTxGatingCriteria`. -/
def meetsRetransmissionGatingCriteria (config : Config) (endpoint : Endpoint) (psn : UInt32)
    (type : PacketType) : Except Abort Bool :=
  let window := endpoint.tx (windowOf type)
  let gated := (endpoint.psnBound (windowOf type)).map fun bound =>
    seqLT psn bound &&
    (!FastConnectionScheduler.ConnectionState.countsAsRequest type ||
      decide (window.outstandingRetransmissionRequestsCounter < endpoint.nicCongestionWindow))
  if config.enableTlp && config.tlpBypassCc then
    match window.outstandingPacketContexts psn with
    | none => .error .unknownPsn
    | some context =>
      (endpoint.locate context.rsn context.packetType).bind fun located =>
        if located.packet.retransmissionReason = .earlyTlp then .ok true else gated
  else gated

end Endpoint
end Isekai.Reliability
