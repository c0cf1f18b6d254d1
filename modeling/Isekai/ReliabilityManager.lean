import Isekai.AckProcessing

/-! The handlers of the packet reliability manager, and the parts of the Falcon model that call
them: the transmission of a packet, a packet from the network, the timeouts, and what the ULP
asks for or is given. -/

namespace Isekai.Reliability
open SequenceNumber
open RateUpdate (NackCode)

namespace Endpoint

/-! ## Transmission -/

/-- The attempts and the time that `TransmitPacket` and `SetupRetransmission` record. -/
def sentMetadata (packet : PacketMetadata) (psn : UInt32) (now : Int) : PacketMetadata :=
  let sent : PacketMetadata := { packet with
    psn := psn
    transmitAttempts := packet.transmitAttempts + 1
    transmissionTime := now }
  if sent.transmitAttempts > 1 then
    match packet.retransmissionReason with
    | .timeout | .ulpRto =>
      { sent with timeoutRetransmissionAttempts := packet.timeoutRetransmissionAttempts + 1 }
    | .earlyOooDis | .earlyRack | .earlyTlp | .earlyNack =>
      { sent with earlyRetxAttempts := packet.earlyRetxAttempts + 1 }
  else sent

/-- `AssignPsnAndSsn`: the PSN that a first transmission takes. -/
def assignPsn (endpoint : Endpoint) (window : WindowType) : Endpoint :=
  endpoint.modifyTx window fun tx =>
    { tx with nextPacketSequenceNumber := tx.nextPacketSequenceNumber + 1 }

/-- `AddToOutstandingPackets`, and the counters that `SetupRetransmission` raises before it. -/
def addToOutstandingPackets (endpoint : Endpoint) (work : RetransmissionWorkId) : Endpoint :=
  { endpoint with
    outstandingConnCounter :=
      if endpoint.countOutstandingPackets = 0 then endpoint.outstandingConnCounter + 1
      else endpoint.outstandingConnCounter
    outstandingPktCounter := endpoint.outstandingPktCounter + 1 }
  |>.modifyTx (windowOf work.type) fun tx =>
    { tx with
      outstandingPackets := insertWork work tx.outstandingPackets
      outstandingPacketContexts :=
        Function.update tx.outstandingPacketContexts work.psn (some ⟨work.rsn, work.type⟩) }

/-- `CreateOrUpdateReceiverPacketContext` for an outgoing packet, which at most makes room. -/
def createReceiverPacketContext (endpoint : Endpoint) (key : TransactionKey) : Endpoint :=
  { endpoint with
    receivedPacketContexts :=
      Function.update endpoint.receivedPacketContexts key
        (some ((endpoint.receivedPacketContexts key).getD {})) }

/-- The counters and the state after a transmission. -/
def noteTransmitted (endpoint : Endpoint) (key : TransactionKey) (type : PacketType)
    (isRetransmission : Bool) : Except Abort Endpoint :=
  if isRetransmission then
    .ok (endpoint.incrementOutstandingRetransmittedRequestCount type)
  else (endpoint.incrementOutstandingRequestCount type).updateState key type .ntwkTx

/-- `TransmitPacket`, and the packet that leaves. -/
def transmitPacket (config : Config) (endpoint : Endpoint) (rsn : UInt32) (type : PacketType) :
    Except Abort (Endpoint × Packet) :=
  (endpoint.locate rsn type).bind fun located =>
    let window := windowOf type
    let isRetransmission := located.packet.transmitAttempts + 1 != 1
    let numbered := if isRetransmission then endpoint else endpoint.assignPsn window
    let psn :=
      if isRetransmission then located.packet.psn
      else (endpoint.tx window).nextPacketSequenceNumber
    let recorded :=
      (numbered.setPacket located type (sentMetadata located.packet psn endpoint.now))
        |>.addToOutstandingPackets ⟨rsn, psn, type⟩
    (recorded.setupRetransmitTimer config).bind fun timed =>
    (((timed.setupTlpTimer config).createReceiverPacketContext located.key).noteTransmitted
        located.key type isRetransmission).map fun counted =>
      (counted, {
        type := type
        rsn := rsn
        psn := psn
        rrbpsn := (counted.rx .request).basePacketSequenceNumber
        rdbpsn := (counted.rx .data).basePacketSequenceNumber })

/-! ## Packets from the network -/

/-- The number of ones at the start of a bitmap. -/
def leadingOnes (bitmap : FalconBitmap) : Nat :=
  ((List.range bitmap.size).takeWhile bitmap.bits).length

/-- `UpdateReceiveAckBitmap`. -/
def updateReceiveAckBitmap (endpoint : Endpoint) (window : WindowType) (psn : UInt32) :
    Except Abort Endpoint :=
  let rx := endpoint.rx window
  let index := (psn - rx.basePacketSequenceNumber).toNat % rx.receiveWindow.size
  (rx.ackWindow.set index true).map fun acked =>
    endpoint.modifyRx window fun rx =>
      if psn = rx.basePacketSequenceNumber then
        { rx with
          ackWindow := acked.rightShift (leadingOnes acked)
          receiveWindow := rx.receiveWindow.rightShift (leadingOnes acked)
          basePacketSequenceNumber :=
            rx.basePacketSequenceNumber + UInt32.ofNat (leadingOnes acked) }
      else { rx with ackWindow := acked }

/-- Data that the ULP acknowledges. -/
def isPushData (type : PacketType) : Bool :=
  type = .pushSolicitedData ∨ type = .pushUnsolicitedData

/-- `HandleDuplicateNackedPacket`, as far as it can fail. -/
def handleDuplicateNackedPacket (endpoint : Endpoint) (packet : Packet) : Except Abort Unit :=
  if isPushData packet.type then
    match endpoint.transactions ⟨packet.rsn, .target⟩ with
    | none => .ok ()
    | some transaction => (transaction.getPacketMetadata packet.type).map fun _ => ()
  else .ok ()

/-- A packet that the receive window and the resources admit. -/
def admitPacket (config : Config) (endpoint : Endpoint) (packet : Packet) (index : Nat) :
    Except Abort Endpoint :=
  let window := windowOf packet.type
  (endpoint.handleImplicitAck config packet).bind fun acked =>
  ((acked.rx window).receiveWindow.set index true).bind fun received =>
    let stored := acked.modifyRx window fun rx => { rx with receiveWindow := received }
    (if isPushData packet.type then .ok stored
      else stored.updateReceiveAckBitmap window packet.psn).bind fun updated =>
    (getTransactionLocation packet.type true).bind fun location =>
      let contexts := { updated with
        receivedPacketContexts :=
          Function.update updated.receivedPacketContexts ⟨packet.rsn, location⟩
            (some { psn := packet.psn, type := packet.type }) }
      contexts.handlePiggybackedAck config (ofWindow packet.rrbpsn packet.rdbpsn) fun _ => false

/-- `HandleIncomingPacketOrResync`: whether the packet is accepted. -/
def handleIncomingPacket (config : Config) (endpoint : Endpoint) (packet : Packet)
    (resourcesAvailable : Bool) : Except Abort (Endpoint × Bool) :=
  let window := windowOf packet.type
  let rx := endpoint.rx window
  if seqLT packet.psn rx.basePacketSequenceNumber then .ok (endpoint, false)
  else if seqGEQ packet.psn
      (rx.basePacketSequenceNumber + UInt32.ofNat rx.receiveWindow.size) then
    .ok (if config.eackBasedEarlyRetransmissionIsEnabled && config.enableEackOwn then
        endpoint.modifyRx window fun rx => { rx with hasOowDrop := true }
      else endpoint, false)
  else
    let index := (packet.psn - rx.basePacketSequenceNumber).toNat % rx.receiveWindow.size
    (rx.receiveWindow.get index).bind fun isReceived =>
      if isReceived then
        (endpoint.handleDuplicateNackedPacket packet).map fun _ => (endpoint, false)
      else if resourcesAvailable then
        (endpoint.admitPacket config packet index).map fun admitted => (admitted, true)
      else
        (endpoint.handlePiggybackedAck config (ofWindow packet.rrbpsn packet.rdbpsn)
          fun _ => false).map fun acked => (acked, false)

/-- What the second generation adds when a pull response is accepted. -/
def countPullResponse (endpoint : Endpoint) (rsn : UInt32) : Except Abort Endpoint :=
  let lowered := endpoint.decrementOutstandingRequestCountOnPullResponse
  (lowered.getTransaction ⟨rsn, .initiator⟩).bind fun transaction =>
  (transaction.getPacketMetadata .pullRequest).map fun request =>
    if request.transmitAttempts > 1 && transaction.decrementOrrcOnPullResponse then
      lowered.decrementOutstandingRetransmittedRequestCountOnPullResponse
    else lowered

/-- `ReceivePacket` for a transaction packet, in both generations. -/
def receivePacket (config : Config) (endpoint : Endpoint) (packet : Packet)
    (resourcesAvailable : Bool) : Except Abort (Endpoint × Bool) :=
  (endpoint.handleIncomingPacket config packet resourcesAvailable).bind fun (received, accepted) =>
    if config.decrementOrcOnPullResponse && accepted && decide (packet.type = .pullData) then
      (received.countPullResponse packet.rsn).map fun counted => (counted, true)
    else .ok (received, accepted)

/-- The transaction that a packet from the network starts, if it starts one. -/
def startedTransaction : PacketType → Option Transaction
  | .pullRequest => some { type := .pull }
  | .pushRequest =>
    some ({ type := .pushSolicited : Transaction }.createPacket .pushGrant {})
  | .pushUnsolicitedData => some { type := .pushUnsolicited }
  | _ => none

/-- `CreateOrUpdateTransactionFromNetwork`. -/
def createOrUpdateTransactionFromNetwork (endpoint : Endpoint) (packet : Packet) :
    Except Abort Endpoint :=
  (getTransactionLocation packet.type true).bind fun location =>
    let key : TransactionKey := ⟨packet.rsn, location⟩
    match (endpoint.transactions key).or (startedTransaction packet.type) with
    | none => .error .unknownTransaction
    | some transaction =>
      (endpoint.setTransaction key (transaction.createPacket packet.type {})).updateState key
        packet.type .ntwkRx

/-- `AckSyndromeToNackCode`. -/
def nackCodeOf (isRnr : Bool) : NackCode := if isRnr then .ulpReceiverNotReady else .notANack

/-- `HandleNackFromUlp`. -/
def handleNackFromUlp (endpoint : Endpoint) (rsn : UInt32) (isRnr : Bool) (rnrTimeout : Int) :
    Except Abort Endpoint :=
  let key : TransactionKey := ⟨rsn, .target⟩
  match endpoint.receivedPacketContexts key with
  | none => .error .unknownPsn
  | some context =>
    (endpoint.getTransaction key).bind fun transaction =>
    (transaction.getPacketMetadata context.type).map fun packet =>
      endpoint.setTransaction key (transaction.createPacket context.type
        { packet with nackCode := nackCodeOf isRnr, rnrTimeout := rnrTimeout })

/-- `TransferRxPacket` for a transaction packet. `isRnr` is whether the reorder engine refuses
it because the connection is waiting for its receiver, with the timeout that is left. -/
def transferRxPacket (config : Config) (endpoint : Endpoint) (packet : Packet)
    (resourcesAvailable isRnr : Bool) (rnrTimeout : Int) : Except Abort Endpoint :=
  (endpoint.receivePacket config packet resourcesAvailable).bind fun (received, accepted) =>
    if accepted then
      (received.createOrUpdateTransactionFromNetwork packet).bind fun created =>
        if isRnr then
          (created.updateState ⟨packet.rsn, .target⟩ packet.type .ulpRnrRx).bind fun refused =>
            refused.handleNackFromUlp packet.rsn true rnrTimeout
        else .ok { created with reordered := created.reordered ++ [⟨packet.rsn, packet.type⟩] }
    else .ok received

/-! ## Timeouts -/

/-- What `HandleRetransmitTimeout` writes to a packet before it is retransmitted. -/
def markTimeout (config : Config) (endpoint : Endpoint) (packet : PacketMetadata) :
    Except Abort PacketMetadata :=
  let isEarlyRetx :=
    endpoint.rackRto = some (endpoint.getTimeoutOfPacket config packet) &&
      !config.isReceived packet &&
      endpoint.now - packet.transmissionTime < endpoint.retransmitTimeout
  if isEarlyRetx then .ok { packet with retransmissionReason := .earlyRack }
  else if config.maxRetransmitAttempts ≤ packet.timeoutRetransmissionAttempts then
    .error .retransmissionLimit
  else if config.isReceived packet then .ok { packet with retransmissionReason := .ulpRto }
  else
    .ok { packet with
      retransmissionReason := .timeout
      bypassRecencyCheck := true
      bypassScanningExitCriteria := false }

/-- The loop of `HandleRetransmitTimeout` over a window. -/
def scanExpired (config : Config) (window : WindowType) :
    List RetransmissionWorkId → Endpoint → Except Abort Endpoint
  | [], endpoint => .ok endpoint
  | work :: rest, endpoint =>
    ((endpoint.tx window).window.get (bitmapIndex (endpoint.tx window) work.psn)).bind
      fun isAcked =>
      if isAcked then scanExpired config window rest (endpoint.eraseOutstanding window work.psn)
      else
        (endpoint.locate work.rsn work.type).bind fun located =>
          if endpoint.now - located.packet.transmissionTime <
              endpoint.getTimeoutOfPacket config located.packet then .ok endpoint
          else
            (endpoint.markTimeout config located.packet).bind fun marked =>
            ((endpoint.setPacket located work.type marked).initiateRetransmission config
                work.rsn work.type).bind fun initiated =>
              scanExpired config window rest (initiated.eraseOutstanding window work.psn)

/-- `HandleRetransmitTimeout`. -/
def handleRetransmitTimeout (config : Config) (endpoint : Endpoint) : Except Abort Endpoint :=
  if endpoint.now ≠ endpoint.rtoExpirationTime then .ok endpoint
  else
    let cleared := endpoint.clearRtoExpirationTime
    (scanExpired config .request (cleared.tx .request).outstandingPackets cleared).bind
      fun scanned =>
    (scanExpired config .data (scanned.tx .data).outstandingPackets scanned).bind fun expired =>
      expired.setupRetransmitTimer config

/-- The first packet of a list that is not received, with its metadata. -/
def firstUnreceived (config : Config) (endpoint : Endpoint) :
    List RetransmissionWorkId → Except Abort (Option (RetransmissionWorkId × PacketMetadata))
  | [] => .ok none
  | work :: rest =>
    (endpoint.locate work.rsn work.type).bind fun located =>
      if config.isReceived located.packet then firstUnreceived config endpoint rest
      else .ok (some (work, located.packet))

/-- The packet of a window that `TlpRetransmitFirst` considers. -/
def firstCandidate (config : Config) (endpoint : Endpoint) (window : WindowType) :
    Except Abort (Option RetransmissionWorkId) :=
  if config.tlpType = .firstUnreceived then
    (firstUnreceived config endpoint (endpoint.tx window).outstandingPackets).map
      fun found => found.map Prod.fst
  else .ok (endpoint.tx window).outstandingPackets.head?

/-- `TlpRetransmitFirst`. -/
def tlpRetransmitFirst (config : Config) (endpoint : Endpoint) :
    Except Abort (Option (WindowType × RetransmissionWorkId)) :=
  (endpoint.firstCandidate config .request).bind fun request =>
  (endpoint.firstCandidate config .data).map fun data =>
    match request, data with
    | none, none => none
    | some work, none => some (.request, work)
    | none, some work => some (.data, work)
    | some request, some data =>
      if data.type = .pullData ∨ data.type = .pushGrant ∨ data.rsn < request.rsn then
        some (.data, data)
      else some (.request, request)

/-- `TlpRetransmitLast`. -/
def tlpRetransmitLast (config : Config) (endpoint : Endpoint) :
    Except Abort (Option (WindowType × RetransmissionWorkId)) :=
  (firstUnreceived config endpoint (endpoint.tx .request).outstandingPackets.reverse).bind
    fun request =>
  (firstUnreceived config endpoint (endpoint.tx .data).outstandingPackets.reverse).map fun data =>
    match request, data with
    | none, none => none
    | some (work, _), none => some (.request, work)
    | none, some (work, _) => some (.data, work)
    | some (request, requestPacket), some (data, dataPacket) =>
      if requestPacket.transmissionTime < dataPacket.transmissionTime then some (.data, data)
      else some (.request, request)

/-- `HandleTlpTimeout`. The retransmission timer is left as it is. -/
def handleTlpTimeout (config : Config) (endpoint : Endpoint) : Except Abort Endpoint :=
  if endpoint.tlpPto ≠ endpoint.now then .ok endpoint
  else
    let cleared := { endpoint with tlpPto := 0 }
    (if config.tlpType = .last then cleared.tlpRetransmitLast config
      else cleared.tlpRetransmitFirst config).bind fun
    | none => .ok cleared
    | some (window, work) =>
      (cleared.locate work.rsn work.type).bind fun located =>
        if config.earlyRetxThreshold ≤ located.packet.earlyRetxAttempts then .ok cleared
        else
          ((cleared.setPacket located work.type
              { located.packet with retransmissionReason := .earlyTlp }).initiateRetransmission
            config work.rsn work.type).map fun initiated =>
            initiated.eraseOutstanding window work.psn

/-! ## Rate updates -/

/-- What `ProcessResponse` of the rate update engine changes for the manager. -/
def updateRates (config : Config) (endpoint : Endpoint) (fabricCongestionWindow
    nicCongestionWindow : UInt32) (retransmitTimeout rtt : Int) : Except Abort Endpoint :=
  let updated := { endpoint with
    fabricCongestionWindow := fabricCongestionWindow
    nicCongestionWindow := nicCongestionWindow
    retransmitTimeout := retransmitTimeout
    rtt := rtt }
  if retransmitTimeout < endpoint.retransmitTimeout then updated.handleRtoReduction config
  else .ok updated

/-! ## The ULP -/

/-- What the ULP hands to `InitiateTransaction`: a read, the response to one, or a write or send
that is solicited or not. -/
inductive UlpOperation where
  | readRequest
  | readResponse (rsn : UInt32)
  | write (solicited : Bool)
  deriving DecidableEq, Repr

/-- The transaction that a request of the ULP starts, and the packet that is to be sent. -/
def requestedTransaction : UlpOperation → Option (Transaction × PacketType)
  | .readRequest => some (({ type := .pull : Transaction }.createPacket .pullRequest {}),
      .pullRequest)
  | .write true =>
    some ((({ type := .pushSolicited : Transaction }.createPacket .pushSolicitedData {}).createPacket
      .pushRequest {}), .pushRequest)
  | .write false =>
    some (({ type := .pushUnsolicited : Transaction }.createPacket .pushUnsolicitedData {}),
      .pushUnsolicitedData)
  | .readResponse _ => none

/-- `InitiateTransaction`: `CreateOrUpdateTransactionFromUlp`, and the packet is enqueued. A
request takes the next RSN. -/
def initiateTransaction (endpoint : Endpoint) (operation : UlpOperation) :
    Except Abort Endpoint :=
  match operation, requestedTransaction operation with
  | .readResponse rsn, _ =>
    (endpoint.getTransaction ⟨rsn, .target⟩).bind fun transaction =>
    ((endpoint.setTransaction ⟨rsn, .target⟩ (transaction.createPacket .pullData {})).updateState
        ⟨rsn, .target⟩ .pullData .ulpRx).map fun created =>
      { created with scheduled := created.scheduled ++ [⟨rsn, .pullData⟩] }
  | _, none => .error .unexpectedPacketType
  | _, some (transaction, type) =>
    let rsn := endpoint.nextRequestSequenceNumber
    let numbered := { endpoint with nextRequestSequenceNumber := rsn + 1 }
    ((numbered.setTransaction ⟨rsn, .initiator⟩ transaction).updateState ⟨rsn, .initiator⟩ type
        .ulpRx).map fun created =>
      { created with scheduled := created.scheduled ++ [⟨rsn, type⟩] }

/-- The packet of a transaction that the ULP of its target acknowledges. -/
def acknowledgedPacket : TransactionType → PacketType
  | .pull => .pullRequest
  | .pushSolicited => .pushSolicitedData
  | .pushUnsolicited => .pushUnsolicitedData

/-- `HandleAckFromUlp`. -/
def handleAckFromUlp (endpoint : Endpoint) (rsn : UInt32) : Except Abort Endpoint :=
  match endpoint.receivedPacketContexts ⟨rsn, .target⟩ with
  | none => .error .unknownPsn
  | some context =>
    if context.type = .pullRequest then .ok endpoint
    else
      (endpoint.eraseTransaction ⟨rsn, .target⟩).updateReceiveAckBitmap (windowOf context.type)
        context.psn

/-- `AckTransaction` with an acknowledgement. -/
def ackTransaction (endpoint : Endpoint) (rsn : UInt32) : Except Abort Endpoint :=
  (endpoint.getTransaction ⟨rsn, .target⟩).bind fun transaction =>
  (endpoint.updateState ⟨rsn, .target⟩ (acknowledgedPacket transaction.type) .ulpAckRx).bind
    fun updated => updated.handleAckFromUlp rsn

/-- `AckTransaction` with a negative acknowledgement. -/
def nackTransaction (endpoint : Endpoint) (rsn : UInt32) (isRnr : Bool) (rnrTimeout : Int) :
    Except Abort Endpoint :=
  (endpoint.handleNackFromUlp rsn isRnr rnrTimeout).bind fun noted =>
    if isRnr then
      (noted.getTransaction ⟨rsn, .target⟩).bind fun transaction =>
        noted.updateState ⟨rsn, .target⟩ (acknowledgedPacket transaction.type) .ulpRnrRx
    else .ok noted

/-- `ReorderCallback`, with the work that it leaves to the receive scheduler of the host. -/
def reorderCallback (endpoint : Endpoint) (work : WorkId) : Except Abort Endpoint :=
  match work.type with
  | .pullRequest | .pullData | .pushSolicitedData | .pushUnsolicitedData =>
    (getTransactionLocation work.type true).bind fun location =>
    (endpoint.getTransaction ⟨work.rsn, location⟩).bind fun transaction =>
    (transaction.getPacketMetadata work.type).bind fun _ =>
    (endpoint.updateState ⟨work.rsn, location⟩ work.type .ulpTx).map fun delivered =>
      if work.type = .pullData then delivered.eraseTransaction ⟨work.rsn, location⟩ else delivered
  | .pushRequest | .pushGrant =>
    (getTransactionLocation work.type true).bind fun location =>
    (getNextFalconPacket work.type).bind fun next =>
    (endpoint.getTransaction ⟨work.rsn, location⟩).bind fun transaction =>
    (transaction.getPacketMetadata next).map fun _ =>
      { endpoint with scheduled := endpoint.scheduled ++ [⟨work.rsn, next⟩] }
  | .ack =>
    (endpoint.getTransaction ⟨work.rsn, .initiator⟩).bind fun transaction =>
      if transaction.type = .pull then .error .unexpectedPacketType
      else
        (endpoint.updateState ⟨work.rsn, .initiator⟩ (acknowledgedPacket transaction.type)
            .ulpCompletionTx).map fun completed => completed.eraseTransaction ⟨work.rsn, .initiator⟩
  | .nack => .ok endpoint
  | _ => .error .unexpectedPacketType

end Endpoint
end Isekai.Reliability
