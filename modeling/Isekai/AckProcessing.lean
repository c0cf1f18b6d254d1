import Isekai.RetransmitTimer

/-! What a connection does with the acknowledgements that reach it: cumulative ones in ACKs and
on other packets, the bitmaps of an extended ACK and the retransmissions that they cause, the
implicit acknowledgement of a request by its answer, and NACKs. -/

namespace Isekai.Reliability
open SequenceNumber
open RateUpdate (NackCode)

/-- `Packet::falcon`: a transaction packet. -/
structure Packet where
  type : PacketType
  rsn : UInt32
  psn : UInt32
  rrbpsn : UInt32
  rdbpsn : UInt32
  deriving DecidableEq, Repr

/-- `Packet::ack`. -/
structure AckPacket where
  rrbpsn : UInt32
  rdbpsn : UInt32
  isEack : Bool := false
  requestOwn : Bool := false
  dataOwn : Bool := false
  receiverRequestBitmap : FalconBitmap := .empty 64
  receiverDataBitmap : FalconBitmap := .empty 128
  receivedBitmap : FalconBitmap := .empty 128
  timestamp1 : Int := 0
  receivedTimestamp : Int := 0

/-- `Packet::nack`. -/
structure NackPacket where
  rrbpsn : UInt32
  rdbpsn : UInt32
  nackPsn : UInt32
  requestWindow : Bool
  code : NackCode
  rnrTimeout : Int := 0
  requestOwn : Bool := false
  dataOwn : Bool := false
  timestamp1 : Int := 0
  receivedTimestamp : Int := 0

/-- The value that belongs to a window. -/
def ofWindow {Value : Type} (request data : Value) : WindowType → Value
  | .request => request
  | .data => data

namespace AckPacket

def bpsn (ack : AckPacket) : WindowType → UInt32 := ofWindow ack.rrbpsn ack.rdbpsn

def own (ack : AckPacket) : WindowType → Bool := ofWindow ack.requestOwn ack.dataOwn

/-- `ack_windows_metadata`. -/
def ackBitmap (ack : AckPacket) : WindowType → FalconBitmap :=
  ofWindow ack.receiverRequestBitmap ack.receiverDataBitmap

/-- `ack_received_metadata`. -/
def receivedBits (ack : AckPacket) : WindowType → FalconBitmap :=
  ofWindow ack.receiverRequestBitmap ack.receivedBitmap

end AckPacket

/-- The window that a NACK names. -/
def NackPacket.window (nack : NackPacket) : WindowType :=
  if nack.requestWindow then .request else .data

namespace Endpoint

/-! ## One packet is acknowledged -/

/-- The part of `EnqueueAckToUlp` that takes the packet out of the queue in which it waits. -/
def takeOutstanding (config : Config) (endpoint : Endpoint) (window : WindowType)
    (context : OutstandingPacketContext) (psn : UInt32) : Except Abort Endpoint :=
  if !containsPsn (endpoint.tx window).outstandingPackets psn then
    endpoint.dequeuePacketFromRetxScheduler config context.rsn context.packetType
  else
    let erased := endpoint.modifyTx window fun tx =>
      { tx with outstandingPackets := eraseWork tx.outstandingPackets psn }
    (erased.locate context.rsn context.packetType).map fun located =>
      updateOutstandingCounterAfterErase <|
        if (context.packetType = .pullRequest ∨ context.packetType = .pushUnsolicitedData) ∧
            located.packet.transmitAttempts > 1 then
          erased.decrementOutstandingRetransmittedRequestCount config context.packetType true
        else erased

/-- The part of `EnqueueAckToUlp` that lowers the counters. Solicited data ends the count of its
push request, also among the retransmitted ones if it was retransmitted. -/
def countAcknowledged (config : Config) (endpoint : Endpoint) (key : TransactionKey)
    (type : PacketType) : Except Abort Endpoint :=
  let lowered := endpoint.decrementOutstandingRequestCount config type
  if type = .pushSolicitedData then
    (lowered.getTransaction key).bind fun transaction =>
    (transaction.getPacketMetadata .pushRequest).map fun request =>
      if request.transmitAttempts > 1 then
        lowered.decrementOutstandingRetransmittedRequestCount config type true
      else lowered
  else .ok lowered

/-- The part of `EnqueueAckToUlp` that forgets the packet and tells the ULP. -/
def releaseAcknowledged (config : Config) (endpoint : Endpoint) (window : WindowType)
    (context : OutstandingPacketContext) (psn : UInt32) : Except Abort Endpoint :=
  let forgotten := endpoint.modifyTx window fun tx =>
    { tx with
      outstandingPacketContexts := Function.update tx.outstandingPacketContexts psn none }
  (forgotten.locate context.rsn context.packetType).map fun located =>
    let updated :=
      if config.enableRack && !config.rackUseT1 then
        forgotten.rackUpdate config located.packet.transmissionTime
      else forgotten
    if context.packetType = .pushSolicitedData ∨ context.packetType = .pushUnsolicitedData then
      { updated with reordered := updated.reordered ++ [⟨context.rsn, .ack⟩] }
    else if context.packetType = .pullData then updated.eraseTransaction located.key
    else updated

/-- `EnqueueAckToUlp`. -/
def enqueueAckToUlp (config : Config) (endpoint : Endpoint) (window : WindowType)
    (psn : UInt32) : Except Abort Endpoint :=
  match (endpoint.tx window).outstandingPacketContexts psn with
  | none => .error .unknownPsn
  | some context =>
    (getTransactionLocation context.packetType false).bind fun location =>
    (endpoint.updateState ⟨context.rsn, location⟩ context.packetType .ntwkAckRx).bind fun updated =>
    (updated.countAcknowledged config ⟨context.rsn, location⟩ context.packetType).bind fun counted =>
    (counted.takeOutstanding config window context psn).bind fun taken =>
    taken.releaseAcknowledged config window context psn

/-! ## Cumulative acknowledgements -/

/-- One turn of the loop over the packets below the acknowledged base. -/
def acknowledgeIndex (config : Config) (window : WindowType) (endpoint : Endpoint)
    (index : Nat) : Except Abort Endpoint :=
  ((endpoint.tx window).window.get index).bind fun isAcked =>
    if isAcked then .ok endpoint
    else
      endpoint.enqueueAckToUlp config window
        ((endpoint.tx window).basePacketSequenceNumber + UInt32.ofNat index)

/-- The OOW notification that an acknowledgement with a newer base leaves. -/
def noteOow (config : Config) (endpoint : Endpoint) (window : WindowType) (bpsn : UInt32)
    (own : Bool) : Endpoint :=
  endpoint.modifyTx window fun tx =>
    if seqGEQ (bpsn + config.windowSlack window) tx.nextPacketSequenceNumber then
      { tx with oowNotificationReceived := false }
    else if own then { tx with oowNotificationReceived := true }
    else tx

/-- A window moves up to the base that the receiver reports. -/
def acknowledgeUpTo (config : Config) (bpsn : WindowType → UInt32) (own : WindowType → Bool)
    (endpoint : Endpoint) (window : WindowType) : Except Abort Endpoint :=
  if seqGT (bpsn window) (endpoint.tx window).basePacketSequenceNumber then
    let noted := endpoint.noteOow config window (bpsn window) (own window)
    let delta := (bpsn window - (noted.tx window).basePacketSequenceNumber).toNat
    ((List.range delta).foldlM (acknowledgeIndex config window) noted).map fun acked =>
      acked.modifyTx window fun tx =>
        { tx with
          window := tx.window.rightShift delta
          basePacketSequenceNumber := bpsn window }
  else .ok endpoint

/-- An acknowledgement that is older than one of the windows. -/
def isStale (endpoint : Endpoint) (bpsn : WindowType → UInt32) : Bool :=
  seqLT (bpsn .request) (endpoint.tx .request).basePacketSequenceNumber ||
    seqLT (bpsn .data) (endpoint.tx .data).basePacketSequenceNumber

/-- Both windows in turn. -/
def acknowledgeWindows (config : Config) (endpoint : Endpoint) (bpsn : WindowType → UInt32)
    (own : WindowType → Bool) : Except Abort Endpoint :=
  (endpoint.acknowledgeUpTo config bpsn own .request).bind fun requested =>
    requested.acknowledgeUpTo config bpsn own .data

/-- `HandlePiggybackedACK`. -/
def handlePiggybackedAck (config : Config) (endpoint : Endpoint) (bpsn : WindowType → UInt32)
    (own : WindowType → Bool) : Except Abort Endpoint :=
  if endpoint.isStale bpsn then .ok endpoint
  else
    (endpoint.acknowledgeWindows config bpsn own).bind fun acked =>
      (acked.setupTlpTimer config).setupRetransmitTimer config

/-! ## Extended acknowledgements -/

/-- One turn of the loop that takes the bits of the receiver over into the window. -/
def acknowledgeBit (config : Config) (bitmap : FalconBitmap) (window : WindowType)
    (endpoint : Endpoint) (index : Nat) : Except Abort Endpoint :=
  ((endpoint.tx window).window.get index).bind fun isAcked =>
    if !isAcked && bitmap.bits index then
      (endpoint.enqueueAckToUlp config window
          ((endpoint.tx window).basePacketSequenceNumber + UInt32.ofNat index)).bind fun acked =>
        ((acked.tx window).window.set index true).map fun bits =>
          acked.modifyTx window fun tx => { tx with window := bits }
    else .ok endpoint

/-- The bits of one window. -/
def acknowledgeBits (config : Config) (bitmap : FalconBitmap) (window : WindowType)
    (endpoint : Endpoint) : Except Abort Endpoint :=
  (List.range bitmap.size).foldlM (acknowledgeBit config bitmap window) endpoint

/-- One turn of the loop that marks the packets which the receiver holds. -/
def markReceived (config : Config) (bpsn : UInt32) (bitmap : FalconBitmap) (window : WindowType)
    (endpoint : Endpoint) (index : Nat) : Except Abort Endpoint :=
  match (endpoint.tx window).outstandingPacketContexts (UInt32.ofNat index + bpsn) with
  | none => .ok endpoint
  | some context =>
    (getTransactionLocation context.packetType false).bind fun location =>
    match endpoint.transactions ⟨context.rsn, location⟩ with
    | none => .ok endpoint
    | some transaction =>
      (transaction.getPacketMetadata context.packetType).map fun packet =>
        if bitmap.bits index && !packet.received then
          let marked := endpoint.setPacket ⟨⟨context.rsn, location⟩, transaction, packet⟩
            context.packetType { packet with received := true }
          if config.enableRack && !config.rackUseT1 then
            marked.rackUpdate config packet.transmissionTime
          else marked
        else endpoint

/-- The received packets of one window. -/
def markAllReceived (config : Config) (bpsn : UInt32) (bitmap : FalconBitmap)
    (window : WindowType) (endpoint : Endpoint) : Except Abort Endpoint :=
  (List.range bitmap.size).foldlM (markReceived config bpsn bitmap window) endpoint

/-- `EarlyRetransmissionOooCount` on one window, from the bits below `limit + 1`. -/
def oooCountLimit (threshold : Nat) (bitmap : FalconBitmap) : Nat → Nat → Int
  | 0, _ => -1
  | limit + 1, count =>
    if count < threshold then
      oooCountLimit threshold bitmap limit (count + (bitmap.bits limit).toNat)
    else limit

/-- The highest bit that is set below `limit + 1`, or -1. -/
def highestBit (bitmap : FalconBitmap) : Nat → Int
  | 0 => -1
  | limit + 1 => if bitmap.bits limit then limit else highestBit bitmap limit

/-- `EarlyRetransmissionOooDistance` on one window. The threshold is unsigned, and so is the
subtraction, which wraps; what it leaves is read as an `int`. -/
def oooDistanceLimit (threshold : Nat) (bitmap : FalconBitmap) : Int :=
  (highestBit bitmap bitmap.size - threshold : Int).bmod (2 ^ 32)

/-- `EarlyRetransmissionMergeRetxLimit` on one window. -/
def mergeRetxLimit (retxLimit newLimit : Int) : Int :=
  if retxLimit < newLimit then newLimit else retxLimit

/-- `retx_limit`: the last index that may be retransmitted, by the algorithms that are enabled,
or all that was sent if the receiver reports packets beyond its window. -/
def retxLimit (config : Config) (endpoint : Endpoint) (ack : AckPacket) (window : WindowType) :
    Int :=
  let bitmap := ack.receivedBits window
  let byCount :=
    if config.enableOooCount then
      mergeRetxLimit (-1) (oooCountLimit config.oooCountThreshold bitmap bitmap.size 0)
    else -1
  let byDistance :=
    if config.enableOooDistance then
      mergeRetxLimit byCount (oooDistanceLimit config.oooDistanceThreshold bitmap)
    else byCount
  if config.enableEackOwn && ack.own window then
    ((endpoint.tx window).nextPacketSequenceNumber - 1).toInt32.toInt
  else byDistance

/-- `(psn - base_packet_sequence_number) % window->Size()`. -/
def bitmapIndex (tx : TxWindow) (psn : UInt32) : Nat :=
  (psn - tx.basePacketSequenceNumber).toNat % tx.window.size

/-- What an extended ACK does to a packet before it is retransmitted. -/
def markEarlyRetransmission (own : Bool) (packet : PacketMetadata) : PacketMetadata :=
  { packet with
    retransmissionReason := .earlyOooDis
    bypassRecencyCheck := false
    bypassScanningExitCriteria := !own }

/-- The scan of the outstanding packets of a window. `force` is
`force_recency_check_bypass`. -/
def scanOutstanding (config : Config) (ack : AckPacket) (limit : Int) (window : WindowType) :
    List RetransmissionWorkId → Bool → Endpoint → Except Abort Endpoint
  | [], _, endpoint => .ok endpoint
  | work :: rest, force, endpoint =>
    let index := bitmapIndex (endpoint.tx window) work.psn
    let own := ack.own window
    if limit < index then .ok endpoint
    else if (ack.receivedBits window).bits index then
      scanOutstanding config ack limit window rest force endpoint
    else
      (endpoint.locate work.rsn work.type).bind fun located =>
        if located.packet.nackCode = .ulpReceiverNotReady then .ok endpoint
        else if decide (ack.receivedTimestamp - ack.timestamp1 ≤
              endpoint.now - located.packet.transmissionTime) ||
            (config.enableRecencyCheckBypass && own && located.packet.bypassRecencyCheck) ||
            (config.enableSmallerPsnRecencyCheckBypass && own && force) then
          if config.earlyRetxThreshold ≤ located.packet.earlyRetxAttempts then
            .error .earlyRetransmissionLimit
          else
            ((endpoint.setPacket located work.type
                (markEarlyRetransmission own located.packet)).initiateRetransmission config
              work.rsn work.type).bind fun initiated =>
              scanOutstanding config ack limit window rest (force || own)
                (initiated.eraseOutstanding window work.psn)
        else if config.enableScanningExitCriteriaBypass && own &&
            located.packet.bypassScanningExitCriteria then
          scanOutstanding config ack limit window rest force endpoint
        else .ok endpoint

/-- The scan of one window. -/
def scanWindow (config : Config) (ack : AckPacket) (limit : Int) (window : WindowType)
    (endpoint : Endpoint) : Except Abort Endpoint :=
  scanOutstanding config ack limit window (endpoint.tx window).outstandingPackets false endpoint

/-- `HandleEACK`. -/
def handleEack (config : Config) (endpoint : Endpoint) (ack : AckPacket) :
    Except Abort Endpoint :=
  (endpoint.acknowledgeBits config (ack.ackBitmap .request) .request).bind fun requests =>
  (requests.acknowledgeBits config (ack.ackBitmap .data) .data).bind fun acked =>
  (if config.needToMaintainReceivedStateAtSender then
      (acked.markAllReceived config ack.rrbpsn (ack.receivedBits .request) .request).bind
        fun marked => marked.markAllReceived config ack.rdbpsn (ack.receivedBits .data) .data
    else .ok acked).bind fun marked =>
  if config.eackBasedEarlyRetransmissionIsEnabled then
    (marked.scanWindow config ack (marked.retxLimit config ack .request) .request).bind
      fun scanned => scanned.scanWindow config ack (marked.retxLimit config ack .data) .data
  else .ok marked

/-- `HandleACK`. A stale one is dropped; in the second generation it can still make an event for
the rate update engine. -/
def handleAck (config : Config) (endpoint : Endpoint) (ack : AckPacket) :
    Except Abort Endpoint :=
  if endpoint.isStale ack.bpsn then .ok endpoint
  else
    (endpoint.acknowledgeWindows config ack.bpsn ack.own).bind fun acked =>
    (if ack.isEack then acked.handleEack config ack else .ok acked).bind fun handled =>
      let updated :=
        if config.enableRack && config.rackUseT1 then handled.rackUpdate config ack.timestamp1
        else handled
      (updated.setupTlpTimer config).setupRetransmitTimer config

/-! ## Implicit acknowledgements -/

/-- The request or grant that a packet answers. -/
def answeredPacket : PacketType → Option (TransactionLocation × PacketType × WindowType)
  | .pullData => some (.initiator, .pullRequest, .request)
  | .pushSolicitedData => some (.target, .pushGrant, .data)
  | .pushGrant => some (.initiator, .pushRequest, .request)
  | _ => none

/-- `HandleImplicitAck`. The PSN is compared with the base as a plain number. -/
def handleImplicitAck (config : Config) (endpoint : Endpoint) (packet : Packet) :
    Except Abort Endpoint :=
  match answeredPacket packet.type with
  | none => .ok endpoint
  | some (location, type, window) =>
    (endpoint.getTransaction ⟨packet.rsn, location⟩).bind fun transaction =>
    (transaction.getPacketMetadata type).bind fun answered =>
      let base := (endpoint.tx window).basePacketSequenceNumber
      if answered.psn < base then .ok endpoint
      else
        ((endpoint.tx window).window.get (answered.psn - base).toNat).bind fun isAcked =>
          if isAcked then .ok endpoint
          else
            (endpoint.enqueueAckToUlp config window answered.psn).bind fun acked =>
            ((acked.tx window).window.set (answered.psn - base).toNat true).bind fun bits =>
              let moved := acked.modifyTx window fun tx =>
                if answered.psn = tx.basePacketSequenceNumber then
                  { tx with
                    window := bits.rightShift 1
                    basePacketSequenceNumber := tx.basePacketSequenceNumber + 1 }
                else { tx with window := bits }
              (moved.setupTlpTimer config).setupRetransmitTimer config

/-! ## NACKs -/

/-- `GetPacketMetadataFromPsn`. -/
def locatePsn (endpoint : Endpoint) (window : WindowType) (psn : UInt32) :
    Except Abort (OutstandingPacketContext × Located) :=
  match (endpoint.tx window).outstandingPacketContexts psn with
  | none => .error .unknownPsn
  | some context =>
    (endpoint.locate context.rsn context.packetType).map fun located => (context, located)

/-- The loop of `InitiateNackBasedEarlyRetransmission`. A packet that is already acknowledged
would keep it going for ever, as the iterator does not move on. -/
def scanNacked (config : Config) (nack : NackPacket) (window : WindowType) :
    List RetransmissionWorkId → Endpoint → Except Abort Endpoint
  | [], endpoint => .ok endpoint
  | work :: rest, endpoint =>
    let index := bitmapIndex (endpoint.tx window) work.psn
    if config.earlyRetransmitLimit.toNat ≤ index then .ok endpoint
    else if (endpoint.tx window).window.bits index then .error .endlessLoop
    else
      (endpoint.locate work.rsn work.type).bind fun located =>
        if endpoint.now ≤ located.packet.transmissionTime +
            (nack.receivedTimestamp - nack.timestamp1) then .ok endpoint
        else if located.packet.earlyRetxAttempts < config.earlyRetxThreshold then
          ((endpoint.setPacket located work.type
              { located.packet with retransmissionReason := .earlyNack }).initiateRetransmission
            config work.rsn work.type).bind fun initiated =>
            scanNacked config nack window rest (initiated.eraseOutstanding window work.psn)
        else .ok endpoint

/-- `HandleRnrNack`. -/
def handleRnrNack (config : Config) (endpoint : Endpoint) (nack : NackPacket) :
    Except Abort Endpoint :=
  (endpoint.locatePsn nack.window nack.nackPsn).bind fun (context, located) =>
    (endpoint.setPacket located context.packetType
      { located.packet with
        nackCode := .ulpReceiverNotReady
        rnrTimeout := nack.rnrTimeout }).setupRetransmitTimer config

/-- `CancelRetransmissionAndTriggerResync`. -/
def cancelRetransmissionAndTriggerResync (endpoint : Endpoint) (nack : NackPacket)
    (generateCompletion : Bool) : Except Abort Endpoint :=
  match (endpoint.tx nack.window).outstandingPacketContexts nack.nackPsn with
  | none => .error .unknownPsn
  | some context =>
    let cancelled :=
      if containsPsn (endpoint.tx nack.window).outstandingPackets nack.nackPsn then
        endpoint.eraseOutstanding nack.window nack.nackPsn
      else endpoint
    .ok (if generateCompletion then
        { cancelled with reordered := cancelled.reordered ++ [⟨context.rsn, .nack⟩] }
      else cancelled)

/-- The handling that depends on the code of a NACK. -/
def handleNackCode (config : Config) (endpoint : Endpoint) (nack : NackPacket) :
    Except Abort Endpoint :=
  match nack.code with
  | .rxResourceExhaustion => .ok endpoint
  | .ulpReceiverNotReady => endpoint.handleRnrNack config nack
  | .rxWindowError =>
    if config.eackBasedEarlyRetransmissionIsEnabled then .ok endpoint
    else
      endpoint.scanNacked config nack nack.window (endpoint.tx nack.window).outstandingPackets
  | .ulpCompletionInError | .ulpNonRecoverableError | .invalidCidError =>
    endpoint.cancelRetransmissionAndTriggerResync nack true
  | .xlrDrop => endpoint.cancelRetransmissionAndTriggerResync nack false
  | .notANack => .error .unexpectedPacketType

/-- `RackUpdateByNack`. -/
def rackUpdateByNack (config : Config) (endpoint : Endpoint) (nack : NackPacket) :
    Except Abort Endpoint :=
  if !config.enableRack then .ok endpoint
  else if config.rackUseT1 then .ok (endpoint.rackUpdate config nack.timestamp1)
  else
    (endpoint.locatePsn nack.window nack.nackPsn).map fun (_, located) =>
      endpoint.rackUpdate config located.packet.transmissionTime

/-- `HandleNack`. -/
def handleNack (config : Config) (endpoint : Endpoint) (nack : NackPacket) :
    Except Abort Endpoint :=
  (endpoint.handlePiggybackedAck config (ofWindow nack.rrbpsn nack.rdbpsn)
      (ofWindow nack.requestOwn nack.dataOwn)).bind fun acked =>
  (acked.handleNackCode config nack).bind fun handled =>
  (handled.rackUpdateByNack config nack).bind fun updated =>
    (updated.setupTlpTimer config).setupRetransmitTimer config

end Endpoint
end Isekai.Reliability
