import Isekai.ReliabilityState

/-! The timers of a connection: the retransmission timer, which is set for the packets at the head
of the two windows and never cancelled, the reordering timeout of RACK and the probe timer; and
the hand-over of a packet to the retransmission scheduler. -/

namespace Isekai.Reliability
open RateUpdate (NackCode)

/-- The ticks of a nanosecond and of a second in `absl::Duration`. -/
def ticksPerNanosecond : Int := 4

def ticksPerSecond : Int := 4000000000

/-- `ToDoubleNanoseconds`: the seconds and the ticks below them are added up as floating point
numbers. -/
def toDoubleNanoseconds (time : Int) : ℚ :=
  Binary64.round
    (Binary64.round ((time / ticksPerSecond * ticksPerSecond : Int) : ℚ) +
      (time % ticksPerSecond : Int)) / ticksPerNanosecond

/-- `Nanoseconds(ceil(ToDoubleNanoseconds(time)))`. -/
def ceilNanoseconds (time : Int) : Int := ⌈toDoubleNanoseconds time⌉ * ticksPerNanosecond

/-! ## What is received at the other end -/

/-- `NeedToMaintainReceivedStateAtSender`. -/
def Config.needToMaintainReceivedStateAtSender (config : Config) : Bool :=
  config.enableRack || (config.enableTlp && config.tlpType != .firstUnacked)

/-- `IsReceived`. -/
def Config.isReceived (config : Config) (packet : PacketMetadata) : Bool :=
  config.needToMaintainReceivedStateAtSender && packet.received

/-- `EackBasedEarlyRetransmissionIsEnabled`. -/
def Config.eackBasedEarlyRetransmissionIsEnabled (config : Config) : Bool :=
  config.enableOooDistance || config.enableOooCount

namespace Endpoint

/-! ## The retransmission timer -/

/-- `GetJitter`: the next random number, cut to the range. -/
def getJitter (config : Config) (endpoint : Endpoint) : Int × Endpoint :=
  let range := config.retxJitterRangeNs +
    config.retxJitterConnFactorNs * endpoint.outstandingConnCounter +
    config.retxJitterPktFactorNs * endpoint.outstandingPktCounter
  ((endpoint.prng 0 % (range.toNat + 1) : Nat) * ticksPerNanosecond,
    { endpoint with prng := fun index => endpoint.prng (index + 1) })

/-- `GetTimeoutOfPacket`. -/
def getTimeoutOfPacket (config : Config) (endpoint : Endpoint) (packet : PacketMetadata) : Int :=
  if packet.nackCode = .ulpReceiverNotReady then packet.rnrTimeout
  else if config.isReceived packet then endpoint.ulpRto
  else
    match endpoint.rackRto with
    | none => endpoint.retransmitTimeout
    | some rackRto =>
      if config.enableRack && !config.isReceived packet &&
          packet.transmissionTime ≤ endpoint.rackXmitTs &&
          packet.earlyRetxAttempts < config.earlyRetxThreshold then
        if endpoint.retransmitTimeout < rackRto then endpoint.retransmitTimeout else rackRto
      else endpoint.retransmitTimeout

/-- The deadline of the first outstanding packet of a window. -/
def candidateBaseTime (config : Config) (endpoint : Endpoint) (window : WindowType) :
    Except Abort (Option Int) :=
  match (endpoint.tx window).outstandingPackets with
  | [] => .ok none
  | work :: _ =>
    (endpoint.locate work.rsn work.type).map fun located =>
      some (located.packet.transmissionTime + endpoint.getTimeoutOfPacket config located.packet)

/-- The earlier of two deadlines, of which either may be missing. -/
def earlier : Option Int → Option Int → Option Int
  | none, second => second
  | first, none => first
  | some first, some second => some (if second < first then second else first)

/-- The minimum of the deadlines of the two heads. -/
def earliestBaseTime (config : Config) (endpoint : Endpoint) : Except Abort (Option Int) :=
  (endpoint.candidateBaseTime config .request).bind fun request =>
  (endpoint.candidateBaseTime config .data).map fun data => earlier request data

/-- Sets the expiration and schedules its event. -/
def scheduleRto (endpoint : Endpoint) (baseTime jitter : Int) : Endpoint :=
  { endpoint with
    rtoExpirationBaseTime := baseTime
    rtoExpirationJitter := jitter
    rtoEvents := endpoint.rtoEvents ++ [baseTime + jitter] }

/-- `SetupRetransmitTimer`. -/
def setupRetransmitTimer (config : Config) (before : Endpoint) : Except Abort Endpoint :=
  let (jitter, endpoint) := before.getJitter config
  (endpoint.earliestBaseTime config).map fun
  | none => endpoint
  | some deadline =>
    let baseTime := ceilNanoseconds deadline
    if baseTime = endpoint.rtoExpirationBaseTime then endpoint
    else if baseTime + jitter < endpoint.now then endpoint.scheduleRto endpoint.now 0
    else endpoint.scheduleRto baseTime jitter

/-- `GetRtoExpirationTime`. -/
def rtoExpirationTime (endpoint : Endpoint) : Int :=
  endpoint.rtoExpirationBaseTime + endpoint.rtoExpirationJitter

/-- `ClearRtoExpirationTime`. -/
def clearRtoExpirationTime (endpoint : Endpoint) : Endpoint :=
  { endpoint with rtoExpirationBaseTime := 0, rtoExpirationJitter := 0 }

/-- `HandleRtoReduction`. -/
def handleRtoReduction (config : Config) (endpoint : Endpoint) : Except Abort Endpoint :=
  endpoint.clearRtoExpirationTime.setupRetransmitTimer config

/-! ## Retransmission -/

/-- `InitiateRetransmission`: the packet goes to the retransmission scheduler, and is no longer a
retransmitted request on the way if it was one. -/
def initiateRetransmission (config : Config) (endpoint : Endpoint) (rsn : UInt32)
    (type : PacketType) : Except Abort Endpoint :=
  (endpoint.locate rsn type).map fun located =>
    let queue := windowOf type
    let inserted := !containsPsn (endpoint.retransmissions queue) located.packet.psn
    let queued := { endpoint with
      retransmissions := Function.update endpoint.retransmissions queue
        (insertWork ⟨rsn, located.packet.psn, type⟩ (endpoint.retransmissions queue)) }
    if located.packet.transmitAttempts > 1 && inserted then
      queued.decrementOutstandingRetransmittedRequestCount config type false
    else queued

/-- `DequeuePacketFromRetxScheduler`; the second generation marks the transaction too. -/
def dequeuePacketFromRetxScheduler (config : Config) (endpoint : Endpoint) (rsn : UInt32)
    (type : PacketType) : Except Abort Endpoint :=
  (endpoint.locate rsn type).map fun located =>
    let dequeued := { endpoint with
      retransmissions := Function.update endpoint.retransmissions (windowOf type)
        (eraseWork (endpoint.retransmissions (windowOf type)) located.packet.psn) }
    match config.version with
    | .gen1 => dequeued
    | .gen2 _ =>
      dequeued.setTransaction located.key
        { located.transaction with decrementOrrcOnPullResponse := false }

/-! ## RACK and the probe timer -/

/-- `CalculateRackWindow`. -/
def calculateRackWindow (config : Config) (endpoint : Endpoint) : Int :=
  max (ceilNanoseconds (config.rackTimeWindow endpoint.rtt)) config.minRackTimeWindow

/-- `RackUpdate`. -/
def rackUpdate (config : Config) (endpoint : Endpoint) (txTime : Int) : Endpoint :=
  if !config.enableRack then endpoint
  else if !config.rackUseT1 && endpoint.now - txTime < endpoint.rtt then endpoint
  else if endpoint.rackXmitTs < txTime then
    { endpoint with
      rackXmitTs := txTime
      rackRto := some (endpoint.now - txTime + endpoint.calculateRackWindow config) }
  else endpoint

/-- `CalculateTlpTimeout`. -/
def calculateTlpTimeout (config : Config) (endpoint : Endpoint) : Int :=
  max (ceilNanoseconds (config.tlpTimeout endpoint.rtt)) config.minTlpTimeout

/-- `SetupTlpTimer`. -/
def setupTlpTimer (config : Config) (endpoint : Endpoint) : Endpoint :=
  let expiration := endpoint.now + endpoint.calculateTlpTimeout config
  if !config.enableTlp then endpoint
  else if expiration = endpoint.tlpPto then endpoint
  else { endpoint with tlpPto := expiration, tlpEvents := endpoint.tlpEvents ++ [expiration] }

end Endpoint
end Isekai.Reliability
