import Isekai.CongestionRounds
import Isekai.Runs
import Isekai.SwiftProcessing

/-! A connection whose events `rue::Swift` answers. An event is filled from the state of the
connection, waits until the algorithm processes it, and its response waits until the connection is
updated from it. One event of a path may be on its way at a time, but the paths of a connection of
several do not wait for each other.

Beside the loop stands the history of each path as PLB is to see it, which nothing reads. -/

namespace Isekai.RateUpdate
open CongestionRounds

namespace Swift
variable (swift : Swift)

/-- The functions of the format adapter that fill an event. -/
def fill (units : TimeUnits) (scid : BitVec 32) (packet : Packet)
    (ccmeta : CongestionControlMetadata) (call : FillCall) : Except Fatal SwiftEvent :=
  match swift.format with
  | .dna => (call.fillDna units scid packet ccmeta).map EventDna.swift
  | .bna => (call.fillBna units scid packet ccmeta).map EventBna.swift

/-- `UpdateConnectionStateFromResponse` of the format. -/
def update (units : TimeUnits) (flowLabel : BitVec flowLabelBits) (connection : ConnectionState)
    (response : SwiftResponse) : Except Fatal ConnectionState :=
  match swift.format with
  | .dna => .ok (updateConnectionStateFromResponseDna units flowLabel connection response.dna)
  | .bna => updateConnectionStateFromResponseBna units connection response.bna

/-- Whether a response has a path of the connection changed. -/
def reroutes (response : SwiftResponse) : Bool :=
  match swift.format with
  | .dna => response.dna.randomizePath
  | .bna => response.bna.flow1.valid || response.bna.flow2.valid || response.bna.flow3.valid ||
      response.bna.flow4.valid

/-- The field of the connection that holds the state of PLB. -/
def plbField (metadata : CongestionControlMetadata) : BitVec plbStateBits :=
  match swift.format with
  | .dna => metadata.delayState
  | .bna => metadata.gen2PlbState

/-! ## What PLB is told -/

/-- The fabric window of the path of an event. -/
def flowWindow (event : SwiftEvent) (state : RueConnectionState) : ℚ :=
  fixedToFloat (if event.multipathEnable then state.fcwnd event.flowId.toFin
    else event.fabricCongestionWindow.toNat) fractionalBits

/-- The delay that is compared with the target. -/
def flowDelay (event : SwiftEvent) : Nat :=
  if event.multipathEnable then event.packetTiming.delay
  else getSmoothed swift.parameters.delaySmoothingAlpha event.delayState.toNat
    event.packetTiming.delay

/-- What an event reports to PLB if it is enabled: an ACK, and nothing else, reports its packets. -/
def report (event : SwiftEvent) (state : RueConnectionState) : Option Report :=
  if swift.parameters.randomizePath = true ∧ event.eventType ≠ .retransmit ∧
      event.nackCode = .notANack then
    (swift.getTargetDelay (flowWindow event state) event.forwardHops.toNat).toOption.map
      fun targetDelay =>
        { packets := event.numPacketsAcked.toNat
          congested := swift.congested (swift.flowDelay event) targetDelay
          size := min (flowWindow event state) (swift.getFloatNcwndFromEvent event) }
  else none

/-- Whether a round of a number of packets is congested, for the number of those that are. -/
def congestedRound (acknowledged congestionAcknowledged : ℕ) : Bool :=
  !swift.belowThreshold acknowledged congestionAcknowledged

/-- The state of PLB of the path of an event that was processed. -/
def plbAfter (event : SwiftEvent) (response : SwiftResponse) (state : RueConnectionState) :
    BitVec plbStateBits :=
  if event.flowId = 0 then response.plbState else (state.perFlowStates event.flowId.toFin).plbState

/-- The history of the path of an event after the response to it. -/
def historyAfter (history : Fin 4 → History) (event : SwiftEvent) (state : RueConnectionState)
    (response : SwiftResponse) : Fin 4 → History :=
  match swift.report event state with
  | none => history
  | some report => Function.update history event.flowId.toFin
      ((history event.flowId.toFin).after report swift.congestedRound (swift.reroutes response))

end Swift

/-! ## The loop -/

/-- A connection, the state that the algorithm keeps for it, and what is on its way. -/
structure RueLoop where
  connection : ConnectionState
  state : RueConnectionState
  events : List SwiftEvent := []
  responses : List SwiftResponse := []
  history : Fin 4 → History := fun _ => {}

/-- What may happen next. -/
inductive RueAction where
  /-- An event is filled for a packet. -/
  | fill (packet : Packet) (call : FillCall)
  /-- The algorithm processes the next event; `label` is what its generator returns. -/
  | process (now : BitVec 32) (label : BitVec (flowLabelBits - flowIdBits))
  /-- The connection is updated from the next response; `flowLabel` is what
  `GenerateRandomFlowLabel` returns. -/
  | update (flowLabel : BitVec flowLabelBits)

namespace RueLoop

/-- Whether an event of a path is on its way. -/
def outstanding (loop : RueLoop) (flowId : BitVec flowIdBits) : Bool :=
  loop.events.any (·.flowId = flowId) || loop.responses.any (·.flowId = flowId)

section
variable (swift : Swift) (units : TimeUnits) (scid : BitVec 32)

/-- The loop after an action, if it is possible. -/
def perform (loop : RueLoop) : RueAction → Option RueLoop
  | .fill packet call =>
    (swift.fill units scid packet loop.connection.congestionControlMetadata call).toOption.bind
      fun event =>
        if loop.outstanding event.flowId then none
        else some { loop with events := loop.events ++ [event] }
  | .process now label =>
    match loop.events with
    | [] => none
    | event :: rest =>
      (swift.process event loop.state now label).toOption.map fun outcome =>
        { loop with
          state := outcome.2
          events := rest
          responses := loop.responses ++ [outcome.1]
          history := swift.historyAfter loop.history event loop.state outcome.1 }
  | .update flowLabel =>
    match loop.responses with
    | [] => none
    | response :: rest =>
      (swift.update units flowLabel loop.connection response).toOption.map fun connection =>
        { loop with connection, responses := rest }

/-- A new connection; the window of each flow is a share of the initial one. -/
structure Initial (loop : RueLoop) : Prop where
  plb : swift.parameters.randomizePath = true →
    swift.plbField loop.connection.congestionControlMetadata = 0
  ccOpaque : loop.connection.congestionControlMetadata.ccOpaque = 0
  state : ∃ flowFcwnd, loop.state = .initial flowFcwnd
  events : loop.events = []
  responses : loop.responses = []
  history : loop.history = fun _ => {}

/-- One action. -/
def Step (loop next : RueLoop) : Prop := ∃ action, loop.perform swift units scid action = some next

/-- The connection has not changed, since the event of another flow was filled, in what the
response to that event writes back for flow 0. -/
def Current (loop : RueLoop) : RueAction → Prop
  | .update _ => ∀ response ∈ loop.responses.head?, response.flowId ≠ 0 →
      response.plbState = swift.plbField loop.connection.congestionControlMetadata
  | _ => True

/-- One action, and no older state of PLB is written back by it. -/
def CurrentStep (loop next : RueLoop) : Prop :=
  ∃ action, Current swift loop action ∧ loop.perform swift units scid action = some next

end

/-! ## What is claimed of PLB -/

/-- The numbers in a state of PLB. -/
def counters (word : BitVec plbStateBits) : Counters where
  acknowledged := (PlbState.ofValue word).packetsAcknowledged.toNat
  congested := (PlbState.ofValue word).packetsCongestionAcknowledged.toNat
  attempts := (PlbState.ofValue word).plbRerouteAttempted.toNat

variable (swift : Swift) (units : TimeUnits)

/-- The states of PLB in the connection, on their way and in the algorithm. -/
def plbWords (loop : RueLoop) : List (BitVec plbStateBits) :=
  swift.plbField loop.connection.congestionControlMetadata ::
    loop.events.map swift.getPlbStateFromEvent ++ loop.responses.map SwiftResponse.plbState ++
    [1, 2, 3].map fun flow => (loop.state.perFlowStates flow).plbState

/-- No field of the state of PLB is ever truncated, and no more packets count as congested than as
acknowledged. -/
structure Counted (loop : RueLoop) : Prop where
  ordered : ∀ word ∈ loop.plbWords swift, (counters word).congested ≤ (counters word).acknowledged
  /-- What is written are the numbers without an upper bound. -/
  untruncated : ∀ event rest now label response next, loop.events = event :: rest →
    swift.process event loop.state now label = .ok (response, next) →
      let before := counters (swift.flowState event loop.state).plbState
      counters (Swift.plbAfter event response next) =
        match swift.report event loop.state with
        | none => before
        | some report =>
          (before.step swift.congestedRound swift.parameters.plbAttemptThreshold report).2
  /-- The connection gets what the algorithm wrote. -/
  stored : ∀ response rest flowLabel connection, loop.responses = response :: rest →
    swift.update units flowLabel loop.connection response = .ok connection →
      swift.plbField connection.congestionControlMetadata = response.plbState

/-- A response to an event asks for another path exactly if the history of the path says so. -/
def ReroutesWhenDue (loop : RueLoop) : Prop :=
  ∀ event rest now label response next, loop.events = event :: rest →
    swift.process event loop.state now label = .ok (response, next) →
      (swift.reroutes response = true ↔ ∃ report, swift.report event loop.state = some report ∧
        (loop.history event.flowId.toFin).Due report swift.congestedRound
          swift.parameters.plbAttemptThreshold)

end RueLoop

end Isekai.RateUpdate
