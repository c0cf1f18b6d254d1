import Isekai.SwiftConnection

/-! What the guards of `rue::Swift` are asked: the windows that one event updates, whether it wants
them decreased, and the sequences of events of a connection in real time, which the algorithm sees modulo
the period of a clock of 24 bits. -/

namespace Isekai.RateUpdate

/-- A window with a guard: the fabric window of a flow, or the NIC window. -/
inductive GuardedWindow where
  | fabric (flow : Fin 4)
  | nic
  deriving DecidableEq, Repr

/-- What an event does to a window. -/
structure WindowUpdate where
  /-- The time marker that the event finds. -/
  marker : BitVec 32
  last : ℚ
  next : ℚ
  /-- The event wants the window decreased. -/
  wanted : Bool
  /-- The window that the decrease leads to. -/
  reduced : ℚ
  /-- The marker is set to the present. -/
  refreshes : Bool
  deriving DecidableEq, Repr

namespace WindowUpdate
variable (update : WindowUpdate)

/-- The window is decreased. -/
def Decreases : Prop := update.next < update.last

/-- The guard lets a decrease pass. -/
def Open (rtt : ℕ) (now : BitVec 32) : Prop := rtt ≤ getWindowDelta now update.marker

instance : Decidable update.Decreases := inferInstanceAs (Decidable (_ < _))

instance (rtt : ℕ) (now : BitVec 32) : Decidable (update.Open rtt now) :=
  inferInstanceAs (Decidable (_ ≤ _))

/-- The time marker that the event leaves, for the round-trip time that markers trail by. -/
def markerAfter (now : BitVec 32) (rtt : ℕ) : BitVec 32 :=
  if update.refreshes then now
  else if rtt < getWindowDelta now update.marker then trailing now rtt
  else update.marker

end WindowUpdate

namespace Swift
variable (swift : Swift)

/-- The round-trip time of an event, which its guards compare with. -/
def roundTrip (event : SwiftEvent) : ℕ :=
  match event.eventType with
  | .retransmit => event.rttState.toNat
  | _ => event.packetTiming.rtt

/-- The round-trip time that markers trail by. -/
def markerRtt (event : SwiftEvent) (state : RueConnectionState) : ℕ :=
  let old := (swift.flowState event state).rttState
  match event.eventType with
  | .retransmit => old
  | _ => if swift.parameters.calcRttSmooth then
      getSmoothed swift.parameters.rttSmoothingAlpha old event.packetTiming.rtt
    else event.packetTiming.rtt

/-- The update of the fabric window of the path of an event. -/
def fabricUpdate (event : SwiftEvent) (state : RueConnectionState) (now : BitVec 32) :
    Except Fatal WindowUpdate :=
  let parameters := swift.parameters
  let marker := (swift.flowState event state).fcwndTimeMarker
  let last := flowWindow event state
  let delta := getWindowDelta now marker
  let update (next : ℚ) (wanted : Bool) (reduced : ℚ) : WindowUpdate :=
    { marker, last, next, wanted, reduced
      refreshes := next < last ∨ next = parameters.minFabricCongestionWindow }
  let most := decreasedBy last parameters.maxFabricMultiplicativeDecrease
  match event.eventType with
  | .retransmit =>
    .ok (update (swift.computeTimeoutFabricCongestionWindow event event.rttState.toNat last delta)
      (event.retransmitCount = 1 ∨ parameters.retransmitLimit ≤ event.retransmitCount)
      (swift.clampFabric (if event.retransmitCount = 1 then most
        else parameters.minFabricCongestionWindow)))
  | _ =>
    (swift.getTargetDelay last event.forwardHops.toNat).map fun targetDelay =>
      update (swift.fabricCongestionWindow event last (swift.flowDelay event) targetDelay
          event.packetTiming delta)
        (swift.useMaxFabricDecrease event || targetDelay ≤ swift.flowDelay event)
        (swift.clampFabric (if swift.useMaxFabricDecrease event then most
          else decreasedBy last (decreaseAmount (swift.flowDelay event) targetDelay
            parameters.fabricMultiplicativeDecreaseFactor
            parameters.maxFabricMultiplicativeDecrease)))

/-- The update of the NIC window, which a retransmission leaves alone. -/
def nicUpdate (event : SwiftEvent) (now : BitVec 32) : Option WindowUpdate :=
  let parameters := swift.parameters
  let marker := event.nicWindowTimeMarker.setWidth 32
  let last := swift.getFloatNcwndFromEvent event
  let next := swift.nicCongestionWindow event last (getWindowDelta now marker) event.packetTiming
  let exhausted : Bool := event.eventType = .nack ∧ event.nackCode = .rxResourceExhaustion
  let level := event.rxBufferLevel.toNat
  match event.eventType with
  | .retransmit => none
  | _ => some {
      marker, last, next
      wanted := exhausted || parameters.targetRxBufferLevel ≤ level
      reduced := swift.clampNic (decreasedBy last
        (if exhausted then parameters.maxNicMultiplicativeDecrease
          else decreaseAmount level parameters.targetRxBufferLevel
            parameters.nicMultiplicativeDecreaseFactor parameters.maxNicMultiplicativeDecrease))
      refreshes := (next < last ∨ next = parameters.minNicCongestionWindow) ∨
        swift.format = .dna ∧ (last < next ∨ next = parameters.maxNicCongestionWindow) }

/-- What an event does to each window. -/
def windowUpdate (event : SwiftEvent) (state : RueConnectionState) (now : BitVec 32) :
    GuardedWindow → Option WindowUpdate
  | .fabric flow =>
    if flow = event.flowId.toFin then (swift.fabricUpdate event state now).toOption else none
  | .nic => swift.nicUpdate event now

/-- The largest value of a window. -/
def maxWindow : GuardedWindow → ℚ
  | .fabric _ => swift.parameters.maxFabricCongestionWindow
  | .nic => swift.parameters.maxNicCongestionWindow

/-- The decreases that need not pass the guard: those of a DNA NIC window by a NACK, after an
increase. -/
def unguarded (event : SwiftEvent) : GuardedWindow → Prop
  | .fabric _ => False
  | .nic => swift.format = .dna ∧ event.eventType = .nack ∧
      event.nackCode = .rxResourceExhaustion ∧ event.nicWindowDirection = .increase

/-- A guarded decrease: one that is wanted, of a window that is not above its bounds. -/
structure Guarded (event : SwiftEvent) (window : GuardedWindow) (update : WindowUpdate) : Prop where
  wanted : update.wanted = true
  decreases : update.Decreases
  within : update.last ≤ swift.maxWindow window
  guarded : ¬ swift.unguarded event window

end Swift

/-! ## Sequences of events -/

/-- What the last response left for the guards, the time when it was made, and for each window the
times when it was decreased, its marker was refreshed and it was updated last. -/
structure Guards where
  fabricMarker : BitVec timeBits
  nicMarker : BitVec timeBits
  state : RueConnectionState
  time : ℕ := 0
  decreased : GuardedWindow → Option ℕ := fun _ => none
  refreshed : GuardedWindow → Option ℕ := fun _ => none
  updated : GuardedWindow → Option ℕ := fun _ => none

namespace Guards

/-- No window has been updated yet. -/
structure Initial (guards : Guards) : Prop where
  decreased : guards.decreased = fun _ => none
  refreshed : guards.refreshed = fun _ => none
  updated : guards.updated = fun _ => none

/-- An event carries the time markers that the last response left. -/
structure Carried (guards : Guards) (event : SwiftEvent) : Prop where
  fabric : event.fabricWindowTimeMarker = guards.fabricMarker
  nic : event.nicWindowTimeMarker = guards.nicMarker

instance (guards : Guards) (event : SwiftEvent) : Decidable (Carried guards event) :=
  decidable_of_iff
    (event.fabricWindowTimeMarker = guards.fabricMarker ∧
      event.nicWindowTimeMarker = guards.nicMarker)
    ⟨fun same => ⟨same.1, same.2⟩, fun carried => ⟨carried.fabric, carried.nic⟩⟩

/-- A time that is not before the last one, and what the clock shows then. -/
structure Clocked (guards : Guards) (time : ℕ) (now : BitVec 32) : Prop where
  later : guards.time ≤ time
  shown : now.setWidth timeBits = BitVec.ofNat timeBits time

instance (guards : Guards) (time : ℕ) (now : BitVec 32) : Decidable (Clocked guards time now) :=
  decidable_of_iff
    (guards.time ≤ time ∧ now.setWidth timeBits = BitVec.ofNat timeBits time)
    ⟨fun both => ⟨both.1, both.2⟩, fun clocked => ⟨clocked.later, clocked.shown⟩⟩

variable (swift : Swift) (guards next : Guards)

/-- What the response to an event leaves. -/
def after (event : SwiftEvent) (time : ℕ) (now : BitVec 32) (response : SwiftResponse)
    (state : RueConnectionState) : Guards where
  fabricMarker := response.fabricWindowTimeMarker.setWidth timeBits
  nicMarker := response.nicWindowTimeMarker.setWidth timeBits
  state
  time
  decreased window := match swift.windowUpdate event guards.state now window with
    | some update => if update.Decreases then some time else guards.decreased window
    | none => guards.decreased window
  refreshed window := match swift.windowUpdate event guards.state now window with
    | some update => if update.refreshes then some time else guards.refreshed window
    | none => guards.refreshed window
  updated window := match swift.windowUpdate event guards.state now window with
    | some _ => some time
    | none => guards.updated window

/-- One event that carries the markers of the response before it, and its response. -/
def Step : Prop :=
  ∃ event time now label response state, Carried guards event ∧ Clocked guards time now ∧
    swift.process event guards.state now label = .ok (response, state) ∧
    next = guards.after swift event time now response state

/-- The round-trip times of an event are the given one, and the windows that it updates have been
updated less than half a period before. -/
structure Steady (rtt : ℕ) (event : SwiftEvent) (time : ℕ) (now : BitVec 32) : Prop where
  roundTrip : Swift.roundTrip event = rtt
  markerRtt : swift.markerRtt event guards.state = rtt
  soon : ∀ window update, swift.windowUpdate event guards.state now window = some update →
    ∀ earlier, guards.updated window = some earlier → time < earlier + 2 ^ 23

/-- One event of a sequence with a constant round-trip time and no long gaps. -/
def SteadyStep (swift : Swift) (rtt : ℕ) (guards next : Guards) : Prop :=
  ∃ event time now label response state, Carried guards event ∧ Clocked guards time now ∧
    Steady swift guards rtt event time now ∧
    swift.process event guards.state now label = .ok (response, state) ∧
    next = guards.after swift event time now response state

end Guards

/-! ## A connection in real time -/

/-- A connection whose events `Swift` answers, and what its guards have done. -/
structure GuardedLoop where
  loop : RueLoop
  guards : Guards

namespace GuardedLoop
variable (swift : Swift) (units : TimeUnits) (scid : BitVec 32)

/-- What the guards have done after an action at a time. -/
def observe (guarded : GuardedLoop) (time : ℕ) : RueAction → Guards
  | .process now label =>
    match guarded.loop.events with
    | [] => guarded.guards
    | event :: _ =>
      match swift.process event guarded.loop.state now label with
      | .error _ => guarded.guards
      | .ok (response, state) => guarded.guards.after swift event time now response state
  | _ => guarded.guards

/-- The algorithm processes events at times that do not decrease, with the clock of that time. -/
def Timely (guarded : GuardedLoop) (time : ℕ) : RueAction → Prop
  | .process now _ => guarded.guards.Clocked time now
  | _ => True

instance (guarded : GuardedLoop) (time : ℕ) : (action : RueAction) →
    Decidable (guarded.Timely time action)
  | .process now _ => inferInstanceAs (Decidable (guarded.guards.Clocked time now))
  | .fill _ _ | .update _ => .isTrue trivial

/-- The connection after an action at a time, if it is possible. -/
def perform (guarded : GuardedLoop) (timed : ℕ × RueAction) : Option GuardedLoop :=
  if guarded.Timely timed.1 timed.2 then
    (guarded.loop.perform swift units scid timed.2).map fun loop =>
      { loop, guards := guarded.observe swift timed.1 timed.2 }
  else none

/-- A new connection. -/
structure Initial (guarded : GuardedLoop) : Prop where
  loop : RueLoop.Initial swift guarded.loop
  guards : guarded.guards.Initial
  fabric : guarded.guards.fabricMarker =
    guarded.loop.connection.congestionControlMetadata.fabricWindowTimeMarker
  nic : guarded.guards.nicMarker =
    guarded.loop.connection.congestionControlMetadata.nicWindowTimeMarker
  state : guarded.guards.state = guarded.loop.state

/-- One action. -/
def Step (guarded next : GuardedLoop) : Prop :=
  ∃ timed, guarded.perform swift units scid timed = some next

/-- The event that is processed carries the markers of the response before it. -/
def Current (guarded : GuardedLoop) : RueAction → Prop
  | .process _ _ => ∀ event ∈ guarded.loop.events.head?, guarded.guards.Carried event
  | _ => True

/-- One action, and no event carries older markers. -/
def CurrentStep (guarded next : GuardedLoop) : Prop :=
  ∃ timed, guarded.Current timed.2 ∧ guarded.perform swift units scid timed = some next

/-- The event that is processed is one of a sequence with a constant round-trip time and no long
gaps. -/
def Steady (rtt : ℕ) (guarded : GuardedLoop) (time : ℕ) : RueAction → Prop
  | .process now _ => ∀ event ∈ guarded.loop.events.head?,
      guarded.guards.Steady swift rtt event time now
  | _ => True

/-- One action in such a sequence. -/
def SteadyStep (rtt : ℕ) (guarded next : GuardedLoop) : Prop :=
  ∃ timed, guarded.Current timed.2 ∧ Steady swift rtt guarded timed.1 timed.2 ∧
    guarded.perform swift units scid timed = some next

/-! ## What the guards do not do -/

/-- The event that is processed has the given round-trip time and follows the one before it within
half a period. -/
def Close (rtt : ℕ) (guarded : GuardedLoop) (time : ℕ) : RueAction → Prop
  | .process _ _ => time < guarded.guards.time + 2 ^ 23 ∧
      ∀ event ∈ guarded.loop.events.head?, Swift.roundTrip event = rtt
  | _ => True

/-- One action in a sequence of such events. -/
def CloseStep (rtt : ℕ) (guarded next : GuardedLoop) : Prop :=
  ∃ timed, guarded.Current timed.2 ∧ Close rtt guarded timed.1 timed.2 ∧
    guarded.perform swift units scid timed = some next

/-- In a sequence of such events a window that is to be decreased a round trip after it was
decreased last is not. -/
def HeldBack (rtt : ℕ) (window : GuardedWindow) : Prop :=
  ∃ guarded event rest time now update earlier,
    Runs.Reachable (Initial swift) (CloseStep swift units scid rtt) guarded ∧
    guarded.loop.events = event :: rest ∧ guarded.guards.Carried event ∧
    guarded.guards.Clocked time now ∧ time < guarded.guards.time + 2 ^ 23 ∧
    Swift.roundTrip event = rtt ∧
    swift.windowUpdate event guarded.loop.state now window = some update ∧
    update.wanted = true ∧ guarded.guards.decreased window = some earlier ∧
    earlier + rtt ≤ time ∧ update.last ≤ update.next ∧ update.reduced < update.last

/-- A window is decreased again before a round trip has passed. -/
def Repeated (window : GuardedWindow) : Prop :=
  ∃ guarded event rest time now update earlier,
    Runs.Reachable (Initial swift) (Step swift units scid) guarded ∧
    guarded.loop.events = event :: rest ∧ guarded.guards.Clocked time now ∧
    swift.windowUpdate event guarded.loop.state now window = some update ∧
    swift.Guarded event window update ∧ guarded.guards.decreased window = some earlier ∧
    time < earlier + Swift.roundTrip event

end GuardedLoop

end Isekai.RateUpdate
