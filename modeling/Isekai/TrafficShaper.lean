import Isekai.Runs
import Mathlib.Algebra.Group.Nat.Defs
import Mathlib.Data.List.Infix
import Mathlib.Order.Bounds.Basic

/-! `TrafficShaperModel`: a timing wheel of one level. A packet waits in the slot of its departure
time, which is rounded up to the granularity, and the packet that makes a slot non-empty schedules
the event that drains it. Times are in quarters of a nanosecond, which is the resolution of a
duration. -/

namespace Isekai.TrafficShaper

/-- The options of the traffic shaper, with slots that take some time. -/
structure Options where
  timingWheelSlotGranularity : ℤ
  timingWheelNumberOfSlots : ℤ
  granularity_pos : 0 < timingWheelSlotGranularity
  slots_pos : 0 < timingWheelNumberOfSlots

namespace Options

def timingWheelHorizon (options : Options) : ℤ :=
  options.timingWheelSlotGranularity * options.timingWheelNumberOfSlots

/-- The slot of a time, converted to an `int`. -/
def slotOf (options : Options) (time : ℤ) : ℤ :=
  Int.bmod (time / options.timingWheelSlotGranularity % options.timingWheelNumberOfSlots) (2 ^ 32)

end Options

/-- `absl::Ceil`. -/
def ceil (time unit : ℤ) : ℤ :=
  let truncated := time - time.tmod unit
  if time ≤ truncated then truncated else truncated + unit

structure Packet where
  packetId : ℕ
  timingWheelTimestamp : ℤ
  deriving DecidableEq, Repr

/-- A packet in the wheel. Its departure time is recorded beside it. -/
structure Waiting where
  packet : Packet
  departure : ℤ
  deriving DecidableEq, Repr

/-- A packet that was handed to the shaper, when that was, and its departure time. -/
structure Arrival where
  packet : Packet
  time : ℤ
  departure : ℤ
  deriving DecidableEq, Repr

/-- A packet that was passed on to the packet builder, and when that was. -/
structure Enqueued where
  packet : Packet
  time : ℤ
  deriving DecidableEq, Repr

inductive Fault where
  | departureInPast | departureInFuture | scheduleFailed | noSuchTimeSlot | slotWithoutPackets
  deriving DecidableEq, Repr

/-- The shaper with the times for which `DrainTimingWheelSlot` is scheduled, the packets that the
packet builder got, and a record of the packets that were handed in. -/
structure Shaper where
  now : ℤ
  wheel : ℤ → Option (List Waiting)
  scheduled : List ℤ
  enqueued : List Enqueued
  handedIn : List Arrival

namespace Shaper

def start : Shaper where
  now := 0
  wheel := fun _ => none
  scheduled := []
  enqueued := []
  handedIn := []

def scheduleEvent (shaper : Shaper) (delay : ℤ) : Except Fault Shaper :=
  if delay < 0 then .error .scheduleFailed
  else .ok { shaper with scheduled := shaper.scheduled ++ [shaper.now + delay] }

/-- The time at which a packet leaves, rounded up to the granularity. -/
def departureRoundupTime (options : Options) (now timestamp : ℤ) : ℤ :=
  if timestamp < now then ceil now options.timingWheelSlotGranularity
  else ceil timestamp options.timingWheelSlotGranularity

def transferTxPacket (options : Options) (shaper : Shaper) (packet : Packet) :
    Except Fault Shaper :=
  let now := shaper.now
  let timestamp := packet.timingWheelTimestamp
  if timestamp = 0 then .ok { shaper with enqueued := shaper.enqueued ++ [Enqueued.mk packet now] }
  else if ¬ now ≤ timestamp + options.timingWheelHorizon then .error .departureInPast
  else if ¬ timestamp ≤ now + options.timingWheelHorizon then .error .departureInFuture
  else
    let departure := departureRoundupTime options now timestamp
    let enqueueSlot := options.slotOf departure
    let waiting := Waiting.mk packet departure
    let recorded :=
      { shaper with handedIn := shaper.handedIn ++ [Arrival.mk packet now departure] }
    match shaper.wheel enqueueSlot with
    | some queue =>
      .ok { recorded with
        wheel := Function.update shaper.wheel enqueueSlot (some (queue ++ [waiting])) }
    | none =>
      scheduleEvent { recorded with
        wheel := Function.update shaper.wheel enqueueSlot (some [waiting]) } (departure - now)

def drainTimingWheelSlot (options : Options) (shaper : Shaper) : Except Fault Shaper :=
  let currentSlot := options.slotOf shaper.now
  match shaper.wheel currentSlot with
  | none => .error .noSuchTimeSlot
  | some [] => .error .slotWithoutPackets
  | some (first :: rest) =>
    .ok { shaper with
      wheel := Function.update shaper.wheel currentSlot none
      enqueued := shaper.enqueued ++
        (first :: rest).map fun waiting => Enqueued.mk waiting.packet shaper.now }

/-- The shaper while the event that is due now runs. -/
def startEvent (shaper : Shaper) : Shaper :=
  { shaper with scheduled := shaper.scheduled.erase shaper.now }

/-- What can happen: a packet is handed in, a slot is drained that is due, or time goes on where no
event is left. -/
inductive Action where
  | transfer (packet : Packet)
  | drain
  | elapse (later : ℤ)

def perform (options : Options) (shaper : Shaper) : Action → Option Shaper
  | .transfer packet => (shaper.transferTxPacket options packet).toOption
  | .drain => Runs.attempt (shaper.now ∈ shaper.scheduled)
      (shaper.startEvent.drainTimingWheelSlot options)
  | .elapse later =>
    if shaper.now ≤ later ∧ ∀ due ∈ shaper.scheduled, later ≤ due then
      some { shaper with now := later }
    else none

/-- What waits in a slot. -/
def queueAt (shaper : Shaper) (slot : ℤ) : List Waiting :=
  (shaper.wheel slot).getD []

/-- A packet that is handed in does not meet one in its slot that leaves at another time. -/
def Clear (options : Options) (shaper : Shaper) : Action → Prop
  | .transfer packet => packet.timingWheelTimestamp ≠ 0 →
      let departure := departureRoundupTime options shaper.now packet.timingWheelTimestamp
      ∀ waiting ∈ shaper.queueAt (options.slotOf departure), waiting.departure = departure
  | _ => True

def Step (options : Options) (shaper next : Shaper) : Prop :=
  ∃ action, shaper.perform options action = some next

def ClearStep (options : Options) (shaper next : Shaper) : Prop :=
  ∃ action, shaper.Clear options action ∧ shaper.perform options action = some next

/-- The packets handed in that are to leave at a time, in the order of their arrival. -/
def dueAt (shaper : Shaper) (time : ℤ) : List Packet :=
  (shaper.handedIn.filter (·.departure = time)).map (·.packet)

/-- The packets that left the wheel at a time, in the order in which they did. -/
def leftAt (shaper : Shaper) (time : ℤ) : List Packet :=
  (shaper.enqueued.filter fun enqueued =>
    enqueued.time = time ∧ enqueued.packet.timingWheelTimestamp ≠ 0).map (·.packet)

/-- Each packet leaves once, at the first boundary of a slot from its timestamp and its arrival on,
and packets that leave together do so in the order of their arrival. -/
structure OnTime (options : Options) (shaper : Shaper) : Prop where
  boundaries : ∀ arrival ∈ shaper.handedIn,
    IsLeast {boundary | options.timingWheelSlotGranularity ∣ boundary ∧
      max arrival.packet.timingWheelTimestamp arrival.time ≤ boundary} arrival.departure
  inOrder : ∀ time, shaper.leftAt time <+: shaper.dueAt time
  allLeft : ∀ time < shaper.now, shaper.leftAt time = shaper.dueAt time

end Shaper

end Isekai.TrafficShaper
