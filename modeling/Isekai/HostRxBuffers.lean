import Isekai.FalconTypes
import Isekai.Runs

/-! The buffers in which the RDMA model keeps what it has received for a host until the memory
interface of the host can take it, with the write queue of that interface. A write goes to the
interface at once if it has room, and otherwise waits for the interface to call back. -/

namespace Isekai.HostRx

/-- `kRdmaHeader`. -/
def rdmaHeader : UInt32 := 28

variable {Callback : Type}

/-! ## The memory interface -/

/-- `MemoryTxMetadata`: what a write transfers, and what is called when it is through. -/
structure Write (Callback : Type) where
  sizeBytes : UInt64
  callback : Option Callback

/-- `MemoryInterfaceQueue`. `completions` are the `TransmitComplete` events that are scheduled, and
`accepted` is what was written to it so far. -/
structure MemoryInterfaceQueue (Callback : Type) where
  maxQueueSizePackets : UInt64
  txQueue : List (Write Callback) := []
  busy : Bool := false
  completions : Nat := 0
  accepted : List (Write Callback) := []

namespace MemoryInterfaceQueue

/-- `TransmitStart`. -/
def transmitStart (queue : MemoryInterfaceQueue Callback) :
    Except Abort (MemoryInterfaceQueue Callback) :=
  if queue.busy then .error .cannotSend
  else .ok { queue with busy := true, completions := queue.completions + 1 }

/-- `CanEnqueuePacket`. -/
def canEnqueuePacket (queue : MemoryInterfaceQueue Callback) : Bool :=
  queue.txQueue.length != queue.maxQueueSizePackets.toNat

/-- `EnqueuePacket`. -/
def enqueuePacket (queue : MemoryInterfaceQueue Callback) (write : Write Callback) :
    Except Abort (MemoryInterfaceQueue Callback) :=
  let enqueued := { queue with
    txQueue := queue.txQueue ++ [write]
    accepted := queue.accepted ++ [write] }
  if queue.busy then .ok enqueued
  else enqueued.transmitStart.map fun started => { started with txQueue := started.txQueue.tail }

/-- `TransmitComplete`, and whether it calls back: when nothing is left to transmit, or when a full
queue has room again. -/
def transmitComplete (queue : MemoryInterfaceQueue Callback) :
    Except Abort (MemoryInterfaceQueue Callback × Bool) :=
  if !queue.busy then .error .cannotSend
  else
    let ready := { queue with busy := false, completions := queue.completions - 1 }
    if ready.txQueue.isEmpty then .ok (ready, true)
    else
      let wasQueueFull := ready.txQueue.length == ready.maxQueueSizePackets.toNat
      ready.transmitStart.map fun started =>
        ({ started with txQueue := started.txQueue.tail }, wasQueueFull)

end MemoryInterfaceQueue

/-! ## The buffer of a host -/

/-- `HostBufferItem`. -/
structure HostBufferItem (Callback : Type) where
  pcieCallback : Option Callback
  rdmaPcieTransferCallback : Option Callback
  payloadLength : UInt16

/-- `HostBuffer`, the memory interface of the host, and what Falcon was last told about it.
`transferred` are the transfer callbacks that were called. -/
structure Host (Callback : Type) where
  interface : MemoryInterfaceQueue Callback
  buffer : List (HostBufferItem Callback) := []
  maxSizeBytes : UInt32
  currentSizeBytes : UInt32 := 0
  xoff : Bool := false
  transferred : List Callback := []

namespace Host

/-- Hands an item to the interface and calls its transfer callback. -/
def writeToMemory (host : Host Callback) (sizeBytes : UInt64) (item : HostBufferItem Callback) :
    Except Abort (Host Callback) :=
  (host.interface.enqueuePacket ⟨sizeBytes, item.pcieCallback⟩).map fun interface =>
    { host with
      interface := interface
      transferred := host.transferred ++ item.rdmaPcieTransferCallback.toList }

/-- The length of a drained item without its header, as the difference of two unsigned numbers is
stored in an `int` and passed on. -/
def drainedPayload (payloadLength : UInt16) : UInt64 :=
  (payloadLength.toUInt64 - rdmaHeader.toUInt64).toUInt32.toInt32.toInt64.toUInt64

/-- The loop of the wake-up callback over the buffered items. -/
def drain : List (HostBufferItem Callback) → Host Callback → Except Abort (Host Callback)
  | [], host => .ok host
  | item :: rest, host =>
    if host.interface.canEnqueuePacket then
      (host.writeToMemory (drainedPayload item.payloadLength) item).bind fun written =>
        drain rest { written with
          currentSizeBytes := written.currentSizeBytes - item.payloadLength.toUInt32
          buffer := rest }
    else .ok host

/-- The wake-up callback, which sends an xon if there is room in the buffer. -/
def wakeup (host : Host Callback) : Except Abort (Host Callback) :=
  (drain host.buffer host).map fun drained =>
    if drained.currentSizeBytes < drained.maxSizeBytes then { drained with xoff := false }
    else drained

/-- The length of a pushed item without its header. -/
def pushedPayload (payloadLength : UInt16) : UInt64 :=
  if rdmaHeader ≤ payloadLength.toUInt32 then
    (payloadLength.toUInt32 - rdmaHeader).toUInt64
  else 0

/-- `Push`. A call without a packet has length zero. -/
def push (host : Host Callback) (item : HostBufferItem Callback) :
    Except Abort (Host Callback) :=
  if host.interface.canEnqueuePacket then
    host.writeToMemory (pushedPayload item.payloadLength) item
  else
    let stored := { host with
      buffer := host.buffer ++ [item]
      currentSizeBytes := host.currentSizeBytes + item.payloadLength.toUInt32 }
    .ok (if stored.maxSizeBytes ≤ stored.currentSizeBytes then { stored with xoff := true }
      else stored)

end Host

/-! ## All hosts -/

/-- `RdmaPerHostRxBuffers` and the memory interfaces. `pushed` is what was pushed so far. -/
structure RxBuffers (Callback : Type) where
  count : Nat
  hosts : Nat → Host Callback
  pushed : Nat → List (HostBufferItem Callback) := fun _ => []

namespace RxBuffers

def setHost (buffers : RxBuffers Callback) (index : Nat) (host : Host Callback) :
    RxBuffers Callback :=
  { buffers with hosts := Function.update buffers.hosts index host }

/-- `Push`. -/
def push (buffers : RxBuffers Callback) (hostIndex : UInt8) (item : HostBufferItem Callback) :
    Except Abort (RxBuffers Callback) :=
  let index := hostIndex.toNat
  if index < buffers.count then
    ((buffers.hosts index).push item).map fun host =>
      { buffers.setHost index host with
        pushed := Function.update buffers.pushed index (buffers.pushed index ++ [item]) }
  else .error .policyEntity

/-- A transmission of a memory interface is through. The index to which its callback is bound is
cut to eight bits. -/
def complete (buffers : RxBuffers Callback) (index : Nat) : Except Abort (RxBuffers Callback) :=
  (buffers.hosts index).interface.transmitComplete.bind fun (interface, callsBack) =>
    let completed := buffers.setHost index { buffers.hosts index with interface := interface }
    let woken := index.toUInt8.toNat
    if callsBack then (completed.hosts woken).wakeup.map (completed.setHost woken)
    else .ok completed

/-- What happens to the buffers: calls of `Push`, and completions in the memory interfaces. -/
inductive Event (Callback : Type) where
  | push (hostIndex : UInt8) (item : HostBufferItem Callback)
  | complete (index : Nat)

/-- A completion is only due where one is scheduled. -/
def Possible (buffers : RxBuffers Callback) : Event Callback → Prop
  | .push _ _ => True
  | .complete index => index < buffers.count ∧ 0 < (buffers.hosts index).interface.completions

def perform (buffers : RxBuffers Callback) : Event Callback → Except Abort (RxBuffers Callback)
  | .push hostIndex item => buffers.push hostIndex item
  | .complete index => buffers.complete index

instance (buffers : RxBuffers Callback) :
    (event : Event Callback) → Decidable (buffers.Possible event)
  | .push _ _ => .isTrue trivial
  | .complete _ => inferInstanceAs (Decidable (_ ∧ _))

def Step (before after : RxBuffers Callback) : Prop :=
  ∃ event, before.Possible event ∧ before.perform event = .ok after

/-- Buffers of a positive size, before anything is pushed. -/
def Initial (buffers : RxBuffers Callback) : Prop :=
  (∀ index, buffers.pushed index = []) ∧ ∀ index, ∃ maxQueueSizePackets maxSizeBytes,
    0 < maxSizeBytes ∧ buffers.hosts index =
      { interface := { maxQueueSizePackets := maxQueueSizePackets }, maxSizeBytes := maxSizeBytes }

/-- The sum of the sizes of the packets in the buffer of a host. -/
def bufferedBytes (buffers : RxBuffers Callback) (index : Nat) : Nat :=
  ((buffers.hosts index).buffer.map fun item => item.payloadLength.toNat).sum

end RxBuffers
end Isekai.HostRx
