import Isekai.LendingPools
import Mathlib.Algebra.Order.Ring.Int

/-! The credits that the resource manager of a host hands out: a packet pool and a buffer pool in
each direction, split into what ULP requests, ULP data and network requests may take. With
oversubscription ULP data takes from the credits of ULP requests when its own have run out. -/

namespace Isekai.ResourceCredits

/-- `TxPacketCredits` and `TxBufferCredits`. -/
structure TxCredits where
  ulpRequests : Int32 := 0
  ulpData : Int32 := 0
  networkRequests : Int32 := 0
  maxUlpRequests : Int32 := 0
  deriving DecidableEq, Repr

/-- `RxPacketCredits` and `RxBufferCredits`. -/
structure RxCredits where
  ulpRequests : Int32 := 0
  networkRequests : Int32 := 0
  deriving DecidableEq, Repr

/-- `FalconResourceCredits`. -/
structure FalconResourceCredits where
  txPacketCredits : TxCredits := {}
  txBufferCredits : TxCredits := {}
  rxPacketCredits : RxCredits := {}
  rxBufferCredits : RxCredits := {}
  enableUlpPoolOversubscription : Bool := false
  deriving DecidableEq, Repr

/-- The pools of packets and of buffer space. -/
inductive Kind where
  | packet | buffer
  deriving DecidableEq, Repr

instance {P : Kind → Prop} [DecidablePred P] : Decidable (∀ kind, P kind) :=
  decidable_of_iff (P .packet ∧ P .buffer)
    ⟨fun both kind => kind.casesOn both.1 both.2, fun each => ⟨each .packet, each .buffer⟩⟩

/-- The tx credits of a kind. -/
def FalconResourceCredits.tx (credits : FalconResourceCredits) : Kind → TxCredits
  | .packet => credits.txPacketCredits
  | .buffer => credits.txBufferCredits

/-- The rx credits of a kind. -/
def FalconResourceCredits.rx (credits : FalconResourceCredits) : Kind → RxCredits
  | .packet => credits.rxPacketCredits
  | .buffer => credits.rxBufferCredits

/-- The ten pools. -/
inductive Resource where
  | txUlpRequests (kind : Kind)
  | txUlpData (kind : Kind)
  | txNetworkRequests (kind : Kind)
  | rxUlpRequests (kind : Kind)
  | rxNetworkRequests (kind : Kind)
  deriving DecidableEq, Repr

instance {P : Resource → Prop} [DecidablePred P] : Decidable (∀ resource, P resource) :=
  decidable_of_iff (∀ kind, P (.txUlpRequests kind) ∧ P (.txUlpData kind) ∧
      P (.txNetworkRequests kind) ∧ P (.rxUlpRequests kind) ∧ P (.rxNetworkRequests kind))
    ⟨fun each resource => resource.casesOn (fun kind => (each kind).1) (fun kind => (each kind).2.1)
        (fun kind => (each kind).2.2.1) (fun kind => (each kind).2.2.2.1)
        fun kind => (each kind).2.2.2.2,
      fun each kind => ⟨each _, each _, each _, each _, each _⟩⟩

/-- The credits of a pool. -/
def FalconResourceCredits.of (credits : FalconResourceCredits) : Resource → Int32
  | .txUlpRequests kind => (credits.tx kind).ulpRequests
  | .txUlpData kind => (credits.tx kind).ulpData
  | .txNetworkRequests kind => (credits.tx kind).networkRequests
  | .rxUlpRequests kind => (credits.rx kind).ulpRequests
  | .rxNetworkRequests kind => (credits.rx kind).networkRequests

/-! ## Configuration -/

/-- `FalconConfig::ResourceCredits::TxPacketCredits` and `TxBufferCredits`. -/
structure TxConfig where
  ulpRequests : Int32 := 0
  ulpData : Int32 := 0
  networkRequests : Int32 := 0

/-- `FalconConfig::ResourceCredits`. -/
structure ResourceCreditsConfig where
  txPacketCredits : TxConfig := {}
  txBufferCredits : TxConfig := {}
  rxPacketCredits : RxCredits := {}
  rxBufferCredits : RxCredits := {}
  enableUlpPoolOversubscription : Option Bool := none

/-- The credits of a tx pool. Its limit for ULP requests is what they start with. -/
def TxCredits.create (config : TxConfig) : TxCredits :=
  { ulpRequests := config.ulpRequests
    ulpData := config.ulpData
    networkRequests := config.networkRequests
    maxUlpRequests := config.ulpRequests }

/-- `Create`. -/
def create (config : ResourceCreditsConfig) : FalconResourceCredits :=
  { txPacketCredits := TxCredits.create config.txPacketCredits
    txBufferCredits := TxCredits.create config.txBufferCredits
    rxPacketCredits := config.rxPacketCredits
    rxBufferCredits := config.rxBufferCredits
    enableUlpPoolOversubscription := config.enableUlpPoolOversubscription.getD false }

/-! ## Comparison -/

/-- The part of the comparison that is about a tx pool. -/
def TxCredits.Within (oversubscribed : Bool) (credits rhs : TxCredits) : Prop :=
  (credits.ulpRequests ≤ rhs.ulpRequests ∧ credits.networkRequests ≤ rhs.networkRequests) ∧
    if oversubscribed then
      credits.ulpData + credits.ulpRequests ≤ rhs.ulpData + rhs.ulpRequests
    else credits.ulpData ≤ rhs.ulpData

instance (oversubscribed : Bool) (credits rhs : TxCredits) :
    Decidable (credits.Within oversubscribed rhs) :=
  inferInstanceAs (Decidable (_ ∧ _))

/-- The part of the comparison that is about an rx pool. -/
def RxCredits.Within (credits rhs : RxCredits) : Prop :=
  credits.ulpRequests ≤ rhs.ulpRequests ∧ credits.networkRequests ≤ rhs.networkRequests

instance (credits rhs : RxCredits) : Decidable (credits.Within rhs) :=
  inferInstanceAs (Decidable (_ ∧ _))

/-- Whether one of the two is oversubscribed. -/
def oversubscribed (credits rhs : FalconResourceCredits) : Bool :=
  credits.enableUlpPoolOversubscription || rhs.enableUlpPoolOversubscription

/-- `operator<=`. -/
instance : LE FalconResourceCredits where
  le credits rhs :=
    (credits.txPacketCredits.Within (oversubscribed credits rhs) rhs.txPacketCredits ∧
      credits.txBufferCredits.Within (oversubscribed credits rhs) rhs.txBufferCredits) ∧
    credits.rxPacketCredits.Within rhs.rxPacketCredits ∧
      credits.rxBufferCredits.Within rhs.rxBufferCredits

instance (credits rhs : FalconResourceCredits) : Decidable (credits ≤ rhs) :=
  inferInstanceAs (Decidable ((_ ∧ _) ∧ _ ∧ _))

theorem le_iff {credits rhs : FalconResourceCredits} : credits ≤ rhs ↔
    ∀ kind, (credits.tx kind).Within (oversubscribed credits rhs) (rhs.tx kind) ∧
      (credits.rx kind).Within (rhs.rx kind) := by
  constructor
  · rintro ⟨⟨txPacket, txBuffer⟩, rxPacket, rxBuffer⟩ kind
    cases kind with
    | packet => exact ⟨txPacket, rxPacket⟩
    | buffer => exact ⟨txBuffer, rxBuffer⟩
  · intro each
    exact ⟨⟨(each .packet).1, (each .buffer).1⟩, (each .packet).2, (each .buffer).2⟩

/-! ## Addition and subtraction -/

/-- The part of `operator+=` that is about a tx pool. -/
def TxCredits.add (oversubscribed : Bool) (credits rhs : TxCredits) : TxCredits :=
  let ulpRequests := credits.ulpRequests + rhs.ulpRequests
  let networkRequests := credits.networkRequests + rhs.networkRequests
  if oversubscribed then
    -- ULP data may have consumed credits of ULP requests if it has none left.
    if credits.ulpData = 0 then
      let consumedFromRequests := min rhs.ulpData (credits.maxUlpRequests - ulpRequests)
      { credits with
        networkRequests
        ulpRequests := ulpRequests + consumedFromRequests
        ulpData := credits.ulpData + (rhs.ulpData - consumedFromRequests) }
    else { credits with networkRequests, ulpRequests, ulpData := credits.ulpData + rhs.ulpData }
  else { credits with networkRequests, ulpRequests, ulpData := credits.ulpData + rhs.ulpData }

/-- The part of `operator-=` that is about a tx pool. -/
def TxCredits.sub (oversubscribed : Bool) (credits rhs : TxCredits) : TxCredits :=
  let ulpRequests := credits.ulpRequests - rhs.ulpRequests
  let networkRequests := credits.networkRequests - rhs.networkRequests
  if oversubscribed then
    let consumeFromData := min credits.ulpData rhs.ulpData
    let consumeFromRequests := rhs.ulpData - consumeFromData
    { credits with
      networkRequests
      ulpRequests := ulpRequests - consumeFromRequests
      ulpData := credits.ulpData - consumeFromData }
  else { credits with networkRequests, ulpRequests, ulpData := credits.ulpData - rhs.ulpData }

/-- The part of `operator+=` that is about an rx pool. -/
def RxCredits.add (credits rhs : RxCredits) : RxCredits :=
  { ulpRequests := credits.ulpRequests + rhs.ulpRequests
    networkRequests := credits.networkRequests + rhs.networkRequests }

/-- The part of `operator-=` that is about an rx pool. -/
def RxCredits.sub (credits rhs : RxCredits) : RxCredits :=
  { ulpRequests := credits.ulpRequests - rhs.ulpRequests
    networkRequests := credits.networkRequests - rhs.networkRequests }

/-- `operator+=`. -/
instance : Add FalconResourceCredits where
  add credits rhs :=
    { credits with
      txPacketCredits := credits.txPacketCredits.add credits.enableUlpPoolOversubscription
        rhs.txPacketCredits
      txBufferCredits := credits.txBufferCredits.add credits.enableUlpPoolOversubscription
        rhs.txBufferCredits
      rxPacketCredits := credits.rxPacketCredits.add rhs.rxPacketCredits
      rxBufferCredits := credits.rxBufferCredits.add rhs.rxBufferCredits }

/-- `operator-=`. -/
instance : Sub FalconResourceCredits where
  sub credits rhs :=
    { credits with
      txPacketCredits := credits.txPacketCredits.sub credits.enableUlpPoolOversubscription
        rhs.txPacketCredits
      txBufferCredits := credits.txBufferCredits.sub credits.enableUlpPoolOversubscription
        rhs.txBufferCredits
      rxPacketCredits := credits.rxPacketCredits.sub rhs.rxPacketCredits
      rxBufferCredits := credits.rxBufferCredits.sub rhs.rxBufferCredits }

section Parts

variable (credits rhs : FalconResourceCredits) (kind : Kind)

@[simp] theorem add_oversubscription : (credits + rhs).enableUlpPoolOversubscription =
    credits.enableUlpPoolOversubscription := rfl

@[simp] theorem sub_oversubscription : (credits - rhs).enableUlpPoolOversubscription =
    credits.enableUlpPoolOversubscription := rfl

@[simp] theorem tx_add : (credits + rhs).tx kind =
    (credits.tx kind).add credits.enableUlpPoolOversubscription (rhs.tx kind) := by
  cases kind <;> rfl

@[simp] theorem tx_sub : (credits - rhs).tx kind =
    (credits.tx kind).sub credits.enableUlpPoolOversubscription (rhs.tx kind) := by
  cases kind <;> rfl

@[simp] theorem rx_add : (credits + rhs).rx kind = (credits.rx kind).add (rhs.rx kind) := by
  cases kind <;> rfl

@[simp] theorem rx_sub : (credits - rhs).rx kind = (credits.rx kind).sub (rhs.rx kind) := by
  cases kind <;> rfl

end Parts

/-! ## Reservations and releases -/

/-- What is left of the credits, and the reservations that have not been released. -/
structure Ledger where
  globalCredits : FalconResourceCredits
  reservations : List FalconResourceCredits

/-- A ledger of which nothing is reserved. -/
def newLedger (config : ResourceCreditsConfig) : Ledger := ⟨create config, []⟩

/-- No amount is negative, and what ULP requests and ULP data have together does not go beyond the
type of the counters. A transaction asks for credits of one of the two only. -/
structure InRange (credits : FalconResourceCredits) : Prop where
  nonneg : ∀ resource, 0 ≤ credits.of resource
  sum : ∀ kind, (credits.tx kind).ulpData.toInt + (credits.tx kind).ulpRequests.toInt < 2 ^ 31

instance (credits : FalconResourceCredits) : Decidable (InRange credits) :=
  decidable_of_iff ((∀ resource, 0 ≤ credits.of resource) ∧ ∀ kind,
      (credits.tx kind).ulpData.toInt + (credits.tx kind).ulpRequests.toInt < 2 ^ 31)
    ⟨fun both => ⟨both.1, both.2⟩, fun range => ⟨range.nonneg, range.sum⟩⟩

/-- The credits of a reservation are given back. -/
def Ledger.release (ledger : Ledger) (request : FalconResourceCredits) : Ledger :=
  { globalCredits := ledger.globalCredits + request
    reservations := ledger.reservations.erase request }

/-- The credits of a request are taken. -/
def Ledger.reserve (ledger : Ledger) (request : FalconResourceCredits) : Ledger :=
  { globalCredits := ledger.globalCredits - request
    reservations := request :: ledger.reservations }

/-- `ReserveResources` takes what the credits cover, `ReleaseResources` gives it back. -/
inductive Step : Ledger → Ledger → Prop
  | reserve (ledger : Ledger) (request : FalconResourceCredits) (amount : InRange request)
      (accepted : request ≤ ledger.globalCredits) : Step ledger (ledger.reserve request)
  | release (ledger : Ledger) (request : FalconResourceCredits)
      (held : request ∈ ledger.reservations) : Step ledger (ledger.release request)

end Isekai.ResourceCredits
