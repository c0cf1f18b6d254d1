import Isekai.Outcomes
import Isekai.ReliabilitySystem
import Isekai.TransactionPhases
import Isekai.WindowAlignment

/-! The books of one end of a connection: the packet contexts, the two queues in which their packets
wait, the transactions that they belong to, what is still to be sent for these, and the counters
of outstanding requests. Beside the endpoint stand the lists of the packets that were sent through
each window, and the RSNs of the pull requests that were answered. -/

namespace Isekai.OutstandingBooks
open Outcomes Reliability Reliability.Endpoint TransactionPhases MapContents

variable {before : Endpoint}

/-- The PSN and the attempts of a packet. -/
def numbers (transaction : Transaction) (type : PacketType) : Option (UInt32 × UInt32) :=
  (transaction.packets type).map fun packet => (packet.psn, packet.transmitAttempts)

/-- The side of the transaction sends packets of the type. -/
def Outgoing (type : PacketType) (key : TransactionKey) : Prop :=
  getTransactionLocation type false = .ok key.location

/-- The packet that the handing over of another one is to have sent. -/
def nextWork (work : WorkId) : Option WorkId :=
  match work.type with
  | .pushRequest => some ⟨work.rsn, .pushGrant⟩
  | .pushGrant => some ⟨work.rsn, .pushSolicitedData⟩
  | _ => none

/-- The packets that are to be sent for the first time, or will be when their turn comes. -/
def pendingWork (endpoint : Endpoint) : List WorkId :=
  endpoint.scheduled ++ endpoint.reordered.filterMap nextWork

/-- The RSNs of the packets of a type. -/
def rsnsOf (type : PacketType) (packets : Multiset OutstandingPacketContext) : Multiset UInt32 :=
  (packets.filter fun packet => packet.packetType = type).map OutstandingPacketContext.rsn

/-! ## What the books say -/

/-- The contexts, the queues of their packets and the packets' metadata. -/
structure Recorded (endpoint : Endpoint) : Prop where
  windows : ∀ window psn context,
    (endpoint.tx window).outstandingPacketContexts psn = some context →
    windowOf context.packetType = window
  metadata : ∀ window psn context key transaction,
    (endpoint.tx window).outstandingPacketContexts psn = some context →
    context.rsn = key.rsn → Outgoing context.packetType key →
    endpoint.transactions key = some transaction →
    transaction.state ∉ unsentStates context.packetType ∧
      ∀ found, numbers transaction context.packetType = some found → found.1 = psn
  works : ∀ window work, work ∈ (endpoint.tx window).outstandingPackets ∨
      work ∈ endpoint.retransmissions window →
    (endpoint.tx window).outstandingPacketContexts work.psn = some ⟨work.rsn, work.type⟩
  apart : ∀ window, ∀ work ∈ (endpoint.tx window).outstandingPackets,
    ∀ other ∈ endpoint.retransmissions window, work.psn ≠ other.psn

/-- What is to be sent is wanted once, by a transaction that waits for it. -/
structure Queued (endpoint : Endpoint) : Prop where
  distinct : (pendingWork endpoint).Nodup
  waiting : ∀ work ∈ pendingWork endpoint, ∃ location transaction,
    getTransactionLocation work.type false = .ok location ∧
      endpoint.transactions ⟨work.rsn, location⟩ = some transaction ∧
      waitingState work.type = some transaction.state
  fresh : ∀ key transaction type found, endpoint.transactions key = some transaction →
    Outgoing type key → transaction.state ∈ unsentStates type →
    numbers transaction type = some found → found.2 = 0

/-- The requests whose answer is outstanding, by the state of their transactions. -/
structure Opened (endpoint : Endpoint) (debts pulls : Multiset UInt32) : Prop where
  pushing : ∀ rsn transaction, endpoint.transactions ⟨rsn, .initiator⟩ = some transaction →
    transaction.state ∈ pushingStates → rsn ∈ debts
  pulling : ∀ rsn transaction, endpoint.transactions ⟨rsn, .initiator⟩ = some transaction →
    transaction.state = .pullReqNtwkTx → rsn ∈ pulls

/-- The counters, for the packets that are not acknowledged, the push requests whose data is not,
and the pull requests that are not answered. -/
structure Tally (config : Config) (endpoint : Endpoint)
    (live : WindowType → Multiset OutstandingPacketContext) (debts pulls : Multiset UInt32) :
    Prop where
  request : (endpoint.tx .request).outstandingRequestsCounter.toNat =
    (if config.decrementOrcOnPullResponse then pulls.card
      else (rsnsOf .pullRequest (live .request)).card) + debts.card
  data : (endpoint.tx .data).outstandingRequestsCounter.toNat =
    (rsnsOf .pushUnsolicitedData (live .data)).card

/-- The open requests and the packets that were sent. -/
structure Balanced (sent : WindowType → List OutstandingPacketContext)
    (answered : Multiset UInt32) (live : WindowType → Multiset OutstandingPacketContext)
    (debts pulls : Multiset UInt32) : Prop where
  pushes : debts + rsnsOf .pushSolicitedData ↑(sent .data) =
    rsnsOf .pushRequest ↑(sent .request) + rsnsOf .pushSolicitedData (live .data)
  pulls : pulls + answered = rsnsOf .pullRequest ↑(sent .request)

/-- The books are in order, and the counters are not above the limits. -/
structure Books (config : Config) (sent : WindowType → List OutstandingPacketContext)
    (answered : Multiset UInt32) (limit : WindowType → UInt32) (endpoint : Endpoint) : Prop where
  recorded : Recorded endpoint
  queued : Queued endpoint
  counted : ∃ live debts pulls,
    (∀ window, Contains (endpoint.tx window).outstandingPacketContexts (live window)) ∧
      Tally config endpoint live debts pulls ∧ Balanced sent answered live debts pulls ∧
      Opened endpoint debts pulls
  bounded : ∀ window, (endpoint.tx window).outstandingRequestsCounter ≤ limit window

/-! ## Changes outside the books -/

/-- What the books read of a window. -/
structure SameRecords (before after : TxWindow) : Prop where
  counter : after.outstandingRequestsCounter = before.outstandingRequestsCounter
  outstanding : after.outstandingPackets = before.outstandingPackets
  contexts : after.outstandingPacketContexts = before.outstandingPacketContexts

/-- What the books and the sliding window read of a window. -/
structure SameWindow (before after : TxWindow) : Prop extends SameRecords before after where
  base : after.basePacketSequenceNumber = before.basePacketSequenceNumber
  next : after.nextPacketSequenceNumber = before.nextPacketSequenceNumber
  bits : after.window = before.window

theorem SameWindow.rfl {window : TxWindow} : SameWindow window window :=
  ⟨⟨.refl _, .refl _, .refl _⟩, .refl _, .refl _, .refl _⟩

/-- What the books read of a transaction. -/
def entry (transaction : Transaction) :
    TransactionState × (PacketType → Option (UInt32 × UInt32)) :=
  (transaction.state, numbers transaction)

/-- A change of nothing that the books read. -/
structure SameBooks (before after : Endpoint) : Prop where
  windows : ∀ window, SameWindow (before.tx window) (after.tx window)
  retransmissions : after.retransmissions = before.retransmissions
  scheduled : after.scheduled = before.scheduled
  reordered : after.reordered = before.reordered
  transactions : ∀ key, (after.transactions key).map entry = (before.transactions key).map entry

instance : IsPreorder Endpoint SameBooks where
  refl _ := ⟨fun _ => .rfl, rfl, rfl, rfl, fun _ => rfl⟩
  trans _ _ _ first second :=
    ⟨fun window =>
        ⟨⟨(second.windows window).counter.trans (first.windows window).counter,
            (second.windows window).outstanding.trans (first.windows window).outstanding,
            (second.windows window).contexts.trans (first.windows window).contexts⟩,
          (second.windows window).base.trans (first.windows window).base,
          (second.windows window).next.trans (first.windows window).next,
          (second.windows window).bits.trans (first.windows window).bits⟩,
      second.retransmissions.trans first.retransmissions, second.scheduled.trans first.scheduled,
      second.reordered.trans first.reordered,
      fun key => (second.transactions key).trans (first.transactions key)⟩

theorem SameBooks.rfl {endpoint : Endpoint} : SameBooks endpoint endpoint := refl_of SameBooks endpoint

/-- With the later change first, from which the state between the two is read off. -/
theorem SameBooks.after {first second third : Endpoint} (two : SameBooks second third)
    (one : SameBooks first second) : SameBooks first third :=
  trans_of SameBooks one two

/-! ## Transactions that go on -/

/-- No transaction is started, and none has a packet sent: those that wait for one stay where they
are, and the others do not go back. -/
structure Onward (before after : Endpoint) : Prop where
  back : ∀ key new, after.transactions key = some new → ∃ old,
    before.transactions key = some old ∧
      (∀ type, Outgoing type key → numbers new type = numbers old type) ∧
      (∀ type, new.state ∈ unsentStates type → old.state ∈ unsentStates type) ∧
      (new.state ∈ pushingStates → old.state ∈ pushingStates) ∧
      (new.state = .pullReqNtwkTx → old.state = .pullReqNtwkTx)
  waiting : ∀ key old type, before.transactions key = some old →
    waitingState type = some old.state →
    ∃ new, after.transactions key = some new ∧ new.state = old.state

theorem Onward.rfl {endpoint : Endpoint} : Onward endpoint endpoint :=
  ⟨fun _ new found => ⟨new, found, fun _ _ => .refl _, fun _ => id, id, id⟩,
    fun _ old _ found _ => ⟨old, found, .refl _⟩⟩

theorem Onward.trans {first second third : Endpoint} (one : Onward first second)
    (two : Onward second third) : Onward first third := by
  constructor
  · intro key new found
    obtain ⟨middle, foundMiddle, numbers, unsent, pushing, pulling⟩ := two.back key new found
    obtain ⟨old, foundOld, numbers', unsent', pushing', pulling'⟩ := one.back key middle foundMiddle
    exact ⟨old, foundOld, fun type outgoing => (numbers type outgoing).trans (numbers' type outgoing),
      fun type => unsent' type ∘ unsent type, pushing' ∘ pushing, pulling' ∘ pulling⟩
  · intro key old type found waits
    obtain ⟨middle, foundMiddle, same⟩ := one.waiting key old type found waits
    obtain ⟨new, foundNew, same'⟩ := two.waiting key middle type foundMiddle (same ▸ waits)
    exact ⟨new, foundNew, same'.trans same⟩

theorem onward_entries {after : Endpoint}
    (same : ∀ key, (after.transactions key).map entry = (before.transactions key).map entry) :
    Onward before after := by
  constructor
  · intro key new found
    have read := same key
    rw [found, Option.map_some] at read
    obtain ⟨old, foundOld, equal⟩ := Option.map_eq_some_iff.1 read.symm
    have state : old.state = new.state := congrArg Prod.fst equal
    have packets : numbers old = numbers new := congrArg Prod.snd equal
    exact ⟨old, foundOld, fun type _ => (congrFun packets type).symm, fun _ => state ▸ id,
      state ▸ id, state ▸ id⟩
  · intro key old type found waits
    have read := same key
    rw [found, Option.map_some] at read
    obtain ⟨new, foundNew, equal⟩ := Option.map_eq_some_iff.1 read
    exact ⟨new, foundNew, congrArg Prod.fst equal⟩

theorem SameBooks.onward {after : Endpoint} (same : SameBooks before after) :
    Onward before after := onward_entries same.transactions

theorem entry_some {after : Endpoint} {key : TransactionKey} {new : Transaction}
    (same : (after.transactions key).map entry = (before.transactions key).map entry)
    (held : after.transactions key = some new) :
    ∃ old, before.transactions key = some old ∧ old.state = new.state := by
  rw [held, Option.map_some] at same
  obtain ⟨old, heldBefore, equal⟩ := Option.map_eq_some_iff.1 same.symm
  exact ⟨old, heldBefore, congrArg Prod.fst equal⟩

section Onward
variable {before after : Endpoint}

theorem Recorded.onward (recorded : Recorded before) (onward : Onward before after)
    (contexts : ∀ window psn context,
      (after.tx window).outstandingPacketContexts psn = some context →
      (before.tx window).outstandingPacketContexts psn = some context)
    (works : ∀ window work, work ∈ (after.tx window).outstandingPackets ∨
        work ∈ after.retransmissions window →
      (after.tx window).outstandingPacketContexts work.psn = some ⟨work.rsn, work.type⟩)
    (apart : ∀ window, ∀ work ∈ (after.tx window).outstandingPackets,
      ∀ other ∈ after.retransmissions window, work.psn ≠ other.psn) : Recorded after where
  windows window psn context found :=
    recorded.windows window psn context (contexts window psn context found)
  metadata window psn context key new found rsn outgoing held := by
    obtain ⟨old, heldBefore, packets, unsent, _⟩ := onward.back key new held
    obtain ⟨sent, same⟩ := recorded.metadata window psn context key old
      (contexts window psn context found) rsn outgoing heldBefore
    exact ⟨fun back => sent (unsent _ back), fun number read =>
      same number (packets _ outgoing ▸ read)⟩
  works := works
  apart := apart

theorem Queued.onward (queued : Queued before) (onward : Onward before after)
    (distinct : (pendingWork after).Nodup)
    (fewer : ∀ work ∈ pendingWork after, work ∈ pendingWork before) : Queued after where
  distinct := distinct
  waiting work pending := by
    obtain ⟨location, old, outgoing, found, waits⟩ := queued.waiting work (fewer work pending)
    obtain ⟨new, foundNew, same⟩ := onward.waiting _ old work.type found waits
    exact ⟨location, new, outgoing, foundNew, same ▸ waits⟩
  fresh key new type number held outgoing unsent read := by
    obtain ⟨old, heldBefore, packets, back, _⟩ := onward.back key new held
    exact queued.fresh key old type number heldBefore outgoing (back type unsent)
      (packets type outgoing ▸ read)

theorem Opened.onward {debts pulls : Multiset UInt32} (opened : Opened before debts pulls)
    (onward : Onward before after) : Opened after debts pulls where
  pushing rsn new held pushing := by
    obtain ⟨old, heldBefore, _, _, back, _⟩ := onward.back _ new held
    exact opened.pushing rsn old heldBefore (back pushing)
  pulling rsn new held pulling := by
    obtain ⟨old, heldBefore, _, _, _, back⟩ := onward.back _ new held
    exact opened.pulling rsn old heldBefore (back pulling)

end Onward

variable {config : Config} {sent : WindowType → List OutstandingPacketContext}
  {answered : Multiset UInt32} {limit : WindowType → UInt32} {endpoint : Endpoint}

theorem pending_work_same {after : Endpoint} (scheduled : after.scheduled = before.scheduled)
    (reordered : after.reordered = before.reordered) : pendingWork after = pendingWork before := by
  simp only [pendingWork, scheduled, reordered]

theorem recorded_onward {after : Endpoint} (recorded : Recorded before)
    (windows : ∀ window, SameRecords (before.tx window) (after.tx window))
    (retransmissions : after.retransmissions = before.retransmissions)
    (onward : Onward before after) : Recorded after := by
  refine recorded.onward onward ?_ ?_ ?_
  · intro window psn context found
    exact (windows window).contexts ▸ found
  · intro window work held
    rw [(windows window).outstanding, retransmissions] at held
    rw [(windows window).contexts]
    exact recorded.works window work held
  · intro window work waits other queued
    rw [(windows window).outstanding] at waits
    rw [retransmissions] at queued
    exact recorded.apart window work waits other queued

/-- Where windows, queues and counters stay, and transactions go on. -/
theorem books_onward {after : Endpoint} (books : Books config sent answered limit before)
    (windows : ∀ window, SameRecords (before.tx window) (after.tx window))
    (retransmissions : after.retransmissions = before.retransmissions)
    (onward : Onward before after) (distinct : (pendingWork after).Nodup)
    (fewer : ∀ work ∈ pendingWork after, work ∈ pendingWork before) :
    Books config sent answered limit after := by
  obtain ⟨live, debts, pulls, contains, tally, balanced, opened⟩ := books.counted
  refine ⟨?_, books.queued.onward onward distinct fewer,
    ⟨live, debts, pulls, fun window => (windows window).contexts ▸ contains window, ?_, balanced,
      opened.onward onward⟩, fun window => (windows window).counter ▸ books.bounded window⟩
  · exact recorded_onward books.recorded windows retransmissions onward
  · exact ⟨(windows .request).counter ▸ tally.request, (windows .data).counter ▸ tally.data⟩

theorem books_same {after : Endpoint} (same : SameBooks before after)
    (books : Books config sent answered limit before) : Books config sent answered limit after := by
  have pending := pending_work_same same.scheduled same.reordered
  exact books_onward books (fun window => (same.windows window).toSameRecords)
    same.retransmissions same.onward
    (pending ▸ books.queued.distinct) (fun work => pending ▸ id)

end Isekai.OutstandingBooks
