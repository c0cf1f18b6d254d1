import Isekai.SchedulerFrameProofs

/-! How the work items in the queues of a connection fit its transactions: every item stands
for a packet of a live transaction that waits for its first transmission, the transaction is in
the state that this packet moves on, and a push request or a grant that the reorder engine still
holds has not been answered yet. -/

namespace Isekai.SchedulerTransactionProofs
open FastConnectionScheduler SchedulerSystem SchedulerFrameProofs AdmissionControl

variable {rsn : UInt32} {type : PacketType}

/-! ## Work items and transactions -/

/-- The side whose transaction a work item belongs to. -/
def itemLocation : PacketType → TransactionLocation
  | .pullData | .pushGrant => .target
  | _ => .initiator

/-- The key of the transaction that a work item belongs to. -/
def itemKey (item : WorkId) : TransactionKey := ⟨item.rsn, itemLocation item.type⟩

/-- The state of a transaction whose packet may be sent. -/
def expectedState : PacketType → TransactionState
  | .pullRequest => .pullReqUlpRx
  | .pushRequest => .pushSolicitedReqUlpRx
  | .pushSolicitedData => .pushGrantNtwkRx
  | .pushGrant => .pushReqNtwkRx
  | .pullData => .pullDataUlpRx
  | _ => .pushUnsolicitedReqUlpRx

/-- The states of a transaction with a waiting packet. Ordered solicited data waits from the
submission of its push on. -/
def waitingStates (type : PacketType) (eligible : Bool) : List TransactionState :=
  if type = .pushSolicitedData ∧ eligible = false then
    [.pushSolicitedReqUlpRx, .pushReqNtwkTx, .pushGrantNtwkRx]
  else [expectedState type]

/-- The states of transactions that work items may belong to. -/
def liveStates : TransactionLocation → List TransactionState
  | .initiator => [.pullReqUlpRx, .pushSolicitedReqUlpRx, .pushUnsolicitedReqUlpRx, .pushReqNtwkTx,
      .pushGrantNtwkRx]
  | .target => [.pushReqNtwkRx, .pullDataUlpRx]

/-- The queue that a work item waits in. -/
def BelongsIn (ordered : Bool) (queueType : PacketTypeQueue) (type : PacketType) : Prop :=
  if type = .invalid then ordered = true ∧ queueType = .pullAndOrderedPushRequest
  else Host.queueOf ordered type = .ok queueType

def isOrdered (connection : ConnectionState) : Bool := connection.orderedMode = .ordered

/-- A packet that waits, with its transaction. -/
structure WaitingPacket (ordered : Bool) (item : WorkId) (transaction : TransactionMetadata)
    (packet : PacketMetadata) : Prop where
  present : transaction.packets item.type = some packet
  state : transaction.state ∈ waitingStates item.type packet.isTransmissionEligible
  unsent : packet.transmitAttempts = 0
  parked : packet.isTransmissionEligible = false → ordered = true ∧
    (item.type = .pushSolicitedData ∨ item.type = .pushUnsolicitedData)
  phantom : item.type = .invalid → (transaction.packets .pushUnsolicitedData).isSome

/-- A work item of a queue stands for a packet of a live transaction. -/
structure Waiting (connection : ConnectionState) (queueType : PacketTypeQueue) (item : WorkId) :
    Prop where
  queue : BelongsIn (isOrdered connection) queueType item.type
  live : ∃ transaction packet, connection.transactions (itemKey item) = some transaction ∧
    WaitingPacket (isOrdered connection) item transaction packet

/-- The data of a solicited push whose grant has not been passed on: on an ordered connection it
is queued but not eligible, on an unordered one it is eligible but not queued. -/
def Parked (connection : ConnectionState) (queues : PacketTypeQueue → List WorkId) (rsn : UInt32)
    (transaction : TransactionMetadata) : Prop :=
  ∃ packet, transaction.packets .pushSolicitedData = some packet ∧ packet.transmitAttempts = 0 ∧
    packet.isTransmissionEligible = !isOrdered connection ∧
    (⟨rsn, .pushSolicitedData⟩ ∈ queues .pushData ↔ isOrdered connection = true)

/-- The invariant of a connection at one transaction. `grants` and `requests` count, for each
RSN, the push grants and the push requests in the reorder engine. -/
structure ConsistentAt (connection : ConnectionState) (queues : PacketTypeQueue → List WorkId)
    (grants requests : UInt32 → Nat) (key : TransactionKey) : Prop where
  waiting : ∀ queueType item, item ∈ queues queueType → itemKey item = key →
    Waiting connection queueType item
  ungranted : key.location = .initiator → ∀ transaction,
    connection.transactions key = some transaction →
    transaction.state = .pushSolicitedReqUlpRx ∨ transaction.state = .pushReqNtwkTx →
    grants key.rsn = 0 ∧ Parked connection queues key.rsn transaction
  granted : key.location = .initiator → grants key.rsn ≠ 0 → grants key.rsn = 1 ∧
    ∃ transaction, connection.transactions key = some transaction ∧
      transaction.state = .pushGrantNtwkRx ∧ Parked connection queues key.rsn transaction
  requested : key.location = .target → requests key.rsn ≠ 0 → requests key.rsn = 1 ∧
    ∃ transaction packet, connection.transactions key = some transaction ∧
      transaction.state = .pushReqNtwkRx ∧ transaction.packets .pushGrant = some packet ∧
      packet.isTransmissionEligible = true ∧ packet.transmitAttempts = 0 ∧
      ⟨key.rsn, .pushGrant⟩ ∉ queues .pushGrant
  phantoms : key.location = .initiator → ∀ transaction packet,
    ⟨key.rsn, .pushUnsolicitedData⟩ ∈ queues .pushData →
    connection.transactions key = some transaction →
    transaction.packets .pushUnsolicitedData = some packet →
    packet.isTransmissionEligible = true →
    ⟨key.rsn, .invalid⟩ ∉ queues .pullAndOrderedPushRequest

/-- The invariant of a connection. -/
structure Consistent (connection : ConnectionState) (queues : PacketTypeQueue → List WorkId)
    (grants requests : UInt32 → Nat) : Prop where
  nodup : ∀ queueType, (queues queueType).Nodup
  each : ∀ key, ConsistentAt connection queues grants requests key

theorem waiting_states_live {eligible : Bool} {state : TransactionState}
    (waits : state ∈ waitingStates type eligible) : state ∈ liveStates (itemLocation type) := by
  unfold waitingStates at waits
  split at waits
  · rename_i parked
    rw [parked.1]
    simp at waits
    rcases waits with rfl | rfl | rfl <;> simp [itemLocation, liveStates]
  · simp at waits
    subst waits
    cases type <;> simp [itemLocation, liveStates, expectedState]

/-- No work item belongs to the transaction, and the reorder engine holds nothing for it. -/
structure Idle (queues : PacketTypeQueue → List WorkId) (grants requests : UInt32 → Nat)
    (key : TransactionKey) : Prop where
  items : ∀ queueType item, item ∈ queues queueType → itemKey item ≠ key
  grants : key.location = .initiator → grants key.rsn = 0
  requests : key.location = .target → requests key.rsn = 0

section Connection
variable {connection after : ConnectionState} {queues queuesAfter : PacketTypeQueue → List WorkId}
  {grants requests grantsAfter requestsAfter : UInt32 → Nat} {key : TransactionKey}

/-- A transaction that is in no live state, or does not exist, is idle. -/
theorem idle_of_state (consistent : Consistent connection queues grants requests)
    (past : ∀ transaction, connection.transactions key = some transaction →
      transaction.state ∉ liveStates key.location) : Idle queues grants requests key := by
  constructor
  · rintro queueType item member rfl
    obtain ⟨transaction, packet, live, waits⟩ :=
      ((consistent.each _).waiting queueType item member rfl).live
    exact past transaction live (waiting_states_live waits.state)
  · intro side
    by_contra pending
    obtain ⟨-, transaction, live, state, -⟩ := (consistent.each key).granted side pending
    refine past transaction live ?_
    rw [state, side]
    simp [liveStates]
  · intro side
    by_contra pending
    obtain ⟨-, transaction, packet, live, state, -⟩ := (consistent.each key).requested side pending
    refine past transaction live ?_
    rw [state, side]
    simp [liveStates]

/-- The invariant at a transaction only looks at that transaction, its work items and its
entries in the reorder engine. -/
theorem consistent_at_congr (before : ConsistentAt connection queues grants requests key)
    (orderedMode : after.orderedMode = connection.orderedMode)
    (transaction : after.transactions key = connection.transactions key)
    (items : ∀ queueType type, itemLocation type = key.location →
      ((⟨key.rsn, type⟩ : WorkId) ∈ queuesAfter queueType ↔
        (⟨key.rsn, type⟩ : WorkId) ∈ queues queueType))
    (grantsSame : key.location = .initiator → grantsAfter key.rsn = grants key.rsn)
    (requestsSame : key.location = .target → requestsAfter key.rsn = requests key.rsn) :
    ConsistentAt after queuesAfter grantsAfter requestsAfter key := by
  have ordered : isOrdered after = isOrdered connection := by simp only [isOrdered, orderedMode]
  have parked : key.location = .initiator → ∀ current, Parked after queuesAfter key.rsn current ↔
      Parked connection queues key.rsn current := by
    intro side current
    simp only [Parked, ordered, items .pushData .pushSolicitedData (by rw [side]; rfl)]
  constructor
  · rintro queueType item member rfl
    obtain ⟨queue, live⟩ := before.waiting queueType item ((items _ _ rfl).1 member) rfl
    exact ⟨by rwa [ordered], by rwa [ordered, transaction]⟩
  · intro side current live state
    rw [transaction] at live
    rw [grantsSame side, parked side]
    exact before.ungranted side current live state
  · intro side pending
    rw [grantsSame side] at pending
    obtain ⟨one, current, live, state, parks⟩ := before.granted side pending
    exact ⟨by rw [grantsSame side, one], current, by rw [transaction, live], state,
      (parked side current).2 parks⟩
  · intro side pending
    rw [requestsSame side] at pending
    obtain ⟨one, current, packet, live, state, present, eligible, unsent, absent⟩ :=
      before.requested side pending
    exact ⟨by rw [requestsSame side, one], current, packet, by rw [transaction, live], state,
      present, eligible, unsent, by rwa [items .pushGrant .pushGrant (by rw [side]; rfl)]⟩
  · intro side current packet
    rw [transaction, items .pushData .pushUnsolicitedData (by rw [side]; rfl),
      items .pullAndOrderedPushRequest .invalid (by rw [side]; rfl)]
    exact before.phantoms side current packet

/-- The frame rule: whatever happens to one transaction, its work items and its entries in the
reorder engine, only its own part of the invariant is at stake. -/
theorem consistent_of_local (key : TransactionKey)
    (consistent : Consistent connection queues grants requests)
    (orderedMode : after.orderedMode = connection.orderedMode)
    (elsewhere : ∀ other, other ≠ key → after.transactions other = connection.transactions other)
    (items : ∀ queueType item, itemKey item ≠ key →
      (item ∈ queuesAfter queueType ↔ item ∈ queues queueType))
    (grantsSame : ∀ rsn, (⟨rsn, .initiator⟩ : TransactionKey) ≠ key → grantsAfter rsn = grants rsn)
    (requestsSame : ∀ rsn, (⟨rsn, .target⟩ : TransactionKey) ≠ key →
      requestsAfter rsn = requests rsn)
    (nodup : ∀ queueType, (queuesAfter queueType).Nodup)
    (here : ConsistentAt after queuesAfter grantsAfter requestsAfter key) :
    Consistent after queuesAfter grantsAfter requestsAfter := by
  refine ⟨nodup, fun other => ?_⟩
  by_cases same : other = key
  · rwa [same]
  refine consistent_at_congr (consistent.each other) orderedMode (elsewhere other same)
    (fun queueType type side => items queueType _ ?_) (fun side => grantsSame _ ?_)
    (fun side => requestsSame _ ?_)
  · rw [itemKey, side]
    exact same
  · rw [← side]
    exact same
  · rw [← side]
    exact same

/-- Connections that agree on everything the invariant speaks about. -/
theorem consistent_of_same (same : SameTransactions connection after)
    (consistent : Consistent connection queues grants requests) :
    Consistent after queues grants requests :=
  ⟨consistent.nodup, fun key => consistent_at_congr (consistent.each key) same.orderedMode
    (by rw [same.transactions]) (fun _ _ _ => Iff.rfl) (fun _ => rfl) (fun _ => rfl)⟩

/-- The transaction of an idle key may begin, change or end, and new work items for it join the
queues, as long as they fit its new state. -/
theorem consistent_of_change (consistent : Consistent connection queues grants requests)
    {value : Option TransactionMetadata} (added : PacketTypeQueue → List WorkId)
    (idle : Idle queues grants requests key)
    (orderedMode : after.orderedMode = connection.orderedMode)
    (transactions : after.transactions = Function.update connection.transactions key value)
    (joins : ∀ queueType item, item ∈ added queueType → itemKey item = key)
    (distinct : ∀ queueType, (added queueType).Nodup)
    (here : ConsistentAt after added grants requests key) :
    Consistent after (fun queueType => queues queueType ++ added queueType) grants requests := by
  refine consistent_of_local key consistent orderedMode (fun other different => by
      rw [transactions, Function.update_of_ne different]) (fun queueType item different => by
      rw [List.mem_append, or_iff_left]
      exact fun joined => different (joins queueType item joined))
    (fun _ _ => rfl) (fun _ _ => rfl) (fun queueType => ?_) ?_
  · refine (consistent.nodup queueType).append (distinct queueType) ?_
    intro item old joined
    exact idle.items queueType item old (joins queueType item joined)
  · refine consistent_at_congr here rfl rfl (fun queueType type side => ?_) (fun _ => rfl)
      (fun _ => rfl)
    rw [List.mem_append, or_iff_right]
    exact fun old => idle.items queueType _ old (by rw [itemKey, side])

/-- The transaction of an idle key may change or end, unless it becomes one whose data parks. -/
theorem consistent_of_update (consistent : Consistent connection queues grants requests)
    {value : Option TransactionMetadata} (idle : Idle queues grants requests key)
    (orderedMode : after.orderedMode = connection.orderedMode)
    (transactions : after.transactions = Function.update connection.transactions key value)
    (settled : key.location = .initiator → ∀ transaction, value = some transaction →
      transaction.state ≠ .pushSolicitedReqUlpRx ∧ transaction.state ≠ .pushReqNtwkTx) :
    Consistent after queues grants requests := by
  have changed := consistent_of_change consistent (fun _ => []) idle orderedMode transactions
    (by simp) (by simp) ⟨by simp, fun side transaction live state => by
      rw [transactions, Function.update_self] at live
      have apart := settled side transaction live
      rcases state with state | state
      · exact absurd state apart.1
      · exact absurd state apart.2,
      fun side pending => absurd (idle.grants side) pending,
      fun side pending => absurd (idle.requests side) pending, by simp⟩
  simpa using changed

/-- The reorder engine may call back for what it holds. -/
theorem consistent_of_fewer (consistent : Consistent connection queues grants requests)
    (grantsLe : ∀ rsn, grantsAfter rsn ≤ grants rsn)
    (requestsLe : ∀ rsn, requestsAfter rsn ≤ requests rsn) :
    Consistent connection queues grantsAfter requestsAfter := by
  refine ⟨consistent.nodup, fun key => ?_⟩
  obtain ⟨waiting, ungranted, granted, requested, phantoms⟩ := consistent.each key
  refine ⟨waiting, fun side transaction live state => ?_, fun side pending => ?_,
    fun side pending => ?_, phantoms⟩
  · obtain ⟨none_, parks⟩ := ungranted side transaction live state
    exact ⟨Nat.le_zero.1 (none_ ▸ grantsLe key.rsn), parks⟩
  · have before := grantsLe key.rsn
    obtain ⟨one, rest⟩ := granted side (by omega)
    exact ⟨by omega, rest⟩
  · have before := requestsLe key.rsn
    obtain ⟨one, rest⟩ := requested side (by omega)
    exact ⟨by omega, rest⟩

end Connection

/-! ## Submissions -/

theorem joining_key {ordered : Bool} {item joined : WorkId} {queueType : PacketTypeQueue}
    (joins : joined ∈ joining ordered item queueType) : itemKey joined = itemKey item := by
  simp only [joining, companion, List.mem_append] at joins
  rcases joins with own | brought
  · split at own <;> simp at own
    rw [own]
  · split at brought
    · rename_i unsolicited
      simp at brought
      subst brought
      simp [itemKey, itemLocation, unsolicited.2.1]
    · split at brought <;> simp at brought
      rename_i request
      subst brought
      simp [itemKey, itemLocation, request.2.1]

theorem joining_nodup (ordered : Bool) (item : WorkId) (queueType : PacketTypeQueue) :
    (joining ordered item queueType).Nodup := by
  simp only [joining, companion]
  split <;> split
  · rename_i own unsolicited
    rw [unsolicited.2.1, unsolicited.2.2] at own
    cases own
  · rename_i own _
    split
    · rename_i request
      rw [request.1, request.2.1, request.2.2] at own
      cases own
    · simp
  · simp
  · split <;> simp

/-- The packets of a new request, by the packet that is enqueued for it. -/
structure NewRequest (ordered : Bool) (type : PacketType) (transaction : TransactionMetadata) :
    Prop where
  request : type = .pullRequest ∨ type = .pushRequest ∨ type = .pushUnsolicitedData
  state : transaction.state = expectedState type
  own : ∃ packet, transaction.packets type = some packet ∧ packet.transmitAttempts = 0 ∧
    packet.isTransmissionEligible = !(ordered && type = .pushUnsolicitedData)
  data : type = .pushRequest → ∃ packet, transaction.packets .pushSolicitedData = some packet ∧
    packet.transmitAttempts = 0 ∧ packet.isTransmissionEligible = !ordered
  phantom : ordered = true → type = .pushUnsolicitedData → ∃ packet,
    transaction.packets .invalid = some packet ∧ packet.transmitAttempts = 0 ∧
      packet.isTransmissionEligible = true

theorem new_request_consistent {after : ConnectionState} {transaction : TransactionMetadata}
    {grants requests : UInt32 → Nat} (new : NewRequest (isOrdered after) type transaction)
    (live : after.transactions ⟨rsn, .initiator⟩ = some transaction) (none_ : grants rsn = 0) :
    ConsistentAt after (joining (isOrdered after) ⟨rsn, type⟩) grants requests
      ⟨rsn, .initiator⟩ := by
  obtain ⟨request, state, ⟨packet, present, unsent, eligible⟩, data, phantom⟩ := new
  constructor
  · intro queueType item joins at_
    simp only [joining, companion, List.mem_append] at joins
    rcases joins with own | brought
    · split at own <;> simp at own
      rename_i queue
      subst own
      refine ⟨?_, transaction, packet, by rw [at_]; exact live, present, ?_, unsent, ?_, ?_⟩
      · unfold BelongsIn
        rw [if_neg (by rcases request with rfl | rfl | rfl <;> simp)]
        exact queue
      · unfold waitingStates
        rw [if_neg (by rcases request with rfl | rfl | rfl <;> simp)]
        simp [state]
      · rw [eligible]
        simp only [Bool.not_eq_false', Bool.and_eq_true, decide_eq_true_eq]
        rintro ⟨ordered, unsolicited⟩
        exact ⟨ordered, .inr unsolicited⟩
      · rcases request with rfl | rfl | rfl <;> simp
    · split at brought
      · rename_i unsolicited
        simp at brought
        subst brought
        obtain ⟨ordered, rfl, rfl⟩ := unsolicited
        obtain ⟨marker, markerPresent, markerUnsent, markerEligible⟩ := phantom ordered rfl
        refine ⟨by simp [BelongsIn, ordered], transaction, marker, by rw [at_]; exact live,
          markerPresent, ?_, markerUnsent, ?_, ?_⟩
        · simp [waitingStates, state, expectedState]
        · simp [markerEligible]
        · simp [present]
      · split at brought <;> simp at brought
        rename_i push
        subst brought
        obtain ⟨ordered, rfl, rfl⟩ := push
        obtain ⟨payload, payloadPresent, payloadUnsent, payloadEligible⟩ := data rfl
        refine ⟨by simp [BelongsIn, Host.queueOf], transaction, payload, by rw [at_]; exact live,
          payloadPresent, ?_, payloadUnsent, ?_, ?_⟩
        · simp [waitingStates, state, expectedState, payloadEligible, ordered]
        · simp [ordered]
        · simp
  · intro side current found parks
    rw [live] at found
    cases found
    refine ⟨none_, ?_⟩
    rw [state] at parks
    have push : type = .pushRequest := by
      rcases request with rfl | rfl | rfl <;> simp [expectedState] at parks ⊢
    subst push
    obtain ⟨payload, payloadPresent, payloadUnsent, payloadEligible⟩ := data rfl
    refine ⟨payload, payloadPresent, payloadUnsent, payloadEligible, ?_⟩
    cases ordered : isOrdered after <;> simp [joining, companion, Host.queueOf]
  · intro side pending
    exact absurd none_ pending
  · intro side
    cases side
  · intro side current data queued found dataPresent dataEligible
    rw [live] at found
    cases found
    have unsolicited : type = .pushUnsolicitedData := by
      simp only [joining, companion, List.mem_append] at queued
      rcases queued with own | brought
      · split at own <;> simp at own
        exact own.symm
      · split at brought
        · simp at brought
        · split at brought <;> simp at brought
    subst unsolicited
    rw [present] at dataPresent
    cases dataPresent
    rw [dataEligible] at eligible
    have unordered : isOrdered after = false := by simpa using eligible
    simp [joining, companion, unordered]

theorem update_state_eq_ok {before after : TransactionMetadata} {stage : TransactionStage} :
    before.updateState type stage = .ok after ↔
      ∃ state, before.state.update type stage = .ok state ∧
        after = { before with state := state } := by
  unfold TransactionMetadata.updateState
  split <;> rename_i result
  · simp [result]
  · simp [result, eq_comm]

theorem expect_eq_ok {state next result : TransactionState} {allowed : List TransactionState} :
    state.expect allowed next = .ok result ↔ state ∈ allowed ∧ result = next := by
  unfold TransactionState.expect
  split <;> simp_all [eq_comm]

theorem create_packet_self (transaction : TransactionMetadata) (type : PacketType)
    (packet : PacketMetadata) : (transaction.createPacket type packet).packets type = some packet := by
  simp [TransactionMetadata.createPacket]

theorem create_packet_other (transaction : TransactionMetadata) {other : PacketType}
    (packet : PacketMetadata) (different : other ≠ type) :
    (transaction.createPacket type packet).packets other = transaction.packets other := by
  simp [TransactionMetadata.createPacket, different]

/-- The transaction of a submitted request. -/
structure Requested (connection : ConnectionState) (rsn : UInt32) (type : PacketType)
    (transaction : TransactionMetadata) (after : ConnectionState) : Prop where
  assigned : rsn = connection.nextRequestSequenceNumber
  new : NewRequest (isOrdered connection) type transaction
  orderedMode : after.orderedMode = connection.orderedMode
  nextRsn : after.nextRequestSequenceNumber = rsn + 1
  transactions : after.transactions =
    Function.update connection.transactions ⟨rsn, .initiator⟩ (some transaction)

/-- The transaction of a submitted response. -/
structure Responded (connection : ConnectionState) (rsn : UInt32)
    (old transaction : TransactionMetadata) (after : ConnectionState) : Prop where
  live : connection.transactions ⟨rsn, .target⟩ = some old
  before : old.state = .pullReqAckUlpRx
  state : transaction.state = .pullDataUlpRx
  type : transaction.type = old.type
  requestLength : transaction.requestLength = old.requestLength
  packet : ∃ packet, transaction.packets .pullData = some packet ∧ packet.transmitAttempts = 0 ∧
    packet.isTransmissionEligible = true
  orderedMode : after.orderedMode = connection.orderedMode
  nextRsn : after.nextRequestSequenceNumber = connection.nextRequestSequenceNumber
  transactions : after.transactions =
    Function.update connection.transactions ⟨rsn, .target⟩ (some transaction)

theorem create_from_ulp_spec {connection after : ConnectionState} {threshold : UInt32}
    {op : UlpOp}
    (done : createOrUpdateTransactionFromUlp connection threshold op = .ok (rsn, type, after)) :
    (∃ kind transaction, requestKind threshold op = some kind ∧
      (kind = .pull ↔ type = .pullRequest) ∧ (kind = .solicitedPush ↔ type = .pushRequest) ∧
      Requested connection rsn type transaction after) ∨
    (∃ old transaction, requestKind threshold op = none ∧ type = .pullData ∧
      Responded connection rsn old transaction after) := by
  cases op with
  | readRequest requestLength dataLength sglLength =>
    obtain ⟨transaction, moved, final⟩ := bind_eq_ok.1 done
    cases final
    obtain ⟨state, move, rfl⟩ := update_state_eq_ok.1 moved
    cases move
    refine .inl ⟨.pull, _, rfl, by simp, by simp, rfl, ?_, rfl, rfl, rfl⟩
    refine ⟨.inl rfl, rfl, ?_, by simp, by simp⟩
    simp [create_packet_self]
  | write requestLength dataLength sglLength =>
    obtain ⟨transaction, moved, final⟩ := bind_eq_ok.1 done
    obtain ⟨state, move, rfl⟩ := update_state_eq_ok.1 moved
    by_cases solicited : threshold ≤ requestLength
    · simp only [solicited, decide_true, if_true] at final move
      cases final
      cases move
      refine .inl ⟨.solicitedPush, _, by simp [requestKind, solicited], by simp, by simp,
        rfl, ?_, rfl, rfl, rfl⟩
      refine ⟨.inr (.inl rfl), rfl, ?_, fun _ => ?_, by simp⟩
      · simp [createPushPackets, create_packet_self]
      · simp [createPushPackets, create_packet_self, create_packet_other, isOrdered]
    · simp only [solicited, decide_false, Bool.false_eq_true, if_false] at final move
      cases final
      cases move
      refine .inl ⟨.unsolicitedPush, _, by simp [requestKind, solicited], by simp, by simp,
        rfl, ?_, rfl, rfl, rfl⟩
      by_cases ordered : connection.orderedMode = .ordered
      · refine ⟨.inr (.inr rfl), rfl, ?_, by simp, fun _ _ => ?_⟩
        · simp [createPushPackets, ordered, create_packet_self, isOrdered]
        · refine ⟨{}, ?_, rfl, rfl⟩
          simp [createPushPackets, ordered, create_packet_other, create_packet_self]
      · refine ⟨.inr (.inr rfl), rfl, ?_, by simp, by simp [isOrdered, ordered]⟩
        simp [createPushPackets, ordered, create_packet_self, isOrdered]
  | readResponse responseRsn dataLength sglLength =>
    obtain ⟨old, live, done⟩ := bind_eq_ok.1 done
    obtain ⟨transaction, moved, final⟩ := bind_eq_ok.1 done
    cases final
    obtain ⟨state, move, rfl⟩ := update_state_eq_ok.1 moved
    obtain ⟨before, rfl⟩ := expect_eq_ok.1 move
    refine .inr ⟨old, { old.createPacket .pullData
      { dataLength := dataLength, sglLength := sglLength } with state := .pullDataUlpRx },
      rfl, rfl, ?_⟩
    have found : connection.transactions ⟨rsn, .target⟩ = some old := by
      unfold ConnectionState.getTransaction at live
      split at live <;> simp_all
    exact ⟨found, by simpa [TransactionMetadata.createPacket] using before, rfl, rfl, rfl,
      ⟨_, create_packet_self old .pullData { dataLength := dataLength, sglLength := sglLength },
        rfl, rfl⟩, rfl, rfl, rfl⟩

/-! ## Transmissions -/

theorem belongs_in_unique {ordered : Bool} {first second : PacketTypeQueue}
    (one : BelongsIn ordered first type) (two : BelongsIn ordered second type) :
    first = second := by
  unfold BelongsIn at one two
  split at one
  · rename_i phantom
    rw [if_pos phantom] at two
    rw [one.2, two.2]
  · rename_i real
    rw [if_neg real, one] at two
    exact Except.ok.inj two

/-- Beside a packet that may be sent, only its companion can wait for the same transaction. -/
theorem waiting_beside {ordered : Bool} {item other : WorkId} {transaction : TransactionMetadata}
    {packet packetOther : PacketMetadata} {queueType queueOther : PacketTypeQueue}
    (queue : BelongsIn ordered queueType item.type)
    (waiting : WaitingPacket ordered item transaction packet)
    (eligible : packet.isTransmissionEligible = true) (real : item.type ≠ .invalid)
    (queueIs : BelongsIn ordered queueOther other.type)
    (waitingOther : WaitingPacket ordered other transaction packetOther) :
    other.type = item.type ∨
      (item.type = .pushRequest ∧ other.type = .pushSolicitedData ∧
        packetOther.isTransmissionEligible = false) ∨
      (item.type = .pushUnsolicitedData ∧ other.type = .invalid) := by
  have state := waiting.state
  have stateOther := waitingOther.state
  simp only [waitingStates, eligible, Bool.true_eq_false, and_false, if_false,
    List.mem_singleton] at state
  rw [state] at stateOther
  simp only [BelongsIn, if_neg real] at queue
  unfold waitingStates at stateOther
  cases parked : packetOther.isTransmissionEligible <;> cases type : item.type <;>
    cases typeOther : other.type <;> simp_all [expectedState, Host.queueOf, BelongsIn]

section Sending
variable {connection final : ConnectionState} {queues : PacketTypeQueue → List WorkId}
  {grants requests : UInt32 → Nat} {queueType : PacketTypeQueue} {item : WorkId}
  {rest : List WorkId} {key : TransactionKey} {transaction : TransactionMetadata}
  {packet : PacketMetadata}

theorem item_key_of_located
    (located : connection.lookupPacket item.rsn item.type = .ok (key, transaction, packet)) :
    key = itemKey item := by
  obtain ⟨⟨location, side, rfl⟩, -⟩ := lookup_packet_eq_ok.1 located
  rw [itemKey, TransactionKey.mk.injEq]
  refine ⟨rfl, ?_⟩
  cases type : item.type <;> rw [type] at side <;> cases side <;> rfl

/-- The transaction after the first transmission of its packet. -/
structure Moved (connection final : ConnectionState) (item : WorkId)
    (transaction moved : TransactionMetadata) : Prop where
  transactions : final.transactions =
    Function.update connection.transactions (itemKey item) (some moved)
  orderedMode : final.orderedMode = connection.orderedMode
  nextRsn : final.nextRequestSequenceNumber = connection.nextRequestSequenceNumber
  before : transaction.state = expectedState item.type
  step : transaction.state.update item.type .ntwkTx = .ok moved.state
  others : ∀ type, type ≠ item.type → moved.packets type = transaction.packets type
  type : moved.type = transaction.type
  requestLength : moved.requestLength = transaction.requestLength

theorem transmitted_moved
    (located : connection.lookupPacket item.rsn item.type = .ok (key, transaction, packet))
    (unsent : packet.transmitAttempts = 0) (before : transaction.state = expectedState item.type)
    (transmitted : Transmitted connection item key transaction packet final) :
    ∃ moved, Moved connection final item transaction moved := by
  obtain ⟨sent, moved, transactions, -, step⟩ := transmitted.transactions
  simp only [unsent, zero_add, decide_true, Host.transmittedTransaction, if_true] at step
  obtain ⟨state, move, rfl⟩ := update_state_eq_ok.1 step
  rw [item_key_of_located located] at transactions
  exact ⟨_, transactions, transmitted.orderedMode, transmitted.nextRsn, before, move,
    fun type different => create_packet_other transaction sent different, rfl, rfl⟩

/-- The items that stay behind when the head of a queue is sent. -/
theorem mem_update_rest (head : queues queueType = item :: rest) {otherType : PacketTypeQueue}
    {other : WorkId} :
    other ∈ Function.update queues queueType rest otherType → other ∈ queues otherType := by
  by_cases same : otherType = queueType
  · subst same
    rw [Function.update_self, head]
    exact List.mem_cons_of_mem item
  · rw [Function.update_of_ne same]
    exact id

theorem mem_update_of_ne (head : queues queueType = item :: rest) {otherType : PacketTypeQueue}
    {other : WorkId} (different : other ≠ item) :
    other ∈ Function.update queues queueType rest otherType ↔ other ∈ queues otherType := by
  by_cases same : otherType = queueType
  · subst same
    rw [Function.update_self, head, List.mem_cons, or_iff_right different]
  · rw [Function.update_of_ne same]

theorem nodup_update_rest (consistent : Consistent connection queues grants requests)
    (head : queues queueType = item :: rest) (otherType : PacketTypeQueue) :
    (Function.update queues queueType rest otherType).Nodup := by
  by_cases same : otherType = queueType
  · subst same
    rw [Function.update_self]
    have nodup := consistent.nodup otherType
    rw [head] at nodup
    exact nodup.of_cons
  · rw [Function.update_of_ne same]
    exact consistent.nodup otherType

theorem head_not_mem_rest (consistent : Consistent connection queues grants requests)
    (head : queues queueType = item :: rest) (otherType : PacketTypeQueue) :
    item ∉ Function.update queues queueType rest otherType := by
  intro member
  have own : item ∈ queues queueType := by rw [head]; exact List.mem_cons_self
  by_cases same : otherType = queueType
  · subst same
    rw [Function.update_self] at member
    have nodup := consistent.nodup otherType
    rw [head] at nodup
    exact (List.nodup_cons.1 nodup).1 member
  · rw [Function.update_of_ne same] at member
    exact same (belongs_in_unique ((consistent.each _).waiting otherType item member rfl).queue
      ((consistent.each _).waiting queueType item own rfl).queue)

/-- The head of a queue, with the packet and the transaction that it stands for. -/
theorem head_waiting (consistent : Consistent connection queues grants requests)
    (head : queues queueType = item :: rest)
    (located : connection.lookupPacket item.rsn item.type = .ok (key, transaction, packet)) :
    BelongsIn (isOrdered connection) queueType item.type ∧
      connection.transactions (itemKey item) = some transaction ∧
      WaitingPacket (isOrdered connection) item transaction packet := by
  obtain ⟨queue, current, waiting, live, spec⟩ :=
    (consistent.each _).waiting queueType item (by rw [head]; exact List.mem_cons_self) rfl
  have same := item_key_of_located located
  obtain ⟨-, liveAgain, present⟩ := lookup_packet_eq_ok.1 located
  rw [same, live] at liveAgain
  cases liveAgain
  have again := spec.present
  rw [present] at again
  cases again
  exact ⟨queue, live, spec⟩

theorem eligible_state {ordered : Bool} (waiting : WaitingPacket ordered item transaction packet)
    (eligible : packet.isTransmissionEligible = true) :
    transaction.state = expectedState item.type := by
  have state := waiting.state
  simpa [waitingStates, eligible] using state

/-- The next state of a transaction whose packet was sent. -/
def sentState : PacketType → TransactionState
  | .pullRequest => .pullReqNtwkTx
  | .pushRequest => .pushReqNtwkTx
  | .pushSolicitedData => .pushSolicitedDataNtwkTx
  | .pushGrant => .pushGrantNtwkTx
  | .pullData => .pullDataNtwkTx
  | _ => .pushUnsolicitedDataNtwkTx

theorem moved_state {moved : TransactionMetadata}
    (spec : Moved connection final item transaction moved) :
    moved.state = sentState item.type := by
  have step := spec.step
  rw [spec.before] at step
  cases type : item.type <;> rw [type] at step <;>
    simp_all [expectedState, TransactionState.update, TransactionState.expect, sentState]

/-- A packet that may be sent and is leaves its connection consistent. -/
theorem sent_consistent (consistent : Consistent connection queues grants requests)
    (head : queues queueType = item :: rest) (real : item.type ≠ .invalid)
    (located : connection.lookupPacket item.rsn item.type = .ok (key, transaction, packet))
    (eligible : packet.isTransmissionEligible = true)
    (transmitted : Transmitted connection item key transaction packet final) :
    Consistent final (Function.update queues queueType rest) grants requests := by
  obtain ⟨queue, live, waiting⟩ := head_waiting consistent head located
  obtain ⟨moved, spec⟩ :=
    transmitted_moved located waiting.unsent (eligible_state waiting eligible) transmitted
  have state := moved_state spec
  have finalLive : final.transactions (itemKey item) = some moved := by
    rw [spec.transactions, Function.update_self]
  have ordered : isOrdered final = isOrdered connection := by
    simp only [isOrdered, spec.orderedMode]
  have member : item ∈ queues queueType := by rw [head]; exact List.mem_cons_self
  have gone := head_not_mem_rest consistent head
  -- beside the packet that is sent, only its companion waits
  have beside : ∀ otherType other, other ∈ Function.update queues queueType rest otherType →
      itemKey other = itemKey item → ∃ packetOther,
        BelongsIn (isOrdered connection) otherType other.type ∧
        WaitingPacket (isOrdered connection) other transaction packetOther ∧
        ((item.type = .pushRequest ∧ other.type = .pushSolicitedData ∧
          packetOther.isTransmissionEligible = false) ∨
        (item.type = .pushUnsolicitedData ∧ other.type = .invalid)) := by
    intro otherType other stays same
    obtain ⟨queueOther, current, packetOther, liveOther, waitingOther⟩ :=
      (consistent.each _).waiting otherType other (mem_update_rest head stays) rfl
    rw [same, live] at liveOther
    cases liveOther
    refine ⟨packetOther, queueOther, waitingOther, ?_⟩
    rcases waiting_beside queue waiting eligible real queueOther waitingOther with type | rest
    · have equal : other = item := by
        cases other; cases item
        simp only [itemKey, TransactionKey.mk.injEq] at same
        simp_all
      exact absurd (equal ▸ stays) (gone otherType)
    · exact rest
  have noPhantom : item.type = .pushUnsolicitedData →
      (⟨item.rsn, .invalid⟩ : WorkId) ∉ queues .pullAndOrderedPushRequest := by
    intro type
    have inData : queueType = .pushData := by
      rw [type] at queue
      exact (Except.ok.inj queue).symm
    have phantoms := (consistent.each (itemKey item)).phantoms (by rw [itemKey, type]; rfl)
      transaction packet
    have present := waiting.present
    rw [type] at present
    refine phantoms ?_ live present eligible
    rw [inData] at member
    convert member using 1
    cases item
    simp_all [itemKey]
  refine consistent_of_local (itemKey item) consistent spec.orderedMode
    (fun other different => by rw [spec.transactions, Function.update_of_ne different])
    (fun otherType other different => mem_update_of_ne head fun equal => different (equal ▸ rfl))
    (fun _ _ => rfl) (fun _ _ => rfl) (nodup_update_rest consistent head) ?_
  constructor
  · intro otherType other stays same
    obtain ⟨packetOther, queueOther, waitingOther, companion⟩ := beside otherType other stays same
    rcases companion with ⟨request, data, parked⟩ | ⟨unsolicited, phantom⟩
    · refine ⟨by rwa [ordered], moved, packetOther, by rw [same, finalLive], ?_⟩
      refine ⟨?_, ?_, waitingOther.unsent, by rw [ordered]; exact waitingOther.parked, ?_⟩
      · rw [spec.others _ (by rw [data, request]; simp)]
        exact waitingOther.present
      · rw [state, request]
        simp [waitingStates, data, parked, sentState]
      · simp [data]
    · refine absurd ?_ (noPhantom unsolicited)
      have here := mem_update_rest head stays
      rw [phantom] at queueOther
      have inRequests : otherType = .pullAndOrderedPushRequest := by
        simp only [BelongsIn, if_true] at queueOther
        exact queueOther.2
      rw [inRequests] at here
      convert here using 1
      cases other; cases item
      simp_all [itemKey]
  · intro side current found early
    rw [finalLive] at found
    cases found
    have request : item.type = .pushRequest := by
      rw [state] at early
      cases type : item.type <;> simp [type, sentState] at early ⊢
    have before := spec.before
    rw [request] at before
    obtain ⟨none_, data, present, unsent, parks, queued⟩ :=
      (consistent.each _).ungranted side transaction live (.inl before)
    refine ⟨none_, data, ?_, unsent, by rw [ordered, parks], ?_⟩
    · rw [spec.others _ (by simp [request]), present]
    · rw [ordered, ← queued, mem_update_of_ne head]
      intro equal
      rw [← equal] at request
      cases request
  · intro side pending
    exfalso
    obtain ⟨-, current, liveAgain, granted, data, present, -, parks, queued⟩ :=
      (consistent.each _).granted side pending
    rw [live] at liveAgain
    cases liveAgain
    have type : item.type = .pushSolicitedData := by
      rw [spec.before] at granted
      cases type : item.type <;> simp [type, expectedState] at granted ⊢
    have again := waiting.present
    rw [type, present] at again
    cases again
    rw [eligible] at parks
    have inData : queueType = .pushData := by
      rw [type] at queue
      exact (Except.ok.inj queue).symm
    rw [inData] at member
    have itemIs : item = ⟨item.rsn, .pushSolicitedData⟩ := by rw [← type]
    rw [itemIs] at member
    have isOrd := queued.1 (by simpa [itemKey] using member)
    rw [isOrd] at parks
    cases parks
  · intro side pending
    exfalso
    obtain ⟨-, current, granting, liveAgain, requested, -, -, -, absent⟩ :=
      (consistent.each _).requested side pending
    rw [live] at liveAgain
    cases liveAgain
    have type : item.type = .pushGrant := by
      rw [spec.before] at requested
      cases type : item.type <;> simp [type, expectedState] at requested ⊢
    have inGrants : queueType = .pushGrant := by
      rw [type] at queue
      exact (Except.ok.inj queue).symm
    rw [inGrants] at member
    refine absent ?_
    convert member using 1
    cases item
    simp_all [itemKey]
  · intro side current data stays found present dataEligible
    obtain ⟨packetOther, -, -, companion⟩ := beside .pushData _ stays (by
      simp only [itemKey] at side ⊢
      rw [side]
      rfl)
    rcases companion with ⟨-, data, -⟩ | ⟨-, phantom⟩
    · cases data
    · cases phantom

/-- A packet that is sent again leaves its transaction in its state. -/
theorem transmitted_again
    (located : connection.lookupPacket item.rsn item.type = .ok (key, transaction, packet))
    (sent : packet.transmitAttempts ≠ 0)
    (transmitted : Transmitted connection item key transaction packet final) :
    ∃ again : PacketMetadata, final.transactions = Function.update connection.transactions
        (itemKey item) (some (transaction.createPacket item.type again)) ∧
      again.isTransmissionEligible = packet.isTransmissionEligible := by
  obtain ⟨again, moved, transactions, eligible, step⟩ := transmitted.transactions
  have more : packet.transmitAttempts + 1 ≠ 1 := by
    intro one
    exact sent (add_right_cancel (one.trans (zero_add 1).symm))
  rw [Host.transmittedTransaction, decide_eq_false more] at step
  cases step
  rw [item_key_of_located located] at transactions
  exact ⟨again, transactions, eligible⟩

/-- A packet that is sent again leaves its connection consistent. -/
theorem retransmitted_consistent (consistent : Consistent connection queues grants requests)
    (located : connection.lookupPacket item.rsn item.type = .ok (key, transaction, packet))
    (sent : packet.transmitAttempts ≠ 0)
    (transmitted : Transmitted connection item key transaction packet final) :
    Consistent final queues grants requests := by
  obtain ⟨again, transactions, -⟩ := transmitted_again located sent transmitted
  obtain ⟨-, live, present⟩ := lookup_packet_eq_ok.1 located
  rw [item_key_of_located located] at live
  have ordered : isOrdered final = isOrdered connection := by
    simp only [isOrdered, transmitted.orderedMode]
  have finalLive : final.transactions (itemKey item) =
      some (transaction.createPacket item.type again) := by
    rw [transactions, Function.update_self]
  -- whatever waits is another packet, for it has not been sent
  have apart : ∀ type packetOther, transaction.packets type = some packetOther →
      packetOther.transmitAttempts = 0 →
      (transaction.createPacket item.type again).packets type = some packetOther := by
    intro type packetOther presentOther unsent
    rw [create_packet_other _ _, presentOther]
    rintro rfl
    rw [present] at presentOther
    cases presentOther
    exact sent unsent
  refine consistent_of_local (itemKey item) consistent transmitted.orderedMode
    (fun other different => by rw [transactions, Function.update_of_ne different])
    (fun _ _ _ => Iff.rfl) (fun _ _ => rfl) (fun _ _ => rfl) consistent.nodup ?_
  constructor
  · intro otherType other member same
    obtain ⟨queueOther, current, packetOther, liveOther, waiting⟩ :=
      (consistent.each _).waiting otherType other member rfl
    rw [same, live] at liveOther
    cases liveOther
    refine ⟨by rwa [ordered], _, packetOther, by rw [same, finalLive], ?_⟩
    refine ⟨apart _ _ waiting.present waiting.unsent, waiting.state, waiting.unsent,
      by rw [ordered]; exact waiting.parked, fun phantom => ?_⟩
    by_cases data : item.type = .pushUnsolicitedData
    · rw [data, create_packet_self]
      rfl
    · rw [create_packet_other _ _ (Ne.symm data)]
      exact waiting.phantom phantom
  · intro side current found early
    rw [finalLive] at found
    cases found
    obtain ⟨none_, data, dataPresent, unsent, parks, queued⟩ :=
      (consistent.each _).ungranted side transaction live early
    exact ⟨none_, data, apart _ _ dataPresent unsent, unsent, by rw [ordered, parks],
      by rw [ordered, queued]⟩
  · intro side waits
    obtain ⟨one, current, liveAgain, state, data, dataPresent, unsent, parks, queued⟩ :=
      (consistent.each _).granted side waits
    rw [live] at liveAgain
    cases liveAgain
    exact ⟨one, _, finalLive, state, data, apart _ _ dataPresent unsent, unsent,
      by rw [ordered, parks], by rw [ordered, queued]⟩
  · intro side waits
    obtain ⟨one, current, grant, liveAgain, state, grantPresent, eligible, unsent, absent⟩ :=
      (consistent.each _).requested side waits
    rw [live] at liveAgain
    cases liveAgain
    exact ⟨one, _, grant, finalLive, state, apart _ _ grantPresent unsent, eligible, unsent, absent⟩
  · intro side current data member found dataPresent dataEligible
    rw [finalLive] at found
    cases found
    have keyIs : itemKey ⟨(itemKey item).rsn, .pushUnsolicitedData⟩ = itemKey item := by
      simp only [itemKey] at side ⊢
      rw [side]
      rfl
    obtain ⟨-, currentOther, packetOther, liveOther, waiting⟩ :=
      (consistent.each _).waiting .pushData _ member keyIs
    rw [keyIs, live] at liveOther
    cases liveOther
    have same := apart _ _ waiting.present waiting.unsent
    rw [dataPresent] at same
    cases same
    exact (consistent.each _).phantoms side transaction data member live waiting.present
      dataEligible

/-- A phantom request that is handled leaves its connection consistent. -/
theorem phantom_consistent (consistent : Consistent connection queues grants requests)
    (head : queues queueType = item :: rest) (phantom : item.type = .invalid)
    (located : connection.lookupPacket item.rsn .pushUnsolicitedData = .ok (key, transaction, packet)) :
    Consistent (connection.setTransaction key (transaction.createPacket .pushUnsolicitedData
      { packet with isTransmissionEligible := true }))
      (Function.update queues queueType rest) grants requests := by
  obtain ⟨⟨location, side, rfl⟩, live, present⟩ := lookup_packet_eq_ok.1 located
  obtain rfl : TransactionLocation.initiator = location := Except.ok.inj side
  have itemIs : item = ⟨item.rsn, .invalid⟩ := by rw [← phantom]
  have keyIs : itemKey item = ⟨item.rsn, .initiator⟩ := by rw [itemIs]; rfl
  have member : item ∈ queues queueType := by rw [head]; exact List.mem_cons_self
  have gone := head_not_mem_rest consistent head
  obtain ⟨queue, current, marker, liveAgain, waiting⟩ :=
    (consistent.each _).waiting queueType item member rfl
  rw [keyIs, live] at liveAgain
  cases liveAgain
  have state : transaction.state = .pushUnsolicitedReqUlpRx := by
    have state := waiting.state
    rw [phantom] at state
    simpa [waitingStates, expectedState] using state
  refine consistent_of_local ⟨item.rsn, .initiator⟩ consistent rfl
    (fun other different => by simp [ConnectionState.setTransaction, different])
    (fun otherType other different => mem_update_of_ne head fun equal => different (equal ▸ keyIs))
    (fun _ _ => rfl) (fun _ _ => rfl) (nodup_update_rest consistent head) ?_
  have finalLive : (connection.setTransaction ⟨item.rsn, .initiator⟩
      (transaction.createPacket .pushUnsolicitedData
        { packet with isTransmissionEligible := true })).transactions ⟨item.rsn, .initiator⟩ =
      some (transaction.createPacket .pushUnsolicitedData
        { packet with isTransmissionEligible := true }) := by
    simp [ConnectionState.setTransaction]
  constructor
  · intro otherType other stays same
    obtain ⟨queueOther, currentOther, packetOther, liveOther, waitingOther⟩ :=
      (consistent.each _).waiting otherType other (mem_update_rest head stays) rfl
    rw [same, live] at liveOther
    cases liveOther
    refine ⟨queueOther, ?_⟩
    rw [same]
    by_cases data : other.type = .pushUnsolicitedData
    · refine ⟨_, _, finalLive, by rw [data]; exact create_packet_self _ _ _, ?_, ?_, by simp, ?_⟩
      · simp [waitingStates, data, expectedState, TransactionMetadata.createPacket, state]
      · have again := waitingOther.present
        rw [data, present] at again
        cases again
        exact waitingOther.unsent
      · simp [data]
    · refine ⟨_, packetOther, finalLive, ?_, waitingOther.state, waitingOther.unsent,
        waitingOther.parked, fun _ => ?_⟩
      · rw [create_packet_other _ _ data]
        exact waitingOther.present
      · rw [create_packet_self]
        rfl
  · intro _ current found early
    rw [finalLive] at found
    cases found
    simp [TransactionMetadata.createPacket, state] at early
  · intro side pending
    exfalso
    obtain ⟨-, current, liveAgain, granted, -⟩ := (consistent.each _).granted side pending
    rw [live] at liveAgain
    cases liveAgain
    rw [state] at granted
    cases granted
  · intro side
    cases side
  · intro _ current data stays found present dataEligible
    rw [itemIs] at gone
    exact gone _

/-- The grant of an ordered push is passed on, and its queued data becomes eligible. -/
theorem granted_consistent (consistent : Consistent connection queues grants requests)
    (pending : grants rsn ≠ 0)
    (live : connection.transactions ⟨rsn, .initiator⟩ = some transaction)
    (present : transaction.packets .pushSolicitedData = some packet) {grantsAfter : UInt32 → Nat}
    (passed : grantsAfter = Function.update grants rsn (grants rsn - 1)) :
    Consistent (connection.setTransaction ⟨rsn, .initiator⟩
      (transaction.createPacket .pushSolicitedData { packet with isTransmissionEligible := true }))
      queues grantsAfter requests := by
  obtain ⟨one, current, liveAgain, state, data, dataPresent, unsent, parks, queued⟩ :=
    (consistent.each ⟨rsn, .initiator⟩).granted rfl pending
  rw [live] at liveAgain
  cases liveAgain
  rw [present] at dataPresent
  cases dataPresent
  refine consistent_of_local ⟨rsn, .initiator⟩ consistent rfl
    (fun other different => by simp [ConnectionState.setTransaction, different])
    (fun _ _ _ => Iff.rfl) (fun other different => ?_) (fun _ _ => rfl) consistent.nodup ?_
  · rw [passed, Function.update_of_ne (by rintro rfl; exact different rfl)]
  have finalLive : (connection.setTransaction ⟨rsn, .initiator⟩
      (transaction.createPacket .pushSolicitedData
        { packet with isTransmissionEligible := true })).transactions ⟨rsn, .initiator⟩ =
      some (transaction.createPacket .pushSolicitedData
        { packet with isTransmissionEligible := true }) := by
    simp [ConnectionState.setTransaction]
  have none_ : grantsAfter rsn = 0 := by
    rw [passed, Function.update_self, one]
  constructor
  · intro otherType other stays same
    obtain ⟨queueOther, currentOther, packetOther, liveOther, waitingOther⟩ :=
      (consistent.each _).waiting otherType other stays rfl
    rw [same, live] at liveOther
    cases liveOther
    have solicited : other.type = .pushSolicitedData := by
      have stateOther := waitingOther.state
      have side : itemLocation other.type = .initiator := congrArg TransactionKey.location same
      rw [state] at stateOther
      unfold waitingStates at stateOther
      split at stateOther
      · rename_i data
        exact data.1
      · cases type : other.type <;> simp [type, expectedState] at stateOther ⊢
    refine ⟨queueOther, ?_⟩
    rw [same]
    refine ⟨_, { packet with isTransmissionEligible := true }, finalLive, ?_, ?_, unsent,
      by simp, ?_⟩
    · rw [solicited, create_packet_self]
    · simp [waitingStates, expectedState, TransactionMetadata.createPacket, state, solicited]
    · simp [solicited]
  · intro _ current found early
    rw [finalLive] at found
    cases found
    simp [TransactionMetadata.createPacket, state] at early
  · intro _ pending
    exact absurd none_ pending
  · intro side
    cases side
  · intro _ current data' stays found present' dataEligible
    obtain ⟨_, currentOther, packetOther, liveOther, waitingOther⟩ :=
      (consistent.each _).waiting .pushData _ stays rfl
    have keyIs : itemKey ⟨rsn, .pushUnsolicitedData⟩ = ⟨rsn, .initiator⟩ := rfl
    rw [keyIs, live] at liveOther
    cases liveOther
    have stateOther := waitingOther.state
    simp [waitingStates, expectedState, state] at stateOther

/-- Items may join for a transaction that is idle and stays as it is. -/
theorem consistent_of_join (item : WorkId)
    (consistent : Consistent connection queues grants requests)
    (idle : Idle queues grants requests (itemKey item))
    (here : ConsistentAt connection (joining (isOrdered connection) item) grants requests
      (itemKey item)) :
    Consistent connection (fun otherType => queues otherType ++
      joining (isOrdered connection) item otherType) grants requests :=
  consistent_of_change consistent (joining (isOrdered connection) item) idle rfl
    (Function.update_eq_self (itemKey item) connection.transactions).symm (fun _ _ => joining_key)
    (joining_nodup (isOrdered connection) item) here

/-- A transaction whose next packet is a grant or solicited data has no other work item. -/
theorem idle_of_absent (consistent : Consistent connection queues grants requests)
    (live : connection.transactions (itemKey item) = some transaction)
    (state : transaction.state = expectedState item.type)
    (type : item.type = .pushGrant ∨ item.type = .pushSolicitedData)
    (queue : BelongsIn (isOrdered connection) queueType item.type)
    (absent : item ∉ queues queueType)
    (granted : (itemKey item).location = .initiator → grants item.rsn = 0)
    (requested : (itemKey item).location = .target → requests item.rsn = 0) :
    Idle queues grants requests (itemKey item) := by
  refine ⟨?_, granted, requested⟩
  rintro otherType other member same
  obtain ⟨queueOther, current, packetOther, liveOther, waiting⟩ :=
    (consistent.each _).waiting otherType other member rfl
  rw [same] at liveOther
  obtain rfl : transaction = current := Option.some.inj (live.symm.trans liveOther)
  have sameType : other.type = item.type := by
    have stateOther := waiting.state
    rw [state] at stateOther
    unfold waitingStates at stateOther
    split at stateOther
    · rename_i parked
      rcases type with grant | data
      · simp [grant, expectedState] at stateOther
      · rw [parked.1, data]
    · rcases type with grant | data
      · cases kind : other.type <;> simp [kind, grant, expectedState] at stateOther ⊢
      · cases kind : other.type <;> simp [kind, data, expectedState] at stateOther ⊢
  have sameItem : other = item := by
    cases other; cases item
    simp_all [itemKey]
  subst sameItem
  exact absent (belongs_in_unique queueOther queue ▸ member)

theorem update_pred_le (counts : UInt32 → Nat) (rsn other : UInt32) :
    Function.update counts rsn (counts rsn - 1) other ≤ counts other := by
  by_cases same : other = rsn
  · subst same
    simp
  · rw [Function.update_of_ne same]

/-- A push request is passed on, and its grant joins the queue. -/
theorem grant_joined_consistent (consistent : Consistent connection queues grants requests)
    (pending : requests rsn ≠ 0) {requestsAfter : UInt32 → Nat}
    (passed : requestsAfter = Function.update requests rsn (requests rsn - 1)) :
    Consistent connection (fun otherType => queues otherType ++
      joining (isOrdered connection) ⟨rsn, .pushGrant⟩ otherType) grants requestsAfter := by
  obtain ⟨one, transaction, packet, live, state, present, eligible, unsent, absent⟩ :=
    (consistent.each ⟨rsn, .target⟩).requested rfl pending
  have none_ : requestsAfter rsn = 0 := by rw [passed, Function.update_self, one]
  have fewer := consistent_of_fewer consistent (fun _ => le_refl _)
    fun other => passed ▸ update_pred_le requests rsn other
  have joined : ∀ otherType other,
      other ∈ joining (isOrdered connection) ⟨rsn, .pushGrant⟩ otherType ↔
        otherType = .pushGrant ∧ other = ⟨rsn, .pushGrant⟩ := by
    intro otherType other
    cases otherType <;> simp [joining, companion, Host.queueOf]
  refine consistent_of_join ⟨rsn, .pushGrant⟩ fewer (idle_of_absent fewer live state
    (.inl rfl) rfl absent (fun side => by cases side) (fun _ => none_)) ?_
  constructor
  · intro otherType other member _
    obtain ⟨rfl, rfl⟩ := (joined otherType other).1 member
    exact ⟨rfl, transaction, packet, live, present,
      by simp [waitingStates, state, expectedState], unsent, by simp [eligible], by simp⟩
  · intro side
    cases side
  · intro side
    cases side
  · intro _ pending
    exact absurd none_ pending
  · intro side
    cases side

/-- A grant is passed on, and on an unordered connection the data joins its queue. -/
theorem data_joined_consistent (consistent : Consistent connection queues grants requests)
    (unordered : isOrdered connection = false) (pending : grants rsn ≠ 0)
    {grantsAfter : UInt32 → Nat}
    (passed : grantsAfter = Function.update grants rsn (grants rsn - 1)) :
    Consistent connection (fun otherType => queues otherType ++
      joining (isOrdered connection) ⟨rsn, .pushSolicitedData⟩ otherType) grantsAfter requests := by
  obtain ⟨one, transaction, live, state, packet, present, unsent, eligible, queued⟩ :=
    (consistent.each ⟨rsn, .initiator⟩).granted rfl pending
  rw [unordered] at eligible queued
  have none_ : grantsAfter rsn = 0 := by rw [passed, Function.update_self, one]
  have fewer := consistent_of_fewer consistent
    (fun other => passed ▸ update_pred_le grants rsn other) fun _ => le_refl _
  have joined : ∀ otherType other,
      other ∈ joining (isOrdered connection) ⟨rsn, .pushSolicitedData⟩ otherType ↔
        otherType = .pushData ∧ other = ⟨rsn, .pushSolicitedData⟩ := by
    intro otherType other
    cases otherType <;> simp [joining, companion, Host.queueOf]
  refine consistent_of_join ⟨rsn, .pushSolicitedData⟩ fewer (idle_of_absent fewer live
    state (.inr rfl) rfl (fun member => by simpa using queued.1 member) (fun _ => none_)
    (fun side => by cases side)) ?_
  constructor
  · intro otherType other member _
    obtain ⟨rfl, rfl⟩ := (joined otherType other).1 member
    exact ⟨rfl, transaction, packet, live, present,
      by simp [waitingStates, state, expectedState, eligible], unsent, by simp [eligible], by simp⟩
  · intro _ current found early
    obtain rfl : transaction = current := Option.some.inj (live.symm.trans found)
    rcases early with early | early <;> rw [state] at early <;> cases early
  · intro _ pending
    exact absurd none_ pending
  · intro side
    cases side
  · intro _ current data member
    have type := ((joined _ _).1 member).2
    cases type

/-! ## Arrivals -/

theorem get_transaction_eq_ok {key : TransactionKey} {transaction : TransactionMetadata} :
    connection.getTransaction key = .ok transaction ↔
      connection.transactions key = some transaction := by
  unfold ConnectionState.getTransaction
  split <;> simp_all

/-- The transaction that an incoming packet begins or moves on. -/
structure Arrived (connection : ConnectionState) (packet : NetworkPacket)
    (location : TransactionLocation) (base transaction : TransactionMetadata)
    (after : ConnectionState) : Prop where
  side : getTransactionLocation packet.type true = .ok location
  emplaced : emplaceTransaction connection packet = .ok base
  step : base.state.update packet.type .ntwkRx = .ok transaction.state
  type : transaction.type = base.type
  requestLength : transaction.requestLength = base.requestLength
  others : ∀ type, type ≠ packet.type → transaction.packets type = base.packets type
  after : after = connection.setTransaction ⟨packet.rsn, location⟩ transaction

theorem create_from_network_spec {packet : NetworkPacket} {after : ConnectionState}
    (done : createOrUpdateTransactionFromNetwork connection packet = .ok after) :
    ∃ location base transaction, Arrived connection packet location base transaction after := by
  obtain ⟨base, emplaced, done⟩ := bind_eq_ok.1 done
  obtain ⟨location, side, done⟩ := bind_eq_ok.1 done
  obtain ⟨transaction, moved, done⟩ := bind_eq_ok.1 done
  obtain ⟨state, step, rfl⟩ := update_state_eq_ok.1 moved
  split at done
  · cases done
  · cases done
    refine ⟨location, base, { base.createPacket packet.type
      { payloadLength := packet.payloadLength } with state := state }, ?_⟩
    exact ⟨side, emplaced, step, rfl, rfl, fun type different => create_packet_other base _ different,
      rfl⟩

/-- A push request arrives, and goes to the reorder engine. -/
theorem request_arrived_consistent (consistent : Consistent connection queues grants requests)
    (unused : connection.transactions ⟨rsn, .target⟩ = none)
    (state : transaction.state = .pushReqNtwkRx)
    (present : transaction.packets .pushGrant = some {}) {requestsAfter : UInt32 → Nat}
    (arrived : requestsAfter = Function.update requests rsn (requests rsn + 1)) :
    Consistent (connection.setTransaction ⟨rsn, .target⟩ transaction) queues grants
      requestsAfter := by
  have idle : Idle queues grants requests ⟨rsn, .target⟩ :=
    idle_of_state consistent (by simp [unused])
  have one : requestsAfter rsn = 1 := by
    rw [arrived, Function.update_self, idle.requests rfl]
  refine consistent_of_local ⟨rsn, .target⟩ consistent rfl
    (fun other different => by simp [ConnectionState.setTransaction, different])
    (fun _ _ _ => Iff.rfl) (fun _ _ => rfl) (fun other different => ?_) consistent.nodup ?_
  · rw [arrived, Function.update_of_ne (by rintro rfl; exact different rfl)]
  constructor
  · intro otherType other member same
    exact absurd same (idle.items otherType other member)
  · intro side
    cases side
  · intro side
    cases side
  · intro _ _
    refine ⟨one, transaction, {}, by simp [ConnectionState.setTransaction], state, present, rfl,
      rfl, fun member => idle.items _ _ member rfl⟩
  · intro side
    cases side

/-- A grant arrives, and goes to the reorder engine. -/
theorem grant_arrived_consistent (consistent : Consistent connection queues grants requests)
    {old : TransactionMetadata} (live : connection.transactions ⟨rsn, .initiator⟩ = some old)
    (before : old.state = .pushReqNtwkTx) (state : transaction.state = .pushGrantNtwkRx)
    (others : ∀ type, type ≠ .pushGrant → transaction.packets type = old.packets type)
    {grantsAfter : UInt32 → Nat}
    (arrived : grantsAfter = Function.update grants rsn (grants rsn + 1)) :
    Consistent (connection.setTransaction ⟨rsn, .initiator⟩ transaction) queues grantsAfter
      requests := by
  obtain ⟨none_, packet, present, unsent, parks, queued⟩ :=
    (consistent.each ⟨rsn, .initiator⟩).ungranted rfl old live (.inr before)
  have one : grantsAfter rsn = 1 := by
    rw [arrived, Function.update_self, none_]
  refine consistent_of_local ⟨rsn, .initiator⟩ consistent rfl
    (fun other different => by simp [ConnectionState.setTransaction, different])
    (fun _ _ _ => Iff.rfl) (fun other different => ?_) (fun _ _ => rfl) consistent.nodup ?_
  · rw [arrived, Function.update_of_ne (by rintro rfl; exact different rfl)]
  have finalLive : (connection.setTransaction ⟨rsn, .initiator⟩ transaction).transactions
      ⟨rsn, .initiator⟩ = some transaction := by simp [ConnectionState.setTransaction]
  constructor
  · intro otherType other member same
    obtain ⟨queueOther, current, packetOther, liveOther, waiting⟩ :=
      (consistent.each _).waiting otherType other member rfl
    rw [same, live] at liveOther
    cases liveOther
    have stateOther := waiting.state
    rw [before] at stateOther
    unfold waitingStates at stateOther
    split at stateOther
    · rename_i parked
      refine ⟨queueOther, transaction, packetOther, by rw [same, finalLive], ?_⟩
      refine ⟨?_, ?_, waiting.unsent, waiting.parked, ?_⟩
      · rw [others _ (by simp [parked.1]), waiting.present]
      · simp [waitingStates, parked, state]
      · simp [parked.1]
    · cases type : other.type <;> simp [type, expectedState] at stateOther
  · intro _ current found early
    rw [finalLive] at found
    cases found
    rcases early with early | early <;> rw [state] at early <;> cases early
  · intro _ _
    exact ⟨one, transaction, finalLive, state, packet,
      by rw [others _ (by simp), present], unsent, parks, queued⟩
  · intro side
    cases side
  · intro _ current data member found dataPresent dataEligible
    obtain ⟨_, currentOther, packetOther, liveOther, waiting⟩ :=
      (consistent.each _).waiting .pushData _ member rfl
    have keyIs : itemKey ⟨rsn, .pushUnsolicitedData⟩ = ⟨rsn, .initiator⟩ := rfl
    rw [keyIs, live] at liveOther
    cases liveOther
    have stateOther := waiting.state
    simp [waitingStates, expectedState, before] at stateOther

end Sending

end Isekai.SchedulerTransactionProofs
