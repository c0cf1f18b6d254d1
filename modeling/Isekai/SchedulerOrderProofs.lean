import Isekai.SchedulerExecution
import Isekai.SchedulerRunProofs

/-! The order of first transmissions on an ordered connection. The request queue always holds
the last requests in the order of their submission, phantoms included, and the push data queue
the pushes whose data has not left; from this follows what had happened before each packet. -/

namespace Isekai.SchedulerOrderProofs
open FastConnectionScheduler SchedulerSystem SchedulerFrameProofs SchedulerTransactionProofs
  SchedulerEffects SchedulerRunProofs

variable {item : WorkId} {transaction : TransactionMetadata} {type : PacketType} {rsn : UInt32}
  {rest : List WorkId} {kind : RequestKind}

/-! ## Justified histories -/

/-- Packets that a host sends as the initiator of the request whose number they bear. -/
def initiates (type : PacketType) : Bool :=
  type = .pullRequest ∨ type = .pushRequest ∨ type = .pushSolicitedData ∨
    type = .pushUnsolicitedData

def isPushData (type : PacketType) : Bool :=
  type = .pushSolicitedData ∨ type = .pushUnsolicitedData

/-- The request packet that a request is sent with, if it has one of its own. -/
def requestPacket : RequestKind → Option PacketType
  | .pull => some .pullRequest
  | .solicitedPush => some .pushRequest
  | .unsolicitedPush => none

/-- What must have happened before an event of an ordered connection. -/
def Allowed (before : List Event) : Event → Prop
  | .requested number _ =>
    ∀ other type, initiates type = true → .transmitted other type ∈ before → other < number
  | .granted _ => True
  | .transmitted number type =>
    (type = .pushUnsolicitedData → ∀ other kind request, other < number →
      .requested other kind ∈ before → requestPacket kind = some request →
      .transmitted other request ∈ before) ∧
    (isPushData type = true → ∀ other sent, isPushData sent = true →
      .transmitted other sent ∈ before → other < number) ∧
    (type = .pushSolicitedData → .granted number ∈ before)

/-- Every event of the history came when it was allowed. -/
def Justified (events : List Event) : Prop :=
  ∀ before event after, events = before ++ event :: after → Allowed before event

theorem justified_append {events : List Event} {event : Event} (justified : Justified events)
    (allowed : Allowed events event) : Justified (events ++ [event]) := by
  intro before current after split
  rcases List.append_eq_append_iff.1 split with ⟨middle, rfl, rest⟩ | ⟨middle, rfl, rest⟩
  · cases middle with
    | nil =>
      obtain ⟨rfl, -⟩ := List.cons.inj rest
      simpa using allowed
    | cons head tail =>
      obtain ⟨-, none_⟩ := List.cons.inj rest
      simp at none_
  · cases middle with
    | nil =>
      obtain ⟨rfl, -⟩ := List.cons.inj rest
      simpa using allowed
    | cons head tail =>
      obtain ⟨rfl, -⟩ := List.cons.inj rest
      exact justified before current tail rfl

/-! ## The invariant -/

/-- The request that a work item of the initiator belongs to. -/
def kindOf : PacketType → RequestKind
  | .pullRequest => .pull
  | .pushRequest | .pushSolicitedData => .solicitedPush
  | _ => .unsolicitedPush

def numbers (history : History) (items : List WorkId) : List Nat :=
  items.map fun item => history.number item.rsn

/-- The invariant of an ordered connection, in terms of its history. -/
structure Ordering (connection : ConnectionState) (history : History)
    (queues : PacketTypeQueue → List WorkId) (grants : UInt32 → Nat) : Prop where
  justified : Justified history.events
  bounded : ∀ number kind, .requested number kind ∈ history.events → number < history.requests
  unique : ∀ number kind other, .requested number kind ∈ history.events →
    .requested number other ∈ history.events → kind = other
  sent : ∀ number type, initiates type = true → .transmitted number type ∈ history.events →
    number < history.requests
  next : UInt32.ofNat history.requests = connection.nextRequestSequenceNumber
  numbered : ∀ item, item ∈ queues .pullAndOrderedPushRequest ∨ item ∈ queues .pushData →
    UInt32.ofNat (history.number item.rsn) = item.rsn
  requests : ∃ done, done ≤ history.requests ∧
    numbers history (queues .pullAndOrderedPushRequest) =
      List.range' done (history.requests - done) ∧
    ∀ other kind request, other < done → .requested other kind ∈ history.events →
      requestPacket kind = some request → .transmitted other request ∈ history.events
  requestKinds : ∀ item ∈ queues .pullAndOrderedPushRequest,
    .requested (history.number item.rsn) (kindOf item.type) ∈ history.events
  data : (numbers history (queues .pushData)).Pairwise (· < ·)
  dataSent : ∀ number type, isPushData type = true → .transmitted number type ∈ history.events →
    ∀ item ∈ queues .pushData, number < history.number item.rsn
  dataKinds : ∀ item ∈ queues .pushData,
    .requested (history.number item.rsn) (kindOf item.type) ∈ history.events
  granted : ∀ rsn, grants rsn ≠ 0 → .granted (history.number rsn) ∈ history.events
  eligible : ∀ rsn transaction packet, ⟨rsn, .pushSolicitedData⟩ ∈ queues .pushData →
    connection.transactions ⟨rsn, .initiator⟩ = some transaction →
    transaction.packets .pushSolicitedData = some packet →
    packet.isTransmissionEligible = true → .granted (history.number rsn) ∈ history.events

/-- No solicited data became eligible. -/
def NoneReleased (before after : ConnectionState) : Prop :=
  ∀ rsn transaction packet, after.transactions ⟨rsn, .initiator⟩ = some transaction →
    transaction.packets .pushSolicitedData = some packet →
    packet.isTransmissionEligible = true →
    ∃ old oldPacket, before.transactions ⟨rsn, .initiator⟩ = some old ∧
      old.packets .pushSolicitedData = some oldPacket ∧ oldPacket.isTransmissionEligible = true

section Local
variable {connection final : ConnectionState} {history : History}
  {queues queuesAfter : PacketTypeQueue → List WorkId} {grants grantsAfter : UInt32 → Nat}

/-- A step that touches neither the request queue nor the push data. -/
theorem ordering_of_quiet (ordering : Ordering connection history queues grants)
    (nextRsn : final.nextRequestSequenceNumber = connection.nextRequestSequenceNumber)
    (requests : queuesAfter .pullAndOrderedPushRequest = queues .pullAndOrderedPushRequest)
    (data : queuesAfter .pushData = queues .pushData)
    (pending : ∀ rsn, grantsAfter rsn ≠ 0 → grants rsn ≠ 0)
    (released : NoneReleased connection final) :
    Ordering final history queuesAfter grantsAfter where
  justified := ordering.justified
  bounded := ordering.bounded
  unique := ordering.unique
  sent := ordering.sent
  next := by rw [ordering.next, nextRsn]
  numbered := by rw [requests, data]; exact ordering.numbered
  requests := by rw [requests]; exact ordering.requests
  requestKinds := by rw [requests]; exact ordering.requestKinds
  data := by rw [data]; exact ordering.data
  dataSent := by rw [data]; exact ordering.dataSent
  dataKinds := by rw [data]; exact ordering.dataKinds
  granted := fun rsn waits => ordering.granted rsn (pending rsn waits)
  eligible := by
    intro rsn transaction packet member live present eligible
    obtain ⟨old, oldPacket, was, had, could⟩ := released rsn transaction packet live present eligible
    rw [data] at member
    exact ordering.eligible rsn old oldPacket member was had could

theorem none_released_refl (connection : ConnectionState) : NoneReleased connection connection :=
  fun _ transaction packet live present eligible => ⟨transaction, packet, live, present, eligible⟩

/-- A transaction changes, and not the eligibility of its solicited data. -/
theorem none_released_of_change {key : TransactionKey} {value : Option TransactionMetadata}
    (transactions : final.transactions = Function.update connection.transactions key value)
    (kept : ∀ transaction packet, key.location = .initiator → value = some transaction →
      transaction.packets .pushSolicitedData = some packet →
      packet.isTransmissionEligible = true →
      ∃ old oldPacket, connection.transactions key = some old ∧
        old.packets .pushSolicitedData = some oldPacket ∧
        oldPacket.isTransmissionEligible = true) : NoneReleased connection final := by
  intro rsn transaction packet live present eligible
  by_cases same : (⟨rsn, .initiator⟩ : TransactionKey) = key
  · subst same
    rw [transactions, Function.update_self] at live
    exact kept transaction packet rfl live present eligible
  · rw [transactions, Function.update_of_ne same] at live
    exact ⟨transaction, packet, live, present, eligible⟩

/-- A grant arrives. -/
theorem ordering_of_grant (ordering : Ordering connection history queues grants)
    (nextRsn : final.nextRequestSequenceNumber = connection.nextRequestSequenceNumber)
    (arrived : grantsAfter = Function.update grants rsn (grants rsn + 1))
    (released : NoneReleased connection final) :
    Ordering final (history.record (.granted (history.number rsn))) queues grantsAfter where
  justified := justified_append ordering.justified trivial
  bounded := by
    intro number kind member
    simp only [History.record, List.mem_append, List.mem_singleton, reduceCtorEq, or_false] at member
    exact ordering.bounded number kind member
  unique := by
    intro number kind other one two
    simp only [History.record, List.mem_append, List.mem_singleton, reduceCtorEq, or_false]
      at one two
    exact ordering.unique number kind other one two
  sent := by
    intro number type own member
    simp only [History.record, List.mem_append, List.mem_singleton, reduceCtorEq, or_false] at member
    exact ordering.sent number type own member
  next := by rw [nextRsn]; exact ordering.next
  numbered := ordering.numbered
  requests := by
    obtain ⟨done, within, range, before⟩ := ordering.requests
    refine ⟨done, within, range, fun other kind request less member isRequest => ?_⟩
    simp only [History.record, List.mem_append, List.mem_singleton, reduceCtorEq, or_false]
      at member ⊢
    exact before other kind request less member isRequest
  requestKinds := fun item member => List.mem_append_left _ (ordering.requestKinds item member)
  data := ordering.data
  dataSent := by
    intro number type isData member
    simp only [History.record, List.mem_append, List.mem_singleton, reduceCtorEq, or_false] at member
    exact ordering.dataSent number type isData member
  dataKinds := fun item member => List.mem_append_left _ (ordering.dataKinds item member)
  granted := by
    intro other waits
    by_cases same : other = rsn
    · subst same
      simp [History.record]
    · rw [arrived, Function.update_of_ne same] at waits
      exact List.mem_append_left _ (ordering.granted other waits)
  eligible := by
    intro other transaction packet member live present eligible
    obtain ⟨old, oldPacket, was, had, could⟩ := released other transaction packet live present eligible
    exact List.mem_append_left _ (ordering.eligible other old oldPacket member was had could)

/-- A grant is passed on, and its data becomes eligible. -/
theorem ordering_of_release (ordering : Ordering connection history queues grants)
    {packet : PacketMetadata} (waits : grants rsn ≠ 0)
    (passed : grantsAfter = Function.update grants rsn (grants rsn - 1)) :
    Ordering (connection.setTransaction ⟨rsn, .initiator⟩
      (transaction.createPacket .pushSolicitedData packet)) history queues grantsAfter where
  justified := ordering.justified
  bounded := ordering.bounded
  unique := ordering.unique
  sent := ordering.sent
  next := ordering.next
  numbered := ordering.numbered
  requests := ordering.requests
  requestKinds := ordering.requestKinds
  data := ordering.data
  dataSent := ordering.dataSent
  dataKinds := ordering.dataKinds
  granted := by
    intro other still
    by_cases same : other = rsn
    · subst same
      exact ordering.granted other waits
    · rw [passed, Function.update_of_ne same] at still
      exact ordering.granted other still
  eligible := by
    intro other current data member live present eligible
    by_cases same : other = rsn
    · subst same
      exact ordering.granted other waits
    · have different : (⟨other, .initiator⟩ : TransactionKey) ≠ ⟨rsn, .initiator⟩ := by
        simp [same]
      simp only [ConnectionState.setTransaction, Function.update_of_ne different] at live
      exact ordering.eligible other current data member live present eligible

/-- The events of a history after a transmission. -/
theorem mem_record_transmitted {number : Nat} {event : Event}
    (other : ∀ sent, event ≠ .transmitted number sent) :
    event ∈ (history.record (.transmitted number type)).events ↔ event ∈ history.events := by
  simp [History.record, other]

theorem numbers_cons (history : History) (item : WorkId) (rest : List WorkId) :
    numbers history (item :: rest) = history.number item.rsn :: numbers history rest := rfl

/-- The head of the request queue is the first request that is not done. -/
theorem request_head (ordering : Ordering connection history queues grants)
    (head : queues .pullAndOrderedPushRequest = item :: rest) :
    history.number item.rsn < history.requests ∧
      numbers history rest = List.range' (history.number item.rsn + 1)
        (history.requests - (history.number item.rsn + 1)) ∧
      ∀ other kind request, other < history.number item.rsn →
        .requested other kind ∈ history.events → requestPacket kind = some request →
        .transmitted other request ∈ history.events := by
  obtain ⟨done, within, range, before⟩ := ordering.requests
  rw [head, numbers_cons] at range
  have more : history.requests - done ≠ 0 := by
    intro none_
    rw [none_] at range
    cases range
  obtain ⟨count, countIs⟩ := Nat.exists_eq_succ_of_ne_zero more
  rw [countIs, Nat.succ_eq_add_one, List.range'_succ] at range
  obtain ⟨isDone, restIs⟩ := List.cons.inj range
  rw [isDone]
  refine ⟨by omega, ?_, before⟩
  rw [restIs]
  congr 1
  omega

/-- The head of the request queue leaves: a phantom, or a request that is sent. -/
theorem requests_of_pop (ordering : Ordering connection history queues grants)
    (head : queues .pullAndOrderedPushRequest = item :: rest) (events : List Event)
    (grown : ∀ event ∈ history.events, event ∈ events)
    (sent : ∀ request, requestPacket (kindOf item.type) = some request →
      .transmitted (history.number item.rsn) request ∈ events) :
    ∃ done, done ≤ history.requests ∧
      numbers history rest = List.range' done (history.requests - done) ∧
      ∀ other kind request, other < done → .requested other kind ∈ history.events →
        requestPacket kind = some request → .transmitted other request ∈ events := by
  obtain ⟨less, range, before⟩ := request_head ordering head
  refine ⟨history.number item.rsn + 1, less, range, fun other kind request earlier member is => ?_⟩
  by_cases same : other = history.number item.rsn
  · subst same
    have own := ordering.requestKinds item (by rw [head]; exact List.mem_cons_self)
    obtain rfl := ordering.unique _ _ _ member own
    exact sent request is
  · exact grown _ (before other kind request (by omega) member is)

/-- The items of the request queue of an ordered connection. -/
theorem request_queue_types (queue : BelongsIn true .pullAndOrderedPushRequest type) :
    type = .pullRequest ∨ type = .pushRequest ∨ type = .invalid := by
  unfold BelongsIn at queue
  cases type <;> simp_all [Host.queueOf]

theorem data_queue_types (queue : BelongsIn true .pushData type) :
    type = .pushSolicitedData ∨ type = .pushUnsolicitedData := by
  unfold BelongsIn at queue
  cases type <;> simp_all [Host.queueOf]

/-- When the phantom of an unsolicited push is gone, all earlier requests have been sent. -/
theorem requests_before (ordering : Ordering connection history queues grants)
    (types : ∀ item ∈ queues .pullAndOrderedPushRequest,
      BelongsIn true .pullAndOrderedPushRequest item.type) (member : item ∈ queues .pushData)
    (type : item.type = .pushUnsolicitedData)
    (handled : (⟨item.rsn, .invalid⟩ : WorkId) ∉ queues .pullAndOrderedPushRequest) {other : Nat}
    {request : PacketType} (less : other < history.number item.rsn)
    (asked : .requested other kind ∈ history.events) (is : requestPacket kind = some request) :
    .transmitted other request ∈ history.events := by
  obtain ⟨done, within, range, before⟩ := ordering.requests
  refine before other kind request (lt_of_lt_of_le less ?_) asked is
  by_contra waiting
  have own := ordering.dataKinds item member
  have bounded := ordering.bounded _ _ own
  have listed : history.number item.rsn ∈
      numbers history (queues .pullAndOrderedPushRequest) := by
    rw [range, List.mem_range'_1]
    omega
  obtain ⟨holder, held, same⟩ := List.mem_map.1 listed
  have sameRsn : holder.rsn = item.rsn := by
    rw [← ordering.numbered holder (.inl held), ← ordering.numbered item (.inr member), same]
  have kinds := ordering.requestKinds holder held
  rw [same] at kinds
  have sameKind := ordering.unique _ _ _ kinds own
  rw [type] at sameKind
  have phantom : holder.type = .invalid := by
    rcases request_queue_types (types holder held) with pull | push | phantom
    · rw [pull] at sameKind
      cases sameKind
    · rw [push] at sameKind
      cases sameKind
    · exact phantom
  refine handled ?_
  rw [← sameRsn, ← phantom]
  exact held

/-- What is asked of a packet that leaves. -/
structure Leaving (history : History) (queues : PacketTypeQueue → List WorkId) (item : WorkId) :
    Prop where
  unsolicited : item.type = .pushUnsolicitedData →
    (⟨item.rsn, .invalid⟩ : WorkId) ∉ queues .pullAndOrderedPushRequest
  solicited : item.type = .pushSolicitedData →
    .granted (history.number item.rsn) ∈ history.events

theorem leaving_allowed (ordering : Ordering connection history queues grants)
    (types : ∀ item ∈ queues .pullAndOrderedPushRequest,
      BelongsIn true .pullAndOrderedPushRequest item.type) {queueType : PacketTypeQueue}
    (head : queues queueType = item :: rest) (queue : BelongsIn true queueType item.type)
    (leaving : Leaving history queues item) :
    Allowed history.events (.transmitted (history.number item.rsn) item.type) := by
  have member : item ∈ queues queueType := by rw [head]; exact List.mem_cons_self
  have inData : isPushData item.type = true → item ∈ queues .pushData := by
    intro data
    have isData : queueType = .pushData := by
      simp only [isPushData, decide_eq_true_eq] at data
      rcases data with type | type <;> rw [type] at queue <;>
        exact (Except.ok.inj queue).symm
    rwa [isData] at member
  refine ⟨fun unsolicited other kind request less asked is => ?_,
    fun data other sent isData before => ?_, leaving.solicited⟩
  · exact requests_before ordering types (inData (by simp [isPushData, unsolicited])) unsolicited
      (leaving.unsolicited unsolicited) less asked is
  · exact ordering.dataSent other sent isData before item (inData data)

/-- A packet leaves the head of its queue. -/
theorem ordering_of_sent (ordering : Ordering connection history queues grants)
    (types : ∀ item ∈ queues .pullAndOrderedPushRequest,
      BelongsIn true .pullAndOrderedPushRequest item.type) {queueType : PacketTypeQueue}
    (head : queues queueType = item :: rest) (queue : BelongsIn true queueType item.type)
    (real : item.type ≠ .invalid) (leaving : Leaving history queues item)
    (nextRsn : final.nextRequestSequenceNumber = connection.nextRequestSequenceNumber)
    (released : NoneReleased connection final) :
    Ordering final (history.record (.transmitted (history.number item.rsn) item.type))
      (Function.update queues queueType rest) grants := by
  have member : item ∈ queues queueType := by rw [head]; exact List.mem_cons_self
  have stays : ∀ otherType other, other ∈ Function.update queues queueType rest otherType →
      other ∈ queues otherType := fun _ _ => mem_update_rest head
  have asked : ∀ number kind, .requested number kind ∈
      (history.record (.transmitted (history.number item.rsn) item.type)).events ↔
      .requested number kind ∈ history.events :=
    fun _ _ => mem_record_transmitted (by simp)
  have ownKind : initiates item.type = true →
      .requested (history.number item.rsn) (kindOf item.type) ∈ history.events := by
    intro own
    simp only [initiates, decide_eq_true_eq] at own
    rcases own with type | type | type | type <;> rw [type] at queue <;>
      obtain rfl : _ = queueType := Except.ok.inj queue
    · exact ordering.requestKinds item member
    · exact ordering.requestKinds item member
    · exact ordering.dataKinds item member
    · exact ordering.dataKinds item member
  constructor
  · exact justified_append ordering.justified (leaving_allowed ordering types head queue leaving)
  · exact fun number kind one => ordering.bounded number kind ((asked _ _).1 one)
  · exact fun number kind other one two =>
      ordering.unique number kind other ((asked _ _).1 one) ((asked _ _).1 two)
  · intro number type own one
    rcases List.mem_append.1 one with old | new
    · exact ordering.sent number type own old
    · obtain ⟨rfl, rfl⟩ := by simpa using new
      exact ordering.bounded _ _ (ownKind own)
  · rw [nextRsn]
    exact ordering.next
  · intro other one
    exact ordering.numbered other (one.imp (stays _ _) (stays _ _))
  · by_cases isRequests : queueType = .pullAndOrderedPushRequest
    · subst isRequests
      rw [Function.update_self]
      have popped := requests_of_pop ordering head
        (history.record (.transmitted (history.number item.rsn) item.type)).events
        (fun event old => List.mem_append_left _ old) ?_
      · obtain ⟨done, within, range, before⟩ := popped
        exact ⟨done, within, range, fun other kind request less one is =>
          before other kind request less ((asked _ _).1 one) is⟩
      · intro request is
        have type : item.type = request := by
          rcases request_queue_types queue with type | type | type
          · rw [type] at is ⊢
            exact Option.some.inj is
          · rw [type] at is ⊢
            exact Option.some.inj is
          · exact absurd type real
        rw [type]
        simp [History.record]
    · obtain ⟨done, within, range, before⟩ := ordering.requests
      rw [Function.update_of_ne (Ne.symm isRequests)]
      exact ⟨done, within, range, fun other kind request less one is =>
        List.mem_append_left _ (before other kind request less ((asked _ _).1 one) is)⟩
  · exact fun other one => List.mem_append_left _ (ordering.requestKinds other (stays _ _ one))
  · by_cases isData : queueType = .pushData
    · subst isData
      rw [Function.update_self]
      have sorted := ordering.data
      rw [head, numbers_cons] at sorted
      exact sorted.of_cons
    · rw [Function.update_of_ne (Ne.symm isData)]
      exact ordering.data
  · intro number type isData one other held
    rcases List.mem_append.1 one with old | new
    · exact ordering.dataSent number type isData old other (stays _ _ held)
    · obtain ⟨rfl, rfl⟩ := by simpa using new
      have inData : queueType = .pushData := by
        simp only [isPushData, decide_eq_true_eq] at isData
        rcases isData with type | type <;> rw [type] at queue <;>
          exact (Except.ok.inj queue).symm
      subst inData
      rw [Function.update_self] at held
      have sorted := ordering.data
      rw [head, numbers_cons] at sorted
      exact (List.pairwise_cons.1 sorted).1 _ (List.mem_map_of_mem held)
  · exact fun other one => List.mem_append_left _ (ordering.dataKinds other (stays _ _ one))
  · exact fun rsn waits => List.mem_append_left _ (ordering.granted rsn waits)
  · intro rsn transaction packet one live present eligible
    obtain ⟨old, oldPacket, was, had, could⟩ := released rsn transaction packet live present eligible
    exact List.mem_append_left _ (ordering.eligible rsn old oldPacket (stays _ _ one) was had could)

/-- A phantom leaves the head of the request queue. -/
theorem ordering_of_phantom (ordering : Ordering connection history queues grants)
    {queueType : PacketTypeQueue} (head : queues queueType = item :: rest)
    (queue : queueType = .pullAndOrderedPushRequest) (phantom : item.type = .invalid)
    (nextRsn : final.nextRequestSequenceNumber = connection.nextRequestSequenceNumber)
    (released : NoneReleased connection final) :
    Ordering final history (Function.update queues queueType rest) grants := by
  subst queue
  have stays : ∀ otherType other,
      other ∈ Function.update queues .pullAndOrderedPushRequest rest otherType →
      other ∈ queues otherType := fun _ _ => mem_update_rest head
  have data : Function.update queues .pullAndOrderedPushRequest rest .pushData =
      queues .pushData := Function.update_of_ne (by simp) _ _
  constructor
  · exact ordering.justified
  · exact ordering.bounded
  · exact ordering.unique
  · exact ordering.sent
  · rw [nextRsn]
    exact ordering.next
  · exact fun other one => ordering.numbered other (one.imp (stays _ _) (stays _ _))
  · rw [Function.update_self]
    exact requests_of_pop ordering head _ (fun _ old => old) (by simp [phantom, kindOf, requestPacket])
  · exact fun other one => ordering.requestKinds other (stays _ _ one)
  · rw [data]
    exact ordering.data
  · rw [data]
    exact ordering.dataSent
  · rw [data]
    exact ordering.dataKinds
  · exact ordering.granted
  · intro rsn transaction packet one live present eligible
    obtain ⟨old, oldPacket, was, had, could⟩ := released rsn transaction packet live present eligible
    exact ordering.eligible rsn old oldPacket (stays _ _ one) was had could

/-- The work items of a new request on an ordered connection. -/
theorem joining_request (rsn : UInt32)
    (request : type = .pullRequest ∨ type = .pushRequest ∨ type = .pushUnsolicitedData)
    (pull : kind = .pull ↔ type = .pullRequest)
    (solicited : kind = .solicitedPush ↔ type = .pushRequest) :
    (∃ own, joining true ⟨rsn, type⟩ .pullAndOrderedPushRequest = [⟨rsn, own⟩] ∧
      kindOf own = kind) ∧
    (joining true ⟨rsn, type⟩ .pushData = [] ∨
      ∃ data, joining true ⟨rsn, type⟩ .pushData = [⟨rsn, data⟩] ∧ kindOf data = kind ∧
        (data = .pushSolicitedData → type = .pushRequest)) := by
  rcases request with rfl | rfl | rfl
  · obtain rfl := pull.2 rfl
    exact ⟨⟨.pullRequest, by simp [joining, companion, Host.queueOf], rfl⟩,
      .inl (by simp [joining, companion, Host.queueOf])⟩
  · obtain rfl := solicited.2 rfl
    exact ⟨⟨.pushRequest, by simp [joining, companion, Host.queueOf], rfl⟩,
      .inr ⟨.pushSolicitedData, by simp [joining, companion, Host.queueOf], rfl, fun _ => rfl⟩⟩
  · have unsolicited : kind = .unsolicitedPush := by
      cases kind <;> simp_all
    subst unsolicited
    exact ⟨⟨.invalid, by simp [joining, companion, Host.queueOf], rfl⟩,
      .inr ⟨.pushUnsolicitedData, by simp [joining, companion, Host.queueOf], rfl, by simp⟩⟩

theorem numbers_submit {items : List WorkId} (absent : ∀ item ∈ items, item.rsn ≠ rsn) :
    numbers (history.submit rsn (some kind)) items = numbers history items := by
  refine List.map_congr_left fun item member => ?_
  simp [History.submit, absent item member]

/-- A request is submitted. -/
theorem ordering_of_request (ordering : Ordering connection history queues grants)
    (pull : kind = .pull ↔ type = .pullRequest)
    (solicited : kind = .solicitedPush ↔ type = .pushRequest)
    (spec : Requested connection rsn type transaction final)
    (ordered : isOrdered connection = true)
    (idle : ∀ queueType item, item ∈ queues queueType → itemKey item ≠ ⟨rsn, .initiator⟩)
    (initiator : ∀ item, item ∈ queues .pullAndOrderedPushRequest ∨ item ∈ queues .pushData →
      itemLocation item.type = .initiator) (none_ : grants rsn = 0) :
    Ordering final (history.submit rsn (some kind))
      (fun queueType => queues queueType ++ joining true ⟨rsn, type⟩ queueType) grants := by
  have fresh : ∀ item, item ∈ queues .pullAndOrderedPushRequest ∨ item ∈ queues .pushData →
      item.rsn ≠ rsn := by
    intro item member same
    have key : itemKey item = ⟨rsn, .initiator⟩ := by
      rw [itemKey, same, initiator item member]
    exact member.elim (fun one => idle _ item one key) (fun one => idle _ item one key)
  have numberOld : ∀ item, item ∈ queues .pullAndOrderedPushRequest ∨ item ∈ queues .pushData →
      (history.submit rsn (some kind)).number item.rsn = history.number item.rsn := by
    intro item member
    simp [History.submit, fresh item member]
  have numberNew : (history.submit rsn (some kind)).number rsn = history.requests := by
    simp [History.submit]
  obtain ⟨⟨own, ownIs, ownKind⟩, dataIs⟩ := joining_request rsn spec.new.request pull
    solicited
  have asked : ∀ number other, .requested number other ∈ (history.submit rsn (some kind)).events ↔
      .requested number other ∈ history.events ∨ (number = history.requests ∧ other = kind) := by
    simp [History.submit]
  have elsewhere : ∀ event, (∀ number other, event ≠ .requested number other) →
      (event ∈ (history.submit rsn (some kind)).events ↔ event ∈ history.events) := by
    intro event different
    simp [History.submit, different]
  have last : .requested history.requests kind ∈ (history.submit rsn (some kind)).events :=
    (asked _ _).2 (.inr ⟨rfl, rfl⟩)
  have requestsIs : (history.submit rsn (some kind)).requests = history.requests + 1 := rfl
  -- an item is an old one, or belongs to the new request
  have cases_ : ∀ item, item ∈ queues .pullAndOrderedPushRequest ++
        joining true ⟨rsn, type⟩ .pullAndOrderedPushRequest ∨
      item ∈ queues .pushData ++ joining true ⟨rsn, type⟩ .pushData →
      (item ∈ queues .pullAndOrderedPushRequest ∨ item ∈ queues .pushData) ∨
        (item.rsn = rsn ∧ kindOf item.type = kind) := by
    intro item member
    rw [ownIs] at member
    rcases member with member | member
    · rcases List.mem_append.1 member with old | new
      · exact .inl (.inl old)
      · rw [List.mem_singleton] at new
        exact .inr (by rw [new]; exact ⟨rfl, ownKind⟩)
    · rcases List.mem_append.1 member with old | new
      · exact .inl (.inr old)
      · rcases dataIs with none_ | ⟨data, dataIs, dataKind, -⟩
        · rw [none_] at new
          cases new
        · rw [dataIs, List.mem_singleton] at new
          exact .inr (by rw [new]; exact ⟨rfl, dataKind⟩)
  have numbersData : numbers (history.submit rsn (some kind)) (queues .pushData) =
      numbers history (queues .pushData) := numbers_submit fun item one => fresh item (.inr one)
  constructor
  · exact justified_append ordering.justified fun other sent own one =>
      ordering.sent other sent own one
  · intro number other one
    rw [requestsIs]
    rcases (asked _ _).1 one with old | ⟨rfl, -⟩
    · exact Nat.lt_succ_of_lt (ordering.bounded number other old)
    · exact Nat.lt_succ_self _
  · intro number first second one two
    rcases (asked _ _).1 one with old | ⟨rfl, rfl⟩
    · rcases (asked _ _).1 two with again | ⟨rfl, rfl⟩
      · exact ordering.unique number first second old again
      · exact absurd (ordering.bounded _ _ old) (lt_irrefl _)
    · rcases (asked _ _).1 two with again | ⟨-, rfl⟩
      · exact absurd (ordering.bounded _ _ again) (lt_irrefl _)
      · rfl
  · intro number sent own one
    rw [requestsIs]
    exact Nat.lt_succ_of_lt (ordering.sent number sent own ((elsewhere _ (by simp)).1 one))
  · rw [requestsIs, spec.nextRsn, spec.assigned, ← ordering.next]
    exact UInt32.ofNat_add history.requests 1
  · intro item member
    rcases cases_ item member with old | ⟨same, -⟩
    · rw [numberOld item old]
      exact ordering.numbered item old
    · rw [same, numberNew, ordering.next, spec.assigned]
  · obtain ⟨done, within, range, before⟩ := ordering.requests
    refine ⟨done, by omega, ?_, fun other asker request less one is => ?_⟩
    · have old : numbers (history.submit rsn (some kind)) (queues .pullAndOrderedPushRequest) =
          List.range' done (history.requests - done) :=
        (numbers_submit fun item one => fresh item (.inl one)).trans range
      have more : history.requests + 1 - done = history.requests - done + 1 := by omega
      have end_ : done + 1 * (history.requests - done) = history.requests := by omega
      rw [requestsIs, more, List.range'_concat, end_, ← old, ownIs, numbers, List.map_append]
      simp [numbers, numberNew]
    · rcases (asked _ _).1 one with old | ⟨rfl, -⟩
      · exact (elsewhere _ (by simp)).2 (before other asker request less old is)
      · omega
  · intro item member
    rcases cases_ item (.inl member) with old | ⟨same, sameKind⟩
    · rw [numberOld item old]
      have inQueue : item ∈ queues .pullAndOrderedPushRequest := by
        rcases List.mem_append.1 member with old | new
        · exact old
        · rw [ownIs, List.mem_singleton] at new
          exact absurd (by rw [new]) (fresh item old)
      exact (asked _ _).2 (.inl (ordering.requestKinds item inQueue))
    · rw [same, numberNew, sameKind]
      exact last
  · rcases dataIs with none_ | ⟨data, dataIs, -, -⟩
    · rw [none_, List.append_nil, numbersData]
      exact ordering.data
    · rw [dataIs, numbers, List.map_append]
      refine List.pairwise_append.2 ⟨?_, List.pairwise_singleton _ _, ?_⟩
      · have sorted := ordering.data
        rw [← numbersData] at sorted
        exact sorted
      · intro first member second new
        simp only [List.map_cons, List.map_nil, List.mem_singleton, numberNew] at new
        obtain ⟨item, one, rfl⟩ := List.mem_map.1 member
        rw [new, numberOld item (.inr one)]
        exact ordering.bounded _ _ (ordering.dataKinds item one)
  · intro number sent isData one item member
    have before := (elsewhere _ (by simp)).1 one
    rcases List.mem_append.1 member with old | new
    · rw [numberOld item (.inr old)]
      exact ordering.dataSent number sent isData before item old
    · have own : initiates sent = true := by
        simp only [isPushData, initiates, decide_eq_true_eq] at isData ⊢
        exact .inr (.inr isData)
      have same : item.rsn = rsn := by
        rcases dataIs with none_ | ⟨data, dataIs, -, -⟩
        · rw [none_] at new
          cases new
        · rw [dataIs, List.mem_singleton] at new
          rw [new]
      rw [same, numberNew]
      exact ordering.sent number sent own before
  · intro item member
    rcases List.mem_append.1 member with old | new
    · rw [numberOld item (.inr old)]
      exact (asked _ _).2 (.inl (ordering.dataKinds item old))
    · rcases dataIs with none_ | ⟨data, dataIs, dataKind, -⟩
      · rw [none_] at new
        cases new
      · rw [dataIs, List.mem_singleton] at new
        rw [new, numberNew, dataKind]
        exact last
  · intro other waits
    have different : other ≠ rsn := by
      rintro rfl
      exact waits none_
    rw [elsewhere _ (by simp)]
    simpa [History.submit, different] using ordering.granted other waits
  · intro other current packet member live present eligible
    rw [elsewhere _ (by simp)]
    rcases List.mem_append.1 member with old | new
    · have different : other ≠ rsn := fresh _ (.inr old)
      have key : (⟨other, .initiator⟩ : TransactionKey) ≠ ⟨rsn, .initiator⟩ := by
        simp [different]
      rw [spec.transactions, Function.update_of_ne key] at live
      simpa [History.submit, different] using
        ordering.eligible other current packet old live present eligible
    · rcases dataIs with none_ | ⟨data, dataIs, -, push⟩
      · rw [none_] at new
        cases new
      · rw [dataIs, List.mem_singleton] at new
        obtain ⟨rfl, rfl⟩ := WorkId.mk.inj new
        rw [spec.transactions, Function.update_self] at live
        cases live
        obtain ⟨parked, parkedPresent, -, parks⟩ := spec.new.data (push rfl)
        rw [present] at parkedPresent
        cases parkedPresent
        rw [eligible, ordered] at parks
        cases parks

end Local

/-! ## One step -/

section Released
variable {connection final : ConnectionState} {key : TransactionKey}

theorem progress_packets {old : TransactionMetadata} {location : TransactionLocation}
    {value : Option TransactionMetadata} {refunded : Bool}
    (progress : Progress old location value refunded) (is : value = some transaction) :
    transaction.packets = old.packets := by
  cases progress with
  | handed data step | refused step | accepted pull step => cases is; rfl
  | pushed push step | pulled step | completed step => cases is
  | acked side step =>
    split at is
    · cases is
    · cases is
      rfl

theorem transmitted_released {packet : PacketMetadata}
    (located : connection.lookupPacket item.rsn item.type = .ok (key, transaction, packet))
    (transmitted : Transmitted connection item key transaction packet final) :
    NoneReleased connection final := by
  obtain ⟨sent, moved, transactions, sameEligible, step⟩ := transmitted.transactions
  obtain ⟨-, live, present⟩ := lookup_packet_eq_ok.1 located
  have packets : moved.packets = (transaction.createPacket item.type sent).packets := by
    unfold Host.transmittedTransaction at step
    split at step
    · obtain ⟨state, -, rfl⟩ := update_state_eq_ok.1 step
      rfl
    · cases step
      rfl
  refine none_released_of_change transactions fun current data side is has eligible => ?_
  cases is
  rw [packets] at has
  by_cases solicited : item.type = .pushSolicitedData
  · rw [solicited, create_packet_self] at has
    cases has
    rw [solicited] at present
    exact ⟨transaction, packet, live, present, sameEligible ▸ eligible⟩
  · rw [create_packet_other _ _ (Ne.symm solicited)] at has
    exact ⟨transaction, data, live, has, eligible⟩

theorem arrived_released {packet : NetworkPacket} {location : TransactionLocation}
    {base : TransactionMetadata}
    (arrived : Arrived connection packet location base transaction final) :
    NoneReleased connection final := by
  obtain ⟨side, emplaced, step, sameType, length, others, rfl⟩ := arrived
  refine none_released_of_change rfl fun current data initiator is has eligible => ?_
  cases is
  obtain ⟨type, rsn, requestLength, payloadLength⟩ := packet
  dsimp only at *
  subst initiator
  cases type with
  | pullData | pushGrant =>
    rw [others _ (by simp)] at has
    exact ⟨base, data, get_transaction_eq_ok.1 emplaced, has, eligible⟩
  | _ => cases side

theorem phantom_released {packet changed : PacketMetadata}
    (located : connection.lookupPacket rsn .pushUnsolicitedData = .ok (key, transaction, packet)) :
    NoneReleased connection (connection.setTransaction key
      (transaction.createPacket .pushUnsolicitedData changed)) := by
  obtain ⟨-, live, present⟩ := lookup_packet_eq_ok.1 located
  refine none_released_of_change rfl fun current data side is has eligible => ?_
  cases is
  rw [create_packet_other _ _ (by simp)] at has
  exact ⟨transaction, data, live, has, eligible⟩

end Released

/-- The invariant of a host's histories. -/
structure Ordered (system : System) : Prop where
  fresh : ∀ scid, system.host.connections scid = none → system.history scid = {}
  each : ∀ scid connection, system.host.connections scid = some connection →
    isOrdered connection = true → Ordering connection (system.history scid)
      (system.host.scheduler.queue scid) (pending system scid .pushGrant)

section Step
variable {before after : System}

theorem ordered_of_local (orderings : Ordered before) {scid : UInt32} {final : ConnectionState}
    (only : OnlyAt before after scid final)
    (elsewhere : ∀ other, other ≠ scid → after.history other = before.history other)
    (here : isOrdered final = true → Ordering final (after.history scid)
      (after.host.scheduler.queue scid) (pending after scid .pushGrant)) : Ordered after := by
  constructor
  · intro other unknown
    by_cases same : other = scid
    · subst same
      rw [only.connections, Function.update_self] at unknown
      cases unknown
    · rw [only.connections, Function.update_of_ne same] at unknown
      rw [elsewhere other same, orderings.fresh other unknown]
  · intro other connection live
    by_cases same : other = scid
    · subst same
      rw [only.connections, Function.update_self] at live
      cases live
      exact here
    · rw [only.connections, Function.update_of_ne same] at live
      have grants : pending after other .pushGrant = pending before other .pushGrant := by
        funext rsn
        exact only.counts other same rsn .pushGrant (.inr rfl)
      rw [elsewhere other same, only.queues other same, grants]
      exact orderings.each other connection live

theorem history_elsewhere {history : UInt32 → History} {scid other : UInt32} {changed : History}
    (different : other ≠ scid) : Function.update history scid changed other = history other :=
  Function.update_of_ne different _ _

theorem initiator_of_queue {connection : ConnectionState} {queues : PacketTypeQueue → List WorkId}
    {grants requests : UInt32 → Nat} (consistent : Consistent connection queues grants requests)
    (ordered : isOrdered connection = true)
    (member : item ∈ queues .pullAndOrderedPushRequest ∨ item ∈ queues .pushData) :
    itemLocation item.type = .initiator := by
  rcases member with one | one
  · have queue := ((consistent.each _).waiting _ item one rfl).queue
    rw [ordered] at queue
    rcases request_queue_types queue with type | type | type <;> rw [type] <;> rfl
  · have queue := ((consistent.each _).waiting _ item one rfl).queue
    rw [ordered] at queue
    rcases data_queue_types queue with type | type <;> rw [type] <;> rfl

theorem ordering_empty {connection : ConnectionState} {queues : PacketTypeQueue → List WorkId}
    {grants : UInt32 → Nat} (nextRsn : connection.nextRequestSequenceNumber = 0)
    (empty : ∀ queueType, queues queueType = []) (none_ : ∀ rsn, grants rsn = 0) :
    Ordering connection {} queues grants where
  justified := by
    intro earlier event later split
    simp at split
  bounded := by simp
  unique := by simp
  sent := by simp
  next := by rw [nextRsn]; rfl
  numbered := by simp [empty]
  requests := ⟨0, le_refl 0, by simp [empty, numbers], by simp⟩
  requestKinds := by simp [empty]
  data := by simp [empty, numbers]
  dataSent := by simp
  dataKinds := by simp [empty]
  granted := fun rsn waits => absurd (none_ rsn) waits
  eligible := by simp [empty]

/-- Every step keeps the histories of ordered connections in order. -/
theorem ordered_step (consistent : SystemConsistent before) (orderings : Ordered before)
    (effect : Effect before after) : Ordered after := by
  cases effect with
  | quiet connections packets admission threshold network inserted history =>
    constructor
    · intro scid unknown
      have related := connections scid
      rw [unknown] at related
      rw [history, orderings.fresh scid (by
        generalize before.host.connections scid = old at related
        cases related
        rfl)]
    · intro scid connection live ordered
      have related := connections scid
      rw [live] at related
      obtain ⟨old, was, same⟩ := rel_some related
      have before := orderings.each scid old was (by rwa [isOrdered, ← same.orderedMode])
      rw [history, packets.queue, pending_of_inserted inserted]
      refine ordering_of_quiet before same.nextRsn rfl rfl (fun _ => id) ?_
      intro rsn transaction packet live present eligible
      rw [same.transactions] at live
      exact ⟨transaction, packet, live, present, eligible⟩
  | connected spec inserted history =>
    refine ordered_of_local orderings (connected_only_at spec inserted)
      (fun _ _ => by rw [history]) fun _ => ?_
    rw [history, orderings.fresh _ spec.fresh]
    refine ordering_empty spec.nextRsn (fun queueType => ?_) fun rsn => ?_
    · simp [Scheduler.queue, spec.queues]
    · rw [pending, inserted, List.count_eq_zero]
      intro member
      have known := consistent.inserted _ member
      rw [spec.fresh] at known
      cases known
  | requested found unused pull solicited spec enqueued inserted history =>
    rename_i scid rsn connection final kind type transaction
    refine ordered_of_local orderings (enqueued_only_at enqueued inserted)
      (fun other different => by rw [history, history_elsewhere different]) fun ordered => ?_
    have same : isOrdered final = isOrdered connection := by
      simp only [isOrdered, spec.orderedMode]
    have each := consistent.each scid connection found
    have idle : Idle (before.host.scheduler.queue scid) (pending before scid .pushGrant)
        (pending before scid .pushRequest) ⟨rsn, .initiator⟩ :=
      idle_of_state each (by simp [unused])
    rw [history, Function.update_self, pending_of_inserted inserted, queue_of_enqueued enqueued,
      ordered]
    rw [same] at ordered
    exact ordering_of_request (orderings.each scid connection found ordered) pull solicited spec
      ordered idle.items (fun item member => initiator_of_queue each ordered member)
      (idle.grants rfl)
  | responded found spec enqueued inserted history =>
    rename_i scid rsn connection final old transaction
    refine ordered_of_local orderings (enqueued_only_at enqueued inserted)
      (fun _ _ => by rw [history]) fun ordered => ?_
    have same : isOrdered final = isOrdered connection := by
      simp only [isOrdered, spec.orderedMode]
    rw [history, pending_of_inserted inserted, queue_of_enqueued enqueued]
    refine ordering_of_quiet (orderings.each scid connection found (same ▸ ordered)) spec.nextRsn
      ?_ ?_ (fun _ => id) (none_released_of_change spec.transactions fun _ _ side => by cases side)
    · simp [joining, companion, Host.queueOf, Host.setConnection]
    · simp [joining, companion, Host.queueOf, Host.setConnection]
  | received spec inserted history =>
    rename_i scid packet connection location base transaction
    obtain ⟨final, arrived, connections⟩ := spec.arrived
    have released := arrived_released arrived
    have afterIs := arrived.after
    refine ordered_of_local orderings (received_only_at consistent spec connections inserted)
      (fun other different => ?_) fun ordered => ?_
    · rw [history]
      split
      · exact history_elsewhere different
      · rfl
    · rw [afterIs] at ordered
      have ordering := orderings.each scid connection spec.found ordered
      have nextRsn : final.nextRequestSequenceNumber = connection.nextRequestSequenceNumber := by
        rw [afterIs]
        rfl
      rw [history, spec.scheduler]
      by_cases grant : packet.type = .pushGrant
      · rw [if_pos grant, Function.update_self]
        rw [grant] at inserted
        exact ordering_of_grant ordering nextRsn (pending_append_self inserted) released
      · rw [if_neg grant, pending_append _ inserted (.inr (Ne.symm grant))]
        exact ordering_of_quiet ordering nextRsn rfl rfl (fun _ => id) released
  | progressed spec inserted history =>
    rename_i scid connection key old value refunded
    refine ordered_of_local orderings (progressed_only_at consistent spec inserted)
      (fun _ _ => by rw [history]) fun ordered => ?_
    have grants : pending after scid .pushGrant = pending before scid .pushGrant :=
      funext fun rsn => inserted.count scid rsn .pushGrant (.inr rfl)
    rw [history, spec.scheduler, grants]
    refine ordering_of_quiet (orderings.each scid connection spec.found ordered) rfl rfl rfl
      (fun _ => id) (none_released_of_change rfl fun transaction packet _ is has eligible => ?_)
    rw [progress_packets spec.progress is] at has
    exact ⟨old, packet, spec.live, has, eligible⟩
  | answered due answer open_ enqueued inserted history =>
    rename_i scid rsn type next connection
    refine ordered_of_local orderings (answered_only_at enqueued inserted)
      (fun _ _ => by rw [history]) fun ordered => ?_
    have grant : type = .pushRequest ∧ next = .pushGrant := by
      cases type <;> simp [getNextFalconPacket] at answer
      · exact ⟨rfl, answer.symm⟩
      · rw [isOrdered, decide_eq_true_eq] at ordered
        exact absurd ⟨ordered, answer.symm⟩ open_
    obtain ⟨rfl, rfl⟩ := grant
    rw [history, queue_of_enqueued enqueued,
      pending_erase_other .pushGrant inserted (.inr (by simp))]
    refine ordering_of_quiet (orderings.each scid connection enqueued.found ordered) rfl ?_ ?_
      (fun _ => id) (none_released_refl connection)
    · simp [joining, companion, Host.queueOf]
    · simp [joining, companion, Host.queueOf]
  | madeEligible due ordered located spec inserted history =>
    rename_i scid rsn connection key transaction packet
    obtain ⟨⟨location, side, rfl⟩, live, present⟩ := lookup_packet_eq_ok.1 located
    obtain rfl : TransactionLocation.initiator = location := Except.ok.inj side
    refine ordered_of_local orderings (made_eligible_only_at consistent spec inserted)
      (fun _ _ => by rw [history]) fun isOrd => ?_
    rw [history, spec.packets.queue]
    exact ordering_of_release (orderings.each scid connection spec.found isOrd)
      (List.count_pos_iff.2 due).ne' (pending_erase_self scid rsn .pushGrant inserted)
  | retransmitted spec inserted history =>
    rename_i scid connection final item key transaction packet
    refine ordered_of_local orderings (retransmitted_only_at consistent spec inserted)
      (fun _ _ => by rw [history]) fun ordered => ?_
    rw [isOrdered, spec.transmitted.orderedMode] at ordered
    rw [history, pending_of_inserted inserted, spec.packets.queue]
    exact ordering_of_quiet (orderings.each scid connection spec.found ordered)
      spec.transmitted.nextRsn rfl rfl (fun _ => id)
      (transmitted_released spec.located spec.transmitted)
  | sent spec inserted history =>
    rename_i scid queueType item connection final key transaction packet rest
    refine ordered_of_local orderings (popped_only_at spec.connections spec.packets inserted)
      (fun other different => by rw [history, history_elsewhere different]) fun ordered => ?_
    rw [isOrdered, spec.transmitted.orderedMode] at ordered
    have each := consistent.each scid connection spec.found
    have ordering := orderings.each scid connection spec.found ordered
    obtain ⟨queue, live, waiting⟩ := head_waiting each spec.head spec.located
    have queueIs : BelongsIn true queueType item.type := by
      have isTrue : isOrdered connection = true := ordered
      rwa [isTrue] at queue
    have member : item ∈ before.host.scheduler.queue scid queueType := by
      rw [spec.head]
      exact List.mem_cons_self
    rw [history, Function.update_self, pending_of_inserted inserted, queue_of_packets spec.packets]
    refine ordering_of_sent ordering (fun other one => ?_) spec.head queueIs spec.real ?_
      spec.transmitted.nextRsn (transmitted_released spec.located spec.transmitted)
    · have queueOther := ((each.each _).waiting _ other one rfl).queue
      have isTrue : isOrdered connection = true := ordered
      rwa [isTrue] at queueOther
    · have inData : isPushData item.type = true →
          (⟨item.rsn, item.type⟩ : WorkId) ∈ before.host.scheduler.queue scid .pushData := by
        intro data
        have isData : queueType = .pushData := by
          simp only [isPushData, decide_eq_true_eq] at data
          rcases data with type | type <;> rw [type] at queueIs <;>
            exact (Except.ok.inj queueIs).symm
        rw [isData] at member
        exact member
      have present := waiting.present
      constructor
      · intro unsolicited
        rw [unsolicited] at present inData
        have keyIs : itemKey item = ⟨item.rsn, .initiator⟩ := by rw [itemKey, unsolicited]; rfl
        rw [keyIs] at live
        exact (each.each ⟨item.rsn, .initiator⟩).phantoms rfl transaction packet
          (inData rfl) live present spec.eligible
      · intro solicited
        rw [solicited] at present inData
        have keyIs : itemKey item = ⟨item.rsn, .initiator⟩ := by rw [itemKey, solicited]; rfl
        rw [keyIs] at live
        exact ordering.eligible item.rsn transaction packet (inData rfl) live present spec.eligible
  | phantom spec inserted history =>
    rename_i scid queueType item connection key transaction packet rest
    refine ordered_of_local orderings (popped_only_at spec.connections spec.packets inserted)
      (fun _ _ => by rw [history]) fun ordered => ?_
    have each := consistent.each scid connection spec.found
    have member : item ∈ before.host.scheduler.queue scid queueType := by
      rw [spec.head]
      exact List.mem_cons_self
    have queue := ((each.each _).waiting _ item member rfl).queue
    rw [spec.phantom] at queue
    rw [history, pending_of_inserted inserted, queue_of_packets spec.packets]
    exact ordering_of_phantom (orderings.each scid connection spec.found ordered) spec.head queue.2
      spec.phantom rfl (phantom_released spec.located)

end Step

theorem ordered_initial {system : System} (initial : Initial system) : Ordered system := by
  constructor
  · intro scid _
    rw [initial.history]
  · intro scid connection live
    rw [initial.connections] at live
    cases live

theorem reachable_ordered {system : System} (reachable : Reachable system) : Ordered system := by
  apply Runs.invariant_of_reachable_with (fun _ => reachable_consistent) _ _ reachable
  · exact fun _ initial => ordered_initial initial
  · exact fun _ _ consistent orderings step =>
      ordered_step consistent orderings (step_effect step)

/-! ## First transmissions -/

/-- What had happened on a connection before a packet was first sent. RSN order is the order in
which the requests were submitted, whose number is `number`. -/
structure SentInOrder (events before : List Event) (number : Nat) (type : PacketType) : Prop where
  requests : type = .pushUnsolicitedData → ∀ other kind request, other < number →
    .requested other kind ∈ events → requestPacket kind = some request →
    .transmitted other request ∈ before
  data : isPushData type = true → ∀ other sent, isPushData sent = true →
    .transmitted other sent ∈ before → other < number
  granted : type = .pushSolicitedData → .granted number ∈ before

/-- A request with a smaller number was submitted earlier. -/
theorem requested_before {events before after : List Event} {number other : Nat}
    (justified : Justified events) (own : initiates type = true)
    (split : events = before ++ .transmitted number type :: after) (less : other < number)
    (asked : .requested other kind ∈ events) : .requested other kind ∈ before := by
  rw [split, List.mem_append] at asked
  rcases asked with early | late
  · exact early
  exfalso
  rcases List.mem_cons.1 late with same | late
  · cases same
  obtain ⟨middle, rest, afterIs⟩ := List.append_of_mem late
  have again : events = (before ++ .transmitted number type :: middle) ++
      .requested other kind :: rest := by
    rw [split, afterIs]
    simp
  have allowed := justified _ _ _ again number type own (by simp)
  omega

/-- On an ordered connection of a reachable host, whatever was first sent was sent in order:
unsolicited data after all earlier requests, push data in RSN order, and solicited data after
its grant. -/
theorem first_transmissions_ordered {system : System} (reachable : Reachable system)
    {scid : UInt32} {connection : ConnectionState}
    (found : system.host.connections scid = some connection)
    (ordered : connection.orderedMode = .ordered) {before after : List Event} {number : Nat}
    {type : PacketType}
    (split : (system.history scid).events = before ++ .transmitted number type :: after) :
    SentInOrder (system.history scid).events before number type := by
  have ordering := (reachable_ordered reachable).each scid connection found
    (by rw [isOrdered, decide_eq_true_eq, ordered])
  obtain ⟨requests, data, granted⟩ := ordering.justified _ _ _ split
  refine ⟨fun unsolicited other kind request less asked is => ?_, data, granted⟩
  refine requests unsolicited other kind request less ?_ is
  exact requested_before ordering.justified (by simp [initiates, unsolicited]) split less asked

/-- A read, an unsolicited write and a solicited write on an ordered connection, which leave one
after the other. -/
def mixedCommands : List SchedulerExecution.Command :=
  [.connect 0 .ordered SchedulerExecution.openWindow, .submit 0 (.readRequest 64 0 0),
    .submit 0 (.write 64 0 0), .submit 0 (.write 5000 0 0), .schedule, .gating 0 id false,
    .schedule, .schedule]

def mixedAdmission : AdmissionControl.AdmissionControlManager :=
  { policy := .rxWindowBased, admissionWindowBytes := 10000,
    rxBucket := .full 1 1 1, txBucket := .full 1 1 1 }

def mixedEvents : List Event :=
  [.requested 0 .pull, .requested 1 .unsolicitedPush, .requested 2 .solicitedPush,
    .transmitted 0 .pullRequest]

def mixedSent (system : System) : Bool :=
  (system.history 0).events = mixedEvents ++ [.transmitted 1 .pushUnsolicitedData] &&
    match system.host.connections 0 with
    | none => false
    | some connection => connection.orderedMode = .ordered

theorem first_transmissions_ordered_mixed : ∃ system, Reachable system ∧
    SentInOrder (system.history 0).events mixedEvents 1 .pushUnsolicitedData := by
  obtain ⟨system, reachable, sent⟩ := SchedulerExecution.run_of_check mixedCommands mixedSent
    (Runs.reachable_initial
      (SchedulerExecution.fresh_host_initial mixedAdmission 4096 rfl))
    (by decide +kernel)
  simp only [mixedSent, Bool.and_eq_true, decide_eq_true_eq] at sent
  obtain ⟨events, known⟩ := sent
  split at known
  · cases known
  · rename_i connection found
    exact ⟨system, reachable, first_transmissions_ordered reachable found
      (of_decide_eq_true known) events⟩

/-- The RSN of a request is its number modulo 2^32. -/
theorem next_rsn_counts_requests {system : System} (reachable : Reachable system)
    {scid : UInt32} {connection : ConnectionState}
    (found : system.host.connections scid = some connection)
    (ordered : connection.orderedMode = .ordered) :
    connection.nextRequestSequenceNumber = UInt32.ofNat (system.history scid).requests :=
  ((reachable_ordered reachable).each scid connection found
    (by rw [isOrdered, decide_eq_true_eq, ordered])).next.symm

end Isekai.SchedulerOrderProofs
