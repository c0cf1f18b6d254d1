import Isekai.SchedulerExecution
import Isekai.TransactionLengths

/-! What the two hosts record of the lengths of a transaction: the submitted lengths where they come
from the ULP, and their remainders by 2^16 where they come from the network. Both agree if the
lengths that are sent fit the header, and only then. -/

namespace Isekai.TransactionLengths
open FastConnectionScheduler
open SchedulerSystem hiding Step
open SchedulerTransactionProofs (update_state_eq_ok create_packet_self create_packet_other
  get_transaction_eq_ok create_from_ulp_spec expectedState)

variable {type : PacketType} {transaction : TransactionMetadata} {packet : PacketMetadata}
  {connection : ConnectionState}

/-! ## Header fields -/

@[simp] theorem in_header_zero : inHeader 0 = 0 := by decide

@[simp] theorem in_header_word (length : UInt32) :
    (inHeader length).toUInt16 = length.toUInt16 :=
  UInt16.toUInt16_toUInt32 _

@[simp] theorem in_header_again (length : UInt32) :
    inHeader (inHeader length) = inHeader length := by
  rw [inHeader, in_header_word, inHeader]

/-- A field holds a length exactly if it is below 2^16. -/
theorem in_header_eq_iff {length : UInt32} : inHeader length = length ↔ length.toNat < 2 ^ 16 := by
  rw [← UInt32.toNat_inj]
  simp only [inHeader, UInt16.toNat_toUInt32, UInt32.toNat_toUInt16]
  omega

/-! ## Records -/

variable {submission : Submission} {rsn : UInt32}

/-- The packets of an operation. -/
def Belongs : Operation → PacketType → Prop
  | .read, .pullRequest | .read, .pullData => True
  | .write, .pushRequest | .write, .pushGrant | .write, .pushSolicitedData
  | .write, .pushUnsolicitedData | .write, .invalid => True
  | _, _ => False

/-- A packet as it is sent. -/
def sentPacket (submission : Submission) (rsn : UInt32) (type : PacketType) : NetworkPacket :=
  setOutgoingPacketHeader
    { rsn, type := .pull, location := .initiator
      requestLength := submission.request.requestLength } rsn type (submission.active type)

/-- The record of a host holds the lengths that it knows, for packets of the operation. -/
structure RecordKept (submission : Submission) (side : TransactionLocation)
    (transaction : TransactionMetadata) : Prop where
  request : side = .initiator ∨ transaction.type ≠ .pushUnsolicited →
    transaction.requestLength = knownRequestLength submission inHeader side
  packets : ∀ type packet, transaction.packets type = some packet →
    lengthsOf packet = knownLengths submission inHeader side type
  belongs : ∀ type packet, transaction.packets type = some packet →
    Belongs submission.operation type
  granted : ∀ packet, side = .target → transaction.packets .pushGrant = some packet →
    transaction.type = .pushSolicited
  answered : ∀ packet, side = .initiator → transaction.packets .pullData = some packet →
    submission.response.requestLength.toUInt16 = submission.request.requestLength.toUInt16

section Records

variable {side : TransactionLocation} {transaction moved : TransactionMetadata}

theorem record_moved (kept : RecordKept submission side transaction) {stage : TransactionStage}
    (updated : transaction.updateState type stage = .ok moved) :
    RecordKept submission side moved := by
  obtain ⟨state, -, rfl⟩ := update_state_eq_ok.1 updated
  exact ⟨kept.request, kept.packets, kept.belongs, kept.granted, kept.answered⟩

theorem record_created (kept : RecordKept submission side transaction)
    (known : lengthsOf packet = knownLengths submission inHeader side type)
    (belongs : Belongs submission.operation type)
    (granted : side = .target → type = .pushGrant → transaction.type = .pushSolicited)
    (answered : side = .initiator → type = .pullData →
      submission.response.requestLength.toUInt16 = submission.request.requestLength.toUInt16) :
    RecordKept submission side (transaction.createPacket type packet) := by
  refine ⟨kept.request, ?_, ?_, ?_, ?_⟩
  · intro other found present
    by_cases same : other = type
    · subst same
      rw [create_packet_self] at present
      cases present
      exact known
    · rw [create_packet_other _ _ same] at present
      exact kept.packets other found present
  · intro other found present
    by_cases same : other = type
    · rw [same]
      exact belongs
    · rw [create_packet_other _ _ same] at present
      exact kept.belongs other found present
  · intro found target present
    by_cases same : PacketType.pushGrant = type
    · exact granted target same.symm
    · rw [create_packet_other _ _ same] at present
      exact kept.granted found target present
  · intro found initiator present
    by_cases same : PacketType.pullData = type
    · exact answered initiator same.symm
    · rw [create_packet_other _ _ same] at present
      exact kept.answered found initiator present

/-- A packet that the ULP of the initiator has submitted. -/
theorem record_submitted (kept : RecordKept submission .initiator transaction)
    (known : lengthsOf packet = knownLengths submission inHeader .initiator type)
    (belongs : Belongs submission.operation type) (outgoing : type ≠ .pullData) :
    RecordKept submission .initiator (transaction.createPacket type packet) :=
  record_created kept known belongs (fun target => by cases target)
    fun _ same => absurd same outgoing

/-- A record without packets. -/
theorem record_new (none : transaction.packets = fun _ => none)
    (request : side = .initiator ∨ transaction.type ≠ .pushUnsolicited →
      transaction.requestLength = knownRequestLength submission inHeader side) :
    RecordKept submission side transaction := by
  refine ⟨request, ?_, ?_, ?_, ?_⟩
  · intro type packet present
    rw [none] at present
    cases present
  · intro type packet present
    rw [none] at present
    cases present
  · intro packet _ present
    rw [none] at present
    cases present
  · intro packet _ present
    rw [none] at present
    cases present

end Records

/-! ## Submission -/

theorem push_packets_kept (writes : submission.operation = .write) (ordered solicited : Bool)
    (kept : RecordKept submission .initiator transaction) :
    RecordKept submission .initiator (createPushPackets ordered solicited
      submission.request.dataLength submission.request.sglLength transaction) := by
  have belongs : ∀ type, Belongs .write type → Belongs submission.operation type := by
    intro type
    rw [writes]
    exact id
  unfold createPushPackets
  by_cases asks : solicited = true
  · rw [if_pos asks]
    apply record_submitted _ rfl (belongs .pushRequest trivial) (by decide)
    exact record_submitted kept rfl (belongs .pushSolicitedData trivial) (by decide)
  · rw [if_neg asks]
    by_cases phantom : ordered = true
    · rw [if_pos phantom]
      apply record_submitted _ rfl (belongs .pushUnsolicitedData trivial) (by decide)
      exact record_submitted kept rfl (belongs .invalid trivial) (by decide)
    · rw [if_neg phantom]
      exact record_submitted kept rfl (belongs .pushUnsolicitedData trivial) (by decide)

theorem submitted_kept {before after : ConnectionState} {threshold : UInt32}
    (created : createOrUpdateTransactionFromUlp before threshold submission.op =
      .ok (rsn, type, after)) (found : after.transactions ⟨rsn, .initiator⟩ = some transaction) :
    RecordKept submission .initiator transaction := by
  unfold Submission.op at created
  cases reads : submission.operation with
  | read =>
    rw [reads] at created
    obtain ⟨moved, updated, final⟩ := bind_eq_ok.1 created
    cases final
    simp only [ConnectionState.setTransaction, Function.update_self, Option.some.injEq] at found
    subst found
    apply record_moved _ updated
    apply record_submitted (record_new rfl fun _ => rfl) rfl _ (by decide)
    rw [reads]
    trivial
  | write =>
    rw [reads] at created
    obtain ⟨moved, updated, final⟩ := bind_eq_ok.1 created
    cases final
    simp only [ConnectionState.setTransaction, Function.update_self, Option.some.injEq] at found
    subst found
    apply record_moved _ updated
    apply push_packets_kept reads
    exact record_new rfl fun _ => rfl

/-! ## Runs -/

/-- What holds in every run: the records hold what each host knows, the packets what is sent. -/
structure Kept (submission : Submission) (rsn : UInt32) (exchange : Exchange) : Prop where
  records : ∀ side transaction, exchange.record rsn side = some transaction →
    RecordKept submission side transaction
  network : ∀ packet ∈ exchange.network, Belongs submission.operation packet.type ∧
    packet = sentPacket submission rsn packet.type

variable {exchange next : Exchange} {side : TransactionLocation}

theorem record_at_self (connection : ConnectionState) :
    (exchange.at side connection).record rsn side = connection.transactions ⟨rsn, side⟩ := by
  simp [Exchange.at, Exchange.record]

theorem record_at_other {other : TransactionLocation} (connection : ConnectionState)
    (different : other ≠ side) :
    (exchange.at side connection).record rsn other = exchange.record rsn other := by
  simp [Exchange.at, Exchange.record, different]

/-- One host changes its connection. -/
theorem kept_at (kept : Kept submission rsn exchange) (connection : ConnectionState)
    (record : ∀ transaction, connection.transactions ⟨rsn, side⟩ = some transaction →
      RecordKept submission side transaction) :
    Kept submission rsn (exchange.at side connection) := by
  refine ⟨fun other transaction found => ?_, kept.network⟩
  by_cases here : other = side
  · subst here
    rw [record_at_self] at found
    exact record transaction found
  · rw [record_at_other _ here] at found
    exact kept.records other transaction found

theorem set_transaction_record {key : TransactionKey} {found : TransactionMetadata}
    (held : (connection.setTransaction key transaction).transactions key = some found) :
    found = transaction := by
  simpa [ConnectionState.setTransaction] using held.symm

/-- The header of a packet is the one that its submitted lengths give. -/
theorem header_sent (kept : RecordKept submission side transaction)
    (located : getTransactionLocation type false = .ok side)
    (present : transaction.packets type = some packet) :
    setOutgoingPacketHeader transaction rsn type (submission.active type) =
      sentPacket submission rsn type := by
  cases type with
  | pushRequest =>
    cases located
    have length := kept.request (.inl rfl)
    simp [setOutgoingPacketHeader, sentPacket, length, knownRequestLength]
  | pushGrant =>
    cases located
    have solicited := kept.granted packet rfl present
    have length := kept.request (.inr (by simp [solicited]))
    simp [setOutgoingPacketHeader, sentPacket, length, knownRequestLength]
  | _ => rfl

theorem record_getD {record : Option TransactionMetadata} {new : TransactionMetadata}
    (existing : ∀ transaction, record = some transaction → RecordKept submission side transaction)
    (begun : RecordKept submission side new) : RecordKept submission side (record.getD new) := by
  cases record with
  | none => exact begun
  | some transaction => exact existing transaction rfl

theorem grant_belongs {operation : Operation} (belongs : Belongs operation .pushRequest) :
    Belongs operation .pushGrant := by
  cases operation with
  | read => exact belongs
  | write => trivial

/-- The record that an arriving packet meets, or begins. -/
theorem emplaced_kept (kept : Kept submission rsn exchange) {packet : NetworkPacket}
    {base : TransactionMetadata} (sent : packet = sentPacket submission rsn packet.type)
    (belongs : Belongs submission.operation packet.type)
    (located : getTransactionLocation packet.type true = .ok side)
    (emplaced : emplaceTransaction (exchange.connection side) packet = .ok base) :
    RecordKept submission side base := by
  have existing := kept.records side
  generalize packet.type = type at sent belongs located
  subst sent
  cases type with
  | pullRequest =>
    cases located
    cases emplaced
    exact record_getD existing (record_new rfl fun _ => rfl)
  | pushRequest =>
    obtain rfl : side = .target := by
      cases located
      rfl
    cases emplaced
    apply record_getD existing
    apply record_created (record_new rfl fun _ => rfl)
    · rfl
    · exact grant_belongs belongs
    · exact fun _ _ => rfl
    · intro target
      cases target
  | pushUnsolicitedData =>
    cases located
    cases emplaced
    apply record_getD existing
    exact record_new rfl fun told => absurd rfl (told.resolve_left nofun)
  | pullData =>
    cases located
    exact existing base (get_transaction_eq_ok.1 emplaced)
  | pushGrant =>
    cases located
    exact existing base (get_transaction_eq_ok.1 emplaced)
  | pushSolicitedData =>
    cases located
    exact existing base (get_transaction_eq_ok.1 emplaced)
  | _ => cases located

/-- The lengths of a packet that arrives are the ones that its receiver can know. -/
theorem received_lengths {type : PacketType}
    (located : getTransactionLocation type true = .ok side) :
    lengthsOf { payloadLength := (sentPacket submission rsn type).payloadLength } =
      knownLengths submission inHeader side type := by
  cases type with
  | pullRequest | pushRequest | pushGrant | pullData | pushSolicitedData | pushUnsolicitedData =>
    cases located
    rfl
  | _ => cases located

theorem sent_rsn (type : PacketType) : (sentPacket submission rsn type).rsn = rsn := by
  unfold sentPacket setOutgoingPacketHeader
  split <;> rfl

theorem sent_type (type : PacketType) : (sentPacket submission rsn type).type = type := by
  unfold sentPacket setOutgoingPacketHeader
  split <;> rfl

/-- A response that is accepted agrees with its request in 16 bits. -/
theorem response_agrees {packet : NetworkPacket} {moved : TransactionMetadata}
    (sent : packet = sentPacket submission rsn packet.type) (data : packet.type = .pullData)
    (length : moved.requestLength = submission.request.requestLength)
    (agrees : ¬ (packet.type ∈ [.pullData, .pushGrant, .pushSolicitedData] ∧
      moved.requestLength.toUInt16 ≠ actualLength packet)) :
    submission.response.requestLength.toUInt16 = submission.request.requestLength.toUInt16 := by
  have same : moved.requestLength.toUInt16 = actualLength packet := by
    by_contra differ
    exact agrees ⟨by simp [data], differ⟩
  rw [data] at sent
  rw [length, sent] at same
  rw [same]
  change _ = (inHeader submission.response.requestLength).toUInt16
  rw [in_header_word]

theorem received_kept (kept : Kept submission rsn exchange) {packet : NetworkPacket}
    (member : packet ∈ exchange.network)
    (located : getTransactionLocation packet.type true = .ok side)
    (accepted : createOrUpdateTransactionFromNetwork (exchange.connection side) packet =
      .ok connection) : Kept submission rsn (exchange.at side connection) := by
  obtain ⟨belongs, sent⟩ := kept.network packet member
  obtain ⟨base, emplaced, done⟩ := bind_eq_ok.1 accepted
  obtain ⟨location, here, done⟩ := bind_eq_ok.1 done
  obtain ⟨moved, updated, done⟩ := bind_eq_ok.1 done
  have before := emplaced_kept kept sent belongs located emplaced
  obtain rfl : side = location := Except.ok.inj (located.symm.trans here)
  split at done
  · cases done
  · rename_i agrees
    cases done
    apply kept_at kept
    intro transaction found
    have number : packet.rsn = rsn := by
      rw [sent]
      exact sent_rsn _
    rw [number] at found
    rw [set_transaction_record found]
    apply record_moved _ updated
    apply record_created before
    · rw [← @received_lengths _ rsn _ _ located, ← sent]
    · exact belongs
    · intro target grant
      rw [grant, target] at located
      cases located
    · intro initiator data
      obtain ⟨state, -, rfl⟩ := update_state_eq_ok.1 updated
      have length := before.request (.inl initiator)
      rw [initiator] at length
      exact response_agrees sent data length agrees

theorem answered_kept (kept : Kept submission rsn exchange) {threshold : UInt32}
    (reads : submission.operation = .read)
    (accepted : createOrUpdateTransactionFromUlp (exchange.connection .target) threshold
      (submission.answer rsn) = .ok (rsn, type, connection)) :
    Kept submission rsn (exchange.at .target connection) := by
  obtain ⟨before, live, done⟩ := bind_eq_ok.1 accepted
  obtain ⟨moved, updated, final⟩ := bind_eq_ok.1 done
  cases final
  apply kept_at kept
  intro transaction found
  rw [set_transaction_record found]
  apply record_moved _ updated
  apply record_created (kept.records .target before (get_transaction_eq_ok.1 live))
  · rfl
  · rw [reads]
    trivial
  · intro _ grant
    cases grant
  · intro initiator
    cases initiator

theorem step_kept (kept : Kept submission rsn exchange) (taken : Step submission rsn exchange next) :
    Kept submission rsn next := by
  cases taken with
  | @transmit side type transaction moved packet located found present updated =>
    have record := kept.records side transaction found
    have changed : Kept submission rsn (exchange.at side
        ((exchange.connection side).setTransaction ⟨rsn, side⟩ moved)) := by
      apply kept_at kept
      intro current held
      rw [set_transaction_record held]
      exact record_moved record updated
    refine ⟨changed.records, fun sent member => ?_⟩
    rcases List.mem_cons.1 member with rfl | earlier
    · rw [header_sent record located present, sent_type]
      exact ⟨record.belongs type packet present, rfl⟩
    · exact kept.network sent earlier
  | receive member located accepted => exact received_kept kept member located accepted
  | answer reads accepted => exact answered_kept kept reads accepted
  | @progress side transaction _ type stage found updated =>
    apply kept_at kept
    intro current held
    rw [set_transaction_record held]
    exact record_moved (kept.records side transaction found) updated
  | erase side =>
    apply kept_at kept
    intro current held
    simp [eraseTransaction] at held
  | elsewhere side connection same =>
    apply kept_at kept
    intro current held
    rw [same] at held
    exact kept.records side current held

variable {threshold : UInt32}

theorem reachable_kept
    (reached : Runs.Reachable (Submitted submission threshold rsn) (Step submission rsn) exchange) :
    Kept submission rsn exchange := by
  apply Runs.invariant_of_reachable _ _ reached
  · rintro first ⟨⟨before, type, created⟩, unseen, unsent⟩
    refine ⟨fun side transaction found => ?_, fun packet member => ?_⟩
    · cases side with
      | initiator => exact submitted_kept created found
      | target =>
        rw [unseen] at found
        cases found
    · rw [unsent] at member
      cases member
  · intro before after kept taken
    exact step_kept kept taken

/-- In every run the hosts hold what came over the network in 16 bits. -/
theorem lengths_recorded
    (reached : Runs.Reachable (Submitted submission threshold rsn) (Step submission rsn) exchange) :
    Recorded submission inHeader rsn exchange := by
  have kept := reachable_kept reached
  exact ⟨fun side transaction found => (kept.records side transaction found).request,
    fun side transaction type packet found =>
      (kept.records side transaction found).packets type packet⟩

/-! ## When the records are right -/

/-- Of a submission that fits, the header changes no length that a host comes to know. -/
theorem known_lengths_fit (fits : Fits submission)
    (record : RecordKept submission side transaction)
    (present : transaction.packets type = some packet) :
    knownLengths submission inHeader side type = knownLengths submission id side type := by
  obtain ⟨request, reads⟩ := fits
  have belongs := record.belongs type packet present
  cases side with
  | initiator =>
    cases type with
    | pullData =>
      have response : inHeader submission.response.requestLength =
          submission.response.requestLength := by
        apply in_header_eq_iff.2
        cases operation : submission.operation with
        | read => exact (reads operation).2 (record.answered packet rfl present)
        | write =>
          rw [operation] at belongs
          exact belongs.elim
      simp only [knownLengths, response, id]
    | _ => rfl
  | target =>
    cases type with
    | pullRequest =>
      have data : inHeader submission.request.dataLength = submission.request.dataLength := by
        apply in_header_eq_iff.2
        cases operation : submission.operation with
        | read => exact (reads operation).1
        | write =>
          rw [operation] at belongs
          exact belongs.elim
      simp only [knownLengths, data, id]
    | pushSolicitedData | pushUnsolicitedData =>
      simp only [knownLengths, in_header_eq_iff.2 request, id]
    | _ => rfl

theorem fits_sound (fits : Fits submission)
    (reached : Runs.Reachable (Submitted submission threshold rsn) (Step submission rsn) exchange) :
    Sound submission rsn exchange := by
  have kept := reachable_kept reached
  have lengths : ∀ side transaction type packet, exchange.record rsn side = some transaction →
      transaction.packets type = some packet →
        lengthsOf packet = knownLengths submission id side type := by
    intro side transaction type packet found present
    have record := kept.records side transaction found
    rw [← known_lengths_fit fits record present]
    exact record.packets type packet present
  refine ⟨⟨fun side transaction found told => ?_, lengths⟩,
    fun config side transaction type packet found present => ?_⟩
  · have length := (kept.records side transaction found).request told
    cases side with
    | initiator => exact length
    | target => exact length.trans (in_header_eq_iff.2 fits.1)
  · rw [lengths side transaction type packet found present]

/-! ## Runs that reach the other host -/

/-- Some run leads to these records, with packets of these types in the network. -/
def Reaches (submission : Submission) (threshold rsn : UInt32)
    (records : TransactionLocation → Option TransactionMetadata) (sent : List PacketType) : Prop :=
  ∃ exchange, Runs.Reachable (Submitted submission threshold rsn) (Step submission rsn) exchange ∧
    (∀ side, exchange.record rsn side = records side) ∧
    ∀ type ∈ sent, sentPacket submission rsn type ∈ exchange.network

section Reaching

variable {records : TransactionLocation → Option TransactionMetadata} {sent : List PacketType}
  {transaction : TransactionMetadata} {packet : PacketMetadata} {type : PacketType}
  {state : TransactionState}

/-- The records after one host has set its own. -/
theorem records_set (same : ∀ side, exchange.record rsn side = records side)
    (connection : ConnectionState) (other : TransactionLocation) :
    (exchange.at side (connection.setTransaction ⟨rsn, side⟩ transaction)).record rsn other =
      Function.update records side (some transaction) other := by
  by_cases here : other = side
  · subst here
    rw [record_at_self, Function.update_self]
    simp [ConnectionState.setTransaction]
  · rw [record_at_other _ here, Function.update_of_ne here, same]

theorem transmit_reaches (side : TransactionLocation) (type : PacketType)
    (reaches : Reaches submission threshold rsn records sent)
    (found : records side = some transaction)
    (located : getTransactionLocation type false = .ok side)
    (present : transaction.packets type = some packet)
    (moves : transaction.state.update type .ntwkTx = .ok state) :
    ∃ moved : TransactionMetadata, moved.state = state ∧ Reaches submission threshold rsn
      (Function.update records side (some moved)) (type :: sent) := by
  obtain ⟨exchange, reached, same, network⟩ := reaches
  rw [← same side] at found
  have updated := update_state_eq_ok.2 ⟨state, moves, rfl⟩
  have record := (reachable_kept reached).records side transaction found
  refine ⟨_, rfl, _, Runs.reachable_step reached (.transmit located found present updated),
    records_set same _, ?_⟩
  intro other member
  rcases List.mem_cons.1 member with rfl | earlier
  · rw [header_sent record located present]
    exact List.mem_cons_self
  · exact List.mem_cons_of_mem _ (network other earlier)

theorem progress_reaches (side : TransactionLocation) (type : PacketType) (stage : TransactionStage)
    (reaches : Reaches submission threshold rsn records sent)
    (found : records side = some transaction)
    (moves : transaction.state.update type stage = .ok state) :
    ∃ moved : TransactionMetadata, moved.state = state ∧ Reaches submission threshold rsn
      (Function.update records side (some moved)) sent := by
  obtain ⟨exchange, reached, same, network⟩ := reaches
  rw [← same side] at found
  have updated := update_state_eq_ok.2 ⟨state, moves, rfl⟩
  exact ⟨_, rfl, _, Runs.reachable_step reached (.progress type stage found updated),
    records_set same _, network⟩

theorem created_moved (packet : PacketMetadata) {stage : TransactionStage}
    (moves : transaction.state.update type stage = .ok state) :
    ∃ moved, (transaction.createPacket type packet).updateState type stage = .ok moved ∧
      moved.state = state ∧ moved.type = transaction.type ∧ moved.packets type = some packet :=
  ⟨{ transaction.createPacket type packet with state := state },
    update_state_eq_ok.2 ⟨state, moves, rfl⟩, rfl, rfl, create_packet_self _ _ _⟩

theorem answer_reaches (reaches : Reaches submission threshold rsn records sent)
    (reads : submission.operation = .read) (found : records .target = some transaction)
    (acked : transaction.state = .pullReqAckUlpRx) :
    ∃ (moved : TransactionMetadata) (packet : PacketMetadata), moved.state = .pullDataUlpRx ∧
      moved.packets .pullData = some packet ∧ Reaches submission threshold rsn
        (Function.update records .target (some moved)) sent := by
  obtain ⟨exchange, reached, same, network⟩ := reaches
  rw [← same .target] at found
  have moves : transaction.state.update .pullData .ulpRx = .ok .pullDataUlpRx := by
    rw [acked]
    rfl
  obtain ⟨moved, updated, is, -, held⟩ := created_moved
    { dataLength := submission.response.dataLength, sglLength := submission.response.sglLength } moves
  have accepted : createOrUpdateTransactionFromUlp (exchange.connection .target) threshold
      (submission.answer rsn) = .ok (rsn, .pullData, _) :=
    bind_eq_ok.2 ⟨transaction, get_transaction_eq_ok.2 found, bind_eq_ok.2 ⟨moved, updated, rfl⟩⟩
  exact ⟨moved, _, is, held, _, Runs.reachable_step reached (.answer reads accepted),
    records_set same _, network⟩

/-- What a packet of the transaction finds on its arrival, and leaves. -/
theorem receive_reaches (side : TransactionLocation) (type : PacketType)
    (reaches : Reaches submission threshold rsn records sent)
    (member : type ∈ sent) (located : getTransactionLocation type true = .ok side)
    {base : TransactionMetadata}
    (emplaced : ∀ connection : ConnectionState, connection.transactions ⟨rsn, side⟩ = records side →
      emplaceTransaction connection (sentPacket submission rsn type) = .ok base)
    (moves : base.state.update type .ntwkRx = .ok state)
    (agrees : ¬ (type ∈ [.pullData, .pushGrant, .pushSolicitedData] ∧
      base.requestLength.toUInt16 ≠ actualLength (sentPacket submission rsn type))) :
    ∃ (moved : TransactionMetadata) (packet : PacketMetadata), moved.state = state ∧
      moved.type = base.type ∧ moved.packets type = some packet ∧
        Reaches submission threshold rsn (Function.update records side (some moved)) sent := by
  obtain ⟨exchange, reached, same, network⟩ := reaches
  obtain ⟨moved, updated, is, kind, held⟩ := created_moved
    { payloadLength := (sentPacket submission rsn type).payloadLength } moves
  have unchanged : moved.requestLength = base.requestLength := by
    obtain ⟨final, -, rfl⟩ := update_state_eq_ok.1 updated
    rfl
  have accepted : createOrUpdateTransactionFromNetwork (exchange.connection side)
      (sentPacket submission rsn type) =
        .ok ((exchange.connection side).setTransaction ⟨rsn, side⟩ moved) := by
    refine bind_eq_ok.2 ⟨base, emplaced _ (same side), ?_⟩
    rw [sent_type, sent_rsn]
    refine bind_eq_ok.2 ⟨side, located, bind_eq_ok.2 ⟨moved, updated, ?_⟩⟩
    rw [unchanged]
    exact if_neg agrees
  have here : getTransactionLocation (sentPacket submission rsn type).type true = .ok side := by
    rw [sent_type]
    exact located
  exact ⟨moved, _, is, kind, held, _,
    Runs.reachable_step reached (.receive (network type member) here accepted),
    records_set same _, network⟩

end Reaching

section Arriving

variable {type : PacketType}

/-- The packet that a request begins with. -/
def Begins (type : PacketType) : Prop :=
  type = .pullRequest ∨ type = .pushRequest ∨ type = .pushUnsolicitedData

/-- A connection whose next request has the RSN. -/
def idleConnection (rsn : UInt32) : ConnectionState :=
  { orderedMode := .unordered, nextRequestSequenceNumber := rsn
    congestionControl := SchedulerExecution.openWindow }

theorem submission_accepted (submission : Submission) (threshold rsn : UInt32) :
    ∃ type after, createOrUpdateTransactionFromUlp (idleConnection rsn) threshold submission.op =
      .ok (rsn, type, after) := by
  unfold Submission.op
  cases submission.operation with
  | read => exact ⟨_, _, rfl⟩
  | write =>
    by_cases solicited : threshold ≤ submission.request.requestLength
    · simp only [createOrUpdateTransactionFromUlp, solicited, decide_true, if_true]
      exact ⟨_, _, rfl⟩
    · simp only [createOrUpdateTransactionFromUlp, solicited, decide_false, Bool.false_eq_true,
        if_false]
      exact ⟨_, _, rfl⟩

/-- The record of a request that has not been seen before. -/
def begunRecord (submission : Submission) (rsn : UInt32) : PacketType → TransactionMetadata
  | .pullRequest =>
    { rsn, type := .pull, location := .target
      requestLength := inHeader submission.request.requestLength }
  | .pushRequest =>
    { rsn, type := .pushSolicited, location := .target
      requestLength := inHeader submission.request.requestLength : TransactionMetadata }.createPacket
        .pushGrant {}
  | _ => { rsn, type := .pushUnsolicited, location := .target }

theorem emplace_begins (begins : Begins type)
    (unseen : connection.transactions ⟨rsn, .target⟩ = none) :
    emplaceTransaction connection (sentPacket submission rsn type) =
      .ok (begunRecord submission rsn type) := by
  rcases begins with rfl | rfl | rfl <;>
  · change Except.ok ((connection.transactions ⟨rsn, .target⟩).getD _) = _
    rw [unseen]
    rfl

/-- The records of a transaction on both hosts. -/
def recordsOf (initiator target : Option TransactionMetadata) :
    TransactionLocation → Option TransactionMetadata
  | .initiator => initiator
  | .target => target

theorem update_initiator (initiator target new : Option TransactionMetadata) :
    Function.update (recordsOf initiator target) .initiator new = recordsOf new target := by
  funext side
  cases side <;> rfl

theorem update_target (initiator target new : Option TransactionMetadata) :
    Function.update (recordsOf initiator target) .target new = recordsOf initiator new := by
  funext side
  cases side <;> rfl

/-- A run in which the request has been submitted. -/
theorem submission_reached (submission : Submission) (threshold rsn : UInt32) :
    ∃ type transaction packet, Begins type ∧
      (requestKind threshold submission.op = some .solicitedPush → type = .pushRequest) ∧
      transaction.state = expectedState type ∧ transaction.packets type = some packet ∧
      Reaches submission threshold rsn (recordsOf (some transaction) none) [] := by
  obtain ⟨type, after, created⟩ := submission_accepted submission threshold rsn
  rcases create_from_ulp_spec created with
    ⟨kind, transaction, is, -, solicited, requested⟩ | ⟨old, transaction, answers, -⟩
  · obtain ⟨packet, present, -⟩ := requested.new.own
    refine ⟨type, transaction, packet, requested.new.request, fun asks => solicited.1 ?_,
      requested.new.state, present, ?_⟩
    · exact Option.some.inj (is.symm.trans asks)
    refine ⟨{ connection := fun | .initiator => after | .target => idleConnection rsn },
      Runs.reachable_initial ⟨⟨idleConnection rsn, type, created⟩, rfl, rfl⟩, ?_, nofun⟩
    intro side
    cases side with
    | initiator =>
      change after.transactions ⟨rsn, .initiator⟩ = some transaction
      rw [requested.transactions, Function.update_self]
    | target => rfl
  · unfold Submission.op at answers
    cases operation : submission.operation <;> rw [operation] at answers <;> cases answers

/-- The states of the two records while the request is on its way. -/
def sentState : PacketType → TransactionState
  | .pullRequest => .pullReqNtwkTx
  | .pushRequest => .pushReqNtwkTx
  | _ => .pushUnsolicitedDataNtwkTx

def arrivedState : PacketType → TransactionState
  | .pullRequest => .pullReqNtwkRx
  | .pushRequest => .pushReqNtwkRx
  | _ => .pushUnsolicitedDataNtwkRx

/-- A run in which the request has arrived. -/
theorem arrival_reached (submission : Submission) (threshold rsn : UInt32) :
    ∃ type initiator target packet, Begins type ∧
      (requestKind threshold submission.op = some .solicitedPush → type = .pushRequest) ∧
      initiator.state = sentState type ∧
      target.state = arrivedState type ∧ target.type = (begunRecord submission rsn type).type ∧
      target.packets type = some packet ∧
      Reaches submission threshold rsn (recordsOf (some initiator) (some target)) [type] := by
  obtain ⟨type, transaction, packet, begins, solicited, state, present, submitted⟩ :=
    submission_reached submission threshold rsn
  have leaves : getTransactionLocation type false = .ok .initiator := by
    rcases begins with rfl | rfl | rfl <;> rfl
  have arrives : getTransactionLocation type true = .ok .target := by
    rcases begins with rfl | rfl | rfl <;> rfl
  have sends : transaction.state.update type .ntwkTx = .ok (sentState type) := by
    rw [state]
    rcases begins with rfl | rfl | rfl <;> rfl
  have moves : (begunRecord submission rsn type).state.update type .ntwkRx =
      .ok (arrivedState type) := by
    rcases begins with rfl | rfl | rfl <;> rfl
  have unchecked : type ∉ [PacketType.pullData, .pushGrant, .pushSolicitedData] := by
    rcases begins with rfl | rfl | rfl <;> decide
  obtain ⟨initiator, on, sent⟩ := transmit_reaches .initiator type submitted rfl leaves present sends
  rw [update_initiator] at sent
  obtain ⟨target, received, there, same, held, arrived⟩ := receive_reaches .target type sent
    (List.mem_singleton.2 rfl) arrives (fun _ unseen => emplace_begins begins unseen) moves
    fun both => unchecked both.1
  rw [update_target] at arrived
  exact ⟨type, initiator, target, received, begins, solicited, on, there, same, held, arrived⟩

/-- What arrives first of a read is its pull request. -/
theorem read_begins (begins : Begins type) (belongs : Belongs .read type) : type = .pullRequest := by
  rcases begins with rfl | rfl | rfl
  · rfl
  · exact belongs.elim
  · exact belongs.elim

/-- A run in which the response to a read has arrived. -/
theorem response_reached (threshold rsn : UInt32) (reads : submission.operation = .read)
    (agrees : submission.response.requestLength.toUInt16 =
      submission.request.requestLength.toUInt16) :
    ∃ initiator target packet sent, initiator.packets .pullData = some packet ∧
      Reaches submission threshold rsn (recordsOf (some initiator) target) sent := by
  obtain ⟨type, initiator, target, packet, begins, -, sending, arrival, -, held, arrived⟩ :=
    arrival_reached submission threshold rsn
  have ⟨exchange, reached, same, _⟩ := arrived
  have kept := reachable_kept reached
  have belongs := (kept.records .target _ (same .target)).belongs type packet held
  have length := (kept.records .initiator _ (same .initiator)).request (.inl rfl)
  rw [reads] at belongs
  obtain rfl := read_begins begins belongs
  obtain ⟨given, handed, run⟩ := progress_reaches .target .pullRequest .ulpTx arrived rfl
    (by rw [arrival]; rfl)
  rw [update_target] at run
  obtain ⟨acked, acks, run⟩ := progress_reaches .target .pullRequest .ulpAckRx run rfl
    (by rw [handed]; rfl)
  rw [update_target] at run
  obtain ⟨answered, data, answers, present, run⟩ := answer_reaches run reads rfl acks
  rw [update_target] at run
  obtain ⟨moved, -, run⟩ := transmit_reaches .target .pullData run rfl rfl present
    (by rw [answers]; rfl)
  rw [update_target] at run
  have checked : ¬ (PacketType.pullData ∈ [PacketType.pullData, .pushGrant, .pushSolicitedData] ∧
      initiator.requestLength.toUInt16 ≠ actualLength (sentPacket submission rsn .pullData)) := by
    rintro ⟨-, differ⟩
    apply differ
    rw [length]
    change submission.request.requestLength.toUInt16 =
      (inHeader submission.response.requestLength).toUInt16
    rw [in_header_word, agrees]
  obtain ⟨final, response, -, -, there, run⟩ := receive_reaches .initiator .pullData run
    List.mem_cons_self rfl (fun _ known => get_transaction_eq_ok.2 known) (by rw [sending]; rfl)
    checked
  rw [update_initiator] at run
  exact ⟨final, _, response, _, there, run⟩

/-- A record that is right has lengths that the header does not change. -/
theorem known_same (sound : ∀ exchange,
      Runs.Reachable (Submitted submission threshold rsn) (Step submission rsn) exchange →
        Sound submission rsn exchange)
    {records : TransactionLocation → Option TransactionMetadata} {sent : List PacketType}
    (reaches : Reaches submission threshold rsn records sent) {transaction : TransactionMetadata}
    (found : records side = some transaction) :
    (side = .initiator ∨ transaction.type ≠ .pushUnsolicited →
      knownRequestLength submission inHeader side = knownRequestLength submission id side) ∧
    ∀ packet, transaction.packets type = some packet →
      knownLengths submission inHeader side type = knownLengths submission id side type := by
  obtain ⟨exchange, reached, same, -⟩ := reaches
  rw [← same side] at found
  have really := lengths_recorded reached
  have claimed := (sound exchange reached).lengths
  constructor
  · intro told
    rw [← really.request side transaction found told, claimed.request side transaction found told]
  · intro packet present
    rw [← really.packets side transaction type packet found present,
      claimed.packets side transaction type packet found present]

theorem sound_fits (sound : ∀ exchange,
      Runs.Reachable (Submitted submission threshold rsn) (Step submission rsn) exchange →
        Sound submission rsn exchange) : Fits submission := by
  obtain ⟨type, initiator, target, packet, begins, -, -, -, kind, held, arrived⟩ :=
    arrival_reached submission threshold rsn
  obtain ⟨request, packets⟩ := @known_same _ _ .target _ type sound _ _ arrived target rfl
  have same := packets packet held
  have short : inHeader submission.request.requestLength = submission.request.requestLength := by
    rcases begins with rfl | rfl | rfl
    · exact request (.inr (by rw [kind]; nofun))
    · exact request (.inr (by rw [kind]; nofun))
    · exact congrArg PacketLengths.payloadLength same
  refine ⟨in_header_eq_iff.1 short, fun reads => ⟨?_, fun agrees => ?_⟩⟩
  · have ⟨exchange, reached, records, _⟩ := arrived
    have belongs := ((reachable_kept reached).records .target _ (records .target)).belongs type
      packet held
    rw [reads] at belongs
    obtain rfl := read_begins begins belongs
    exact in_header_eq_iff.1 (congrArg PacketLengths.payloadLength same)
  · obtain ⟨final, other, response, sent, present, answered⟩ :=
      response_reached threshold rsn reads agrees
    have known := (@known_same _ _ .initiator _ .pullData sound _ _ answered final rfl).2 response
      present
    exact in_header_eq_iff.1 (congrArg PacketLengths.payloadLength known)

end Arriving

/-- In every run of a transaction both hosts record the submitted lengths, and the credits that these
stand for, exactly if the lengths that are sent fit the header. -/
theorem lengths_sound_iff (submission : Submission) (threshold rsn : UInt32) :
    (∀ exchange, Runs.Reachable (Submitted submission threshold rsn) (Step submission rsn) exchange →
      Sound submission rsn exchange) ↔ Fits submission :=
  ⟨sound_fits, fun fits _ reached => fits_sound fits reached⟩

/-- A write of 2^16 + 100 bytes. -/
def longWrite : Submission :=
  { operation := .write, request := ⟨65636, 28, 24⟩, response := ⟨0, 0, 0⟩ }

/-- The write is solicited, and its target records 100 bytes. -/
theorem long_write_truncated : ∃ exchange target,
    Runs.Reachable (Submitted longWrite 4096 0) (Step longWrite 0) exchange ∧
      exchange.record 0 .target = some target ∧ target.type = .pushSolicited ∧
        target.requestLength = 100 := by
  obtain ⟨type, initiator, target, packet, -, solicited, -, -, kind, -, arrived⟩ :=
    arrival_reached longWrite 4096 0
  obtain ⟨exchange, reached, records, -⟩ := arrived
  obtain rfl := solicited (by decide)
  have told : target.type ≠ .pushUnsolicited := by
    rw [kind]
    nofun
  refine ⟨exchange, target, reached, records .target, kind, ?_⟩
  rw [(lengths_recorded reached).request .target target (records .target) (.inr told)]
  decide

end Isekai.TransactionLengths
