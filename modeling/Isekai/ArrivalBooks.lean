import Isekai.TransmissionBooks

/-! The books of outstanding packets over what arrives from the network and from the ULP. Neither
sends a packet: transactions are started, go on or end, and what is to be sent for them is
noted. -/

namespace Isekai.ArrivalBooks
open Outcomes Reliability Reliability.Endpoint OutstandingBooks BookFrameProofs WindowAlignment
open TransactionPhases AcknowledgementBooks AcknowledgementLoops RetransmissionBooks
open TransmissionBooks

variable {config : Config} {sent : WindowType → List OutstandingPacketContext}
  {answered : Multiset UInt32} {limit : WindowType → UInt32} {before after : Endpoint}
variable {key : TransactionKey} {packet : Packet} {type : PacketType} {new old : Transaction}

/-! ## A transaction has a packet to send -/

/-- A transaction is started, or comes to where its next packet is to be sent. `works` are the
packets that are now wanted. -/
structure Resumed (key : TransactionKey) (new : Transaction) (works : List WorkId)
    (before after : Endpoint) : Prop where
  holds : after.transactions key = some new
  elsewhere : ∀ other, other ≠ key →
    (after.transactions other).map entry = (before.transactions other).map entry
  idle : ∀ old, before.transactions key = some old → ∀ type, waitingState type ≠ some old.state
  sent : ∀ window psn context,
    (before.tx window).outstandingPacketContexts psn = some context → context.rsn = key.rsn →
    Outgoing context.packetType key → new.state ∉ unsentStates context.packetType ∧
      ∀ found, numbers new context.packetType = some found → found.1 = psn
  fresh : ∀ type found, Outgoing type key → new.state ∈ unsentStates type →
    numbers new type = some found → found.2 = 0
  pushing : new.state ∈ pushingStates → ∃ old, before.transactions key = some old ∧
    old.state ∈ pushingStates
  pulling : new.state ≠ .pullReqNtwkTx
  windows : ∀ window, SameWindow (before.tx window) (after.tx window)
  retransmissions : after.retransmissions = before.retransmissions
  pending : (pendingWork after).Perm (works ++ pendingWork before)
  single : works.length ≤ 1
  wanted : ∀ work ∈ works, work.rsn = key.rsn ∧ Outgoing work.type key ∧
    waitingState work.type = some new.state

theorem resumed_kept {works : List WorkId} (kept : Kept config sent answered limit before)
    (resumed : Resumed key new works before after) : Kept config sent answered limit after := by
  obtain ⟨live, debts, pulls, contains, tally, balanced, opened⟩ := kept.books.counted
  have recorded := kept.books.recorded
  have queued := kept.books.queued
  -- No packet that was wanted before belongs to the transaction.
  have apart (work : WorkId) (member : work ∈ pendingWork before) (rsn : work.rsn = key.rsn)
      (outgoing : Outgoing work.type key) : False := by
    obtain ⟨location, old, side, held, waits⟩ := queued.waiting work member
    have same : (⟨work.rsn, location⟩ : TransactionKey) = key := same_key side outgoing rsn
    exact resumed.idle old (same ▸ held) work.type waits
  refine ⟨⟨⟨fun window psn context found => ?_, fun window psn context other next found rsn outgoing
    held => ?_, fun window work held => ?_, fun window work waits other queued => ?_⟩,
    ⟨resumed.pending.nodup_iff.2 ?_, fun work member => ?_, fun other next type found held outgoing
      unsent read => ?_⟩,
    ⟨live, debts, pulls, fun window => ?_, ⟨?_, ?_⟩, balanced, fun rsn next held pushing => ?_,
      fun rsn next held pulling => ?_⟩, fun window => ?_⟩, fun window => ?_⟩
  · rw [(resumed.windows window).contexts] at found
    exact recorded.windows window psn context found
  · rw [(resumed.windows window).contexts] at found
    by_cases here : other = key
    · subst here
      cases resumed.holds.symm.trans held
      exact resumed.sent window psn context found rsn outgoing
    · obtain ⟨first, heldFirst, state, packets⟩ := entry_elsewhere (resumed.elsewhere other here) held
      rw [state, packets]
      exact recorded.metadata window psn context other first found rsn outgoing heldFirst
  · rw [(resumed.windows window).outstanding, resumed.retransmissions] at held
    rw [(resumed.windows window).contexts]
    exact recorded.works window work held
  · rw [(resumed.windows window).outstanding] at waits
    rw [resumed.retransmissions] at queued
    exact recorded.apart window work waits other queued
  · refine List.nodup_append.2 ⟨?_, queued.distinct, fun work wanted other member same => ?_⟩
    · have single := resumed.single
      match works, single with
      | [], _ => exact List.nodup_nil
      | [_], _ => exact List.nodup_singleton _
    · obtain ⟨rsn, outgoing, _⟩ := resumed.wanted work wanted
      exact apart work (same ▸ member) rsn outgoing
  · rcases List.mem_append.1 (resumed.pending.mem_iff.1 member) with wanted | already
    · obtain ⟨rsn, outgoing, waits⟩ := resumed.wanted work wanted
      exact ⟨key.location, new, outgoing, by rw [rsn]; exact resumed.holds, waits⟩
    · obtain ⟨location, old, side, held, waits⟩ := queued.waiting work already
      have differs : (⟨work.rsn, location⟩ : TransactionKey) ≠ key := by
        rintro rfl
        exact apart work already rfl side
      have same := resumed.elsewhere _ differs
      rw [held] at same
      obtain ⟨second, foundSecond, equal⟩ := Option.map_eq_some_iff.1 same
      have unchanged : second.state = old.state := congrArg Prod.fst equal
      exact ⟨location, second, side, foundSecond, unchanged ▸ waits⟩
  · by_cases here : other = key
    · subst here
      cases resumed.holds.symm.trans held
      exact resumed.fresh type found outgoing unsent read
    · obtain ⟨first, heldFirst, state, packets⟩ := entry_elsewhere (resumed.elsewhere other here) held
      exact queued.fresh other first type found heldFirst outgoing (state ▸ unsent) (packets ▸ read)
  · rw [(resumed.windows window).contexts]
    exact contains window
  · rw [(resumed.windows .request).counter]
    exact tally.request
  · rw [(resumed.windows .data).counter]
    exact tally.data
  · by_cases here : (⟨rsn, .initiator⟩ : TransactionKey) = key
    · subst here
      cases resumed.holds.symm.trans held
      obtain ⟨old, heldOld, was⟩ := resumed.pushing pushing
      exact opened.pushing rsn old heldOld was
    · obtain ⟨first, heldFirst, state, _⟩ := entry_elsewhere (resumed.elsewhere _ here) held
      exact opened.pushing rsn first heldFirst (state ▸ pushing)
  · by_cases here : (⟨rsn, .initiator⟩ : TransactionKey) = key
    · subst here
      cases resumed.holds.symm.trans held
      exact absurd pulling resumed.pulling
    · obtain ⟨first, heldFirst, state, _⟩ := entry_elsewhere (resumed.elsewhere _ here) held
      exact opened.pulling rsn first heldFirst (state ▸ pulling)
  · rw [(resumed.windows window).counter]
    exact kept.books.bounded window
  · exact aligned_same_window (resumed.windows window) (kept.aligned window)

/-- A transaction under an unused key. -/
theorem started_resumed {works : List WorkId} (unused : before.Unused key)
    (transactions : after.transactions =
      Function.update before.transactions key (some new))
    (fresh : ∀ type found, Outgoing type key → numbers new type = some found → found.2 = 0)
    (unsent : new.state ∉ pushingStates ∧ new.state ≠ .pullReqNtwkTx)
    (windows : ∀ window, SameWindow (before.tx window) (after.tx window))
    (retransmissions : after.retransmissions = before.retransmissions)
    (pending : (pendingWork after).Perm (works ++ pendingWork before)) (single : works.length ≤ 1)
    (wanted : ∀ work ∈ works, work.rsn = key.rsn ∧ Outgoing work.type key ∧
      waitingState work.type = some new.state) : Resumed key new works before after where
  holds := by rw [transactions, Function.update_self]
  elsewhere other differs := by rw [transactions, Function.update_of_ne differs]
  idle old held := nomatch unused.1.symm.trans held
  sent window psn context found rsn outgoing :=
    absurd outgoing (unused.2 window psn context found rsn)
  fresh type found outgoing _ := fresh type found outgoing
  pushing pushing := absurd pushing unsent.1
  pulling := unsent.2
  windows := windows
  retransmissions := retransmissions
  pending := pending
  single := single
  wanted := wanted

/-! ## Requests of the ULP -/

/-- What a request of the ULP starts. -/
theorem requested_transaction {operation : UlpOperation} {transaction : Transaction}
    (requested : requestedTransaction operation = some (transaction, type)) :
    (∀ other packet, transaction.packets other = some packet → packet = {}) ∧
      getTransactionLocation type false = .ok .initiator ∧
      ∃ state, waitingState type = some state ∧ state ∉ pushingStates ∧ state ≠ .pullReqNtwkTx ∧
        transaction.state.update type .ulpRx = .ok state := by
  have created {first : Transaction} {one : PacketType}
      (empty : ∀ other packet, first.packets other = some packet → packet = {})
      (other : PacketType) (packet : Reliability.PacketMetadata)
      (found : (first.createPacket one {}).packets other = some packet) : packet = {} := by
    change Function.update first.packets one (some {}) other = some packet at found
    by_cases here : other = one
    · subst here
      rw [Function.update_self] at found
      exact (Option.some.inj found).symm
    · rw [Function.update_of_ne here] at found
      exact empty other packet found
  have none_ (type : TransactionType) (other : PacketType) (packet : Reliability.PacketMetadata)
      (found : ({ type := type } : Transaction).packets other = some packet) : packet = {} :=
    nomatch found
  match operation, requested with
  | .readRequest, requested =>
    cases requested
    exact ⟨created (none_ _), rfl, _, rfl, by decide, by decide, rfl⟩
  | .write true, requested =>
    cases requested
    exact ⟨created (created (none_ _)), rfl, _, rfl, by decide, by decide, rfl⟩
  | .write false, requested =>
    cases requested
    exact ⟨created (none_ _), rfl, _, rfl, by decide, by decide, rfl⟩

/-- The state after a packet of the ULP is taken up and enqueued. -/
def enqueued (before : Endpoint) (key : TransactionKey) (transaction : Transaction)
    (type : PacketType) : Endpoint :=
  { before.setTransaction key transaction with
    scheduled := before.scheduled ++ [⟨key.rsn, type⟩] }

theorem enqueued_pending (key : TransactionKey) (transaction : Transaction) (type : PacketType) :
    (pendingWork (enqueued before key transaction type)).Perm
      ([⟨key.rsn, type⟩] ++ pendingWork before) := by
  have same : pendingWork (enqueued before key transaction type) =
      before.scheduled ++ [⟨key.rsn, type⟩] ++ before.reordered.filterMap nextWork := rfl
  rw [same, pendingWork, List.append_assoc]
  exact List.perm_append_comm_assoc _ _ _

theorem taken_up {transaction : Transaction} :
    Ensures ((((before.setTransaction key transaction).updateState key type .ulpRx).map
      fun created => { created with scheduled := created.scheduled ++ [⟨key.rsn, type⟩] }))
      fun after => ∃ state, transaction.state.update type .ulpRx = .ok state ∧
        after = enqueued before key { transaction with state := state } type := by
  refine ensures_map.2 fun created done => ?_
  obtain ⟨old, state, held, moved, rfl⟩ := update_state_eq_ok.1 done
  change Function.update before.transactions key (some transaction) key = some old at held
  rw [Function.update_self] at held
  cases held
  refine ⟨state, moved, ?_⟩
  simp only [enqueued, setTransaction, Function.update_idem]

theorem requested_kept (kept : Kept config sent answered limit before) (operation : UlpOperation)
    {transaction : Transaction} {rsn : UInt32}
    (requested : requestedTransaction operation = some (transaction, type))
    (unused : before.Unused ⟨rsn, .initiator⟩) :
    Ensures ((((before.setTransaction ⟨rsn, .initiator⟩ transaction).updateState ⟨rsn, .initiator⟩
      type .ulpRx).map
        fun created => { created with scheduled := created.scheduled ++ [⟨rsn, type⟩] }))
      (Kept config sent answered limit) := by
  obtain ⟨packets, outgoing, expected, waits, calm, unsent, update⟩ := requested_transaction requested
  refine Ensures.mono taken_up ?_
  rintro after ⟨state, moved, rfl⟩
  cases update.symm.trans moved
  refine resumed_kept kept (started_resumed unused rfl (fun other found _ read => ?_) ⟨calm, unsent⟩
    (fun _ => .rfl) rfl (enqueued_pending _ _ _) le_rfl ?_)
  · obtain ⟨packet, held, rfl⟩ := Option.map_eq_some_iff.1 read
    rw [packets other packet held]
  · intro work only
    rw [List.mem_singleton.1 only]
    exact ⟨rfl, outgoing, waits⟩

theorem initiated_kept (kept : Kept config sent answered limit before) (operation : UlpOperation)
    (fresh : before.StartsFresh config (.initiate operation)) :
    Ensures (before.initiateTransaction operation) (Kept config sent answered limit) := by
  have same : SameBooks before { before with
      nextRequestSequenceNumber := before.nextRequestSequenceNumber + 1 } :=
    ⟨fun _ => .rfl, rfl, rfl, rfl, fun _ => rfl⟩
  have numbered := kept_same same kept
  cases operation with
  | readRequest => exact requested_kept numbered .readRequest rfl fresh
  | write solicited =>
    cases solicited with
    | true => exact requested_kept numbered (.write true) rfl fresh
    | false => exact requested_kept numbered (.write false) rfl fresh
  | readResponse rsn =>
    refine ensures_bind fun old found => ?_
    have held := get_transaction_eq_ok.1 found
    refine Ensures.mono taken_up ?_
    rintro after ⟨state, moved, rfl⟩
    obtain ⟨was, rfl⟩ := expect_eq_ok.1 moved
    have was : old.state = .pullReqAckUlpRx := List.mem_singleton.1 was
    have calm : TransactionState.pullDataUlpRx ∉ pushingStates := by decide
    have only (type : PacketType) (unsent : TransactionState.pullDataUlpRx ∈ unsentStates type) :
        type = .pullData := by
      revert unsent
      cases type <;> decide
    have resumed : Resumed ⟨rsn, .target⟩ { old.createPacket .pullData {} with state := .pullDataUlpRx }
        [⟨rsn, .pullData⟩] before (enqueued before ⟨rsn, .target⟩
          { old.createPacket .pullData {} with state := .pullDataUlpRx } .pullData) := by
      refine ⟨Function.update_self _ _ _, fun other differs => ?_, fun first heldFirst type => ?_,
        fun window psn context found rsn_ outgoing => ?_, fun type found outgoing unsent read => ?_,
        fun pushing => absurd pushing calm, nofun, fun _ => .rfl, rfl, enqueued_pending _ _ _, le_rfl,
        ?_⟩
      · exact congrArg (Option.map entry) (Function.update_of_ne differs _ _)
      · cases held.symm.trans heldFirst
        rw [was]
        cases type <;> decide
      · -- The answer was not sent before, so no context is its.
        obtain ⟨unsent, same⟩ := kept.books.recorded.metadata window psn context _ old found rsn_
          outgoing held
        have differs : context.packetType ≠ .pullData := by
          rintro is
          rw [is, was] at unsent
          exact unsent (by decide)
        refine ⟨?_, fun number read => same number ?_⟩
        · exact fun back => differs (only context.packetType back)
        · rw [← read]
          simp only [numbers, Transaction.createPacket, Function.update_of_ne differs]
      · obtain rfl := only type unsent
        simp only [numbers, Transaction.createPacket, Function.update_self, Option.map_some,
          Option.some.injEq] at read
        rw [← read]
      · intro work only
        rw [List.mem_singleton.1 only]
        exact ⟨rfl, rfl, rfl⟩
    exact resumed_kept kept resumed

/-! ## Transactions that go on or end -/

/-- Transactions go on, and nothing else changes but what the receiver keeps. -/
theorem onward_kept (kept : Kept config sent answered limit before) (onward : Onward before after)
    (windows : ∀ window, SameWindow (before.tx window) (after.tx window))
    (retransmissions : after.retransmissions = before.retransmissions)
    (pending : (pendingWork after).Sublist (pendingWork before)) :
    Kept config sent answered limit after :=
  ⟨books_onward kept.books (fun window => (windows window).toSameRecords) retransmissions onward
    (kept.books.queued.distinct.sublist pending) fun _ member => pending.subset member,
    fun window => aligned_same_window (windows window) (kept.aligned window)⟩

/-- A transaction is updated by something other than its start and its transmissions. -/
theorem updated_kept {stage : TransactionStage} (kept : Kept config sent answered limit before)
    (later : ¬ Begins type stage) (unsent : stage ≠ .ntwkTx) :
    Ensures (before.updateState key type stage) fun after =>
      Kept config sent answered limit after ∧ ∃ (first : TransactionState) (new : Transaction),
        first.update type stage = .ok new.state ∧ after.transactions key = some new := by
  intro after done
  have onward : Onward before after := updated_onward later unsent after done
  obtain ⟨old, state, held, moved, rfl⟩ := update_state_eq_ok.1 done
  exact ⟨onward_kept kept onward (fun _ => .rfl) rfl (List.Sublist.refl _), old.state,
    { old with state := state }, moved, Function.update_self _ _ _⟩

/-- A transaction that waits for nothing to be sent is forgotten. -/
theorem erased_kept (kept : Kept config sent answered limit before)
    (held : before.transactions key = some old)
    (idle : ∀ type, waitingState type ≠ some old.state) :
    Kept config sent answered limit (before.eraseTransaction key) :=
  onward_kept kept (erased_onward held idle) (fun _ => .rfl) rfl (List.Sublist.refl _)

theorem acked_transaction_kept (kept : Kept config sent answered limit before) (rsn : UInt32) :
    Ensures (before.ackTransaction rsn) (Kept config sent answered limit) := by
  refine ensures_bind fun transaction _ => ?_
  refine (updated_kept kept (by rintro ⟨_, stage⟩; simp at stage) (by decide)).bind ?_
  rintro updated ⟨held, old, new, moved, found⟩
  unfold handleAckFromUlp
  cases updated.receivedPacketContexts ⟨rsn, .target⟩ with
  | none => exact ensures_error
  | some context =>
    refine ensures_ite (fun _ => ensures_ok.2 held) fun _ => ?_
    refine kept_frame (updated_bitmap_books _ _) (erased_kept held found fun type => ?_)
    revert moved
    generalize new.state = last
    cases transaction.type <;> intro moved <;> obtain ⟨_, rfl⟩ := expect_eq_ok.1 moved <;>
      cases type <;> decide

theorem nacked_transaction_kept (kept : Kept config sent answered limit before) (rsn : UInt32)
    (isRnr : Bool) (rnrTimeout : Int) :
    Ensures (before.nackTransaction rsn isRnr rnrTimeout) (Kept config sent answered limit) := by
  refine (kept_frame (nacked_from_ulp_books rsn isRnr rnrTimeout) kept).bind fun noted held => ?_
  refine ensures_ite (fun _ => ensures_bind fun transaction _ => ?_) fun _ => ensures_ok.2 held
  exact (updated_kept held (by rintro ⟨_, stage⟩; simp at stage) (by decide)).mono fun _ => And.left

/-- The answer of a request or a grant that is handed over is scheduled. -/
theorem answer_scheduled {work : WorkId} {next : PacketType}
    (member : work ∈ before.reordered) (answers : nextWork work = some ⟨work.rsn, next⟩) :
    (pendingWork { before with
      reordered := before.reordered.erase work
      scheduled := before.scheduled ++ [⟨work.rsn, next⟩] }).Perm (pendingWork before) := by
  have moved : (before.reordered.filterMap nextWork).Perm
      (⟨work.rsn, next⟩ :: (before.reordered.erase work).filterMap nextWork) := by
    have split := (List.perm_cons_erase member).filterMap nextWork
    rwa [List.filterMap_cons_some answers] at split
  simp only [pendingWork, List.append_assoc]
  exact (moved.symm.append_left before.scheduled)

/-- A packet is handed over to the ULP; the answer to a pull ends it. -/
theorem passed_kept (kept : Kept config sent answered limit before) (rsn : UInt32)
    (type : PacketType) :
    Ensures ((getTransactionLocation type true).bind fun location =>
      (before.getTransaction ⟨rsn, location⟩).bind fun transaction =>
      (transaction.getPacketMetadata type).bind fun _ =>
      (before.updateState ⟨rsn, location⟩ type .ulpTx).map fun delivered =>
        if type = .pullData then delivered.eraseTransaction ⟨rsn, location⟩ else delivered)
      (Kept config sent answered limit) := by
  refine ensures_bind fun location _ => ensures_bind fun transaction _ => ensures_bind fun _ _ => ?_
  refine ensures_map.2 ((updated_kept kept (by rintro ⟨_, stage⟩; simp at stage) (by decide)).mono ?_)
  rintro updated ⟨held, old, new, moved, found⟩
  split_ifs with pull
  · subst pull
    obtain ⟨_, state⟩ := expect_eq_ok.1 moved
    refine erased_kept held found fun type => ?_
    rw [← state]
    cases type <;> decide
  · exact held

/-- A request or a grant that is handed over has its answer sent. -/
theorem passed_on_kept (rsn : UInt32) (type : PacketType)
    (scheduled : ∀ next, getNextFalconPacket type = .ok next → Kept config sent answered limit
      { before with scheduled := before.scheduled ++ [⟨rsn, next⟩] }) :
    Ensures ((getTransactionLocation type true).bind fun location =>
      (getNextFalconPacket type).bind fun next =>
      (before.getTransaction ⟨rsn, location⟩).bind fun transaction =>
      (transaction.getPacketMetadata next).map fun _ =>
        { before with scheduled := before.scheduled ++ [⟨rsn, next⟩] })
      (Kept config sent answered limit) := by
  refine ensures_bind fun location _ => ensures_bind fun next answers => ?_
  exact ensures_bind fun transaction _ => ensures_map.2 fun _ _ => scheduled next answers

/-- The completion of a push ends it. -/
theorem completed_kept (kept : Kept config sent answered limit before) (rsn : UInt32) :
    Ensures ((before.getTransaction ⟨rsn, .initiator⟩).bind fun transaction =>
      if transaction.type = .pull then .error .unexpectedPacketType
      else (before.updateState ⟨rsn, .initiator⟩ (acknowledgedPacket transaction.type)
        .ulpCompletionTx).map fun completed => completed.eraseTransaction ⟨rsn, .initiator⟩)
      (Kept config sent answered limit) := by
  refine ensures_bind fun transaction _ => ensures_ite (fun _ => ensures_error) fun _ => ?_
  refine ensures_map.2 ((updated_kept kept (by rintro ⟨_, stage⟩; simp at stage) (by decide)).mono ?_)
  rintro updated ⟨held, old, new, moved, found⟩
  have ended : new.state = .pushCompletionUlpTx := by
    revert moved
    cases transaction.type <;> intro moved
    · cases moved
    · exact (expect_eq_ok.1 moved).2.symm
    · exact (expect_eq_ok.1 moved).2.symm
  refine erased_kept held found fun type => ?_
  rw [ended]
  cases type <;> decide

theorem delivered_kept (kept : Kept config sent answered limit before) {work : WorkId}
    (member : work ∈ before.reordered) :
    Ensures (before.perform config (.deliver work)) (Kept config sent answered limit) := by
  have taken : Kept config sent answered limit
      { before with reordered := before.reordered.erase work } :=
    onward_kept kept ⟨Onward.rfl.back, Onward.rfl.waiting⟩ (fun _ => .rfl) rfl
      ((List.Sublist.refl _).append (List.Sublist.filterMap nextWork List.erase_sublist))
  have scheduled (next : PacketType) (answers : nextWork work = some ⟨work.rsn, next⟩) :
      Kept config sent answered limit { before with
        reordered := before.reordered.erase work
        scheduled := before.scheduled ++ [⟨work.rsn, next⟩] } := by
    have pending := answer_scheduled member answers
    exact ⟨books_onward kept.books (fun _ => ⟨rfl, rfl, rfl⟩) rfl
      ⟨Onward.rfl.back, Onward.rfl.waiting⟩ (pending.nodup_iff.2 kept.books.queued.distinct)
      fun _ => pending.mem_iff.1, kept.aligned⟩
  obtain ⟨rsn, type⟩ := work
  cases type with
  | pullRequest => exact passed_kept taken rsn .pullRequest
  | pullData => exact passed_kept taken rsn .pullData
  | pushSolicitedData => exact passed_kept taken rsn .pushSolicitedData
  | pushUnsolicitedData => exact passed_kept taken rsn .pushUnsolicitedData
  | pushRequest =>
    exact passed_on_kept rsn .pushRequest fun next answers => by cases answers; exact scheduled _ rfl
  | pushGrant =>
    exact passed_on_kept rsn .pushGrant fun next answers => by cases answers; exact scheduled _ rfl
  | ack => exact completed_kept taken rsn
  | nack => exact ensures_ok.2 taken
  | _ => exact ensures_error

/-! ## Packets from the network -/

theorem admitted_kept (kept : Kept config sent answered limit before) (packet : Packet)
    (index : Nat) :
    Ensures (before.admitPacket config packet index) (Kept config sent answered limit) := by
  refine (implicitly_kept packet kept).bind fun acked first => ?_
  refine ensures_bind fun received _ => ?_
  have stored : Kept config sent answered limit (acked.modifyRx (windowOf packet.type) fun rx =>
      { rx with receiveWindow := received }) := kept_same modified_rx_books first
  refine Ensures.bind (M := Kept config sent answered limit) ?_ fun updated second => ?_
  · exact ensures_ite (fun _ => ensures_ok.2 stored) fun _ =>
      kept_frame (updated_bitmap_books _ _) stored
  · refine ensures_bind fun location _ => ?_
    exact piggybacked_kept _ _ (kept_same set_contexts_books second)

theorem incoming_kept (kept : Kept config sent answered limit before) (packet : Packet)
    (resourcesAvailable : Bool) :
    Ensures (before.handleIncomingPacket config packet resourcesAvailable) fun received =>
      Kept config sent answered limit received.1 := by
  refine ensures_ite (fun _ => ensures_ok.2 kept) fun _ => ?_
  refine ensures_ite (fun _ => ensures_ok.2 ?_) fun _ => ensures_bind fun isReceived _ => ?_
  · split_ifs
    · have noted : SameBooks before (before.modifyRx (windowOf packet.type) fun rx =>
          { rx with hasOowDrop := true }) := modified_rx_books
      exact kept_same noted kept
    · exact kept
  · refine ensures_ite (fun _ => ensures_map.2 fun _ _ => kept) fun _ => ?_
    refine ensures_ite (fun _ => ensures_map.2 (admitted_kept kept packet _)) fun _ => ?_
    exact ensures_map.2 (piggybacked_kept _ _ kept)

/-- The second generation lowers the counter of requests when a pull is answered. -/
theorem pull_response_lowered (rsn : UInt32) :
    Ensures (before.countPullResponse rsn) fun after =>
      SameBooks before.decrementOutstandingRequestCountOnPullResponse after := by
  refine ensures_bind fun transaction _ => ensures_map.2 fun request _ => ?_
  dsimp only
  split_ifs
  · exact modified_tx_books fun _ => ⟨⟨rfl, rfl, rfl⟩, rfl, rfl, rfl⟩
  · exact .rfl

/-- A transaction is updated by a packet from the network, which is not one of those that its own
side sends. -/
theorem created_existing {location : TransactionLocation}
    (side : getTransactionLocation packet.type true = .ok location)
    (held : before.transactions ⟨packet.rsn, location⟩ = some old) :
    Ensures (before.createOrUpdateTransactionFromNetwork packet) fun after => ∃ state,
      old.state.update packet.type .ntwkRx = .ok state ∧
        after = before.setTransaction ⟨packet.rsn, location⟩
          { old.createPacket packet.type {} with state := state } := by
  unfold createOrUpdateTransactionFromNetwork
  rw [side]
  simp only [Except.bind, held, Option.some_or]
  intro after done
  obtain ⟨first, state, found, moved, rfl⟩ := update_state_eq_ok.1 done
  change Function.update before.transactions _ (some (old.createPacket packet.type {})) _ = _ at found
  rw [Function.update_self] at found
  cases found
  exact ⟨state, moved, by simp only [setTransaction, Function.update_idem]⟩

theorem created_started {location : TransactionLocation}
    (side : getTransactionLocation packet.type true = .ok location)
    (absent : before.transactions ⟨packet.rsn, location⟩ = none) :
    Ensures (before.createOrUpdateTransactionFromNetwork packet) fun after =>
      ∃ transaction state, startedTransaction packet.type = some transaction ∧
        transaction.state.update packet.type .ntwkRx = .ok state ∧
        after = before.setTransaction ⟨packet.rsn, location⟩
          { transaction.createPacket packet.type {} with state := state } := by
  unfold createOrUpdateTransactionFromNetwork
  rw [side]
  simp only [Except.bind, absent, Option.none_or]
  cases started : startedTransaction packet.type with
  | none => exact ensures_error
  | some transaction =>
    intro after done
    obtain ⟨first, state, found, moved, rfl⟩ := update_state_eq_ok.1 done
    change Function.update before.transactions _ (some (transaction.createPacket packet.type {})) _ = _
      at found
    rw [Function.update_self] at found
    cases found
    exact ⟨transaction, state, rfl, moved, by simp only [setTransaction, Function.update_idem]⟩

/-- A packet from the network belongs to no type that its side sends. -/
theorem created_onward {state : TransactionState}
    (side : getTransactionLocation type true = .ok key.location)
    (held : before.transactions key = some old)
    (moved : old.state.update type .ntwkRx = .ok state) (later : ¬ Begins type .ntwkRx) :
    Onward before (before.setTransaction key { old.createPacket type {} with state := state }) := by
  have same (other : PacketType) (outgoing : Outgoing other key) :
      numbers { old.createPacket type {} with state := state } other = numbers old other := by
    have differs : other ≠ type := by
      rintro rfl
      revert side outgoing
      unfold Outgoing
      cases other <;> cases key.location <;> decide
    simp only [numbers, Transaction.createPacket, Function.update_of_ne differs]
  constructor
  · intro other new found
    by_cases here : other = key
    · subst here
      simp only [setTransaction, Function.update_self, Option.some.injEq] at found
      subst found
      exact ⟨old, held, same, fun type => unsent_before moved later,
        pushing_before moved later (.inr (by decide)), pulling_before moved later (by decide)⟩
    · simp only [setTransaction, Function.update_of_ne here] at found
      exact ⟨new, found, fun _ _ => rfl, fun _ => id, id, id⟩
  · intro other first type found waits
    by_cases here : other = key
    · subst here
      cases held.symm.trans found
      exact ⟨_, Function.update_self _ _ _, waiting_stays moved later waits (by decide)⟩
    · exact ⟨first, (Function.update_of_ne here _ _).trans found, rfl⟩

/-- What is handed over is answered by a packet that its transaction waits to send. -/
theorem wanted_kept {work answer : WorkId} {location : TransactionLocation}
    (kept : Kept config sent answered limit before) (answers : nextWork work = some answer)
    (absent : answer ∉ pendingWork before)
    (side : getTransactionLocation answer.type false = .ok location)
    (held : before.transactions ⟨answer.rsn, location⟩ = some new)
    (waits : waitingState answer.type = some new.state) :
    Kept config sent answered limit { before with reordered := before.reordered ++ [work] } := by
  have pending : pendingWork { before with reordered := before.reordered ++ [work] } =
      pendingWork before ++ [answer] := by
    simp [pendingWork, answers]
  obtain ⟨live, debts, pulls, contains, tally, balanced, opened⟩ := kept.books.counted
  refine ⟨⟨⟨kept.books.recorded.windows, kept.books.recorded.metadata, kept.books.recorded.works,
    kept.books.recorded.apart⟩, ⟨?_, fun other member => ?_, kept.books.queued.fresh⟩,
    ⟨live, debts, pulls, contains, ⟨tally.request, tally.data⟩, balanced,
      ⟨opened.pushing, opened.pulling⟩⟩, kept.books.bounded⟩, kept.aligned⟩
  · rw [pending]
    refine List.nodup_append.2 ⟨kept.books.queued.distinct, List.nodup_singleton _, ?_⟩
    rintro one member other only rfl
    exact absent (List.mem_singleton.1 only ▸ member)
  · rw [pending] at member
    rcases List.mem_append.1 member with already | only
    · exact kept.books.queued.waiting other already
    · rw [List.mem_singleton.1 only]
      exact ⟨location, new, side, held, waits⟩

/-- A pull is answered: its counter, in the second generation, and its transaction go on. -/
theorem answered_kept {rsn : UInt32} (kept : Kept config sent answered limit before)
    (onward : Onward before after) (held : before.transactions ⟨rsn, .initiator⟩ = some old)
    (was : old.state = .pullReqNtwkTx) (holds : after.transactions ⟨rsn, .initiator⟩ = some new)
    (is : new.state ≠ .pullReqNtwkTx)
    (windows : ∀ window, SameWindow (if config.decrementOrcOnPullResponse then
        (before.decrementOutstandingRequestCountOnPullResponse).tx window
      else before.tx window) (after.tx window))
    (retransmissions : after.retransmissions = before.retransmissions)
    (pending : pendingWork after = pendingWork before) :
    Kept config sent (rsn ::ₘ answered) limit after := by
  obtain ⟨live, debts, pulls, contains, tally, balanced, opened⟩ := kept.books.counted
  have member : rsn ∈ pulls := opened.pulling rsn old held was
  have positive := Multiset.card_pos_iff_exists_mem.2 ⟨rsn, member⟩
  have lowered (window : WindowType) :
      (before.decrementOutstandingRequestCountOnPullResponse).tx window =
        if window = .request then
          { before.tx window with
            outstandingRequestsCounter := (before.tx window).outstandingRequestsCounter - 1 }
        else before.tx window := modify_tx_apply .request window _
  have same (window : WindowType) :
      (after.tx window).outstandingPackets = (before.tx window).outstandingPackets ∧
        (after.tx window).outstandingPacketContexts =
          (before.tx window).outstandingPacketContexts ∧
        (after.tx window).basePacketSequenceNumber =
          (before.tx window).basePacketSequenceNumber ∧
        (after.tx window).nextPacketSequenceNumber =
          (before.tx window).nextPacketSequenceNumber ∧
        (after.tx window).window = (before.tx window).window := by
    have read := windows window
    rw [read.outstanding, read.contexts, read.base, read.next, read.bits]
    split_ifs
    · rw [lowered]
      split_ifs <;> exact ⟨rfl, rfl, rfl, rfl, rfl⟩
    · exact ⟨rfl, rfl, rfl, rfl, rfl⟩
  have request := tally.request
  have counter (window : WindowType) : (after.tx window).outstandingRequestsCounter.toNat =
      if config.decrementOrcOnPullResponse ∧ window = .request then
        (before.tx window).outstandingRequestsCounter.toNat - 1
      else (before.tx window).outstandingRequestsCounter.toNat := by
    have read := (windows window).counter
    by_cases flag : config.decrementOrcOnPullResponse = true
    · rw [if_pos flag, lowered] at read
      by_cases here : window = .request
      · rw [if_pos here] at read
        rw [if_pos ⟨flag, here⟩, read]
        subst here
        rw [if_pos flag] at request
        refine UInt32.toNat_sub_of_le _ _ ?_
        rw [UInt32.le_iff_toNat_le, UInt32.toNat_one]
        omega
      · rw [if_neg here] at read
        rw [if_neg fun both => here both.2, read]
    · rw [if_neg flag] at read
      rw [if_neg fun both => flag both.1, read]
  refine ⟨⟨?_, kept.books.queued.onward onward (pending ▸ kept.books.queued.distinct)
      fun _ => pending ▸ id,
    ⟨live, debts, pulls.erase rsn, fun window => (same window).2.1 ▸ contains window, ⟨?_, ?_⟩,
      ⟨balanced.pushes, ?_⟩, (opened.onward onward).pushing, fun other next found pulling => ?_⟩,
    fun window => ?_⟩, fun window => ?_⟩
  · refine kept.books.recorded.onward onward (fun window psn context => ?_) (fun window work => ?_)
      fun window work => ?_
    · rw [(same window).2.1]
      exact id
    · rw [(same window).2.1, (same window).1, retransmissions]
      exact kept.books.recorded.works window work
    · rw [(same window).1, retransmissions]
      exact kept.books.recorded.apart window work
  · rw [counter, request]
    cases flag : config.decrementOrcOnPullResponse with
    | true =>
      rw [if_pos ⟨rfl, rfl⟩, if_pos rfl, if_pos rfl, Multiset.card_erase_of_mem member,
        Nat.pred_eq_sub_one]
      omega
    | false => rw [if_neg nofun, if_neg Bool.false_ne_true, if_neg Bool.false_ne_true]
  · rw [counter, if_neg nofun]
    exact tally.data
  · rw [Multiset.add_cons, ← Multiset.cons_add, Multiset.cons_erase member]
    exact balanced.pulls
  · refine (Multiset.mem_erase_of_ne ?_).2 ((opened.onward onward).pulling other next found pulling)
    rintro rfl
    cases holds.symm.trans found
    exact is pulling
  · refine UInt32.le_trans ?_ (kept.books.bounded window)
    rw [UInt32.le_iff_toNat_le, counter]
    split_ifs <;> omega
  · exact aligned_same (kept.aligned window) (same window).2.2.1 (same window).2.2.2.1
      (same window).2.2.2.2 (same window).2.1

/-- What is received leaves the books in order, but for the counter of an answered pull. -/
theorem received_kept (kept : Kept config sent answered limit before) (packet : Packet)
    (resourcesAvailable : Bool) :
    Ensures (before.receivePacket config packet resourcesAvailable) fun received =>
      ∃ middle, Kept config sent answered limit middle ∧
        SameBooks (if config.decrementOrcOnPullResponse ∧ received.2 ∧ packet.type = .pullData then
          middle.decrementOutstandingRequestCountOnPullResponse else middle) received.1 := by
  refine (incoming_kept kept packet resourcesAvailable).bind fun ⟨middle, accepted⟩ held => ?_
  dsimp only
  by_cases counts : (config.decrementOrcOnPullResponse && accepted &&
      decide (packet.type = .pullData)) = true
  · rw [if_pos counts]
    simp only [Bool.and_eq_true, decide_eq_true_eq] at counts
    refine ensures_map.2 ((pull_response_lowered packet.rsn).mono fun counted same => ?_)
    refine ⟨middle, held, ?_⟩
    rw [if_pos ⟨counts.1.1, rfl, counts.2⟩]
    exact same
  · rw [if_neg counts]
    refine ensures_ok.2 ⟨middle, held, ?_⟩
    rw [if_neg]
    · exact .rfl
    · rintro ⟨flag, accepts, pull⟩
      change accepted = true at accepts
      exact counts (by simp [flag, accepts, pull])

/-- The pull requests that a packet answers. -/
def answeredBy (config : Config) (before : Endpoint) (packet : Packet)
    (resourcesAvailable : Bool) : Multiset UInt32 :=
  match before.receivePacket config packet resourcesAvailable with
  | .ok (_, true) => if packet.type = .pullData then {packet.rsn} else 0
  | _ => 0

/-- A packet that starts a transaction. -/
theorem started_kept (kept : Kept config sent answered limit before)
    (starts : (startedTransaction packet.type).isSome)
    (unused : before.Unused ⟨packet.rsn, .target⟩) :
    Ensures (before.createOrUpdateTransactionFromNetwork packet) fun after =>
      Kept config sent answered limit after ∧ pendingWork after = pendingWork before ∧
        ∃ new, after.transactions ⟨packet.rsn, .target⟩ = some new ∧
          (packet.type = .pushRequest → new.state = .pushReqNtwkRx) := by
  have side : getTransactionLocation packet.type true = .ok .target := by
    revert starts
    cases packet.type <;> simp [startedTransaction, getTransactionLocation]
  refine (created_started side unused.1).mono ?_
  rintro after ⟨transaction, state, started, moved, rfl⟩
  have facts : (∀ other packet, transaction.packets other = some packet → packet = {}) ∧
      state ∉ pushingStates ∧ state ≠ .pullReqNtwkTx ∧
      (packet.type = .pushRequest → state = .pushReqNtwkRx) := by
    revert started moved
    cases packet.type <;> rintro ⟨⟩ ⟨⟩
    · exact ⟨fun _ _ found => (by cases found), by decide, by decide, fun same => by cases same⟩
    · refine ⟨fun other packet found => ?_, by decide, by decide, fun _ => rfl⟩
      change Function.update (fun _ => none) PacketType.pushGrant (some {}) other = some packet at found
      by_cases here : other = .pushGrant
      · subst here
        rw [Function.update_self] at found
        exact (Option.some.inj found).symm
      · rw [Function.update_of_ne here] at found
        cases found
    · exact ⟨fun _ _ found => (by cases found), by decide, by decide, fun same => by cases same⟩
  obtain ⟨empty, calm, unsent, grant⟩ := facts
  have resumed : Resumed ⟨packet.rsn, .target⟩
      { transaction.createPacket packet.type {} with state := state } [] before
      (before.setTransaction ⟨packet.rsn, .target⟩
        { transaction.createPacket packet.type {} with state := state }) := by
    refine started_resumed unused rfl (fun other found outgoing read => ?_) ⟨calm, unsent⟩
      (fun _ => .rfl) rfl (List.Perm.refl _) (Nat.zero_le _) (fun work none => by cases none)
    obtain ⟨packet_, held, rfl⟩ := Option.map_eq_some_iff.1 read
    change Function.update transaction.packets packet.type (some {}) other = some packet_ at held
    by_cases here : other = packet.type
    · subst here
      rw [Function.update_self] at held
      rw [← Option.some.inj held]
    · rw [Function.update_of_ne here] at held
      rw [empty other packet_ held]
  exact ⟨resumed_kept kept resumed, rfl, _, Function.update_self _ _ _, grant⟩

/-- The answer to a pull arrives. -/
theorem pull_answered_kept {middle : Endpoint} (kept : Kept config sent answered limit middle)
    (pull : packet.type = .pullData) (same : SameBooks (if config.decrementOrcOnPullResponse then
      middle.decrementOutstandingRequestCountOnPullResponse else middle) before) :
    Ensures (before.createOrUpdateTransactionFromNetwork packet)
      (Kept config sent (packet.rsn ::ₘ answered) limit) := by
  have side : getTransactionLocation packet.type true = .ok .initiator := by rw [pull]; rfl
  have entries (key : TransactionKey) : (before.transactions key).map entry =
      (middle.transactions key).map entry := by
    refine (same.transactions key).trans ?_
    split_ifs <;> rfl
  cases held : before.transactions ⟨packet.rsn, .initiator⟩ with
  | none =>
    refine (created_started side held).mono ?_
    rintro after ⟨transaction, state, started, _⟩
    rw [pull] at started
    cases started
  | some old =>
    refine (created_existing side held).mono ?_
    rintro after ⟨state, moved, rfl⟩
    have later : ¬ Begins packet.type .ntwkRx := by
      rintro ⟨types, _⟩
      simp [pull] at types
    have onward := created_onward side held moved later
    rw [pull] at moved
    obtain ⟨was, rfl⟩ := expect_eq_ok.1 moved
    obtain ⟨first, heldFirst, equal⟩ := entry_some (entries _) held
    refine answered_kept kept ((onward_entries entries).trans onward) heldFirst
      (equal.trans (List.mem_singleton.1 was)) (Function.update_self _ _ _) nofun
      (fun window => ?_) ?_ (pending_work_same ?_ ?_)
    · have read := same.windows window
      split_ifs at read ⊢ <;> exact read
    · refine same.retransmissions.trans ?_
      split_ifs <;> rfl
    · refine same.scheduled.trans ?_
      split_ifs <;> rfl
    · refine same.reordered.trans ?_
      split_ifs <;> rfl

/-- A grant, or solicited data, for a transaction that is there. -/
theorem continued_kept (kept : Kept config sent answered limit before)
    (continues : packet.type = .pushGrant ∨ packet.type = .pushSolicitedData) :
    Ensures (before.createOrUpdateTransactionFromNetwork packet) fun after =>
      Kept config sent answered limit after ∧ pendingWork after = pendingWork before ∧
        (packet.type = .pushGrant → ∃ old new,
          before.transactions ⟨packet.rsn, .initiator⟩ = some old ∧ old.state = .pushReqNtwkTx ∧
          after.transactions ⟨packet.rsn, .initiator⟩ = some new ∧ new.state = .pushGrantNtwkRx) := by
  obtain ⟨location, side⟩ : ∃ location, getTransactionLocation packet.type true = .ok location := by
    rcases continues with type | type <;> rw [type] <;> exact ⟨_, rfl⟩
  cases held : before.transactions ⟨packet.rsn, location⟩ with
  | none =>
    refine (created_started side held).mono ?_
    rintro after ⟨transaction, state, started, _⟩
    rcases continues with type | type <;> rw [type] at started <;> cases started
  | some old =>
    refine (created_existing side held).mono ?_
    rintro after ⟨state, moved, rfl⟩
    have later : ¬ Begins packet.type .ntwkRx := by
      rintro ⟨types, _⟩
      rcases continues with type | type <;> simp [type] at types
    refine ⟨onward_kept kept (created_onward side held moved later) (fun _ => .rfl) rfl
      (List.Sublist.refl _), rfl, fun grant => ?_⟩
    rw [grant] at side moved
    cases side
    obtain ⟨was, rfl⟩ := expect_eq_ok.1 moved
    exact ⟨old, _, held, List.mem_singleton.1 was, Function.update_self _ _ _, rfl⟩

/-- The packet is passed on to the reorder engine, or refused for the time being. -/
theorem handed_on_kept (isRnr : Bool) (rnrTimeout : Int)
    (kept : Kept config sent answered limit before)
    (wanted : ∀ answer, nextWork ⟨packet.rsn, packet.type⟩ = some answer →
      answer ∉ pendingWork before ∧ ∃ location new,
        getTransactionLocation answer.type false = .ok location ∧
          before.transactions ⟨answer.rsn, location⟩ = some new ∧
          waitingState answer.type = some new.state) :
    Ensures (if isRnr then
        (before.updateState ⟨packet.rsn, .target⟩ packet.type .ulpRnrRx).bind fun refused =>
          refused.handleNackFromUlp packet.rsn true rnrTimeout
      else .ok { before with reordered := before.reordered ++ [⟨packet.rsn, packet.type⟩] })
      (Kept config sent answered limit) := by
  refine ensures_ite (fun _ => ?_) fun _ => ensures_ok.2 ?_
  · refine (updated_kept kept (by rintro ⟨_, stage⟩; simp at stage) (by decide)).bind ?_
    rintro refused ⟨held, _⟩
    exact kept_frame (nacked_from_ulp_books packet.rsn true rnrTimeout) held
  · cases answers : nextWork ⟨packet.rsn, packet.type⟩ with
    | none => exact reordered_kept _ answers kept
    | some answer =>
      obtain ⟨absent, location, new, side, held, waits⟩ := wanted answer answers
      exact wanted_kept kept answers absent side held waits

theorem transferred_kept (kept : Kept config sent answered limit before) (packet : Packet)
    (resourcesAvailable isRnr : Bool) (rnrTimeout : Int)
    (fresh : before.StartsFresh config (.receivePacket packet resourcesAvailable isRnr rnrTimeout)) :
    Ensures (before.transferRxPacket config packet resourcesAvailable isRnr rnrTimeout)
      (Kept config sent (answeredBy config before packet resourcesAvailable + answered) limit) := by
  refine ensures_bind fun ⟨received, accepted⟩ done => ?_
  obtain ⟨middle, held, same⟩ := received_kept kept packet resourcesAvailable _ done
  unfold answeredBy
  rw [done]
  cases accepted with
  | false =>
    refine ensures_ok.2 ?_
    rw [if_neg (by simp)] at same
    rw [zero_add]
    exact kept_same same held
  | true =>
    dsimp only
    by_cases pull : packet.type = .pullData
    · rw [if_pos pull, Multiset.singleton_add, if_pos rfl]
      have same : SameBooks (if config.decrementOrcOnPullResponse then
          middle.decrementOutstandingRequestCountOnPullResponse else middle) received := by
        simpa [pull] using same
      refine (pull_answered_kept held pull same).bind fun created further => ?_
      refine handed_on_kept isRnr rnrTimeout further fun answer answers => ?_
      rw [pull] at answers
      cases answers
    · rw [if_neg pull, zero_add, if_pos rfl]
      rw [if_neg (by simp [pull])] at same
      have held := kept_same same held
      by_cases starts : (startedTransaction packet.type).isSome
      · have unused := fresh starts received done
        refine (started_kept held starts unused).bind ?_
        rintro created ⟨further, pending, new, holds, grant⟩
        refine handed_on_kept isRnr rnrTimeout further fun answer answers => ?_
        have requests : packet.type = .pushRequest := by
          revert starts answers
          cases packet.type <;> simp [startedTransaction, nextWork]
        rw [requests] at answers
        cases answers
        refine ⟨fun member => ?_, .target, new, rfl, holds, ?_⟩
        · rw [pending] at member
          obtain ⟨location, old, side, found, _⟩ := held.books.queued.waiting _ member
          cases side
          cases unused.1.symm.trans found
        · rw [grant requests]
          rfl
      · by_cases continues : packet.type = .pushGrant ∨ packet.type = .pushSolicitedData
        · refine (continued_kept held continues).bind ?_
          rintro created ⟨further, pending, grant⟩
          refine handed_on_kept isRnr rnrTimeout further fun answer answers => ?_
          have grants : packet.type = .pushGrant := by
            rcases continues with type | type
            · exact type
            · rw [type] at answers
              cases answers
          obtain ⟨old, new, found, was, holds, is⟩ := grant grants
          rw [grants] at answers
          cases answers
          refine ⟨fun member => ?_, .initiator, new, rfl, holds, ?_⟩
          · rw [pending] at member
            obtain ⟨location, first, side, foundFirst, waits⟩ := held.books.queued.waiting _ member
            cases side
            cases found.symm.trans foundFirst
            rw [was] at waits
            cases waits
          · rw [is]
            rfl
        · -- No other packet has a transaction.
          refine ensures_bind fun created made => ?_
          exfalso
          revert made starts continues pull
          unfold createOrUpdateTransactionFromNetwork
          cases packet.type <;> simp [startedTransaction, getTransactionLocation, Except.bind]

end Isekai.ArrivalBooks
