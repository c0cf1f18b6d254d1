import Isekai.BookFrameProofs

/-! What the acknowledgement of one packet does to the books: its context goes, it is taken out of
the queue in which it waits, the counter that counted it is lowered, and its transaction goes on. -/

namespace Isekai.AcknowledgementBooks
open Outcomes Reliability Reliability.Endpoint OutstandingBooks BookFrameProofs TransactionPhases
open MapContents

variable {config : Config} {endpoint : Endpoint}
variable {psn : UInt32} {type : PacketType} {window : WindowType} {key : TransactionKey}
  {stage : TransactionStage} {after : Endpoint} {context : OutstandingPacketContext}

/-- The acknowledgement of a packet of the type lowers a counter. -/
def Lowers (config : Config) (type : PacketType) : Prop :=
  (type = .pullRequest ∧ config.decrementOrcOnPullResponse = false) ∨ type = .pushSolicitedData ∨
    type = .pushUnsolicitedData

instance (config : Config) (type : PacketType) : Decidable (Lowers config type) :=
  inferInstanceAs (Decidable (_ ∨ _))

/-- Where a window stands. -/
structure SamePosition (before after : TxWindow) : Prop where
  base : after.basePacketSequenceNumber = before.basePacketSequenceNumber
  next : after.nextPacketSequenceNumber = before.nextPacketSequenceNumber
  bits : after.window = before.window

/-- The packet under a PSN of a window is acknowledged. -/
structure Acked (config : Config) (window : WindowType) (psn : UInt32)
    (context : OutstandingPacketContext) (before after : Endpoint) : Prop where
  positions : ∀ other, SamePosition (before.tx other) (after.tx other)
  contexts : (after.tx window).outstandingPacketContexts =
    Function.update (before.tx window).outstandingPacketContexts psn none
  elsewhere : ∀ other, other ≠ window → (after.tx other).outstandingPacketContexts =
    (before.tx other).outstandingPacketContexts
  counters : ∀ other, (after.tx other).outstandingRequestsCounter =
    if Lowers config context.packetType ∧ countedWindow context.packetType = other then
      (before.tx other).outstandingRequestsCounter - 1
    else (before.tx other).outstandingRequestsCounter
  waiting : ∀ other, ∀ work ∈ (after.tx other).outstandingPackets,
    work ∈ (before.tx other).outstandingPackets
  queued : ∀ other, ∀ work ∈ after.retransmissions other, work ∈ before.retransmissions other
  gone : ∀ work, work ∈ (after.tx window).outstandingPackets ∨
    work ∈ after.retransmissions window → work.psn ≠ psn
  onward : Onward before after
  pending : pendingWork after = pendingWork before
  pushed : context.packetType = .pushSolicitedData →
    (∃ old, before.transactions ⟨context.rsn, .initiator⟩ = some old ∧
      old.state ∈ pushingStates) ∧
    ∀ new, after.transactions ⟨context.rsn, .initiator⟩ = some new → new.state ∉ pushingStates

/-! ## The parts of an acknowledgement -/

theorem update_state_eq_ok : endpoint.updateState key type stage = .ok after ↔
      ∃ old state, endpoint.transactions key = some old ∧ old.state.update type stage = .ok state ∧
        after = endpoint.setTransaction key { old with state := state } := by
  unfold updateState
  simp only [bind_ok, map_eq_ok, get_transaction_eq_ok]
  constructor
  · rintro ⟨old, held, state, moved, rfl⟩
    exact ⟨old, state, held, moved, rfl⟩
  · rintro ⟨old, state, held, moved, rfl⟩
    exact ⟨old, held, state, moved, rfl⟩

/-- A transaction that goes on without a packet being sent. -/
theorem set_state_onward {old : Transaction} {state : TransactionState}
    (held : endpoint.transactions key = some old)
    (moved : old.state.update type stage = .ok state) (later : ¬ Begins type stage)
    (unsent : stage ≠ .ntwkTx) (pulls : state = .pullReqNtwkTx → old.state = .pullReqNtwkTx) :
    Onward endpoint (endpoint.setTransaction key { old with state := state }) := by
  constructor
  · intro other new found
    by_cases here : other = key
    · subst here
      simp only [setTransaction, Function.update_self, Option.some.injEq] at found
      subst found
      exact ⟨old, held, fun _ _ => rfl, fun _ => unsent_before moved later,
        pushing_before moved later (.inr unsent), pulls⟩
    · simp only [setTransaction, Function.update_of_ne here] at found
      exact ⟨new, found, fun _ _ => rfl, fun _ => id, id, id⟩
  · intro other before waited found waits
    by_cases here : other = key
    · subst here
      rw [held, Option.some.injEq] at found
      subst found
      refine ⟨{ old with state := state }, by simp [setTransaction], ?_⟩
      exact waiting_stays moved later waits unsent
    · exact ⟨before, by simpa [setTransaction, Function.update_of_ne here] using found, rfl⟩

theorem pulling_before {state next : TransactionState}
    (moved : state.update type stage = .ok next) (later : ¬ Begins type stage)
    (unsent : stage ≠ .ntwkTx) (pulling : next = .pullReqNtwkTx) : state = .pullReqNtwkTx := by
  rcases update_moves moved later unsent with same | moved
  · exact same ▸ pulling
  · have leaves : ∀ move ∈ moves, move.2 ≠ .pullReqNtwkTx := by decide
    exact absurd pulling (leaves _ moved)

theorem updated_onward (later : ¬ Begins type stage) (unsent : stage ≠ .ntwkTx) :
    Ensures (endpoint.updateState key type stage) (Onward endpoint) := by
  intro after done
  obtain ⟨old, state, held, moved, rfl⟩ := update_state_eq_ok.1 done
  exact set_state_onward held moved later unsent (pulling_before moved later unsent)

/-- A transaction that waits for nothing to be sent is erased. -/
theorem erased_onward {old : Transaction} (held : endpoint.transactions key = some old)
    (idle : ∀ type, waitingState type ≠ some old.state) :
    Onward endpoint (endpoint.eraseTransaction key) := by
  constructor
  · intro other new found
    by_cases here : other = key
    · subst here
      simp [eraseTransaction] at found
    · simp only [eraseTransaction, Function.update_of_ne here] at found
      exact ⟨new, found, fun _ _ => rfl, fun _ => id, id, id⟩
  · intro other before type found waits
    by_cases here : other = key
    · subst here
      rw [held, Option.some.injEq] at found
      subst found
      exact absurd waits (idle type)
    · exact ⟨before, by simpa [eraseTransaction, Function.update_of_ne here] using found, rfl⟩

theorem modify_tx_apply (window other : WindowType) (change : TxWindow → TxWindow) :
    (endpoint.modifyTx window change).tx other =
      if other = window then change (endpoint.tx other) else endpoint.tx other := by
  by_cases here : other = window
  · subst here
    simp [modifyTx]
  · simp [modifyTx, here]

theorem decremented_eq (type : PacketType) :
    endpoint.decrementOutstandingRequestCount config type =
      if Lowers config type then endpoint.modifyTx (countedWindow type) fun window =>
        { window with outstandingRequestsCounter := window.outstandingRequestsCounter - 1 }
      else endpoint := by
  by_cases flag : config.decrementOrcOnPullResponse = true <;> cases type <;>
    simp [decrementOutstandingRequestCount, Lowers, flag]

/-- The counter that counted the packet is lowered. -/
structure Lowered (config : Config) (type : PacketType) (before after : Endpoint) : Prop where
  positions : ∀ other, SamePosition (before.tx other) (after.tx other)
  contexts : ∀ other, (after.tx other).outstandingPacketContexts =
    (before.tx other).outstandingPacketContexts
  counters : ∀ other, (after.tx other).outstandingRequestsCounter =
    if Lowers config type ∧ countedWindow type = other then
      (before.tx other).outstandingRequestsCounter - 1
    else (before.tx other).outstandingRequestsCounter
  waiting : ∀ other, (after.tx other).outstandingPackets = (before.tx other).outstandingPackets
  retransmissions : after.retransmissions = before.retransmissions
  scheduled : after.scheduled = before.scheduled
  reordered : after.reordered = before.reordered

theorem Lowered.books {before middle : Endpoint} (lowered : Lowered config type before middle)
    (same : SameBooks middle after) :
    Lowered config type before after where
  positions other :=
    ⟨(same.windows other).base.trans (lowered.positions other).base,
      (same.windows other).next.trans (lowered.positions other).next,
      (same.windows other).bits.trans (lowered.positions other).bits⟩
  contexts other := (same.windows other).contexts.trans (lowered.contexts other)
  counters other := (same.windows other).counter.trans (lowered.counters other)
  waiting other := (same.windows other).outstanding.trans (lowered.waiting other)
  retransmissions := same.retransmissions.trans lowered.retransmissions
  scheduled := same.scheduled.trans lowered.scheduled
  reordered := same.reordered.trans lowered.reordered

theorem decremented_lowered (type : PacketType) :
    Lowered config type endpoint (endpoint.decrementOutstandingRequestCount config type) := by
  rw [decremented_eq]
  by_cases lowers : Lowers config type
  · rw [if_pos lowers]
    refine ⟨fun other => ?_, fun other => ?_, fun other => ?_, fun other => ?_, rfl, rfl, rfl⟩
    · rw [modify_tx_apply]
      split_ifs <;> exact ⟨rfl, rfl, rfl⟩
    · rw [modify_tx_apply]
      split_ifs <;> rfl
    · rw [modify_tx_apply]
      by_cases here : other = countedWindow type
      · subst here
        simp [lowers]
      · rw [if_neg here, if_neg fun both => here both.2.symm]
    · rw [modify_tx_apply]
      split_ifs <;> rfl
  · rw [if_neg lowers]
    refine ⟨fun _ => ⟨rfl, rfl, rfl⟩, fun _ => rfl, fun _ => ?_, fun _ => rfl, rfl, rfl, rfl⟩
    rw [if_neg fun both => lowers both.1]

theorem decremented_transactions (type : PacketType) :
    (endpoint.decrementOutstandingRequestCount config type).transactions =
      endpoint.transactions := by
  rw [decremented_eq]
  split_ifs <;> rfl

theorem lowered_spec (key : TransactionKey) (type : PacketType) :
    Ensures (endpoint.countAcknowledged config key type) fun after =>
      Lowered config type endpoint after ∧
        ∀ key, (after.transactions key).map entry = (endpoint.transactions key).map entry := by
  have lowered : Lowered config type endpoint
      (endpoint.decrementOutstandingRequestCount config type) := decremented_lowered type
  have same : (endpoint.decrementOutstandingRequestCount config type).transactions =
      endpoint.transactions := decremented_transactions type
  refine ensures_ite (fun _ => ?_) fun _ => ensures_ok.2 ⟨lowered, fun _ => by rw [same]⟩
  refine ensures_bind fun transaction _ => ensures_map.2 fun request _ => ?_
  dsimp only
  split_ifs
  · have noted : SameBooks (endpoint.decrementOutstandingRequestCount config type)
        ((endpoint.decrementOutstandingRequestCount config type)
          |>.decrementOutstandingRetransmittedRequestCount config type true) :=
      decremented_retransmitted_books type true
    exact ⟨lowered.books noted, fun key => (noted.transactions key).trans (by rw [same])⟩
  · exact ⟨lowered, fun _ => by rw [same]⟩

/-- The packet leaves the queue that it is in. -/
structure Taken (window : WindowType) (psn : UInt32) (before after : Endpoint) : Prop where
  positions : ∀ other, SamePosition (before.tx other) (after.tx other)
  contexts : ∀ other, (after.tx other).outstandingPacketContexts =
    (before.tx other).outstandingPacketContexts
  counters : ∀ other, (after.tx other).outstandingRequestsCounter =
    (before.tx other).outstandingRequestsCounter
  waiting : ∀ other, ∀ work ∈ (after.tx other).outstandingPackets,
    work ∈ (before.tx other).outstandingPackets
  queued : ∀ other, ∀ work ∈ after.retransmissions other, work ∈ before.retransmissions other
  gone : ∀ work, work ∈ (after.tx window).outstandingPackets ∨
    work ∈ after.retransmissions window → work.psn ≠ psn
  scheduled : after.scheduled = before.scheduled
  reordered : after.reordered = before.reordered
  transactions : ∀ key, (after.transactions key).map entry = (before.transactions key).map entry

theorem Taken.books {before middle : Endpoint} (taken : Taken window psn before middle)
    (same : SameBooks middle after) :
    Taken window psn before after where
  positions other :=
    ⟨(same.windows other).base.trans (taken.positions other).base,
      (same.windows other).next.trans (taken.positions other).next,
      (same.windows other).bits.trans (taken.positions other).bits⟩
  contexts other := (same.windows other).contexts.trans (taken.contexts other)
  counters other := (same.windows other).counter.trans (taken.counters other)
  waiting other := (same.windows other).outstanding ▸ taken.waiting other
  queued other := same.retransmissions ▸ taken.queued other
  gone := by
    rw [(same.windows window).outstanding, same.retransmissions]
    exact taken.gone
  scheduled := same.scheduled.trans taken.scheduled
  reordered := same.reordered.trans taken.reordered
  transactions key := (same.transactions key).trans (taken.transactions key)

theorem mem_erase_work {works : List RetransmissionWorkId} {work : RetransmissionWorkId} :
    work ∈ eraseWork works psn ↔ work ∈ works ∧ work.psn ≠ psn := by
  simp [eraseWork]

theorem contains_psn_iff {works : List RetransmissionWorkId} :
    containsPsn works psn = true ↔ ∃ work ∈ works, work.psn = psn := by
  simp [containsPsn]

theorem erased_taken (recorded : Recorded endpoint)
    (waits : containsPsn (endpoint.tx window).outstandingPackets psn = true) :
    Taken window psn endpoint (endpoint.modifyTx window fun tx =>
      { tx with outstandingPackets := eraseWork tx.outstandingPackets psn }) := by
  obtain ⟨work, member, rfl⟩ := contains_psn_iff.1 waits
  refine ⟨fun other => ?_, fun other => ?_, fun other => ?_, fun other erased => ?_,
    fun _ _ => id, ?_, rfl, rfl, fun _ => rfl⟩
  · rw [modify_tx_apply]
    split_ifs <;> exact ⟨rfl, rfl, rfl⟩
  · rw [modify_tx_apply]
    split_ifs <;> rfl
  · rw [modify_tx_apply]
    split_ifs <;> rfl
  · rw [modify_tx_apply]
    split_ifs
    · exact fun kept => (mem_erase_work.1 kept).1
    · exact id
  · rw [modify_tx_apply, if_pos rfl]
    rintro other (kept | queued)
    · exact (mem_erase_work.1 kept).2
    · exact (recorded.apart window work member other queued).symm

theorem dequeued_taken (recorded : Recorded endpoint)
    (found : (endpoint.tx window).outstandingPacketContexts psn = some context)
    (absent : containsPsn (endpoint.tx window).outstandingPackets psn = false) :
    Ensures (endpoint.dequeuePacketFromRetxScheduler config context.rsn context.packetType)
      (Taken window psn endpoint) := by
  refine ensures_map.2 fun located read => ?_
  obtain ⟨rsn, outgoing, held, packet⟩ := locate_eq_ok.1 read
  have type := recorded.windows window psn context found
  obtain ⟨_, same⟩ := recorded.metadata window psn context located.key located.transaction found
    rsn.symm outgoing held
  have number : located.packet.psn = psn := by
    refine same (located.packet.psn, located.packet.transmitAttempts) ?_
    simp only [numbers, packet, Option.map_some]
  have dequeued : Taken window psn endpoint { endpoint with
      retransmissions := Function.update endpoint.retransmissions (windowOf context.packetType)
        (eraseWork (endpoint.retransmissions (windowOf context.packetType))
          located.packet.psn) } := by
    rw [type, number]
    refine ⟨fun _ => ⟨rfl, rfl, rfl⟩, fun _ => rfl, fun _ => rfl, fun _ _ => id,
      fun other work member => ?_, ?_, rfl, rfl, fun _ => rfl⟩
    · by_cases here : other = window
      · subst here
        simp only [Function.update_self] at member
        exact (mem_erase_work.1 member).1
      · simpa only [Function.update_of_ne here] using member
    · simp only [Function.update_self]
      rintro work (waits | queued)
      · intro is
        have present := contains_psn_iff.2 ⟨work, waits, is⟩
        rw [absent] at present
        cases present
      · exact (mem_erase_work.1 queued).2
  cases config.version with
  | gen1 => exact dequeued
  | gen2 flag => exact dequeued.books (set_transaction_books held rfl)

theorem taken_spec (recorded : Recorded endpoint)
    (found : (endpoint.tx window).outstandingPacketContexts psn = some context) :
    Ensures (endpoint.takeOutstanding config window context psn) (Taken window psn endpoint) := by
  refine ensures_ite (fun absent => ?_) fun present => ensures_map.2 fun located _ => ?_
  · exact dequeued_taken recorded found (by simpa using absent)
  · have erased := erased_taken recorded (by simpa using present)
    dsimp only
    split_ifs
    · exact erased.books
        (erase_counted_books.after (decremented_retransmitted_books context.packetType true))
    · exact erased.books erase_counted_books

/-- The packet's context is forgotten, and the ULP or the table of transactions is told. -/
structure Released (window : WindowType) (psn : UInt32) (context : OutstandingPacketContext)
    (before after : Endpoint) : Prop where
  windows : ∀ other, SameWindow ((before.modifyTx window fun tx => { tx with
    outstandingPacketContexts := Function.update tx.outstandingPacketContexts psn none }).tx other)
    (after.tx other)
  retransmissions : after.retransmissions = before.retransmissions
  pending : pendingWork after = pendingWork before
  onward : Onward before after
  transactions : context.packetType ≠ .pullData → ∀ key,
    (after.transactions key).map entry = (before.transactions key).map entry

theorem released_spec (idle : context.packetType = .pullData → ∀ old,
      endpoint.transactions ⟨context.rsn, .target⟩ = some old →
      ∀ type, waitingState type ≠ some old.state) :
    Ensures (endpoint.releaseAcknowledged config window context psn)
      (Released window psn context endpoint) := by
  refine ensures_map.2 fun located read => ?_
  obtain ⟨rsn, outgoing, held, _⟩ := locate_eq_ok.1 read
  dsimp only
  generalize forgotten : (endpoint.modifyTx window fun tx => { tx with
    outstandingPacketContexts :=
      Function.update tx.outstandingPacketContexts psn none }) = middle at *
  have transactions : middle.transactions = endpoint.transactions := by rw [← forgotten]; rfl
  have retransmissions : middle.retransmissions = endpoint.retransmissions := by
    rw [← forgotten]; rfl
  have pending : pendingWork middle = pendingWork endpoint := by rw [← forgotten]; rfl
  have noted : SameBooks middle (if config.enableRack && !config.rackUseT1 then
      middle.rackUpdate config located.packet.transmissionTime else middle) := by
    split_ifs
    · exact rack_update_books config _
    · exact .rfl
  generalize (if config.enableRack && !config.rackUseT1 then
    middle.rackUpdate config located.packet.transmissionTime else middle) = updated at noted ⊢
  have windows (other : WindowType) : SameWindow (middle.tx other) (updated.tx other) :=
    noted.windows other
  have queues : updated.retransmissions = endpoint.retransmissions :=
    noted.retransmissions.trans retransmissions
  have works : pendingWork updated = pendingWork endpoint :=
    (pending_work_same noted.scheduled noted.reordered).trans pending
  have entries (key : TransactionKey) :
      (updated.transactions key).map entry = (endpoint.transactions key).map entry :=
    transactions ▸ noted.transactions key
  have further := noted.onward
  have onward : Onward endpoint updated :=
    ⟨fun key new found => transactions ▸ further.back key new found,
      fun key old type found => further.waiting key old type (transactions ▸ found)⟩
  split_ifs with data pull
  · refine ⟨fun other => forgotten ▸ windows other, queues, ?_, ⟨onward.back, onward.waiting⟩,
      fun _ => entries⟩
    -- A completion is not followed by another packet.
    rw [← works]
    simp [pendingWork, nextWork]
  · have here : located.key = ⟨context.rsn, .target⟩ := by
      unfold Outgoing at outgoing
      rw [pull] at outgoing
      simp only [getTransactionLocation, Bool.false_eq_true, if_false, Except.ok.injEq] at outgoing
      rw [← rsn, outgoing]
    obtain ⟨old, heldAfter, same⟩ := Option.map_eq_some_iff.1
      ((noted.transactions located.key).trans (by rw [held, Option.map_some]))
    have state : old.state = located.transaction.state := congrArg Prod.fst same
    refine ⟨fun other => forgotten ▸ windows other, queues, works,
      onward.trans (erased_onward heldAfter fun type => ?_), fun differs => absurd pull differs⟩
    rw [state]
    exact idle pull _ (here ▸ transactions ▸ held) type
  · exact ⟨fun other => forgotten ▸ windows other, queues, works, onward, fun _ => entries⟩

/-! ## The acknowledgement as a whole -/

theorem Recorded.lowered {before : Endpoint} (recorded : Recorded before)
    (onward : Onward before after) (lowered : Lowered config type before after) :
    Recorded after := by
  refine recorded.onward onward (fun window psn context => ?_) (fun window work => ?_)
    fun window work => ?_
  · rw [lowered.contexts]
    exact id
  · rw [lowered.contexts, lowered.waiting, lowered.retransmissions]
    exact recorded.works window work
  · rw [lowered.waiting, lowered.retransmissions]
    exact recorded.apart window work

theorem acknowledged_acked (recorded : Recorded endpoint)
    (found : (endpoint.tx window).outstandingPacketContexts psn = some context) :
    Ensures (endpoint.enqueueAckToUlp config window psn)
      (Acked config window psn context endpoint) := by
  unfold enqueueAckToUlp
  rw [found]
  refine ensures_bind fun location outgoing => ensures_bind fun updated moved =>
    ensures_bind fun counted lowers => ensures_bind fun taken takes => ?_
  obtain ⟨old, state, held, advanced, rfl⟩ := update_state_eq_ok.1 moved
  have later : ¬ Begins context.packetType .ntwkAckRx := by
    rintro ⟨_, stage⟩
    simp at stage
  have updated := set_state_onward held advanced later (by decide)
    (pulling_before advanced later (by decide))
  generalize here : (⟨context.rsn, location⟩ : TransactionKey) = key at *
  obtain ⟨lowered, entries⟩ := lowered_spec key context.packetType counted lowers
  have lowered : Lowered config context.packetType endpoint counted :=
    ⟨lowered.positions, lowered.contexts, lowered.counters, lowered.waiting,
      lowered.retransmissions, lowered.scheduled, lowered.reordered⟩
  have onward : Onward endpoint counted := updated.trans (onward_entries entries)
  have recordedCounted : Recorded counted := Recorded.lowered recorded onward lowered
  have foundCounted : (counted.tx window).outstandingPacketContexts psn = some context := by
    rw [lowered.contexts]
    exact found
  have dequeued := taken_spec recordedCounted foundCounted taken takes
  -- The state to which the update leads, when the packet is released.
  have advancedTaken (new : Transaction) (held : taken.transactions key = some new) :
      new.state = state := by
    obtain ⟨middle, heldCounted, same⟩ := entry_some (dequeued.transactions key) held
    obtain ⟨first, heldUpdated, same'⟩ := entry_some (entries key) heldCounted
    simp only [setTransaction, Function.update_self, Option.some.injEq] at heldUpdated
    rw [← same, ← same', ← heldUpdated]
  have idle : context.packetType = .pullData → ∀ old,
      taken.transactions ⟨context.rsn, .target⟩ = some old →
      ∀ type, waitingState type ≠ some old.state := by
    intro pull new heldTaken type
    rw [pull] at outgoing advanced
    cases outgoing
    subst here
    rw [advancedTaken new heldTaken]
    obtain ⟨_, rfl⟩ := expect_eq_ok.1 advanced
    cases type <;> decide
  refine (released_spec idle).mono fun after released => ?_
  have windows (other : WindowType) := released.windows other
  have positions (other : WindowType) : SamePosition (endpoint.tx other) (after.tx other) := by
    have same := windows other
    rw [modify_tx_apply] at same
    refine ⟨same.base.trans (.trans ?_ ((dequeued.positions other).base.trans
        (lowered.positions other).base)),
      same.next.trans (.trans ?_ ((dequeued.positions other).next.trans
        (lowered.positions other).next)),
      same.bits.trans (.trans ?_ ((dequeued.positions other).bits.trans
        (lowered.positions other).bits))⟩ <;> split_ifs <;> rfl
  have queues (other : WindowType) : (after.tx other).outstandingPackets =
      (taken.tx other).outstandingPackets := by
    refine (windows other).outstanding.trans ?_
    rw [modify_tx_apply]
    split_ifs <;> rfl
  refine ⟨positions, ?_, fun other differs => ?_, fun other => ?_, fun other work => ?_,
    fun other work => ?_, fun work => ?_, onward.trans ((onward_entries dequeued.transactions).trans
      released.onward), ?_, fun pushed => ⟨?_, fun new heldAfter => ?_⟩⟩
  · rw [(windows window).contexts, modify_tx_apply, if_pos rfl, ← lowered.contexts,
      ← dequeued.contexts]
  · rw [(windows other).contexts, modify_tx_apply, if_neg differs, dequeued.contexts,
      lowered.contexts]
  · rw [← lowered.counters, ← dequeued.counters, (windows other).counter, modify_tx_apply]
    split_ifs <;> rfl
  · rw [queues, ← lowered.waiting]
    exact dequeued.waiting other work
  · rw [released.retransmissions, ← lowered.retransmissions]
    exact dequeued.queued other work
  · rw [queues, released.retransmissions]
    exact dequeued.gone work
  · exact released.pending.trans ((pending_work_same dequeued.scheduled dequeued.reordered).trans
      (pending_work_same lowered.scheduled lowered.reordered))
  · rw [pushed] at outgoing advanced
    cases outgoing
    refine ⟨old, here ▸ held, ?_⟩
    have before := (expect_eq_ok.1 advanced).1
    rw [List.mem_singleton.1 before]
    decide
  · rw [pushed] at outgoing advanced
    cases outgoing
    obtain ⟨middle, heldTaken, same⟩ :=
      entry_some (released.transactions (by rw [pushed]; decide) _) heldAfter
    rw [← same, advancedTaken middle (here ▸ heldTaken), ← (expect_eq_ok.1 advanced).2]
    decide

end Isekai.AcknowledgementBooks
