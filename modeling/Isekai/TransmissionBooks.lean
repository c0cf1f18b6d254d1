import Isekai.RetransmissionBooks

/-! The books of outstanding packets over a transmission. The first one takes the next PSN, opens a
context and counts the request; a retransmission puts the packet back among those that wait for
an acknowledgement. -/

namespace Isekai.TransmissionBooks
open SequenceNumber Outcomes Reliability Reliability.Endpoint OutstandingBooks BookFrameProofs
open WindowAlignment TransactionPhases MapContents AcknowledgementBooks BooksAcknowledged
open AcknowledgementLoops RetransmissionBooks
open FastConnectionScheduler (ConnectionState roundedFcwnd txBitmapWidth)

variable {config : Config} {sent : WindowType → List OutstandingPacketContext}
  {answered : Multiset UInt32} {limit : WindowType → UInt32} {before after : Endpoint}
variable {type : PacketType}

/-- A packet is added to those that wait, under its PSN. -/
structure Waiting (window : WindowType) (work : RetransmissionWorkId) (before after : Endpoint) :
    Prop where
  contexts : ∀ other, (after.tx other).outstandingPacketContexts =
    if other = window then
      Function.update (before.tx other).outstandingPacketContexts work.psn
        (some ⟨work.rsn, work.type⟩)
    else (before.tx other).outstandingPacketContexts
  waiting : ∀ other, ∀ next ∈ (after.tx other).outstandingPackets,
    next ∈ (before.tx other).outstandingPackets ∨ other = window ∧ next = work
  bases : ∀ other, (after.tx other).basePacketSequenceNumber =
    (before.tx other).basePacketSequenceNumber
  bits : ∀ other, (after.tx other).window = (before.tx other).window
  reordered : after.reordered = before.reordered

/-- The transaction of the packet, and what becomes of it. The others stay. -/
structure Advanced (rsn : UInt32) (type : PacketType) (psn : UInt32) (key : TransactionKey)
    (old new : Transaction) (before after : Endpoint) : Prop where
  rsn : key.rsn = rsn
  outgoing : Outgoing type key
  held : before.transactions key = some old
  holds : after.transactions key = some new
  elsewhere : ∀ other, other ≠ key →
    (after.transactions other).map entry = (before.transactions other).map entry
  number : ∀ found, numbers new type = some found → found.1 = psn
  kept : ∃ found, numbers old type = some found
  others : ∀ other, other ≠ type → numbers new other = numbers old other

theorem same_key {one other : TransactionKey} (first : Outgoing type one)
    (second : Outgoing type other) (rsn : one.rsn = other.rsn) : one = other := by
  have location := Except.ok.inj (first.symm.trans second)
  cases one
  cases other
  simp_all

theorem entry_elsewhere {key : TransactionKey} {new : Transaction}
    (same : (after.transactions key).map entry = (before.transactions key).map entry)
    (held : after.transactions key = some new) :
    ∃ old, before.transactions key = some old ∧ new.state = old.state ∧
      numbers new = numbers old := by
  rw [held, Option.map_some] at same
  obtain ⟨old, found, equal⟩ := Option.map_eq_some_iff.1 same.symm
  exact ⟨old, found, (congrArg Prod.fst equal).symm, (congrArg Prod.snd equal).symm⟩

/-! ## The first transmission -/

/-- What a first transmission changes. -/
structure Sent (work : WorkId) (key : TransactionKey) (old new : Transaction)
    (before after : Endpoint) : Prop
    extends Waiting (windowOf work.type)
        ⟨work.rsn, (before.tx (windowOf work.type)).nextPacketSequenceNumber, work.type⟩ before after,
      Advanced work.rsn work.type (before.tx (windowOf work.type)).nextPacketSequenceNumber key old
        new before after where
  next : ∀ other, (after.tx other).nextPacketSequenceNumber =
    if other = windowOf work.type then (before.tx other).nextPacketSequenceNumber + 1
    else (before.tx other).nextPacketSequenceNumber
  counters : ∀ other, (after.tx other).outstandingRequestsCounter =
    if ConnectionState.countsAsRequest work.type ∧ other = windowOf work.type then
      (before.tx other).outstandingRequestsCounter + 1
    else (before.tx other).outstandingRequestsCounter
  queues : after.retransmissions = before.retransmissions
  scheduled : after.scheduled = before.scheduled.erase work
  moved : old.state.update work.type .ntwkTx = .ok new.state

section Sent
variable {work : WorkId} {key : TransactionKey} {old new : Transaction}

theorem recorded_sent (recorded : Recorded before)
    (vacant : (before.tx (windowOf work.type)).outstandingPacketContexts
      (before.tx (windowOf work.type)).nextPacketSequenceNumber = none)
    (step : Sent work key old new before after) : Recorded after := by
  obtain ⟨waits, sentNow⟩ := update_sent step.moved
  have later : ¬ Begins work.type .ntwkTx := by
    rintro ⟨_, stage⟩
    simp at stage
  have context (window : WindowType) (psn : UInt32) (content : OutstandingPacketContext)
      (found : (after.tx window).outstandingPacketContexts psn = some content) :
      (window = windowOf work.type ∧
        psn = (before.tx (windowOf work.type)).nextPacketSequenceNumber ∧
        content = ⟨work.rsn, work.type⟩) ∨
      (before.tx window).outstandingPacketContexts psn = some content := by
    rw [step.contexts] at found
    split_ifs at found with here
    · by_cases same : psn = (before.tx (windowOf work.type)).nextPacketSequenceNumber
      · rw [same, Function.update_self] at found
        exact .inl ⟨here, same, (Option.some.inj found).symm⟩
      · rw [Function.update_of_ne same] at found
        exact .inr found
    · exact .inr found
  have earlier (window : WindowType) (psn : UInt32) (content : OutstandingPacketContext)
      (found : (before.tx window).outstandingPacketContexts psn = some content) :
      (after.tx window).outstandingPacketContexts psn = some content := by
    rw [step.contexts]
    split_ifs with here
    · subst here
      rw [Function.update_of_ne, found]
      rintro rfl
      exact nomatch vacant.symm.trans found
    · exact found
  refine ⟨fun window psn content found => ?_, fun window psn content other next found rsn outgoing
    held => ?_, fun window next held => ?_, fun window next waiting other queued => ?_⟩
  · rcases context window psn content found with ⟨rfl, rfl, rfl⟩ | before_
    · rfl
    · exact recorded.windows window psn content before_
  · rcases context window psn content found with ⟨rfl, rfl, rfl⟩ | found
    · obtain rfl : key = other := same_key step.outgoing outgoing (step.rsn.trans rsn)
      cases step.holds.symm.trans held
      exact ⟨sent_after step.moved, step.number⟩
    · by_cases here : other = key
      · subst here
        cases step.holds.symm.trans held
        obtain ⟨unsent, same⟩ := recorded.metadata window psn content other old found rsn outgoing
          step.held
        refine ⟨fun back => unsent (unsent_before step.moved later back), ?_⟩
        rw [step.others]
        · exact same
        · rintro is
          exact unsent (is ▸ waiting_unsent waits)
      · obtain ⟨first, heldFirst, state, packets⟩ := entry_elsewhere (step.elsewhere other here) held
        rw [state, packets]
        exact recorded.metadata window psn content other first found rsn outgoing heldFirst
  · rcases held with waiting | queued
    · rcases step.waiting window next waiting with already | ⟨rfl, rfl⟩
      · exact earlier window _ _ (recorded.works window next (.inl already))
      · rw [step.contexts, if_pos rfl, Function.update_self]
    · rw [step.queues] at queued
      exact earlier window _ _ (recorded.works window next (.inr queued))
  · rw [step.queues] at queued
    rcases step.waiting window next waiting with already | ⟨rfl, rfl⟩
    · exact recorded.apart window next already other queued
    · intro same
      have found := recorded.works _ other (.inr queued)
      rw [← same] at found
      exact nomatch vacant.symm.trans found

theorem pending_sent (member : work ∈ before.scheduled)
    (step : Sent work key old new before after) :
    pendingWork after = (pendingWork before).erase work := by
  simp only [pendingWork, step.scheduled, step.reordered]
  exact (List.erase_append_left _ member).symm

theorem queued_sent (queued : Queued before) (member : work ∈ before.scheduled)
    (step : Sent work key old new before after) : Queued after := by
  obtain ⟨waits, _⟩ := update_sent step.moved
  have later : ¬ Begins work.type .ntwkTx := by
    rintro ⟨_, stage⟩
    simp at stage
  have pending := pending_sent member step
  refine ⟨pending ▸ queued.distinct.erase work, fun other held => ?_, fun other next type found held
    outgoing unsent read => ?_⟩
  · rw [pending] at held
    obtain ⟨apart, already⟩ := (List.Nodup.mem_erase_iff queued.distinct).1 held
    obtain ⟨location, first, outgoing, foundFirst, state⟩ := queued.waiting other already
    by_cases here : (⟨other.rsn, location⟩ : TransactionKey) = key
    · subst here
      cases step.held.symm.trans foundFirst
      refine absurd ?_ apart
      have type := waiting_injective state waits
      have rsn := step.rsn
      cases other
      cases work
      simp_all
    · have same := step.elsewhere _ here
      rw [foundFirst] at same
      obtain ⟨second, foundSecond, equal⟩ := Option.map_eq_some_iff.1 same
      have unchanged : second.state = first.state := congrArg Prod.fst equal
      exact ⟨location, second, outgoing, foundSecond, unchanged ▸ state⟩
  · by_cases here : other = key
    · subst here
      cases step.holds.symm.trans held
      have differs : type ≠ work.type := by
        rintro rfl
        exact sent_after step.moved unsent
      exact queued.fresh other old type found step.held outgoing
        (unsent_before step.moved later unsent) (step.others type differs ▸ read)
    · obtain ⟨first, heldFirst, state, packets⟩ := entry_elsewhere (step.elsewhere other here) held
      exact queued.fresh other first type found heldFirst outgoing (state ▸ unsent) (packets ▸ read)

/-- The RSN of the packet among those of a type. -/
def rsnIf (work : WorkId) (type : PacketType) : Multiset UInt32 :=
  if work.type = type then {work.rsn} else 0

theorem counts_sent {live : WindowType → Multiset OutstandingPacketContext}
    {debts pulls : Multiset UInt32} (tally : Tally config before live debts pulls)
    (balanced : Balanced sent answered live debts pulls)
    (room : ConnectionState.countsAsRequest work.type →
      (before.tx (windowOf work.type)).outstandingRequestsCounter.toNat + 1 < 2 ^ 32)
    (step : Sent work key old new before after) :
    Tally config after
        (Function.update live (windowOf work.type)
          (⟨work.rsn, work.type⟩ ::ₘ live (windowOf work.type)))
        (rsnIf work .pushRequest + debts) (rsnIf work .pullRequest + pulls) ∧
      Balanced (Function.update sent (windowOf work.type)
          (sent (windowOf work.type) ++ [⟨work.rsn, work.type⟩])) answered
        (Function.update live (windowOf work.type)
          (⟨work.rsn, work.type⟩ ::ₘ live (windowOf work.type)))
        (rsnIf work .pushRequest + debts) (rsnIf work .pullRequest + pulls) := by
  have counter (other : WindowType) : (after.tx other).outstandingRequestsCounter.toNat =
      if ConnectionState.countsAsRequest work.type ∧ other = windowOf work.type then
        (before.tx other).outstandingRequestsCounter.toNat + 1
      else (before.tx other).outstandingRequestsCounter.toNat := by
    rw [step.counters]
    split_ifs with counts
    · have := room counts.1
      rw [counts.2, UInt32.toNat_add, UInt32.toNat_one, Nat.mod_eq_of_lt this]
    · rfl
  have unsent (type : PacketType) (packets : List OutstandingPacketContext) :
      rsnsOf type ↑(packets ++ [(⟨work.rsn, work.type⟩ : OutstandingPacketContext)]) =
        rsnIf work type + rsnsOf type ↑packets := by
    rw [← Multiset.coe_add, Multiset.coe_singleton, add_comm, Multiset.singleton_add,
      rsns_of_cons]
    unfold rsnIf
    split_ifs <;> simp
  have live_ (type : PacketType) (packets : Multiset OutstandingPacketContext) :
      rsnsOf type ((⟨work.rsn, work.type⟩ : OutstandingPacketContext) ::ₘ packets) =
        rsnIf work type + rsnsOf type packets := by
    rw [rsns_of_cons]
    unfold rsnIf
    split_ifs <;> simp
  obtain ⟨rsn, type⟩ := work
  cases type <;> refine ⟨⟨?_, ?_⟩, ?_, ?_⟩
  all_goals
    simp [counter, tally.request, tally.data, windowOf, belongsToRequestWindow,
      ConnectionState.countsAsRequest, live_, unsent, rsnIf]
  all_goals first
    | exact balanced.pushes
    | exact balanced.pulls
    | split_ifs <;> omega

theorem opened_sent {debts pulls : Multiset UInt32} (opened : Opened before debts pulls)
    (step : Sent work key old new before after) :
    Opened after (rsnIf work .pushRequest + debts) (rsnIf work .pullRequest + pulls) := by
  obtain ⟨waits, sentNow⟩ := update_sent step.moved
  have later : ¬ Begins work.type .ntwkTx := by
    rintro ⟨_, stage⟩
    simp at stage
  refine ⟨fun rsn next held pushing => ?_, fun rsn next held pulling => ?_⟩
  · refine Multiset.mem_add.2 ?_
    by_cases here : (⟨rsn, .initiator⟩ : TransactionKey) = key
    · subst here
      cases step.holds.symm.trans held
      by_cases requests : work.type = .pushRequest
      · left
        rw [rsnIf, if_pos requests, Multiset.mem_singleton]
        exact step.rsn
      · right
        exact opened.pushing rsn old step.held
          (pushing_before step.moved later (.inl requests) pushing)
    · obtain ⟨first, heldFirst, state, _⟩ := entry_elsewhere (step.elsewhere _ here) held
      exact .inr (opened.pushing rsn first heldFirst (state ▸ pushing))
  · refine Multiset.mem_add.2 ?_
    by_cases here : (⟨rsn, .initiator⟩ : TransactionKey) = key
    · subst here
      cases step.holds.symm.trans held
      have requests : work.type = .pullRequest := by
        rw [pulling] at sentNow
        revert sentNow
        cases work.type <;> simp [sentState]
      left
      rw [rsnIf, if_pos requests, Multiset.mem_singleton]
      exact step.rsn
    · obtain ⟨first, heldFirst, state, _⟩ := entry_elsewhere (step.elsewhere _ here) held
      exact .inr (opened.pulling rsn first heldFirst (state ▸ pulling))

/-- The windows are open for one more packet, and the books are in order after it. -/
theorem sent_kept (kept : Kept config sent answered limit before)
    (member : work ∈ before.scheduled)
    (open_ : span (before.tx (windowOf work.type)) < txBitmapWidth)
    (room : ConnectionState.countsAsRequest work.type →
      (before.tx (windowOf work.type)).outstandingRequestsCounter.toNat + 1 < 2 ^ 32)
    (bounded : ∀ window, (after.tx window).outstandingRequestsCounter ≤ limit window)
    (step : Sent work key old new before after) :
    Kept config (Function.update sent (windowOf work.type)
      (sent (windowOf work.type) ++ [⟨work.rsn, work.type⟩])) answered limit after := by
  obtain ⟨live, debts, pulls, contains, tally, balanced, opened⟩ := kept.books.counted
  have vacant := (kept.aligned (windowOf work.type)).vacant
  obtain ⟨tallied, balances⟩ := counts_sent tally balanced room step
  refine ⟨⟨recorded_sent kept.books.recorded vacant step, queued_sent kept.books.queued member step,
    ⟨_, _, _, fun window => ?_, tallied, balances, opened_sent opened step⟩, bounded⟩,
    fun window => ?_⟩
  · rw [step.contexts]
    split_ifs with here
    · subst here
      rw [Function.update_self]
      exact contains_insert (contains _) vacant _
    · rw [Function.update_of_ne here]
      exact contains window
  · by_cases here : window = windowOf work.type
    · subst here
      rw [Function.update_self]
      have next := step.next (windowOf work.type)
      have contexts := step.contexts (windowOf work.type)
      rw [if_pos rfl] at next contexts
      exact aligned_sent (kept.aligned _) open_ ⟨step.bases _, step.bits _⟩ next contexts
    · rw [Function.update_of_ne here]
      have next := step.next window
      have contexts := step.contexts window
      rw [if_neg here] at next contexts
      exact aligned_same (kept.aligned window) (step.bases window) next (step.bits window) contexts

end Sent

/-! ## A retransmission -/

/-- What a retransmission changes: the packet moves from the retransmission scheduler back to
those that wait, with one more attempt. -/
structure Resent (window : WindowType) (work : RetransmissionWorkId) (key : TransactionKey)
    (old new : Transaction) (before after : Endpoint) : Prop
    extends Waiting window work before after,
      Advanced work.rsn work.type work.psn key old new before after where
  next : ∀ other, (after.tx other).nextPacketSequenceNumber =
    (before.tx other).nextPacketSequenceNumber
  counters : ∀ other, (after.tx other).outstandingRequestsCounter =
    (before.tx other).outstandingRequestsCounter
  queues : ∀ other, ∀ next ∈ after.retransmissions other, next ∈ before.retransmissions other ∧
    (other = window → next.psn ≠ work.psn)
  scheduled : after.scheduled = before.scheduled
  state : new.state = old.state

section Resent
variable {window : WindowType} {work : RetransmissionWorkId} {key : TransactionKey}
  {old new : Transaction}

theorem resent_kept (kept : Kept config sent answered limit before)
    (found : (before.tx window).outstandingPacketContexts work.psn = some ⟨work.rsn, work.type⟩)
    (step : Resent window work key old new before after) :
    Kept config sent answered limit after := by
  obtain ⟨live, debts, pulls, contains, tally, balanced, opened⟩ := kept.books.counted
  have recorded := kept.books.recorded
  obtain ⟨unsent, _⟩ := recorded.metadata window work.psn _ key old found step.rsn.symm step.outgoing
    step.held
  have contexts (other : WindowType) : (after.tx other).outstandingPacketContexts =
      (before.tx other).outstandingPacketContexts := by
    rw [step.contexts]
    split_ifs with here
    · subst here
      rw [← found, Function.update_eq_self]
    · rfl
  have pending : pendingWork after = pendingWork before :=
    pending_work_same step.scheduled step.reordered
  refine ⟨⟨⟨?_, ?_, ?_, ?_⟩, ⟨pending ▸ kept.books.queued.distinct, ?_, ?_⟩,
    ⟨live, debts, pulls, fun other => contexts other ▸ contains other, ?_, balanced, ?_, ?_⟩, ?_⟩, ?_⟩
  · intro other psn content read
    exact recorded.windows other psn content (contexts other ▸ read)
  · intro other psn content place next read rsn outgoing held
    rw [contexts] at read
    by_cases here : place = key
    · subst here
      cases step.holds.symm.trans held
      obtain ⟨gone, same⟩ := recorded.metadata other psn content place old read rsn outgoing step.held
      refine ⟨step.state ▸ gone, ?_⟩
      by_cases type : content.packetType = work.type
      · -- The packet that is sent again is the only one of its type.
        obtain ⟨number, had⟩ := step.kept
        obtain ⟨_, first⟩ := recorded.metadata window work.psn _ place old found step.rsn.symm
          step.outgoing step.held
        rw [type] at same ⊢
        rw [← same number had, first number had]
        exact step.number
      · rw [step.others _ type]
        exact same
    · obtain ⟨first, heldFirst, state, packets⟩ := entry_elsewhere (step.elsewhere place here) held
      rw [state, packets]
      exact recorded.metadata other psn content place first read rsn outgoing heldFirst
  · intro other next held
    rw [contexts]
    rcases held with waiting | queued
    · rcases step.waiting other next waiting with already | ⟨rfl, rfl⟩
      · exact recorded.works other next (.inl already)
      · exact found
    · exact recorded.works other next (.inr (step.queues other next queued).1)
  · intro other next waiting queued_ queued
    obtain ⟨already, apart⟩ := step.queues other queued_ queued
    rcases step.waiting other next waiting with earlier | ⟨rfl, rfl⟩
    · exact recorded.apart other next earlier queued_ already
    · exact fun same => apart rfl same.symm
  · intro other pends
    rw [pending] at pends
    obtain ⟨location, first, outgoing, foundFirst, state⟩ := kept.books.queued.waiting other pends
    by_cases here : (⟨other.rsn, location⟩ : TransactionKey) = key
    · subst here
      cases step.held.symm.trans foundFirst
      exact ⟨location, new, outgoing, step.holds, step.state ▸ state⟩
    · have same := step.elsewhere _ here
      rw [foundFirst] at same
      obtain ⟨second, foundSecond, equal⟩ := Option.map_eq_some_iff.1 same
      have unchanged : second.state = first.state := congrArg Prod.fst equal
      exact ⟨location, second, outgoing, foundSecond, unchanged ▸ state⟩
  · intro place next type number held outgoing back read
    by_cases here : place = key
    · subst here
      cases step.holds.symm.trans held
      have differs : type ≠ work.type := by
        rintro rfl
        exact unsent (step.state ▸ back)
      exact kept.books.queued.fresh place old type number step.held outgoing (step.state ▸ back)
        (step.others type differs ▸ read)
    · obtain ⟨first, heldFirst, state, packets⟩ := entry_elsewhere (step.elsewhere place here) held
      exact kept.books.queued.fresh place first type number heldFirst outgoing (state ▸ back)
        (packets ▸ read)
  · exact ⟨(step.counters .request).symm ▸ tally.request, (step.counters .data).symm ▸ tally.data⟩
  · intro rsn next held pushing
    by_cases here : (⟨rsn, .initiator⟩ : TransactionKey) = key
    · subst here
      cases step.holds.symm.trans held
      exact opened.pushing rsn old step.held (step.state ▸ pushing)
    · obtain ⟨first, heldFirst, state, _⟩ := entry_elsewhere (step.elsewhere _ here) held
      exact opened.pushing rsn first heldFirst (state ▸ pushing)
  · intro rsn next held pulling
    by_cases here : (⟨rsn, .initiator⟩ : TransactionKey) = key
    · subst here
      cases step.holds.symm.trans held
      exact opened.pulling rsn old step.held (step.state ▸ pulling)
    · obtain ⟨first, heldFirst, state, _⟩ := entry_elsewhere (step.elsewhere _ here) held
      exact opened.pulling rsn first heldFirst (state ▸ pulling)
  · intro other
    rw [step.counters]
    exact kept.books.bounded other
  · intro other
    exact aligned_same (kept.aligned other) (step.bases other) (step.next other) (step.bits other)
      (contexts other)

end Resent

/-! ## The transmission as a whole -/

/-- What is recorded of a packet before its timers are set: the packet waits under its PSN, and its
metadata is written. -/
theorem recorded_waiting {located : Located} {rsn psn : UInt32}
    {packet : Reliability.PacketMetadata} {middle : Endpoint}
    (same : SameBooks ((before.setPacket located type packet).addToOutstandingPackets
      ⟨rsn, psn, type⟩) middle) :
    Waiting (windowOf type) ⟨rsn, psn, type⟩ before middle ∧
      (∀ other, (middle.tx other).nextPacketSequenceNumber =
        (before.tx other).nextPacketSequenceNumber) ∧
      (∀ other, (middle.tx other).outstandingRequestsCounter =
        (before.tx other).outstandingRequestsCounter) ∧
      middle.retransmissions = before.retransmissions ∧ middle.scheduled = before.scheduled := by
  have read (other : WindowType) : SameWindow (if other = windowOf type then
        { before.tx other with
          outstandingPackets := insertWork ⟨rsn, psn, type⟩ (before.tx other).outstandingPackets
          outstandingPacketContexts :=
            Function.update (before.tx other).outstandingPacketContexts psn (some ⟨rsn, type⟩) }
      else before.tx other) (middle.tx other) := by
    have applied := same.windows other
    unfold addToOutstandingPackets at applied
    rwa [modify_tx_apply] at applied
  refine ⟨⟨fun other => ?_, fun other next waits => ?_, fun other => ?_, fun other => ?_,
    same.reordered⟩, fun other => ?_, fun other => ?_, same.retransmissions, same.scheduled⟩
  · rw [(read other).contexts]
    split_ifs <;> rfl
  · rw [(read other).outstanding] at waits
    split_ifs at waits with here
    · exact (mem_insert_work waits).elim (fun is => .inr ⟨here, is⟩) .inl
    · exact .inl waits
  · rw [(read other).base]
    split_ifs <;> rfl
  · rw [(read other).bits]
    split_ifs <;> rfl
  · rw [(read other).next]
    split_ifs <;> rfl
  · rw [(read other).counter]
    split_ifs <;> rfl

/-- The transaction of the packet that `locate` found, after its metadata is written and its state
is set. -/
theorem recorded_advanced {located : Located} {rsn psn : UInt32}
    {packet : Reliability.PacketMetadata} {middle : Endpoint} {new : Transaction}
    (read : before.locate rsn type = .ok located) (number : packet.psn = psn)
    (entries : ∀ key, (middle.transactions key).map entry =
      (Function.update before.transactions located.key
        (some (located.transaction.createPacket type packet)) key).map entry)
    (elsewhere : ∀ key, key ≠ located.key → (after.transactions key).map entry =
      (middle.transactions key).map entry) (holds : after.transactions located.key = some new)
    (same : ∃ last, middle.transactions located.key = some last ∧ numbers new = numbers last) :
    Advanced rsn type psn located.key located.transaction new before after := by
  obtain ⟨rsn_, outgoing, held, found⟩ := locate_eq_ok.1 read
  obtain ⟨last, heldLast, equal⟩ := same
  have written := entries located.key
  rw [heldLast, Function.update_self] at written
  have packets : numbers new = numbers (located.transaction.createPacket type packet) :=
    equal.trans (congrArg Prod.snd (Option.some.inj written))
  refine ⟨rsn_, outgoing, held, holds, fun key differs => ?_, fun found_ read_ => ?_,
    ⟨_, by rw [numbers, found]; rfl⟩, fun other differs => ?_⟩
  · rw [elsewhere key differs, entries, Function.update_of_ne differs]
  · rw [packets] at read_
    simp only [numbers, Transaction.createPacket, Function.update_self, Option.map_some,
      Option.some.injEq] at read_
    rw [← read_]
    exact number
  · rw [packets]
    simp only [numbers, Transaction.createPacket, Function.update_of_ne differs]

theorem sent_metadata_psn (packet : Reliability.PacketMetadata) (psn : UInt32) (now : Int) :
    (sentMetadata packet psn now).psn = psn := by
  unfold sentMetadata
  dsimp only
  split_ifs
  · cases packet.retransmissionReason <;> rfl
  · rfl

theorem timers_set_books (key : TransactionKey) :
    Ensures (before.setupRetransmitTimer config) fun timed =>
      SameBooks before ((timed.setupTlpTimer config).createReceiverPacketContext key) :=
  setup_books.mono fun timed same => by
    have probed : SameBooks timed (timed.setupTlpTimer config) := tlp_timer_books
    have created : SameBooks (timed.setupTlpTimer config)
        ((timed.setupTlpTimer config).createReceiverPacketContext key) := set_contexts_books
    exact created.after (probed.after same)

/-- The first transmission is counted, and the transaction goes on. -/
theorem noted_first {key : TransactionKey} :
    Ensures (before.noteTransmitted key type false) fun after => ∃ old state,
      before.transactions key = some old ∧ old.state.update type .ntwkTx = .ok state ∧
      after = (before.incrementOutstandingRequestCount type).setTransaction key
        { old with state := state } := by
  intro after done
  obtain ⟨old, state, held, moved, rfl⟩ := update_state_eq_ok.1 done
  refine ⟨old, state, ?_, moved, rfl⟩
  rw [← held, incrementOutstandingRequestCount]
  split_ifs <;> rfl

theorem incremented_tx (type : PacketType) (other : WindowType) :
    (before.incrementOutstandingRequestCount type).tx other =
      if ConnectionState.countsAsRequest type ∧ other = windowOf type then
        { before.tx other with
          outstandingRequestsCounter := (before.tx other).outstandingRequestsCounter + 1 }
      else before.tx other := by
  unfold incrementOutstandingRequestCount
  by_cases counts : ConnectionState.countsAsRequest type = true
  · rw [if_pos counts, modify_tx_apply]
    simp only [counts, true_and]
  · rw [if_neg counts, if_neg fun both => counts both.1]

/-- A scheduled packet is sent for the first time. -/
theorem first_transmitted (kept : Kept config sent answered limit before) {work : WorkId}
    (member : work ∈ before.scheduled) :
    Ensures (before.transmitPacket config work.rsn work.type) fun result => ∃ key old new,
      Sent work key old new before
        { result.1 with scheduled := result.1.scheduled.erase work } := by
  refine ensures_bind fun located read => ?_
  obtain ⟨rsn, outgoing, held, found⟩ := locate_eq_ok.1 read
  obtain ⟨location, transaction, side, holds, waits⟩ :=
    kept.books.queued.waiting work (List.mem_append_left _ member)
  have here : located.key = ⟨work.rsn, location⟩ := same_key outgoing side rsn
  obtain rfl : located.transaction = transaction :=
    Option.some.inj (held.symm.trans (here ▸ holds))
  have attempts : located.packet.transmitAttempts = 0 :=
    kept.books.queued.fresh _ _ work.type (located.packet.psn, located.packet.transmitAttempts) held
      outgoing (waiting_unsent waits) (by rw [numbers, found]; rfl)
  have first : (located.packet.transmitAttempts + 1 != 1) = false := by
    rw [attempts]
    rfl
  dsimp only
  simp only [first, Bool.false_eq_true, if_false]
  -- The PSN is taken before the rest, and nothing else of the windows is written for it.
  have numbered (other : WindowType) : (before.assignPsn (windowOf work.type)).tx other =
      if other = windowOf work.type then
        { before.tx other with
          nextPacketSequenceNumber := (before.tx other).nextPacketSequenceNumber + 1 }
      else before.tx other := modify_tx_apply _ _ _
  refine (timers_set_books located.key).bind fun timed same => ensures_map.2 ?_
  generalize (timed.setupTlpTimer config).createReceiverPacketContext located.key = middle at same ⊢
  obtain ⟨waiting, next, counters, queues, scheduled⟩ := recorded_waiting same
  refine noted_first.mono ?_
  rintro counted ⟨last, state, heldLast, moved, rfl⟩
  have entries (other : TransactionKey) : (middle.transactions other).map entry =
      (Function.update before.transactions located.key (some (located.transaction.createPacket
        work.type (sentMetadata located.packet
          (before.tx (windowOf work.type)).nextPacketSequenceNumber before.now))) other).map entry :=
    same.transactions other
  have was : last.state = located.transaction.state := by
    have written := entries located.key
    rw [heldLast, Function.update_self] at written
    exact congrArg Prod.fst (Option.some.inj written)
  have tx (other : WindowType) : (middle.incrementOutstandingRequestCount work.type).tx other =
      if ConnectionState.countsAsRequest work.type ∧ other = windowOf work.type then
        { middle.tx other with
          outstandingRequestsCounter := (middle.tx other).outstandingRequestsCounter + 1 }
      else middle.tx other := incremented_tx work.type other
  have others : (middle.incrementOutstandingRequestCount work.type).retransmissions =
      middle.retransmissions ∧ (middle.incrementOutstandingRequestCount work.type).scheduled =
      middle.scheduled ∧ (middle.incrementOutstandingRequestCount work.type).reordered =
      middle.reordered ∧ (middle.incrementOutstandingRequestCount work.type).transactions =
      middle.transactions := by
    unfold incrementOutstandingRequestCount
    split_ifs <;> exact ⟨rfl, rfl, rfl, rfl⟩
  generalize middle.incrementOutstandingRequestCount work.type = raised at tx others
  have place (other : WindowType) :
      (raised.tx other).outstandingPacketContexts = (middle.tx other).outstandingPacketContexts ∧
        (raised.tx other).outstandingPackets = (middle.tx other).outstandingPackets ∧
        (raised.tx other).basePacketSequenceNumber = (middle.tx other).basePacketSequenceNumber ∧
        (raised.tx other).window = (middle.tx other).window ∧
        (raised.tx other).nextPacketSequenceNumber = (middle.tx other).nextPacketSequenceNumber := by
    rw [tx]
    split_ifs <;> exact ⟨rfl, rfl, rfl, rfl, rfl⟩
  have assigned (other : WindowType) :
      ((before.assignPsn (windowOf work.type)).tx other).outstandingPacketContexts =
          (before.tx other).outstandingPacketContexts ∧
        ((before.assignPsn (windowOf work.type)).tx other).outstandingPackets =
          (before.tx other).outstandingPackets ∧
        ((before.assignPsn (windowOf work.type)).tx other).basePacketSequenceNumber =
          (before.tx other).basePacketSequenceNumber ∧
        ((before.assignPsn (windowOf work.type)).tx other).window = (before.tx other).window ∧
        ((before.assignPsn (windowOf work.type)).tx other).outstandingRequestsCounter =
          (before.tx other).outstandingRequestsCounter := by
    rw [numbered]
    split_ifs <;> exact ⟨rfl, rfl, rfl, rfl, rfl⟩
  refine ⟨located.key, located.transaction, { last with state := state },
    ⟨⟨fun other => ?_, fun other next_ waits => ?_, fun other => ?_, fun other => ?_, ?_⟩, ?_,
      fun other => ?_, fun other => ?_, others.1.trans queues, ?_, was ▸ moved⟩⟩
  · refine (place other).1.trans ((waiting.contexts other).trans ?_)
    rw [(assigned other).1]
  · rw [← (assigned other).2.1]
    exact waiting.waiting other next_ ((place other).2.1 ▸ waits)
  · exact (place other).2.2.1.trans ((waiting.bases other).trans (assigned other).2.2.1)
  · exact (place other).2.2.2.1.trans ((waiting.bits other).trans (assigned other).2.2.2.1)
  · exact others.2.2.1.trans waiting.reordered
  · refine recorded_advanced read (sent_metadata_psn _ _ _) entries (fun key differs => ?_) ?_
      ⟨last, heldLast, rfl⟩
    · change (Function.update raised.transactions located.key _ key).map entry = _
      rw [Function.update_of_ne differs, others.2.2.2]
    · exact Function.update_self located.key _ _
  · refine (place other).2.2.2.2.trans ((next other).trans ?_)
    rw [numbered]
    split_ifs <;> rfl
  · change (raised.tx other).outstandingRequestsCounter = _
    rw [tx]
    split_ifs
    · rw [counters, (assigned other).2.2.2.2]
    · rw [counters, (assigned other).2.2.2.2]
  · change raised.scheduled.erase work = _
    rw [others.2.1, scheduled]
    rfl

/-- A packet of the retransmission scheduler is sent again. Were it sent as if for the first time,
its transaction would not be waiting for that. -/
theorem transmitted_again (kept : Kept config sent answered limit before) {window : WindowType}
    {work : RetransmissionWorkId} (member : work ∈ before.retransmissions window) :
    Ensures (before.transmitPacket config work.rsn work.type) fun result => ∃ key old new,
      Resent window work key old new before
        { result.1 with
          retransmissions :=
            Function.update result.1.retransmissions window
              (eraseWork (result.1.retransmissions window) work.psn) } := by
  have context := kept.books.recorded.works window work (.inr member)
  obtain rfl : windowOf work.type = window := kept.books.recorded.windows window work.psn _ context
  refine ensures_bind fun located read => ?_
  obtain ⟨rsn, outgoing, held, found⟩ := locate_eq_ok.1 read
  obtain ⟨unsent, number⟩ := kept.books.recorded.metadata _ _ _ _ _ context rsn.symm outgoing held
  have psn : located.packet.psn = work.psn :=
    number (located.packet.psn, located.packet.transmitAttempts) (by rw [numbers, found]; rfl)
  dsimp only
  cases again : located.packet.transmitAttempts + 1 != 1 with
  | false =>
    simp only [Bool.false_eq_true, if_false]
    refine (timers_set_books located.key).bind fun timed same => ensures_map.2 ?_
    generalize (timed.setupTlpTimer config).createReceiverPacketContext located.key = middle
      at same ⊢
    rintro counted done
    obtain ⟨last, state, heldLast, moved, rfl⟩ := noted_first counted done
    obtain ⟨waits, _⟩ := update_sent moved
    refine absurd ?_ unsent
    have written : (middle.transactions located.key).map entry =
        (Function.update before.transactions located.key (some (located.transaction.createPacket
          work.type (sentMetadata located.packet
            (before.tx (windowOf work.type)).nextPacketSequenceNumber before.now)))
          located.key).map entry := same.transactions located.key
    rw [heldLast, Function.update_self] at written
    have was : last.state = located.transaction.state :=
      congrArg Prod.fst (Option.some.inj written)
    exact was ▸ waiting_unsent waits
  | true =>
    simp only [if_true]
    refine (timers_set_books located.key).bind fun timed same => ensures_map.2 ?_
    generalize (timed.setupTlpTimer config).createReceiverPacketContext located.key = middle
      at same ⊢
    rintro counted ⟨⟩
    rw [psn] at same
    have same := SameBooks.after (incremented_retransmitted_books work.type) same
    generalize middle.incrementOutstandingRetransmittedRequestCount work.type = raised at same ⊢
    obtain ⟨waiting, next, counters, queues, scheduled⟩ := recorded_waiting same
    have entries (other : TransactionKey) : (raised.transactions other).map entry =
        (Function.update before.transactions located.key (some (located.transaction.createPacket
          work.type (sentMetadata located.packet work.psn before.now))) other).map entry :=
      same.transactions other
    have written := entries located.key
    rw [Function.update_self] at written
    obtain ⟨new, holds, same_⟩ := Option.map_eq_some_iff.1 written
    refine ⟨located.key, located.transaction, new,
      ⟨⟨waiting.contexts, waiting.waiting, waiting.bases, waiting.bits, waiting.reordered⟩, ?_, next,
        counters, fun other next_ queued => ?_, scheduled, congrArg Prod.fst same_⟩⟩
    · exact recorded_advanced read (sent_metadata_psn _ _ _) entries (fun _ _ => rfl) holds
        ⟨new, holds, rfl⟩
    · change next_ ∈ Function.update raised.retransmissions (windowOf work.type)
        (eraseWork (raised.retransmissions (windowOf work.type)) work.psn) other at queued
      rw [queues] at queued
      by_cases here : other = windowOf work.type
      · subst here
        rw [Function.update_self] at queued
        obtain ⟨already, differs⟩ := mem_erase_work.1 queued
        exact ⟨already, fun _ => differs⟩
      · rw [Function.update_of_ne here] at queued
        exact ⟨queued, fun same => absurd same here⟩

/-! ## The gates -/

/-- A first transmission that the gates let through has room in its window, and its counter is
below the NIC's congestion window. -/
theorem gate_open (aligned : ∀ window, Aligned 0 (before.tx window) (sent window))
    (meets : before.meetsInitialTransmissionGatingCriteria config type = .ok true) :
    span (before.tx (windowOf type)) < txBitmapWidth ∧
      (ConnectionState.countsAsRequest type →
        (before.tx (windowOf type)).outstandingRequestsCounter < before.nicCongestionWindow) := by
  unfold meetsInitialTransmissionGatingCriteria psnBound at meets
  dsimp only at meets
  split_ifs at meets with fits
  swap
  · cases meets
  have all := Except.ok.inj meets
  simp only [Bool.and_eq_true, Bool.or_eq_true, Bool.not_eq_true', decide_eq_true_eq] at all
  obtain ⟨⟨below, counter⟩, _⟩ := all
  refine ⟨?_, fun counts => counter.resolve_left (by simp [counts])⟩
  have size := (aligned (windowOf type)).size
  have within := (aligned (windowOf type)).within
  rw [size] at fits
  generalize roundedFcwnd before.fabricCongestionWindow = rounded at *
  rw [seq_lt_iff, ← advance, ← advance_distance (before.tx (windowOf type)).basePacketSequenceNumber
    (before.tx (windowOf type)).nextPacketSequenceNumber] at below
  by_contra full
  unfold span at *
  generalize distance (before.tx (windowOf type)).basePacketSequenceNumber
    (before.tx (windowOf type)).nextPacketSequenceNumber = reached at *
  have low := (before.tx (windowOf type)).basePacketSequenceNumber.toNat_lt
  simp only [distance_mod, advance_to_nat] at below
  unfold txBitmapWidth at *
  omega

/-- What was sent after a transmission. -/
def sentAfter (sent : WindowType → List OutstandingPacketContext) (work : WorkId) :
    WindowType → List OutstandingPacketContext :=
  Function.update sent (windowOf work.type) (sent (windowOf work.type) ++ [⟨work.rsn, work.type⟩])

/-- The limit that the type of the counters sets. -/
def unlimited : WindowType → UInt32 := fun _ => 0xFFFFFFFF

theorem le_unlimited (counter : UInt32) (window : WindowType) : counter ≤ unlimited window := by
  rw [UInt32.le_iff_toNat_le]
  have := counter.toNat_lt
  change counter.toNat ≤ 4294967295
  omega

theorem transmit_kept (kept : Kept config sent answered unlimited before) (work : WorkId)
    (possible : before.Possible config (.transmit work)) :
    Ensures (before.perform config (.transmit work))
      (Kept config (sentAfter sent work) answered unlimited) := by
  obtain ⟨member, meets⟩ := possible
  obtain ⟨room, below⟩ := gate_open kept.aligned meets
  refine ensures_map.2 ((first_transmitted kept member).mono ?_)
  rintro ⟨after, packet⟩ ⟨key, old, new, step⟩
  refine sent_kept kept member room (fun counts => ?_) (fun window => le_unlimited _ window) step
  have less := UInt32.lt_iff_toNat_lt.1 (below counts)
  have := before.nicCongestionWindow.toNat_lt
  omega

theorem retransmit_kept (kept : Kept config sent answered limit before) (window : WindowType)
    (work : RetransmissionWorkId) (member : work ∈ before.retransmissions window) :
    Ensures (before.perform config (.retransmit window work)) (Kept config sent answered limit) := by
  refine ensures_map.2 ((transmitted_again kept member).mono ?_)
  rintro ⟨after, packet⟩ ⟨key, old, new, step⟩
  exact resent_kept kept (kept.books.recorded.works window work (.inr member)) step

end Isekai.TransmissionBooks
