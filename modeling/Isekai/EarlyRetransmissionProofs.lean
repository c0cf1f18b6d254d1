import Isekai.RetransmissionBooks

/-! Which of the outstanding packets an extended ACK has sent again early, when the receiver reports
packets beyond its window. The packets are told apart by their distance from the base of their
window alone; the limit of the scan is a PSN, and leaves some of them out. -/

namespace Isekai.EarlyRetransmissionProofs
open Outcomes Reliability Reliability.Endpoint OutstandingBooks BookFrameProofs WindowAlignment
open AcknowledgementBooks
open RetransmissionBooks (erase_outstanding_apply)

variable {config : Config} {ack : AckPacket} {endpoint : Endpoint} {window : WindowType}
  {work : RetransmissionWorkId} {works : List RetransmissionWorkId}
variable {after : Endpoint}

/-! ## The packets that pass -/

/-- How far a packet is from the base of its window. -/
def indexOf (endpoint : Endpoint) (window : WindowType) (work : RetransmissionWorkId) : Nat :=
  bitmapIndex (endpoint.tx window) work.psn

/-- What is kept of the packet of a work item. -/
def packetOf (endpoint : Endpoint) (work : RetransmissionWorkId) :
    Except Abort Reliability.PacketMetadata :=
  (endpoint.locate work.rsn work.type).map Located.packet

/-- The recency check and the ways around it. -/
def passesRecencyCheck (config : Config) (ack : AckPacket) (own : Bool) (now : Int)
    (packet : Reliability.PacketMetadata) (force : Bool) : Bool :=
  decide (ack.receivedTimestamp - ack.timestamp1 ≤ now - packet.transmissionTime) ||
    (config.enableRecencyCheckBypass && own && packet.bypassRecencyCheck) ||
    (config.enableSmallerPsnRecencyCheckBypass && own && force)

/-- The outstanding packets of a window that are not reported received and pass the recency
check, looked at in the order of their PSNs: up to the first one that fails it, or whose receiver
was not ready. No limit is set on how far from the base they are. -/
def eligible (config : Config) (ack : AckPacket) (window : WindowType) (endpoint : Endpoint) :
    List RetransmissionWorkId → Bool → List RetransmissionWorkId
  | [], _ => []
  | work :: rest, force =>
    if (ack.receivedBits window).bits (indexOf endpoint window work) then
      eligible config ack window endpoint rest force
    else
      match packetOf endpoint work with
      | .error _ => []
      | .ok packet =>
        if packet.nackCode = .ulpReceiverNotReady then []
        else if passesRecencyCheck config ack (ack.own window) endpoint.now packet force then
          work :: eligible config ack window endpoint rest (force || ack.own window)
        else if config.enableScanningExitCriteriaBypass && ack.own window &&
            packet.bypassScanningExitCriteria then
          eligible config ack window endpoint rest force
        else []

theorem eligible_sublist (force : Bool) :
    (eligible config ack window endpoint works force).Sublist works := by
  induction works generalizing force with
  | nil => exact .slnil
  | cons work rest ih =>
    unfold eligible
    split_ifs with received
    · exact (ih force).cons work
    · cases packetOf endpoint work with
      | error abort => exact List.nil_sublist _
      | ok packet =>
        dsimp only
        split_ifs
        · exact List.nil_sublist _
        · exact (ih _).cons_cons work
        · exact (ih force).cons work
        · exact List.nil_sublist _

/-- Which packets pass is read off the clock, the places in the window and the packets alone. -/
theorem eligible_congr {other : Endpoint} (now : other.now = endpoint.now)
    (places : ∀ work ∈ works, indexOf other window work = indexOf endpoint window work)
    (packets : ∀ work ∈ works, packetOf other work = packetOf endpoint work) (force : Bool) :
    eligible config ack window other works force =
      eligible config ack window endpoint works force := by
  induction works generalizing force with
  | nil => rfl
  | cons work rest ih =>
    have later (force : Bool) := ih (fun next member => places next (List.mem_cons_of_mem work member))
      (fun next member => packets next (List.mem_cons_of_mem work member)) force
    unfold eligible
    rw [places work List.mem_cons_self, packets work List.mem_cons_self, now, later force,
      later (force || ack.own window)]

/-! ## One packet is handed over -/

/-- Two items of work for different packets. -/
def Apart (work other : RetransmissionWorkId) : Prop :=
  work.rsn ≠ other.rsn ∨ work.type ≠ other.type

/-- What is outstanding of a window in a state that follows from another one by taking some of
its packets out. -/
structure Passed (window : WindowType) (taken : List RetransmissionWorkId)
    (before after : Endpoint) : Prop where
  now : after.now = before.now
  positions : ∀ other, SamePosition (before.tx other) (after.tx other)
  outstanding : ∀ work, work ∈ (after.tx window).outstandingPackets ↔
    work ∈ (before.tx window).outstandingPackets ∧ ∀ next ∈ taken, work.psn ≠ next.psn
  elsewhere : ∀ other, other ≠ window →
    (after.tx other).outstandingPackets = (before.tx other).outstandingPackets
  packets : ∀ work, (∀ next ∈ taken, Apart work next) → packetOf after work = packetOf before work

theorem Passed.nothing : Passed window [] endpoint endpoint :=
  ⟨rfl, fun _ => ⟨rfl, rfl, rfl⟩, by simp, fun _ _ => rfl, fun _ _ => rfl⟩

theorem Passed.next {before middle : Endpoint} {rest : List RetransmissionWorkId}
    (first : Passed window [work] before middle) (second : Passed window rest middle after) :
    Passed window (work :: rest) before after where
  now := second.now.trans first.now
  positions other :=
    ⟨(second.positions other).base.trans (first.positions other).base,
      (second.positions other).next.trans (first.positions other).next,
      (second.positions other).bits.trans (first.positions other).bits⟩
  outstanding other := by
    rw [second.outstanding, first.outstanding]
    simp only [List.mem_singleton, forall_eq, List.forall_mem_cons, and_assoc]
  elsewhere other differs := (second.elsewhere other differs).trans (first.elsewhere other differs)
  packets other apart := by
    obtain ⟨here, later⟩ := List.forall_mem_cons.1 apart
    rw [second.packets other later, first.packets other (by simpa using here)]

theorem Passed.index {before : Endpoint} {taken : List RetransmissionWorkId}
    (passed : Passed window taken before after) (other : WindowType) (work : RetransmissionWorkId) :
    indexOf after other work = indexOf before other work := by
  have same := passed.positions other
  unfold indexOf bitmapIndex
  rw [same.base, same.bits]

theorem packet_of_transactions {before : Endpoint}
    (same : after.transactions = before.transactions) (work : RetransmissionWorkId) :
    packetOf after work = packetOf before work := by
  unfold packetOf locate getTransaction
  rw [same]

/-- What is written to a packet is not read of another one. -/
theorem packet_of_set {located : Located} (packet : Reliability.PacketMetadata)
    (read : endpoint.locate work.rsn work.type = .ok located) {other : RetransmissionWorkId}
    (apart : Apart other work) :
    packetOf (endpoint.setPacket located work.type packet) other = packetOf endpoint other := by
  obtain ⟨rsn, outgoing, held, _⟩ := locate_eq_ok.1 read
  unfold packetOf locate
  cases side : getTransactionLocation other.type false with
  | error abort => rfl
  | ok location =>
    simp only [Except.bind]
    by_cases here : (⟨other.rsn, location⟩ : TransactionKey) = located.key
    · have differs : other.type ≠ work.type := by
        rcases apart with rsns | types
        · rw [← rsn, ← here] at rsns
          exact absurd rfl rsns
        · exact types
      have written : (endpoint.setPacket located work.type packet).transactions
          ⟨other.rsn, location⟩ = some (located.transaction.createPacket work.type packet) := by
        rw [here]
        exact Function.update_self ..
      have packets : (located.transaction.createPacket work.type packet).packets other.type =
          located.transaction.packets other.type := Function.update_of_ne differs ..
      unfold getTransaction Transaction.getPacketMetadata
      rw [written, here, held]
      simp only [packets]
      cases located.transaction.packets other.type <;> rfl
    · have kept : (endpoint.setPacket located work.type packet).transactions
          ⟨other.rsn, location⟩ = endpoint.transactions ⟨other.rsn, location⟩ :=
        Function.update_of_ne here ..
      unfold getTransaction
      rw [kept]

/-- The packet of a work item, marked, handed over and taken out. -/
theorem handed_passed (window : WindowType) {located : Located} (packet : Reliability.PacketMetadata)
    (read : endpoint.locate work.rsn work.type = .ok located) :
    Ensures ((endpoint.setPacket located work.type packet).initiateRetransmission config work.rsn
        work.type) fun initiated =>
      Passed window [work] endpoint (initiated.eraseOutstanding window work.psn) := by
  refine ensures_map.2 fun again _ => ?_
  dsimp only
  generalize queues : Function.update (endpoint.setPacket located work.type packet).retransmissions
    (windowOf work.type) (insertWork ⟨work.rsn, again.packet.psn, work.type⟩
      ((endpoint.setPacket located work.type packet).retransmissions (windowOf work.type))) =
    retransmissions
  have erased (middle : Endpoint) (now : middle.now = endpoint.now)
      (windows : ∀ other, SameWindow (endpoint.tx other) (middle.tx other))
      (transactions : middle.transactions =
        (endpoint.setPacket located work.type packet).transactions) :
      Passed window [work] endpoint (middle.eraseOutstanding window work.psn) := by
    refine ⟨now, fun other => ?_, fun other => ?_, fun other differs => ?_, fun other apart => ?_⟩
    · have same := windows other
      rw [erase_outstanding_apply]
      split_ifs
      · exact ⟨same.base, same.next, same.bits⟩
      · exact ⟨same.base, same.next, same.bits⟩
    · rw [erase_outstanding_apply, if_pos rfl, mem_erase_work, (windows window).outstanding]
      simp
    · rw [erase_outstanding_apply, if_neg differs]
      exact (windows other).outstanding
    · have same : packetOf (middle.eraseOutstanding window work.psn) other =
          packetOf (endpoint.setPacket located work.type packet) other :=
        packet_of_transactions transactions other
      exact same.trans (packet_of_set packet read (by simpa using apart))
  split_ifs
  · have same : SameBooks
        { endpoint.setPacket located work.type packet with retransmissions := retransmissions }
        (decrementOutstandingRetransmittedRequestCount config
          { endpoint.setPacket located work.type packet with retransmissions := retransmissions }
          work.type false) := decremented_retransmitted_books work.type false
    refine erased _ ?_ same.windows ?_ <;>
    · unfold decrementOutstandingRetransmittedRequestCount
      split_ifs <;> rfl
  · exact erased _ rfl (fun _ => .rfl) rfl

/-! ## The scan -/

/-- The outstanding packets of a window, or those of them that are still to be looked at: in the
order of their places, and each for another packet. -/
structure Lined (endpoint : Endpoint) (window : WindowType) (works : List RetransmissionWorkId) :
    Prop where
  sorted : works.Pairwise fun work other =>
    indexOf endpoint window work < indexOf endpoint window other
  apart : works.Pairwise Apart

theorem Lined.later {rest : List RetransmissionWorkId} (lined : Lined endpoint window (work :: rest)) :
    Lined endpoint window rest :=
  ⟨lined.sorted.of_cons, lined.apart.of_cons⟩

theorem Apart.symm {other : RetransmissionWorkId} (apart : Apart work other) : Apart other work :=
  apart.imp Ne.symm Ne.symm

/-- The scan takes out the packets that pass and are within its limit. -/
theorem scan_passed (limit : Int) (force : Bool) (lined : Lined endpoint window works) :
    Ensures (scanOutstanding config ack limit window works force endpoint)
      (Passed window ((eligible config ack window endpoint works force).filter fun work =>
        (indexOf endpoint window work : Int) ≤ limit) endpoint) := by
  induction works generalizing endpoint force with
  | nil => exact ensures_ok.2 .nothing
  | cons work rest ih =>
    -- The packets behind the first one are looked at in the state in which they were.
    have onward (state : Endpoint) (taken : List RetransmissionWorkId) (force : Bool)
        (passed : Passed window taken endpoint state)
        (apart : ∀ next ∈ rest, ∀ other ∈ taken, Apart next other) :
        Ensures (scanOutstanding config ack limit window rest force state)
          (Passed window ((eligible config ack window endpoint rest force).filter fun work =>
            (indexOf endpoint window work : Int) ≤ limit) state) := by
      have places (next : RetransmissionWorkId) :
          indexOf state window next = indexOf endpoint window next := passed.index window next
      have still : Lined state window rest := by
        refine ⟨?_, lined.later.apart⟩
        simpa only [places] using lined.later.sorted
      have same : eligible config ack window state rest force =
          eligible config ack window endpoint rest force :=
        eligible_congr passed.now (fun next _ => places next)
          (fun next member => passed.packets next (apart next member)) force
      simpa only [same, places] using ih force still
    have stays (force : Bool) := onward endpoint [] force .nothing fun _ _ _ none => by cases none
    have ends : Ensures (.ok endpoint : Except Abort Endpoint) (Passed window [] endpoint) :=
      ensures_ok.2 .nothing
    refine ensures_ite (fun beyond => ?_) fun within => ?_
    · have none : (eligible config ack window endpoint (work :: rest) force).filter (fun work =>
          (indexOf endpoint window work : Int) ≤ limit) = [] := by
        refine List.filter_eq_nil_iff.2 fun next passes => ?_
        have above : indexOf endpoint window work ≤ indexOf endpoint window next := by
          rcases List.mem_cons.1 ((eligible_sublist force).subset passes) with rfl | later
          · exact Nat.le_refl _
          · exact Nat.le_of_lt (List.rel_of_pairwise_cons lined.sorted later)
        have beyond : limit < indexOf endpoint window work := beyond
        rw [decide_eq_true_eq]
        omega
      rw [none]
      exact ends
    have within : (indexOf endpoint window work : Int) ≤ limit := Int.not_lt.1 within
    unfold eligible
    refine ensures_ite (fun received => ?_) fun unreceived => ?_
    · have received : (ack.receivedBits window).bits (indexOf endpoint window work) = true := received
      rw [if_pos received]
      exact stays force
    have unreceived : ¬ (ack.receivedBits window).bits (indexOf endpoint window work) = true :=
      unreceived
    rw [if_neg unreceived]
    refine ensures_bind fun located read => ?_
    have packet : packetOf endpoint work = .ok located.packet := by
      rw [packetOf, read]
      rfl
    rw [packet]
    dsimp only
    refine ensures_ite (fun stops => ?_) fun ready => ?_
    · rw [if_pos stops]
      exact ends
    rw [if_neg ready]
    refine ensures_ite (fun passes => ?_) fun fails => ?_
    · have passes : passesRecencyCheck config ack (ack.own window) endpoint.now located.packet force =
        true := passes
      rw [if_pos passes, List.filter_cons_of_pos (by simpa using within)]
      refine ensures_ite (fun _ => ensures_error) fun _ => ?_
      refine (handed_passed window _ read).bind fun initiated passed => ?_
      refine (onward _ [work] _ passed fun next member other here => ?_).mono fun after later =>
        passed.next later
      rw [List.mem_singleton.1 here]
      exact (List.rel_of_pairwise_cons lined.apart member).symm
    · have fails : ¬ passesRecencyCheck config ack (ack.own window) endpoint.now located.packet force =
        true := fails
      rw [if_neg fails]
      refine ensures_ite (fun bypasses => ?_) fun keeps => ?_
      · rw [if_pos bypasses]
        exact stays force
      · rw [if_neg keeps]
        exact ends

/-! ## Both windows -/

/-- The outstanding packets of both windows, each in its own window and in order. -/
structure InOrder (endpoint : Endpoint) : Prop where
  windows : ∀ window, ∀ work ∈ (endpoint.tx window).outstandingPackets, windowOf work.type = window
  lined : ∀ window, Lined endpoint window (endpoint.tx window).outstandingPackets

/-- `HandleEACK` up to the early retransmissions. -/
def acknowledged (config : Config) (endpoint : Endpoint) (ack : AckPacket) :
    Except Abort Endpoint :=
  (endpoint.acknowledgeBits config (ack.ackBitmap .request) .request).bind fun requests =>
  (requests.acknowledgeBits config (ack.ackBitmap .data) .data).bind fun acked =>
  if config.needToMaintainReceivedStateAtSender then
    (acked.markAllReceived config ack.rrbpsn (ack.receivedBits .request) .request).bind
      fun marked => marked.markAllReceived config ack.rdbpsn (ack.receivedBits .data) .data
  else .ok acked

theorem handled_eack (enabled : config.eackBasedEarlyRetransmissionIsEnabled)
    (handled : endpoint.handleEack config ack = .ok after) :
    ∃ marked scanned, acknowledged config endpoint ack = .ok marked ∧
      marked.scanWindow config ack (marked.retxLimit config ack .request) .request = .ok scanned ∧
      scanned.scanWindow config ack (marked.retxLimit config ack .data) .data = .ok after := by
  obtain ⟨requests, first, rest⟩ := bind_ok.1 handled
  obtain ⟨acked, second, rest⟩ := bind_ok.1 rest
  obtain ⟨marked, third, rest⟩ := bind_ok.1 rest
  rw [if_pos enabled] at rest
  obtain ⟨scanned, fourth, fifth⟩ := bind_ok.1 rest
  exact ⟨marked, scanned, bind_ok.2 ⟨requests, first, bind_ok.2 ⟨acked, second, third⟩⟩, fourth, fifth⟩

/-- Two packets at different places of a window have different PSNs. -/
theorem same_of_psn {other : RetransmissionWorkId} (lined : Lined endpoint window works)
    (member : work ∈ works) (listed : other ∈ works) (psn : work.psn = other.psn) :
    work = other := by
  have places : (works.map (indexOf endpoint window)).Nodup :=
    List.pairwise_map.2 (lined.sorted.imp fun below => Nat.ne_of_lt below)
  refine List.inj_on_of_nodup_map places member listed ?_
  unfold indexOf
  rw [psn]

/-- The packets of a window that wait no more after a scan: those that pass and are within its
limit. -/
theorem scanned_out (limit : Int)
    (lined : Lined endpoint window (endpoint.tx window).outstandingPackets)
    (member : work ∈ (endpoint.tx window).outstandingPackets) :
    Ensures (endpoint.scanWindow config ack limit window) fun after =>
      work ∉ (after.tx window).outstandingPackets ↔
        work ∈ eligible config ack window endpoint (endpoint.tx window).outstandingPackets false ∧
          (indexOf endpoint window work : Int) ≤ limit := by
  refine (scan_passed limit false lined).mono fun after passed => ?_
  rw [passed.outstanding]
  constructor
  · intro gone
    obtain ⟨next, taken, same⟩ : ∃ next ∈ (eligible config ack window endpoint
        (endpoint.tx window).outstandingPackets false).filter fun work =>
          (indexOf endpoint window work : Int) ≤ limit, work.psn = next.psn := by
      by_contra none
      push Not at none
      exact gone ⟨member, none⟩
    obtain ⟨passes, within⟩ := List.mem_filter.1 taken
    obtain rfl := same_of_psn lined member ((eligible_sublist false).subset passes) same
    exact ⟨passes, by simpa using within⟩
  · rintro ⟨passes, within⟩ ⟨_, apart⟩
    exact apart work (List.mem_filter.2 ⟨passes, by simpa using within⟩) rfl

/-- A scan of the request window comes before that of the data window and does not change what
this one sees. -/
theorem scanned_windows {marked scanned : Endpoint} (limits : WindowType → Int)
    (inOrder : InOrder marked)
    (first : marked.scanWindow config ack (limits .request) .request = .ok scanned)
    (second : scanned.scanWindow config ack (limits .data) .data = .ok after)
    (window : WindowType) (member : work ∈ (marked.tx window).outstandingPackets) :
    work ∉ (after.tx window).outstandingPackets ↔
      work ∈ eligible config ack window marked (marked.tx window).outstandingPackets false ∧
        (indexOf marked window work : Int) ≤ limits window := by
  have passed := scan_passed _ _ (inOrder.lined .request) scanned first
  have same : (scanned.tx .data).outstandingPackets = (marked.tx .data).outstandingPackets :=
    passed.elsewhere .data (by decide)
  have lined : Lined scanned .data (scanned.tx .data).outstandingPackets := by
    rw [same]
    refine ⟨?_, (inOrder.lined .data).apart⟩
    simpa only [passed.index] using (inOrder.lined .data).sorted
  cases window with
  | request =>
    have kept := (scan_passed _ _ lined after second).elsewhere .request (by decide)
    rw [kept]
    exact scanned_out _ (inOrder.lined .request) member scanned first
  | data =>
    have passes : eligible config ack .data scanned (scanned.tx .data).outstandingPackets false =
        eligible config ack .data marked (marked.tx .data).outstandingPackets false := by
      rw [same]
      refine eligible_congr passed.now (fun next _ => passed.index .data next)
        (fun next listed => passed.packets next fun other taken => .inr ?_) false
      have requested := (eligible_sublist false).subset (List.mem_filter.1 taken).1
      intro types
      have place := inOrder.windows .data next listed
      rw [types, inOrder.windows .request other requested] at place
      cases place
    rw [← passes, ← passed.index]
    exact scanned_out _ lined (same.symm ▸ member) after second

/-! ## Shifted PSNs -/

def shiftWork (shift : UInt32) (work : RetransmissionWorkId) : RetransmissionWorkId :=
  { work with psn := work.psn + shift }

def shiftPacket (shift : UInt32) (packet : Reliability.PacketMetadata) :
    Reliability.PacketMetadata :=
  { packet with psn := packet.psn + shift }

def shiftTransaction (shift : UInt32) (transaction : Transaction) : Transaction :=
  { transaction with packets := fun type => (transaction.packets type).map (shiftPacket shift) }

/-- All PSNs that an endpoint gives to its packets are moved on by a constant. -/
def shiftBy (shift : UInt32) (endpoint : Endpoint) : Endpoint :=
  { endpoint with
    tx := fun window =>
      let tx := endpoint.tx window
      { tx with
        basePacketSequenceNumber := tx.basePacketSequenceNumber + shift
        nextPacketSequenceNumber := tx.nextPacketSequenceNumber + shift
        outstandingPackets := tx.outstandingPackets.map (shiftWork shift)
        outstandingPacketContexts := fun psn => tx.outstandingPacketContexts (psn - shift) }
    retransmissions := fun window => (endpoint.retransmissions window).map (shiftWork shift)
    transactions := fun key => (endpoint.transactions key).map (shiftTransaction shift) }

variable (shift : UInt32)

theorem index_shift (work : RetransmissionWorkId) :
    indexOf (shiftBy shift endpoint) window (shiftWork shift work) =
      indexOf endpoint window work := by
  have apart : work.psn + shift - ((endpoint.tx window).basePacketSequenceNumber + shift) =
      work.psn - (endpoint.tx window).basePacketSequenceNumber := add_sub_add_right_eq_sub ..
  exact congrArg (fun difference : UInt32 => difference.toNat % (endpoint.tx window).window.size) apart

theorem packet_shift (work : RetransmissionWorkId) :
    packetOf (shiftBy shift endpoint) (shiftWork shift work) =
      (packetOf endpoint work).map (shiftPacket shift) := by
  unfold packetOf locate getTransaction Transaction.getPacketMetadata shiftWork
  cases side : getTransactionLocation work.type false with
  | error abort => rfl
  | ok location =>
    have moved : (shiftBy shift endpoint).transactions ⟨work.rsn, location⟩ =
        (endpoint.transactions ⟨work.rsn, location⟩).map (shiftTransaction shift) := rfl
    cases held : endpoint.transactions ⟨work.rsn, location⟩ with
    | none => simp only [Except.bind, Except.map, moved, held, Option.map_none]
    | some transaction =>
      cases packet : transaction.packets work.type <;>
        simp only [Except.bind, Except.map, moved, held, Option.map_some, Option.map_none,
          shiftTransaction, packet]

/-- Which packets pass does not depend on the PSNs themselves. -/
theorem eligible_shift (force : Bool) :
    eligible config ack window (shiftBy shift endpoint) (works.map (shiftWork shift)) force =
      (eligible config ack window endpoint works force).map (shiftWork shift) := by
  induction works generalizing force with
  | nil => rfl
  | cons work rest ih =>
    rw [List.map_cons]
    unfold eligible
    rw [index_shift, packet_shift, ih, ih]
    cases packetOf endpoint work with
    | error abort => split_ifs <;> rfl
    | ok packet =>
      have now : (shiftBy shift endpoint).now = endpoint.now := rfl
      have recency : passesRecencyCheck config ack (ack.own window) endpoint.now
          (shiftPacket shift packet) force =
            passesRecencyCheck config ack (ack.own window) endpoint.now packet force := rfl
      simp only [Except.map, now, recency]
      unfold shiftPacket
      dsimp only
      split_ifs <;> rfl

theorem in_order_shift (inOrder : InOrder endpoint) : InOrder (shiftBy shift endpoint) := by
  have listed (window : WindowType) : ((shiftBy shift endpoint).tx window).outstandingPackets =
      (endpoint.tx window).outstandingPackets.map (shiftWork shift) := rfl
  refine ⟨fun window work member => ?_, fun window => ⟨?_, ?_⟩⟩
  · obtain ⟨before, waits, rfl⟩ := List.mem_map.1 (listed window ▸ member)
    exact inOrder.windows window before waits
  · rw [listed, List.pairwise_map]
    simpa only [index_shift] using (inOrder.lined window).sorted
  · rw [listed, List.pairwise_map]
    exact (inOrder.lined window).apart

theorem shift_work_injective : Function.Injective (shiftWork shift) := by
  intro work other same
  obtain ⟨rsn, psn, type⟩ := RetransmissionWorkId.mk.inj same
  cases work
  cases other
  simp_all

/-! ## The limit -/

/-- With EACK-OWN, the early retransmission takes exactly the packets of the window that pass the
recency check, at any shift of the PSNs, if and only if none of them is further from the base
than the last PSN that was sent, read as a signed number. -/
theorem own_limit_exact {marked after : Endpoint} (shift : UInt32)
    (enabled : config.eackBasedEarlyRetransmissionIsEnabled = true)
    (limited : config.enableEackOwn = true) (own : ack.own window = true)
    (inOrder : InOrder marked)
    (marks : acknowledged config endpoint ack = .ok (shiftBy shift marked))
    (handled : endpoint.handleEack config ack = .ok after) :
    (∀ work ∈ (marked.tx window).outstandingPackets,
      shiftWork shift work ∉ (after.tx window).outstandingPackets ↔
        work ∈ eligible config ack window marked (marked.tx window).outstandingPackets false) ↔
    ∀ work ∈ eligible config ack window marked (marked.tx window).outstandingPackets false,
      (indexOf marked window work : Int) ≤
        ((marked.tx window).nextPacketSequenceNumber + shift - 1).toInt32.toInt := by
  obtain ⟨started, scanned, marks', first, second⟩ := handled_eack enabled handled
  obtain rfl : shiftBy shift marked = started := Except.ok.inj (marks.symm.trans marks')
  have limit : (shiftBy shift marked).retxLimit config ack window =
      ((marked.tx window).nextPacketSequenceNumber + shift - 1).toInt32.toInt := by
    unfold retxLimit
    rw [limited, own]
    rfl
  have taken (work : RetransmissionWorkId) (member : work ∈ (marked.tx window).outstandingPackets) :
      shiftWork shift work ∉ (after.tx window).outstandingPackets ↔
        work ∈ eligible config ack window marked (marked.tx window).outstandingPackets false ∧
          (indexOf marked window work : Int) ≤
            ((marked.tx window).nextPacketSequenceNumber + shift - 1).toInt32.toInt := by
    have listed : ((shiftBy shift marked).tx window).outstandingPackets =
        (marked.tx window).outstandingPackets.map (shiftWork shift) := rfl
    have waits : shiftWork shift work ∈ ((shiftBy shift marked).tx window).outstandingPackets := by
      rw [listed]
      exact List.mem_map_of_mem member
    have out := scanned_windows ((shiftBy shift marked).retxLimit config ack)
      (in_order_shift shift inOrder) first second window waits
    rw [out, limit, index_shift, listed, eligible_shift,
      List.mem_map_of_injective (shift_work_injective shift)]
  constructor
  · intro exact work passes
    have member := (eligible_sublist false).subset passes
    exact ((taken work member).1 ((exact work member).2 passes)).2
  · intro within work member
    rw [taken work member]
    exact ⟨fun both => both.1, fun passes => ⟨passes, within work passes⟩⟩

/-- EACK-OWN is looked at. -/
def ownConfig : Config := { enableEackOwn := true }

/-- An extended ACK that has no bit set and reports requests beyond the receiver's window. -/
def ownAck : AckPacket := { rrbpsn := 0, rdbpsn := 0, isEack := true, requestOwn := true }

/-- A connection with one outstanding read request. -/
def oneRead : Endpoint :=
  { starting ownConfig 1000 0x4000 8 with
    tx := fun
      | .request => {
        nextPacketSequenceNumber := 1
        outstandingPackets := [⟨0, 0, .pullRequest⟩]
        outstandingPacketContexts := fun psn =>
          if psn = 0 then some ⟨0, .pullRequest⟩ else none }
      | .data => {}
    transactions := fun key =>
      if key = ⟨0, .initiator⟩ then
        some (({ type := .pull, state := .pullReqNtwkTx } : Transaction).createPacket .pullRequest
          { transmitAttempts := 1 })
      else none }

/-- The request of a connection whose PSNs have passed 2^31. -/
theorem own_limit_exact_read : ∃ after, (shiftBy 0x80000000 oneRead).handleEack ownConfig ownAck =
      .ok after ∧
    ((∀ work ∈ (oneRead.tx .request).outstandingPackets,
        shiftWork 0x80000000 work ∉ (after.tx .request).outstandingPackets ↔
          work ∈ eligible ownConfig ownAck .request oneRead (oneRead.tx .request).outstandingPackets
            false) ↔
      ∀ work ∈ eligible ownConfig ownAck .request oneRead (oneRead.tx .request).outstandingPackets
          false,
        (indexOf oneRead .request work : Int) ≤
          ((oneRead.tx .request).nextPacketSequenceNumber + 0x80000000 - 1).toInt32.toInt) := by
  have inOrder : InOrder oneRead := by
    refine ⟨fun window work member => ?_, fun window => ⟨?_, ?_⟩⟩ <;> cases window
    · rw [List.mem_singleton.1 member]
      rfl
    · cases member
    · exact List.pairwise_singleton ..
    · exact .nil
    · exact List.pairwise_singleton ..
    · exact .nil
  have marks : acknowledged ownConfig (shiftBy 0x80000000 oneRead) ownAck =
      .ok (shiftBy 0x80000000 oneRead) := rfl
  have done : ((shiftBy 0x80000000 oneRead).handleEack ownConfig ownAck).toOption.isSome = true := by
    decide +kernel
  obtain ⟨after, handled⟩ := Option.isSome_iff_exists.1 done
  exact ⟨after, toOption_eq_some.1 handled,
    own_limit_exact 0x80000000 rfl rfl rfl inOrder marks (toOption_eq_some.1 handled)⟩

/-- An extended ACK is handled, and the outstanding requests are those given. -/
def leaves (works : List RetransmissionWorkId) (endpoint : Endpoint) : Bool :=
  (endpoint.handleEack ownConfig ownAck).toOption.any fun after =>
    decide ((after.tx .request).outstandingPackets = works)

theorem leaves_iff : leaves works endpoint = true ↔ ∃ after,
    endpoint.handleEack ownConfig ownAck = .ok after ∧
      (after.tx .request).outstandingPackets = works := by
  simp only [leaves, Option.any_eq_true, toOption_eq_some, decide_eq_true_eq]

/-- The same extended ACK on the same connection, with its one request at PSN 0, where it is sent
again, and with all PSNs moved on by 2^31, where it is not. -/
theorem late_packet_stays : ∃ endpoint,
    Runs.Reachable (Endpoint.Initial ownConfig) (Endpoint.Step ownConfig) endpoint ∧
      (∃ after, endpoint.handleEack ownConfig ownAck = .ok after ∧
        (after.tx .request).outstandingPackets = []) ∧
      ∃ after, (shiftBy 0x80000000 endpoint).handleEack ownConfig ownAck = .ok after ∧
        (after.tx .request).outstandingPackets = [⟨0, 0x80000000, .pullRequest⟩] := by
  have tested : (Runs.execute (attempt ownConfig) [.initiate .readRequest, .transmit ⟨0, .pullRequest⟩]
      (starting ownConfig 1000 0x4000 8)).any (fun endpoint => leaves [] endpoint &&
        leaves [⟨0, 0x80000000, .pullRequest⟩] (shiftBy 0x80000000 endpoint)) = true := by
    decide +kernel
  obtain ⟨endpoint, reached, holds⟩ :=
    Runs.reached_with step_of_attempt (initial_starting ownConfig 1000 0x4000 8) tested
  obtain ⟨early, late⟩ := Bool.and_eq_true_iff.1 holds
  exact ⟨endpoint, reached, leaves_iff.1 early, leaves_iff.1 late⟩

end Isekai.EarlyRetransmissionProofs
