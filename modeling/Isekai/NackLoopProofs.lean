import Isekai.OutstandingSets

/-! The loop of a NACK that retransmits early ends. It has a branch that neither moves its iterator
nor takes a packet out, for packets whose bits are set in the window; no outstanding packet is one
of these. The loop is taken here one turn at a time, as it is written, and compared with the scan
that the handler of the model makes. -/

namespace Isekai.NackLoopProofs
open SequenceNumber Outcomes Reliability Reliability.Endpoint OutstandingBooks BookFrameProofs
open WindowAlignment AcknowledgementBooks AcknowledgementLoops RetransmissionBooks OutstandingSets

variable {work : RetransmissionWorkId} {rest : List RetransmissionWorkId}

/-- How one turn leaves the loop. -/
inductive Turn
  | left (endpoint : Endpoint)
  | goesOn (iterator : List RetransmissionWorkId) (endpoint : Endpoint)

/-- One turn of the loop of `InitiateNackBasedEarlyRetransmission`. The iterator is the list of the
packets from its position on. -/
def nackTurn (config : Config) (nack : NackPacket) (window : WindowType) (endpoint : Endpoint) :
    List RetransmissionWorkId → Except Abort Turn
  | [] => .ok (.left endpoint)
  | work :: rest =>
    let index := bitmapIndex (endpoint.tx window) work.psn
    if config.earlyRetransmitLimit.toNat ≤ index then .ok (.left endpoint)
    -- The iterator stays where it is.
    else if (endpoint.tx window).window.bits index then .ok (.goesOn (work :: rest) endpoint)
    else
      (endpoint.locate work.rsn work.type).bind fun located =>
        if endpoint.now ≤ located.packet.transmissionTime +
            (nack.receivedTimestamp - nack.timestamp1) then .ok (.left endpoint)
        else if located.packet.earlyRetxAttempts < config.earlyRetxThreshold then
          ((endpoint.setPacket located work.type
              { located.packet with retransmissionReason := .earlyNack }).initiateRetransmission
            config work.rsn work.type).map fun initiated =>
            .goesOn rest (initiated.eraseOutstanding window work.psn)
        else .ok (.left endpoint)

/-- The loop, for at most a number of turns. -/
def nackLoop (config : Config) (nack : NackPacket) (window : WindowType) :
    Nat → List RetransmissionWorkId → Endpoint → Option (Except Abort Endpoint)
  | 0, _, _ => none
  | turns + 1, iterator, endpoint =>
    match nackTurn config nack window endpoint iterator with
    | .error abort => some (.error abort)
    | .ok (.left after) => some (.ok after)
    | .ok (.goesOn next after) => nackLoop config nack window turns next after

/-- The loop stands at an iterator and goes on from there to the next. -/
inductive Reaches (config : Config) (nack : NackPacket) (window : WindowType) :
    List RetransmissionWorkId → Endpoint → List RetransmissionWorkId → Endpoint → Prop
  | here {iterator : List RetransmissionWorkId} {endpoint : Endpoint} :
      Reaches config nack window iterator endpoint iterator endpoint
  | turn {first iterator next : List RetransmissionWorkId} {start endpoint after : Endpoint} :
      Reaches config nack window first start iterator endpoint →
      nackTurn config nack window endpoint iterator = .ok (.goesOn next after) →
      Reaches config nack window first start next after

/-- What a turn does with the packet that it meets: it ends the loop, or it takes the packet out
and queues it, which was not queued. -/
def Settles (window : WindowType) (work : RetransmissionWorkId)
    (rest : List RetransmissionWorkId) (endpoint : Endpoint) : Except Abort Turn → Prop
  | .error abort => endpoint.locate work.rsn work.type = .error abort
  | .ok (.left after) => after = endpoint
  | .ok (.goesOn next after) =>
    next = rest ∧ (after.tx window).outstandingPackets = rest ∧
      containsPsn (endpoint.retransmissions window) work.psn = false ∧
      work ∈ after.retransmissions window

variable {config : Config} {sent : WindowType → List OutstandingPacketContext}
  {answered : Multiset UInt32} {limit : WindowType → UInt32} {endpoint : Endpoint}
  {nack : NackPacket} {window : WindowType}

/-- What holds each time the loop looks at its condition. -/
structure Scanning (config : Config) (sent : WindowType → List OutstandingPacketContext)
    (answered : Multiset UInt32) (limit : WindowType → UInt32) (window : WindowType)
    (iterator : List RetransmissionWorkId) (endpoint : Endpoint) : Prop where
  kept : Kept config sent answered limit endpoint
  distinct : Distinct endpoint
  position : iterator = (endpoint.tx window).outstandingPackets

/-! ## One turn -/

/-- The bit of an outstanding packet is not set. -/
theorem outstanding_bit_clear (kept : Kept config sent answered limit endpoint)
    (waits : work ∈ (endpoint.tx window).outstandingPackets) :
    (endpoint.tx window).window.bits (bitmapIndex (endpoint.tx window) work.psn) = false := by
  have context := kept.books.recorded.works window work (.inl waits)
  have aligned := kept.aligned window
  obtain ⟨-, below, clear, -⟩ := aligned.found context
  have inside : bitmapIndex (endpoint.tx window) work.psn =
      offset (endpoint.tx window) work.psn := by
    apply Nat.mod_eq_of_lt
    rw [aligned.size]
    exact Nat.lt_of_lt_of_le below aligned.within
  rw [inside]
  exact clear

/-- An outstanding packet is not queued to be sent again. -/
theorem outstanding_not_queued (kept : Kept config sent answered limit endpoint)
    (waits : work ∈ (endpoint.tx window).outstandingPackets) :
    containsPsn (endpoint.retransmissions window) work.psn = false := by
  rw [← Bool.not_eq_true, contains_psn_iff]
  rintro ⟨other, queued, same⟩
  exact kept.books.recorded.apart window work waits other queued same.symm

/-- An outstanding packet that is found goes to the retransmission scheduler. -/
theorem found_is_queued (config : Config) (kept : Kept config sent answered limit endpoint)
    (waits : work ∈ (endpoint.tx window).outstandingPackets) {located : Located}
    (read : endpoint.locate work.rsn work.type = .ok located)
    {packet : Reliability.PacketMetadata} (psn : packet.psn = located.packet.psn) :
    ∃ initiated, (endpoint.setPacket located work.type packet).initiateRetransmission config
        work.rsn work.type = .ok initiated ∧ work ∈ initiated.retransmissions window := by
  have context := kept.books.recorded.works window work (.inl waits)
  have place : windowOf work.type = window := kept.books.recorded.windows window work.psn _ context
  obtain ⟨rsn, outgoing, held, found⟩ := locate_eq_ok.1 read
  have number : packet.psn = work.psn := by
    rw [psn]
    exact (kept.books.recorded.metadata window work.psn _ located.key located.transaction context
      rsn.symm outgoing held).2 (located.packet.psn, located.packet.transmitAttempts)
      (by rw [numbers, found]; rfl)
  have again : (endpoint.setPacket located work.type packet).locate work.rsn work.type =
      .ok ⟨located.key, located.transaction.createPacket work.type packet, packet⟩ := by
    refine locate_eq_ok.2 ⟨rsn, outgoing, ?_, ?_⟩
    · exact Function.update_self ..
    · exact Function.update_self ..
  unfold initiateRetransmission
  rw [again]
  refine ⟨_, rfl, ?_⟩
  have member : work ∈ Function.update endpoint.retransmissions window
      (insertWork ⟨work.rsn, work.psn, work.type⟩ (endpoint.retransmissions window)) window := by
    rw [Function.update_self]
    refine (insert_work_perm fun other queued same => ?_).mem_iff.2 List.mem_cons_self
    exact kept.books.recorded.apart window work waits other queued same.symm
  dsimp only
  rw [place, number]
  split_ifs
  · rw [(decremented_retransmitted_books _ _).retransmissions]
    exact member
  · exact member

/-- Taking the first packet out of a set moves to the next. -/
theorem first_erased (distinct : ((work :: rest).map RetransmissionWorkId.psn).Nodup) :
    eraseWork (work :: rest) work.psn = rest := by
  obtain ⟨apart, -⟩ := List.nodup_cons.1 distinct
  unfold eraseWork
  rw [List.filter_cons_of_neg (by simp), List.filter_eq_self]
  intro other member
  have differs : other.psn ≠ work.psn := fun same =>
    apart (List.mem_map.2 ⟨other, member, same⟩)
  exact bne_iff_ne.2 differs

/-- The turn that queues the first of the packets. -/
theorem first_handed_over
    (scanning : Scanning config sent answered limit window (work :: rest) endpoint)
    {located : Located} (read : endpoint.locate work.rsn work.type = .ok located)
    (packet : Reliability.PacketMetadata) (psn : packet.psn = located.packet.psn)
    (attempts : packet.transmitAttempts = located.packet.transmitAttempts) :
    ∃ initiated, (endpoint.setPacket located work.type packet).initiateRetransmission config
        work.rsn work.type = .ok initiated ∧
      Scanning config sent answered limit window rest (initiated.eraseOutstanding window work.psn) ∧
      work ∈ initiated.retransmissions window := by
  obtain ⟨kept, distinct, position⟩ := scanning
  have waits : work ∈ (endpoint.tx window).outstandingPackets := position ▸ List.mem_cons_self
  obtain ⟨initiated, queues, member⟩ := found_is_queued config kept waits read psn
  have handed : Handed window work.psn endpoint initiated :=
    initiated_handed kept.books.recorded (kept.books.recorded.works window work (.inl waits)) read
      psn attempts initiated queues
  refine ⟨initiated, queues, ⟨requeued_kept (erased_requeued handed) kept, ?_, ?_⟩, member⟩
  · exact distinct.thinned (TimerFrameProofs.handed_over_framed window packet initiated
      queues).thinned
  · rw [erase_outstanding_apply, if_pos rfl, (handed.windows window).outstanding, ← position,
      first_erased (position ▸ distinct window)]

theorem left_spec :
    Settles window work rest endpoint (.ok (.left endpoint)) ∧
      ∀ next after, (Except.ok (Turn.left endpoint) : Except Abort Turn) = .ok (.goesOn next after) →
        Scanning config sent answered limit window next after := by
  refine ⟨rfl, fun next after same => ?_⟩
  cases same

/-- A turn settles the packet that it meets, and the loop goes on from a state that it can be in. -/
theorem turn_spec (nack : NackPacket)
    (scanning : Scanning config sent answered limit window (work :: rest) endpoint) :
    Settles window work rest endpoint (nackTurn config nack window endpoint (work :: rest)) ∧
      ∀ next after, nackTurn config nack window endpoint (work :: rest) = .ok (.goesOn next after) →
        Scanning config sent answered limit window next after := by
  have waits : work ∈ (endpoint.tx window).outstandingPackets :=
    scanning.position ▸ List.mem_cons_self
  unfold nackTurn
  dsimp only
  rw [outstanding_bit_clear scanning.kept waits]
  split_ifs with beyond set
  · exact left_spec
  · cases set
  · cases read : endpoint.locate work.rsn work.type with
    | error abort =>
      refine ⟨read, fun next after same => ?_⟩
      cases same
    | ok located =>
      dsimp only [Except.bind]
      split_ifs
      · exact left_spec
      · obtain ⟨initiated, queues, later, member⟩ := first_handed_over scanning read
          { located.packet with retransmissionReason := .earlyNack } rfl rfl
        have queued : work ∈ (initiated.eraseOutstanding window work.psn).retransmissions window :=
          member
        rw [queues]
        dsimp only [Except.map]
        generalize initiated.eraseOutstanding window work.psn = erased at later queued
        refine ⟨⟨rfl, later.position.symm, outstanding_not_queued scanning.kept waits, queued⟩, ?_⟩
        rintro next after ⟨⟩
        exact later
      · exact left_spec

theorem turn_scanning {iterator next : List RetransmissionWorkId} {after : Endpoint}
    (scanning : Scanning config sent answered limit window iterator endpoint)
    (goes : nackTurn config nack window endpoint iterator = .ok (.goesOn next after)) :
    Scanning config sent answered limit window next after := by
  cases iterator with
  | nil => cases goes
  | cons work rest => exact (turn_spec _ scanning).2 next after goes

/-! ## The loop -/

theorem reaches_scanning {first iterator : List RetransmissionWorkId} {start : Endpoint}
    (scanning : Scanning config sent answered limit window first start)
    (reaches : Reaches config nack window first start iterator endpoint) :
    Scanning config sent answered limit window iterator endpoint := by
  induction reaches with
  | here => exact scanning
  | turn _ goes ih => exact turn_scanning (ih scanning) goes

/-- As long as the iterator moves on, a turn is a turn of the scan. -/
theorem scan_of_turn
    (clear : (endpoint.tx window).window.bits (bitmapIndex (endpoint.tx window) work.psn) = false) :
    scanNacked config nack window (work :: rest) endpoint =
      (nackTurn config nack window endpoint (work :: rest)).bind fun
        | .left after => .ok after
        | .goesOn next after => scanNacked config nack window next after := by
  rw [scanNacked, nackTurn]
  dsimp only
  rw [clear]
  split_ifs with beyond set
  · rfl
  · cases set
  · cases endpoint.locate work.rsn work.type with
    | error abort => rfl
    | ok located =>
      dsimp only [Except.bind]
      split_ifs
      · rfl
      · cases (endpoint.setPacket located work.type
            { located.packet with retransmissionReason := .earlyNack }).initiateRetransmission
          config work.rsn work.type <;> rfl
      · rfl

/-- The loop needs one turn for each packet, and one to see that there are no more. -/
theorem loop_eq_scan {iterator : List RetransmissionWorkId}
    (scanning : Scanning config sent answered limit window iterator endpoint) :
    nackLoop config nack window (iterator.length + 1) iterator endpoint =
      some (scanNacked config nack window iterator endpoint) := by
  induction iterator generalizing endpoint with
  | nil => rfl
  | cons work rest ih =>
    have waits : work ∈ (endpoint.tx window).outstandingPackets :=
      scanning.position ▸ List.mem_cons_self
    obtain ⟨settles, later⟩ := turn_spec nack scanning
    rw [List.length_cons, nackLoop, scan_of_turn (outstanding_bit_clear scanning.kept waits)]
    cases turn : nackTurn config nack window endpoint (work :: rest) with
    | error abort => rfl
    | ok outcome =>
      cases outcome with
      | left after => rfl
      | goesOn next after =>
        rw [turn] at settles
        obtain ⟨rfl, -⟩ := settles
        exact ih (later _ _ turn)

/-- Whatever the state and the NACK, the loop ends, and with what the handler of the model gives.
Wherever it gets to, its iterator is the whole of the set of outstanding packets, and the first of
them ends the loop or leaves the set for the queue of the retransmission scheduler. -/
theorem nack_loop_terminates {logged : BooksRunProofs.Logged}
    (reached : Runs.Reachable (BooksRunProofs.Initial config) (BooksRunProofs.Step config) logged)
    (nack : NackPacket) {acked : Endpoint}
    (piggybacked : logged.endpoint.handlePiggybackedAck config (ofWindow nack.rrbpsn nack.rdbpsn)
      (ofWindow nack.requestOwn nack.dataOwn) = .ok acked) :
    nackLoop config nack nack.window ((acked.tx nack.window).outstandingPackets.length + 1)
        (acked.tx nack.window).outstandingPackets acked =
      some (acked.scanNacked config nack nack.window (acked.tx nack.window).outstandingPackets) ∧
    ∀ iterator endpoint, Reaches config nack nack.window
        (acked.tx nack.window).outstandingPackets acked iterator endpoint →
      iterator = (endpoint.tx nack.window).outstandingPackets ∧
      ∀ work rest, iterator = work :: rest →
        Settles nack.window work rest endpoint (nackTurn config nack nack.window endpoint iterator)
    := by
  have kept := piggybacked_kept _ _ (BooksRunProofs.reachable_kept reached) acked piggybacked
  have distinct := (reachable_distinct reached).thinned (piggybacked_thinned _ _ acked piggybacked)
  have scanning : Scanning config logged.sent logged.answered TransmissionBooks.unlimited nack.window
      (acked.tx nack.window).outstandingPackets acked := ⟨kept, distinct, rfl⟩
  refine ⟨loop_eq_scan scanning, fun iterator endpoint reaches => ?_⟩
  have standing := reaches_scanning scanning reaches
  refine ⟨standing.position, ?_⟩
  rintro work rest rfl
  exact (turn_spec nack standing).1

/-- A NACK that reaches a connection while its read request waits. -/
def windowErrorNack : NackPacket :=
  { rrbpsn := 0, rdbpsn := 0, nackPsn := 0, requestWindow := true, code := .rxWindowError,
    timestamp1 := 10, receivedTimestamp := 20 }

/-- What the piggybacked acknowledgement of the NACK leaves. -/
def piggybackedBy (logged : BooksRunProofs.Logged) : Except Abort Endpoint :=
  logged.endpoint.handlePiggybackedAck {} (ofWindow windowErrorNack.rrbpsn windowErrorNack.rdbpsn)
    (ofWindow windowErrorNack.requestOwn windowErrorNack.dataOwn)

def readWaits (endpoint : Endpoint) : Bool :=
  decide ((endpoint.tx .request).outstandingPackets = [⟨0, 0, .pullRequest⟩])

theorem nack_loop_terminates_read : ∃ (logged : BooksRunProofs.Logged) (acked : Endpoint),
    piggybackedBy logged = .ok acked ∧
    (acked.tx .request).outstandingPackets = [⟨0, 0, .pullRequest⟩] ∧
    nackLoop {} windowErrorNack .request 2 [⟨0, 0, .pullRequest⟩] acked =
      some (acked.scanNacked {} windowErrorNack .request [⟨0, 0, .pullRequest⟩]) := by
  obtain ⟨logged, reached, tested⟩ := BooksRunProofs.reached_after_read {}
    [.transmit ⟨0, .pullRequest⟩, .tick 1000]
    (fun logged => (piggybackedBy logged).toOption.any readWaits) (by decide +kernel)
  obtain ⟨acked, handled, only⟩ := (Option.any_eq_true _ _).1 tested
  have piggybacked := toOption_eq_some.1 handled
  have waiting := of_decide_eq_true only
  have ends := (nack_loop_terminates reached windowErrorNack piggybacked).1
  refine ⟨logged, acked, piggybacked, waiting, ?_⟩
  rw [show windowErrorNack.window = WindowType.request from rfl, waiting] at ends
  exact ends

end Isekai.NackLoopProofs
