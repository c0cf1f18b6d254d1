import Isekai.TimerFrameProofs

/-! The retransmission timer over whole runs. Its set-up turns any state in which the event of the
timer is pending into one where it also covers the outstanding packets, whatever the state was
before; and what a handler does after the set-up changes neither the packets that are outstanding
nor when they time out. -/

namespace Isekai.RetransmitTimerProofs
open Outcomes Reliability Reliability.Endpoint TimerFrameProofs

variable {before : Endpoint} {key : TransactionKey} {transaction : Transaction}

/-- A packet waits for its acknowledgement or its timeout. -/
def Outstanding (endpoint : Endpoint) : Prop :=
  ∃ window, (endpoint.tx window).outstandingPackets ≠ []

/-- If the timer is set then its event is pending, and no pending event is in the past. -/
structure Ready (endpoint : Endpoint) : Prop where
  pending : endpoint.rtoExpirationBaseTime ≠ 0 → endpoint.rtoExpirationTime ∈ endpoint.rtoEvents
  upcoming : ∀ time ∈ endpoint.rtoEvents, endpoint.now ≤ time
  contexts : IncomingContexts endpoint

/-- The timer is set while a packet is outstanding, unless the packet's own deadline reads like
a timer that is not set. -/
structure Watched (config : Config) (endpoint : Endpoint) : Prop extends Ready endpoint where
  armed : Outstanding endpoint → endpoint.rtoExpirationBaseTime ≠ 0 ∨
    ∃ deadline, endpoint.earliestBaseTime config = .ok (some deadline) ∧
      ceilNanoseconds deadline ≤ 0

/-- The timer is set for the clock or for a time that is not after the deadline. -/
def InTime (config : Config) (endpoint : Endpoint) : Prop :=
  ∀ deadline, endpoint.earliestBaseTime config = .ok (some deadline) →
    ∃ first ≤ deadline, endpoint.rtoExpirationBaseTime ≤ max endpoint.now (ceilNanoseconds first)

variable {config : Config} {endpoint : Endpoint}

/-! ## The set-up -/

theorem earlier_none {one other : Option Int} (none : earlier one other = none) :
    one = .none ∧ other = .none := by
  cases one <;> cases other <;> simp_all [earlier]

/-- Outstanding packets have a deadline, if it can be read at all. -/
theorem deadline_of_outstanding {found : Option Int} (outstanding : Outstanding endpoint)
    (read : endpoint.earliestBaseTime config = .ok found) : ∃ deadline, found = some deadline := by
  cases found with
  | some deadline => exact ⟨deadline, rfl⟩
  | none =>
    obtain ⟨window, waiting⟩ := outstanding
    obtain ⟨work, rest, list⟩ := List.exists_cons_of_ne_nil waiting
    unfold earliestBaseTime at read
    cases request : endpoint.candidateBaseTime config .request with
    | error abort => simp [request, Except.bind] at read
    | ok first =>
      cases data : endpoint.candidateBaseTime config .data with
      | error abort => simp [request, data, Except.bind, Except.map] at read
      | ok second =>
        simp only [request, data, Except.bind, Except.map, Except.ok.injEq] at read
        obtain ⟨rfl, rfl⟩ := earlier_none read
        have candidate : endpoint.candidateBaseTime config window = .ok none := by
          cases window with
          | request => exact request
          | data => exact data
        unfold candidateBaseTime at candidate
        rw [list] at candidate
        obtain ⟨located, _, absurd⟩ := map_eq_ok.1 candidate
        cases absurd

/-- A timer that is set for a time which has not passed and is not after the deadline. -/
theorem scheduled_sound {deadline baseTime jitter : Int} (ready : Ready endpoint)
    (found : endpoint.earliestBaseTime config = .ok (some deadline))
    (ahead : endpoint.now ≤ baseTime + jitter)
    (early : baseTime ≤ max endpoint.now (ceilNanoseconds deadline))
    (set : baseTime ≠ 0 ∨ ceilNanoseconds deadline ≤ 0) :
    Watched config (endpoint.scheduleRto baseTime jitter) ∧
      InTime config (endpoint.scheduleRto baseTime jitter) := by
  refine ⟨⟨⟨?_, ?_, ready.contexts⟩, ?_⟩, ?_⟩
  · intro _
    exact List.mem_append_right _ (List.mem_singleton.2 rfl)
  · intro time among
    rcases List.mem_append.1 among with old | new
    · exact ready.upcoming time old
    · rw [List.mem_singleton.1 new]
      exact ahead
  · intro _
    exact set.imp_right fun passed => ⟨deadline, found, passed⟩
  · intro other read
    have same : Except.ok (some deadline) = Except.ok (some other) := found.symm.trans read
    cases same
    exact ⟨deadline, le_rfl, early⟩

/-- Whatever the timer was set for, its set-up leaves it set for the packets that wait now. -/
theorem setup_sound (ready : Ready endpoint) :
    Ensures (endpoint.setupRetransmitTimer config) fun after =>
      Watched config after ∧ InTime config after := by
  have jitterNonneg : 0 ≤ (endpoint.getJitter config).1 :=
    Int.mul_nonneg (Int.natCast_nonneg _) (by decide)
  have drawnReady : Ready (endpoint.getJitter config).2 :=
    ⟨ready.pending, ready.upcoming, ready.contexts⟩
  unfold setupRetransmitTimer
  generalize endpoint.getJitter config = drawing at jitterNonneg drawnReady ⊢
  obtain ⟨jitter, drawn⟩ := drawing
  dsimp only at jitterNonneg drawnReady
  refine ensures_map.2 fun found read => ?_
  cases found with
  | none =>
    dsimp only
    refine ⟨⟨drawnReady, fun outstanding => ?_⟩, fun deadline other => ?_⟩
    · obtain ⟨deadline, absurd⟩ := deadline_of_outstanding outstanding read
      cases absurd
    · cases read.symm.trans other
  | some deadline =>
    dsimp only
    split_ifs with unchanged passed
    · refine ⟨⟨drawnReady, fun _ => ?_⟩, fun other again => ?_⟩
      · by_cases zero : drawn.rtoExpirationBaseTime = 0
        · exact .inr ⟨deadline, read, by rw [unchanged]; exact zero.le⟩
        · exact .inl zero
      · cases read.symm.trans again
        exact ⟨deadline, le_rfl, by rw [unchanged]; exact le_max_right _ _⟩
    · exact scheduled_sound drawnReady read (by omega) (le_max_left _ _) (by omega)
    · exact scheduled_sound drawnReady read (by omega) (le_max_right _ _) (by omega)

/-! ## After the set-up -/

/-- A change that leaves the timer, the outstanding packets and their deadlines alone. -/
structure SameTimers (config : Config) (before after : Endpoint) : Prop
    extends TimersKept before after where
  outstanding : ∀ window, (after.tx window).outstandingPackets =
    (before.tx window).outstandingPackets
  deadlines : ∀ window, after.candidateBaseTime config window =
    before.candidateBaseTime config window

instance : IsPreorder Endpoint (SameTimers config) where
  refl _ := ⟨.rfl, fun _ => rfl, fun _ => rfl⟩
  trans _ _ _ first second :=
    ⟨first.toTimersKept.trans second.toTimersKept,
      fun window => (second.outstanding window).trans (first.outstanding window),
      fun window => (second.deadlines window).trans (first.deadlines window)⟩

/-- With the later change first, from which the state between the two is read off. -/
theorem SameTimers.after {first second third : Endpoint} (two : SameTimers config second third)
    (one : SameTimers config first second) : SameTimers config first third :=
  trans_of (SameTimers config) one two

theorem SameTimers.earliest {after : Endpoint} (same : SameTimers config before after) :
    after.earliestBaseTime config = before.earliestBaseTime config := by
  simp only [earliestBaseTime, same.deadlines]

/-- The timer is pending and watches the outstanding packets; and it is in time, unless a probe
was taken out since it was set. -/
structure Sound (config : Config) (probed : Bool) (endpoint : Endpoint) : Prop
    extends Watched config endpoint where
  inTime : probed = false → InTime config endpoint

theorem ready_kept {after : Endpoint} (kept : TimersKept before after) (ready : Ready before) :
    Ready after where
  pending set := by
    rw [rtoExpirationTime, kept.base, kept.jitter, kept.events]
    exact ready.pending (kept.base ▸ set)
  upcoming := by
    rw [kept.events, kept.now]
    exact ready.upcoming
  contexts := kept.contexts ready.contexts

theorem sound_kept {after : Endpoint} {probed : Bool} (same : SameTimers config before after)
    (sound : Sound config probed before) :
    Sound config probed after where
  toReady := ready_kept same.toTimersKept sound.toReady
  armed waiting := by
    obtain ⟨window, some⟩ := waiting
    rw [same.base, same.earliest]
    exact sound.armed ⟨window, same.outstanding window ▸ some⟩
  inTime recent := by
    intro deadline read
    rw [same.base, same.now]
    exact sound.inTime recent deadline (same.earliest ▸ read)

/-- A part of a handler that ends with the set-up. -/
theorem sound_of_setup (probed : Bool) (ready : Ready endpoint) :
    Ensures (endpoint.setupRetransmitTimer config) (Sound config probed) :=
  (setup_sound ready).mono fun _ sound => ⟨sound.1, fun _ => sound.2⟩

/-- The packet of an outstanding work item is read as before, if its transaction still has it. -/
theorem located_after_set_transaction {work : RetransmissionWorkId}
    (kept : belongsTo work key → ∃ old,
      endpoint.transactions key = some old ∧
        transaction.packets work.type = old.packets work.type) :
    ((endpoint.setTransaction key transaction).locate work.rsn work.type).map Located.packet =
      (endpoint.locate work.rsn work.type).map Located.packet := by
  unfold locate
  cases side : getTransactionLocation work.type false with
  | error abort => rfl
  | ok location =>
    by_cases same : (⟨work.rsn, location⟩ : TransactionKey) = key
    · obtain ⟨old, found, packets⟩ := kept ⟨congrArg TransactionKey.rsn same, side.trans
        (congrArg (fun key => Except.ok key.location) same)⟩
      simp only [Except.bind, getTransaction, setTransaction, same, Function.update_self, found,
        Transaction.getPacketMetadata, packets]
      cases old.packets work.type <;> rfl
    · simp only [Except.bind, getTransaction, setTransaction, Function.update_of_ne same]

theorem set_transaction_same
    (kept : ∀ window, ∀ work ∈ (endpoint.tx window).outstandingPackets, belongsTo work key →
      ∃ old, endpoint.transactions key = some old ∧
        transaction.packets work.type = old.packets work.type) :
    SameTimers config endpoint (endpoint.setTransaction key transaction) := by
  refine ⟨set_transaction_keeps, fun _ => rfl, fun window => ?_⟩
  unfold candidateBaseTime
  rw [show ((endpoint.setTransaction key transaction).tx window) = endpoint.tx window from rfl]
  cases list : (endpoint.tx window).outstandingPackets with
  | nil => rfl
  | cons work rest =>
    have located := located_after_set_transaction (kept window work (by rw [list]; simp))
    have read := congrArg (Except.map fun packet : Reliability.PacketMetadata =>
      some (packet.transmissionTime + endpoint.getTimeoutOfPacket config packet)) located
    simp only [map_map] at read
    exact read

theorem get_transaction_eq_ok :
    endpoint.getTransaction key = .ok transaction ↔
      endpoint.transactions key = some transaction := by
  unfold getTransaction
  cases endpoint.transactions key <;> simp

theorem updated_state_same (config : Config) (key : TransactionKey) (type : PacketType)
    (stage : TransactionStage) :
    Ensures (endpoint.updateState key type stage) (SameTimers config endpoint) := by
  refine ensures_bind fun transaction found => ensures_map.2 fun state _ => ?_
  refine set_transaction_same fun window work waits belongs => ?_
  exact ⟨transaction, get_transaction_eq_ok.1 found, rfl⟩

theorem modified_tx_outstanding {window : WindowType} {change : TxWindow → TxWindow}
    (kept : ∀ tx, (change tx).outstandingPackets = tx.outstandingPackets) (other : WindowType) :
    ((endpoint.modifyTx window change).tx other).outstandingPackets =
      (endpoint.tx other).outstandingPackets := by
  by_cases same : other = window
  · subst same
    simp only [modifyTx, Function.update_self, kept]
  · simp only [modifyTx, Function.update_of_ne same]

theorem modified_tx_same {window : WindowType} {change : TxWindow → TxWindow}
    (kept : ∀ tx, (change tx).outstandingPackets = tx.outstandingPackets) :
    SameTimers config endpoint (endpoint.modifyTx window change) := by
  refine ⟨modified_tx_keeps, modified_tx_outstanding kept, fun other => ?_⟩
  unfold candidateBaseTime
  rw [modified_tx_outstanding kept other]
  rfl

theorem note_transmitted_same (key : TransactionKey) (type : PacketType)
    (isRetransmission : Bool) :
    Ensures (endpoint.noteTransmitted key type isRetransmission) (SameTimers config endpoint) := by
  refine ensures_ite (fun _ => ensures_ok.2 ?_) fun _ => ?_
  · unfold incrementOutstandingRetransmittedRequestCount
    split_ifs
    · exact modified_tx_same fun _ => rfl
    · exact refl_of (SameTimers config) _
  · have counted : SameTimers config endpoint (endpoint.incrementOutstandingRequestCount type) := by
      unfold incrementOutstandingRequestCount
      split_ifs
      · exact modified_tx_same fun _ => rfl
      · exact refl_of (SameTimers config) _
    exact (updated_state_same config key type .ntwkTx).mono fun after same => same.after counted

theorem tlp_timer_same : SameTimers config endpoint (endpoint.setupTlpTimer config) := by
  unfold setupTlpTimer
  dsimp only
  split_ifs <;> exact ⟨⟨rfl, rfl, rfl, rfl, id⟩, fun _ => rfl, fun _ => rfl⟩

theorem modified_rx_same {window : WindowType} {change : RxWindow → RxWindow} :
    SameTimers config endpoint (endpoint.modifyRx window change) :=
  ⟨⟨rfl, rfl, rfl, rfl, id⟩, fun _ => rfl, fun _ => rfl⟩

/-- A context is written: of a packet that comes in, or an empty one. -/
theorem set_context_same {context : ReceivedPacketContext}
    (incoming : IncomingContexts endpoint → context.type = .invalid ∨
      getTransactionLocation context.type true = .ok key.location) :
    SameTimers config endpoint { endpoint with
      receivedPacketContexts :=
        Function.update endpoint.receivedPacketContexts key (some context) } := by
  refine ⟨⟨rfl, rfl, rfl, rfl, fun before other written found => ?_⟩, fun _ => rfl, fun _ => rfl⟩
  by_cases same : other = key
  · subst same
    simp only [Function.update_self, Option.some.injEq] at found
    exact found ▸ incoming before
  · simp only [Function.update_of_ne same] at found
    exact before other written found

/-! ## The handlers -/

variable {probed : Bool}

theorem added_keeps (work : RetransmissionWorkId) :
    TimersKept endpoint (endpoint.addToOutstandingPackets work) :=
  ⟨rfl, rfl, rfl, rfl, id⟩

theorem created_context_same (key : TransactionKey) :
    SameTimers config endpoint (endpoint.createReceiverPacketContext key) := by
  refine set_context_same fun incoming => ?_
  cases found : endpoint.receivedPacketContexts key with
  | none => exact .inl rfl
  | some context => exact incoming key context found

theorem transmitted_sound (probed : Bool) (ready : Ready endpoint) (rsn : UInt32) (type : PacketType) :
    Ensures (endpoint.transmitPacket config rsn type) fun sent =>
      Sound config probed sent.1 := by
  refine ensures_bind fun located _ => ?_
  have numbered : TimersKept endpoint
      (if (located.packet.transmitAttempts + 1 != 1) = true then endpoint
        else endpoint.assignPsn (windowOf type)) := by
    split_ifs
    · exact .rfl
    · exact modified_tx_keeps
  refine Ensures.bind (sound_of_setup probed ?_) fun timed sound => ?_
  · exact ready_kept ((added_keeps _).after (set_transaction_keeps.after numbered)) ready
  · have prepared := sound_kept ((created_context_same located.key).after tlp_timer_same) sound
    exact ensures_map.2 ((note_transmitted_same _ _ _).mono fun counted same =>
      sound_kept same prepared)

theorem acknowledged_sound (ready : Ready endpoint) :
    Ensures ((endpoint.setupTlpTimer config).setupRetransmitTimer config)
      (Sound config probed) :=
  sound_of_setup probed (ready_kept tlp_timer_keeps ready)

theorem piggybacked_sound (sound : Sound config probed endpoint) (bpsn : WindowType → UInt32)
    (own : WindowType → Bool) :
    Ensures (endpoint.handlePiggybackedAck config bpsn own) (Sound config probed) := by
  refine ensures_ite (fun _ => ensures_ok.2 sound) fun _ => ?_
  refine Ensures.bind (timers_of_framed (acknowledged_windows_framed bpsn own)) fun acked kept => ?_
  exact acknowledged_sound (ready_kept kept sound.toReady)

theorem ack_sound (sound : Sound config probed endpoint) (ack : AckPacket) :
    Ensures (endpoint.handleAck config ack) (Sound config probed) := by
  refine ensures_ite (fun _ => ensures_ok.2 sound) fun _ => ?_
  refine Ensures.bind (timers_of_framed (acknowledged_windows_framed ack.bpsn ack.own))
    fun acked near => ?_
  refine Ensures.bind (M := TimersKept acked) ?_ fun handled far => ?_
  · exact ensures_ite (fun _ => timers_of_framed (handled_eack_framed ack)) fun _ =>
      ensures_ok.2 .rfl
  · refine acknowledged_sound (ready_kept (near.trans (far.trans ?_)) sound.toReady)
    split_ifs
    · exact (rack_update_framed config ack.timestamp1).timers
    · exact .rfl

theorem implicit_ack_sound (sound : Sound config probed endpoint) (packet : Packet) :
    Ensures (endpoint.handleImplicitAck config packet) (Sound config probed) := by
  unfold handleImplicitAck
  cases answeredPacket packet.type with
  | none => exact ensures_ok.2 sound
  | some answer =>
    obtain ⟨location, type, window⟩ := answer
    refine ensures_bind fun transaction _ => ensures_bind fun answered _ => ?_
    refine ensures_ite (fun _ => ensures_ok.2 sound) fun _ => ensures_bind fun isAcked _ => ?_
    refine ensures_ite (fun _ => ensures_ok.2 sound) fun _ => ?_
    refine Ensures.bind (timers_of_framed (acknowledged_framed window answered.psn))
      fun acked near => ?_
    refine ensures_bind fun bits _ => ?_
    exact acknowledged_sound (ready_kept (modified_tx_keeps.after near) sound.toReady)

theorem nack_sound (sound : Sound config probed endpoint) (nack : NackPacket) :
    Ensures (endpoint.handleNack config nack) (Sound config probed) := by
  refine Ensures.bind (piggybacked_sound sound _ _) fun acked first => ?_
  refine Ensures.bind (M := Ready) ?_ fun handled ready => ?_
  · unfold handleNackCode
    cases nack.code with
    | rxResourceExhaustion => exact ensures_ok.2 first.toReady
    | ulpReceiverNotReady =>
      refine ensures_bind fun found _ => ?_
      exact (sound_of_setup probed (ready_kept set_transaction_keeps first.toReady)).mono
        fun _ sound => sound.toReady
    | rxWindowError =>
      refine ensures_ite (fun _ => ensures_ok.2 first.toReady) fun _ => ?_
      exact (scanned_nacked_framed nack _ _).mono fun _ kept => ready_kept kept.timers first.toReady
    | ulpCompletionInError | ulpNonRecoverableError | invalidCidError =>
      exact (cancelled_framed nack true).mono fun _ kept => ready_kept kept.timers first.toReady
    | xlrDrop =>
      exact (cancelled_framed nack false).mono fun _ kept => ready_kept kept.timers first.toReady
    | notANack => exact ensures_error
  · refine Ensures.bind (timers_of_framed (rack_updated_by_nack_framed nack)) fun updated kept => ?_
    exact acknowledged_sound (ready_kept kept ready)

/-! ## Packets from the network -/

theorem updated_bitmap_same (window : WindowType) (psn : UInt32) :
    Ensures (endpoint.updateReceiveAckBitmap window psn) (SameTimers config endpoint) :=
  ensures_map.2 fun _ _ => modified_rx_same

theorem admitted_sound (sound : Sound config probed endpoint) (packet : Packet) (index : Nat) :
    Ensures (endpoint.admitPacket config packet index) (Sound config probed) := by
  refine Ensures.bind (implicit_ack_sound sound packet) fun acked first => ?_
  refine ensures_bind fun received _ => ?_
  have stored : Sound config probed (acked.modifyRx (windowOf packet.type) fun rx =>
      { rx with receiveWindow := received }) := sound_kept modified_rx_same first
  refine Ensures.bind (M := Sound config probed) ?_ fun updated second => ?_
  · refine ensures_ite (fun _ => ensures_ok.2 stored) fun _ => ?_
    exact (updated_bitmap_same _ _).mono fun _ same => sound_kept same stored
  · refine ensures_bind fun location incoming => ?_
    exact piggybacked_sound (sound_kept (set_context_same fun _ => .inr incoming) second) _ _

theorem incoming_sound (sound : Sound config probed endpoint) (packet : Packet)
    (resourcesAvailable : Bool) :
    Ensures (endpoint.handleIncomingPacket config packet resourcesAvailable) fun received =>
      Sound config probed received.1 := by
  refine ensures_ite (fun _ => ensures_ok.2 sound) fun _ => ensures_ite (fun _ => ?_) fun _ => ?_
  · refine ensures_ok.2 ?_
    dsimp only
    split_ifs
    · exact sound_kept modified_rx_same sound
    · exact sound
  · refine ensures_bind fun isReceived _ => ensures_ite (fun _ => ?_) fun _ => ?_
    · exact ensures_map.2 fun _ _ => sound
    · refine ensures_ite (fun _ => ?_) fun _ => ?_
      · exact ensures_map.2 (admitted_sound sound packet _)
      · exact ensures_map.2 (piggybacked_sound sound _ _)

theorem count_pull_response_same (rsn : UInt32) :
    Ensures (endpoint.countPullResponse rsn) (SameTimers config endpoint) := by
  refine ensures_bind fun transaction _ => ensures_map.2 fun request _ => ?_
  have lowered : SameTimers config endpoint
      endpoint.decrementOutstandingRequestCountOnPullResponse := modified_tx_same fun _ => rfl
  dsimp only
  split_ifs
  · exact SameTimers.after (modified_tx_same fun _ => rfl) lowered
  · exact lowered

theorem received_sound (sound : Sound config probed endpoint) (packet : Packet)
    (resourcesAvailable : Bool) :
    Ensures (endpoint.receivePacket config packet resourcesAvailable) fun received =>
      Sound config probed received.1 := by
  refine Ensures.bind (incoming_sound sound packet resourcesAvailable) fun received first => ?_
  refine ensures_ite (fun _ => ?_) fun _ => ensures_ok.2 first
  exact ensures_map.2 ((count_pull_response_same packet.rsn).mono fun _ same =>
    sound_kept same first)

/-- What comes in is of another type than what goes out on the same side. -/
theorem incoming_ne_outgoing {one other : PacketType} {location : TransactionLocation}
    (incoming : getTransactionLocation one true = .ok location)
    (outgoing : getTransactionLocation other false = .ok location) : other ≠ one := by
  rintro rfl
  revert incoming outgoing
  cases other <;> cases location <;> simp [getTransactionLocation]

theorem started_packet {type : PacketType} {location : TransactionLocation}
    (started : startedTransaction type = some transaction)
    (incoming : getTransactionLocation type true = .ok location) : location = .target := by
  cases type <;> simp_all [startedTransaction, getTransactionLocation]

theorem created_from_network_same (packet : Packet)
    (fresh : (startedTransaction packet.type).isSome →
      endpoint.transactions ⟨packet.rsn, .target⟩ = none →
      endpoint.Unreferenced ⟨packet.rsn, .target⟩) :
    Ensures (endpoint.createOrUpdateTransactionFromNetwork packet)
      (SameTimers config endpoint) := by
  refine ensures_bind fun location incoming => ?_
  dsimp only
  cases found : (endpoint.transactions ⟨packet.rsn, location⟩).or
      (startedTransaction packet.type) with
  | none => exact ensures_error
  | some transaction =>
    refine (updated_state_same config _ _ _).mono fun after same => same.after ?_
    refine set_transaction_same fun window work waits belongs => ?_
    cases held : endpoint.transactions ⟨packet.rsn, location⟩ with
    | some old =>
      rw [held, Option.some_or, Option.some.injEq] at found
      subst found
      refine ⟨old, rfl, ?_⟩
      exact Function.update_of_ne (incoming_ne_outgoing incoming belongs.2) _ _
    | none =>
      rw [held, Option.none_or] at found
      have target := started_packet found incoming
      subst target
      refine absurd belongs (fresh (by rw [found]; rfl) held work ?_)
      cases window <;> simp [pendingWorks, waits]

theorem nacked_from_ulp_same (config : Config) (incoming : IncomingContexts endpoint)
    (rsn : UInt32) (isRnr : Bool) (rnrTimeout : Int) :
    Ensures (endpoint.handleNackFromUlp rsn isRnr rnrTimeout) (SameTimers config endpoint) := by
  unfold handleNackFromUlp
  dsimp only
  cases found : endpoint.receivedPacketContexts ⟨rsn, .target⟩ with
  | none => exact ensures_error
  | some context =>
    refine ensures_bind fun transaction held => ensures_map.2 fun packet _ => ?_
    refine set_transaction_same fun window work waits belongs => ?_
    refine ⟨transaction, get_transaction_eq_ok.1 held, Function.update_of_ne ?_ _ _⟩
    rcases incoming _ _ found with none | some
    · rintro same
      have outgoing := belongs.2
      rw [same, none] at outgoing
      cases outgoing
    · exact incoming_ne_outgoing some belongs.2

theorem transferred_sound (sound : Sound config probed endpoint) (packet : Packet)
    (resourcesAvailable isRnr : Bool) (rnrTimeout : Int)
    (fresh : endpoint.CreatesFresh config
      (.receivePacket packet resourcesAvailable isRnr rnrTimeout)) :
    Ensures (endpoint.transferRxPacket config packet resourcesAvailable isRnr rnrTimeout)
      (Sound config probed) := by
  refine ensures_bind fun ⟨received, accepted⟩ taken => ?_
  have first := received_sound sound packet resourcesAvailable _ taken
  refine ensures_ite (fun isAccepted => ?_) fun _ => ensures_ok.2 first
  rw [show accepted = true from isAccepted] at taken
  refine Ensures.bind (M := SameTimers config received) ?_ fun created same => ?_
  · exact created_from_network_same packet fun starts none => fresh starts received taken none
  have second := sound_kept same first
  refine ensures_ite (fun _ => ?_) fun _ => ensures_ok.2 (sound_kept ?_ second)
  · refine Ensures.bind (updated_state_same config _ _ _) fun refused further => ?_
    have third := sound_kept further second
    exact (nacked_from_ulp_same config third.contexts packet.rsn true rnrTimeout).mono
      fun _ last => sound_kept last third
  · exact ⟨⟨rfl, rfl, rfl, rfl, id⟩, fun _ => rfl, fun _ => rfl⟩

/-! ## Timeouts and rates -/

/-- An event of the timer that was taken from the queue leaves the others; and the timer's own,
unless it was the one taken. -/
theorem timeout_sound (sound : Sound config probed endpoint) :
    Ensures (({ endpoint with
        rtoEvents := endpoint.rtoEvents.erase endpoint.now }).handleRetransmitTimeout config)
      (Sound config probed) := by
  have upcoming : ∀ time ∈ endpoint.rtoEvents.erase endpoint.now, endpoint.now ≤ time :=
    fun time among => sound.upcoming time (List.mem_of_mem_erase among)
  refine ensures_ite (fun stale => ensures_ok.2 ?_) fun _ => ?_
  · refine ⟨⟨⟨fun set => ?_, upcoming, sound.contexts⟩, sound.armed⟩, sound.inTime⟩
    exact (List.mem_erase_of_ne (Ne.symm stale)).2 (sound.pending set)
  · refine Ensures.bind (timers_of_framed (scanned_expired_framed .request _)) fun scanned first => ?_
    refine Ensures.bind (timers_of_framed (scanned_expired_framed .data _)) fun expired second => ?_
    refine sound_of_setup probed (ready_kept (first.trans second) ?_)
    exact ⟨fun set => absurd rfl set, upcoming, sound.contexts⟩

/-- The earliest deadline of a state is not the time at which timers read as not set. -/
def Timed (config : Config) (endpoint : Endpoint) : Prop :=
  ∀ deadline, endpoint.earliestBaseTime config = .ok (some deadline) → 0 < ceilNanoseconds deadline

theorem set_of_timed (watched : Watched config endpoint) (timed : Timed config endpoint)
    (waiting : Outstanding endpoint) : endpoint.rtoExpirationBaseTime ≠ 0 := by
  rcases watched.armed waiting with set | ⟨deadline, read, passed⟩
  · exact set
  · have := timed deadline read
    omega

theorem watched_kept {after : Endpoint} (kept : TimersKept before after)
    (outstanding : Outstanding after → Outstanding before) (watched : Watched config before)
    (timed : Timed config before) : Watched config after where
  toReady := ready_kept kept watched.toReady
  armed waiting := .inl (kept.base ▸ set_of_timed watched timed (outstanding waiting))

/-- A change without a set-up: the same packets are outstanding, and no deadline that can still be
read gets earlier. -/
structure NotEarlier (config : Config) (before after : Endpoint) : Prop
    extends TimersKept before after where
  outstanding : ∀ window, (after.tx window).outstandingPackets =
    (before.tx window).outstandingPackets
  deadlines : ∀ window later, after.candidateBaseTime config window = .ok later →
    ∃ first, before.candidateBaseTime config window = .ok first ∧
      Option.Rel (· ≤ ·) first later

theorem rel_refl (found : Option Int) : Option.Rel (· ≤ ·) found found := by
  cases found with
  | none => exact .none
  | some deadline => exact .some le_rfl

theorem SameTimers.not_earlier {after : Endpoint} (same : SameTimers config before after) :
    NotEarlier config before after where
  toTimersKept := same.toTimersKept
  outstanding := same.outstanding
  deadlines window later read := ⟨later, same.deadlines window ▸ read, rel_refl later⟩

theorem earlier_rel {one other one' other' : Option Int} (first : Option.Rel (· ≤ ·) one one')
    (second : Option.Rel (· ≤ ·) other other') :
    Option.Rel (· ≤ ·) (earlier one other) (earlier one' other') := by
  cases first with
  | none => exact second
  | some near =>
    cases second with
    | none => exact .some near
    | some far =>
      refine .some ?_
      split_ifs <;> omega

theorem NotEarlier.earliest {after : Endpoint} (later : NotEarlier config before after)
    {deadline : Int} (read : after.earliestBaseTime config = .ok (some deadline)) :
    ∃ first ≤ deadline, before.earliestBaseTime config = .ok (some first) := by
  unfold earliestBaseTime at read
  cases request : after.candidateBaseTime config .request with
  | error abort => simp [request, Except.bind] at read
  | ok one' =>
    cases data : after.candidateBaseTime config .data with
    | error abort => simp [request, data, Except.bind, Except.map] at read
    | ok other' =>
      obtain ⟨one, requestBefore, near⟩ := later.deadlines .request one' request
      obtain ⟨other, dataBefore, far⟩ := later.deadlines .data other' data
      simp only [request, data, Except.bind, Except.map, Except.ok.injEq] at read
      have bounded := earlier_rel near far
      rw [read] at bounded
      cases found : earlier one other with
      | none =>
        rw [found] at bounded
        cases bounded
      | some first =>
        rw [found] at bounded
        cases bounded with
        | some order =>
          refine ⟨first, order, ?_⟩
          simp only [earliestBaseTime, requestBefore, dataBefore, Except.bind, Except.map, found]

theorem sound_not_earlier {after : Endpoint} (later : NotEarlier config before after)
    (sound : Sound config probed before) (timed : Timed config before) :
    Sound config probed after where
  toWatched := by
    refine watched_kept later.toTimersKept ?_ sound.toWatched timed
    rintro ⟨window, waiting⟩
    exact ⟨window, later.outstanding window ▸ waiting⟩
  inTime recent deadline read := by
    obtain ⟨middle, before, readBefore⟩ := later.earliest read
    obtain ⟨first, earlier, bound⟩ := sound.inTime recent middle readBefore
    refine ⟨first, earlier.trans before, ?_⟩
    rw [later.base, later.now]
    exact bound

theorem located_before_erase {rsn : UInt32} {type : PacketType} {located : Located}
    (found : (endpoint.eraseTransaction key).locate rsn type = .ok located) :
    endpoint.locate rsn type = .ok located := by
  unfold locate at found ⊢
  cases side : getTransactionLocation type false with
  | error abort =>
    rw [side] at found
    cases found
  | ok location =>
    rw [side] at found
    by_cases same : (⟨rsn, location⟩ : TransactionKey) = key
    · simp [Except.bind, getTransaction, eraseTransaction, same] at found
    · simpa only [Except.bind, getTransaction, eraseTransaction, Function.update_of_ne same]
        using found

theorem erased_transaction_not_earlier (key : TransactionKey) :
    NotEarlier config endpoint (endpoint.eraseTransaction key) := by
  refine ⟨erased_transaction_keeps key, fun _ => rfl, fun window later read => ?_⟩
  refine ⟨later, ?_, rel_refl later⟩
  unfold candidateBaseTime at read ⊢
  rw [show (endpoint.eraseTransaction key).tx = endpoint.tx from rfl] at read
  cases list : (endpoint.tx window).outstandingPackets with
  | nil =>
    rw [list] at read
    exact read
  | cons work rest =>
    rw [list] at read
    obtain ⟨located, found, deadline⟩ := map_eq_ok.1 read
    exact map_eq_ok.2 ⟨located, located_before_erase found, deadline⟩

/-- A longer RTO makes no packet time out earlier. -/
theorem timeout_of_longer_rto {after : Endpoint} (packet : Reliability.PacketMetadata)
    (rack : after.rackXmitTs = before.rackXmitTs ∧ after.rackRto = before.rackRto)
    (ulp : after.ulpRto = before.ulpRto)
    (longer : before.retransmitTimeout ≤ after.retransmitTimeout) :
    before.getTimeoutOfPacket config packet ≤ after.getTimeoutOfPacket config packet := by
  unfold getTimeoutOfPacket
  rw [rack.1, rack.2, ulp]
  cases before.rackRto with
  | none =>
    dsimp only
    split_ifs <;> omega
  | some rackRto =>
    dsimp only
    split_ifs <;> omega

theorem rates_sound (sound : Sound config probed endpoint) (timed : Timed config endpoint)
    (fabricCongestionWindow nicCongestionWindow : UInt32) (retransmitTimeout rtt : Int) :
    Ensures (endpoint.updateRates config fabricCongestionWindow nicCongestionWindow
      retransmitTimeout rtt) (Sound config probed) := by
  refine ensures_ite (fun _ => ?_) fun longer => ensures_ok.2 (sound_not_earlier ?_ sound timed)
  · exact sound_of_setup probed ⟨fun set => absurd rfl set, sound.upcoming, sound.contexts⟩
  · refine ⟨⟨rfl, rfl, rfl, rfl, id⟩, fun _ => rfl, fun window later read => ?_⟩
    unfold candidateBaseTime at read ⊢
    dsimp only at read ⊢
    cases list : (endpoint.tx window).outstandingPackets with
    | nil =>
      rw [list] at read
      exact ⟨later, read, rel_refl later⟩
    | cons work rest =>
      rw [list] at read
      obtain ⟨located, found, deadline⟩ := map_eq_ok.1 read
      refine ⟨_, map_eq_ok.2 ⟨located, found, rfl⟩, deadline ▸ .some ?_⟩
      refine Int.add_le_add_left ?_ _
      exact timeout_of_longer_rto located.packet ⟨rfl, rfl⟩ rfl (not_lt.1 longer)

theorem decremented_retransmitted_outstanding (type : PacketType) (isAcked : Bool)
    (window : WindowType) :
    ((endpoint.decrementOutstandingRetransmittedRequestCount config type isAcked).tx
      window).outstandingPackets = (endpoint.tx window).outstandingPackets := by
  unfold decrementOutstandingRetransmittedRequestCount
  split_ifs
  · rfl
  · exact modified_tx_outstanding (by exact fun _ => rfl) window
  · rfl

theorem initiated_outstanding (rsn : UInt32) (type : PacketType) :
    Ensures (endpoint.initiateRetransmission config rsn type) fun after => ∀ window,
      (after.tx window).outstandingPackets = (endpoint.tx window).outstandingPackets := by
  refine ensures_map.2 fun located _ => ?_
  dsimp only
  split_ifs
  · exact decremented_retransmitted_outstanding type false
  · exact fun _ => rfl

theorem erased_outstanding_fewer {erased : WindowType} {psn : UInt32} (window : WindowType)
    (waiting : ((endpoint.eraseOutstanding erased psn).tx window).outstandingPackets ≠ []) :
    (endpoint.tx window).outstandingPackets ≠ [] := by
  intro none
  refine waiting ?_
  by_cases same : window = erased
  · subst same
    simp [eraseOutstanding, updateOutstandingCounterAfterErase, modifyTx, eraseWork, none]
  · simp [eraseOutstanding, updateOutstandingCounterAfterErase, modifyTx,
      Function.update_of_ne same, none]

theorem probe_watched (watched : Watched config endpoint) (timed : Timed config endpoint) :
    Ensures (({ endpoint with tlpEvents := endpoint.tlpEvents.erase endpoint.now }).handleTlpTimeout
      config) (Watched config) := by
  have kept {after : Endpoint} (timers : TimersKept endpoint after)
      (fewer : ∀ window, (after.tx window).outstandingPackets ≠ [] →
        (endpoint.tx window).outstandingPackets ≠ []) : Watched config after :=
    watched_kept timers (fun ⟨window, waiting⟩ => ⟨window, fewer window waiting⟩) watched timed
  refine ensures_ite (fun _ => ensures_ok.2 (kept ⟨rfl, rfl, rfl, rfl, id⟩ fun _ => id)) fun _ => ?_
  refine ensures_bind fun candidate _ => ?_
  cases candidate with
  | none => exact ensures_ok.2 (kept ⟨rfl, rfl, rfl, rfl, id⟩ fun _ => id)
  | some choice =>
    obtain ⟨window, work⟩ := choice
    refine ensures_bind fun located _ => ?_
    refine ensures_ite (fun _ => ensures_ok.2 (kept ⟨rfl, rfl, rfl, rfl, id⟩ fun _ => id)) fun _ => ?_
    refine ensures_map.2 (((timers_of_framed (initiated_framed work.rsn work.type)).and
      (initiated_outstanding work.rsn work.type)).mono fun initiated done => kept ?_ ?_)
    · exact (erased_outstanding_framed window work.psn).timers.after
        (done.1.after ⟨rfl, rfl, rfl, rfl, id⟩)
    · intro other waiting
      exact done.2 other ▸ erased_outstanding_fewer other waiting

theorem scheduled_same (works : List WorkId) :
    SameTimers config endpoint { endpoint with scheduled := works } :=
  ⟨⟨rfl, rfl, rfl, rfl, id⟩, fun _ => rfl, fun _ => rfl⟩

theorem retransmissions_same (queues : WindowType → List RetransmissionWorkId) :
    SameTimers config endpoint { endpoint with retransmissions := queues } :=
  ⟨⟨rfl, rfl, rfl, rfl, id⟩, fun _ => rfl, fun _ => rfl⟩

theorem fresh_transaction_same (fresh : endpoint.Unreferenced key) (transaction : Transaction) :
    SameTimers config endpoint (endpoint.setTransaction key transaction) := by
  refine set_transaction_same fun window work waits belongs => absurd belongs (fresh work ?_)
  cases window <;> simp [pendingWorks, waits]

theorem created_from_ulp_same (config : Config) (fresh : endpoint.Unreferenced key)
    (transaction : Transaction) (type : PacketType) :
    Ensures ((endpoint.setTransaction key transaction).updateState key type .ulpRx)
      (SameTimers config endpoint) :=
  (updated_state_same config _ _ _).mono fun _ same =>
    same.after (fresh_transaction_same fresh transaction)

theorem initiated_same (operation : UlpOperation)
    (fresh : endpoint.CreatesFresh config (.initiate operation)) :
    Ensures (endpoint.initiateTransaction operation) (SameTimers config endpoint) := by
  have numbered : SameTimers config endpoint { endpoint with
      nextRequestSequenceNumber := endpoint.nextRequestSequenceNumber + 1 } :=
    ⟨⟨rfl, rfl, rfl, rfl, id⟩, fun _ => rfl, fun _ => rfl⟩
  cases operation with
  | readResponse rsn =>
    refine ensures_bind fun transaction _ => ensures_map.2 ?_
    exact (created_from_ulp_same config fresh _ _).mono fun created same =>
      (scheduled_same _).after same
  | readRequest =>
    exact ensures_map.2 ((created_from_ulp_same config (by exact fresh) _ _).mono
      fun created same => (scheduled_same _).after (same.after numbered))
  | write solicited =>
    cases solicited with
    | true | false =>
      exact ensures_map.2 ((created_from_ulp_same config (by exact fresh) _ _).mono
        fun created same => (scheduled_same _).after (same.after numbered))

theorem NotEarlier.trans {first second third : Endpoint} (one : NotEarlier config first second)
    (two : NotEarlier config second third) : NotEarlier config first third where
  toTimersKept := one.toTimersKept.trans two.toTimersKept
  outstanding window := (two.outstanding window).trans (one.outstanding window)
  deadlines window last read := by
    obtain ⟨middle, between, far⟩ := two.deadlines window last read
    obtain ⟨before, start, near⟩ := one.deadlines window middle between
    refine ⟨before, start, ?_⟩
    cases near with
    | none => exact far
    | some close =>
      cases far with
      | some further => exact .some (close.trans further)

theorem acked_by_ulp_not_earlier (rsn : UInt32) :
    Ensures (endpoint.ackTransaction rsn) (NotEarlier config endpoint) := by
  refine ensures_bind fun transaction _ => ?_
  refine Ensures.bind (updated_state_same config _ _ _) fun updated same => ?_
  unfold handleAckFromUlp
  cases updated.receivedPacketContexts ⟨rsn, .target⟩ with
  | none => exact ensures_error
  | some context =>
    refine ensures_ite (fun _ => ensures_ok.2 same.not_earlier) fun _ => ?_
    have erased := same.not_earlier.trans (erased_transaction_not_earlier ⟨rsn, .target⟩)
    exact (updated_bitmap_same _ _).mono fun after further => erased.trans further.not_earlier

theorem delivered_not_earlier (work : WorkId) :
    Ensures (endpoint.reorderCallback work) (NotEarlier config endpoint) := by
  have same : NotEarlier config endpoint endpoint := (refl_of (SameTimers config) _).not_earlier
  have handedOver (location : TransactionLocation) (type : PacketType) :
      Ensures ((endpoint.updateState ⟨work.rsn, location⟩ type .ulpTx).map fun delivered =>
        if type = .pullData then delivered.eraseTransaction ⟨work.rsn, location⟩ else delivered)
        (NotEarlier config endpoint) := by
    refine ensures_map.2 ((updated_state_same config _ _ _).mono fun delivered updated => ?_)
    split_ifs
    · exact updated.not_earlier.trans (erased_transaction_not_earlier _)
    · exact updated.not_earlier
  have answered (type : PacketType) : Ensures ((getTransactionLocation type true).bind fun location =>
      (getNextFalconPacket type).bind fun next =>
      (endpoint.getTransaction ⟨work.rsn, location⟩).bind fun transaction =>
      (transaction.getPacketMetadata next).map fun _ =>
        { endpoint with scheduled := endpoint.scheduled ++ [⟨work.rsn, next⟩] })
      (NotEarlier config endpoint) := by
    refine ensures_bind fun location _ => ensures_bind fun next _ => ensures_bind fun _ _ => ?_
    exact ensures_map.2 fun _ _ =>
      ⟨⟨rfl, rfl, rfl, rfl, id⟩, fun _ => rfl, fun _ later read => ⟨later, read, rel_refl later⟩⟩
  unfold reorderCallback
  cases type : work.type with
  | pullRequest | pullData | pushSolicitedData | pushUnsolicitedData =>
    refine ensures_bind fun location _ => ensures_bind fun _ _ => ensures_bind fun _ _ => ?_
    exact handedOver location _
  | pushRequest | pushGrant => exact answered _
  | ack =>
    refine ensures_bind fun transaction _ => ensures_ite (fun _ => ensures_error) fun _ => ?_
    exact ensures_map.2 ((updated_state_same config _ _ _).mono fun completed updated =>
      updated.not_earlier.trans (erased_transaction_not_earlier _))
  | nack => exact ensures_ok.2 same
  | resync | back | eack | invalid => exact ensures_error

end Isekai.RetransmitTimerProofs
