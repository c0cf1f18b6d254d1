import Isekai.ArrivalBooks

/-! Runs of a connection with its books. Every event keeps the books in order, as long as a
transaction is started only under an RSN that is not in use; from this the counters of outstanding
requests are read off. -/

namespace Isekai.BooksRunProofs
open Outcomes Reliability Reliability.Endpoint OutstandingBooks BookFrameProofs WindowAlignment
open AcknowledgementLoops RetransmissionBooks TransmissionBooks ArrivalBooks

/-- A connection, the packets that were sent through each window, in order, and the RSNs of the
pull requests that were answered. -/
structure Logged where
  endpoint : Endpoint
  sent : WindowType → List OutstandingPacketContext
  answered : Multiset UInt32

def sentBy (sent : WindowType → List OutstandingPacketContext) :
    Event → WindowType → List OutstandingPacketContext
  | .transmit work => sentAfter sent work
  | _ => sent

def answeredAfter (config : Config) (endpoint : Endpoint) (answered : Multiset UInt32) :
    Event → Multiset UInt32
  | .receivePacket packet resourcesAvailable _ _ =>
    answeredBy config endpoint packet resourcesAvailable + answered
  | _ => answered

/-- An event that starts transactions only under RSNs that are not in use. -/
def Happens (config : Config) (before after : Logged) (event : Event) : Prop :=
  before.endpoint.Possible config event ∧ before.endpoint.StartsFresh config event ∧
    before.endpoint.perform config event = .ok after.endpoint ∧
    after.sent = sentBy before.sent event ∧
    after.answered = answeredAfter config before.endpoint before.answered event

def Step (config : Config) (before after : Logged) : Prop := ∃ event, Happens config before after event

structure Initial (config : Config) (logged : Logged) : Prop where
  endpoint : logged.endpoint.Initial config
  sent : logged.sent = fun _ => []
  answered : logged.answered = 0

variable {config : Config} {sent : WindowType → List OutstandingPacketContext}
  {answered : Multiset UInt32} {limit : WindowType → UInt32} {endpoint : Endpoint}

theorem rates_kept (kept : Kept config sent answered limit endpoint)
    (fabricCongestionWindow nicCongestionWindow : UInt32) (retransmitTimeout rtt : Int) :
    Ensures (endpoint.updateRates config fabricCongestionWindow nicCongestionWindow
      retransmitTimeout rtt) (Kept config sent answered limit) := by
  refine ensures_ite (fun _ => ?_) fun _ => ensures_ok.2 ?_
  · refine setup_books.mono fun after same => kept_same (SameBooks.after same ?_) kept
    exact ⟨fun _ => .rfl, rfl, rfl, rfl, fun _ => rfl⟩
  · have same : SameBooks endpoint { endpoint with
        fabricCongestionWindow := fabricCongestionWindow
        nicCongestionWindow := nicCongestionWindow
        retransmitTimeout := retransmitTimeout
        rtt := rtt } := ⟨fun _ => .rfl, rfl, rfl, rfl, fun _ => rfl⟩
    exact kept_same same kept

/-- Everything but a first transmission also leaves the counters within any limits that they keep
to. -/
theorem other_event_kept (kept : Kept config sent answered limit endpoint) (event : Event)
    (silent : ∀ work, event ≠ .transmit work) (possible : endpoint.Possible config event)
    (fresh : endpoint.StartsFresh config event) :
    Ensures (endpoint.perform config event)
      (Kept config sent (answeredAfter config endpoint answered event) limit) := by
  cases event with
  | transmit work => exact absurd rfl (silent work)
  | tick now =>
    have same : SameBooks endpoint { endpoint with now := now } :=
      ⟨fun _ => .rfl, rfl, rfl, rfl, fun _ => rfl⟩
    exact ensures_ok.2 (kept_same same kept)
  | retransmit window work => exact retransmit_kept kept window work possible.1
  | receivePacket packet resourcesAvailable isRnr rnrTimeout =>
    exact transferred_kept kept packet resourcesAvailable isRnr rnrTimeout fresh
  | receiveAck ack => exact ack_kept ack kept
  | receiveNack nack => exact nack_kept nack kept
  | retransmitTimeout =>
    have same : SameBooks endpoint { endpoint with
        rtoEvents := endpoint.rtoEvents.erase endpoint.now } :=
      ⟨fun _ => .rfl, rfl, rfl, rfl, fun _ => rfl⟩
    exact timeout_kept (kept_same same kept)
  | tlpTimeout =>
    have same : SameBooks endpoint { endpoint with
        tlpEvents := endpoint.tlpEvents.erase endpoint.now } :=
      ⟨fun _ => .rfl, rfl, rfl, rfl, fun _ => rfl⟩
    exact probe_kept (kept_same same kept)
  | updateRates fabricCongestionWindow nicCongestionWindow retransmitTimeout rtt =>
    exact rates_kept kept _ _ retransmitTimeout rtt
  | initiate operation => exact initiated_kept kept operation fresh
  | ackTransaction rsn => exact acked_transaction_kept kept rsn
  | nackTransaction rsn isRnr rnrTimeout => exact nacked_transaction_kept kept rsn isRnr rnrTimeout
  | deliver work => exact delivered_kept kept possible
  | others prng outstandingConnCounter outstandingPktCounter =>
    have same : SameBooks endpoint { endpoint with
        prng := prng
        outstandingConnCounter := outstandingConnCounter
        outstandingPktCounter := outstandingPktCounter } :=
      ⟨fun _ => .rfl, rfl, rfl, rfl, fun _ => rfl⟩
    exact ensures_ok.2 (kept_same same kept)

theorem sent_by_other {event : Event} (silent : ∀ work, event ≠ .transmit work) :
    sentBy sent event = sent := by
  cases event with
  | transmit work => exact absurd rfl (silent work)
  | _ => rfl

theorem event_kept (kept : Kept config sent answered unlimited endpoint) (event : Event)
    (possible : endpoint.Possible config event) (fresh : endpoint.StartsFresh config event) :
    Ensures (endpoint.perform config event)
      (Kept config (sentBy sent event) (answeredAfter config endpoint answered event) unlimited) := by
  by_cases sends : ∃ work, event = .transmit work
  · obtain ⟨work, rfl⟩ := sends
    exact transmit_kept kept work possible
  · have silent (work : WorkId) : event ≠ .transmit work := fun is => sends ⟨work, is⟩
    rw [sent_by_other silent]
    exact other_event_kept kept event silent possible fresh

/-- A first transmission apart, no event raises a counter. -/
theorem counters_not_raised (kept : Kept config sent answered limit endpoint) (event : Event)
    (silent : ∀ work, event ≠ .transmit work) (possible : endpoint.Possible config event)
    (fresh : endpoint.StartsFresh config event) (window : WindowType) :
    Ensures (endpoint.perform config event) fun after =>
      (after.tx window).outstandingRequestsCounter ≤
        (endpoint.tx window).outstandingRequestsCounter := by
  have exact_ : Kept config sent answered
      (fun window => (endpoint.tx window).outstandingRequestsCounter) endpoint :=
    ⟨⟨kept.books.recorded, kept.books.queued, kept.books.counted, fun _ => UInt32.le_refl _⟩,
      kept.aligned⟩
  exact (other_event_kept exact_ event silent possible fresh).mono fun after further =>
    further.books.bounded window

/-- The books of a new connection are empty. -/
theorem initial_kept (initial : endpoint.Initial config) :
    Kept config (fun _ => []) 0 unlimited endpoint := by
  have contexts (window : WindowType) (psn : UInt32) :
      (endpoint.tx window).outstandingPacketContexts psn = none := by
    rw [initial.tx]
  have pending : pendingWork endpoint = [] := by
    simp [pendingWork, initial.scheduled, initial.reordered]
  refine ⟨⟨⟨?_, ?_, ?_, ?_⟩, ⟨?_, ?_, ?_⟩, ⟨fun _ => 0, 0, 0, fun window => ?_, ⟨?_, ?_⟩, ⟨?_, ?_⟩,
    ⟨?_, ?_⟩⟩, fun window => le_unlimited _ window⟩, fun window => ?_⟩
  · intro window psn context found
    cases (contexts window psn).symm.trans found
  · intro window psn context _ _ found
    cases (contexts window psn).symm.trans found
  · intro window work held
    simp [initial.tx, initial.retransmissions] at held
  · intro window work waits
    simp [initial.tx] at waits
  · rw [pending]
    exact List.nodup_nil
  · intro work member
    simp [pending] at member
  · intro key transaction type found held
    simp [initial.transactions] at held
  · rw [initial.tx]
    exact MapContents.contains_empty
  · rw [initial.tx]
    simp [rsnsOf]
  · rw [initial.tx]
    simp [rsnsOf]
  · simp [rsnsOf]
  · simp [rsnsOf]
  · intro rsn transaction held
    simp [initial.transactions] at held
  · intro rsn transaction held
    simp [initial.transactions] at held
  · rw [initial.tx]
    exact aligned_empty

theorem reachable_kept {logged : Logged}
    (reached : Runs.Reachable (Initial config) (Step config) logged) :
    Kept config logged.sent logged.answered unlimited logged.endpoint := by
  apply Runs.invariant_of_reachable _ _ reached
  · intro state initial
    rw [initial.sent, initial.answered]
    exact initial_kept initial.endpoint
  · rintro before after kept ⟨event, possible, fresh, performed, sent, answered⟩
    rw [sent, answered]
    exact event_kept kept event possible fresh _ performed

/-! ## The counters -/

/-- How many packets of a type were sent and are not acknowledged. -/
def unackedCount (logged : Logged) (window : WindowType) (type : PacketType) : Nat :=
  (unacked (logged.endpoint.tx window) (logged.sent window)).countP fun packet =>
    packet.packetType = type

theorem card_rsns_of (type : PacketType) (packets : List OutstandingPacketContext) :
    (rsnsOf type ↑packets).card = packets.countP fun packet => packet.packetType = type := by
  simp [rsnsOf, List.countP_eq_length_filter]

/-- The push requests that were sent and whose data is not acknowledged, by their RSNs. -/
def unfinishedPushes (logged : Logged) : Multiset UInt32 :=
  rsnsOf .pushRequest ↑(logged.sent .request) -
    rsnsOf .pushSolicitedData ↑(acked (logged.endpoint.tx .data) (logged.sent .data))

/-- The pull requests that were sent and are not answered, by their RSNs. -/
def unansweredPulls (logged : Logged) : Multiset UInt32 :=
  rsnsOf .pullRequest ↑(logged.sent .request) - logged.answered

/-- The pull requests that the request counter counts: until they are acknowledged, or in the
second generation, under its flag, until they are answered. -/
def countedPulls (config : Config) (logged : Logged) : Nat :=
  if config.decrementOrcOnPullResponse then (unansweredPulls logged).card
  else unackedCount logged .request .pullRequest

theorem counters_of_kept {logged : Logged}
    (kept : Kept config logged.sent logged.answered limit logged.endpoint) :
    (logged.endpoint.tx .request).outstandingRequestsCounter.toNat =
        countedPulls config logged + (unfinishedPushes logged).card ∧
      (logged.endpoint.tx .data).outstandingRequestsCounter.toNat =
        unackedCount logged .data .pushUnsolicitedData ∧
      rsnsOf .pushSolicitedData ↑(acked (logged.endpoint.tx .data) (logged.sent .data)) ≤
        rsnsOf .pushRequest ↑(logged.sent .request) ∧
      logged.answered ≤ rsnsOf .pullRequest ↑(logged.sent .request) := by
  obtain ⟨live, debts, pulls, contains, tally, balanced, opened⟩ := kept.books.counted
  have lives (window : WindowType) :
      live window = ↑(unacked (logged.endpoint.tx window) (logged.sent window)) :=
    MapContents.contains_unique (contains window) (contains_unacked (kept.aligned window))
  have pushes : debts + rsnsOf .pushSolicitedData
      ↑(acked (logged.endpoint.tx .data) (logged.sent .data)) =
        rsnsOf .pushRequest ↑(logged.sent .request) := by
    have all : (↑(logged.sent .data) : Multiset OutstandingPacketContext) =
        live .data + ↑(acked (logged.endpoint.tx .data) (logged.sent .data)) := by
      rw [lives, Multiset.coe_add]
      exact Multiset.coe_eq_coe.2 (acked_or_not (kept.aligned .data)).symm
    have balance := balanced.pushes
    rw [all] at balance
    simp only [rsnsOf, Multiset.filter_add, Multiset.map_add] at balance ⊢
    rw [add_left_comm, add_comm] at balance
    exact add_right_cancel balance
  refine ⟨?_, ?_, ?_, ?_⟩
  · rw [tally.request, countedPulls, unfinishedPushes, unansweredPulls, ← pushes, ← balanced.pulls,
      add_tsub_cancel_right, add_tsub_cancel_right, lives, card_rsns_of]
    rfl
  · rw [tally.data, lives, card_rsns_of]
    rfl
  · rw [← pushes]
    exact Multiset.le_add_left _ _
  · rw [← balanced.pulls]
    exact Multiset.le_add_left _ _

/-- The counters of outstanding requests are exact in every state of a run, and only a first
transmission raises one, so none was lowered below zero. -/
theorem request_counters_exact {logged : Logged}
    (reached : Runs.Reachable (Initial config) (Step config) logged) :
    (logged.endpoint.tx .request).outstandingRequestsCounter.toNat =
        countedPulls config logged + (unfinishedPushes logged).card ∧
      (logged.endpoint.tx .data).outstandingRequestsCounter.toNat =
        unackedCount logged .data .pushUnsolicitedData ∧
      rsnsOf .pushSolicitedData ↑(acked (logged.endpoint.tx .data) (logged.sent .data)) ≤
        rsnsOf .pushRequest ↑(logged.sent .request) ∧
      logged.answered ≤ rsnsOf .pullRequest ↑(logged.sent .request) ∧
      ∀ after event, Happens config logged after event → (∀ work, event ≠ .transmit work) →
        ∀ window, (after.endpoint.tx window).outstandingRequestsCounter ≤
          (logged.endpoint.tx window).outstandingRequestsCounter := by
  have kept := reachable_kept reached
  obtain ⟨request, data, pushes, pulls⟩ := counters_of_kept kept
  refine ⟨request, data, pushes, pulls, ?_⟩
  rintro after event ⟨possible, fresh, performed, _⟩ silent window
  exact counters_not_raised kept event silent possible fresh window _ performed

/-! ## Executed runs -/

/-- An event that starts no transaction, executed. -/
def attemptQuiet (config : Config) (before : Logged) (event : Event) : Option Logged :=
  match event with
  | .initiate _ | .receivePacket .. => none
  | event =>
    (Runs.attempt (before.endpoint.Possible config event)
      (before.endpoint.perform config event)).map fun after =>
        ⟨after, sentBy before.sent event, answeredAfter config before.endpoint before.answered event⟩

theorem step_of_attempt_quiet (before : Logged) (event : Event) (after : Logged)
    (done : attemptQuiet config before event = some after) : Step config before after := by
  unfold attemptQuiet at done
  refine ⟨event, ?_⟩
  split at done
  · cases done
  · cases done
  · rename_i initiates receives
    obtain ⟨endpoint, performed, rfl⟩ := Option.map_eq_some_iff.1 done
    obtain ⟨possible, result⟩ := Runs.attempt_eq_some.1 performed
    refine ⟨possible, ?_, result, rfl, rfl⟩
    cases event with
    | initiate operation => exact absurd rfl (initiates operation)
    | receivePacket packet resourcesAvailable isRnr rnrTimeout =>
      exact absurd rfl (receives packet resourcesAvailable isRnr rnrTimeout)
    | _ => trivial

/-- A new connection, and its first read request taken up. -/
def newConnection (config : Config) : Logged := ⟨starting config 1000 0x4000 8, fun _ => [], 0⟩

def readTakenUp (config : Config) : Logged :=
  ⟨enqueued { starting config 1000 0x4000 8 with nextRequestSequenceNumber := 1 } ⟨0, .initiator⟩
    { ({ type := .pull : Transaction }.createPacket .pullRequest {}) with state := .pullReqUlpRx }
    .pullRequest, fun _ => [], 0⟩

theorem read_taken_up (config : Config) :
    Step config (newConnection config) (readTakenUp config) := by
  refine ⟨.initiate .readRequest, trivial, ⟨rfl, nofun⟩, ?_, rfl, rfl⟩
  simp only [perform, initiateTransaction, requestedTransaction, updateState, getTransaction,
    setTransaction, Function.update_self, Except.bind, TransactionState.update, Except.map,
    Function.update_idem, newConnection, readTakenUp, enqueued]
  rfl

/-- What is reached after the read request is taken up. -/
theorem reached_after_read (config : Config) (events : List Event) (test : Logged → Bool)
    (tested : (Runs.execute (attemptQuiet config) events (readTakenUp config)).any test = true) :
    ∃ logged, Runs.Reachable (Initial config) (Step config) logged ∧ test logged = true := by
  obtain ⟨logged, done, holds⟩ := (Option.any_eq_true _ _).1 tested
  refine ⟨logged, ⟨newConnection config, ⟨initial_starting config 1000 0x4000 8, rfl, rfl⟩, ?_⟩, holds⟩
  exact .head (read_taken_up config) (Runs.execute_steps step_of_attempt_quiet done)

/-- The counter of a read request that was sent. -/
theorem request_counters_exact_read : ∃ logged : Logged,
    (logged.endpoint.tx .request).outstandingRequestsCounter.toNat =
        countedPulls {} logged + (unfinishedPushes logged).card ∧
      (logged.endpoint.tx .request).outstandingRequestsCounter = 1 := by
  obtain ⟨logged, reached, holds⟩ := reached_after_read {} [.transmit ⟨0, .pullRequest⟩]
    (fun logged => decide ((logged.endpoint.tx .request).outstandingRequestsCounter = 1))
    (by decide +kernel)
  exact ⟨logged, (request_counters_exact reached).1, of_decide_eq_true holds⟩

/-- In the second generation, under its flag, a read request that is acknowledged still counts. -/
theorem acknowledged_pull_counted : ∃ logged : Logged,
    Runs.Reachable (Initial { version := .gen2 true }) (Step { version := .gen2 true }) logged ∧
      (logged.endpoint.tx .request).outstandingRequestsCounter.toNat ≠
        unackedCount logged .request .pullRequest + (unfinishedPushes logged).card := by
  obtain ⟨logged, reached, holds⟩ := reached_after_read { version := .gen2 true }
    [.transmit ⟨0, .pullRequest⟩, .receiveAck { rrbpsn := 1, rdbpsn := 0 }]
    (fun logged => decide ((logged.endpoint.tx .request).outstandingRequestsCounter.toNat ≠
      unackedCount logged .request .pullRequest + (unfinishedPushes logged).card))
    (by decide +kernel)
  exact ⟨logged, reached, of_decide_eq_true holds⟩

end Isekai.BooksRunProofs
