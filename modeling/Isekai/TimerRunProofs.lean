import Isekai.RetransmitTimerProofs

/-! Runs of a connection with its retransmission timer. Each event keeps the timer pending and
watching the outstanding packets, as long as a transaction under whose RSN packets are still
pending is not started anew. Only a probe takes a packet out of the queue without a set-up. -/

namespace Isekai.TimerRunProofs
open Outcomes Reliability Reliability.Endpoint TimerFrameProofs RetransmitTimerProofs

/-- A connection, and whether a probe was taken out since its last transmission. -/
structure Monitored where
  endpoint : Endpoint
  probed : Bool

def probedAfter (probed : Bool) : Event → Bool
  | .tlpTimeout => true
  | .transmit _ => false
  | .retransmit _ _ => false
  | _ => probed

/-- Something happens, after which no packet has a deadline that reads as none. -/
def Step (config : Config) (before after : Monitored) : Prop :=
  ∃ event, before.endpoint.Possible config event ∧ before.endpoint.CreatesFresh config event ∧
    before.endpoint.perform config event = .ok after.endpoint ∧
    after.probed = probedAfter before.probed event ∧ Timed config after.endpoint

structure Initial (config : Config) (monitored : Monitored) : Prop where
  endpoint : monitored.endpoint.Initial config
  unprobed : monitored.probed = false

variable {config : Config} {endpoint : Endpoint} {probed : Bool}

theorem event_sound (sound : Sound config probed endpoint) (timed : Timed config endpoint)
    (event : Event) (possible : endpoint.Possible config event)
    (fresh : endpoint.CreatesFresh config event) :
    Ensures (endpoint.perform config event) (Sound config (probedAfter probed event)) := by
  cases event with
  | tick now =>
    refine ensures_ok.2 ⟨⟨⟨sound.pending, possible.2.1, sound.contexts⟩, sound.armed⟩, ?_⟩
    intro recent deadline read
    obtain ⟨first, earlier, bound⟩ := sound.inTime recent deadline read
    refine ⟨first, earlier, bound.trans (max_le_max_right _ possible.1)⟩
  | transmit work =>
    exact ensures_map.2 ((transmitted_sound false sound.toReady _ _).mono fun sent after =>
      sound_kept (scheduled_same _) after)
  | retransmit window work =>
    exact ensures_map.2 ((transmitted_sound false sound.toReady _ _).mono fun sent after =>
      sound_kept (retransmissions_same _) after)
  | receivePacket packet resourcesAvailable isRnr rnrTimeout =>
    exact transferred_sound sound packet resourcesAvailable isRnr rnrTimeout fresh
  | receiveAck ack => exact ack_sound sound ack
  | receiveNack nack => exact nack_sound sound nack
  | retransmitTimeout => exact timeout_sound sound
  | tlpTimeout =>
    exact (probe_watched sound.toWatched timed).mono fun after watched => ⟨watched, nofun⟩
  | updateRates fabricCongestionWindow nicCongestionWindow retransmitTimeout rtt =>
    exact rates_sound sound timed _ _ retransmitTimeout rtt
  | initiate operation =>
    exact (initiated_same operation fresh).mono fun after same => sound_kept same sound
  | ackTransaction rsn =>
    exact (acked_by_ulp_not_earlier rsn).mono fun after later => sound_not_earlier later sound timed
  | nackTransaction rsn isRnr rnrTimeout =>
    refine Ensures.bind (nacked_from_ulp_same config sound.contexts rsn isRnr rnrTimeout) fun noted same => ?_
    refine ensures_ite (fun _ => ?_) fun _ => ensures_ok.2 (sound_kept same sound)
    refine ensures_bind fun transaction _ => ?_
    exact (updated_state_same config _ _ _).mono fun after further =>
      sound_kept (further.after same) sound
  | deliver work =>
    have taken : SameTimers config endpoint { endpoint with
        reordered := endpoint.reordered.erase work } :=
      ⟨⟨rfl, rfl, rfl, rfl, id⟩, fun _ => rfl, fun _ => rfl⟩
    exact (delivered_not_earlier work).mono fun after later =>
      sound_not_earlier (taken.not_earlier.trans later) sound timed
  | others prng outstandingConnCounter outstandingPktCounter =>
    have same : SameTimers config endpoint { endpoint with
        prng := prng
        outstandingConnCounter := outstandingConnCounter
        outstandingPktCounter := outstandingPktCounter } :=
      ⟨⟨rfl, rfl, rfl, rfl, id⟩, fun _ => rfl, fun _ => rfl⟩
    exact ensures_ok.2 (sound_kept same sound)

/-! ## Runs -/

theorem initial_sound {monitored : Monitored} (initial : Initial config monitored) :
    Sound config monitored.probed monitored.endpoint ∧ Timed config monitored.endpoint := by
  have start := initial.endpoint
  have idle (window : WindowType) : (monitored.endpoint.tx window).outstandingPackets = [] := by
    rw [start.tx]
  have unread : monitored.endpoint.earliestBaseTime config = .ok none := by
    simp only [earliestBaseTime, candidateBaseTime, idle, Except.bind, Except.map, earlier]
  have ready : Ready monitored.endpoint :=
    ⟨fun set => absurd start.rtoExpirationBaseTime set, by simp [start.rtoEvents],
      fun key context found => by simp [start.receivedPacketContexts] at found⟩
  refine ⟨⟨⟨ready, ?_⟩, ?_⟩, ?_⟩
  · rintro ⟨window, waiting⟩
    exact absurd (idle window) waiting
  · intro _ deadline read
    cases unread.symm.trans read
  · intro deadline read
    cases unread.symm.trans read

theorem reachable_sound {monitored : Monitored}
    (reached : Runs.Reachable (Initial config) (Step config) monitored) :
    Sound config monitored.probed monitored.endpoint ∧ Timed config monitored.endpoint := by
  apply Runs.invariant_of_reachable _ _ reached
  · exact fun state initial => initial_sound initial
  · rintro before after ⟨sound, timed⟩ ⟨event, possible, fresh, performed, probed, still⟩
    exact ⟨probed ▸ event_sound sound timed event possible fresh _ performed, still⟩

theorem outstanding_of_count (count : endpoint.countOutstandingPackets ≠ 0) :
    Outstanding endpoint := by
  by_contra none
  refine count ?_
  simp only [Outstanding, not_exists, not_not] at none
  simp [countOutstandingPackets, none]

/-- No packet is pending when a transaction is started, and none comes in. -/
def Idle (endpoint : Endpoint) : Event → Bool
  | .initiate _ => endpoint.pendingWorks = []
  | .receivePacket .. => false
  | _ => true

theorem creates_fresh_of_idle {event : Event} (idle : Idle endpoint event = true) :
    endpoint.CreatesFresh config event := by
  have unreferenced (none : endpoint.pendingWorks = []) (key : TransactionKey) :
      endpoint.Unreferenced key := by
    simp [Unreferenced, none]
  cases event with
  | initiate operation =>
    have none : endpoint.pendingWorks = [] := of_decide_eq_true idle
    cases operation <;> exact unreferenced none _
  | receivePacket packet resourcesAvailable isRnr rnrTimeout => cases idle
  | _ => trivial

instance : Decidable (Timed config endpoint) :=
  match read : endpoint.earliestBaseTime config with
  | .error _ => .isTrue fun deadline found => nomatch read.symm.trans found
  | .ok none => .isTrue fun deadline found => nomatch read.symm.trans found
  | .ok (some deadline) =>
    decidable_of_iff (0 < ceilNanoseconds deadline)
      ⟨fun positive other found => by cases read.symm.trans found; exact positive,
        fun timed => timed deadline read⟩

/-- An event that a step allows, executed. -/
def attemptTimed (config : Config) (before : Monitored) (event : Event) : Option Monitored :=
  ((Runs.attempt (before.endpoint.Possible config event ∧ Idle before.endpoint event)
    (before.endpoint.perform config event)).filter fun after => Timed config after).map fun after =>
      ⟨after, probedAfter before.probed event⟩

theorem step_of_attempt_timed (before : Monitored) (event : Event) (after : Monitored)
    (done : attemptTimed config before event = some after) : Step config before after := by
  obtain ⟨endpoint, filtered, rfl⟩ := Option.map_eq_some_iff.1 done
  obtain ⟨performed, timed⟩ := Option.filter_eq_some_iff.1 filtered
  obtain ⟨⟨possible, idle⟩, result⟩ := Runs.attempt_eq_some.1 performed
  exact ⟨event, possible, creates_fresh_of_idle idle, result, rfl, of_decide_eq_true timed⟩

/-- A request is sent at the given time. -/
def requestSent (now : Int) : List Event :=
  [.tick now, .initiate .readRequest, .transmit ⟨0, .pullRequest⟩]

/-- What the timer of a connection says, for its earliest deadline. -/
def timing (endpoint : Endpoint) : Option (Option Int) × Int × Int × List Int :=
  ((endpoint.earliestBaseTime {}).toOption, endpoint.now, endpoint.rtoExpirationTime,
    endpoint.rtoEvents)

/-- The state after some events on a new connection. -/
theorem reached_timing (retransmitTimeout : Int) (events : List Event)
    {expected : Option (Option Int) × Int × Int × List Int}
    (tested : ((Runs.execute (attempt {}) events
      (starting {} retransmitTimeout 0x4000 8)).any fun endpoint =>
        decide (endpoint.countOutstandingPackets ≠ 0 ∧ endpoint.rtoExpirationJitter = 0 ∧
          timing endpoint = expected)) = true) :
    ∃ endpoint, Runs.Reachable (Endpoint.Initial {}) (Endpoint.Step {}) endpoint ∧
      Outstanding endpoint ∧ endpoint.rtoExpirationJitter = 0 ∧ timing endpoint = expected := by
  obtain ⟨endpoint, reached, holds⟩ := Runs.reached_with step_of_attempt
    (initial_starting {} retransmitTimeout 0x4000 8) tested
  obtain ⟨count, jitter, same⟩ := of_decide_eq_true holds
  refine ⟨endpoint, reached, ?_, jitter, same⟩
  exact outstanding_of_count count

/-- A request comes in with the given PSN, and the ULP takes it up and hands its answer over. -/
def requestAnswered (psn : UInt32) : List Event :=
  [.receivePacket ⟨.pullRequest, 0, psn, 0, 0⟩ true false 0, .deliver ⟨0, .pullRequest⟩,
    .ackTransaction 0, .initiate (.readResponse 0)]

end Isekai.TimerRunProofs
