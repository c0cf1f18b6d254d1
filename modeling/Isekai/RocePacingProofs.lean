import Isekai.RoceWorkScheduler
import Mathlib.Data.List.Chain

/-! The pace of a queue pair. The rate allows its next packet from the time on that was computed when
the last one was sent, but a work queue in the ordered set keeps the time with which it was inserted.
The packets of all queue pairs keep their pace exactly when no work queue that the other one of its
queue pair has overtaken is served too early. -/

namespace Isekai.RocePacingProofs
open Outcomes Roce RoceWorkScheduler RoceWorkScheduler.Host

variable {qps : Nat} {config : HostConfig} {host : Host qps}

/-! ## What a step sends -/

/-- The packets of a queue pair. -/
def packetsOf (qpId : Fin qps) (host : Host qps) : List (Transmission qps) :=
  host.transmitted.filter fun packet => packet.workQueue.qpId = qpId

/-- Each packet of a queue pair is sent when its rate allows it after the one before. -/
def Paced (qpId : Fin qps) (host : Host qps) : Prop :=
  (packetsOf qpId host).IsChain fun one next => one.nextSendTime ≤ next.time

/-- Whether an event runs the scheduler while it is not paused. -/
def runs (host : Host qps) : Event qps → Bool
  | .runWorkScheduler => !host.pfcXoff
  | .setPfcXoff xoff => !xoff
  | .queuePair _ _ | .setRate _ _ | .tick _ => false

/-- The work queue that is served. -/
def served (host : Host qps) (event : Event qps) : Option (ScheduledWork qps) :=
  if runs host event then
    host.scheduledWork.head?.filter fun first => first.nextSendTime ≤ host.now
  else none

/-- A work queue that was inserted before the last packet of its queue pair was sent, so that it
stands with a time from which its queue pair may not send yet. -/
def Overtaken (host : Host qps) (entry : ScheduledWork qps) : Prop :=
  entry.nextSendTime < host.nextSendTime entry.workQueue.qpId

/-- A work queue that was overtaken is served only after its queue pair may send again. -/
def InTime (host : Host qps) (event : Event qps) : Prop :=
  ∀ entry ∈ served host event, Overtaken host entry →
    host.nextSendTime entry.workQueue.qpId ≤ host.now

/-- The part of a host that sending changes. -/
def sending (host : Host qps) : (Fin qps → Int) × List (Transmission qps) × Int :=
  (host.nextSendTime, host.transmitted, host.now)

/-- What a step sends: nothing, or a packet of the work queue that is served. -/
inductive Sends (host : Host qps) (work : Option (ScheduledWork qps)) (after : Host qps) : Prop where
  | nothing (now : Int) (idle : work = none) (later : host.now ≤ now)
    (same : sending after = (host.nextSendTime, host.transmitted, now))
  | packet (entry : ScheduledWork qps) (nextSendTime : Int) (serves : work = some entry)
    (sent : sending after =
      (Function.update host.nextSendTime entry.workQueue.qpId nextSendTime,
        host.transmitted ++ [⟨entry.workQueue, host.now, nextSendTime⟩], host.now))

theorem sending_add (host : Host qps) (workQueue : WorkQueue qps) :
    sending (host.addWorkQueueToActiveSet config workQueue) = sending host := by
  unfold addWorkQueueToActiveSet
  dsimp only
  split_ifs <;> rfl

theorem sending_add_all (workTypes : List WorkType) (qpId : Fin qps) (host : Host qps) :
    sending (workTypes.foldl
      (fun host workType => host.addWorkQueueToActiveSet config ⟨qpId, workType⟩) host) =
        sending host := by
  induction workTypes generalizing host with
  | nil => rfl
  | cons workType rest ih => exact (ih _).trans (sending_add host _)

theorem sending_next_run (host : Host qps) :
    sending (host.scheduleNextRun config) = sending host := by
  unfold scheduleNextRun
  split <;> rfl

/-- What the scheduler sends when it runs. -/
theorem run_sends (host : Host qps) :
    Ensures (host.runWorkScheduler config) (Sends host
      (if !host.pfcXoff then
        host.scheduledWork.head?.filter fun first => first.nextSendTime ≤ host.now
      else none)) := by
  unfold Host.runWorkScheduler
  by_cases paused : host.pfcXoff = true
  · rw [if_pos paused]
    exact ensures_ok.2 (.nothing _ (by simp [paused]) (Int.le_refl _) rfl)
  · rw [if_neg paused]
    rcases work : host.scheduledWork with _ | ⟨first, rest⟩
    · exact ensures_ok.2 (.nothing _ (by simp) (Int.le_refl _) rfl)
    · refine ensures_ite (fun early => ensures_ok.2 (.nothing _ ?_ (Int.le_refl _) rfl)) fun due => ?_
      · simp [early]
      · refine ensures_map.2 (ensures_bind fun packet _ => ensures_map.2 fun next _ => ?_)
        refine .packet first _ ?_ ((sending_next_run _).trans rfl)
        simpa [paused] using due

/-- One event. -/
theorem perform_sends {event : Event qps} (possible : host.Possible event) :
    Ensures (host.perform config event) (Sends host (served host event)) := by
  cases event with
  | queuePair qpId event =>
    refine ensures_map.2 fun next _ => .nothing host.now rfl (Int.le_refl _) ?_
    exact sending_add_all _ qpId _
  | setRate qpId rate => exact ensures_ok.2 (.nothing _ rfl (Int.le_refl _) rfl)
  | setPfcXoff xoff =>
    refine ensures_ite (fun resumed => ?_) fun idle => ensures_ok.2 (.nothing _ ?_ (Int.le_refl _) rfl)
    · obtain ⟨unpaused, _⟩ := resumed
      have sends := @run_sends _ config { host with pfcXoff := xoff }
      refine sends.mono fun after sends => ?_
      cases sends with
      | nothing now idle later same => exact .nothing now idle later same
      | packet entry nextSendTime serves sent => exact .packet entry nextSendTime serves sent
    · simp only [served, runs]
      rcases work : host.scheduledWork with _ | ⟨first, rest⟩
      · simp
      · simp_all
  | runWorkScheduler =>
    have sends := @run_sends _ config
      { host with schedulerEvents := host.schedulerEvents.erase host.now }
    refine sends.mono fun after sends => ?_
    cases sends with
    | nothing now idle later same => exact .nothing now idle later same
    | packet entry nextSendTime serves sent => exact .packet entry nextSendTime serves sent
  | tick duration =>
    exact ensures_ok.2 (.nothing _ rfl (Int.le_add_of_nonneg_right (Int.le_of_lt possible.1)) rfl)

/-! ## Runs -/

/-- The time from which a queue pair may send again is that of its last packet. -/
structure Timed (host : Host qps) : Prop where
  started : 0 ≤ host.now
  last : ∀ qpId, host.nextSendTime qpId =
    ((packetsOf qpId host).getLast?.map Transmission.nextSendTime).getD 0

theorem packets_same {after : Host qps} (same : after.transmitted = host.transmitted)
    (qpId : Fin qps) : packetsOf qpId after = packetsOf qpId host := by
  unfold packetsOf
  rw [same]

theorem packets_sent {after : Host qps} {packet : Transmission qps}
    (sent : after.transmitted = host.transmitted ++ [packet]) (qpId : Fin qps) :
    packetsOf qpId after =
      packetsOf qpId host ++ (if packet.workQueue.qpId = qpId then [packet] else []) := by
  unfold packetsOf
  rw [sent, List.filter_append]
  by_cases own : packet.workQueue.qpId = qpId <;> simp [own]

theorem timed_step {event : Event qps} (timed : Timed host) (possible : host.Possible event) :
    Ensures (host.perform config event) Timed := by
  refine (perform_sends possible).mono fun after sends => ?_
  cases sends with
  | nothing now _ later same =>
    obtain ⟨next, transmitted, time⟩ := Prod.mk.inj same |>.imp id Prod.mk.inj
    refine ⟨?_, fun qpId => ?_⟩
    · rw [time]
      exact Int.le_trans timed.started later
    · rw [packets_same transmitted, next]
      exact timed.last qpId
  | packet entry nextSendTime _ sent =>
    obtain ⟨next, transmitted, time⟩ := Prod.mk.inj sent |>.imp id Prod.mk.inj
    refine ⟨time ▸ timed.started, fun qpId => ?_⟩
    rw [packets_sent transmitted qpId, next]
    by_cases own : entry.workQueue.qpId = qpId
    · subst own
      simp
    · rw [Function.update_of_ne (Ne.symm own), if_neg own, List.append_nil]
      exact timed.last qpId

/-- The next packet of a queue pair keeps the pace if its queue pair may send. -/
theorem paced_sent (timed : Timed host) (qpId : Fin qps) (packet : Transmission qps)
    (time : packet.time = host.now) :
    (packetsOf qpId host ++ [packet]).IsChain (fun one next => one.nextSendTime ≤ next.time) ↔
      Paced qpId host ∧ host.nextSendTime qpId ≤ host.now := by
  rw [List.isChain_append]
  refine and_congr_right fun _ => ?_
  rw [timed.last qpId]
  rcases (packetsOf qpId host).getLast? with _ | last
  · simp [timed.started]
  · simp [time]

/-- A work queue is served when its own time has come. -/
theorem in_time_iff {event : Event qps} {entry : ScheduledWork qps}
    (serves : served host event = some entry) :
    InTime host event ↔ host.nextSendTime entry.workQueue.qpId ≤ host.now := by
  have due : entry.nextSendTime ≤ host.now := by
    unfold served at serves
    split_ifs at serves
    exact of_decide_eq_true (Option.filter_eq_some_iff.1 serves).2
  unfold InTime Overtaken
  rw [serves]
  constructor
  · intro inTime
    by_cases overtaken : entry.nextSendTime < host.nextSendTime entry.workQueue.qpId
    · exact inTime entry rfl overtaken
    · exact Int.le_trans (Int.not_lt.1 overtaken) due
  · rintro allowed _ ⟨⟩ _
    exact allowed

/-- A step keeps the pace exactly when it serves no overtaken work queue too early. -/
theorem paced_step {event : Event qps} (timed : Timed host) (possible : host.Possible event) :
    Ensures (host.perform config event) fun after =>
      (∀ qpId, Paced qpId after) ↔ (∀ qpId, Paced qpId host) ∧ InTime host event := by
  refine (perform_sends possible).mono fun after sends => ?_
  cases sends with
  | nothing now idle _ same =>
    have transmitted := (Prod.mk.inj (Prod.mk.inj same).2).1
    have inTime : InTime host event := by
      intro entry serves
      rw [idle] at serves
      cases serves
    unfold Paced
    simp only [packets_same transmitted, inTime, and_true]
  | packet entry nextSendTime serves sent =>
    have transmitted := (Prod.mk.inj (Prod.mk.inj sent).2).1
    have paced (qpId : Fin qps) : Paced qpId after ↔ Paced qpId host ∧
        (entry.workQueue.qpId = qpId → host.nextSendTime qpId ≤ host.now) := by
      unfold Paced
      rw [packets_sent transmitted]
      by_cases own : entry.workQueue.qpId = qpId
      · rw [if_pos own, paced_sent timed qpId ⟨entry.workQueue, host.now, nextSendTime⟩ rfl]
        simp only [own, true_implies, Paced]
      · rw [if_neg own, List.append_nil]
        simp only [own, false_implies, and_true]
    rw [in_time_iff serves]
    constructor
    · intro all
      exact ⟨fun qpId => ((paced qpId).1 (all qpId)).1, ((paced _).1 (all _)).2 rfl⟩
    · rintro ⟨all, due⟩ qpId
      exact (paced qpId).2 ⟨all qpId, fun own => own ▸ due⟩

/-- Every event of a run meets the condition. -/
def AllInTime (config : HostConfig) : List (Event qps) → Host qps → Prop
  | [], _ => True
  | event :: rest, host => InTime host event ∧
    ∀ next, host.perform config event = .ok next → AllInTime config rest next

/-- What a run adds to the packets keeps the pace exactly when all its events are in time. -/
theorem paced_run (timed : Timed host) {events : List (Event qps)} {last : Host qps}
    (done : host.run config events = some last) :
    (∀ qpId, Paced qpId last) ↔ (∀ qpId, Paced qpId host) ∧ AllInTime config events host := by
  induction events generalizing host with
  | nil =>
    cases done
    exact (and_iff_left trivial).symm
  | cons event rest ih =>
    obtain ⟨middle, attempted, after⟩ := Option.bind_eq_some_iff.1 done
    obtain ⟨possible, performed⟩ := Runs.attempt_eq_some.1 attempted
    have step : (∀ qpId, Paced qpId middle) ↔ (∀ qpId, Paced qpId host) ∧ InTime host event :=
      paced_step timed possible middle performed
    rw [ih (timed_step timed possible middle performed) after, step, and_assoc]
    refine and_congr_right fun _ => and_congr_right fun _ => ⟨fun all next again => ?_,
      fun all => all middle performed⟩
    cases performed.symm.trans again
    exact all

/-- A new host has sent nothing. -/
theorem initial_timed (initial : host.Initial) : Timed host ∧ ∀ qpId, Paced qpId host := by
  obtain ⟨_, fresh⟩ := initial
  rw [fresh]
  exact ⟨⟨Int.le_refl 0, fun _ => rfl⟩, fun _ => .nil⟩

/-- In every run, the packets of all queue pairs are as far apart as their rates ask for exactly when
each work queue that is served was not overtaken or waited until its queue pair may send again. -/
theorem packets_paced_iff (initial : host.Initial) {events : List (Event qps)} {last : Host qps}
    (done : host.run config events = some last) :
    (∀ qpId, Paced qpId last) ↔ AllInTime config events host := by
  obtain ⟨timed, paced⟩ := initial_timed initial
  rw [paced_run timed done]
  exact and_iff_right paced

/-! ## A queue pair with both kinds of work -/

instance (qpId : Fin qps) (host : Host qps) : Decidable (Paced qpId host) :=
  inferInstanceAs (Decidable (List.IsChain _ _))

/-- Segments of a thousand bytes, and a cycle of ten nanoseconds. -/
def thousandBytes : HostConfig where
  rdmaMtu := 1000
  positive := by decide
  outerHeaderSize := 66
  chipCycleTimeNs := 10

/-- A host with one queue pair at its line rate. -/
def newHost : Host 1 where
  contexts _ :=
    { retxTimeout := 1000000
      ackCoalescingTimeout := 0
      ackCoalescingThreshold := 1 }
  rate _ := 100000

theorem initial_new_host : newHost.Initial :=
  ⟨fun _ => ⟨⟨1000000, 0, 1, by decide, by decide, rfl⟩,
    (by decide : (0 : UInt64) < 100000)⟩, rfl⟩

/-- A write is posted and a read request arrives. -/
def bothActive : List (Event 1) :=
  [.queuePair 0 (.post { opcode := .write, length := 1000, completionCallback := 0 }),
    .queuePair 0 (.receive { opcode := .readRequest, psn := 0, requestLength := 1000 })]

/-- After a pause the second packet is sent when its queue pair may send again. -/
theorem packets_paced_iff_pause : ∃ host, newHost.run thousandBytes (bothActive ++
      [.tick 40, .runWorkScheduler, .setPfcXoff true, .tick 40, .runWorkScheduler, .tick 400,
        .setPfcXoff false]) = some host ∧ host.transmitted.length = 2 ∧
    AllInTime thousandBytes (bothActive ++
      [.tick 40, .runWorkScheduler, .setPfcXoff true, .tick 40, .runWorkScheduler, .tick 400,
        .setPfcXoff false]) newHost := by
  have tested : (newHost.run thousandBytes (bothActive ++
      [.tick 40, .runWorkScheduler, .setPfcXoff true, .tick 40, .runWorkScheduler, .tick 400,
        .setPfcXoff false])).any (fun host =>
          decide ((∀ qpId, Paced qpId host) ∧ host.transmitted.length = 2)) = true := by
    decide +kernel
  obtain ⟨host, done, holds⟩ := (Option.any_eq_true _ _).1 tested
  obtain ⟨paced, sent⟩ := of_decide_eq_true holds
  exact ⟨host, done, sent, (packets_paced_iff initial_new_host done).1 paced⟩

/-- The response goes out one cycle after the request, long before the rate allows it. -/
theorem response_too_early : ∃ host, newHost.run thousandBytes (bothActive ++
      [.tick 40, .runWorkScheduler, .tick 40, .runWorkScheduler]) = some host ∧
    host.transmitted = [⟨⟨0, .request⟩, 40, 388⟩, ⟨⟨0, .response⟩, 80, 424⟩] ∧
      ¬Paced 0 host := by
  have tested : (newHost.run thousandBytes (bothActive ++
      [.tick 40, .runWorkScheduler, .tick 40, .runWorkScheduler])).any (fun host =>
        decide (host.transmitted = [⟨⟨0, .request⟩, 40, 388⟩, ⟨⟨0, .response⟩, 80, 424⟩] ∧
          ¬Paced 0 host)) = true := by
    decide +kernel
  obtain ⟨host, done, holds⟩ := (Option.any_eq_true _ _).1 tested
  obtain ⟨sent, early⟩ := of_decide_eq_true holds
  exact ⟨host, done, sent, early⟩

end Isekai.RocePacingProofs
