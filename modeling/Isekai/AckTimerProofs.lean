import Isekai.AckCoalescingEngine
import Isekai.Outcomes
import Isekai.Runs

/-! The timers of coalesced acknowledgements. They are never cancelled: one is recognised when it
runs by the time at which the last was set, which also says that none is set. As long as a counter
is not zero, a timer that will be recognised is to come. -/

namespace Isekai.AckTimerProofs
open Outcomes Reliability AckCoalescing AckCoalescing.Receiver

variable {Flow : Type} {config : CoalescingConfig} {receiver before after : Receiver Flow}
  {flow : Flow}
variable {entry : AckCoalescingEntry}

/-- A timer that is to come and, as things stand, will be recognised when it runs. -/
def Recognised (receiver : Receiver Flow) (timer : CoalescingTimer Flow) : Prop :=
  timer ∈ receiver.timers ∧
    timer.due - (receiver.entries timer.flow).timerTriggerTime =
      (receiver.entries timer.flow).coalescingTimeoutThreshold ∧
    0 < (receiver.entries timer.flow).coalescingCounter

instance [DecidableEq Flow] (receiver : Receiver Flow) (timer : CoalescingTimer Flow) :
    Decidable (Recognised receiver timer) := by
  delta Recognised
  infer_instance

/-- The timer that an entry was last set to. -/
def lastTimer (receiver : Receiver Flow) (flow : Flow) : CoalescingTimer Flow :=
  ⟨(receiver.entries flow).timerTriggerTime +
    (receiver.entries flow).coalescingTimeoutThreshold, flow⟩

/-- Counters and timers agree. -/
structure Timed (receiver : Receiver Flow) : Prop where
  pending : ∀ flow, (receiver.entries flow).coalescingCounter ≠ 0 →
    lastTimer receiver flow ∈ receiver.timers
  future : ∀ timer ∈ receiver.timers, receiver.now ≤ timer.due
  idle : ∀ flow, (receiver.entries flow).coalescingCounter = 0 →
    (receiver.entries flow).timerTriggerTime = 0
  below : ∀ flow, (receiver.entries flow).coalescingCounter = 0 ∨
    (receiver.entries flow).coalescingCounter < (receiver.entries flow).threshold

/-! ## Parts of a step that set no timer -/

/-- An entry is settled, or its counter is lowered without reaching zero. -/
structure Lowers (before after : AckCoalescingEntry) : Prop where
  counterThreshold : after.coalescingCounterThreshold = before.coalescingCounterThreshold
  timeoutThreshold : after.coalescingTimeoutThreshold = before.coalescingTimeoutThreshold
  counter : (after.coalescingCounter = 0 ∧ after.timerTriggerTime = 0) ∨
    (after.coalescingCounter ≤ before.coalescingCounter ∧
      after.timerTriggerTime = before.timerTriggerTime ∧
      (after.coalescingCounter = 0 → before.coalescingCounter = 0))

theorem Lowers.rfl : Lowers entry entry :=
  ⟨.refl _, .refl _, .inr ⟨UInt32.le_refl _, .refl _, id⟩⟩

/-- Time and timers stay, and the counters are at most lowered. -/
structure Settles (before after : Receiver Flow) : Prop where
  now : after.now = before.now
  timers : after.timers = before.timers
  entries : ∀ flow, Lowers (before.entries flow) (after.entries flow)

theorem Settles.of_entries (now : after.now = before.now) (timers : after.timers = before.timers)
    (entries : after.entries = before.entries) : Settles before after :=
  ⟨now, timers, fun flow => by rw [entries]; exact .rfl⟩

theorem Timed.settles (timed : Timed before) (settles : Settles before after) : Timed after := by
  refine ⟨fun flow counts => ?_, ?_, fun flow zero => ?_, fun flow => ?_⟩
  · obtain ⟨-, timeout, ⟨zero, -⟩ | ⟨-, trigger, positive⟩⟩ := settles.entries flow
    · exact absurd zero counts
    · have waits : (before.entries flow).coalescingCounter ≠ 0 := by
        intro zero
        obtain ⟨-, -, ⟨is, -⟩ | ⟨less, -⟩⟩ := settles.entries flow
        · exact counts is
        · rw [zero] at less
          exact counts (UInt32.le_antisymm less (UInt32.zero_le))
      have here := timed.pending flow waits
      unfold lastTimer at here ⊢
      rwa [trigger, timeout, settles.timers]
  · rw [settles.timers, settles.now]
    exact timed.future
  · obtain ⟨-, -, ⟨-, is⟩ | ⟨-, trigger, positive⟩⟩ := settles.entries flow
    · exact is
    · rw [trigger]
      exact timed.idle flow (positive zero)
  · obtain ⟨threshold, -, ⟨zero, -⟩ | ⟨less, -, -⟩⟩ := settles.entries flow
    · exact .inl zero
    · unfold AckCoalescingEntry.threshold
      rw [threshold]
      rcases timed.below flow with zero | below
      · rw [zero] at less
        exact .inl (UInt32.le_antisymm less (UInt32.zero_le))
      · exact .inr (UInt32.lt_of_le_of_lt less below)

theorem Settles.trans {middle : Receiver Flow} (one : Settles before middle)
    (two : Settles middle after) : Settles before after := by
  refine ⟨two.now.trans one.now, two.timers.trans one.timers, fun flow => ?_⟩
  obtain ⟨counts, times, first⟩ := one.entries flow
  obtain ⟨counts', times', second⟩ := two.entries flow
  refine ⟨counts'.trans counts, times'.trans times, ?_⟩
  rcases second with settled | ⟨less, trigger, positive⟩
  · exact .inl settled
  · rcases first with ⟨zero, idle⟩ | ⟨less', trigger', positive'⟩
    · rw [zero] at less
      exact .inl ⟨UInt32.le_antisymm less UInt32.zero_le, trigger.trans idle⟩
    · exact .inr ⟨UInt32.le_trans less less', trigger.trans trigger',
        fun zero => positive' (positive zero)⟩

theorem reset_settles : Settles receiver receiver.resetOowDrops :=
  .of_entries rfl rfl rfl

theorem updated_bitmap_settles (window : WindowType) (psn : UInt32) :
    Ensures (receiver.updateReceiveAckBitmap window psn) (Settles receiver) := by
  refine ensures_map.2 fun acked _ => ?_
  split_ifs
  · exact ⟨rfl, rfl, fun _ => .rfl⟩
  · exact ⟨rfl, rfl, fun _ => .rfl⟩

theorem context_settles (packet : IncomingPacket) :
    Settles receiver (receiver.createReceivedContext packet) := by
  unfold createReceivedContext
  split_ifs
  · exact ⟨rfl, rfl, fun _ => .rfl⟩
  · exact ⟨rfl, rfl, fun _ => .rfl⟩

theorem modified_rx_timed (timed : Timed receiver) (window : WindowType)
    (change : RxWindow → RxWindow) : Timed (receiver.modifyRx window change) :=
  timed.settles ⟨rfl, rfl, fun _ => .rfl⟩

variable [DecidableEq Flow]

theorem transmitted_entries (flow : Flow) : (receiver.transmitAck config flow).entries =
    Function.update receiver.entries flow
      { receiver.entries flow with coalescingCounter := 0, timerTriggerTime := 0 } := by
  unfold transmitAck createExplicitAckOrEack
  dsimp only
  split_ifs <;> rfl

theorem transmitted_settles (flow : Flow) : Settles receiver (receiver.transmitAck config flow) := by
  refine ⟨?_, ?_, fun other => ?_⟩
  · unfold transmitAck createExplicitAckOrEack
    dsimp only
    split_ifs <;> rfl
  · unfold transmitAck createExplicitAckOrEack
    dsimp only
    split_ifs <;> rfl
  · rw [transmitted_entries]
    by_cases here : other = flow
    · subst here
      rw [Function.update_self]
      exact ⟨rfl, rfl, .inl ⟨rfl, rfl⟩⟩
    · rw [Function.update_of_ne here]
      exact .rfl

/-- The counter is lowered, and the time goes with it if nothing is left. -/
theorem counter_lowered {counter : UInt32} (less : counter ≤ entry.coalescingCounter) :
    Lowers entry (if counter = 0 then
        { entry with coalescingCounter := counter, timerTriggerTime := 0 }
      else { entry with coalescingCounter := counter }) := by
  split_ifs with zero
  · exact ⟨rfl, rfl, .inl ⟨zero, rfl⟩⟩
  · exact ⟨rfl, rfl, .inr ⟨less, rfl, fun is => absurd is zero⟩⟩

theorem subtracted_le (counter taken : UInt32) :
    (if taken ≤ counter then counter - taken else 0) ≤ counter := by
  split_ifs with enough
  · rw [UInt32.le_iff_toNat_le, UInt32.toNat_sub_of_le _ _ enough]
    exact Nat.sub_le _ _
  · exact UInt32.zero_le

theorem piggybacked_settles (flow : Flow) : Settles receiver (receiver.piggybackAck flow) := by
  unfold piggybackAck lowerCounter
  refine ⟨?_, ?_, fun other => ?_⟩
  · split_ifs <;> rfl
  · split_ifs <;> rfl
  · by_cases here : other = flow
    · subst here
      split_ifs with dropped
      · simp only [modifyEntry, Function.update_self]
        exact counter_lowered (UInt32.le_refl _)
      · simp only [modifyEntry, Function.update_self]
        exact counter_lowered (subtracted_le _ _)
    · split_ifs <;> simp only [modifyEntry, Function.update_of_ne here] <;> exact .rfl

theorem nacked_settles (flow : Flow) : Settles receiver (receiver.transmitNack flow) :=
  (piggybacked_settles flow).trans reset_settles

/-! ## A packet is counted -/

/-- The counter does not wrap. -/
theorem counted_below {increment : UInt32} (few : increment = 1 ∨ increment = 2)
    (below : entry.coalescingCounter = 0 ∨ entry.coalescingCounter < entry.threshold) :
    (entry.coalescingCounter + increment).toNat =
      entry.coalescingCounter.toNat + increment.toNat := by
  have bound := entry.coalescingCounterThreshold.toNat_lt
  have twice : entry.threshold.toNat = entry.coalescingCounterThreshold.toNat * 2 % 2 ^ 32 := by
    unfold AckCoalescingEntry.threshold
    exact UInt32.toNat_mul _ _
  have small : entry.coalescingCounter.toNat + increment.toNat < 2 ^ 32 := by
    rcases below with zero | less
    · rw [zero]
      rcases few with rfl | rfl <;> decide
    · rw [UInt32.lt_iff_toNat_lt] at less
      rcases few with rfl | rfl
      · have one : (1 : UInt32).toNat = 1 := rfl
        omega
      · have two : (2 : UInt32).toNat = 2 := rfl
        omega
  rw [UInt32.toNat_add, Nat.mod_eq_of_lt small]

theorem counted_ne_zero {increment : UInt32} (few : increment = 1 ∨ increment = 2)
    (below : entry.coalescingCounter = 0 ∨ entry.coalescingCounter < entry.threshold) :
    entry.coalescingCounter + increment ≠ 0 := by
  intro zero
  have exact_count := counted_below few below
  rw [zero] at exact_count
  have none : (0 : UInt32).toNat = 0 := rfl
  rcases few with rfl | rfl
  · have one : (1 : UInt32).toNat = 1 := rfl
    omega
  · have two : (2 : UInt32).toNat = 2 := rfl
    omega

/-- One entry changes, and its timer is to come. -/
theorem timed_entry (timed : Timed before)
    (entries : after.entries = Function.update before.entries flow entry)
    (kept : ∀ timer ∈ before.timers, timer ∈ after.timers)
    (future : ∀ timer ∈ after.timers, after.now ≤ timer.due)
    (pending : ⟨entry.timerTriggerTime + entry.coalescingTimeoutThreshold, flow⟩ ∈ after.timers)
    (counts : entry.coalescingCounter ≠ 0) (below : entry.coalescingCounter < entry.threshold) :
    Timed after := by
  have here : after.entries flow = entry := by rw [entries, Function.update_self]
  have elsewhere (other : Flow) (differs : other ≠ flow) :
      after.entries other = before.entries other := by
    rw [entries, Function.update_of_ne differs]
  refine ⟨fun other counting => ?_, future, fun other zero => ?_, fun other => ?_⟩
  · unfold lastTimer
    by_cases same : other = flow
    · rw [same, here]
      exact pending
    · rw [elsewhere other same] at counting ⊢
      exact kept _ (timed.pending other counting)
  · by_cases same : other = flow
    · rw [same, here] at zero
      exact absurd zero counts
    · rw [elsewhere other same] at zero ⊢
      exact timed.idle other zero
  · by_cases same : other = flow
    · rw [same, here]
      exact .inr below
    · rw [elsewhere other same]
      exact timed.below other

theorem generated_timed (timed : Timed receiver) (flow : Flow) (immediateAckReq : Bool)
    {increment : UInt32} (few : increment = 1 ∨ increment = 2) :
    Ensures (receiver.generateAckOrUpdateCoalescingState config flow immediateAckReq increment)
      Timed := by
  have counts := counted_ne_zero few (timed.below flow)
  unfold generateAckOrUpdateCoalescingState
  dsimp only
  have here : (receiver.modifyEntry flow fun entry =>
      { entry with coalescingCounter := entry.coalescingCounter + increment }).entries flow =
        { receiver.entries flow with
          coalescingCounter := (receiver.entries flow).coalescingCounter + increment } :=
    Function.update_self ..
  rw [here]
  refine ensures_ite (fun _ => ensures_ok.2 ?_) fun gathered => ?_
  · -- The ACK settles what was counted.
    refine timed.settles ⟨?_, ?_, fun other => ?_⟩
    · exact (transmitted_settles flow).now
    · exact (transmitted_settles flow).timers
    · rw [transmitted_entries, here]
      by_cases same : other = flow
      · subst same
        rw [Function.update_self]
        exact ⟨rfl, rfl, .inl ⟨rfl, rfl⟩⟩
      · rw [Function.update_of_ne same]
        simp only [modifyEntry, Function.update_of_ne same]
        exact .rfl
  · have less : (receiver.entries flow).coalescingCounter + increment <
        (receiver.entries flow).threshold := by
      rw [Bool.or_eq_true, not_or, decide_eq_true_iff] at gathered
      exact UInt32.not_le.1 gathered.2
    refine ensures_ite (fun _ => ?_) fun running => ensures_ok.2 ?_
    · unfold setupAckCoalescingTimer
      dsimp only
      rw [here]
      refine ensures_ite (fun _ => ensures_error) fun nonnegative => ensures_ok.2 ?_
      refine timed_entry timed (Function.update_idem ..) (fun timer => List.mem_append_left _)
        (fun timer member => ?_) ?_ ?_ ?_
      · rcases List.mem_append.1 member with old | new
        · exact timed.future timer old
        · rw [List.mem_singleton.1 new]
          have later := Int.not_lt.1 nonnegative
          dsimp only [modifyEntry] at later ⊢
          omega
      · refine List.mem_append_right _ (List.mem_singleton.2 ?_)
        rw [here]
      · rw [here]
        exact counts
      · rw [here]
        exact less
    · refine timed_entry timed rfl (fun _ => id) timed.future ?_ counts less
      refine timed.pending flow fun zero => running ?_
      exact timed.idle flow zero

/-! ## The steps -/

theorem accepted_timed (timed : Timed receiver) (flow : Flow) (packet : IncomingPacket)
    (index : Nat) : Ensures (receiver.accept config flow packet index) Timed := by
  refine ensures_bind fun received _ => ensures_map.2 ?_
  have stored := modified_rx_timed timed (windowOf packet.type)
    fun rx => { rx with receiveWindow := received }
  refine Ensures.mono (?_ : Ensures _ Timed) fun counted held => held.settles (context_settles packet)
  refine ensures_ite (fun _ => generated_timed stored flow false (.inl rfl)) fun _ => ?_
  refine Ensures.bind (updated_bitmap_settles _ _) fun updated settles => ?_
  exact generated_timed (stored.settles settles) flow packet.ackReq (.inr rfl)

theorem incoming_timed (timed : Timed receiver) (flow : Flow) (packet : IncomingPacket)
    (resourcesAvailable : Bool) :
    Ensures (receiver.handleIncomingPacket config flow packet resourcesAvailable) Timed := by
  refine ensures_ite (fun _ => generated_timed timed flow _ (.inr rfl)) fun _ => ?_
  refine ensures_ite (fun _ => ?_) fun _ => ?_
  · refine ensures_ite (fun _ => ?_) fun _ => ensures_ok.2 timed
    exact generated_timed (modified_rx_timed timed _ _) flow _ (.inr rfl)
  · refine ensures_bind fun isReceived _ => ?_
    refine ensures_ite (fun _ => generated_timed timed flow _ (.inr rfl)) fun _ => ?_
    exact ensures_ite (fun _ => accepted_timed timed flow packet _) fun _ => ensures_ok.2 timed

theorem acked_timed (timed : Timed receiver) (flow : Flow) (rsn : UInt32) :
    Ensures (receiver.handleAckFromUlp config flow rsn) Timed := by
  unfold handleAckFromUlp
  cases receiver.receivedPacketContexts rsn with
  | none => exact ensures_error
  | some context =>
    refine ensures_ite (fun _ => ensures_ok.2 timed) fun _ => ?_
    refine Ensures.bind (updated_bitmap_settles _ _) fun updated settles => ?_
    refine generated_timed (timed.settles ?_) flow _ (.inl rfl)
    exact ⟨settles.now, settles.timers, settles.entries⟩

/-- A timer that runs is the last one of its key, and settles it, or is none that counts. -/
theorem timeout_timed (timed : Timed receiver) (timer : CoalescingTimer Flow)
    (runs : timer.due = receiver.now) :
    Timed ({ receiver with timers := receiver.timers.erase timer }.handleAckCoalescingTimeout
      config timer.flow) := by
  have future : ∀ other ∈ receiver.timers.erase timer, receiver.now ≤ other.due :=
    fun other member => timed.future other (List.mem_of_mem_erase member)
  have pending (flow : Flow) (counts : (receiver.entries flow).coalescingCounter ≠ 0)
      (differs : lastTimer receiver flow ≠ timer) :
      lastTimer receiver flow ∈ receiver.timers.erase timer :=
    (List.mem_erase_of_ne differs).2 (timed.pending flow counts)
  unfold handleAckCoalescingTimeout
  dsimp only
  split_ifs with valid
  · have settles := @transmitted_settles Flow config
      { receiver with timers := receiver.timers.erase timer } _ timer.flow
    have entries := @transmitted_entries Flow config
      { receiver with timers := receiver.timers.erase timer } _ timer.flow
    refine ⟨fun flow counts => ?_, ?_, fun flow zero => ?_, fun flow => ?_⟩
    · rw [entries] at counts
      unfold lastTimer
      rw [settles.timers, entries]
      by_cases here : flow = timer.flow
      · rw [here, Function.update_self] at counts
        exact absurd rfl counts
      · rw [Function.update_of_ne here] at counts ⊢
        refine pending flow counts fun same => here ?_
        exact congrArg CoalescingTimer.flow same
    · rw [settles.timers, settles.now]
      exact future
    · rw [entries] at zero ⊢
      by_cases here : flow = timer.flow
      · rw [here, Function.update_self]
      · rw [Function.update_of_ne here] at zero ⊢
        exact timed.idle flow zero
    · rw [entries]
      by_cases here : flow = timer.flow
      · rw [here, Function.update_self]
        exact .inl rfl
      · rw [Function.update_of_ne here]
        exact timed.below flow
  · refine ⟨fun flow counts => pending flow counts fun same => valid ?_, future, timed.idle,
      timed.below⟩
    obtain rfl : flow = timer.flow := congrArg CoalescingTimer.flow same
    have due : (receiver.entries timer.flow).timerTriggerTime +
        (receiver.entries timer.flow).coalescingTimeoutThreshold = timer.due :=
      congrArg CoalescingTimer.due same
    exact ⟨by omega, UInt32.pos_iff_ne_zero.2 counts⟩

theorem event_timed (timed : Timed receiver) (event : Event Flow)
    (possible : receiver.Possible event) : Ensures (receiver.perform config event) Timed := by
  cases event with
  | tick now => exact ensures_ok.2 ⟨timed.pending, possible.2, timed.idle, timed.below⟩
  | receive flow packet resourcesAvailable => exact incoming_timed timed flow packet _
  | ulpAck flow rsn => exact acked_timed timed flow rsn
  | transmitAck flow => exact ensures_ok.2 (timed.settles (transmitted_settles flow))
  | transmitNack flow => exact ensures_ok.2 (timed.settles (nacked_settles flow))
  | piggyback flow => exact ensures_ok.2 (timed.settles (piggybacked_settles flow))
  | timeout timer => exact ensures_ok.2 (timeout_timed timed timer possible.2)

theorem reachable_timed (reached : Runs.Reachable Initial (Step config) receiver) :
    Timed receiver := by
  apply Runs.invariant_of_reachable _ _ reached
  · intro state initial
    refine ⟨fun flow counts => absurd (initial.counters flow) counts, ?_,
      fun flow _ => initial.triggers flow, fun flow => .inl (initial.counters flow)⟩
    rw [initial.timers]
    nofun
  · rintro before after timed ⟨event, possible, performed⟩
    exact event_timed timed event possible after performed

/-! ## Executed runs -/

/-- A connection of the first generation, that has one key. -/
def newReceiver : Receiver Unit where
  rx window := { receiveWindow := .empty (rxWindowSize window)
                 ackWindow := .empty (rxWindowSize window) }
  entries _ := {}

theorem new_receiver_initial : Initial newReceiver :=
  ⟨rfl, rfl, rfl, fun _ => rfl, fun _ => rfl, rfl, rfl⟩

/-- An event, executed. -/
def attemptEvent (config : CoalescingConfig) (receiver : Receiver Unit) (event : Event Unit) :
    Option (Receiver Unit) :=
  Runs.attempt (receiver.Possible event) (receiver.perform config event)

theorem step_of_attempt_event (before : Receiver Unit) (event : Event Unit) (after : Receiver Unit)
    (done : attemptEvent config before event = some after) : Step config before after := by
  obtain ⟨possible, performed⟩ := Runs.attempt_eq_some.1 done
  exact ⟨event, possible, performed⟩

/-! ## Pending timers -/

/-- A key whose counter is not zero has a timer to come at the time at which it was last set plus
the timeout, not in the past, which will be recognised. All timers of the key that would be
recognised are due at that time, and once one of them has run, none of the others is. -/
theorem coalescing_timer_pending (reached : Runs.Reachable Initial (Step config) receiver)
    (flow : Flow) :
    ((receiver.entries flow).coalescingCounter ≠ 0 →
      Recognised receiver (lastTimer receiver flow) ∧
        receiver.now ≤ (lastTimer receiver flow).due) ∧
    ∀ timer, timer.flow = flow → Recognised receiver timer →
      timer = lastTimer receiver flow ∧
      ∀ after, receiver.Possible (.timeout timer) →
        receiver.perform config (.timeout timer) = .ok after →
        ∀ other, other.flow = flow → ¬ Recognised after other := by
  have timed := reachable_timed reached
  refine ⟨fun counts => ?_, ?_⟩
  · have pending := timed.pending flow counts
    refine ⟨⟨pending, ?_, UInt32.pos_iff_ne_zero.2 counts⟩, timed.future _ pending⟩
    dsimp only [lastTimer]
    omega
  · rintro timer rfl ⟨member, elapsed, counts⟩
    refine ⟨?_, ?_⟩
    · unfold lastTimer
      have due : timer.due = (receiver.entries timer.flow).timerTriggerTime +
          (receiver.entries timer.flow).coalescingTimeoutThreshold := by omega
      rw [← due]
    · rintro after ⟨-, now⟩ performed other same ⟨-, -, counting⟩
      cases performed
      unfold handleAckCoalescingTimeout at counting
      dsimp only at counting
      rw [if_pos ⟨by rw [← now]; exact elapsed, counts⟩, transmitted_entries, same,
        Function.update_self] at counting
      exact absurd counting (UInt32.lt_irrefl 0)

/-- A read request is received at a time that is not zero. -/
theorem coalescing_timer_pending_request : ∃ receiver : Receiver Unit,
    (receiver.entries ()).coalescingCounter ≠ 0 ∧ Recognised receiver (lastTimer receiver ()) := by
  obtain ⟨receiver, reached, tested⟩ := @Runs.reached_with _ Initial _ _ (attemptEvent {})
    step_of_attempt_event
    [.tick 5, .receive () ⟨.pullRequest, 0, 0, false⟩ true] newReceiver new_receiver_initial
    (fun receiver => decide ((receiver.entries ()).coalescingCounter ≠ 0)) (by decide +kernel)
  have counts := of_decide_eq_true tested
  exact ⟨receiver, counts, ((coalescing_timer_pending reached ()).1 counts).1⟩

/-- Requests that arrive together. The second asks for an ACK at once, so that the third sets the
timer again at the time at which the first did. -/
def requestsTogether : List (Event Unit) :=
  [.tick 5, .receive () ⟨.pullRequest, 0, 0, false⟩ true,
    .receive () ⟨.pullRequest, 1, 1, true⟩ true, .receive () ⟨.pullRequest, 2, 2, false⟩ true]

/-- Two timers of a key are to come that would both be recognised. -/
theorem recognised_timers_twice : ∃ receiver : Receiver Unit,
    Runs.Reachable Initial (Step {}) receiver ∧
      1 < (receiver.timers.filter fun timer =>
        decide (timer.flow = () ∧ Recognised receiver timer)).length := by
  obtain ⟨receiver, reached, tested⟩ := @Runs.reached_with _ Initial _ _ (attemptEvent {})
    step_of_attempt_event requestsTogether newReceiver new_receiver_initial
    (fun receiver => decide (1 < (receiver.timers.filter fun timer =>
      decide (timer.flow = () ∧ Recognised receiver timer)).length)) (by decide +kernel)
  exact ⟨receiver, reached, of_decide_eq_true tested⟩

end Isekai.AckTimerProofs
