import Isekai.InterHostRxScheduler
import Isekai.Outcomes

/-! Every run of the inter-host scheduler serves the hosts that have work and are not xoffed, and no
others: the lists of the policy say which hosts these are, one event is scheduled while there are any,
and the callbacks of a host are executed in the order in which they were enqueued. -/

namespace Isekai.InterHostRxProofs
open InterHostRx Outcomes

/-! ## The policy -/

/-- A host with this state is served. -/
def served (state : HostPolicyState) : Bool := state.isActive && !state.isXoff

/-- The active hosts are those that are served, the inactive ones the others, each listed once. -/
structure Listed (policy : Policy) : Prop where
  active : ∀ id, id ∈ policy.activeHosts ↔
    ∃ state, policy.hostState id = some state ∧ served state = true
  inactive : ∀ id, id ∈ policy.inactiveHosts ↔
    ∃ state, policy.hostState id = some state ∧ served state = false
  activeNodup : policy.activeHosts.Nodup
  inactiveNodup : policy.inactiveHosts.Nodup

section Policies
variable {policy next : Policy} {id : UInt8} {old new : HostPolicyState}

/-- The hosts of one kind after the state of one of them changed. -/
theorem hosts_of_update (served_ : Bool) (other : UInt8) :
    (∃ state, Function.update policy.hostState id (some new) other = some state ∧
        served state = served_) ↔
      if other = id then served new = served_
      else ∃ state, policy.hostState other = some state ∧ served state = served_ := by
  by_cases same : other = id
  · subst same
    simp
  · simp [same]

theorem kind_of_host (known : policy.hostState id = some old) (served_ : Bool) :
    (∃ state, policy.hostState id = some state ∧ served state = served_) ↔
      served old = served_ := by
  simp [known]

theorem nodup_append_new {hosts : List UInt8} (nodup : hosts.Nodup) (new : id ∉ hosts) :
    (hosts ++ [id]).Nodup := by
  refine List.nodup_append.2 ⟨nodup, List.nodup_singleton id, fun one first other second => ?_⟩
  rw [List.mem_singleton.1 second]
  rintro rfl
  exact new first

/-- The state of a host changes, but not whether it is served. -/
theorem set_listed (listed : Listed policy) (known : policy.hostState id = some old)
    (same : served new = served old) : Listed (policy.setHost id new) := by
  have kept : ∀ (served_ : Bool) (other : UInt8),
      (∃ state, policy.hostState other = some state ∧ served state = served_) ↔
        ∃ state, Function.update policy.hostState id (some new) other = some state ∧
          served state = served_ := by
    intro served_ other
    rw [hosts_of_update]
    split_ifs with equal
    · subst equal
      rw [kind_of_host known, same]
    · rfl
  exact ⟨fun other => (listed.active other).trans (kept true other),
    fun other => (listed.inactive other).trans (kept false other), listed.activeNodup,
    listed.inactiveNodup⟩

theorem to_active_listed (listed : Listed policy) (known : policy.hostState id = some old)
    (before : served old = false) (after : served new = true) :
    Listed ((policy.setHost id new).toActive id) := by
  have absent : id ∉ policy.activeHosts := by
    rw [listed.active, kind_of_host known, before]
    exact Bool.false_ne_true
  refine ⟨fun other => ?_, fun other => ?_, nodup_append_new listed.activeNodup absent,
    listed.inactiveNodup.erase id⟩
  · refine Iff.trans ?_ (hosts_of_update true other).symm
    change other ∈ policy.activeHosts ++ [id] ↔ _
    rw [List.mem_append, List.mem_singleton, listed.active]
    split_ifs with equal
    · simp [equal, after]
    · simp [equal]
  · refine Iff.trans ?_ (hosts_of_update false other).symm
    change other ∈ policy.inactiveHosts.erase id ↔ _
    rw [listed.inactiveNodup.mem_erase_iff, listed.inactive]
    split_ifs with equal
    · simp [equal, after]
    · simp [equal]

theorem to_inactive_listed (listed : Listed policy) (known : policy.hostState id = some old)
    (before : served old = true) (after : served new = false) :
    Listed ((policy.setHost id new).toInactive id) := by
  have absent : id ∉ policy.inactiveHosts := by
    rw [listed.inactive, kind_of_host known, before]
    exact Bool.true_eq_false_eq_False
  refine ⟨fun other => ?_, fun other => ?_, listed.activeNodup.erase id,
    nodup_append_new listed.inactiveNodup absent⟩
  · refine Iff.trans ?_ (hosts_of_update true other).symm
    change other ∈ policy.activeHosts.erase id ↔ _
    rw [listed.activeNodup.mem_erase_iff, listed.active]
    split_ifs with equal
    · simp [equal, after]
    · simp [equal]
  · refine Iff.trans ?_ (hosts_of_update false other).symm
    change other ∈ policy.inactiveHosts ++ [id] ↔ _
    rw [List.mem_append, List.mem_singleton, listed.inactive]
    split_ifs with equal
    · simp [equal, after]
    · simp [equal]

/-- What an operation on a host does to the policy: the state of the host changes. -/
structure Marked (change : HostPolicyState → HostPolicyState) (id : UInt8)
    (before after : Policy) : Prop where
  listed : Listed after
  marked : ∃ state, before.hostState id = some state ∧
    after.hostState = Function.update before.hostState id (some (change state))

theorem unchanged_marked {change : HostPolicyState → HostPolicyState} (listed : Listed policy)
    (known : policy.hostState id = some old) (same : change old = old) :
    Marked change id policy policy := by
  refine ⟨listed, old, known, ?_⟩
  rw [same, ← known, Function.update_eq_self]

theorem mark_active_spec (listed : Listed policy) :
    Ensures (policy.markHostActive id) (Marked ({ · with isActive := true }) id policy) := by
  unfold Policy.markHostActive
  cases known : policy.hostState id with
  | none => exact ensures_error
  | some state =>
    obtain ⟨isActive, isXoff⟩ := state
    cases isActive with
    | true => exact ensures_ok.2 (unchanged_marked listed known rfl)
    | false =>
      cases isXoff with
      | true => exact ensures_ok.2 ⟨set_listed listed known rfl, _, known, rfl⟩
      | false => exact ensures_ok.2 ⟨to_active_listed listed known rfl rfl, _, known, rfl⟩

theorem mark_inactive_spec (listed : Listed policy) :
    Ensures (policy.markHostInactive id) (Marked ({ · with isActive := false }) id policy) := by
  unfold Policy.markHostInactive
  cases known : policy.hostState id with
  | none => exact ensures_error
  | some state =>
    obtain ⟨isActive, isXoff⟩ := state
    cases isActive with
    | false => exact ensures_ok.2 (unchanged_marked listed known rfl)
    | true =>
      cases isXoff with
      | true => exact ensures_ok.2 ⟨set_listed listed known rfl, _, known, rfl⟩
      | false => exact ensures_ok.2 ⟨to_inactive_listed listed known rfl rfl, _, known, rfl⟩

theorem xoff_spec (listed : Listed policy) :
    Ensures (policy.xoffHost id) (Marked ({ · with isXoff := true }) id policy) := by
  unfold Policy.xoffHost
  cases known : policy.hostState id with
  | none => exact ensures_error
  | some state =>
    obtain ⟨isActive, isXoff⟩ := state
    cases isXoff with
    | true => exact ensures_ok.2 (unchanged_marked listed known rfl)
    | false =>
      cases isActive with
      | true => exact ensures_ok.2 ⟨to_inactive_listed listed known rfl rfl, _, known, rfl⟩
      | false => exact ensures_ok.2 ⟨set_listed listed known rfl, _, known, rfl⟩

theorem xon_spec (listed : Listed policy) :
    Ensures (policy.xonHost id) (Marked ({ · with isXoff := false }) id policy) := by
  unfold Policy.xonHost
  cases known : policy.hostState id with
  | none => exact ensures_error
  | some state =>
    obtain ⟨isActive, isXoff⟩ := state
    cases isXoff with
    | false => exact ensures_ok.2 (unchanged_marked listed known rfl)
    | true =>
      cases isActive with
      | true => exact ensures_ok.2 ⟨to_active_listed listed known rfl rfl, _, known, rfl⟩
      | false => exact ensures_ok.2 ⟨set_listed listed known rfl, _, known, rfl⟩

theorem init_spec (listed : Listed policy) : Ensures (policy.initHost id) Listed := by
  refine ensures_ite (fun _ => ensures_error) fun fresh => ensures_ok.2 ?_
  have unknown : policy.hostState id = none := by simpa using fresh
  have absent : id ∉ policy.inactiveHosts := by simp [listed.inactive, unknown]
  refine ⟨fun other => ?_, fun other => ?_, listed.activeNodup,
    nodup_append_new listed.inactiveNodup absent⟩
  · refine Iff.trans (listed.active other) (Iff.trans ?_ (hosts_of_update true other).symm)
    split_ifs with equal
    · simp [equal, unknown, served]
    · rfl
  · refine Iff.trans ?_ (hosts_of_update false other).symm
    change other ∈ policy.inactiveHosts ++ [id] ↔ _
    rw [List.mem_append, List.mem_singleton, listed.inactive]
    split_ifs with equal
    · simp [equal, served]
    · simp [equal]

/-- The host at the front is served, and it stays listed. -/
theorem select_spec (listed : Listed policy) (selected : policy.selectHost = some (id, next)) :
    Listed next ∧ next.hostState = policy.hostState ∧ id ∈ policy.activeHosts := by
  unfold Policy.selectHost at selected
  split at selected
  · cases selected
  · rename_i front rest hosts
    cases selected
    have order : (rest ++ [id]).Perm policy.activeHosts := by
      rw [hosts]
      exact List.perm_append_singleton id rest
    refine ⟨⟨fun other => ?_, listed.inactive, order.nodup_iff.2 listed.activeNodup,
      listed.inactiveNodup⟩, rfl, by simp [hosts]⟩
    exact order.mem_iff.trans (listed.active other)

end Policies

/-! ## The scheduler -/

/-- The callbacks of a host, in their order. -/
def ofHost (id : UInt8) (works : List (UInt8 × Work)) : List Work :=
  (works.filter fun entry => entry.1 = id).map Prod.snd

/-- The policy knows which hosts have work, one event is scheduled while the scheduler runs, and it
runs while a host is to be served. -/
structure Sound (state : State) : Prop where
  listed : Listed state.policy
  working : ∀ id, state.hostsQueue id ≠ [] ↔
    ∃ host, state.policy.hostState id = some host ∧ host.isActive = true
  running : state.pending.length = if state.isRunning then 1 else 0
  awake : state.policy.hasWork = true → state.isRunning = true
  order : ∀ id, ofHost id state.executed ++ state.hostsQueue id = ofHost id state.enqueued

section Scheduling
variable {config : Config} {state next : State} {id : UInt8}

theorem of_host_append (one other : List (UInt8 × Work)) :
    ofHost id (one ++ other) = ofHost id one ++ ofHost id other := by
  simp [ofHost]

theorem of_host_singleton (host : UInt8) (work : Work) :
    ofHost id [(host, work)] = if host = id then [work] else [] := by
  by_cases same : host = id <;> simp [ofHost, same]

theorem has_work_of_served (listed : Listed state.policy) {host : HostPolicyState}
    (known : state.policy.hostState id = some host) (serves : served host = true) :
    state.policy.hasWork = true := by
  have member : id ∈ state.policy.activeHosts := (listed.active id).2 ⟨host, known, serves⟩
  cases hosts : state.policy.activeHosts with
  | nil => simp [hosts] at member
  | cons front rest => simp [Policy.hasWork, hosts]

/-- Which hosts are active after the change of one of them. -/
theorem active_of_marked {change : HostPolicyState → HostPolicyState} {before policy : Policy}
    (marked : Marked change id before policy)
    (working : ∀ other, state.hostsQueue other ≠ [] ↔
      ∃ host, before.hostState other = some host ∧ host.isActive = true)
    (queue : UInt8 → List Work) (others : ∀ other, other ≠ id → queue other = state.hostsQueue other)
    (own : ∀ host, before.hostState id = some host →
      (queue id ≠ [] ↔ (change host).isActive = true)) (other : UInt8) :
    queue other ≠ [] ↔ ∃ host, policy.hostState other = some host ∧ host.isActive = true := by
  obtain ⟨host, known, after⟩ := marked.marked
  rw [after]
  by_cases same : other = id
  · subst same
    rw [own host known]
    simp
  · rw [others other same, Function.update_of_ne same]
    exact working other

/-- A scheduler that does not run is started. -/
theorem start_sound (listed : Listed state.policy)
    (working : ∀ id, state.hostsQueue id ≠ [] ↔
      ∃ host, state.policy.hostState id = some host ∧ host.isActive = true)
    (idle : state.pending = [])
    (order : ∀ id, ofHost id state.executed ++ state.hostsQueue id = ofHost id state.enqueued) :
    Sound state.start := by
  refine ⟨listed, working, ?_, fun _ => rfl, order⟩
  simp [State.start, idle]

theorem idle_of_not_running (sound : Sound state) (stopped : state.isRunning = false) :
    state.pending = [] := by
  have none_ := sound.running
  rw [stopped] at none_
  exact List.length_eq_zero_iff.1 none_

theorem enqueue_sound (sound : Sound state) (work : Work) :
    Ensures (state.enqueue id work) Sound := by
  refine ensures_map.2 ((mark_active_spec sound.listed).mono fun policy marked => ?_)
  have working := active_of_marked marked sound.working
    (Function.update state.hostsQueue id (state.hostsQueue id ++ [work]))
    (fun other different => Function.update_of_ne different ..) fun host _ => by simp
  have order : ∀ other, ofHost other state.executed ++
      Function.update state.hostsQueue id (state.hostsQueue id ++ [work]) other =
      ofHost other (state.enqueued ++ [(id, work)]) := by
    intro other
    rw [of_host_append, of_host_singleton, ← sound.order other]
    by_cases same : other = id
    · subst same
      simp
    · simp [same, Ne.symm same]
  dsimp only
  split_ifs with running
  · exact ⟨marked.listed, working, sound.running, fun _ => running, order⟩
  · have idle := idle_of_not_running sound (Bool.eq_false_iff.2 running)
    exact start_sound marked.listed working idle order

theorem set_xoff_sound (sound : Sound state) (xoff : Bool) :
    Ensures (state.setXoff id xoff) Sound := by
  cases xoff with
  | true =>
    refine ensures_map.2 ((xoff_spec sound.listed).mono fun policy marked => ?_)
    have working := active_of_marked marked sound.working state.hostsQueue (fun _ _ => rfl)
      fun host known => by simp [sound.working, known]
    refine ⟨marked.listed, working, sound.running, fun work => ?_, sound.order⟩
    -- The hosts that are served afterwards were served before.
    obtain ⟨host, known, after⟩ := marked.marked
    apply sound.awake
    cases hosts : policy.activeHosts with
    | nil => simp [Policy.hasWork, hosts] at work
    | cons front rest =>
      obtain ⟨state_, found, serves⟩ := (marked.listed.active front).1 (by simp [hosts])
      rw [after, Function.update_apply] at found
      split_ifs at found with same
      · cases found
        simp [served] at serves
      · exact has_work_of_served sound.listed found serves
  | false =>
    refine ensures_map.2 ((xon_spec sound.listed).mono fun policy marked => ?_)
    have working := active_of_marked marked sound.working state.hostsQueue (fun _ _ => rfl)
      fun host known => by simp [sound.working, known]
    dsimp only
    split_ifs with starts
    · rw [Bool.and_eq_true, Bool.not_eq_true'] at starts
      have idle := idle_of_not_running sound starts.2
      exact start_sound marked.listed working idle sound.order
    · refine ⟨marked.listed, working, sound.running, fun work => ?_, sound.order⟩
      change policy.hasWork = true at work
      simpa [work] using starts

/-- What a run of the scheduler does: it executes the first callback of a host that has work and is
not xoffed, or nothing where there is no such host. -/
structure Served (before after : State) : Prop where
  sound : Sound after
  enqueued : after.enqueued = before.enqueued
  executed : (before.policy.hasWork = false ∧ after.executed = before.executed) ∨
    ∃ id host work rest, before.policy.hostState id = some host ∧ host.isXoff = false ∧
      before.hostsQueue id = work :: rest ∧ after.executed = before.executed ++ [(id, work)]

/-- The gap does not matter for what is served. -/
theorem gap_same (config : Config) (state : State) (packetSize : Option UInt32) :
    ∃ gap, state.updateInterPacketGap config packetSize = { state with interPacketGap := gap } := by
  cases packetSize with
  | none => exact ⟨state.interPacketGap, rfl⟩
  | some size => exact ⟨_, rfl⟩

theorem continue_sound (listed : Listed state.policy)
    (working : ∀ id, state.hostsQueue id ≠ [] ↔
      ∃ host, state.policy.hostState id = some host ∧ host.isActive = true)
    (stopped : state.isRunning = false) (idle : state.pending = [])
    (order : ∀ id, ofHost id state.executed ++ state.hostsQueue id = ofHost id state.enqueued) :
    Sound state.continueWork := by
  unfold State.continueWork
  split_ifs with work
  · exact ⟨listed, working, by simp [idle], fun _ => rfl, order⟩
  · exact ⟨listed, working, by simp [idle, stopped], fun again => absurd again work, order⟩

theorem mark_inactive_harmless {policy : Policy} :
    policy.markHostInactive id ≠ .error .emptyQueue := by
  unfold Policy.markHostInactive
  split
  · simp
  · split_ifs <;> simp

theorem map_harmless {A B : Type} {outcome : Except Fault A} {change : A → B}
    (harmless : outcome ≠ .error .emptyQueue) : outcome.map change ≠ .error .emptyQueue := by
  cases outcome with
  | error fault =>
    intro failed
    cases failed
    exact harmless rfl
  | ok value => simp [Except.map]

theorem continue_executed (state : State) : state.continueWork.executed = state.executed ∧
    state.continueWork.enqueued = state.enqueued := by
  unfold State.continueWork
  split_ifs <;> exact ⟨rfl, rfl⟩

/-- The event that is scheduled runs. -/
theorem schedule_work_spec (sound : Sound state) {due : Nat} (member : due ∈ state.pending) :
    State.scheduleWork config { state with pending := state.pending.erase due } ≠
        .error .emptyQueue ∧
      Ensures (State.scheduleWork config { state with pending := state.pending.erase due })
        (Served state) := by
  have single := sound.running
  have idle : state.pending.erase due = [] := by
    apply List.length_eq_zero_iff.1
    have shorter := List.length_erase_of_mem member
    have positive := List.length_pos_of_mem member
    split_ifs at single <;> omega
  unfold State.scheduleWork
  dsimp only
  cases selected : state.policy.selectHost with
  | none =>
    have nothing : state.policy.hasWork = false := by
      unfold Policy.selectHost at selected
      split at selected
      · rename_i hosts
        simp [Policy.hasWork, hosts]
      · cases selected
    refine ⟨by simp, ensures_ok.2 ⟨⟨sound.listed, sound.working, by simp [idle], fun work => ?_,
      sound.order⟩, rfl, .inl ⟨nothing, rfl⟩⟩⟩
    change state.policy.hasWork = true at work
    rw [nothing] at work
    cases work
  | some found =>
    obtain ⟨id, policy⟩ := found
    obtain ⟨listed, same, active⟩ := select_spec sound.listed selected
    obtain ⟨host, known, serves⟩ := (sound.listed.active id).1 active
    have kinds : host.isActive = true ∧ host.isXoff = false := by
      simpa [served] using serves
    cases queue : state.hostsQueue id with
    | nil => exact absurd queue ((sound.working id).2 ⟨host, known, kinds.1⟩)
    | cons work rest =>
      have working : ∀ other, state.hostsQueue other ≠ [] ↔
          ∃ host, policy.hostState other = some host ∧ host.isActive = true := by
        rw [same]
        exact sound.working
      have others : ∀ other, other ≠ id →
          Function.update state.hostsQueue id rest other = state.hostsQueue other :=
        fun other different => Function.update_of_ne different ..
      have popped : (if rest.isEmpty then policy.markHostInactive id else .ok policy) ≠
            .error .emptyQueue ∧
          Ensures (if rest.isEmpty then policy.markHostInactive id else .ok policy) fun after =>
            Listed after ∧ ∀ other, Function.update state.hostsQueue id rest other ≠ [] ↔
              ∃ host, after.hostState other = some host ∧ host.isActive = true := by
        cases rest with
        | nil =>
          refine ⟨mark_inactive_harmless, (mark_inactive_spec listed).mono fun after marked => ?_⟩
          exact ⟨marked.listed, active_of_marked marked working _ others fun _ _ => by simp⟩
        | cons second later =>
          refine ⟨by simp, ensures_ok.2 ⟨listed, fun other => ?_⟩⟩
          by_cases own : other = id
          · subst own
            simp [same, known, kinds.1]
          · rw [others other own]
            exact working other
      have order : ∀ other, ofHost other (state.executed ++ [(id, work)]) ++
          Function.update state.hostsQueue id rest other = ofHost other state.enqueued := by
        intro other
        rw [of_host_append, of_host_singleton, ← sound.order other]
        by_cases own : other = id
        · subst own
          simp [queue]
        · simp [own, Ne.symm own]
      obtain ⟨gap, updated⟩ := gap_same config { state with
        pending := state.pending.erase due
        isRunning := false
        lastSchedulerRunTime := state.now } work.packetSize
      dsimp only
      rw [queue]
      dsimp only
      rw [updated]
      refine ⟨map_harmless popped.1, ensures_map.2 (popped.2.mono fun after ⟨lists, active⟩ => ?_)⟩
      obtain ⟨executed, enqueued⟩ := continue_executed { state with
        policy := after
        hostsQueue := Function.update state.hostsQueue id rest
        isRunning := false
        lastSchedulerRunTime := state.now
        interPacketGap := gap
        pending := state.pending.erase due
        executed := state.executed ++ [(id, work)] }
      exact ⟨continue_sound lists active rfl idle order, enqueued,
        .inr ⟨id, host, work, rest, known, kinds.2, queue, executed⟩⟩

theorem perform_sound (sound : Sound state) {event : State.Event}
    (possible : state.Possible event) : Ensures (state.perform config event) Sound := by
  cases event with
  | enqueue host work => exact enqueue_sound sound work
  | setXoff host xoff => exact set_xoff_sound sound xoff
  | scheduleWork due => exact (schedule_work_spec sound possible.1).2.mono fun _ done => done.sound
  | tick => exact ensures_ok.2 ⟨sound.listed, sound.working, sound.running, sound.awake, sound.order⟩

theorem init_hosts_spec (hosts : List UInt8) {policy : Policy} (listed : Listed policy)
    (idle : ∀ id host, policy.hostState id = some host → host.isActive = false) :
    Ensures (hosts.foldlM Policy.initHost policy) fun after => Listed after ∧
      ∀ id host, after.hostState id = some host → host.isActive = false := by
  induction hosts generalizing policy with
  | nil => exact ensures_ok.2 ⟨listed, idle⟩
  | cons id rest ih =>
    rw [List.foldlM_cons]
    refine ensures_bind fun after done => ih (init_spec listed after done) ?_
    unfold Policy.initHost at done
    split_ifs at done
    cases done
    intro other host found
    change Function.update policy.hostState id (some {}) other = some host at found
    rw [Function.update_apply] at found
    split_ifs at found
    · cases found
      rfl
    · exact idle other host found

theorem initial_sound (initial : State.Initial config state) : Sound state := by
  obtain ⟨numberOfHosts, policy, now, created, rfl⟩ := initial
  have empty : Listed {} := ⟨by simp, by simp, List.nodup_nil, List.nodup_nil⟩
  obtain ⟨listed, idle⟩ := init_hosts_spec _ empty (by simp) policy created
  have quiet : policy.hasWork = false := by
    cases hosts : policy.activeHosts with
    | nil => simp [Policy.hasWork, hosts]
    | cons front rest =>
      obtain ⟨host, known, serves⟩ := (listed.active front).1 (by simp [hosts])
      simp [served, idle front host known] at serves
  refine ⟨listed, fun id => ?_, rfl, fun work => ?_, fun id => rfl⟩
  · simp only [ne_eq, not_true_eq_false, false_iff]
    rintro ⟨host, known, active⟩
    rw [idle id host known] at active
    cases active
  · rw [quiet] at work
    cases work

end Scheduling

/-- In every state that a run reaches: at most one event is scheduled, and one is while the scheduler
runs; one is while some host has work and is not xoffed; the callbacks of each host were executed in
the order in which they were enqueued, and the others wait; the active hosts are those with work that
are not xoffed, each listed once; and the next event executes one callback, of a host that is not
xoffed, or none, where there is no such host. -/
theorem rx_scheduler_sound {config : InterHostRx.Config} {state : State}
    (reached : Runs.Reachable (State.Initial config) (State.Step config) state) :
    state.pending.length ≤ 1 ∧ (state.isRunning = true ↔ state.pending ≠ []) ∧
    (∀ id host, state.policy.hostState id = some host → state.hostsQueue id ≠ [] →
      host.isXoff = false → state.pending ≠ []) ∧
    (∀ id, ofHost id state.executed ++ state.hostsQueue id = ofHost id state.enqueued) ∧
    (state.policy.activeHosts.Nodup ∧ ∀ id, id ∈ state.policy.activeHosts ↔
      state.hostsQueue id ≠ [] ∧ ∃ host, state.policy.hostState id = some host ∧
        host.isXoff = false) ∧
    ∀ due, state.Possible (.scheduleWork due) →
      state.perform config (.scheduleWork due) ≠ .error .emptyQueue ∧
      ∀ next, state.perform config (.scheduleWork due) = .ok next → Served state next := by
  have sound : Sound state := by
    apply Runs.invariant_of_reachable _ _ reached
    · exact fun first initial => initial_sound initial
    · rintro before after sound ⟨event, possible, done⟩
      exact perform_sound sound possible after done
  have runs : state.isRunning = true ↔ state.pending ≠ [] := by
    have count := sound.running
    rw [← List.length_pos_iff]
    cases running : state.isRunning <;> rw [running] at count <;> simp [count]
  have serves : ∀ id, id ∈ state.policy.activeHosts ↔ state.hostsQueue id ≠ [] ∧
      ∃ host, state.policy.hostState id = some host ∧ host.isXoff = false := by
    intro id
    rw [sound.listed.active, sound.working]
    constructor
    · rintro ⟨host, known, both⟩
      simp only [served, Bool.and_eq_true, Bool.not_eq_true'] at both
      exact ⟨⟨host, known, both.1⟩, host, known, both.2⟩
    · rintro ⟨⟨host, known, active⟩, other, same, open_⟩
      obtain rfl := Option.some.inj (known.symm.trans same)
      exact ⟨host, known, by simp [served, active, open_]⟩
  refine ⟨?_, runs, fun id host known work open_ => ?_, sound.order,
    ⟨sound.listed.activeNodup, serves⟩, fun due possible => ?_⟩
  · rw [sound.running]
    split_ifs <;> omega
  · obtain ⟨other, same, active⟩ := (sound.working id).1 work
    obtain rfl := Option.some.inj (known.symm.trans same)
    exact runs.1 (sound.awake (has_work_of_served sound.listed known (by simp [served, active, open_])))
  · exact schedule_work_spec sound possible.1

instance (state : State) (event : State.Event) : Decidable (state.Possible event) := by
  cases event <;> unfold State.Possible <;> infer_instance

/-- The state after an event that is possible. -/
def tryEvent (config : InterHostRx.Config) (state : State) (event : State.Event) : Option State :=
  Runs.attempt (state.Possible event) (state.perform config event)

/-- Two hosts, and a cycle of one tick. -/
def twoHosts : InterHostRx.Config := { schedulerCycleTime := 1, serializationDelay := fun _ => 3 }

/-- The host that was xoffed when its turn came waits for the next event after the xon. -/
theorem rx_scheduler_sound_xon : ∃ state : State, state.hostsQueue 0 = [⟨7, none⟩] ∧
    state.executed = [(1, ⟨8, some 100⟩)] ∧ state.pending ≠ [] ∧ state.pending.length ≤ 1 := by
  have tested : ((State.initHosts 2).toOption.map fun policy =>
      (Runs.execute (tryEvent twoHosts) [.enqueue 0 ⟨7, none⟩, .enqueue 1 ⟨8, some 100⟩,
        .setXoff 0 true, .tick, .scheduleWork 1, .setXoff 0 false]
        { policy := policy, interPacketGap := 1 }).any fun state =>
          decide (state.hostsQueue 0 = [⟨7, none⟩] ∧ state.executed = [(1, ⟨8, some 100⟩)] ∧
            (state.policy.hostState 0) = some ⟨true, false⟩)) = some true := by decide +kernel
  obtain ⟨policy, created, passed⟩ := Option.map_eq_some_iff.1 tested
  have started : State.Initial twoHosts { policy := policy, interPacketGap := 1 } :=
    ⟨2, policy, 0, toOption_eq_some.1 created, rfl⟩
  have steps : ∀ state event next, tryEvent twoHosts state event = some next →
      State.Step twoHosts state next := by
    intro state event next done
    obtain ⟨possible, performed⟩ := Runs.attempt_eq_some.1 done
    exact ⟨event, possible, performed⟩
  obtain ⟨state, reached, holds⟩ := Runs.reached_with steps started passed
  obtain ⟨queue, executed, known⟩ := of_decide_eq_true holds
  obtain ⟨single, -, awake, -⟩ := rx_scheduler_sound reached
  exact ⟨state, queue, executed, awake 0 _ known (by simp [queue]) rfl, single⟩

end Isekai.InterHostRxProofs
