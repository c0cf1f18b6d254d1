import Isekai.FormatRoundTrip
import Isekai.RateUpdateEngine
import Isekai.Runs

/-! The rate update engine over every sequence of notifications, thresholds and latencies. Each key
has at most one event or response in the pipeline, and its flag says whether it has one. Every
acknowledged packet is counted in one event, whose ten bits saturate. -/

namespace Isekai.RateUpdate

variable {account : Account} {config : RueConfig} {packet : Packet} {cid : BitVec 32}
  {call : FillCall} {due : Span}

/-- The number of acknowledged packets that a call is given. -/
def FillCall.numPacketsAcked : FillCall → BitVec 32
  | timeoutRetransmitted _ => 0
  | nack numPacketsAcked => numPacketsAcked
  | explicitAck numPacketsAcked _ _ => numPacketsAcked

/-! ## Checks that never fail -/

/-- An operation that does not stop at a `CHECK` of the engine about its events and queues. -/
def Checked {A : Type} (result : Except Fatal A) : Prop :=
  ∀ fatal, result = .error fatal →
    fatal ≠ .outstandingEvent ∧ fatal ≠ .notScheduled ∧ fatal ≠ .noResponse

theorem checked_ok {A : Type} (value : A) : Checked (.ok value) := nofun

theorem checked_error {A : Type} {fatal : Fatal} (other : fatal ≠ .outstandingEvent)
    (scheduled : fatal ≠ .notScheduled) (response : fatal ≠ .noResponse) :
    Checked (.error fatal : Except Fatal A) := by
  rintro _ ⟨⟩
  exact ⟨other, scheduled, response⟩

theorem checked_bind {A B : Type} {first : Except Fatal A} {second : A → Except Fatal B}
    (one : Checked first) (two : ∀ value, first = .ok value → Checked (second value)) :
    Checked (first >>= second) := by
  cases first with
  | error fatal =>
    rintro _ ⟨⟩
    exact one fatal rfl
  | ok value => exact two value rfl

theorem checked_map {A B : Type} {first : Except Fatal A} (change : A → B)
    (one : Checked first) : Checked (first.map change) := by
  cases first with
  | error fatal =>
    rintro _ ⟨⟩
    exact one fatal rfl
  | ok value => exact checked_ok _

theorem checkBits_checked (bits num : Nat) : Checked (checkBits bits num) := by
  unfold checkBits
  split
  · exact checked_ok _
  · exact checked_error (by decide) (by decide) (by decide)

theorem toFalconTimeUnits_checked (units : TimeUnits) (time : Span) :
    Checked (units.toFalconTimeUnits time) := by
  unfold TimeUnits.toFalconTimeUnits
  split
  · exact checked_error (by decide) (by decide) (by decide)
  · refine checked_bind ?_ fun value _ => checked_bind (checkBits_checked _ _) fun _ _ =>
      checked_ok _
    unfold toUint64
    split
    · exact checked_ok _
    · exact checked_error (by decide) (by decide) (by decide)

theorem toTimingWheelTimeUnits_checked (units : TimeUnits) (time : Span) :
    Checked (units.toTimingWheelTimeUnits time) := by
  unfold TimeUnits.toTimingWheelTimeUnits
  split
  · exact checked_error (by decide) (by decide) (by decide)
  · exact checked_bind (checkBits_checked _ _) fun _ _ => checked_ok _

theorem details_checked (call : FillCall) (units : TimeUnits) (packet : Packet) :
    Checked (call.details units packet) := by
  have feedback (feedback eventType nackCode numPacketsAcked eack eackDrop) :
      Checked (feedbackDetails units packet feedback eventType nackCode numPacketsAcked eack
        eackDrop) :=
    checked_bind (toFalconTimeUnits_checked _ _) fun _ _ =>
      checked_bind (toFalconTimeUnits_checked _ _) fun _ _ =>
        checked_bind (toFalconTimeUnits_checked _ _) fun _ _ =>
          checked_bind (toFalconTimeUnits_checked _ _) fun _ _ => checked_ok _
  cases call with
  | timeoutRetransmitted retransmitCount => exact checked_ok _
  | nack numPacketsAcked => exact feedback _ _ _ _ _ _
  | explicitAck numPacketsAcked eack eackDrop => exact feedback _ _ _ _ _ _

/-! ## What the proofs use of a generation -/

/-- A generation whose events come back under the key that they were enqueued under. -/
structure Laws {Key Event Response : Type} (generation : Generation Key Event Response) where
  /-- The key under which the algorithm answers an event. -/
  keyOfEvent : Event → Key
  /-- What holds of the metadata of a connection from its creation on. -/
  consistent : BitVec 32 → CongestionControlMetadata → Prop
  /-- What holds of an event that was filled from a connection. -/
  filled : Event → Prop
  /-- What holds of a response to such an event. -/
  answered : Response → Prop
  scid_keyOf : ∀ cid flowLabel, generation.scid (generation.keyOf cid flowLabel) = cid
  fill_spec : ∀ {cid packet ccmeta call event}, cid.toNat < 2 ^ connectionIdBits →
    consistent cid ccmeta →
    generation.fill (generation.keyOf cid packet.flowLabel) packet ccmeta call = .ok event →
    keyOfEvent event = generation.keyOf cid packet.flowLabel ∧ filled event ∧
      (generation.header event).numPacketsAcked =
        call.numPacketsAcked.setWidth numPacketsAckedBits
  fill_checked : ∀ key packet ccmeta call, Checked (generation.fill key packet ccmeta call)
  answer_spec : ∀ {event response}, filled event → generation.answers event response →
    generation.keyOfResponse response = keyOfEvent event ∧ answered response
  update_spec : ∀ flowLabel {connection response}, answered response →
    consistent (generation.scid (generation.keyOfResponse response))
      connection.congestionControlMetadata →
    ∃ updated, generation.update flowLabel connection response = .ok updated ∧
      consistent (generation.scid (generation.keyOfResponse response))
        updated.congestionControlMetadata

theorem details_numPacketsAcked {units : TimeUnits} {details : EventDetails}
    (known : call.details units packet = .ok details) :
    details.numPacketsAcked = call.numPacketsAcked.setWidth 16 := by
  cases call with
  | timeoutRetransmitted retransmitCount =>
    cases known
    rfl
  | nack numPacketsAcked =>
    simp only [FillCall.details, nackDetails, feedbackDetails, bind_eq_ok] at known
    obtain ⟨_, _, _, _, _, _, _, _, built⟩ := known
    cases built
    rfl
  | explicitAck numPacketsAcked eack eackDrop =>
    simp only [FillCall.details, ackDetails, feedbackDetails, bind_eq_ok] at known
    obtain ⟨_, _, _, _, _, _, _, _, built⟩ := known
    cases built
    rfl

/-- The header that an event gets from a call. -/
theorem header_spec {units : TimeUnits} {details : EventDetails}
    (known : call.details units packet = .ok details) (narrow : cid.toNat < 2 ^ connectionIdBits) :
    (details.header cid).connectionId.setWidth 32 = cid ∧
      (details.header cid).numPacketsAcked =
        call.numPacketsAcked.setWidth numPacketsAckedBits := by
  refine ⟨((setWidth_eq_iff (by decide) narrow).1 rfl).symm, ?_⟩
  show details.numPacketsAcked.setWidth numPacketsAckedBits = _
  rw [details_numPacketsAcked known, BitVec.setWidth_setWidth_of_le _ (by decide)]

/-- The first generation needs nothing of its connections. -/
def gen1Laws (units : TimeUnits) : Laws (gen1 units) where
  keyOfEvent event := event.connectionId.setWidth 32
  consistent _ _ := True
  filled _ := True
  answered _ := True
  scid_keyOf _ _ := rfl
  fill_spec {cid packet ccmeta call event} narrow _ done := by
    simp only [gen1, FillCall.fillDna_eq, bind_eq_ok, fillEventDna] at done
    obtain ⟨details, known, _, _, _, _, built⟩ := done
    cases built
    obtain ⟨same, number⟩ := header_spec known narrow
    exact ⟨same, trivial, number⟩
  fill_checked key packet ccmeta call := by
    show Checked (call.fillDna units key packet ccmeta)
    rw [call.fillDna_eq]
    exact checked_bind (details_checked _ _ _) fun _ _ =>
      checked_bind (toTimingWheelTimeUnits_checked _ _) fun _ _ =>
        checked_bind (toFalconTimeUnits_checked _ _) fun _ _ => checked_ok _
  answer_spec _ answer := ⟨congrArg (fun id => BitVec.setWidth 32 id) answer, trivial⟩
  update_spec _ _ _ _ _ := ⟨_, rfl, trivial⟩

/-- The flow that the key of a connection has is the one that the algorithm reads. -/
theorem flow_id_eq {flowLabel : BitVec flowLabelBits} {numFlows : Nat}
    (flows : numFlows = 1 ∨ numFlows = 4) :
    BitVec.setWidth 8 (if decide (numFlows ≠ 1) = true then flowLabel.setWidth flowIdBits else 0) =
      getFlowIdFromFlowLabel flowLabel numFlows := by
  rcases flows with rfl | rfl
  · simp [getFlowIdFromFlowLabel, Nat.mod_one]
  · rw [← BitVec.toNat_inj]
    simp [getFlowIdFromFlowLabel, flowIdBits]

theorem updateFlows_length {metadata : CongestionControlMetadata} {response : ResponseBna}
    {flows : List (BitVec 32) × List (BitVec 8)}
    (done : updateFlows metadata response = .ok flows) :
    flows.1.length = metadata.gen2FlowLabels.length ∧
      flows.2.length = metadata.gen2FlowWeights.length := by
  unfold updateFlows at done
  by_cases single : metadata.gen2FlowLabels.length % 256 = 1
  · rw [if_pos single] at done
    obtain ⟨labels, labelled, rfl⟩ := map_eq_ok.1 done
    exact ⟨updateFlowLabel_length labelled, rfl⟩
  · rw [if_neg single] at done
    obtain ⟨labels, labelled, weighed⟩ := bind_eq_ok.1 done
    by_cases zero : response.weights = 0
    · rw [if_pos zero] at weighed
      exact absurd weighed nofun
    · rw [if_neg zero] at weighed
      obtain ⟨weights, assigned, rfl⟩ := map_eq_ok.1 weighed
      simp only [updateFlowLabels, bind_eq_ok] at labelled
      simp only [updateFlowWeights, bind_eq_ok, assign_eq_ok] at assigned
      obtain ⟨first, one, second, two, third, three, four⟩ := labelled
      obtain ⟨_, ⟨_, rfl⟩, _, ⟨_, rfl⟩, _, ⟨_, rfl⟩, _, rfl⟩ := assigned
      refine ⟨?_, by simp⟩
      rw [updateFlowLabel_length four, updateFlowLabel_length three, updateFlowLabel_length two,
        updateFlowLabel_length one]

/-- The second generation needs its vectors to have one place for each flow. -/
def gen2Laws (units : TimeUnits) {numFlows : BitVec 32 → Nat}
    (flows : ∀ cid, numFlows cid = 1 ∨ numFlows cid = 4) : Laws (gen2 units numFlows) where
  keyOfEvent event := ⟨event.connectionId.setWidth 32, event.flowId.setWidth 8⟩
  consistent cid ccmeta :=
    ccmeta.gen2FlowLabels.length = numFlows cid ∧ ccmeta.gen2FlowWeights.length = numFlows cid
  filled event :=
    event.multipathEnable = decide (numFlows (event.connectionId.setWidth 32) ≠ 1)
  answered response :=
    numFlows (response.connectionId.setWidth 32) ≠ 1 → response.weights ≠ 0
  scid_keyOf _ _ := rfl
  fill_spec {cid packet ccmeta call event} narrow consistent done := by
    simp only [gen2, FillCall.fillBna_eq, map_eq_ok] at done
    obtain ⟨details, known, rfl⟩ := done
    obtain ⟨same, number⟩ := header_spec known narrow
    have multipath : decide (ccmeta.gen2FlowLabels.length ≠ 1) = decide (numFlows cid ≠ 1) := by
      rw [consistent.1]
    have flow : BitVec.setWidth 8 (fillEventBna cid packet ccmeta details).flowId =
        getFlowIdFromFlowLabel packet.flowLabel (numFlows cid) := by
      rw [← flow_id_eq (flows cid), ← multipath]
      rfl
    have connection : BitVec.setWidth 32 (fillEventBna cid packet ccmeta details).connectionId =
        cid := same
    refine ⟨congrArg₂ Gen2RueKey.mk same flow, ?_, number⟩
    rw [connection]
    exact multipath
  fill_checked key packet ccmeta call := by
    show Checked (call.fillBna units key.scid packet ccmeta)
    rw [call.fillBna_eq]
    exact checked_map _ (details_checked _ _ _)
  answer_spec {event response} filled answer := by
    obtain ⟨connection, flow, weights⟩ := answer
    refine ⟨?_, ?_⟩
    · simp only [gen2, connection, flow]
    · intro several
      rw [connection] at several
      have multipath : event.multipathEnable = true := by
        rw [filled]
        exact decide_eq_true several
      exact weights multipath
  update_spec flowLabel connection response answered consistent := by
    obtain ⟨labels, weights⟩ := consistent
    have cid : (gen2 units numFlows).scid ((gen2 units numFlows).keyOfResponse response) =
      response.connectionId.setWidth 32 := rfl
    rw [cid] at labels weights ⊢
    have fit : FlowsFit connection.congestionControlMetadata response := by
      rcases flows (response.connectionId.setWidth 32) with one | four
      · rw [one] at labels
        exact ⟨fun several => absurd (by rw [labels]) several,
          fun several => absurd (by rw [labels]) several⟩
      · have positive := answered (by rw [four]; decide)
        rw [four] at labels weights
        exact ⟨fun _ => by omega, fun _ => ⟨positive, by omega⟩⟩
    have succeeds : ∃ updated, updateConnectionStateFromResponseBna units connection response =
        .ok updated := updateConnectionStateFromResponseBna_succeeds.2 fit
    obtain ⟨updated, done⟩ := succeeds
    obtain ⟨flowsAfter, placed, built⟩ := bind_eq_ok.1 done
    have length := updateFlows_length placed
    refine ⟨updated, done, ?_⟩
    cases built
    exact ⟨length.1.trans labels, length.2.trans weights⟩

/-! ## Operations -/

namespace Engine
variable {Key Event Response : Type} {engine next : Engine Key Event Response}

theorem account_eq_ok {key : Key} :
    engine.account key = .ok account ↔ engine.accounts key = some account := by
  unfold Engine.account
  cases engine.accounts key <;> simp

theorem account_checked (key : Key) : Checked (engine.account key) := by
  unfold Engine.account
  split
  · exact checked_ok _
  · exact checked_error (by decide) (by decide) (by decide)

theorem performDirectLookup_eq_ok {connection : ConnectionState} :
    engine.performDirectLookup cid = .ok connection ↔
      engine.connections cid = some connection := by
  unfold Engine.performDirectLookup
  cases engine.connections cid <;> simp

theorem performDirectLookup_checked (cid : BitVec 32) :
    Checked (engine.performDirectLookup cid) := by
  unfold Engine.performDirectLookup
  split
  · exact checked_ok _
  · exact checked_error (by decide) (by decide) (by decide)

/-- An event is only enqueued for a key that has none in the pipeline. -/
theorem not_outstanding_of_canEnqueueEvent (can : engine.canEnqueueEvent config account = true) :
    account.outstandingRueEvent = false := by
  cases outstanding : account.outstandingRueEvent with
  | false => rfl
  | true => simp [canEnqueueEvent, outstanding] at can

variable [DecidableEq Key]

theorem setAccount_accounts (key : Key) (account : Account) :
    (engine.setAccount key account).accounts =
      Function.update engine.accounts key (some account) := rfl

theorem setAccount_account {key : Key} :
    (engine.setAccount key account).accounts key = some account :=
  Function.update_self ..

theorem updateOutstandingEvent_eq {key : Key} {value : Bool}
    (known : engine.accounts key = some account) (different : account.outstandingRueEvent ≠ value) :
    engine.updateOutstandingEvent key value =
      .ok (engine.setAccount key { account with outstandingRueEvent := value }) := by
  rw [updateOutstandingEvent, account_eq_ok.2 known]
  exact if_neg different

/-- What a notification that is not ignored does to the engine. -/
structure Enqueued (engine next : Engine Key Event Response) (key : Key) (event : Event) :
    Prop where
  connections : next.connections = engine.connections
  accounts : next.accounts = Function.update engine.accounts key
    (some ⟨some engine.elapsedTime, 0, true⟩)
  eventQueue : next.eventQueue = engine.eventQueue ++ [event]
  responseQueue : next.responseQueue = engine.responseQueue
  queueScheduled : next.queueScheduled = true
  scheduledEvents : next.scheduledEvents = if engine.queueScheduled then engine.scheduledEvents
    else engine.scheduledEvents ++ [engine.elapsedTime + nanosecond]
  scheduledResponses : next.scheduledResponses = engine.scheduledResponses

variable {generation : Generation Key Event Response}

/-- The flag of a key is set, and `ProcessNextEvent` scheduled if it is not. -/
theorem prepareForEnqueueEvent_eq {key : Key} (known : engine.accounts key = some account)
    (idle : account.outstandingRueEvent = false) :
    engine.prepareForEnqueueEvent key =
      let flagged := engine.setAccount key { account with outstandingRueEvent := true }
      .ok (if engine.queueScheduled then flagged
        else { flagged with
          queueScheduled := true
          scheduledEvents := engine.scheduledEvents ++ [engine.elapsedTime + nanosecond] }) := by
  rw [prepareForEnqueueEvent, updateOutstandingEvent_eq known (by simp [idle])]
  rfl

theorem enqueueEvent_spec {key : Key} (idle : account.outstandingRueEvent = false)
    (done : enqueueEvent generation engine key packet account call = .ok next) :
    ∃ connection event, engine.connections (generation.scid key) = some connection ∧
      generation.fill key packet connection.congestionControlMetadata call = .ok event ∧
      Enqueued engine next key event := by
  obtain ⟨connection, looked, filling⟩ := bind_eq_ok.1 done
  obtain ⟨event, filled, enqueued⟩ := bind_eq_ok.1 filling
  refine ⟨connection, event, performDirectLookup_eq_ok.1 looked, filled, ?_⟩
  rw [prepareForEnqueueEvent_eq setAccount_account] at enqueued
  swap
  · exact idle
  by_cases scheduled : engine.queueScheduled
  · cases enqueued
    constructor <;> simp [setAccount, scheduled]
  · cases enqueued
    constructor <;> simp [setAccount, scheduled]

/-- What a response does to the engine when it comes back to a key. -/
structure Completed (engine next : Engine Key Event Response) (key : Key) (cid : BitVec 32)
    (account : Account) (updated : ConnectionState) : Prop where
  connections : next.connections = Function.update engine.connections cid (some updated)
  accounts : next.accounts = Function.update engine.accounts key
    (some { account with outstandingRueEvent := false })
  eventQueue : next.eventQueue = engine.eventQueue
  responseQueue : next.responseQueue = engine.responseQueue.tail
  queueScheduled : next.queueScheduled = engine.queueScheduled
  scheduledEvents : next.scheduledEvents = engine.scheduledEvents
  scheduledResponses : next.scheduledResponses.length = engine.scheduledResponses.length - 1

theorem handleNextResponse_spec {flowLabel : BitVec flowLabelBits} {response : Response}
    {rest : List Response} {connection updated : ConnectionState}
    (scheduled : due ∈ engine.scheduledResponses)
    (queue : engine.responseQueue = response :: rest)
    (owned : engine.connections (generation.scid (generation.keyOfResponse response)) =
      some connection) (done : generation.update flowLabel connection response = .ok updated)
    (known : engine.accounts (generation.keyOfResponse response) = some account)
    (flagged : account.outstandingRueEvent = true) :
    ∃ next, engine.handleNextResponse generation due flowLabel = .ok next ∧
      engine.Completed next (generation.keyOfResponse response)
        (generation.scid (generation.keyOfResponse response)) account updated := by
  have changes : account.outstandingRueEvent ≠ false := by simp [flagged]
  have looked : ({ engine with scheduledResponses := engine.scheduledResponses.erase due } :
      Engine Key Event Response).performDirectLookup
        (generation.scid (generation.keyOfResponse response)) = .ok connection :=
    performDirectLookup_eq_ok.2 owned
  have handled : ∃ next, engine.handleNextResponse generation due flowLabel = .ok next := by
    rw [handleNextResponse, queue]
    exact ⟨_, bind_eq_ok.2 ⟨connection, looked,
      bind_eq_ok.2 ⟨updated, done, updateOutstandingEvent_eq known changes⟩⟩⟩
  obtain ⟨next, handled⟩ := handled
  refine ⟨next, handled, ?_⟩
  rw [handleNextResponse, queue] at handled
  obtain ⟨_, found, rest⟩ := bind_eq_ok.1 handled
  cases looked.symm.trans found
  obtain ⟨_, changed, flag⟩ := bind_eq_ok.1 rest
  cases done.symm.trans changed
  cases (updateOutstandingEvent_eq (by exact known) changes).symm.trans flag
  constructor
  case responseQueue => simp [setAccount, queue]
  case scheduledResponses => exact List.length_erase_of_mem scheduled
  all_goals rfl

omit [DecidableEq Key] in
theorem processNextEvent_accounts {response : Response} {latency : Nat}
    (done : engine.processNextEvent generation config due response latency = .ok next) :
    next.accounts = engine.accounts := by
  unfold processNextEvent at done
  dsimp only at done
  split at done
  · exact absurd done nofun
  · split at done
    · cases done
      rfl
    · obtain ⟨_, _, rfl⟩ := map_eq_ok.1 done
      rfl

theorem enqueueEvent_checked (laws : Laws generation) {key : Key}
    (idle : account.outstandingRueEvent = false) :
    Checked (enqueueEvent generation engine key packet account call) := by
  refine checked_bind (performDirectLookup_checked _) fun connection _ =>
    checked_bind (laws.fill_checked _ _ _ _) fun event _ => ?_
  rw [prepareForEnqueueEvent_eq setAccount_account]
  · exact checked_ok _
  · exact idle

end Engine

/-! ## The pipeline -/

section
variable {Key Event Response : Type} {generation : Generation Key Event Response}
  {engine next : Engine Key Event Response}

/-- The keys of the events that wait and of the responses that have not come back. -/
def Laws.pipeline (laws : Laws generation) (engine : Engine Key Event Response) : List Key :=
  engine.eventQueue.map laws.keyOfEvent ++ engine.responseQueue.map generation.keyOfResponse

/-- The pipeline holds each key at most once, with its flag set, and what it needs is
scheduled. -/
structure Sound (laws : Laws generation) (engine : Engine Key Event Response) : Prop where
  onePerKey : (laws.pipeline engine).Nodup
  flag : ∀ key account, engine.accounts key = some account →
    (account.outstandingRueEvent = true ↔ key ∈ laws.pipeline engine)
  known : ∀ key ∈ laws.pipeline engine, ∃ account, engine.accounts key = some account
  owned : ∀ key account, engine.accounts key = some account →
    ∃ connection, engine.connections (generation.scid key) = some connection
  consistent : ∀ cid connection, engine.connections cid = some connection →
    laws.consistent cid connection.congestionControlMetadata
  filled : ∀ event ∈ engine.eventQueue, laws.filled event
  answered : ∀ response ∈ engine.responseQueue, laws.answered response
  processing : engine.scheduledEvents.length = if engine.queueScheduled then 1 else 0
  queued : engine.eventQueue ≠ [] → engine.queueScheduled = true
  awaited : engine.scheduledResponses.length = engine.responseQueue.length

/-- The key of an event that is enqueued enters the pipeline. -/
theorem pipeline_enqueued [DecidableEq Key] {laws : Laws generation} {key : Key} {event : Event}
    (enqueued : engine.Enqueued next key event) (same : laws.keyOfEvent event = key) :
    (laws.pipeline next).Perm (key :: laws.pipeline engine) := by
  rw [Laws.pipeline, enqueued.eventQueue, enqueued.responseQueue, List.map_append,
    List.map_singleton, same, List.append_assoc]
  exact List.perm_middle

namespace Sound
variable [DecidableEq Key] {laws : Laws generation}

/-- The number of acknowledged packets of an account does not matter to the pipeline. -/
theorem set_account (sound : Sound laws engine) {key : Key} (changed : Account)
    (known : engine.accounts key = some account)
    (same : changed.outstandingRueEvent = account.outstandingRueEvent) :
    Sound laws (engine.setAccount key changed) := by
  refine { sound with flag := ?_, known := ?_, owned := ?_ }
  · intro other current found
    rw [Engine.setAccount_accounts] at found
    by_cases equal : other = key
    · subst equal
      rw [Function.update_self, Option.some.injEq] at found
      rw [← found, same]
      exact sound.flag other account known
    · rw [Function.update_of_ne equal] at found
      exact sound.flag other current found
  · intro other member
    rw [Engine.setAccount_accounts]
    by_cases equal : other = key
    · exact ⟨changed, by rw [equal, Function.update_self]⟩
    · rw [Function.update_of_ne equal]
      exact sound.known other member
  · intro other current found
    rw [Engine.setAccount_accounts] at found
    by_cases equal : other = key
    · rw [equal]
      exact sound.owned key account known
    · rw [Function.update_of_ne equal] at found
      exact sound.owned other current found

/-- An event is enqueued for a key that has none in the pipeline. -/
theorem enqueued (sound : Sound laws engine) {key : Key} {event : Event}
    (known : engine.accounts key = some account) (idle : account.outstandingRueEvent = false)
    (enqueued : engine.Enqueued next key event) (same : laws.keyOfEvent event = key)
    (filled : laws.filled event) : Sound laws next := by
  have perm := pipeline_enqueued enqueued same
  have absent : key ∉ laws.pipeline engine := by
    rw [← sound.flag key account known, idle]
    exact Bool.false_ne_true
  constructor
  case onePerKey =>
    rw [perm.nodup_iff, List.nodup_cons]
    exact ⟨absent, sound.onePerKey⟩
  case flag =>
    intro other current found
    rw [enqueued.accounts] at found
    rw [perm.mem_iff, List.mem_cons]
    by_cases equal : other = key
    · subst equal
      rw [Function.update_self, Option.some.injEq] at found
      simp [← found]
    · rw [Function.update_of_ne equal] at found
      simp only [equal, false_or]
      exact sound.flag other current found
  case known =>
    intro other member
    rw [enqueued.accounts]
    by_cases equal : other = key
    · exact ⟨_, by rw [equal, Function.update_self]⟩
    · rw [perm.mem_iff, List.mem_cons] at member
      rw [Function.update_of_ne equal]
      exact sound.known other (member.resolve_left equal)
  case owned =>
    intro other current found
    rw [enqueued.accounts] at found
    rw [enqueued.connections]
    by_cases equal : other = key
    · rw [equal]
      exact sound.owned key account known
    · rw [Function.update_of_ne equal] at found
      exact sound.owned other current found
  case consistent =>
    rw [enqueued.connections]
    exact sound.consistent
  case filled =>
    rw [enqueued.eventQueue]
    intro other member
    rcases List.mem_append.1 member with before | last
    · exact sound.filled other before
    · rw [List.mem_singleton.1 last]
      exact filled
  case answered =>
    rw [enqueued.responseQueue]
    exact sound.answered
  case processing =>
    rw [enqueued.scheduledEvents, enqueued.queueScheduled]
    have before := sound.processing
    cases scheduled : engine.queueScheduled <;> simp_all
  case queued => exact fun _ => enqueued.queueScheduled
  case awaited =>
    rw [enqueued.scheduledResponses, enqueued.responseQueue]
    exact sound.awaited

omit [DecidableEq Key] in
/-- Only the schedule of `ProcessNextEvent` and the clock change. -/
theorem rescheduled (sound : Sound laws engine) (connections : next.connections = engine.connections)
    (accounts : next.accounts = engine.accounts) (events : next.eventQueue = engine.eventQueue)
    (responses : next.responseQueue = engine.responseQueue)
    (awaited : next.scheduledResponses = engine.scheduledResponses)
    (processing : next.scheduledEvents.length = if next.queueScheduled then 1 else 0)
    (queued : engine.eventQueue ≠ [] → next.queueScheduled = true) : Sound laws next := by
  have same : laws.pipeline next = laws.pipeline engine := by
    rw [Laws.pipeline, events, responses]
    rfl
  constructor
  case onePerKey => rw [same]; exact sound.onePerKey
  case flag => rw [accounts, same]; exact sound.flag
  case known => rw [accounts, same]; exact sound.known
  case owned => rw [accounts, connections]; exact sound.owned
  case consistent => rw [connections]; exact sound.consistent
  case filled => rw [events]; exact sound.filled
  case answered => rw [responses]; exact sound.answered
  case processing => exact processing
  case queued => rw [events]; exact queued
  case awaited => rw [awaited, responses]; exact sound.awaited

omit [DecidableEq Key] in
/-- A call of `ProcessNextEvent` is only scheduled while the engine says so. -/
theorem pending (sound : Sound laws engine) (scheduled : due ∈ engine.scheduledEvents) :
    engine.queueScheduled = true := by
  have count := sound.processing
  cases flag : engine.queueScheduled with
  | true => rfl
  | false =>
    rw [flag] at count
    rw [List.eq_nil_of_length_eq_zero count] at scheduled
    exact absurd scheduled List.not_mem_nil

omit [DecidableEq Key] in
/-- The oldest event is answered. -/
theorem processed (sound : Sound laws engine) {response : Response} {latency : Nat}
    (scheduled : due ∈ engine.scheduledEvents)
    (answer : ∀ event ∈ engine.eventQueue.head?, generation.answers event response)
    (done : engine.processNextEvent generation config due response latency = .ok next) :
    Sound laws next := by
  have pending := sound.pending scheduled
  have single : (engine.scheduledEvents.erase due).length = 0 := by
    have count := sound.processing
    rw [if_pos pending] at count
    rw [List.length_erase_of_mem scheduled, count]
  unfold Engine.processNextEvent at done
  simp only [pending, Bool.true_eq_false, if_false] at done
  cases queue : engine.eventQueue with
  | nil =>
    rw [queue] at done
    cases done
    exact sound.rescheduled rfl rfl queue.symm rfl rfl single fun some => absurd queue some
  | cons event rest =>
    rw [queue] at done
    obtain ⟨_, _, rfl⟩ := map_eq_ok.1 done
    rw [queue] at answer
    obtain ⟨key, answered⟩ := laws.answer_spec (sound.filled event (by simp [queue]))
      (answer event rfl)
    have before : laws.pipeline engine = laws.keyOfEvent event ::
        (rest.map laws.keyOfEvent ++ engine.responseQueue.map generation.keyOfResponse) := by
      rw [Laws.pipeline, queue]
      rfl
    have perm : (rest.map laws.keyOfEvent ++
        (engine.responseQueue ++ [response]).map generation.keyOfResponse).Perm
        (laws.pipeline engine) := by
      rw [before, List.map_append, List.map_singleton, key, ← List.append_assoc]
      exact List.perm_append_comm
    constructor
    case onePerKey => exact perm.nodup_iff.2 sound.onePerKey
    case flag =>
      intro other current found
      exact (sound.flag other current found).trans perm.mem_iff.symm
    case known => exact fun other member => sound.known other (perm.mem_iff.1 member)
    case owned => exact sound.owned
    case consistent => exact sound.consistent
    case filled => exact fun other member => sound.filled other (by simp [queue, member])
    case answered =>
      intro other member
      rcases List.mem_append.1 member with earlier | last
      · exact sound.answered other earlier
      · rw [List.mem_singleton.1 last]
        exact answered
    case processing => simp [single]
    case queued => exact fun _ => rfl
    case awaited => simp [sound.awaited]

/-- The key of the response that came back leaves the pipeline. -/
theorem completed (sound : Sound laws engine) {response : Response} {rest : List Response}
    {updated : ConnectionState} (queue : engine.responseQueue = response :: rest)
    (known : engine.accounts (generation.keyOfResponse response) = some account)
    (consistent : laws.consistent (generation.scid (generation.keyOfResponse response))
      updated.congestionControlMetadata)
    (completed : engine.Completed next (generation.keyOfResponse response)
      (generation.scid (generation.keyOfResponse response)) account updated) : Sound laws next := by
  have perm : (laws.pipeline engine).Perm
      (generation.keyOfResponse response :: laws.pipeline next) := by
    rw [Laws.pipeline, Laws.pipeline, completed.eventQueue, completed.responseQueue, queue]
    exact List.perm_middle
  have unique := sound.onePerKey
  rw [perm.nodup_iff, List.nodup_cons] at unique
  constructor
  case onePerKey => exact unique.2
  case flag =>
    intro other current found
    rw [completed.accounts] at found
    by_cases equal : other = generation.keyOfResponse response
    · subst equal
      rw [Function.update_self, Option.some.injEq] at found
      simp [← found, unique.1]
    · rw [Function.update_of_ne equal] at found
      rw [sound.flag other current found, perm.mem_iff, List.mem_cons]
      simp [equal]
  case known =>
    intro other member
    rw [completed.accounts]
    by_cases equal : other = generation.keyOfResponse response
    · exact ⟨_, by rw [equal, Function.update_self]⟩
    · rw [Function.update_of_ne equal]
      exact sound.known other (perm.mem_iff.2 (List.mem_cons_of_mem _ member))
  case owned =>
    intro other current found
    have before : ∃ earlier, engine.accounts other = some earlier := by
      rw [completed.accounts] at found
      by_cases equal : other = generation.keyOfResponse response
      · exact ⟨account, by rw [equal, known]⟩
      · rw [Function.update_of_ne equal] at found
        exact ⟨current, found⟩
    obtain ⟨earlier, was⟩ := before
    rw [completed.connections]
    by_cases equal : generation.scid other = generation.scid (generation.keyOfResponse response)
    · exact ⟨updated, by rw [equal, Function.update_self]⟩
    · rw [Function.update_of_ne equal]
      exact sound.owned other earlier was
  case consistent =>
    intro cid connection found
    rw [completed.connections] at found
    by_cases equal : cid = generation.scid (generation.keyOfResponse response)
    · subst equal
      rw [Function.update_self, Option.some.injEq] at found
      rw [← found]
      exact consistent
    · rw [Function.update_of_ne equal] at found
      exact sound.consistent cid connection found
  case filled =>
    rw [completed.eventQueue]
    exact sound.filled
  case answered =>
    rw [completed.responseQueue]
    exact fun other member => sound.answered other (List.mem_of_mem_tail member)
  case processing =>
    rw [completed.scheduledEvents, completed.queueScheduled]
    exact sound.processing
  case queued =>
    rw [completed.eventQueue, completed.queueScheduled]
    exact sound.queued
  case awaited =>
    rw [completed.scheduledResponses, completed.responseQueue, sound.awaited, List.length_tail]

/-- A response always comes back to its connection and clears the flag of its key. -/
theorem handled (sound : Sound laws engine) {due : Span} (flowLabel : BitVec flowLabelBits)
    (scheduled : due ∈ engine.scheduledResponses) :
    ∃ next response rest account updated,
      engine.handleNextResponse generation due flowLabel = .ok next ∧
      engine.responseQueue = response :: rest ∧
      engine.accounts (generation.keyOfResponse response) = some account ∧
      account.outstandingRueEvent = true ∧
      engine.Completed next (generation.keyOfResponse response)
        (generation.scid (generation.keyOfResponse response)) account updated ∧
      Sound laws next := by
  cases queue : engine.responseQueue with
  | nil =>
    have count := sound.awaited
    rw [queue] at count
    rw [List.eq_nil_of_length_eq_zero count] at scheduled
    exact absurd scheduled List.not_mem_nil
  | cons response rest =>
    have inside : generation.keyOfResponse response ∈ laws.pipeline engine := by
      simp [Laws.pipeline, queue]
    obtain ⟨account, known⟩ := sound.known _ inside
    obtain ⟨connection, owned⟩ := sound.owned _ account known
    obtain ⟨updated, done, consistent⟩ := laws.update_spec flowLabel
      (sound.answered response (by simp [queue])) (sound.consistent _ connection owned)
    have flagged := (sound.flag _ account known).2 inside
    obtain ⟨next, handled, effect⟩ :=
      Engine.handleNextResponse_spec scheduled queue owned done known flagged
    exact ⟨next, response, rest, account, updated, handled, rfl, known, flagged, effect,
      sound.completed queue known consistent effect⟩

/-! ## Notifications -/

/-- An event of a key of the engine, filled by a call and enqueued. -/
structure Filed (laws : Laws generation) (engine next : Engine Key Event Response) (key : Key)
    (account : Account) (event : Event) (number : BitVec 32) : Prop where
  known : engine.accounts key = some account
  idle : account.outstandingRueEvent = false
  enqueued : engine.Enqueued next key event
  key : laws.keyOfEvent event = key
  filled : laws.filled event
  number : (generation.header event).numPacketsAcked = number.setWidth numPacketsAckedBits

theorem filed (sound : Sound laws engine) (narrow : cid.toNat < 2 ^ connectionIdBits)
    (known : engine.accounts (generation.keyOf cid packet.flowLabel) = some account)
    (idle : account.outstandingRueEvent = false)
    (done : Engine.enqueueEvent generation engine (generation.keyOf cid packet.flowLabel) packet
      account call = .ok next) :
    ∃ event, Filed laws engine next (generation.keyOf cid packet.flowLabel) account event
      call.numPacketsAcked := by
  obtain ⟨connection, event, owned, filled, enqueued⟩ := Engine.enqueueEvent_spec idle done
  have consistent := sound.consistent _ connection owned
  rw [laws.scid_keyOf] at consistent
  obtain ⟨key, sane, number⟩ := laws.fill_spec narrow consistent filled
  exact ⟨event, known, idle, enqueued, key, sane, number⟩

theorem of_filed (sound : Sound laws engine) {key : Key} {event : Event} {number : BitVec 32}
    (filed : Filed laws engine next key account event number) : Sound laws next :=
  sound.enqueued filed.known filed.idle filed.enqueued filed.key filed.filled

/-- An ACK or a NACK changes nothing, or files an event that reports what its key has
acknowledged. -/
theorem feedback_cases (sound : Sound laws engine) {call : BitVec 32 → FillCall}
    (numbered : ∀ number, (call number).numPacketsAcked = number)
    (done : Engine.feedbackReceived generation config engine cid packet call = .ok next) :
    next = engine ∨ ∃ account event, Filed laws engine next
      (generation.keyOf cid packet.flowLabel) account event (Engine.numPacketsAcked account) := by
  obtain ⟨_, bits, after⟩ := bind_eq_ok.1 done
  obtain ⟨account, found, rest⟩ := bind_eq_ok.1 after
  have narrow := checkBits_eq_ok.1 bits
  have known := Engine.account_eq_ok.1 found
  by_cases can : engine.canEnqueueEvent config account = true
  · rw [if_pos can] at rest
    obtain ⟨event, filed⟩ := sound.filed narrow known
      (Engine.not_outstanding_of_canEnqueueEvent can) rest
    rw [numbered] at filed
    exact .inr ⟨account, event, filed⟩
  · rw [if_neg can] at rest
    cases rest
    exact .inl rfl

theorem feedback_checked (laws : Laws generation) {call : BitVec 32 → FillCall} :
    Checked (Engine.feedbackReceived generation config engine cid packet call) := by
  refine checked_bind (checkBits_checked _ _) fun _ _ =>
    checked_bind (Engine.account_checked _) fun account _ => ?_
  by_cases can : engine.canEnqueueEvent config account = true
  · rw [if_pos can]
    exact Engine.enqueueEvent_checked laws (Engine.not_outstanding_of_canEnqueueEvent can)
  · rw [if_neg can]
    exact checked_ok _

/-- A timeout clears the count of its key, and may file an event. -/
theorem timeout_cases (sound : Sound laws engine) {retransmitCount : BitVec 8}
    (done : engine.packetTimeoutRetransmitted generation config cid packet retransmitCount =
      .ok next) :
    ∃ account, engine.accounts (generation.keyOf cid packet.flowLabel) = some account ∧
      let cleared := engine.setAccount (generation.keyOf cid packet.flowLabel)
        { account with numAcked := 0 }
      next = cleared ∨ ∃ event, Filed laws cleared next (generation.keyOf cid packet.flowLabel)
        { account with numAcked := 0 } event 0 := by
  unfold Engine.packetTimeoutRetransmitted at done
  by_cases feedback : packet.packetType = .ack ∨ packet.packetType = .nack
  · rw [if_pos feedback] at done
    exact absurd done nofun
  rw [if_neg feedback] at done
  obtain ⟨_, bits, after⟩ := bind_eq_ok.1 done
  obtain ⟨account, found, rest⟩ := bind_eq_ok.1 after
  have known := Engine.account_eq_ok.1 found
  refine ⟨account, known, ?_⟩
  by_cases can : (engine.setAccount (generation.keyOf cid packet.flowLabel)
      { account with numAcked := 0 }).canEnqueueEvent config { account with numAcked := 0 } = true
  · rw [if_pos can] at rest
    obtain ⟨event, filed⟩ := (sound.set_account { account with numAcked := 0 } known rfl).filed
      (checkBits_eq_ok.1 bits) Engine.setAccount_account
      (Engine.not_outstanding_of_canEnqueueEvent can) rest
    exact .inr ⟨event, filed⟩
  · rw [if_neg can] at rest
    cases rest
    exact .inl rfl

theorem timeout_checked (laws : Laws generation) {retransmitCount : BitVec 8} :
    Checked (engine.packetTimeoutRetransmitted generation config cid packet retransmitCount) := by
  unfold Engine.packetTimeoutRetransmitted
  split
  · exact checked_error (by decide) (by decide) (by decide)
  refine checked_bind (checkBits_checked _ _) fun _ _ =>
    checked_bind (Engine.account_checked _) fun account _ => ?_
  by_cases can : (engine.setAccount (generation.keyOf cid packet.flowLabel)
      { account with numAcked := 0 }).canEnqueueEvent config { account with numAcked := 0 } = true
  · rw [if_pos can]
    exact Engine.enqueueEvent_checked laws (Engine.not_outstanding_of_canEnqueueEvent can)
  · rw [if_neg can]
    exact checked_ok _

/-! ## Steps -/

/-- Every action that succeeds keeps the pipeline sound. -/
theorem performed (sound : Sound laws engine) {action : Action Key Response}
    (possible : action.Possible generation engine)
    (done : perform generation config engine action = .ok next) : Sound laws next := by
  cases action with
  | accumulateNumAcked key =>
    obtain ⟨account, found, rfl⟩ := map_eq_ok.1 done
    exact sound.set_account _ (Engine.account_eq_ok.1 found) rfl
  | explicitAckReceived packet eack eackDrop =>
    simp only [perform, Engine.explicitAckReceived] at done
    split at done
    · rcases sound.feedback_cases (fun _ => rfl) done with rfl | ⟨account, event, filed⟩
      · exact sound
      · exact sound.of_filed filed
    · exact absurd done nofun
  | nackReceived packet =>
    simp only [perform, Engine.nackReceived] at done
    split at done
    · rcases sound.feedback_cases (fun _ => rfl) done with rfl | ⟨account, event, filed⟩
      · exact sound
      · exact sound.of_filed filed
    · exact absurd done nofun
  | packetTimeoutRetransmitted cid packet retransmitCount =>
    obtain ⟨account, known, cases⟩ := sound.timeout_cases done
    have cleared := sound.set_account { account with numAcked := 0 } known rfl
    rcases cases with rfl | ⟨event, filed⟩
    · exact cleared
    · exact cleared.of_filed filed
  | packetEarlyRetransmitted cid packet retransmitCount =>
    cases done
    exact sound
  | processNextEvent due response latency =>
    exact sound.processed possible.1 possible.2.2 done
  | handleNextResponse due flowLabel =>
    obtain ⟨after, _, _, _, _, handled, _, _, _, _, kept⟩ := sound.handled flowLabel possible.1
    cases handled.symm.trans done
    exact kept
  | advance time =>
    cases done
    exact sound.rescheduled rfl rfl rfl rfl rfl sound.processing sound.queued

/-- No action stops at a `CHECK` about events and queues. -/
theorem checked (sound : Sound laws engine) {action : Action Key Response}
    (possible : action.Possible generation engine) :
    Checked (perform generation config engine action) := by
  cases action with
  | accumulateNumAcked key => exact checked_map _ (Engine.account_checked key)
  | explicitAckReceived packet eack eackDrop =>
    simp only [perform, Engine.explicitAckReceived]
    split
    · exact feedback_checked laws
    · exact checked_error (by decide) (by decide) (by decide)
  | nackReceived packet =>
    simp only [perform, Engine.nackReceived]
    split
    · exact feedback_checked laws
    · exact checked_error (by decide) (by decide) (by decide)
  | packetTimeoutRetransmitted cid packet retransmitCount => exact timeout_checked laws
  | packetEarlyRetransmitted cid packet retransmitCount => exact checked_ok _
  | processNextEvent due response latency =>
    have pending : engine.queueScheduled = true := sound.pending possible.1
    simp only [perform, Engine.processNextEvent, pending, Bool.true_eq_false, if_false]
    split
    · exact checked_ok _
    · exact checked_map _ (toFalconTimeUnits_checked _ _)
  | handleNextResponse due flowLabel =>
    obtain ⟨after, _, _, _, _, handled, _⟩ := sound.handled flowLabel possible.1
    rw [perform, handled]
    exact checked_ok _
  | advance time => exact checked_ok _

end Sound

/-! ## Tallies -/

/-- What an event reports of a number of acknowledged packets. -/
def reportedCount (count : Nat) : BitVec numPacketsAckedBits :=
  BitVec.ofNat numPacketsAckedBits (saturateHigh numPacketsAckedBits (count % 2 ^ 32))

/-- Every packet acknowledged since the last timeout was taken by one event or still waits, and
the account of the key counts those that wait. -/
structure Tally.Matches (tally : Tally) (account : Account) : Prop where
  split_ : tally.acknowledged = tally.taken.sum + tally.waiting
  counter : account.numAcked = BitVec.ofNat 32 tally.waiting
  reported : tally.reported = tally.taken.map reportedCount

def Tallied (engine : Engine Key Event Response) (tallies : Key → Tally) : Prop :=
  ∀ key account, engine.accounts key = some account → (tallies key).Matches account

theorem Tally.matches_cleared (cleared : account.numAcked = 0) : Tally.Matches {} account :=
  ⟨rfl, cleared, rfl⟩

theorem Tally.Matches.acknowledge {tally : Tally} (matched : tally.Matches account) :
    tally.acknowledge.Matches { account with numAcked := account.numAcked + 1 } := by
  refine ⟨?_, ?_, matched.reported⟩
  · simp only [Tally.acknowledge, matched.split_]
    omega
  · simp only [Tally.acknowledge, matched.counter]
    rw [BitVec.ofNat_add]
    rfl

/-- The ten bits of a report hold the saturated count. -/
theorem Tally.Matches.report {tally : Tally} {time : Span} (matched : tally.Matches account) :
    (tally.report ((Engine.numPacketsAcked account).setWidth numPacketsAckedBits)).Matches
      ⟨some time, 0, true⟩ := by
  have count : account.numAcked.toNat = tally.waiting % 2 ^ 32 := by
    rw [matched.counter, BitVec.toNat_ofNat]
  have number : (Engine.numPacketsAcked account).setWidth numPacketsAckedBits =
      reportedCount tally.waiting := by
    rw [Engine.numPacketsAcked, reportedCount, count]
    exact BitVec.setWidth_ofNat_of_le (by decide) _
  refine ⟨?_, rfl, ?_⟩
  · simp only [Tally.report, matched.split_, List.sum_append, List.sum_singleton]
    omega
  · simp only [Tally.report, matched.reported, number, List.map_append, List.map_singleton]

namespace Tallied
variable [DecidableEq Key] {laws : Laws generation} {tallies : Key → Tally}

/-- One key's account and tally change together. -/
theorem update (tallied : Tallied engine tallies) {key : Key} {tally : Tally}
    (accounts : next.accounts = Function.update engine.accounts key (some account))
    (matched : tally.Matches account) : Tallied next (Function.update tallies key tally) := by
  intro other current found
  rw [accounts] at found
  by_cases equal : other = key
  · subst equal
    rw [Function.update_self, Option.some.injEq] at found
    rw [Function.update_self, ← found]
    exact matched
  · rw [Function.update_of_ne equal] at found ⊢
    exact tallied other current found

/-- An account changes, but not what it counts. -/
theorem keep (tallied : Tallied engine tallies) {key : Key} {changed : Account}
    (known : engine.accounts key = some account)
    (accounts : next.accounts = Function.update engine.accounts key (some changed))
    (same : changed.numAcked = account.numAcked) : Tallied next tallies := by
  have matched := tallied key account known
  have kept := tallied.update accounts ⟨matched.split_, same.trans matched.counter,
    matched.reported⟩
  rwa [Function.update_eq_self] at kept

theorem filed (tallied : Tallied engine tallies) {key : Key} {event : Event}
    (filed : Sound.Filed laws engine next key account event (Engine.numPacketsAcked account)) :
    Tallied next (reportEvent generation engine next key tallies) := by
  have new : next.eventQueue.drop engine.eventQueue.length = [event] := by
    rw [filed.enqueued.eventQueue, List.drop_left]
  rw [reportEvent, new]
  refine tallied.update filed.enqueued.accounts ?_
  rw [filed.number]
  exact (tallied key account filed.known).report

theorem ignored (tallied : Tallied engine tallies) (key : Key) :
    Tallied engine (reportEvent generation engine engine key tallies) := by
  rw [reportEvent, List.drop_length]
  exact tallied

/-- Every action that succeeds keeps the tallies. -/
theorem performed (sound : Sound laws engine) (tallied : Tallied engine tallies)
    {action : Action Key Response} (possible : action.Possible generation engine)
    (done : perform generation config engine action = .ok next) :
    Tallied next (action.observe generation engine next tallies) := by
  cases action with
  | accumulateNumAcked key =>
    obtain ⟨account, found, rfl⟩ := map_eq_ok.1 done
    exact tallied.update rfl (tallied key account (Engine.account_eq_ok.1 found)).acknowledge
  | explicitAckReceived packet eack eackDrop =>
    simp only [perform, Engine.explicitAckReceived] at done
    split at done
    · rcases sound.feedback_cases (fun _ => rfl) done with rfl | ⟨account, event, filed⟩
      · exact tallied.ignored _
      · exact tallied.filed filed
    · exact absurd done nofun
  | nackReceived packet =>
    simp only [perform, Engine.nackReceived] at done
    split at done
    · rcases sound.feedback_cases (fun _ => rfl) done with rfl | ⟨account, event, filed⟩
      · exact tallied.ignored _
      · exact tallied.filed filed
    · exact absurd done nofun
  | packetTimeoutRetransmitted cid packet retransmitCount =>
    obtain ⟨account, known, cases⟩ := sound.timeout_cases done
    have cleared : Tallied
        (engine.setAccount (generation.keyOf cid packet.flowLabel) { account with numAcked := 0 })
        (Function.update tallies (generation.keyOf cid packet.flowLabel) {}) :=
      tallied.update rfl (Tally.matches_cleared rfl)
    rcases cases with rfl | ⟨event, filed⟩
    · exact cleared
    · have again := cleared.update filed.enqueued.accounts (Tally.matches_cleared rfl)
      rwa [Function.update_idem] at again
  | packetEarlyRetransmitted cid packet retransmitCount =>
    cases done
    exact tallied
  | processNextEvent due response latency =>
    have accounts : next.accounts = engine.accounts := Engine.processNextEvent_accounts done
    intro key account found
    rw [accounts] at found
    exact tallied key account found
  | handleNextResponse due flowLabel =>
    obtain ⟨after, _, _, account, _, handled, _, known, _, completed, _⟩ :=
      sound.handled flowLabel possible.1
    cases handled.symm.trans done
    exact tallied.keep known completed.accounts rfl
  | advance time =>
    cases done
    exact tallied

end Tallied

/-! ## Runs -/

/-- An engine before its first notification: every key is fresh and has a connection. -/
structure Initial (laws : Laws generation) (state : State Key Event Response) : Prop where
  accounts : ∀ key account, state.engine.accounts key = some account → account = {}
  owned : ∀ key account, state.engine.accounts key = some account →
    ∃ connection, state.engine.connections (generation.scid key) = some connection
  consistent : ∀ cid connection, state.engine.connections cid = some connection →
    laws.consistent cid connection.congestionControlMetadata
  eventQueue : state.engine.eventQueue = []
  responseQueue : state.engine.responseQueue = []
  queueScheduled : state.engine.queueScheduled = false
  scheduledEvents : state.engine.scheduledEvents = []
  scheduledResponses : state.engine.scheduledResponses = []
  tallies : state.tallies = fun _ => {}

theorem Initial.sound {laws : Laws generation} {state : State Key Event Response}
    (initial : Initial laws state) :
    Sound laws state.engine ∧ Tallied state.engine state.tallies := by
  have pipeline : laws.pipeline state.engine = [] := by
    rw [Laws.pipeline, initial.eventQueue, initial.responseQueue]
    rfl
  refine ⟨?_, ?_⟩
  · constructor
    case onePerKey => rw [pipeline]; exact List.nodup_nil
    case flag =>
      intro key account found
      rw [initial.accounts key account found, pipeline]
      simp
    case known => rw [pipeline]; exact fun key member => absurd member List.not_mem_nil
    case owned => exact initial.owned
    case consistent => exact initial.consistent
    case filled => rw [initial.eventQueue]; exact fun event member => absurd member List.not_mem_nil
    case answered =>
      rw [initial.responseQueue]
      exact fun response member => absurd member List.not_mem_nil
    case processing => rw [initial.scheduledEvents, initial.queueScheduled]; rfl
    case queued => exact fun some => absurd initial.eventQueue some
    case awaited => rw [initial.scheduledResponses, initial.responseQueue]; rfl
  · intro key account found
    rw [initial.accounts key account found, initial.tallies]
    exact Tally.matches_cleared rfl

/-- Every reachable engine has a sound pipeline and matching tallies. -/
theorem reachable_sound [DecidableEq Key] {laws : Laws generation}
    {state : State Key Event Response}
    (reachable : Runs.Reachable (Initial laws) (Step generation config) state) :
    Sound laws state.engine ∧ Tallied state.engine state.tallies := by
  apply Runs.invariant_of_reachable _ _ reachable
  · intro first initial
    exact initial.sound
  · rintro before after ⟨sound, tallied⟩ ⟨action, possible, done, observed⟩
    rw [observed]
    exact ⟨sound.performed possible done, tallied.performed sound possible done⟩

/-- What the engine keeps of its pipeline and of acknowledged packets. -/
structure RatesSound [DecidableEq Key] (laws : Laws generation) (config : RueConfig)
    (state : State Key Event Response) : Prop where
  onePerKey : (laws.pipeline state.engine).Nodup
  flag : ∀ key account, state.engine.accounts key = some account →
    (account.outstandingRueEvent = true ↔ key ∈ laws.pipeline state.engine)
  oneProcess : state.engine.scheduledEvents.length ≤ 1
  processing : state.engine.eventQueue ≠ [] → state.engine.scheduledEvents.length = 1
  checked : ∀ action : Action Key Response, action.Possible generation state.engine →
    Checked (perform generation config state.engine action)
  responds : ∀ due flowLabel, due ∈ state.engine.scheduledResponses →
    ∃ next, state.engine.handleNextResponse generation due flowLabel = .ok next
  tallied : Tallied state.engine state.tallies

theorem rates_sound [DecidableEq Key] {laws : Laws generation} {state : State Key Event Response}
    (reachable : Runs.Reachable (Initial laws) (Step generation config) state) :
    RatesSound laws config state := by
  obtain ⟨sound, tallied⟩ := reachable_sound reachable
  constructor
  case onePerKey => exact sound.onePerKey
  case flag => exact sound.flag
  case oneProcess =>
    rw [sound.processing]
    split <;> decide
  case processing =>
    intro waiting
    rw [sound.processing, if_pos (sound.queued waiting)]
  case checked => exact fun action possible => sound.checked possible
  case responds =>
    intro due flowLabel scheduled
    obtain ⟨next, _, _, _, _, handled, _⟩ := sound.handled flowLabel scheduled
    exact ⟨next, handled⟩
  case tallied => exact tallied

end

/-- In every run of either generation, each key has at most one event or response in the pipeline
and its flag says so, `ProcessNextEvent` is scheduled at most once and is while an event waits, no
check about them fails, and every acknowledged packet is taken by one event, which reports the
number it took saturated to ten bits. -/
theorem rate_updates_sound :
    (∀ (units : TimeUnits) (config : RueConfig) (state : State (BitVec 32) EventDna ResponseDna),
      Runs.Reachable (Initial (gen1Laws units)) (Step (gen1 units) config) state →
        RatesSound (gen1Laws units) config state) ∧
    ∀ (units : TimeUnits) (numFlows : BitVec 32 → Nat)
      (flows : ∀ cid, numFlows cid = 1 ∨ numFlows cid = 4) (config : RueConfig)
      (state : State Gen2RueKey EventBna ResponseBna),
      Runs.Reachable (Initial (gen2Laws units flows)) (Step (gen2 units numFlows) config) state →
        RatesSound (gen2Laws units flows) config state :=
  ⟨fun _ _ _ reachable => rates_sound reachable,
    fun _ _ _ _ _ reachable => rates_sound reachable⟩

/-! ## A run with many acknowledgements -/

/-- Events are enqueued while fewer than eight wait. -/
def shortQueue : RueConfig := ⟨8, 8, 8, 8, 0, 0, 0⟩

/-- A connection of the first generation, some of whose packets were acknowledged. -/
def acknowledgedState (count : Nat) : State (BitVec 32) EventDna ResponseDna where
  engine := {
    connections := Function.update (fun _ => none) 1 (some freshConnection)
    accounts := Function.update (fun _ => none) 1
      (some { numAcked := BitVec.ofNat 32 count }) }
  tallies := Function.update (fun _ => {}) 1 { acknowledged := count, waiting := count }

theorem acknowledgedState_account {count : Nat} {key : BitVec 32}
    (found : (acknowledgedState count).engine.accounts key = some account) :
    key = 1 ∧ account = { numAcked := BitVec.ofNat 32 count } := by
  by_cases equal : key = 1
  · subst equal
    exact ⟨rfl, (Option.some.inj found).symm⟩
  · simp only [acknowledgedState, Function.update_of_ne equal, reduceCtorEq] at found

theorem acknowledgedState_initial :
    Initial (gen1Laws defaultTimeUnits) (acknowledgedState 0) := by
  constructor
  case accounts => exact fun key account found => (acknowledgedState_account found).2
  case owned =>
    intro key account found
    rw [(acknowledgedState_account found).1]
    exact ⟨freshConnection, rfl⟩
  case consistent => exact fun _ _ _ => trivial
  case tallies => exact Function.update_eq_self 1 _
  all_goals rfl

theorem acknowledgedState_reachable (count : Nat) :
    Runs.Reachable (Initial (gen1Laws defaultTimeUnits))
      (Step (gen1 defaultTimeUnits) shortQueue) (acknowledgedState count) := by
  induction count with
  | zero => exact Runs.reachable_initial acknowledgedState_initial
  | succ count ih =>
    refine Runs.reachable_step ih ⟨.accumulateNumAcked 1, trivial, ?_, ?_⟩
    · have next : BitVec.ofNat 32 count + 1 = BitVec.ofNat 32 (count + 1) :=
        (BitVec.ofNat_add count 1).symm
      simp only [perform, Engine.accumulateNumAcked, acknowledgedState, Engine.account,
        Function.update_self, Except.map, Engine.setAccount, Function.update_idem, next]
    · simp only [acknowledgedState, Action.observe, Function.update_idem, Function.update_self]
      rfl

/-- An ACK for the connection. -/
def anAck : Packet where
  packetType := .ack
  flowLabel := 0
  sentTimestamp := 0
  receivedTimestamp := 0
  ack := ⟨1, 0, 0, 0, 0, 0⟩
  nack := ⟨0, 0, 0, 0, 0, 0⟩
  nackCode := .notANack

/-- After 1024 acknowledgements an ACK's event takes all of them and reports 1023. -/
theorem acknowledgement_lost :
    ∃ state, Runs.Reachable (Initial (gen1Laws defaultTimeUnits))
      (Step (gen1 defaultTimeUnits) shortQueue) state ∧
        state.tallies 1 = ⟨1024, [1024], [1023], 0⟩ := by
  have done : (perform (gen1 defaultTimeUnits) shortQueue (acknowledgedState 1024).engine
      (.explicitAckReceived anAck false false)).toOption.any (fun next =>
        Action.observe (gen1 defaultTimeUnits) (acknowledgedState 1024).engine next
          (acknowledgedState 1024).tallies (.explicitAckReceived anAck false false) 1 =
            ⟨1024, [1024], [1023], 0⟩) = true := by
    decide +kernel
  obtain ⟨next, performed, tally⟩ := (Option.any_eq_true _ _).1 done
  refine ⟨⟨next, _⟩, Runs.reachable_step (acknowledgedState_reachable 1024)
    ⟨.explicitAckReceived anAck false false, trivial, ?_, rfl⟩, of_decide_eq_true tally⟩
  exact toOption_eq_some.1 performed

/-- Not every acknowledged packet is reported. -/
theorem not_all_reported :
    ¬ ∀ (units : TimeUnits) (config : RueConfig) (state : State (BitVec 32) EventDna ResponseDna),
      Runs.Reachable (Initial (gen1Laws units)) (Step (gen1 units) config) state →
        ∀ key, (state.tallies key).acknowledged =
          ((state.tallies key).reported.map BitVec.toNat).sum + (state.tallies key).waiting := by
  intro all
  obtain ⟨state, reachable, tally⟩ := acknowledgement_lost
  have sum := all defaultTimeUnits shortQueue state reachable 1
  rw [tally] at sum
  exact absurd sum (by decide)

/-- A connection of the second generation with four flows, before its first notification. -/
def fourFlowState : State Gen2RueKey EventBna ResponseBna where
  engine := {
    connections := Function.update (fun _ => none) 1 (some freshConnection)
    accounts := fun key => if key.scid = 1 then some {} else none }
  tallies := fun _ => {}

theorem four_flows (cid : BitVec 32) : (fun _ : BitVec 32 => 4) cid = 1 ∨ 4 = 4 := .inr rfl

theorem fourFlowState_initial :
    Initial (gen2Laws defaultTimeUnits four_flows) fourFlowState := by
  constructor
  case accounts =>
    intro key account found
    simp only [fourFlowState, Option.ite_none_right_eq_some, Option.some.injEq] at found
    exact found.2.symm
  case owned =>
    intro key account found
    simp only [fourFlowState, Option.ite_none_right_eq_some, Option.some.injEq] at found
    have cid : (gen2 defaultTimeUnits fun _ => 4).scid key = 1 := found.1
    exact ⟨freshConnection, by rw [cid]; rfl⟩
  case consistent =>
    intro cid connection found
    by_cases equal : cid = 1
    · subst equal
      rw [← Option.some.inj found]
      exact ⟨rfl, rfl⟩
    · simp only [fourFlowState, Function.update_of_ne equal, reduceCtorEq] at found
  all_goals rfl

/-- Both generations have runs: a connection whose first 1024 packets were acknowledged, and one
with four flows before its first notification. -/
theorem rate_updates_sound_runs :
    RatesSound (gen1Laws defaultTimeUnits) shortQueue (acknowledgedState 1024) ∧
      RatesSound (gen2Laws defaultTimeUnits four_flows) shortQueue fourFlowState :=
  ⟨rate_updates_sound.1 _ _ _ (acknowledgedState_reachable 1024),
    rate_updates_sound.2 _ _ _ _ _ (Runs.reachable_initial fourFlowState_initial)⟩

end Isekai.RateUpdate
