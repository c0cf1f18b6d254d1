import Isekai.SwiftPlbProofs
import Mathlib.Data.Nat.Size

/-! The flow of an event of the second generation. It stands in the last bits of a flow label,
where `EncodeFlowIdBitsInFlowLabel` and `RandomFlowLabel` of `rue::Swift` write it and where
`GetFlowIdFromFlowLabel` and `GetFlowIdFromEvent` read it. They agree for the labels of a
connection and for those of packets that left before a reroute, so that a response clears the flag
that was set for its event. -/

namespace Isekai.RateUpdate

/-! ## Initial labels -/

/-- `EncodeFlowIdBitsInFlowLabel`. -/
def encodeFlowIdBitsInFlowLabel (flowLabel : BitVec 32) (flowId : BitVec 8) (numFlows : Nat) :
    Except Fatal (BitVec 32) :=
  if 0 < numFlows ∧ flowId.toNat < numFlows then
    let flowIdFieldWidth := (numFlows - 1).size
    let mask := (1#32 <<< flowIdFieldWidth) - 1#32
    .ok (flowLabel &&& ~~~mask ||| flowId.setWidth 32)
  else .error .flowIndex

/-- `InitializeGenSpecificMetadata`, for what each call of `GenerateRandomFlowLabel` returns. What
is kept for each flow is reset to an empty `Account`. -/
def initializeGenSpecificMetadata (generateRandomFlowLabel : Nat → BitVec flowLabelBits)
    (metadata : CongestionControlMetadata) : Except Fatal CongestionControlMetadata :=
  let numFlows := metadata.gen2FlowLabels.length
  if numFlows = metadata.gen2FlowWeights.length then
    ((List.range numFlows).mapM fun index => encodeFlowIdBitsInFlowLabel
      ((generateRandomFlowLabel index).setWidth 32) (BitVec.ofNat 8 index) numFlows).map
        fun labels => { metadata with
          gen2PlbState := 0
          gen2FlowLabels := labels
          gen2FlowWeights := List.replicate numFlows 1 }
  else .error .flowWeights

/-- A label of a connection: it has twenty bits, and decodes to a flow. -/
def Decodes (numFlows flow : Nat) (label : BitVec 32) : Prop :=
  ∃ flowLabel : BitVec flowLabelBits, label = flowLabel.setWidth 32 ∧
    (getFlowIdFromFlowLabel flowLabel numFlows).toNat = flow

/-- Each label decodes to its place in the vector. -/
def AllDecode (numFlows : Nat) (labels : List (BitVec 32)) : Prop :=
  ∀ flow label, labels[flow]? = some label → Decodes numFlows flow label

variable {units : TimeUnits} {config : RueConfig} {numFlows : Nat} {labels : List (BitVec 32)}
  {response : ResponseBna} {metadata : CongestionControlMetadata}

/-- The last two bits of a label of twenty are enough for one flow and for four. -/
theorem decodes_of_bits (flows : numFlows = 1 ∨ numFlows = 4) {flow : Nat}
    (inside : flow < numFlows) {label : BitVec 32} (small : label.toNat < 2 ^ flowLabelBits)
    (bits : numFlows = 4 → label.setWidth flowIdBits = BitVec.ofNat flowIdBits flow) :
    Decodes numFlows flow label := by
  refine ⟨label.setWidth flowLabelBits, (setWidth_eq_iff (by decide) small).1 rfl, ?_⟩
  rw [getFlowIdFromFlowLabel, BitVec.toNat_ofNat, BitVec.toNat_setWidth, Nat.mod_eq_of_lt small]
  rcases flows with rfl | rfl
  · omega
  · have low : label.toNat % 4 = flow % 4 := by
      simpa [flowIdBits] using congrArg BitVec.toNat (bits rfl)
    omega

/-- A label that was encoded decodes to its flow, whatever the random label was. -/
theorem encode_decodes (flows : numFlows = 1 ∨ numFlows = 4) {flow : Nat}
    (inside : flow < numFlows) {random : BitVec flowLabelBits} {label : BitVec 32}
    (encoded : encodeFlowIdBitsInFlowLabel (random.setWidth 32) (BitVec.ofNat 8 flow) numFlows =
      .ok label) : Decodes numFlows flow label := by
  unfold encodeFlowIdBitsInFlowLabel at encoded
  split at encoded
  · cases encoded
    refine decodes_of_bits flows inside ?_ fun four => ?_
    · rw [BitVec.toNat_or, BitVec.toNat_and]
      refine Nat.or_lt_two_pow (Nat.and_le_left.trans_lt ?_) ?_
      · rw [toNat_widened (by decide)]
        exact random.isLt
      · rw [toNat_widened (by decide), BitVec.toNat_ofNat, flowLabelBits]
        omega
    · subst four
      have emptied : (~~~(1#32 <<< Nat.size (4 - 1) - 1#32)).setWidth flowIdBits = 0#2 := by
        decide
      rw [BitVec.setWidth_or, BitVec.setWidth_and, emptied, BitVec.and_zero, BitVec.zero_or,
        BitVec.setWidth_setWidth_of_le _ (by decide), BitVec.setWidth_ofNat_of_le (by decide)]
  · cases encoded

/-- What a loop over a list computes at each place. -/
theorem mapM_getElem {A B : Type} {compute : A → Except Fatal B} {inputs : List A}
    {results : List B} (done : inputs.mapM compute = .ok results) {place : Nat} {result : B}
    (found : results[place]? = some result) :
    ∃ input, inputs[place]? = some input ∧ compute input = .ok result := by
  induction inputs generalizing results place with
  | nil =>
    cases done
    cases found
  | cons input inputs ih =>
    rw [List.mapM_cons] at done
    obtain ⟨first, computed, after⟩ := bind_eq_ok.1 done
    obtain ⟨rest, looped, built⟩ := bind_eq_ok.1 after
    cases built
    cases place with
    | zero =>
      cases found
      exact ⟨input, rfl, computed⟩
    | succ place => exact ih looped found

/-- The labels of a new connection decode to their places. -/
theorem initialize_decodes {random : Nat → BitVec flowLabelBits}
    {metadata ccmeta : CongestionControlMetadata}
    (flows : metadata.gen2FlowLabels.length = 1 ∨ metadata.gen2FlowLabels.length = 4)
    (done : initializeGenSpecificMetadata random metadata = .ok ccmeta) :
    AllDecode metadata.gen2FlowLabels.length ccmeta.gen2FlowLabels := by
  unfold initializeGenSpecificMetadata at done
  dsimp only at done
  split at done
  · obtain ⟨labels, looped, rfl⟩ := map_eq_ok.1 done
    intro flow label found
    obtain ⟨place, ranged, encoded⟩ := mapM_getElem looped found
    obtain ⟨inside, rfl⟩ := List.getElem?_eq_some_iff.1 ranged
    rw [List.length_range] at inside
    rw [List.getElem_range] at encoded
    exact encode_decodes flows inside encoded
  · cases done

/-! ## Labels of responses -/

/-- A new label of a flow has the flow in its last bits. -/
def FlowUpdate.Names (update : FlowUpdate) (flow : Nat) : Prop :=
  update.valid = true → update.label.setWidth flowIdBits = BitVec.ofNat flowIdBits flow

/-- The new labels of a response. -/
structure ResponseBna.Named (response : ResponseBna) : Prop where
  flow1 : response.flow1.Names 0
  flow2 : response.flow2.Names 1
  flow3 : response.flow3.Names 2
  flow4 : response.flow4.Names 3

theorem update_flow_label_decodes {flow : Nat} (flows : numFlows = 1 ∨ numFlows = 4)
    (inside : flow < numFlows) {update : FlowUpdate} (named : update.Names flow)
    {next : List (BitVec 32)} (decoded : AllDecode numFlows labels)
    (done : updateFlowLabel labels flow update = .ok next) : AllDecode numFlows next := by
  unfold updateFlowLabel at done
  split at done
  case isTrue valid =>
    obtain ⟨_, rfl⟩ := assign_eq_ok.1 done
    intro place label found
    rcases eq_or_ne flow place with rfl | elsewhere
    · obtain ⟨_, rfl⟩ := List.getElem?_eq_some_iff.1 found
      rw [List.getElem_set_self]
      refine decodes_of_bits flows inside ?_ fun _ => ?_
      · rw [toNat_widened (by decide)]
        exact update.label.isLt
      · rw [BitVec.setWidth_setWidth_of_le _ (by decide), named valid]
    · rw [List.getElem?_set_ne elsewhere] at found
      exact decoded place label found
  case isFalse =>
    cases done
    exact decoded

/-- A response keeps the labels of a connection decoding to their places. -/
theorem update_flows_decodes (flows : numFlows = 1 ∨ numFlows = 4) (named : response.Named)
    (length : metadata.gen2FlowLabels.length = numFlows)
    (decoded : AllDecode numFlows metadata.gen2FlowLabels)
    {after : List (BitVec 32) × List (BitVec 8)}
    (done : updateFlows metadata response = .ok after) : AllDecode numFlows after.1 := by
  unfold updateFlows at done
  split at done
  case isTrue =>
    obtain ⟨next, updated, rfl⟩ := map_eq_ok.1 done
    exact update_flow_label_decodes flows (by omega) named.flow1 decoded updated
  case isFalse several =>
    have four : numFlows = 4 := by omega
    obtain ⟨next, updated, weighed⟩ := bind_eq_ok.1 done
    split at weighed
    · cases weighed
    obtain ⟨weights, _, rfl⟩ := map_eq_ok.1 weighed
    simp only [updateFlowLabels, bind_eq_ok] at updated
    obtain ⟨first, one, second, two, third, three, last⟩ := updated
    have decoded := update_flow_label_decodes flows (by omega) named.flow1 decoded one
    have decoded := update_flow_label_decodes flows (by omega) named.flow2 decoded two
    have decoded := update_flow_label_decodes flows (by omega) named.flow3 decoded three
    exact update_flow_label_decodes flows (by omega) named.flow4 decoded last

/-! ## Answers of the algorithm -/

/-- What `rue::Swift` takes from an event for the response, and the labels that it puts there. -/
structure SwiftResponse.Reflects (answer : SwiftResponse) (event : SwiftEvent) : Prop where
  connectionId : answer.connectionId = event.connectionId
  flowId : answer.flowId = event.flowId
  named : ∀ flow : Fin 4, (answer.flows flow).Names flow
  weight : event.multipathEnable = true → (answer.flows 0).weight ≠ 0

namespace Swift
variable (swift : Swift)

/-- What the algorithm may answer to an event, whatever it keeps of the connection and whenever
it is called. -/
def Answers (event : EventBna) (response : ResponseBna) : Prop :=
  ∃ state now label answer next,
    swift.process event.swift state now label = .ok (answer, next) ∧ answer.bna = response

variable {swift} {event : SwiftEvent} {state next : RueConnectionState} {answer : SwiftResponse}
  {now : BitVec 32} {label : BitVec (flowLabelBits - flowIdBits)}

theorem update_flow_labels_names (reroute : Bool) (flowId : BitVec flowIdBits)
    (labels : Fin 4 → BitVec flowLabelBits) (weight : BitVec 4) (flow : Fin 4) :
    FlowUpdate.Names ⟨(swift.updateFlowLabels reroute label flowId labels flow).1,
      (swift.updateFlowLabels reroute label flowId labels flow).2, weight⟩ flow := by
  unfold FlowUpdate.Names updateFlowLabels
  split
  case isTrue rerouted =>
    obtain ⟨-, -, rfl⟩ := rerouted
    intro _
    have same : BitVec.ofNat flowIdBits flowId.toNat = flowId := by
      rw [BitVec.ofNat_toNat, BitVec.setWidth_eq]
    exact BitVec.setWidth_append_eq_right.trans same.symm
  case isFalse => exact fun valid => absurd valid Bool.false_ne_true

theorem flow_weight_ne_zero (flow : Fin 4) : swift.flowWeight state flow ≠ 0 := by
  intro zero
  have value : max 1 (saturateHigh 4 _) % 2 ^ 4 = 0 := congrArg BitVec.toNat zero
  unfold saturateHigh at value
  split at value <;> omega

/-- The answer to any event is for its connection and its flow, and gives a new label to no other
flow. -/
theorem process_reflects (done : swift.process event state now label = .ok (answer, next)) :
    answer.Reflects event := by
  unfold process at done
  split at done
  case h_1 single _ =>
    obtain ⟨answer, made, built⟩ := map_eq_ok.1 done
    cases built
    simp only [processRetransmit, bind_eq_ok] at made
    obtain ⟨nicGap, -, fabricGap, -, timeout, -, made⟩ := made
    cases made
    exact ⟨rfl, rfl, fun _ valid => absurd valid Bool.false_ne_true,
      fun several => absurd (single.symm.trans several) Bool.false_ne_true⟩
  case h_2 single _ =>
    obtain ⟨answer, made, built⟩ := map_eq_ok.1 done
    cases built
    simp only [processAckNack, bind_eq_ok] at made
    obtain ⟨targetDelay, -, fabricGap, -, nicGap, -, timeout, -, made⟩ := made
    cases made
    exact ⟨rfl, rfl, update_flow_labels_names _ _ _ _,
      fun several => absurd (single.symm.trans several) Bool.false_ne_true⟩
  case h_3 =>
    simp only [processRetransmitMultipath, bind_eq_ok] at done
    obtain ⟨fabricGap, -, nicGap, -, timeout, -, made⟩ := done
    cases made
    exact ⟨rfl, rfl, fun _ valid => absurd valid Bool.false_ne_true,
      fun _ => flow_weight_ne_zero 0⟩
  case h_4 =>
    simp only [processAckNackMultipath, bind_eq_ok] at done
    obtain ⟨targetDelay, -, fabricGap, -, nicGap, -, timeout, -, made⟩ := done
    cases made
    exact ⟨rfl, rfl, fun flow => update_flow_labels_names _ _ _ _ flow,
      fun _ => flow_weight_ne_zero 0⟩

end Swift

/-- The second generation with the answers of `rue::Swift`. -/
def gen2Swift (swift : Swift) (units : TimeUnits) (numFlows : BitVec 32 → Nat) :
    Generation Gen2RueKey EventBna ResponseBna :=
  { gen2 units numFlows with answers := swift.Answers }

/-- The answers are those that the second generation counts on. -/
theorem answers_of_swift {swift : Swift} {numFlows : BitVec 32 → Nat} {event : EventBna}
    {response : ResponseBna} (answered : swift.Answers event response) :
    (gen2 units numFlows).answers event response ∧ response.Named := by
  obtain ⟨state, now, label, answer, next, done, rfl⟩ := answered
  have reflects := Swift.process_reflects done
  refine ⟨⟨reflects.connectionId, reflects.flowId, fun several none => ?_⟩,
    ⟨reflects.named 0, reflects.named 1, reflects.named 2, reflects.named 3⟩⟩
  have weight : (answer.flows 0).weight.toNat = 0 := by
    simp only [ResponseBna.weights, SwiftResponse.bna] at none
    omega
  exact reflects.weight several (BitVec.eq_of_toNat_eq weight)

/-- What is known of connections and responses when the algorithm is `rue::Swift`. -/
def gen2SwiftLaws (swift : Swift) (units : TimeUnits) {numFlows : BitVec 32 → Nat}
    (flows : ∀ cid, numFlows cid = 1 ∨ numFlows cid = 4) :
    Laws (gen2Swift swift units numFlows) where
  keyOfEvent := (gen2Laws units flows).keyOfEvent
  consistent cid ccmeta := (gen2Laws units flows).consistent cid ccmeta ∧
    AllDecode (numFlows cid) ccmeta.gen2FlowLabels
  filled := (gen2Laws units flows).filled
  answered response := (gen2Laws units flows).answered response ∧ response.Named
  scid_keyOf := (gen2Laws units flows).scid_keyOf
  fill_spec narrow consistent done := (gen2Laws units flows).fill_spec narrow consistent.1 done
  fill_checked := (gen2Laws units flows).fill_checked
  answer_spec filled answer := by
    obtain ⟨answer, named⟩ := answers_of_swift answer
    obtain ⟨key, answered⟩ := (gen2Laws units flows).answer_spec filled answer
    exact ⟨key, answered, named⟩
  update_spec flowLabel connection response answered consistent := by
    obtain ⟨updated, done, lengths⟩ :=
      (gen2Laws units flows).update_spec flowLabel answered.1 consistent.1
    obtain ⟨after, placed, built⟩ := bind_eq_ok.1 done
    refine ⟨updated, done, lengths, ?_⟩
    cases built
    exact update_flows_decodes (flows _) answered.2 consistent.1.1 consistent.2 placed

/-! ## Flags -/

section
variable {Key Event Response : Type} [DecidableEq Key]

/-- An engine and the keys whose flags were set for the events that no response was handled for
yet, oldest first. -/
structure Flagged (Key Event Response : Type) where
  engine : Engine Key Event Response
  keys : List Key

/-- The keys after a notification that sets the flag of a key if it enqueues an event. -/
def flagEvent (before after : Engine Key Event Response) (key : Key) (keys : List Key) :
    List Key :=
  if before.eventQueue.length < after.eventQueue.length then keys ++ [key] else keys

/-- The keys after an action. Events are processed and responses handled in their order, so that
a response that is handled belongs to the oldest event. -/
def Action.flag (generation : Generation Key Event Response)
    (before after : Engine Key Event Response) (keys : List Key) : Action Key Response → List Key
  | explicitAckReceived packet _ _ =>
    flagEvent before after (generation.keyOf packet.ack.destCid packet.flowLabel) keys
  | nackReceived packet =>
    flagEvent before after (generation.keyOf packet.nack.destCid packet.flowLabel) keys
  | packetTimeoutRetransmitted cid packet _ =>
    flagEvent before after (generation.keyOf cid packet.flowLabel) keys
  | handleNextResponse _ _ => keys.tail
  | _ => keys

/-- An action and the flags that it sets and clears. -/
def Flagged.Step (generation : Generation Key Event Response) (config : RueConfig)
    (state next : Flagged Key Event Response) : Prop :=
  ∃ action : Action Key Response, action.Possible generation state.engine ∧
    perform generation config state.engine action = .ok next.engine ∧
    next.keys = action.flag generation state.engine next.engine state.keys

variable {generation : Generation Key Event Response} {laws : Laws generation}
  {engine next : Engine Key Event Response} {keys : List Key}

/-- The keys are those of the responses and of the events that wait. -/
def Matched (laws : Laws generation) (engine : Engine Key Event Response) (keys : List Key) :
    Prop :=
  keys = engine.responseQueue.map generation.keyOfResponse ++
    engine.eventQueue.map laws.keyOfEvent

namespace Matched

omit [DecidableEq Key] in
/-- A notification that enqueues nothing sets no flag. -/
theorem ignored (matched : Matched laws engine keys) (key : Key)
    (events : next.eventQueue = engine.eventQueue)
    (responses : next.responseQueue = engine.responseQueue) :
    Matched laws next (flagEvent engine next key keys) := by
  rw [flagEvent, events, if_neg (lt_irrefl _), Matched, events, responses]
  exact matched

/-- An event that is enqueued has the key that it was enqueued under. -/
theorem filed (matched : Matched laws engine keys) {before : Engine Key Event Response} {key : Key}
    {account : Account} {event : Event} {number : BitVec 32}
    (filed : Sound.Filed laws before next key account event number)
    (events : before.eventQueue = engine.eventQueue)
    (responses : before.responseQueue = engine.responseQueue) :
    Matched laws next (flagEvent engine next key keys) := by
  have queue := filed.enqueued.eventQueue
  rw [events] at queue
  rw [flagEvent, queue, List.length_append, if_pos (by simp), Matched, queue,
    filed.enqueued.responseQueue, responses, List.map_append, List.map_singleton, filed.key,
    ← List.append_assoc, ← matched]

/-- Every action keeps the keys with their events and responses. -/
theorem performed (sound : Sound laws engine) (matched : Matched laws engine keys)
    {action : Action Key Response} (possible : action.Possible generation engine)
    (done : perform generation config engine action = .ok next) :
    Matched laws next (action.flag generation engine next keys) := by
  cases action with
  | accumulateNumAcked key =>
    obtain ⟨account, _, rfl⟩ := map_eq_ok.1 done
    exact matched
  | explicitAckReceived packet eack eackDrop =>
    simp only [perform, Engine.explicitAckReceived] at done
    split at done
    · rcases sound.feedback_cases (fun _ => rfl) done with rfl | ⟨account, event, filed⟩
      · exact matched.ignored _ rfl rfl
      · exact matched.filed filed rfl rfl
    · cases done
  | nackReceived packet =>
    simp only [perform, Engine.nackReceived] at done
    split at done
    · rcases sound.feedback_cases (fun _ => rfl) done with rfl | ⟨account, event, filed⟩
      · exact matched.ignored _ rfl rfl
      · exact matched.filed filed rfl rfl
    · cases done
  | packetTimeoutRetransmitted cid packet retransmitCount =>
    obtain ⟨account, _, rfl | ⟨event, filed⟩⟩ := sound.timeout_cases done
    · exact matched.ignored _ rfl rfl
    · exact matched.filed filed rfl rfl
  | packetEarlyRetransmitted cid packet retransmitCount =>
    cases done
    exact matched
  | processNextEvent due response latency =>
    simp only [perform, Engine.processNextEvent] at done
    split at done
    · cases done
    split at done
    case h_1 =>
      cases done
      exact matched
    case h_2 event rest queue =>
      obtain ⟨_, _, rfl⟩ := map_eq_ok.1 done
      obtain ⟨key, _⟩ := laws.answer_spec (sound.filled event (by simp [queue]))
        (possible.2.2 event (by simp [queue]))
      simp [Matched, Action.flag, queue, key, show keys = _ from matched]
  | handleNextResponse due flowLabel =>
    obtain ⟨after, response, rest, _, _, handled, queue, _, _, completed, _⟩ :=
      sound.handled flowLabel possible.1
    cases handled.symm.trans done
    rw [Matched, completed.responseQueue, completed.eventQueue, Action.flag, matched, queue]
    rfl
  | advance time =>
    cases done
    exact matched

end Matched
end

/-! ## Runs -/

section
variable {swift : Swift} {numFlows : BitVec 32 → Nat}
  {flows : ∀ cid, numFlows cid = 1 ∨ numFlows cid = 4}
  {state : Flagged Gen2RueKey EventBna ResponseBna}

/-- An engine whose connections were created, with a place in each vector for each flow, and whose
labels were initialized from random ones. -/
structure Created (units : TimeUnits) (flows : ∀ cid, numFlows cid = 1 ∨ numFlows cid = 4)
    (state : Flagged Gen2RueKey EventBna ResponseBna) : Prop where
  initial : Initial (gen2Laws units flows) ⟨state.engine, fun _ => {}⟩
  labelled : ∀ cid connection, state.engine.connections cid = some connection →
    ∃ random metadata, metadata.gen2FlowLabels.length = numFlows cid ∧
      initializeGenSpecificMetadata random metadata = .ok connection.congestionControlMetadata
  keys : state.keys = []

/-- How the flows of labels, of keys and of events agree. -/
structure FlowsAgree (swift : Swift) (units : TimeUnits) (numFlows : BitVec 32 → Nat)
    (state : Flagged Gen2RueKey EventBna ResponseBna) : Prop where
  labels : ∀ cid connection, state.engine.connections cid = some connection →
    AllDecode (numFlows cid) connection.congestionControlMetadata.gen2FlowLabels
  /-- The algorithm reads the flow of the key that an event was enqueued under. -/
  events : ∀ place event, state.engine.eventQueue[place]? = some event →
    ∃ key, state.keys[state.engine.responseQueue.length + place]? = some key ∧
      key.scid = event.connectionId.setWidth 32 ∧ key.flowId = event.swift.flowId.setWidth 8
  flags : ∀ key account, state.engine.accounts key = some account →
    (account.outstandingRueEvent = true ↔ key ∈ state.keys)
  once : state.keys.Nodup
  /-- A response clears the flag that was set for its event, and no other. -/
  cleared : ∀ due flowLabel, due ∈ state.engine.scheduledResponses →
    ∃ next key rest account,
      state.engine.handleNextResponse (gen2Swift swift units numFlows) due flowLabel = .ok next ∧
      state.keys = key :: rest ∧ state.engine.accounts key = some account ∧
      account.outstandingRueEvent = true ∧
      next.accounts = Function.update state.engine.accounts key
        (some { account with outstandingRueEvent := false })

theorem Created.matched (created : Created units flows state) :
    Sound (gen2SwiftLaws swift units flows) state.engine ∧
      Matched (gen2SwiftLaws swift units flows) state.engine state.keys := by
  have initial : Initial (gen2SwiftLaws swift units flows) ⟨state.engine, fun _ => {}⟩ := by
    refine { created.initial with consistent := ?_ }
    intro cid connection found
    refine ⟨created.initial.consistent cid connection found, ?_⟩
    obtain ⟨random, metadata, length, done⟩ := created.labelled cid connection found
    rw [← length]
    exact initialize_decodes (length ▸ flows cid) done
  refine ⟨initial.sound.1, ?_⟩
  rw [Matched, created.keys, created.initial.eventQueue, created.initial.responseQueue]
  rfl

theorem reachable_matched (reachable : Runs.Reachable (Created units flows)
      (Flagged.Step (gen2Swift swift units numFlows) config) state) :
    Sound (gen2SwiftLaws swift units flows) state.engine ∧
      Matched (gen2SwiftLaws swift units flows) state.engine state.keys := by
  apply Runs.invariant_of_reachable _ _ reachable
  · intro first created
    exact created.matched
  · rintro before after ⟨sound, matched⟩ ⟨action, possible, done, flagged⟩
    rw [flagged]
    exact ⟨sound.performed possible done, matched.performed sound possible done⟩

/-- In every run of connections with one flow or four, whatever the random labels, the answers of
the algorithm and the labels of the packets, each label of a connection decodes to its place, the
flow that the algorithm reads in an event is that of the key which the event was enqueued under,
and a response clears the flag of that key. -/
theorem flows_agree (swift : Swift) (units : TimeUnits) (config : RueConfig)
    (flows : ∀ cid, numFlows cid = 1 ∨ numFlows cid = 4)
    (state : Flagged Gen2RueKey EventBna ResponseBna)
    (reachable : Runs.Reachable (Created units flows)
      (Flagged.Step (gen2Swift swift units numFlows) config) state) :
    FlowsAgree swift units numFlows state := by
  obtain ⟨sound, matched⟩ := reachable_matched reachable
  have perm : ((gen2SwiftLaws swift units flows).pipeline state.engine).Perm state.keys := by
    rw [show state.keys = _ from matched]
    exact List.perm_append_comm
  constructor
  case labels => exact fun cid connection found => (sound.consistent cid connection found).2
  case events =>
    intro place event found
    refine ⟨⟨event.connectionId.setWidth 32, event.swift.flowId.setWidth 8⟩, ?_, rfl, rfl⟩
    rw [show state.keys = _ from matched, List.getElem?_append_right (by simp),
      List.length_map, Nat.add_sub_cancel_left, List.getElem?_map, found]
    rfl
  case flags => exact fun key account found => (sound.flag key account found).trans perm.mem_iff
  case once => exact perm.nodup_iff.1 sound.onePerKey
  case cleared =>
    intro due flowLabel scheduled
    obtain ⟨next, response, rest, account, _, handled, queue, known, flagged, completed, _⟩ :=
      sound.handled flowLabel scheduled
    rw [Matched, queue] at matched
    exact ⟨next, _, _, account, handled, matched, known, flagged, completed.accounts⟩

end

/-- A packet of the third flow with a label that the flow does not have any more. -/
def reroutedPacket : Packet := { timedOutPacket with flowLabel := 0x4567a }

theorem fourFlowState_created :
    Created defaultTimeUnits four_flows ⟨fourFlowState.engine, []⟩ where
  initial := fourFlowState_initial
  labelled cid connection found := by
    refine ⟨fun _ => 0, freshConnection.congestionControlMetadata, rfl, ?_⟩
    have cid : cid = 1 := by
      by_contra other
      simp only [fourFlowState, Function.update_of_ne other, reduceCtorEq] at found
    subst cid
    cases found
    rfl
  keys := rfl

/-- The timeout of a packet with an old label sets the flag of its flow. -/
theorem flows_agree_after_timeout :
    ∃ state : Flagged Gen2RueKey EventBna ResponseBna, state.keys = [⟨1, 2⟩] ∧
      FlowsAgree ⟨.bna, RueLoop.twoRoundsParameters⟩ defaultTimeUnits (fun _ => 4) state := by
  let action : Action Gen2RueKey ResponseBna := .packetTimeoutRetransmitted 1 reroutedPacket 1
  let start := fourFlowState.engine
  have done : (perform (gen2 defaultTimeUnits fun _ => 4) shortQueue start action).toOption.any
      (fun next => action.flag (gen2 defaultTimeUnits fun _ => 4) start next [] = [⟨1, 2⟩]) =
        true := by
    decide +kernel
  obtain ⟨next, performed, keys⟩ := (Option.any_eq_true _ _).1 done
  refine ⟨⟨next, _⟩, of_decide_eq_true keys, flows_agree _ _ shortQueue four_flows _ ?_⟩
  exact Runs.reachable_step (Runs.reachable_initial fourFlowState_created)
    ⟨action, trivial, toOption_eq_some.1 performed, rfl⟩

end Isekai.RateUpdate
