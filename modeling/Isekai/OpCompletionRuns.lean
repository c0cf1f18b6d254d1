import Isekai.OpCompletions

/-! The runs of the RDMA model as runs of each of its queue pairs, and the operations that a queue
pair calls back in all of them; and the two ways in which 2^32 packets confuse it. -/

namespace Isekai.OpCompletionRuns
open Outcomes RdmaFalcon RdmaSchedulerProofs RdmaReadProofs OpCompletions OpCompletions.Line
open Roce (RdmaOpcode WorkType)

variable {count : Nat}

/-! ## The model and its queue pairs -/

/-- A request that is cut meets the condition. -/
def Apart (config : Config) (state : State) : State.Event → Prop
  | .run _ (.sendTransaction qpId) =>
    state.currentWorkType = .request → Spaced config (state.contexts qpId)
  | _ => True

/-- All queue pairs have just been created. -/
def Fresh (state : State) : Prop :=
  State.Initial state ∧ ∀ qpId rsn, (state.contexts qpId).completionQueue rsn = none

section Projection
variable {config : Config} {state next : State} {line : Line}

/-- An answer that is possible completes an outstanding packet. -/
theorem outstanding_of_opcode (reached : Runs.Reachable Initial
      (CoveredStep config (Spaced config)) line) {rsn : UInt32} {id : Nat}
    (mapped : line.context.rsnToOp rsn = some id) :
    ∃ packet ∈ line.outstanding, packet.rsn = rsn ∧ packet.op = id := by
  obtain ⟨base, tracked⟩ := tracked_reached reached
  exact (tracked.mapped rsn id).1 mapped

/-- What an event does to a queue pair is a step of that queue pair. -/
theorem line_of_changed {event : State.Event} {qpId : Nat} {context : QpContext}
    (reached : Runs.Reachable Initial (CoveredStep config (Spaced config)) line)
    (same : line.context = state.contexts qpId) (possible : state.Possible event)
    (apart : Apart config state event) (changed : Changed config state event qpId context) :
    ∃ after, CoveredStep config (Spaced config) line after ∧ after.context = context := by
  cases changed with
  | posted _ opcode sgl inlinePayloadLength =>
    rw [← same]
    exact ⟨_, ⟨.post opcode sgl inlinePayloadLength, trivial, trivial, rfl⟩, rfl⟩
  | credited _ credit within =>
    rw [← same] at within ⊢
    exact ⟨_, ⟨.returnCredit credit, within, trivial, rfl⟩, rfl⟩
  | answered _ rsn id mapped =>
    have read : ((state.contexts qpId).ops id).opcode = .read := by
      change state.opcodeOf qpId rsn = some .read at possible
      unfold State.opcodeOf at possible
      rw [mapped] at possible
      exact Option.some.inj possible
    rw [← same] at mapped read ⊢
    obtain ⟨packet, member, rfl, rfl⟩ := outstanding_of_opcode reached mapped
    exact ⟨_, ⟨.complete packet, member, trivial, complete_eq mapped⟩, if_pos read⟩
  | completed _ rsn id mapped =>
    have other : ((state.contexts qpId).ops id).opcode ≠ .read := by
      have kind : state.opcodeOf qpId rsn ≠ some .read := possible.2
      unfold State.opcodeOf at kind
      rw [mapped] at kind
      exact fun read => kind (congrArg some read)
    rw [← same] at mapped other ⊢
    obtain ⟨packet, member, rfl, rfl⟩ := outstanding_of_opcode reached mapped
    exact ⟨_, ⟨.complete packet, member, trivial, complete_eq mapped⟩, if_neg other⟩
  | sent due _ taken packet credit done =>
    cases current : state.currentWorkType with
    | request =>
      have spaced : Spaced config line.context := same ▸ apart current
      rw [current, ← same] at done
      obtain ⟨id, rest, left, queue, -⟩ := take_request_eq_ok done
      exact ⟨_, ⟨.send state.now, trivial, spaced, send_eq queue done _⟩, rfl⟩
    | response =>
      rw [current, ← same] at done
      exact ⟨_, ⟨.respond state.now, trivial, trivial, respond_eq done _⟩, rfl⟩
  | enqueued due _ request =>
    rw [← same]
    exact ⟨_, ⟨.enqueueRead request, trivial, trivial, rfl⟩, rfl⟩

/-- Each queue pair of the model goes through a run of its own. -/
theorem line_of_reached (reached : Runs.Reachable Fresh
      (State.CoveredStep config (Apart config)) state) (qpId : Nat) :
    ∃ line, Runs.Reachable Initial (CoveredStep config (Spaced config)) line ∧
      line.context = state.contexts qpId := by
  obtain ⟨first, ⟨started, uncompleted⟩, path⟩ := reached
  induction path with
  | refl =>
    refine ⟨{ context := first.contexts qpId }, Runs.reachable_initial ?_, rfl⟩
    exact ⟨started.1 qpId, uncompleted qpId, rfl, rfl, rfl, rfl⟩
  | tail _ step ih =>
    obtain ⟨line, before, same⟩ := ih
    obtain ⟨event, possible, apart, performed⟩ := step
    rcases changed_of_perform _ performed qpId with kept | changed
    · exact ⟨line, before, same.trans kept.symm⟩
    · obtain ⟨after, taken, context⟩ := line_of_changed before same possible apart changed
      exact ⟨after, Runs.reachable_step before taken, context⟩

end Projection

/-! ## Every run -/

/-- In every run where no packet is cut under the sequence number of an outstanding one and no
operation into a multiple of 2^32 packets, each operation is called back once, with the last of its
packets, and Falcon finds the operation of whatever it completes. -/
theorem callbacks_once {config : Config} {line : Line}
    (reached : Runs.Reachable Initial (CoveredStep config (Spaced config)) line) :
    line.CalledOnce ∧ line.Alive := by
  obtain ⟨base, tracked⟩ := tracked_reached reached
  exact ⟨tracked.called, tracked.alive⟩

/-- A queue pair with credits for many packets whose sequence numbers are about to wrap. -/
def freshLine : Line where
  context :=
    { ops := fun _ => { opcode := .send }, creditLimit := ⟨99, 99, 99, 99, 99, 99⟩
      creditUsage := 0, nextRsn := 4294967295 }

theorem fresh_line_initial : Initial freshLine :=
  ⟨⟨rfl, rfl, fun _ => rfl, (by decide : (0 : FalconCredit) ≤ ⟨99, 99, 99, 99, 99, 99⟩), rfl, rfl⟩,
    fun _ => rfl, rfl, rfl, rfl, rfl⟩

/-- An event happens if it is possible and covered. -/
def tryEvent (config : Config) (condition : QpContext → Prop) [DecidablePred condition]
    (line : Line) (event : Event) : Option Line :=
  Runs.attempt (line.Possible event ∧ Cutting condition line event) (line.perform config event)

theorem covered_of_try {config : Config} {condition : QpContext → Prop}
    [DecidablePred condition] (line : Line) (event : Event) (next : Line)
    (tried : tryEvent config condition line event = some next) :
    CoveredStep config condition line next := by
  obtain ⟨⟨possible, covered⟩, performed⟩ := Runs.attempt_eq_some.1 tried
  exact ⟨event, possible, covered, performed⟩

/-- A write of two packets, completed in the other order. -/
def writeCompleted : List Event :=
  [.post .write [4096, 100] 0, .send 1, .send 2, .complete ⟨1, 0, 0⟩, .complete ⟨0, 4294967295, 0⟩]

theorem write_called_once : ∃ line, Runs.Reachable Initial
    (CoveredStep narrowConfig (Spaced narrowConfig)) line ∧ line.invoked = [0] ∧
      line.CalledOnce ∧ line.Alive := by
  obtain ⟨line, reached, invoked⟩ := @Runs.reached_with Line Initial _ Event _ covered_of_try
    writeCompleted freshLine fresh_line_initial (fun line => line.invoked = [0])
    (by decide +kernel : (Runs.execute (tryEvent narrowConfig (Spaced narrowConfig))
      writeCompleted freshLine).any _ = true)
  exact ⟨line, reached, of_decide_eq_true invoked, callbacks_once reached⟩

/-! ## 2^32 packets -/

/-- A queue pair as it is created. -/
def newLine : Line where
  context :=
    { ops := fun _ => { opcode := .send }, creditLimit := ⟨99, 99, 99, 99, 99, 99⟩
      creditUsage := 0 }

theorem new_line_initial : Initial newLine :=
  ⟨⟨rfl, rfl, fun _ => rfl, (by decide : (0 : FalconCredit) ≤ ⟨99, 99, 99, 99, 99, 99⟩), rfl, rfl⟩,
    fun _ => rfl, rfl, rfl, rfl, rfl⟩

theorem CoveredStep.mono {config : Config} {strong weak : QpContext → Prop}
    (implies : ∀ context, strong context → weak context) {line next : Line}
    (step : CoveredStep config strong line next) : CoveredStep config weak line next := by
  obtain ⟨event, possible, covered, performed⟩ := step
  refine ⟨event, possible, ?_, performed⟩
  cases event with
  | send now => exact implies _ covered
  | _ => trivial

theorem reached_mono {config : Config} {strong weak : QpContext → Prop}
    (implies : ∀ context, strong context → weak context) {line : Line}
    (reached : Runs.Reachable Initial (CoveredStep config strong) line) :
    Runs.Reachable Initial (CoveredStep config weak) line := by
  obtain ⟨first, started, path⟩ := reached
  have steps := Relation.ReflTransGen.mono (r := CoveredStep config strong)
    (fun _ _ => CoveredStep.mono implies) first line path
  exact ⟨first, started, steps⟩

section Cycles
variable {line : Line}

/-- The operation that is posted. -/
theorem posted_op {op : RdmaOp} (sent : op.opcode ≠ .recv) :
    (line.post op).context.ops line.context.nextOp = op := by
  unfold post QpContext.post
  dsimp only
  rw [if_neg sent]
  exact Function.update_self ..

theorem posted_queue {op : RdmaOp} (sent : op.opcode ≠ .recv) :
    (line.post op).context.sendQueue = line.context.sendQueue ++ [line.context.nextOp] := by
  unfold post QpContext.post
  dsimp only
  rw [if_neg sent]

/-- The first request is cut, if a packet can be created from it. -/
theorem step_of_created {condition : QpContext → Prop} {id : Nat} {rest : List Nat}
    {packet : Packet} {left : List UInt32}
    (queue : line.context.sendQueue = id :: rest)
    (created : createRequestPacket narrowConfig.toSizeConfig (line.context.ops id)
      line.context.nextRsn = .ok (packet, left)) (covered : condition line.context) :
    ∃ next, CoveredStep narrowConfig condition line next ∧
      Cuts line next id packet.isLastPacket ∧
      next.context.ops id = QpContext.cutOp (line.context.ops id) packet left := by
  have credits : ∃ credit, computeRequestCredit narrowConfig.toSizeConfig (line.context.ops id) =
      .ok credit := by
    unfold computeRequestCredit
    unfold createRequestPacket requestHeaders at created
    cases kind : (line.context.ops id).opcode with
    | recv =>
      rw [kind] at created
      cases created
    | _ => exact ⟨_, rfl⟩
  obtain ⟨credit, credits⟩ := credits
  have request : line.context.takeRequest narrowConfig.toSizeConfig =
      .ok (line.context.requested id rest packet left, packet, credit) := by
    unfold QpContext.takeRequest
    rw [queue]
    dsimp only
    rw [credits, created]
    rfl
  exact ⟨_, ⟨.send 0, trivial, covered, send_eq queue request 0⟩,
    cuts_of_request queue (created_packet created).1 credit 0, Function.update_self ..⟩

/-! ### A sequence number that is still in use -/

/-- A write of one byte, which goes into its packet. -/
def inlineWrite : RdmaOp := { opcode := .write, inlinePayloadLength := 1 }

/-- An inline write is posted and cut. -/
theorem whole_sent (condition : QpContext → Prop) (empty : line.context.sendQueue = [])
    (covered : condition (line.post inlineWrite).context) :
    ∃ next, Relation.ReflTransGen (CoveredStep narrowConfig condition) line next ∧
      Cuts (line.post inlineWrite) next line.context.nextOp true := by
  have posted : CoveredStep narrowConfig condition line (line.post inlineWrite) :=
    ⟨.post .write [] 1, trivial, trivial, rfl⟩
  have queue : (line.post inlineWrite).context.sendQueue = [line.context.nextOp] := by
    rw [posted_queue (by decide), empty]
    rfl
  have op := @posted_op line inlineWrite (by decide)
  have created : createRequestPacket narrowConfig.toSizeConfig
      ((line.post inlineWrite).context.ops line.context.nextOp)
      (line.post inlineWrite).context.nextRsn = .ok
        ({ opcode := .writeOnly, rsn := (line.post inlineWrite).context.nextRsn
           dataLength := writeHeaderSize + 1, requestLength := writeHeaderSize + 1
           inlinePayloadLength := 1, isLastPacket := true }, []) := by
    rw [op]
    rfl
  obtain ⟨next, sent, cuts, -⟩ := step_of_created queue created covered
  exact ⟨next, .tail (.single posted) sent, cuts⟩

/-- The first packet has not completed, and the queue pair has cut some number of packets. -/
structure Standby (line : Line) (count : Nat) : Prop where
  reached : Runs.Reachable Initial (CoveredStep narrowConfig (Spaced narrowConfig)) line
  sent : line.sent = count
  empty : line.context.sendQueue = []
  outstanding : line.outstanding = [⟨0, 0, 0⟩]

/-- An inline write at the head is short. -/
theorem posted_short (empty : line.context.sendQueue = []) :
    Short narrowConfig (line.post inlineWrite).context := by
  intro id head scheduled
  rw [posted_queue (by decide), empty] at head
  cases head
  rw [posted_op (by decide)] at scheduled
  cases scheduled

theorem Standby.tracked (standby : Standby line count) : Tracked 0 line := by
  obtain ⟨base, tracked⟩ := tracked_reached standby.reached
  have first := tracked.carried ⟨0, 0, 0⟩ (by simp [standby.outstanding])
  obtain rfl : base = 0 := by simpa [rsnOf] using first.symm
  exact tracked

/-- The sequence number of the first packet comes back after 2^32. -/
theorem Standby.free (standby : Standby line count) (below : count % 2 ^ 32 ≠ 0) :
    Free line.context := by
  have tracked := standby.tracked
  unfold Free
  cases found : line.context.rsnToOp line.context.nextRsn with
  | none => rfl
  | some id =>
    obtain ⟨packet, member, same, -⟩ := (tracked.mapped _ _).1 found
    rw [tracked.carried _ member, tracked.numbered, rsn_of_eq_iff, standby.sent] at same
    rw [standby.outstanding, List.mem_singleton] at member
    subst member
    exact absurd same.symm below

/-- Another write is posted, cut and completed. -/
theorem Standby.next (standby : Standby line count) (below : count % 2 ^ 32 ≠ 0) :
    ∃ next, Standby next (count + 1) := by
  have free : Free (line.post inlineWrite).context := standby.free below
  obtain ⟨middle, path, cuts⟩ :=
    whole_sent (Spaced narrowConfig) standby.empty ⟨free, posted_short standby.empty⟩
  obtain ⟨first, started, before⟩ := standby.reached
  have reached : Runs.Reachable Initial (CoveredStep narrowConfig (Spaced narrowConfig)) middle :=
    ⟨first, started, before.trans path⟩
  obtain ⟨base, tracked⟩ := tracked_reached reached
  have outstanding : middle.outstanding =
      [⟨0, 0, 0⟩, ⟨line.sent, line.context.nextRsn, line.context.nextOp⟩] := by
    rw [cuts.outstanding]
    change line.outstanding ++ [⟨line.sent, line.context.nextRsn, line.context.nextOp⟩] = _
    rw [standby.outstanding]
    rfl
  have different : (⟨0, 0, 0⟩ : Outstanding) ≠
      ⟨line.sent, line.context.nextRsn, line.context.nextOp⟩ := by
    intro same
    have number := congrArg Outstanding.number same
    rw [standby.sent] at number
    dsimp only at number
    omega
  have member : (⟨line.sent, line.context.nextRsn, line.context.nextOp⟩ : Outstanding) ∈
      middle.outstanding := by simp [outstanding]
  obtain ⟨next, performed, completes⟩ := completes_of_complete tracked.toMapped member
  refine ⟨next, Runs.reachable_step reached ⟨.complete _, member, trivial, performed⟩, ?_, ?_, ?_⟩
  · rw [completes.sent, cuts.sent]
    exact congrArg (· + 1) standby.sent
  · rw [completes.sendQueue, cuts.queue, posted_queue (by decide), standby.empty]
    rfl
  · rw [completes.outstanding, outstanding, List.erase_cons_tail (by simpa using different)]
    simp

theorem standby_first : ∃ line, Standby line 1 := by
  obtain ⟨line, path, cuts⟩ :=
    @whole_sent newLine (Spaced narrowConfig) rfl ⟨rfl, posted_short rfl⟩
  refine ⟨line, ⟨newLine, new_line_initial, path⟩, cuts.sent, ?_, cuts.outstanding⟩
  exact cuts.queue

theorem standby_reached (positive : 0 < count) (within : count ≤ 2 ^ 32) :
    ∃ line, Standby line count := by
  induction count, positive using Nat.le_induction with
  | base => exact standby_first
  | succ count positive ih =>
    obtain ⟨line, standby⟩ := ih (by omega)
    refine standby.next ?_
    rw [Nat.mod_eq_of_lt within]
    exact Nat.ne_of_gt positive

/-- The write that takes the sequence number of the first packet calls back the first one. -/
theorem Standby.confused (standby : Standby line (2 ^ 32)) :
    ∃ next, Runs.Reachable Initial (CoveredStep narrowConfig (Short narrowConfig)) next ∧
      ¬ next.CalledOnce := by
  have tracked := standby.tracked
  have member : (⟨0, 0, 0⟩ : Outstanding) ∈ line.outstanding := by simp [standby.outstanding]
  have own : line.context.rsnToOp 0 = some 0 := tracked.own member
  have rsn : line.context.nextRsn = 0 := by
    rw [tracked.numbered, standby.sent]
    rfl
  have older := (tracked.older 0 (tracked.sources _ member)).ne
  obtain ⟨middle, path, cuts⟩ :=
    whole_sent (Short narrowConfig) standby.empty (posted_short standby.empty)
  obtain ⟨first, started, before⟩ := reached_mono (fun _ spaced => spaced.2) standby.reached
  have outstanding : middle.outstanding = [⟨0, 0, 0⟩, ⟨2 ^ 32, 0, line.context.nextOp⟩] := by
    rw [cuts.outstanding]
    change line.outstanding ++ [⟨line.sent, line.context.nextRsn, line.context.nextOp⟩] = _
    rw [standby.outstanding, standby.sent, rsn]
    rfl
  -- The new packet is not entered, since the sequence number of the first one is there.
  have mapped : middle.context.rsnToOp 0 = some 0 := by
    rw [cuts.entered]
    change QpContext.emplace line.context.rsnToOp line.context.nextRsn line.context.nextOp 0 = _
    rw [rsn]
    unfold QpContext.emplace
    rw [if_pos (by rw [own]; rfl)]
    exact own
  have finished : QpContext.finished (middle.context.ops 0) = true := by
    rw [cuts.others 0 older]
    have same : (line.post inlineWrite).context.ops 0 = line.context.ops 0 :=
      Function.update_of_ne older ..
    rw [same]
    obtain ⟨alone, -, completes⟩ := completes_of_complete tracked.toMapped member
    refine (completes.finished_iff tracked).2 ⟨by simp [standby.empty], ?_⟩
    rw [left_eq_zero_iff, completes.outstanding, standby.outstanding]
    simp
  obtain ⟨next, performed, invoked, kept⟩ : ∃ next,
      middle.complete ⟨2 ^ 32, 0, line.context.nextOp⟩ = .ok next ∧
        next.invoked = middle.invoked ++ [0] ∧ ⟨0, 0, 0⟩ ∈ next.outstanding := by
    refine ⟨_, complete_eq mapped, if_pos finished, ?_⟩
    dsimp only
    rw [outstanding]
    simp
  have last : (⟨2 ^ 32, 0, line.context.nextOp⟩ : Outstanding) ∈ middle.outstanding := by
    simp [outstanding]
  refine ⟨next, Runs.reachable_step ⟨first, started, before.trans path⟩
    ⟨.complete _, last, trivial, performed⟩, fun called => ?_⟩
  have counted := called 0
  rw [if_neg fun done => done.2.2 _ kept rfl, invoked, List.count_append,
    List.count_singleton_self] at counted
  exact Nat.succ_ne_zero _ counted

/-! ### An operation that counts to 2^32 -/

/-- A fragment that fills a packet. -/
theorem cut_full (rest : List UInt32) :
    cutPacketFromSgl (4096 :: rest) narrowConfig.rdmaMtu = ([4096], rest) := by
  have full : narrowConfig.rdmaMtu = 4096 := rfl
  unfold cutPacketFromSgl cutFrom
  rw [full, if_pos (by decide), if_pos (by decide)]
  cases rest with
  | nil => rfl
  | cons fragment rest =>
    unfold cutFrom
    rw [if_neg (by decide)]

/-- A write of 2^32 fragments of which some number have been cut and have completed. -/
structure Midway (line : Line) (count : Nat) : Prop where
  reached : Runs.Reachable Initial (CoveredStep narrowConfig (Spaced narrowConfig)) line
  sent : line.sent = count
  queue : line.context.sendQueue = [0]
  outstanding : line.outstanding = []
  numbered : line.context.nextRsn = UInt32.ofNat count
  opcode : (line.context.ops 0).opcode = .write
  inline : (line.context.ops 0).inlinePayloadLength = 0
  sgl : (line.context.ops 0).sgl = List.replicate (2 ^ 32 - count) 4096
  first : (line.context.ops 0).isScheduled = true ∧ (line.context.ops 0).psn = 0 ∨
    (line.context.ops 0).isScheduled = false ∧ count = 0

/-- The packet of the next fragment. -/
theorem Midway.created (midway : Midway line count) (below : count < 2 ^ 32) :
    ∃ packet, createRequestPacket narrowConfig.toSizeConfig (line.context.ops 0)
      line.context.nextRsn = .ok (packet, List.replicate (2 ^ 32 - (count + 1)) 4096) ∧
        packet.isLastPacket = decide (count + 1 = 2 ^ 32) := by
  have more : 2 ^ 32 - count = (2 ^ 32 - (count + 1)) + 1 := by omega
  have sgl := midway.sgl
  rw [more, List.replicate_succ] at sgl
  unfold createRequestPacket requestHeaders
  rw [midway.opcode, midway.inline, sgl]
  simp only [cut_full]
  refine ⟨_, rfl, ?_⟩
  dsimp only
  rw [Bool.eq_iff_iff, List.isEmpty_iff, List.replicate_eq_nil_iff, decide_eq_true_iff]
  omega

/-- The operation as it is cut. -/
theorem Midway.cut (midway : Midway line count) (below : count < 2 ^ 32)
    {condition : QpContext → Prop} (covered : condition line.context) :
    ∃ next, CoveredStep narrowConfig condition line next ∧
      Cuts line next 0 (decide (count + 1 = 2 ^ 32)) ∧ (next.context.ops 0).psn = 0 ∧
      (next.context.ops 0).opcode = .write ∧ (next.context.ops 0).inlinePayloadLength = 0 ∧
      (next.context.ops 0).sgl = List.replicate (2 ^ 32 - (count + 1)) 4096 := by
  obtain ⟨packet, created, last⟩ := midway.created below
  obtain ⟨next, step, cuts, op⟩ := step_of_created midway.queue created covered
  rw [last] at cuts
  refine ⟨next, step, cuts, ?_, ?_, ?_, ?_⟩
  · rw [cuts.psn]
    rcases midway.first with ⟨scheduled, psn⟩ | ⟨unscheduled, rfl⟩
    · rw [if_pos scheduled, psn]
    · rw [unscheduled, midway.numbered]
      rfl
  · rw [op, cut_op_opcode]
    exact midway.opcode
  · rw [op]
    unfold QpContext.cutOp
    split_ifs <;> exact midway.inline
  · rw [op]
    unfold QpContext.cutOp
    split_ifs <;> rfl

theorem Midway.free (midway : Midway line count) : Free line.context := by
  obtain ⟨base, tracked⟩ := tracked_reached midway.reached
  unfold Free
  cases found : line.context.rsnToOp line.context.nextRsn with
  | none => rfl
  | some id =>
    obtain ⟨packet, member, -⟩ := (tracked.mapped _ _).1 found
    rw [midway.outstanding] at member
    cases member

/-- The only packet of the queue pair is the one that was just cut. -/
theorem Midway.single (midway : Midway line count) {next : Line} {last : Bool}
    (cuts : Cuts line next 0 last) : next.outstanding = [⟨line.sent, line.context.nextRsn, 0⟩] := by
  rw [cuts.outstanding, midway.outstanding]
  rfl

/-- Another fragment is cut and completed. -/
theorem Midway.next (midway : Midway line count) (below : count + 1 < 2 ^ 32) :
    ∃ next, Midway next (count + 1) := by
  have short : Short narrowConfig line.context := by
    intro id head scheduled fits
    rw [midway.queue] at head
    cases head
    obtain ⟨packet, created, last⟩ := midway.created (Nat.lt_of_succ_lt below)
    rw [(created_packet created).2.2 fits] at last
    exact absurd (of_decide_eq_true last.symm) below.ne
  obtain ⟨middle, step, cuts, psn, opcode, inline, sgl⟩ :=
    midway.cut (Nat.lt_of_succ_lt below) (show Spaced narrowConfig line.context from
      ⟨midway.free, short⟩)
  have reached := Runs.reachable_step midway.reached step
  obtain ⟨base, tracked⟩ := tracked_reached reached
  have outstanding := midway.single cuts
  have member : (⟨line.sent, line.context.nextRsn, 0⟩ : Outstanding) ∈ middle.outstanding := by
    simp [outstanding]
  obtain ⟨next, performed, completes⟩ := completes_of_complete tracked.toMapped member
  have own := completes.own
  dsimp only at own
  refine ⟨next, ?_⟩
  constructor
  · exact Runs.reachable_step reached ⟨.complete _, member, trivial, performed⟩
  · rw [completes.sent, cuts.sent, midway.sent]
  · rw [completes.sendQueue, cuts.queue, decide_eq_false below.ne]
    exact midway.queue
  · rw [completes.outstanding, outstanding]
    simp
  · rw [completes.numbered, cuts.numbered, midway.numbered, UInt32.ofNat_add]
    rfl
  · rw [own]
    exact opcode
  · rw [own]
    exact inline
  · rw [own]
    exact sgl
  · rw [own]
    exact .inl ⟨cuts.scheduled, psn⟩

/-- A write of so many fragments that it wraps the number of its packets. -/
def longWrite : RdmaOp := { opcode := .write, sgl := List.replicate (2 ^ 32) 4096 }

theorem midway_first : ∃ line, Midway line 0 := by
  have op := @posted_op newLine longWrite (by decide)
  refine ⟨newLine.post longWrite, ?_⟩
  constructor
  · exact Runs.reachable_step (Runs.reachable_initial new_line_initial)
      ⟨.post .write longWrite.sgl 0, trivial, trivial, rfl⟩
  · rfl
  · exact posted_queue (by decide)
  · rfl
  · rfl
  · exact congrArg RdmaOp.opcode op
  · exact congrArg RdmaOp.inlinePayloadLength op
  · rw [Nat.sub_zero]
    exact congrArg RdmaOp.sgl op
  · exact .inr ⟨congrArg RdmaOp.isScheduled op, rfl⟩

theorem midway_reached (below : count < 2 ^ 32) : ∃ line, Midway line count := by
  induction count with
  | zero => exact midway_first
  | succ count ih =>
    obtain ⟨line, midway⟩ := ih (Nat.lt_of_succ_lt below)
    exact midway.next below

/-- With its last packet the number of its packets wraps to zero, and the write is not called
back. -/
theorem Midway.silent (midway : Midway line (2 ^ 32 - 1)) :
    ∃ next, Runs.Reachable Initial (CoveredStep narrowConfig Free) next ∧ ¬ next.CalledOnce := by
  obtain ⟨base, tracked⟩ := tracked_reached midway.reached
  obtain ⟨middle, step, cuts, psn, -⟩ := midway.cut (by decide) midway.free
  have last : decide (2 ^ 32 - 1 + 1 = 2 ^ 32) = true := by decide
  rw [last] at cuts
  have reached := Runs.reachable_step (reached_mono (fun _ spaced => spaced.1) midway.reached) step
  have outstanding := midway.single cuts
  have member : (⟨line.sent, line.context.nextRsn, 0⟩ : Outstanding) ∈ middle.outstanding := by
    simp [outstanding]
  obtain ⟨next, performed, completes⟩ :=
    completes_of_complete (cuts.mapped tracked.toMapped midway.free) member
  refine ⟨next, Runs.reachable_step reached ⟨.complete _, member, trivial, performed⟩,
    fun called => ?_⟩
  have packets : (middle.context.ops 0).nPkts = 0 := by
    rw [(cuts.closed rfl).2, psn, midway.numbered]
    decide
  have unfinished : ¬ QpContext.finished (middle.context.ops 0) = true := by
    simp [QpContext.finished, packets]
  have head : 0 ∈ line.context.sendQueue := by simp [midway.queue]
  have uncalled := tracked.called 0
  rw [if_neg fun done => done.2.1 head] at uncalled
  have done : next.Done 0 := by
    refine ⟨?_, ?_, ?_⟩
    · rw [completes.posted, cuts.posted]
      exact tracked.queued 0 head
    · rw [completes.sendQueue, cuts.queue, midway.queue]
      simp
    · rw [completes.outstanding, outstanding]
      simp
  have counted := called 0
  rw [if_pos done, completes.invoked, if_neg unfinished, cuts.invoked, uncalled] at counted
  cases counted

end Cycles

/-- Neither condition can be left out: a packet under the sequence number of an outstanding one
calls back the operation of that one, and a write of 2^32 packets is never called back. -/
theorem callbacks_wrap : (∃ line, Runs.Reachable Initial (CoveredStep narrowConfig
      (Short narrowConfig)) line ∧ ¬ line.CalledOnce) ∧
    ∃ line, Runs.Reachable Initial (CoveredStep narrowConfig Free) line ∧ ¬ line.CalledOnce := by
  obtain ⟨line, standby⟩ := standby_reached (show 0 < 2 ^ 32 by decide) (le_refl _)
  obtain ⟨other, midway⟩ := midway_reached (show 2 ^ 32 - 1 < 2 ^ 32 by decide)
  exact ⟨standby.confused, midway.silent⟩

end Isekai.OpCompletionRuns
