import Isekai.Outcomes
import Isekai.RoceNumbering

/-! The requester of a queue pair: its sequence numbers and its index into the send queue fit
together in every run in which no acknowledgement gets ahead of what was sent again, and in which
going back finds something to send. -/

namespace Isekai.RoceGoBackN
open Outcomes Roce Roce.QpContext RoceNumbering

variable {config : Config} {context : QpContext}
variable {op : RdmaOp} {rest ops more : List RdmaOp} {psn : Psn} {packet : Packet}

/-! ## The state of the requester -/

/-- The send queue holds the operations from number `first` on, those before `oldest` are
acknowledged, and those before `max` were sent. -/
structure Based (config : Config) (context : QpContext) (first oldest max : Nat) : Prop where
  laid : Laid config first context.sendQueue
  unsplit : Unsplit config max first context.sendQueue
  oldestPsn : context.oldestUnacknowledgedPsn = psnOf oldest
  maxPsn : context.maxPsn = psnOf max
  tailPsn : context.tailPsn = psnOf (first + span config context.sendQueue)
  fits : first + span config context.sendQueue < oldest + 2 ^ 24
  begun : first ≤ oldest
  sent : oldest ≤ max
  posted : max ≤ first + span config context.sendQueue
  head : ∀ op rest, context.sendQueue = op :: rest → oldest < first + packetsOf config op

/-- The operations `done` were sent, or sent again, and `todo` are still to be sent from number
`next` on, in which case the work queue is active. -/
structure Placed (config : Config) (context : QpContext) (done todo : List RdmaOp)
    (first oldest next max : Nat) : Prop extends Based config context first oldest max where
  queue : context.sendQueue = done ++ todo
  index : context.nextOpIndex.toNat = done.length
  nextPsn : context.nextPsn = psnOf next
  oldestNext : oldest ≤ next
  nextMax : next ≤ max
  nextAfter : first + span config done ≤ next
  nextWithin : ∀ op rest, todo = op :: rest →
    next < first + span config done + packetsOf config op
  active : context.isRequestQueueActive = true ↔ todo ≠ []

/-- An active response queue has something to send. -/
def Responds (context : QpContext) : Prop :=
  context.isResponseQueueActive = true → context.inboundReadRequestQueue ≠ []

/-- The state of a queue pair. -/
def Kept (config : Config) (context : QpContext) : Prop :=
  Responds context ∧ ∃ done todo first oldest next max,
    Placed config context done todo first oldest next max

section Based
variable {first oldest max : Nat} (based : Based config context first oldest max)
include based

theorem Based.near : max < oldest + 2 ^ 24 :=
  based.posted.trans_lt based.fits

theorem Based.valid_iff : context.psnIsValidAtInitiator psn = true ↔
    ∃ number, oldest ≤ number ∧ number < max ∧ psn = psnOf number :=
  RoceNumbering.valid_iff based.oldestPsn based.maxPsn based.sent based.near

end Based

/-! ## Completions -/

/-- Whether an acknowledgement up to `psn` completes an operation. -/
def acks (context : QpContext) (psn : Psn) (op : RdmaOp) : Bool :=
  op.opcode ≠ .read ∧ context.psnIsValidAtInitiator op.endPsn ∧
    context.psnGeAtInitiator psn op.endPsn

/-- The operations at the head of the send queue that an acknowledgement up to `psn` completes. -/
def ackedBy (context : QpContext) (psn : Psn) : List RdmaOp :=
  context.sendQueue.takeWhile (acks context psn)

/-- The oldest sequence number after operations are completed. -/
def oldestAfter (context : QpContext) (ops : List RdmaOp) : Psn :=
  (ops.getLast?.map fun op => psnAdd op.endPsn 1).getD context.oldestUnacknowledgedPsn

/-- The queue pair after operations at the head of its queue are completed. -/
def completing (context : QpContext) (ops : List RdmaOp) : QpContext :=
  { context with
    oldestUnacknowledgedPsn := oldestAfter context ops
    sendQueue := context.sendQueue.drop ops.length
    nextOpIndex := context.nextOpIndex - UInt32.ofNat ops.length
    completed := context.completed ++ ops }

theorem acks_iff {oldest max last : Nat}
    (oldestPsn : context.oldestUnacknowledgedPsn = psnOf oldest)
    (maxPsn : context.maxPsn = psnOf max) (sent : oldest ≤ max) (near : max < oldest + 2 ^ 24)
    (endPsn : op.endPsn = psnOf last) (after : oldest ≤ last) (close : last < oldest + 2 ^ 24) :
    acks context psn op = true ↔
      op.opcode ≠ .read ∧ ∃ number, last ≤ number ∧ number < max ∧ psn = psnOf number := by
  simp only [acks, decide_eq_true_eq]
  refine and_congr_right fun _ => ?_
  rw [RoceNumbering.valid_iff oldestPsn maxPsn sent near, endPsn]
  constructor
  · rintro ⟨⟨number, above, below, same⟩, ge⟩
    have := (psn_inj oldest after close above (by omega)).1 same
    exact (ge_iff maxPsn (by omega) (by omega)).1 ge
  · rintro ⟨number, above, below, same⟩
    refine ⟨⟨last, after, by omega, rfl⟩, ?_⟩
    exact (ge_iff maxPsn (by omega) (by omega)).2 ⟨number, above, below, same⟩

theorem completing_cons (queue : context.sendQueue = op :: rest) (ops : List RdmaOp) :
    completing { context with
      oldestUnacknowledgedPsn := psnAdd op.endPsn 1 }.completeOpAtHead ops =
        completing context (op :: ops) := by
  have index : context.nextOpIndex - 1 - UInt32.ofNat ops.length =
      context.nextOpIndex - UInt32.ofNat (ops.length + 1) := by
    apply UInt32.toNat_inj.1
    have bound := context.nextOpIndex.toNat_lt
    simp only [UInt32.toNat_sub, UInt32.toNat_ofNat', UInt32.toNat_one]
    omega
  have oldest : oldestAfter { context with
      oldestUnacknowledgedPsn := psnAdd op.endPsn 1 }.completeOpAtHead ops =
        oldestAfter context (op :: ops) := by
    cases ops with
    | nil => rfl
    | cons next more => simp [oldestAfter, List.getLast?_cons]
  simp only [completing, oldest, List.length_cons, ← index]
  simp [completeOpAtHead, queue]

/-- The operations that an acknowledgement completes do not depend on how many of the ones before
them are completed. -/
theorem acks_after {first oldest max : Nat} {next : QpContext} (laid : Laid config first ops)
    (oldestPsn : context.oldestUnacknowledgedPsn = psnOf oldest)
    (nextOldest : next.oldestUnacknowledgedPsn = psnOf first)
    (maxPsn : context.maxPsn = psnOf max) (nextMax : next.maxPsn = psnOf max)
    (begun : oldest ≤ first) (sent : first ≤ max) (posted : max ≤ first + span config ops)
    (fits : first + span config ops < oldest + 2 ^ 24) (member : op ∈ ops) :
    acks next psn op = acks context psn op := by
  obtain ⟨last, above, below, endPsn⟩ := laid_end laid member
  apply Bool.eq_iff_iff.2
  rw [acks_iff nextOldest nextMax sent (by omega) endPsn above (by omega),
    acks_iff oldestPsn maxPsn (begun.trans sent) (by omega) endPsn (begun.trans above) (by omega)]

theorem take_while_congr {p q : RdmaOp → Bool} (same : ∀ op ∈ ops, p op = q op) :
    ops.takeWhile p = ops.takeWhile q := by
  induction ops with
  | nil => rfl
  | cons op rest ih =>
    rw [List.takeWhile_cons, List.takeWhile_cons, same op (List.mem_cons_self ..),
      ih fun other member => same other (List.mem_cons_of_mem _ member)]

/-- The loop completes the operations that are acknowledged. -/
theorem complete_ops_eq (psn : Psn) {max : Nat} (maxPsn : context.maxPsn = psnOf max)
    {first oldest : Nat} (laid : Laid config first ops) (queue : context.sendQueue = ops)
    (oldestPsn : context.oldestUnacknowledgedPsn = psnOf oldest) (begun : first ≤ oldest)
    (sent : oldest ≤ max) (posted : max ≤ first + span config ops)
    (fits : first + span config ops < oldest + 2 ^ 24)
    (head : ∀ op rest, ops = op :: rest → oldest < first + packetsOf config op) (completed : Bool) :
    completeOps psn ops context completed =
      (completing context (ops.takeWhile (acks context psn)),
        completed || !(ops.takeWhile (acks context psn)).isEmpty) := by
  induction ops generalizing context first oldest completed with
  | nil => simp [completeOps, completing, oldestAfter]
  | cons op rest ih =>
    obtain ⟨⟨_, _, _, endPsn⟩, laidRest⟩ := laid
    have within := head op rest rfl
    have positive := packets_pos config op
    rw [span_cons] at posted fits
    by_cases acked : acks context psn op = true
    · have covered :=
        (acks_iff oldestPsn maxPsn sent (by omega) endPsn (by omega) (by omega)).1 acked
      obtain ⟨number, above, below, _⟩ := covered.2
      let next := { context with
        oldestUnacknowledgedPsn := psnAdd op.endPsn 1 }.completeOpAtHead
      have nextMax : next.maxPsn = psnOf max := maxPsn
      have nextOldest : next.oldestUnacknowledgedPsn = psnOf (first + packetsOf config op) := by
        show psnAdd op.endPsn 1 = _
        rw [endPsn, psn_add_one, Nat.sub_add_cancel (by omega)]
      have nextQueue : next.sendQueue = rest := by
        simp [next, completeOpAtHead, queue]
      have nextHead : ∀ other more, rest = other :: more →
          first + packetsOf config op < first + packetsOf config op + packetsOf config other :=
        fun other _ _ => Nat.lt_add_of_pos_right (packets_pos config other)
      have further := ih nextMax laidRest nextQueue nextOldest le_rfl (by omega) (by omega)
        (by omega) nextHead true
      have same : rest.takeWhile (acks next psn) = rest.takeWhile (acks context psn) :=
        take_while_congr fun other member => acks_after laidRest oldestPsn nextOldest maxPsn nextMax
          (by omega) (by omega) (by omega) (by omega) member
      rw [completeOps, if_pos (by simpa [acks] using acked), List.takeWhile_cons_of_pos acked]
      refine further.trans ?_
      rw [same, completing_cons queue]
      simp
    · rw [completeOps, if_neg (by simpa [acks] using acked),
        List.takeWhile_cons_of_neg (by simpa using acked)]
      simp [completing, oldestAfter]

section Acknowledged
variable {first oldest max : Nat} (based : Based config context first oldest max) (psn : Psn)
include based

theorem complete_op_till_eq :
    context.completeOpTillPsn psn =
      (completing context (ackedBy context psn), !(ackedBy context psn).isEmpty) := by
  have completed := complete_ops_eq psn based.maxPsn based.laid rfl based.oldestPsn
    based.begun based.sent based.posted based.fits based.head false
  simpa [completeOpTillPsn, ackedBy] using completed

omit psn in
/-- No operation in the queue is acknowledged to its end. -/
theorem Based.before_end {front back : List RdmaOp}
    (parts : context.sendQueue = front ++ op :: back) :
    oldest < first + span config front + packetsOf config op := by
  cases front with
  | nil =>
    rw [span_nil]
    exact based.head op back parts
  | cons head rest =>
    have within := based.head head (rest ++ op :: back) parts
    rw [span_cons]
    omega

omit psn in
theorem Based.op_spec {front back : List RdmaOp} (parts : context.sendQueue = front ++ op :: back) :
    op.opcode ≠ .recv ∧ packetsOf config op < 2 ^ 24 ∧
      op.psn = psnOf (first + span config front) ∧
      op.endPsn = psnOf (first + span config front + packetsOf config op - 1) := by
  have laid := based.laid
  rw [parts] at laid
  exact (laid_append.1 laid).2.1

/-- What an acknowledgement up to `psn` means for an operation in the queue. -/
theorem Based.acks_op_iff {front back : List RdmaOp}
    (parts : context.sendQueue = front ++ op :: back) :
    acks context psn op = true ↔ op.opcode ≠ .read ∧ ∃ number,
      psn = psnOf number ∧ oldest ≤ number ∧ number < max ∧
        first + span config front + packetsOf config op ≤ number + 1 := by
  have before := based.before_end parts
  have fits := based.fits
  have positive := packets_pos config op
  rw [parts, span_append, span_cons] at fits
  obtain ⟨_, _, _, endPsn⟩ := based.op_spec parts
  rw [acks_iff based.oldestPsn based.maxPsn based.sent based.near endPsn (by omega) (by omega)]
  refine and_congr_right fun _ => ⟨?_, ?_⟩
  · rintro ⟨number, above, below, same⟩
    exact ⟨number, same, by omega, below, by omega⟩
  · rintro ⟨number, same, _, below, above⟩
    exact ⟨number, by omega, below, same⟩

/-- What is acknowledged is behind the acknowledgement, and what is left at the head is a read or
ahead of it. -/
theorem acked_spec : ∃ rest, context.sendQueue = ackedBy context psn ++ rest ∧
    (ackedBy context psn ≠ [] → ∃ number, psn = psnOf number ∧ oldest ≤ number ∧ number < max ∧
      first + span config (ackedBy context psn) ≤ number + 1) ∧
    ∀ op more, rest = op :: more → op.opcode = .read ∨
      ∀ number, oldest ≤ number → number < max → psn = psnOf number →
        number + 1 < first + span config (ackedBy context psn) + packetsOf config op := by
  have parts : context.sendQueue = ackedBy context psn ++
      context.sendQueue.dropWhile (acks context psn) := List.takeWhile_append_dropWhile.symm
  refine ⟨_, parts, fun some => ?_, fun op more rest => ?_⟩
  · obtain ⟨ops, op, last⟩ := (List.eq_nil_or_concat' (ackedBy context psn)).resolve_left some
    have acked : acks context psn op = true :=
      List.mem_takeWhile_imp (show op ∈ ackedBy context psn by simp [last])
    have split : context.sendQueue = ops ++ op :: context.sendQueue.dropWhile (acks context psn) := by
      refine parts.trans ?_
      rw [last]
      simp
    obtain ⟨_, number, same, above, below, reaches⟩ := (based.acks_op_iff psn split).1 acked
    refine ⟨number, same, above, below, ?_⟩
    rw [last, span_append, span_cons, span_nil]
    omega
  · have stops : acks context psn op = false := by
      have some : context.sendQueue.dropWhile (acks context psn) ≠ [] := by
        rw [rest]
        exact List.cons_ne_nil _ _
      simpa [rest] using List.head_dropWhile_not (acks context psn) some
    rw [or_iff_not_imp_left]
    intro data number above below same
    by_contra reaches
    have acked := (based.acks_op_iff psn (rest ▸ parts)).2
      ⟨data, number, same, above, below, by omega⟩
    rw [stops] at acked
    cases acked

end Acknowledged

/-! ## Moving on -/

section Moving
variable {first oldest max : Nat} {done todo : List RdmaOp} {next : Nat}

/-- Everything before a number in the operation at the head is acknowledged. -/
theorem Based.advance (based : Based config context first oldest max)
    (queue : context.sendQueue = op :: rest) {number : Nat} (above : oldest ≤ number)
    (below : number < max) (within : number + 1 < first + packetsOf config op) {after : QpContext}
    (sameQueue : after.sendQueue = context.sendQueue) (sameMax : after.maxPsn = context.maxPsn)
    (sameTail : after.tailPsn = context.tailPsn)
    (oldestPsn : after.oldestUnacknowledgedPsn = psnOf (number + 1)) :
    Based config after first (number + 1) max where
  laid := sameQueue ▸ based.laid
  unsplit := sameQueue ▸ based.unsplit
  oldestPsn := oldestPsn
  maxPsn := sameMax.trans based.maxPsn
  tailPsn := by rw [sameTail, sameQueue, based.tailPsn]
  fits := by
    have := based.fits
    rw [sameQueue]
    omega
  begun := by
    have := based.begun
    omega
  sent := below
  posted := sameQueue ▸ based.posted
  head := by
    rw [sameQueue, queue]
    rintro other more ⟨⟩
    exact within

/-- Operations at the head of the queue are completed. -/
theorem Based.complete (based : Based config context first oldest max)
    (queue : context.sendQueue = ops ++ rest) (reached : first + span config ops ≤ max) :
    Based config (completing context ops) (first + span config ops)
      (Max.max oldest (first + span config ops)) max := by
  have left : (completing context ops).sendQueue = rest := by simp [completing, queue]
  have fits := based.fits
  have posted := based.posted
  have begun := based.begun
  rw [queue, span_append] at fits posted
  have oldestPsn : oldestAfter context ops = psnOf (Max.max oldest (first + span config ops)) := by
    rcases List.eq_nil_or_concat' ops with rfl | ⟨before, op, rfl⟩
    · rw [span_nil, Nat.add_zero, Nat.max_eq_left begun]
      exact based.oldestPsn
    · have split : context.sendQueue = before ++ op :: rest := by simpa using queue
      have behind := based.before_end split
      obtain ⟨_, _, _, endPsn⟩ := based.op_spec split
      rw [span_append, span_cons, span_nil, Nat.max_eq_right (by omega)]
      simp only [oldestAfter, List.getLast?_concat, Option.map_some, Option.getD_some, endPsn]
      have positive := packets_pos config op
      rw [psn_add_one]
      congr 1
      omega
  have lower : first + span config ops ≤ Max.max oldest (first + span config ops) :=
    Nat.le_max_right ..
  refine ⟨?_, ?_, oldestPsn, based.maxPsn, ?_, ?_, lower, Nat.max_le.2 ⟨based.sent, reached⟩, ?_, ?_⟩
  · rw [left]
    exact (laid_append.1 (queue ▸ based.laid)).2
  · rw [left]
    exact (unsplit_append.1 (queue ▸ based.unsplit)).2
  · rw [left]
    refine based.tailPsn.trans ?_
    rw [queue, span_append, add_assoc]
  · rw [left]
    omega
  · rw [left]
    omega
  · intro op more head
    rw [left] at head
    have before := based.before_end (head ▸ queue)
    have positive := packets_pos config op
    exact Nat.max_lt.2 ⟨before, by omega⟩

/-- What going back and starting over have in common. -/
def rewound (context : QpContext) : QpContext :=
  { context with
    nextPsn := context.oldestUnacknowledgedPsn
    nextOpIndex := 0 }.addWorkQueueToActiveSet .request

/-- Going back finds something to send, or leaves an inactive queue inactive. -/
def Resumes (context : QpContext) : Prop :=
  context.sendQueue ≠ [] ∨
    context.isRequestQueueActive = false ∧ context.inboundReadRequestQueue = []

theorem rewound_queue (context : QpContext) : (rewound context).sendQueue = context.sendQueue := by
  unfold rewound addWorkQueueToActiveSet setWorkQueueActive
  split_ifs <;> rfl

theorem rewound_placed (based : Based config context first oldest max)
    (resumes : Resumes context) :
    Placed config (rewound context) [] context.sendQueue first oldest oldest max := by
  have active : (rewound context).isRequestQueueActive = true ↔ context.sendQueue ≠ [] := by
    unfold rewound addWorkQueueToActiveSet setWorkQueueActive
    rcases resumes with some | ⟨inactive, none⟩
    · have more : ¬ (context.sendQueue.length ≤ (0 : UInt32).toNat ∧
          context.inboundReadRequestQueue.isEmpty = true) := by
        rintro ⟨empty, _⟩
        exact some (List.length_eq_zero_iff.1 (Nat.le_zero.1 empty))
      rw [if_neg more]
      simp [some]
    · by_cases empty : context.sendQueue = []
      · rw [if_pos (by simp [empty, none])]
        simp [empty, inactive]
      · rw [if_neg (by simp [empty])]
        simp [empty]
  have same : (rewound context).oldestUnacknowledgedPsn = context.oldestUnacknowledgedPsn ∧
      (rewound context).maxPsn = context.maxPsn ∧ (rewound context).tailPsn = context.tailPsn ∧
      (rewound context).nextPsn = context.oldestUnacknowledgedPsn ∧
      (rewound context).nextOpIndex = 0 := by
    unfold rewound addWorkQueueToActiveSet setWorkQueueActive
    split_ifs <;> exact ⟨rfl, rfl, rfl, rfl, rfl⟩
  obtain ⟨sameOldest, sameMax, sameTail, nextPsn, index⟩ := same
  have queue := rewound_queue context
  refine ⟨⟨queue ▸ based.laid, queue ▸ based.unsplit, sameOldest.trans based.oldestPsn,
    sameMax.trans based.maxPsn, ?_, queue ▸ based.fits, based.begun, based.sent,
    queue ▸ based.posted, queue ▸ based.head⟩, queue, by simp [index],
    nextPsn.trans based.oldestPsn, le_rfl, based.sent, based.begun, based.head, active⟩
  rw [queue, sameTail, based.tailPsn]

/-- Completing operations that are all behind the next packet leaves it in its place. -/
theorem Placed.complete (placed : Placed config context done todo first oldest next max)
    (split : done = ops ++ rest) :
    Placed config (completing context ops) rest todo (first + span config ops)
      (Max.max oldest (first + span config ops)) next max := by
  have queue : context.sendQueue = ops ++ (rest ++ todo) := by
    rw [placed.queue, split, List.append_assoc]
  have after := placed.nextAfter
  have small := context.nextOpIndex.toNat_lt
  have index := placed.index
  have within := placed.nextWithin
  rw [split, span_append] at after within
  rw [split, List.length_append] at index
  have reached : first + span config ops ≤ max := by
    have := placed.nextMax
    omega
  refine ⟨placed.toBased.complete queue reached, by simp [completing, queue], ?_, placed.nextPsn,
    Nat.max_le.2 ⟨placed.oldestNext, by omega⟩, placed.nextMax, by omega, ?_, placed.active⟩
  · simp only [completing, UInt32.toNat_sub, UInt32.toNat_ofNat', index]
    omega
  · intro op more head
    have := within op more head
    omega

/-- The requester is as it was, apart from what its packets do not depend on. -/
structure SameRequester (before after : QpContext) : Prop where
  queue : after.sendQueue = before.sendQueue
  index : after.nextOpIndex = before.nextOpIndex
  nextPsn : after.nextPsn = before.nextPsn
  oldestPsn : after.oldestUnacknowledgedPsn = before.oldestUnacknowledgedPsn
  maxPsn : after.maxPsn = before.maxPsn
  tailPsn : after.tailPsn = before.tailPsn
  active : after.isRequestQueueActive = before.isRequestQueueActive

theorem Based.same (based : Based config context first oldest max) {after : QpContext}
    (same : SameRequester context after) : Based config after first oldest max := by
  obtain ⟨queue, _, _, oldestPsn, maxPsn, tailPsn, _⟩ := same
  refine ⟨?_, ?_, ?_, ?_, ?_, ?_, based.begun, based.sent, ?_, ?_⟩
  · exact queue ▸ based.laid
  · exact queue ▸ based.unsplit
  · exact oldestPsn.trans based.oldestPsn
  · exact maxPsn.trans based.maxPsn
  · rw [tailPsn, queue, based.tailPsn]
  · exact queue ▸ based.fits
  · exact queue ▸ based.posted
  · exact queue ▸ based.head

theorem Placed.same (placed : Placed config context done todo first oldest next max)
    {after : QpContext} (same : SameRequester context after) :
    Placed config after done todo first oldest next max := by
  refine ⟨placed.toBased.same same, ?_, ?_, ?_, placed.oldestNext, placed.nextMax,
    placed.nextAfter, placed.nextWithin, ?_⟩
  · exact same.queue.trans placed.queue
  · rw [same.index, placed.index]
  · exact same.nextPsn.trans placed.nextPsn
  · rw [same.active]
    exact placed.active

/-! ## Posting -/

/-- The outstanding packets and those of a posted operation can be told apart. -/
def Numbers (config : Config) (context : QpContext) (op : RdmaOp) : Prop :=
  op.opcode ≠ .recv →
    (psnSubtract context.tailPsn context.oldestUnacknowledgedPsn).toNat + packetsOf config op < 2 ^ 24

theorem posted_placed (placed : Placed config context done todo first oldest next max)
    (numbers : Numbers config context op) :
    ∃ more, (op.opcode ≠ .recv → more ≠ []) ∧
      Placed config (context.postOp config op) done (todo ++ more) first oldest next max := by
  unfold postOp
  by_cases receives : op.opcode = .recv
  · rw [if_pos receives]
    refine ⟨[], fun data => absurd receives data, ?_⟩
    rw [List.append_nil]
    exact placed.same ⟨rfl, rfl, rfl, rfl, rfl, rfl, rfl⟩
  · rw [if_neg receives]
    let posted : RdmaOp := { op with
      psn := context.tailPsn
      endPsn := psnAdd context.tailPsn (BitVec.ofNat 24
        ((if op.length = 0 then 0 else op.length - 1) / config.rdmaMtu).toNat) }
    have packets : packetsOf config posted = packetsOf config op := rfl
    have positive := packets_pos config op
    have fits := placed.fits
    have ordered := placed.sent.trans placed.posted
    have room := numbers receives
    rw [placed.tailPsn, placed.oldestPsn, psnSubtract, psn_distance ordered fits] at room
    have endPsn : posted.endPsn =
        psnOf (first + span config context.sendQueue + packetsOf config op - 1) := by
      simp only [posted, placed.tailPsn, psn_add_of]
      rfl
    have more : ¬ ((context.sendQueue ++ [posted]).length ≤ context.nextOpIndex.toNat ∧
        context.inboundReadRequestQueue.isEmpty = true) := by
      rw [placed.index, placed.queue]
      simp only [List.length_append, List.length_singleton]
      omega
    refine ⟨[posted], fun _ => List.cons_ne_nil _ _, ?_⟩
    simp only [addWorkQueueToActiveSet]
    rw [if_neg more]
    have begun := placed.begun
    refine ⟨⟨?_, ?_, placed.oldestPsn, placed.maxPsn, ?_, ?_, begun, placed.sent, ?_, ?_⟩, ?_,
      placed.index, placed.nextPsn, placed.oldestNext, placed.nextMax, placed.nextAfter, ?_, ?_⟩
    · have few : packetsOf config posted < 2 ^ 24 := by omega
      exact laid_append.2 ⟨placed.laid, ⟨receives, few, placed.tailPsn, endPsn⟩, trivial⟩
    · exact unsplit_append.2 ⟨placed.unsplit, unsplit_ahead placed.posted⟩
    · simp only [setWorkQueueActive]
      change psnAdd posted.endPsn 1 = psnOf (first + span config (context.sendQueue ++ [posted]))
      rw [endPsn, psn_add_one, span_append, span_cons, span_nil, packets]
      congr 1
      omega
    · change first + span config (context.sendQueue ++ [posted]) < oldest + 2 ^ 24
      rw [span_append, span_cons, span_nil, packets]
      omega
    · change max ≤ first + span config (context.sendQueue ++ [posted])
      have := placed.posted
      rw [span_append]
      omega
    · intro head rest split
      replace split : context.sendQueue ++ [posted] = head :: rest := split
      rcases queue : context.sendQueue with _ | ⟨old, others⟩
      · rw [queue] at split ordered
        obtain ⟨rfl, -⟩ := List.cons.inj split
        rw [span_nil] at ordered
        omega
      · rw [queue] at split
        obtain ⟨rfl, -⟩ := List.cons.inj split
        exact placed.head old others queue
    · simp only [setWorkQueueActive]
      change context.sendQueue ++ [posted] = done ++ (todo ++ [posted])
      rw [placed.queue, List.append_assoc]
    · intro head rest split
      rcases todo with _ | ⟨old, others⟩
      · obtain ⟨rfl, -⟩ := List.cons.inj split
        have bounded := placed.nextMax.trans placed.posted
        rw [placed.queue, List.append_nil] at bounded
        omega
      · obtain ⟨rfl, -⟩ := List.cons.inj split
        exact placed.nextWithin old others rfl
    · simp [setWorkQueueActive]

/-! ## Sending -/

/-- The packet that is to be sent next. -/
theorem Placed.current (placed : Placed config context done todo first oldest next max) :
    context.sendQueue[context.nextOpIndex.toNat]? = todo.head? := by
  rw [placed.queue, placed.index, List.getElem?_append_right le_rfl, Nat.sub_self,
    List.head?_eq_getElem?]

theorem Placed.create (placed : Placed config context done (op :: more) first oldest next max) :
    ∃ packet, context.createRequestPacket config = .ok (packet, context.advanceRequest op) := by
  have data : op.opcode ≠ .recv := (placed.op_spec placed.queue).1
  obtain ⟨packet, made⟩ : ∃ packet, requestPacket config op context.nextPsn = .ok packet := by
    unfold requestPacket
    rcases opcode : op.opcode
    · exact absurd opcode data
    all_goals exact ⟨_, rfl⟩
  refine ⟨packet, ?_⟩
  rw [createRequestPacket, placed.current]
  simp only [List.head?_cons, made, Except.map]

/-- What is sent for the first time splits no read. -/
theorem Placed.unsplit_sent
    (placed : Placed config context done (op :: more) first oldest max max) {sent : Nat}
    (forward : max ≤ sent) (within : sent ≤ first + span config done + packetsOf config op)
    (whole : op.opcode = .read → sent = first + span config done + packetsOf config op) :
    Unsplit config sent first context.sendQueue := by
  rw [placed.queue]
  have behind := placed.nextAfter
  refine unsplit_append.2 ⟨unsplit_behind (by omega), fun read => .inr (whole read).ge, ?_⟩
  exact unsplit_ahead within

/-- The state after a packet of the operation at the index is sent. -/
theorem Placed.move {after : List RdmaOp} {before : List RdmaOp}
    (placed : Placed config context done (op :: more) first oldest next max) {moved : QpContext}
    (sameQueue : moved.sendQueue = context.sendQueue)
    (sameOldest : moved.oldestUnacknowledgedPsn = context.oldestUnacknowledgedPsn)
    (sameTail : moved.tailPsn = context.tailPsn) (split : before ++ after = done ++ op :: more)
    (index : moved.nextOpIndex.toNat = before.length) {further sent : Nat}
    (nextPsn : moved.nextPsn = psnOf further) (maxPsn : moved.maxPsn = psnOf sent)
    (onward : next ≤ further) (covered : further ≤ sent)
    (posted : sent ≤ first + span config context.sendQueue)
    (unsplit : Unsplit config sent first context.sendQueue)
    (nextAfter : first + span config before ≤ further)
    (nextWithin : ∀ other rest, after = other :: rest →
      further < first + span config before + packetsOf config other)
    (active : moved.isRequestQueueActive = true ↔ after ≠ []) :
    Placed config moved before after first oldest further sent := by
  have ordered := placed.oldestNext
  refine ⟨⟨sameQueue ▸ placed.laid, sameQueue ▸ unsplit, sameOldest.trans placed.oldestPsn, maxPsn,
    ?_, sameQueue ▸ placed.fits, placed.begun, by omega, sameQueue ▸ posted,
    sameQueue ▸ placed.head⟩, ?_, index, nextPsn, by omega, covered, nextAfter, nextWithin, active⟩
  · rw [sameQueue, sameTail, placed.tailPsn]
  · rw [sameQueue, placed.queue, split]

/-- There is work as long as operations are left. -/
theorem more_work {before after : List RdmaOp} (queue : context.sendQueue = before ++ after)
    (index : context.nextOpIndex.toNat = before.length) :
    context.hasMoreWork .request = true ↔ after ≠ [] := by
  simp only [hasMoreWork, decide_eq_true_eq, queue, index, List.length_append]
  rw [← List.length_pos_iff]
  omega

/-- After a packet of an operation, the next one is of the same operation or, if that was its last,
of the one after it. -/
theorem advanced_placed (placed : Placed config context done (op :: more) first oldest next max) :
    ∃ done todo further max, next < further ∧ Placed config { context.advanceRequest op with
      isRequestQueueActive := (context.advanceRequest op).hasMoreWork .request }
        done todo first oldest further max := by
  obtain ⟨_, _, _, endPsn⟩ := placed.op_spec placed.queue
  have positive := packets_pos config op
  have fits := placed.fits
  have ordered := placed.oldestNext
  have covered := placed.nextMax
  have posted := placed.posted
  have after := placed.nextAfter
  have within := placed.nextWithin op more rfl
  have whole : first + span config context.sendQueue =
      first + span config done + packetsOf config op + span config more := by
    rw [placed.queue, span_append, span_cons]
    omega
  have counted : done.length + 1 < 2 ^ 32 := by
    rcases done with _ | ⟨head, rest⟩
    · decide
    · have within := placed.head head (rest ++ op :: more) placed.queue
      have few := length_le_span config rest
      rw [placed.queue, span_append, span_cons] at fits
      rw [List.length_cons]
      omega
  have index : (context.nextOpIndex + 1).toNat = (done ++ [op]).length := by
    rw [UInt32.toNat_add, placed.index, List.length_append]
    exact Nat.mod_eq_of_lt counted
  have fresh : context.maxPsn = context.nextPsn ↔ max = next := by
    rw [placed.maxPsn, placed.nextPsn]
    exact psn_inj oldest placed.sent (by omega) ordered (by omega)
  have final : context.nextPsn = op.endPsn ↔
      next = first + span config done + packetsOf config op - 1 := by
    rw [placed.nextPsn, endPsn]
    exact psn_inj oldest ordered (by omega) (by omega) (by omega)
  have split : context.sendQueue = (done ++ [op]) ++ more := by
    rw [placed.queue, List.append_assoc]
    rfl
  have through : first + span config (done ++ [op]) =
      first + span config done + packetsOf config op := by
    rw [span_append, span_cons, span_nil]
    omega
  have nextStart : ∀ other rest, more = other :: rest → first + span config done +
      packetsOf config op < first + span config (done ++ [op]) + packetsOf config other := by
    intro other _ _
    have := packets_pos config other
    omega
  by_cases read : op.opcode = .read
  · -- A read is sent as a whole, whether it is new or sent again.
    have endNext : psnAdd op.endPsn 1 = psnOf (first + span config done + packetsOf config op) := by
      rw [endPsn, psn_add_one]
      congr 1
    have sent : ∃ sent, (if context.maxPsn = context.nextPsn then psnAdd op.endPsn 1
          else context.maxPsn) = psnOf sent ∧
        first + span config done + packetsOf config op ≤ sent ∧
        sent ≤ first + span config context.sendQueue ∧
        Unsplit config sent first context.sendQueue := by
      by_cases new : max = next
      · subst new
        rw [if_pos (fresh.2 rfl)]
        exact ⟨_, endNext, le_rfl, by omega, placed.unsplit_sent (by omega) le_rfl fun _ => rfl⟩
      · rw [if_neg (mt fresh.1 new)]
        have unsplit := placed.unsplit
        rw [placed.queue] at unsplit
        have before := (unsplit_append.1 unsplit).2.1 read
        exact ⟨max, placed.maxPsn, by omega, posted, placed.unsplit⟩
    obtain ⟨sent, maxPsn, reaches, bounded, unsplit⟩ := sent
    refine ⟨done ++ [op], more, first + span config done + packetsOf config op, sent, within, ?_⟩
    simp only [advanceRequest, read, if_true]
    refine placed.move (by rfl) (by rfl) (by rfl) (split.symm.trans placed.queue) index endNext
      maxPsn (by omega) reaches bounded unsplit through.le nextStart ?_
    exact more_work split index
  · have sent : ∃ sent, (if context.maxPsn = context.nextPsn then psnAdd context.maxPsn 1
          else context.maxPsn) = psnOf sent ∧ next + 1 ≤ sent ∧
        sent ≤ first + span config context.sendQueue ∧
        Unsplit config sent first context.sendQueue := by
      by_cases new : max = next
      · subst new
        rw [if_pos (fresh.2 rfl), placed.maxPsn, psn_add_one]
        exact ⟨_, rfl, le_rfl, by omega, placed.unsplit_sent (by omega) (by omega)
          fun isRead => absurd isRead read⟩
      · rw [if_neg (mt fresh.1 new)]
        exact ⟨max, placed.maxPsn, by omega, posted, placed.unsplit⟩
    obtain ⟨sent, maxPsn, reaches, bounded, unsplit⟩ := sent
    have nextPsn : psnAdd context.nextPsn 1 = psnOf (next + 1) := by
      rw [placed.nextPsn, psn_add_one]
    by_cases last : next = first + span config done + packetsOf config op - 1
    · refine ⟨done ++ [op], more, next + 1, sent, Nat.lt_succ_self _, ?_⟩
      simp only [advanceRequest, read, if_false, if_pos (final.2 last)]
      refine placed.move (by rfl) (by rfl) (by rfl) (split.symm.trans placed.queue) index nextPsn
        maxPsn (by omega) reaches bounded unsplit (by omega) (fun other rest same => ?_)
        (more_work split index)
      have := nextStart other rest same
      omega
    · refine ⟨done, op :: more, next + 1, sent, Nat.lt_succ_self _, ?_⟩
      simp only [advanceRequest, read, if_false, if_neg (mt final.1 last)]
      refine placed.move (by rfl) (by rfl) (by rfl) rfl (by exact placed.index) nextPsn maxPsn
        (by omega) reaches bounded unsplit (by omega) ?_ (more_work placed.queue placed.index)
      rintro other rest ⟨⟩
      omega

/-! ## Acknowledging -/

/-- The sequence number is before the next one. -/
def Behind (context : QpContext) (psn : Psn) : Prop :=
  (psnSubtract psn context.oldestUnacknowledgedPsn).toNat <
    (psnSubtract context.nextPsn context.oldestUnacknowledgedPsn).toNat

theorem Placed.behind_iff (placed : Placed config context done todo first oldest next max)
    {number : Nat} (above : oldest ≤ number) (below : number ≤ max) :
    Behind context (psnOf number) ↔ number < next := by
  have near := placed.near
  have ordered := placed.oldestNext
  have covered := placed.nextMax
  unfold Behind psnSubtract
  rw [placed.oldestPsn, placed.nextPsn, psn_distance above (by omega),
    psn_distance ordered (by omega)]
  omega

/-- Operations that end before the next packet are all done. -/
theorem Placed.prefix (placed : Placed config context done todo first oldest next max)
    (queue : context.sendQueue = ops ++ rest) (reached : first + span config ops ≤ next) :
    ∃ more, done = ops ++ more ∧ rest = more ++ todo := by
  rcases List.append_eq_append_iff.1 (placed.queue.symm.trans queue) with
    ⟨extra, opsSplit, todoSplit⟩ | ⟨more, doneSplit, restSplit⟩
  · rcases extra with _ | ⟨op, others⟩
    · exact ⟨[], by simpa using opsSplit.symm, by simpa using todoSplit.symm⟩
    · have within := placed.nextWithin op (others ++ rest) todoSplit
      rw [opsSplit, span_append, span_cons] at reached
      omega
  · exact ⟨more, doneSplit, restSplit⟩

theorem Placed.prefix_of_index (placed : Placed config context done todo first oldest next max)
    (queue : context.sendQueue = ops ++ rest) (few : ops.length ≤ context.nextOpIndex.toNat) :
    ∃ more, done = ops ++ more ∧ rest = more ++ todo := by
  rw [placed.index] at few
  rcases List.append_eq_append_iff.1 (placed.queue.symm.trans queue) with
    ⟨extra, opsSplit, todoSplit⟩ | ⟨more, doneSplit, restSplit⟩
  · rw [opsSplit, List.length_append] at few
    obtain rfl : extra = [] := List.length_eq_zero_iff.1 (by omega)
    exact ⟨[], by simpa using opsSplit.symm, by simpa using todoSplit.symm⟩
  · exact ⟨more, doneSplit, restSplit⟩

/-- Everything before a number in the operation at the head is acknowledged, and it was sent. -/
theorem Placed.advance (placed : Placed config context done todo first oldest next max)
    (queue : context.sendQueue = op :: rest) {number : Nat} (above : oldest ≤ number)
    (below : number < next) (within : number + 1 < first + packetsOf config op)
    (oldestPsn : psn = psnOf (number + 1)) :
    Placed config { context with oldestUnacknowledgedPsn := psn } done todo first (number + 1) next
      max := by
  have covered := placed.nextMax
  exact ⟨placed.toBased.advance queue above (by omega) within rfl rfl rfl oldestPsn, placed.queue,
    placed.index, placed.nextPsn, below, covered, placed.nextAfter, placed.nextWithin,
    placed.active⟩

theorem go_back_eq : context.goBackN = { rewound context with
    highestPsnWithAckReq := psnAdd (rewound context).oldestUnacknowledgedPsn (-1)
    rtoTriggerTime := 0 } := rfl

theorem go_back_placed (based : Based config context first oldest max)
    (resumes : Resumes context) :
    Placed config context.goBackN [] context.sendQueue first oldest oldest max := by
  rw [go_back_eq]
  exact (rewound_placed based resumes).same ⟨rfl, rfl, rfl, rfl, rfl, rfl, rfl⟩

/-- The queue pair after an acknowledgement of whole operations. -/
def acknowledged (context : QpContext) (psn : Psn) : QpContext :=
  completing context (ackedBy context psn)

/-- The queue pair after an acknowledgement that ends in an operation. -/
def acknowledgedTo (context : QpContext) (psn : Psn) : QpContext :=
  { acknowledged context psn with oldestUnacknowledgedPsn := psnAdd psn 1 }

/-- A `kNak` of a sequence error. -/
def isNak (packet : Packet) : Bool :=
  packet.ackType = .nak ∧ packet.nakType = .psnSequenceError

/-- What an acknowledgement or a negative one does to the queue pair, and whether it resets the
timer, when it leaves these operations in the queue. -/
inductive AckOutcome (context : QpContext) (packet : Packet) (rest : List RdmaOp) :
    QpContext → Bool → Prop where
  | ignored : AckOutcome context packet rest context false
  | completed (plain : packet.ackType = .ack)
    (stops : (acknowledged context packet.psn).psnIsValidAtInitiator packet.psn = true →
      ∃ op more, rest = op :: more ∧ op.opcode = .read ∧ packet.psn = op.endPsn) :
    AckOutcome context packet rest (acknowledged context packet.psn)
      (!(ackedBy context packet.psn).isEmpty)
  | advanced (op : RdmaOp) (more : List RdmaOp) (plain : packet.ackType = .ack)
    (queue : rest = op :: more) (data : op.opcode ≠ .read)
    (valid : (acknowledged context packet.psn).psnIsValidAtInitiator packet.psn = true) :
    AckOutcome context packet rest (acknowledgedTo context packet.psn) true
  | wentBack (flag : Bool)
    (reason : isNak packet = true ∨ ∃ op more, rest = op :: more ∧ op.opcode = .read) :
    AckOutcome context packet rest (acknowledged context packet.psn).goBackN flag
  | advancedBack (op : RdmaOp) (more : List RdmaOp) (queue : rest = op :: more)
    (data : op.opcode ≠ .read)
    (valid : (acknowledged context packet.psn).psnIsValidAtInitiator packet.psn = true) :
    AckOutcome context packet rest (acknowledgedTo context packet.psn).goBackN true

theorem acknowledged_queue (queue : context.sendQueue = ackedBy context psn ++ rest) :
    (acknowledged context psn).sendQueue = rest := by
  simp only [acknowledged, completing]
  conv_lhs => rw [queue]
  simp

/-- An acknowledgement once its operations are completed. -/
theorem process_rx_ack_eq (based : Based config context first oldest max) :
    context.processRxAck packet =
      if !context.psnIsValidAtInitiator packet.psn then .ok (context, false)
      else if packet.ackType = .ack ∨ isNak packet = true then
        if (acknowledged context packet.psn).psnIsValidAtInitiator packet.psn = true then
          match (acknowledged context packet.psn).sendQueue.head? with
          | none => .error .emptySendQueue
          | some op =>
            if op.opcode = .read then
              if psnBetween packet.psn op.psn op.endPsn ∧ packet.psn ≠ op.endPsn then
                .error .ackInsideRead
              else if isNak packet = true ∨ packet.psn ≠ op.endPsn then
                .ok ((acknowledged context packet.psn).goBackN,
                  !(ackedBy context packet.psn).isEmpty)
              else .ok (acknowledged context packet.psn, !(ackedBy context packet.psn).isEmpty)
            else
              .ok (if isNak packet = true then (acknowledgedTo context packet.psn).goBackN
                else acknowledgedTo context packet.psn, true)
        else
          .ok (if isNak packet = true then (acknowledged context packet.psn).goBackN
            else acknowledged context packet.psn, !(ackedBy context packet.psn).isEmpty)
      else .ok (context, false) := by
  unfold processRxAck
  rw [complete_op_till_eq based]
  rfl

theorem ack_outcome (based : Based config context first oldest max)
    (queue : context.sendQueue = ackedBy context packet.psn ++ rest) :
    Ensures (context.processRxAck packet) fun (after, resetRto) =>
      AckOutcome context packet rest after resetRto := by
  rw [process_rx_ack_eq based]
  refine ensures_ite (fun _ => ensures_ok.2 .ignored) fun _ => ?_
  refine ensures_ite (fun accepted => ?_) fun _ => ensures_ok.2 .ignored
  have plain : isNak packet ≠ true → packet.ackType = .ack := fun other =>
    accepted.resolve_right other
  rw [acknowledged_queue queue]
  refine ensures_ite (fun valid => ?_) fun stale => ensures_ok.2 ?_
  · rcases rest with _ | ⟨op, more⟩
    · exact ensures_error
    · refine ensures_ite (fun read => ?_) fun data => ensures_ok.2 ?_
      · refine ensures_ite (fun _ => ensures_error) fun _ => ?_
        refine ensures_ite (fun _ => ensures_ok.2 ?_) fun ends => ensures_ok.2 ?_
        · exact .wentBack _ (.inr ⟨op, more, rfl, read⟩)
        · rw [not_or, not_not] at ends
          exact .completed (plain ends.1) fun _ => ⟨op, more, rfl, read, ends.2⟩
      · by_cases nak : isNak packet = true
        · rw [if_pos nak]
          exact .advancedBack op more rfl data valid
        · rw [if_neg nak]
          exact .advanced op more (plain nak) rfl data valid
  · by_cases nak : isNak packet = true
    · rw [if_pos nak]
      exact .wentBack _ (.inl nak)
    · rw [if_neg nak]
      exact .completed (plain nak) fun valid => absurd valid stale

/-- What an acknowledgement leaves in the queue lies ahead of what it completes. -/
theorem Based.left_spec (based : Based config context first oldest max)
    (queue : context.sendQueue = ops ++ rest) (member : op ∈ rest) :
    ∃ last, op.endPsn = psnOf last ∧ first + span config ops ≤ last ∧ oldest ≤ last ∧
      last < oldest + 2 ^ 24 := by
  obtain ⟨front, back, split⟩ := List.append_of_mem member
  have parts : context.sendQueue = (ops ++ front) ++ op :: back := by
    rw [queue, split, List.append_assoc]
  have before := based.before_end parts
  have fits := based.fits
  have positive := packets_pos config op
  obtain ⟨_, _, _, endPsn⟩ := based.op_spec parts
  rw [parts, span_append, span_cons, span_append] at fits
  rw [span_append] at before endPsn
  exact ⟨_, endPsn, by omega, by omega, by omega⟩

theorem acked_data (member : op ∈ ackedBy context psn) : op.opcode ≠ .read := by
  have acked : acks context psn op = true := List.mem_takeWhile_imp member
  exact (of_decide_eq_true acked).1

/-- An acknowledgement does not get ahead of what was sent again: it acknowledges only packets
before the next one, or a read in the queue ends before it and makes the requester go back, or it
ends with a read that the next packet has reached. A negative acknowledgement leaves an operation,
or else the request queue is not active and would not be. -/
def AckInStep (context : QpContext) (packet : Packet) : Prop :=
  context.psnIsValidAtInitiator packet.psn = true →
    (packet.ackType = .ack → Behind context packet.psn ∨
      (∃ op ∈ context.sendQueue, op.opcode = .read ∧
        (psnSubtract op.endPsn context.oldestUnacknowledgedPsn).toNat <
          (psnSubtract packet.psn context.oldestUnacknowledgedPsn).toNat) ∨
      ∃ op ∈ context.sendQueue.take (context.nextOpIndex.toNat + 1),
        op.opcode = .read ∧ op.endPsn = packet.psn) ∧
    (isNak packet = true → packet.psn = psnAdd context.tailPsn (-1) →
      (∃ op ∈ context.sendQueue, op.opcode = .read) ∨
        context.isRequestQueueActive = false ∧ context.inboundReadRequestQueue = [])

/-- The place of a queue pair, with the numbers that are left open. -/
def Stands (config : Config) (context : QpContext) : Prop :=
  ∃ done todo first oldest next max, Placed config context done todo first oldest next max

/-- The number of a valid acknowledgement, and how the queue pair stands when the operations before
it are completed. -/
theorem acked_based (based : Based config context first oldest max)
    (valid : context.psnIsValidAtInitiator psn = true) :
    ∃ number rest, psn = psnOf number ∧ oldest ≤ number ∧ number < max ∧
      context.sendQueue = ackedBy context psn ++ rest ∧
      first + span config (ackedBy context psn) ≤ Max.max first (number + 1) ∧
      Based config (acknowledged context psn) (first + span config (ackedBy context psn))
        (Max.max oldest (first + span config (ackedBy context psn))) max ∧
      ((acknowledged context psn).psnIsValidAtInitiator psn = true →
        Max.max oldest (first + span config (ackedBy context psn)) ≤ number) ∧
      ∀ op more, rest = op :: more → op.opcode ≠ .read →
        number + 1 < first + span config (ackedBy context psn) + packetsOf config op := by
  obtain ⟨number, above, below, same⟩ := based.valid_iff.1 valid
  obtain ⟨rest, queue, behind, ahead⟩ := acked_spec based psn
  have near := based.near
  have begun := based.begun
  have reached : first + span config (ackedBy context psn) ≤ Max.max first (number + 1) := by
    by_cases none : ackedBy context psn = []
    · rw [none, span_nil]
      exact Nat.le_max_left ..
    · obtain ⟨other, alike, otherAbove, otherBelow, reaches⟩ := behind none
      have := (psn_inj oldest above (by omega) otherAbove (by omega)).1 (same.symm.trans alike)
      exact le_trans (by omega) (Nat.le_max_right ..)
  have covered := based.sent
  have acked := based.complete queue (by omega)
  refine ⟨number, rest, same, above, below, queue, reached, acked, fun valid => ?_,
    fun op more split data => ((ahead op more split).resolve_left data) number above below same⟩
  obtain ⟨other, otherAbove, otherBelow, alike⟩ := acked.valid_iff.1 valid
  have := (psn_inj oldest above (by omega) (by omega) (by omega)).1 (same.symm.trans alike)
  omega

theorem ack_stands (placed : Placed config context done todo first oldest next max)
    (inStep : AckInStep context packet) :
    Ensures (context.processRxAck packet) fun (after, _) => Stands config after := by
  by_cases valid : context.psnIsValidAtInitiator packet.psn = true
  · obtain ⟨ackInStep, nakInStep⟩ := inStep valid
    obtain ⟨number, rest, same, above, below, queue, reached, based, outstanding, ahead⟩ :=
      acked_based placed.toBased valid
    have near := placed.near
    have begun := placed.begun
    have left (op : RdmaOp) (member : op ∈ context.sendQueue) (read : op.opcode = .read) :
        op ∈ rest := by
      rw [queue] at member
      exact (List.mem_append.1 member).resolve_left fun done => acked_data done read
    -- A read after a data operation that the acknowledgement ends in is ahead of it.
    have beyond (op : RdmaOp) (more : List RdmaOp) (split : rest = op :: more)
        (data : op.opcode ≠ .read) (other : RdmaOp) (member : other ∈ rest)
        (read : other.opcode = .read) : ∃ last, other.endPsn = psnOf last ∧ number < last ∧
          last < oldest + 2 ^ 24 := by
      have later : other ∈ more := by
        rw [split] at member
        exact (List.mem_cons.1 member).resolve_left fun same => data (same ▸ read)
      have within := ahead op more split data
      obtain ⟨last, endPsn, after, _, close⟩ := placed.left_spec
        (show context.sendQueue = (ackedBy context packet.psn ++ [op]) ++ more by simp [queue, split])
        later
      rw [span_append, span_cons, span_nil] at after
      exact ⟨last, endPsn, by omega, close⟩
    refine (ack_outcome placed.toBased queue).mono ?_
    rintro ⟨after, resetRto⟩ outcome
    have ordered := placed.oldestNext
    have resumes (some : rest ≠ [] ∨ isNak packet = true) :
        Resumes (acknowledged context packet.psn) := by
      by_cases empty : rest = []
      · have nak := some.resolve_left (not_not_intro empty)
        have whole : context.sendQueue = ackedBy context packet.psn := by
          simpa [empty] using queue
        have posted := placed.posted
        have last : packet.psn = psnAdd context.tailPsn (-1) := by
          rw [whole] at posted
          have final : first + span config (ackedBy context packet.psn) = number + 1 := by omega
          rw [placed.tailPsn, same, whole, final, psn_pred]
        rcases nakInStep nak last with ⟨op, member, read⟩ | inactive
        · exact absurd (left op member read) (by simp [empty])
        · exact .inr inactive
      · refine .inl ?_
        rw [acknowledged_queue queue]
        exact empty
    cases outcome with
    | ignored => exact ⟨_, _, _, _, _, _, placed⟩
    | completed plain stops =>
      have behindNext : ∃ more, done = ackedBy context packet.psn ++ more ∧ rest = more ++ todo := by
        rcases ackInStep plain with before | ⟨op, member, read, ends⟩ | ⟨op, member, read, ends⟩
        · rw [same] at before
          have := (placed.behind_iff above below.le).1 before
          exact placed.prefix queue (by omega)
        · -- It would have gone back to the read.
          exfalso
          obtain ⟨last, endPsn, after, later, close⟩ :=
            placed.left_spec queue (left op member read)
          rw [endPsn, same, placed.oldestPsn, psnSubtract, psnSubtract, psn_distance later close,
            psn_distance above (by omega)] at ends
          have valid : (acknowledged context packet.psn).psnIsValidAtInitiator packet.psn = true :=
            based.valid_iff.2 ⟨number, by omega, below, same⟩
          obtain ⟨head, more, split, headRead, final⟩ := stops valid
          have member := left op member read
          rw [split] at member
          rcases List.mem_cons.1 member with rfl | further
          · have := (psn_inj oldest later close above (by omega)).1
              (endPsn.symm.trans (final.symm.trans same))
            omega
          · have parts := queue
            rw [split] at parts
            obtain ⟨_, _, _, headEnd⟩ := placed.op_spec parts
            have within := placed.before_end parts
            obtain ⟨again, endAgain, after, laterAgain, closeAgain⟩ := placed.left_spec
              (show context.sendQueue = (ackedBy context packet.psn ++ [head]) ++ more by
                simp [parts]) further
            rw [span_append, span_cons, span_nil] at after
            have one := (psn_inj oldest later close laterAgain closeAgain).1
              (endPsn.symm.trans endAgain)
            have other := (psn_inj oldest (by omega) (by omega) above (by omega)).1
              (headEnd.symm.trans (final.symm.trans same))
            omega
        · refine placed.prefix_of_index queue ?_
          by_contra many
          have inAcked : op ∈ ackedBy context packet.psn := by
            rw [queue, List.take_append_of_le_length (by omega)] at member
            exact List.mem_of_mem_take member
          exact acked_data inAcked read
      obtain ⟨more, doneSplit, _⟩ := behindNext
      exact ⟨_, _, _, _, _, _, placed.complete doneSplit⟩
    | advanced op more plain split data valid =>
      have before : number < next := by
        rcases ackInStep plain with before | ⟨other, member, read, ends⟩ |
          ⟨other, member, read, ends⟩
        · rw [same] at before
          exact (placed.behind_iff above below.le).1 before
        · obtain ⟨last, endPsn, after, close⟩ :=
            beyond op more split data other (left other member read) read
          rw [endPsn, same, placed.oldestPsn, psnSubtract, psnSubtract,
            psn_distance (by omega) close, psn_distance above (by omega)] at ends
          omega
        · obtain ⟨last, endPsn, after, close⟩ := beyond op more split data other
            (left other (List.mem_of_mem_take member) read) read
          have := (psn_inj oldest (by omega) close above (by omega)).1
            (endPsn.symm.trans (ends.trans same))
          omega
      have upper := outstanding valid
      obtain ⟨others, doneSplit, _⟩ := placed.prefix queue (by omega)
      have within := ahead op more split data
      have head : (acknowledged context packet.psn).sendQueue = op :: more :=
        (acknowledged_queue queue).trans split
      refine ⟨_, _, _, _, _, _, (placed.complete doneSplit).advance head upper before within ?_⟩
      rw [same, psn_add_one]
    | wentBack flag reason =>
      refine ⟨_, _, _, _, _, _, go_back_placed based (resumes ?_)⟩
      rcases reason with nak | ⟨op, more, split, _⟩
      · exact .inr nak
      · exact .inl (by simp [split])
    | advancedBack op more split data valid =>
      have within := ahead op more split data
      have further : Based config (acknowledgedTo context packet.psn)
          (first + span config (ackedBy context packet.psn)) (number + 1) max := by
        refine based.advance ((acknowledged_queue queue).trans split) (outstanding valid) below
          within rfl rfl rfl ?_
        show psnAdd packet.psn 1 = _
        rw [same, psn_add_one]
      refine ⟨_, _, _, _, _, _, go_back_placed further (.inl ?_)⟩
      show (acknowledged context packet.psn).sendQueue ≠ []
      rw [acknowledged_queue queue, split]
      exact List.cons_ne_nil _ _
  · unfold processRxAck
    rw [if_pos (by simpa using valid)]
    exact ensures_ok.2 ⟨_, _, _, _, _, _, placed⟩

/-! ## Read responses -/

theorem completing_nil : completing context [] = context := by
  simp [completing, oldestAfter]

/-- The operations that a read response acknowledges besides its read. -/
def impliedBy (context : QpContext) (packet : Packet) : List RdmaOp :=
  match packet.opcode with
  | .readResponseFirst | .readResponseOnly => ackedBy context (psnAdd packet.psn (-1))
  | _ => []

/-- A read response does not get ahead of what was sent again: if it is the one that is expected, it
is before the next packet, and otherwise the requester goes back, or what it implies is before the
next packet. -/
def ResponseInStep (context : QpContext) (packet : Packet) : Prop :=
  if packet.psn = oldestAfter context (impliedBy context packet) then
    ∀ op ∈ (context.sendQueue.drop (impliedBy context packet).length).head?,
      op.opcode = .read → Behind context packet.psn
  else
    context.psnIsValidAtInitiator packet.psn = true ∧ context.readRetried = false ∨
      (impliedBy context packet).length ≤ context.nextOpIndex.toNat

/-- What a read response implies is before it. -/
theorem implied_spec (based : Based config context first oldest max) (packet : Packet) :
    ∃ rest, context.sendQueue = impliedBy context packet ++ rest ∧
      first + span config (impliedBy context packet) ≤ max ∧
      (impliedBy context packet = [] ∨ ∃ number, packet.psn = psnOf (number + 1) ∧
        oldest ≤ number ∧ number < max ∧
        first + span config (impliedBy context packet) ≤ number + 1) := by
  have begun := based.begun.trans based.sent
  have implied (response : impliedBy context packet = ackedBy context (psnAdd packet.psn (-1))) :
      ∃ rest, context.sendQueue = impliedBy context packet ++ rest ∧
        first + span config (impliedBy context packet) ≤ max ∧
        (impliedBy context packet = [] ∨ ∃ number, packet.psn = psnOf (number + 1) ∧
          oldest ≤ number ∧ number < max ∧
          first + span config (impliedBy context packet) ≤ number + 1) := by
    rw [response]
    obtain ⟨rest, queue, reach, _⟩ := acked_spec based (psnAdd packet.psn (-1))
    refine ⟨rest, queue, ?_⟩
    by_cases none : ackedBy context (psnAdd packet.psn (-1)) = []
    · rw [none, span_nil]
      exact ⟨begun, .inl rfl⟩
    · obtain ⟨number, same, above, below, reaches⟩ := reach none
      refine ⟨by omega, .inr ⟨number, ?_, above, below, reaches⟩⟩
      rw [← psn_add_one, ← same]
      simp only [psnAdd]
      bv_omega
  by_cases response : impliedBy context packet = ackedBy context (psnAdd packet.psn (-1))
  · exact implied response
  · have none : impliedBy context packet = [] := by
      unfold impliedBy at response ⊢
      split at response <;> simp_all
    rw [none]
    exact ⟨_, rfl, begun, .inl rfl⟩

/-- The queue pair after a response to the read at the head of its queue. -/
def received (context : QpContext) (psn : Psn) (op : RdmaOp) : QpContext :=
  let advanced := { context with
    oldestUnacknowledgedPsn := psnAdd context.oldestUnacknowledgedPsn 1 }
  { (if psn = op.endPsn then advanced.completeOpAtHead else advanced) with readRetried := false }

/-- What a read response does after what it implies, and whether it resets the timer. -/
inductive ResponseOutcome (context : QpContext) (psn : Psn) (resetRto : Bool) :
    QpContext → Bool → Prop where
  | expected (op : RdmaOp) (more : List RdmaOp) (inOrder : psn = context.oldestUnacknowledgedPsn)
    (queue : context.sendQueue = op :: more) (read : op.opcode = .read) :
    ResponseOutcome context psn resetRto (received context psn op) true
  | wentBack (other : psn ≠ context.oldestUnacknowledgedPsn)
    (valid : context.psnIsValidAtInitiator psn = true) (first : context.readRetried = false) :
    ResponseOutcome context psn resetRto { context with readRetried := true }.goBackN resetRto
  | ignored (other : psn ≠ context.oldestUnacknowledgedPsn)
    (retried : context.psnIsValidAtInitiator psn = true → context.readRetried = true) :
    ResponseOutcome context psn resetRto context resetRto

theorem response_outcome (psn : Psn) (resetRto : Bool) :
    Ensures (context.processReadResponse psn resetRto) fun (after, reset) =>
      ResponseOutcome context psn resetRto after reset := by
  unfold processReadResponse
  refine ensures_ite (fun inOrder => ?_) fun other => ?_
  · rcases queue : context.sendQueue with _ | ⟨op, more⟩
    · exact ensures_error
    · refine ensures_ite (fun read => ensures_ok.2 ?_) fun _ => ensures_error
      have outcome : ResponseOutcome context psn resetRto (received context psn op) true :=
        .expected op more inOrder queue read
      simpa only [received, queue] using outcome
  · refine ensures_ite (fun valid => ?_) fun stale => ensures_ok.2 ?_
    · refine ensures_ite (fun retried => ensures_ok.2 ?_) fun first => ensures_ok.2 ?_
      · exact .ignored other fun _ => retried
      · exact .wentBack other valid (by simpa using first)
    · exact .ignored other fun valid => absurd valid stale

/-- The response that is expected, if the next packet is beyond it. -/
theorem received_stands (placed : Placed config context done todo first oldest next max)
    (queue : context.sendQueue = op :: more) (behind : oldest < next) :
    Stands config (received context context.oldestUnacknowledgedPsn op) := by
  obtain ⟨_, _, _, endPsn⟩ := placed.op_spec (show context.sendQueue = [] ++ op :: more from queue)
  have positive := packets_pos config op
  have within := placed.head op more queue
  have fits := placed.fits
  rw [queue, span_cons] at fits
  rw [span_nil, Nat.add_zero] at endPsn
  have final : context.oldestUnacknowledgedPsn = op.endPsn ↔
      oldest = first + packetsOf config op - 1 := by
    rw [placed.oldestPsn, endPsn]
    have begun := placed.begun
    exact psn_inj oldest le_rfl (by omega) (by omega) (by omega)
  by_cases last : oldest = first + packetsOf config op - 1
  · have through : first + span config [op] ≤ next := by
      rw [span_cons, span_nil]
      omega
    obtain ⟨others, doneSplit, _⟩ := placed.prefix queue through
    refine ⟨_, _, _, _, _, _, (placed.complete doneSplit).same ?_⟩
    have same := final.2 last
    simp only [received, if_pos same]
    refine ⟨?_, ?_, rfl, ?_, rfl, rfl, rfl⟩
    · simp [completing, completeOpAtHead]
    · simp [completing, completeOpAtHead]
    · simp [completing, completeOpAtHead, oldestAfter, same]
  · have before : oldest + 1 < first + packetsOf config op := by omega
    have onward : psnAdd context.oldestUnacknowledgedPsn 1 = psnOf (oldest + 1) := by
      rw [placed.oldestPsn, psn_add_one]
    have moved := placed.advance queue le_rfl behind before onward
    refine ⟨_, _, _, _, _, _, moved.same ?_⟩
    simp only [received, if_neg (mt final.1 last)]
    exact ⟨rfl, rfl, rfl, rfl, rfl, rfl, rfl⟩

theorem response_stands (placed : Placed config context done todo first oldest next max)
    (inStep : ResponseInStep context packet) (resetRto : Bool) :
    Ensures ((completing context (impliedBy context packet)).processReadResponse packet.psn resetRto)
      fun (after, _) => Stands config after := by
  obtain ⟨rest, queue, reached, implied⟩ := implied_spec placed.toBased packet
  have based := placed.toBased.complete queue reached
  have left : (completing context (impliedBy context packet)).sendQueue = rest := by
    simp only [completing]
    conv_lhs => rw [queue]
    simp
  have drop : context.sendQueue.drop (impliedBy context packet).length = rest := left
  unfold ResponseInStep at inStep
  rw [drop] at inStep
  refine (response_outcome packet.psn resetRto).mono ?_
  rintro ⟨after, reset⟩ outcome
  cases outcome with
  | expected op more inOrder split read =>
    rw [if_pos (show packet.psn = oldestAfter context _ from inOrder)] at inStep
    have behind := inStep op (by rw [← left, split]; rfl) read
    have below := based.sent
    have number := inOrder.trans based.oldestPsn
    rw [number, placed.behind_iff (Nat.le_max_left ..) below] at behind
    obtain ⟨others, doneSplit, _⟩ := placed.prefix queue (by omega)
    rw [inOrder]
    exact received_stands (placed.complete doneSplit) split behind
  | wentBack other valid fresh =>
    obtain ⟨number, above, below, _⟩ := based.valid_iff.1 valid
    have posted := based.posted
    have some : (completing context (impliedBy context packet)).sendQueue ≠ [] := by
      intro empty
      rw [empty, span_nil] at posted
      omega
    refine ⟨_, _, _, _, _, _, go_back_placed (based.same ?_) (.inl some)⟩
    exact ⟨rfl, rfl, rfl, rfl, rfl, rfl, rfl⟩
  | ignored other retried =>
    rw [if_neg (show ¬ packet.psn = oldestAfter context _ from other)] at inStep
    have few : (impliedBy context packet).length ≤ context.nextOpIndex.toNat := by
      rcases inStep with ⟨valid, fresh⟩ | few
      · -- What is implied is before the response, which is as valid after it as it was.
        rcases implied with none | ⟨before, same, above, below, reaches⟩
        · rw [none]
          exact Nat.zero_le _
        · obtain ⟨number, after, sent, alike⟩ := placed.valid_iff.1 valid
          have near := placed.near
          have := (psn_inj oldest after (by omega) (by omega) (by omega)).1
            (alike.symm.trans same)
          have again := retried (based.valid_iff.2 ⟨number, by omega, sent, alike⟩)
          exact absurd (fresh.symm.trans again) Bool.false_ne_true
      · exact few
    obtain ⟨others, doneSplit, _⟩ := placed.prefix_of_index queue few
    exact ⟨_, _, _, _, _, _, placed.complete doneSplit⟩

end Moving

end Isekai.RoceGoBackN
