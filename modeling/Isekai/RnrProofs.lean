import Isekai.RnrSystem
import Isekai.ReorderDrainProofs

/-! The engine and its ULP never disagree about what is in flight. As long as the numeric
comparison with the next RSN agrees with the order of the sequence, rewinding never hands an
RSN out twice, the ULP never meets an unexpected RSN and the RSN it needs is never lost. -/

namespace Isekai.RnrProofs
open BufferReorderEngine SequenceNumber SequenceBuffer RnrSystem

variable {position : Nat} {rsn : UInt32}

/-! ## The invariant, by positions in the sequence -/

/-- Positions behind a state: the one the ULP needs, the one the engine hands out next, the
handed ones that a rewind left behind, the first of those in order after them, and the
positions of the answers under way. -/
structure Positions where
  needed : Nat
  next : Nat
  stale : List Nat
  fresh : Nat
  nacks : List Nat
  acks : List Nat

/-- The positions handed out and not answered yet. -/
def Positions.InFlight (positions : Positions) (position : Nat) : Prop :=
  position ∈ positions.stale ∨ (positions.fresh ≤ position ∧ position < positions.next) ∨
    position ∈ positions.nacks ∨ position ∈ positions.acks

/-- The order of the positions: the queue is a stale part above the next position followed by
the consecutive positions up to it, and every refused position is one the ULP still needs. -/
structure Ordered (positions : Positions) (inRnr : Bool) : Prop where
  needed_fresh : positions.needed ≤ positions.fresh
  fresh_next : positions.fresh ≤ positions.next
  stale_above : ∀ position ∈ positions.stale, positions.next ≤ position
  stale_not_needed : positions.needed ∉ positions.stale
  stale_distinct : positions.stale.Nodup
  nacks_needed : ∀ position ∈ positions.nacks, positions.needed ≤ position
  nacks_distinct : positions.nacks.Nodup
  nacks_not_queued : ∀ position ∈ positions.nacks, position ∉ positions.stale ∧
    (position < positions.fresh ∨ positions.next ≤ position)
  acks_below : ∀ position ∈ positions.acks, position < positions.needed
  acks_distinct : positions.acks.Nodup
  calm : inRnr = false → positions.stale = [] ∧ positions.fresh = positions.needed ∧
    ∀ position ∈ positions.nacks, positions.next ≤ position

/-- A position whose packet was inserted and whose ack did not come back. -/
def Open (system : System) (position : Nat) : Prop :=
  position ∈ system.arrived ∧ position ∉ system.acknowledged

/-- The engine's buffer holds exactly the open positions and knows which are in flight. -/
structure Buffered (start : UInt32) (system : System) (positions : Positions) : Prop where
  held : ∀ position, Open system position →
    ∃ entry : TransactionMetadata, system.info.targetRsnBuffer[advance start position]? = some entry ∧
      (entry.retryTime = .infinite ↔ positions.InFlight position)
  only : ∀ rsn ∈ system.info.targetRsnBuffer, ∃ position, Open system position ∧
    rsn = advance start position
  flying : ∀ position, positions.InFlight position → Open system position
  resting : ∀ position, Open system position → ¬ positions.InFlight position →
    positions.next ≤ position
  passed : ∀ position < positions.next, position ∈ system.arrived
  acknowledged : ∀ position ∈ system.acknowledged, position < positions.needed
  window : ∀ position ∈ system.arrived, ∀ earlier, earlier + 2 ^ 32 ≤ position + 1 →
    earlier ∈ system.acknowledged

/-- The queue of a state by positions. -/
def Positions.queue (positions : Positions) : List Nat :=
  positions.stale ++ List.range' positions.fresh (positions.next - positions.fresh)

/-- The invariant of the system. -/
structure Tracked (start : UInt32) (system : System) (positions : Positions) : Prop where
  ordered : Ordered positions system.context.inRnr
  buffered : Buffered start system positions
  mode : system.info.orderingMode = .ordered
  rcMode : system.context.rcMode = .orderedRc
  next_rsn : system.info.nextTargetRsn = advance start positions.next
  needed_rsn : system.context.nextRxRsn = advance start positions.needed
  queue_rsn : system.queue = positions.queue.map (advance start)
  nacks_rsn : system.nacks = positions.nacks.map (advance start)
  acks_rsn : system.acks = positions.acks.map (advance start)
  accepted_rsn : system.accepted = (List.range positions.needed).map (advance start)

variable {start cid : UInt32} {system : System} {positions : Positions}

namespace Tracked

/-- Two open positions have different RSNs. -/
theorem open_injective (tracked : Tracked start system positions) {left right : Nat}
    (leftOpen : Open system left) (rightOpen : Open system right)
    (same : advance start left = advance start right) : left = right := by
  have numbers := congrArg UInt32.toNat same
  rw [advance_to_nat, advance_to_nat] at numbers
  rcases Nat.lt_trichotomy left right with less | equal | greater
  · have done := tracked.buffered.window right rightOpen.1 left (by omega)
    exact absurd done leftOpen.2
  · exact equal
  · have done := tracked.buffered.window left leftOpen.1 right (by omega)
    exact absurd done rightOpen.2

/-- Fewer than 2^32 positions lie between the needed one and any that arrived. -/
theorem arrived_near (tracked : Tracked start system positions)
    (arrived : position ∈ system.arrived) : position + 1 < positions.needed + 2 ^ 32 := by
  by_contra far
  have done := tracked.buffered.window position arrived positions.needed (by omega)
  have below := tracked.buffered.acknowledged _ done
  omega

theorem next_near (tracked : Tracked start system positions) :
    positions.next < positions.needed + 2 ^ 32 := by
  rcases Nat.eq_zero_or_pos positions.next with zero | positive
  · omega
  · have last := tracked.buffered.passed (positions.next - 1) (by omega)
    have near := tracked.arrived_near last
    omega

theorem needed_next (tracked : Tracked start system positions) :
    positions.needed ≤ positions.next :=
  Nat.le_trans tracked.ordered.needed_fresh tracked.ordered.fresh_next

/-- A position at or after the needed one is told apart from the next one by its RSN. -/
theorem eq_next_of_rsn (tracked : Tracked start system positions)
    (low : positions.needed ≤ position) (near : position < positions.needed + 2 ^ 32)
    (same : advance start position = system.info.nextTargetRsn) : position = positions.next := by
  rw [tracked.next_rsn] at same
  have numbers := congrArg UInt32.toNat same
  rw [advance_to_nat, advance_to_nat] at numbers
  have nextLow := tracked.needed_next
  have nextNear := tracked.next_near
  omega

/-- An entry that is not in flight under the next RSN is the one of the next position. -/
theorem next_open (tracked : Tracked start system positions) {entry : TransactionMetadata}
    (found : system.info.targetRsnBuffer[system.info.nextTargetRsn]? = some entry)
    (resting : entry.retryTime ≠ .infinite) :
    Open system positions.next ∧ ¬ positions.InFlight positions.next := by
  obtain ⟨position, opened, same⟩ :=
    tracked.buffered.only _ (mem_iff_get.mpr ⟨entry, found⟩)
  obtain ⟨other, held, flying⟩ := tracked.buffered.held position opened
  rw [← same, found] at held
  cases held
  have landed : ¬ positions.InFlight position := fun inFlight => resting (flying.mpr inFlight)
  have low := tracked.buffered.resting position opened landed
  have near := tracked.arrived_near opened.1
  have needed := tracked.needed_next
  obtain rfl := tracked.eq_next_of_rsn (by omega) (by omega) same.symm
  exact ⟨opened, landed⟩

end Tracked

/-! ## Handing out -/

/-- The system after the engine handed the next RSN to the ULP. -/
def handOut (cid : UInt32) (entry : TransactionMetadata) (system : System) : System :=
  system.absorb (sendToUlpTarget cid system.info.nextTargetRsn entry ⟨system.info, []⟩)

/-- One more position is handed out. -/
def Positions.handOut (positions : Positions) : Positions :=
  { positions with next := positions.next + 1 }

theorem hand_out_in_flight (low : positions.fresh ≤ positions.next) :
    positions.handOut.InFlight position ↔
      positions.InFlight position ∨ position = positions.next := by
  simp only [Positions.handOut, Positions.InFlight]
  constructor
  · rintro (stale | ⟨above, below⟩ | nacked | acked)
    · exact Or.inl (Or.inl stale)
    · by_cases last : position = positions.next
      · exact Or.inr last
      · exact Or.inl (Or.inr (Or.inl ⟨above, by omega⟩))
    · exact Or.inl (Or.inr (Or.inr (Or.inl nacked)))
    · exact Or.inl (Or.inr (Or.inr (Or.inr acked)))
  · rintro ((stale | ⟨above, below⟩ | nacked | acked) | rfl)
    · exact Or.inl stale
    · exact Or.inr (Or.inl ⟨above, by omega⟩)
    · exact Or.inr (Or.inr (Or.inl nacked))
    · exact Or.inr (Or.inr (Or.inr acked))
    · exact Or.inr (Or.inl ⟨low, by omega⟩)

theorem hand_out_ordered {inRnr : Bool} (ordered : Ordered positions inRnr)
    (landed : ¬ positions.InFlight positions.next) : Ordered positions.handOut inRnr := by
  have notStale : positions.next ∉ positions.stale := fun stale => landed (Or.inl stale)
  have notNacked : positions.next ∉ positions.nacks :=
    fun nacked => landed (Or.inr (Or.inr (Or.inl nacked)))
  refine { ordered with
    fresh_next := Nat.le_succ_of_le ordered.fresh_next
    stale_above := ?_, nacks_not_queued := ?_, calm := ?_ }
  · intro position stale
    have above := ordered.stale_above position stale
    have different : position ≠ positions.next := by
      rintro rfl
      exact notStale stale
    simp only [Positions.handOut]
    omega
  · intro position nacked
    obtain ⟨fresh, apart⟩ := ordered.nacks_not_queued position nacked
    have different : position ≠ positions.next := by
      rintro rfl
      exact notNacked nacked
    refine ⟨fresh, ?_⟩
    simp only [Positions.handOut]
    omega
  · intro quiet
    obtain ⟨empty, aligned, later⟩ := ordered.calm quiet
    refine ⟨empty, aligned, ?_⟩
    intro position nacked
    have above := later position nacked
    have different : position ≠ positions.next := by
      rintro rfl
      exact notNacked nacked
    simp only [Positions.handOut]
    omega

theorem hand_out_tracked (tracked : Tracked start system positions) {entry : TransactionMetadata}
    (found : system.info.targetRsnBuffer[system.info.nextTargetRsn]? = some entry)
    (resting : entry.retryTime ≠ .infinite) :
    Tracked start (handOut cid entry system) positions.handOut := by
  obtain ⟨opened, landed⟩ := tracked.next_open found resting
  have low := tracked.ordered.fresh_next
  have flights : ∀ position, positions.handOut.InFlight position ↔
      positions.InFlight position ∨ position = positions.next := fun _ => hand_out_in_flight low
  have lookup : ∀ rsn : UInt32, (handOut cid entry system).info.targetRsnBuffer[rsn]? =
      if rsn = system.info.nextTargetRsn then some { entry with retryTime := .infinite }
      else system.info.targetRsnBuffer[rsn]? := fun rsn => get_insert _ _ _ _
  refine ⟨hand_out_ordered tracked.ordered landed, ?_, tracked.mode, tracked.rcMode, ?_,
    tracked.needed_rsn, ?_, tracked.nacks_rsn, tracked.acks_rsn, tracked.accepted_rsn⟩
  · refine ⟨?_, ?_, ?_, ?_, ?_, tracked.buffered.acknowledged, tracked.buffered.window⟩
    · intro position positionOpen
      rw [lookup, flights position]
      by_cases same : position = positions.next
      · subst same
        exact ⟨_, if_pos tracked.next_rsn.symm, iff_of_true rfl (Or.inr rfl)⟩
      · have different : advance start position ≠ system.info.nextTargetRsn := by
          rw [tracked.next_rsn]
          exact fun equal => same (tracked.open_injective positionOpen opened equal)
        obtain ⟨other, held, flying⟩ := tracked.buffered.held position positionOpen
        refine ⟨other, by rw [if_neg different, held], ?_⟩
        simp only [flying, same, or_false]
    · intro rsn member
      obtain ⟨other, held⟩ := mem_iff_get.mp member
      rw [lookup] at held
      split at held
      · rename_i same
        exact ⟨positions.next, opened, same.trans tracked.next_rsn⟩
      · exact tracked.buffered.only rsn (mem_iff_get.mpr ⟨other, held⟩)
    · intro position inFlight
      rcases (flights position).mp inFlight with before | rfl
      · exact tracked.buffered.flying position before
      · exact opened
    · intro position positionOpen grounded
      rw [flights position] at grounded
      have above := tracked.buffered.resting position positionOpen fun inFlight =>
        grounded (Or.inl inFlight)
      have different : position ≠ positions.next := fun same => grounded (Or.inr same)
      simp only [Positions.handOut]
      omega
    · intro position below
      by_cases last : position = positions.next
      · subst last
        exact opened.1
      · apply tracked.buffered.passed
        simp only [Positions.handOut] at below
        omega
  · simp only [handOut, System.absorb, sendToUlpTarget, tracked.mode, if_true, tracked.next_rsn,
      Positions.handOut, advance_succ]
  · have width : positions.next + 1 - positions.fresh = positions.next - positions.fresh + 1 := by
      omega
    have last : positions.fresh + (positions.next - positions.fresh) = positions.next := by omega
    simp only [handOut, System.absorb, sendToUlpTarget, Positions.queue, Positions.handOut, width,
      List.range'_1_concat, last, tracked.queue_rsn, tracked.next_rsn, List.map_append,
      List.append_assoc, List.map_cons, List.map_nil, List.nil_append]

/-- Sending the next RSN on top of other progress is handing it out there. -/
theorem absorb_send (system : System) (progress : Progress) (entry : TransactionMetadata) :
    system.absorb (sendToUlpTarget cid progress.info.nextTargetRsn entry progress) =
      handOut cid entry (system.absorb progress) := by
  simp [handOut, System.absorb, sendToUlpTarget]
  rfl

/-- A scan hands out position after position. -/
theorem scan_tracked (system : System) (now : Nat) (keys : List UInt32) (progress : Progress)
    (tracked : Tracked start (system.absorb progress) positions) :
    ∃ after, Tracked start (system.absorb (scanTarget cid now keys progress)) after := by
  induction keys generalizing progress positions with
  | nil => exact ⟨positions, tracked⟩
  | cons key rest ih =>
    rw [scanTarget]
    cases found : progress.info.targetRsnBuffer[key]? with
    | none => exact ⟨positions, tracked⟩
    | some entry =>
      simp only
      split
      · rename_i due
        obtain ⟨rfl, elapsed⟩ := due
        have resting : entry.retryTime ≠ .infinite := by
          intro infinite
          simp [infinite] at elapsed
        apply ih
        rw [absorb_send]
        exact hand_out_tracked tracked found resting
      · exact ⟨positions, tracked⟩

theorem check_target_tracked (system : System) (now : Nat) (progress : Progress)
    (tracked : Tracked start (system.absorb progress) positions) :
    ∃ after, Tracked start (system.absorb (checkTargetRsnBuffer cid now progress)) after :=
  scan_tracked system now _ progress tracked

/-! ## The steps -/

theorem absorb_unchanged (tracked : Tracked start system positions) :
    Tracked start (system.absorb ⟨system.info, []⟩) positions := by
  simpa [System.absorb] using tracked

/-- The clock and the timers play no part in the invariant. -/
theorem clock_tracked (tracked : Tracked start system positions) (time : Nat)
    (timers : List RnrTimer) :
    Tracked start { system with now := time, timers } positions :=
  ⟨tracked.ordered,
    ⟨tracked.buffered.held, tracked.buffered.only, tracked.buffered.flying,
      tracked.buffered.resting, tracked.buffered.passed, tracked.buffered.acknowledged,
      tracked.buffered.window⟩,
    tracked.mode, tracked.rcMode, tracked.next_rsn, tracked.needed_rsn, tracked.queue_rsn,
    tracked.nacks_rsn, tracked.acks_rsn, tracked.accepted_rsn⟩

/-- A new packet is remembered as ready. -/
theorem remember_tracked (tracked : Tracked start system positions) (packetType : PacketType)
    (once : position ∉ system.arrived)
    (window : ∀ earlier, earlier + 2 ^ 32 ≤ position + 1 → earlier ∈ system.acknowledged) :
    Tracked start
      ({ system with arrived := system.arrived ++ [position] }.absorb
        (remember (advance start position) packetType system.info)) positions := by
  have later : positions.next ≤ position := by
    by_contra passed
    exact once (tracked.buffered.passed position (by omega))
  have needed := tracked.needed_next
  have grounded : ¬ positions.InFlight position := fun inFlight =>
    once (tracked.buffered.flying position inFlight).1
  have unacknowledged : position ∉ system.acknowledged := by
    intro done
    have below := tracked.buffered.acknowledged position done
    omega
  have fresh : ∀ other, Open system other → advance start other ≠ advance start position := by
    intro other opened same
    have numbers := congrArg UInt32.toNat same
    rw [advance_to_nat, advance_to_nat] at numbers
    rcases Nat.lt_trichotomy other position with less | rfl | greater
    · exact opened.2 (window other (by omega))
    · exact once opened.1
    · exact unacknowledged (tracked.buffered.window other opened.1 position (by omega))
  have lookup : ∀ rsn : UInt32,
      (remember (advance start position) packetType system.info).info.targetRsnBuffer[rsn]? =
        if rsn = advance start position then some { packetType }
        else system.info.targetRsnBuffer[rsn]? := fun rsn => get_insert _ _ _ _
  have opens : ∀ other, other ∈ system.arrived ++ [position] ∧ other ∉ system.acknowledged ↔
      Open system other ∨ other = position := by
    intro other
    by_cases same : other = position
    · simp [same, unacknowledged]
    · simp [Open, same]
  refine ⟨tracked.ordered, ⟨?_, ?_, ?_, ?_, ?_, tracked.buffered.acknowledged, ?_⟩, tracked.mode,
    tracked.rcMode, tracked.next_rsn, tracked.needed_rsn, ?_, tracked.nacks_rsn,
    tracked.acks_rsn, tracked.accepted_rsn⟩
  · intro other opened
    simp only [System.absorb, lookup]
    rcases (opens other).mp opened with before | rfl
    · rw [if_neg (fresh other before)]
      exact tracked.buffered.held other before
    · exact ⟨_, if_pos rfl, iff_of_false Duration.zero_ne_infinite grounded⟩
  · intro rsn member
    obtain ⟨entry, held⟩ := mem_iff_get.mp member
    simp only [System.absorb, lookup] at held
    split at held
    · rename_i same
      exact ⟨position, (opens position).mpr (Or.inr rfl), same⟩
    · obtain ⟨other, opened, same⟩ :=
        tracked.buffered.only rsn (mem_iff_get.mpr ⟨entry, held⟩)
      exact ⟨other, (opens other).mpr (Or.inl opened), same⟩
  · intro other inFlight
    exact (opens other).mpr (Or.inl (tracked.buffered.flying other inFlight))
  · intro other opened grounded
    rcases (opens other).mp opened with before | rfl
    · exact tracked.buffered.resting other before grounded
    · exact later
  · intro other below
    exact List.mem_append_left _ (tracked.buffered.passed other below)
  · intro other arrived earlier far
    rcases List.mem_append.mp arrived with before | last
    · exact tracked.buffered.window other before earlier far
    · rw [List.mem_singleton.mp last] at far
      exact window earlier far
  · simp [System.absorb, remember, tracked.queue_rsn]

theorem insert_tracked (tracked : Tracked start system positions) {packetType : PacketType}
    {ssn : UInt32} {status : Status} {progress : Progress} (request : isTargetRequest packetType)
    (once : position ∉ system.arrived)
    (window : ∀ earlier, earlier + 2 ^ 32 ≤ position + 1 → earlier ∈ system.acknowledged)
    (done : insertInto cid system.now packetType (advance start position) ssn system.info =
      .ok (status, progress)) :
    ∃ after, Tracked start
      { system.absorb progress with arrived := system.arrived ++ [position] } after := by
  have remembered := remember_tracked tracked packetType once window
  have outcome : (advance start position = system.info.nextTargetRsn ∧
        progress = checkTargetRsnBuffer cid system.now
          (sendToUlpTarget cid (advance start position) { packetType }
            (remember (advance start position) packetType system.info))) ∨
      progress = remember (advance start position) packetType system.info := by
    cases packetType <;> simp only [isTargetRequest, Bool.false_eq_true] at request <;>
    · simp only [insertInto, tracked.mode, insertOrdered] at done
      repeat' split at done
      all_goals cases done
      all_goals first
        | exact Or.inl ⟨‹_›, rfl⟩
        | exact Or.inr rfl
  rcases outcome with ⟨due, rfl⟩ | rfl
  · have found : (remember (advance start position) packetType
        system.info).info.targetRsnBuffer[system.info.nextTargetRsn]? = some { packetType } := by
      simp [remember, due]
    have handed : Tracked start (handOut cid { packetType }
        ({ system with arrived := system.arrived ++ [position] }.absorb
          (remember (advance start position) packetType system.info))) positions.handOut :=
      hand_out_tracked remembered found Duration.zero_ne_infinite
    have next : (remember (advance start position) packetType system.info).info.nextTargetRsn =
        advance start position := due.symm
    rw [← absorb_send, next] at handed
    exact check_target_tracked _ system.now _ handed
  · exact ⟨positions, remembered⟩

/-- The head of the queue moves on without touching the engine. -/
theorem buffered_of_same {system' : System} {positions' : Positions}
    (buffered : Buffered start system positions) (buffer : system'.info = system.info)
    (arrived : system'.arrived = system.arrived)
    (acknowledged : system'.acknowledged = system.acknowledged)
    (flights : ∀ position, positions'.InFlight position ↔ positions.InFlight position)
    (next : positions'.next = positions.next) (needed : positions.needed ≤ positions'.needed) :
    Buffered start system' positions' := by
  refine ⟨?_, ?_, ?_, ?_, ?_, ?_, ?_⟩ <;>
    simp only [Open, buffer, arrived, acknowledged, flights, next]
  · exact buffered.held
  · exact buffered.only
  · exact buffered.flying
  · exact buffered.resting
  · exact buffered.passed
  · intro position done
    exact Nat.lt_of_lt_of_le (buffered.acknowledged position done) needed
  · exact buffered.window

/-! ### The ULP processes an RSN -/

/-- The ULP refuses the position at the head of the queue. -/
def Positions.refuse (positions : Positions) : Positions :=
  match positions.stale with
  | head :: rest => { positions with stale := rest, nacks := positions.nacks ++ [head] }
  | [] =>
    { positions with
      fresh := positions.fresh + 1
      nacks := positions.nacks ++ [positions.fresh] }

/-- The ULP accepts the position it needs. -/
def Positions.accept (positions : Positions) : Positions :=
  { positions with
    needed := positions.needed + 1
    fresh := positions.fresh + 1
    acks := positions.acks ++ [positions.needed] }

theorem accept_ordered {inRnr : Bool} (ordered : Ordered positions inRnr)
    (empty : positions.stale = []) (aligned : positions.fresh = positions.needed)
    (waiting : positions.fresh < positions.next) : Ordered positions.accept false := by
  have later : ∀ position ∈ positions.nacks, positions.next ≤ position := by
    intro position nacked
    have low := ordered.nacks_needed position nacked
    have apart := (ordered.nacks_not_queued position nacked).2
    omega
  refine ⟨?_, ?_, ordered.stale_above, ?_, ordered.stale_distinct, ?_, ordered.nacks_distinct,
    ?_, ?_, ?_, ?_⟩ <;> simp only [Positions.accept]
  · omega
  · omega
  · simp [empty]
  · intro position nacked
    have above := later position nacked
    omega
  · intro position nacked
    exact ⟨(ordered.nacks_not_queued position nacked).1, Or.inr (later position nacked)⟩
  · intro position acked
    rcases List.mem_append.mp acked with before | last
    · have below := ordered.acks_below position before
      omega
    · rw [List.mem_singleton.mp last]
      omega
  · refine List.nodup_append.mpr ⟨ordered.acks_distinct, by simp, ?_⟩
    intro position acked other last
    have below := ordered.acks_below position acked
    rw [List.mem_singleton.mp last]
    omega
  · intro _
    exact ⟨empty, by omega, later⟩

theorem accept_in_flight (aligned : positions.fresh = positions.needed)
    (waiting : positions.fresh < positions.next) :
    positions.accept.InFlight position ↔ positions.InFlight position := by
  simp only [Positions.accept, Positions.InFlight, List.mem_append, List.mem_singleton]
  by_cases first : position = positions.needed
  · subst first
    simp [aligned ▸ waiting, aligned]
  · have bounds : positions.fresh + 1 ≤ position ↔ positions.fresh ≤ position := by omega
    simp [first, bounds]

private theorem queue_nil (empty : positions.stale = []) (waiting : positions.queue ≠ []) :
    positions.fresh < positions.next := by
  by_contra drained
  apply waiting
  have width : positions.next - positions.fresh = 0 := by omega
  simp [Positions.queue, empty, width]

theorem refuse_queue {head : Nat} {rest : List Nat} (shape : positions.queue = head :: rest) :
    positions.refuse.queue = rest ∧ positions.refuse.nacks = positions.nacks ++ [head] := by
  have waiting : positions.queue ≠ [] := by simp [shape]
  unfold Positions.refuse
  split
  · rename_i first others stale
    simp only [Positions.queue, stale, List.cons_append, List.cons.injEq] at shape
    obtain ⟨rfl, rfl⟩ := shape
    exact ⟨rfl, rfl⟩
  · rename_i stale
    have room := queue_nil stale waiting
    have width : positions.next - positions.fresh =
        positions.next - (positions.fresh + 1) + 1 := by omega
    simp only [Positions.queue, stale, List.nil_append] at shape ⊢
    rw [width, List.range'_succ] at shape
    obtain ⟨rfl, rfl⟩ := List.cons.inj shape
    exact ⟨rfl, rfl⟩

theorem refuse_ordered {inRnr : Bool} (ordered : Ordered positions inRnr)
    (waiting : positions.queue ≠ []) : Ordered positions.refuse true := by
  have needed := Nat.le_trans ordered.needed_fresh ordered.fresh_next
  unfold Positions.refuse
  split
  · rename_i head rest stale
    have above := ordered.stale_above
    have distinct := ordered.stale_distinct
    have notNeeded := ordered.stale_not_needed
    have headAbove := above head (by simp [stale])
    rw [stale] at above distinct notNeeded
    obtain ⟨headFresh, restDistinct⟩ := List.nodup_cons.mp distinct
    have headNotNacked : head ∉ positions.nacks := by
      intro nacked
      exact (ordered.nacks_not_queued head nacked).1 (by simp [stale])
    refine ⟨ordered.needed_fresh, ordered.fresh_next, ?_, ?_, restDistinct, ?_, ?_, ?_,
      ordered.acks_below, ordered.acks_distinct, by simp⟩
    · exact fun position member => above position (List.mem_cons_of_mem _ member)
    · exact fun member => notNeeded (List.mem_cons_of_mem _ member)
    · intro position nacked
      rcases List.mem_append.mp nacked with before | last
      · exact ordered.nacks_needed position before
      · rw [List.mem_singleton.mp last]
        exact Nat.le_trans needed headAbove
    · refine List.nodup_append.mpr ⟨ordered.nacks_distinct, by simp, ?_⟩
      rintro position nacked other last rfl
      rw [List.mem_singleton.mp last] at nacked
      exact headNotNacked nacked
    · intro position nacked
      rcases List.mem_append.mp nacked with before | last
      · obtain ⟨absent, apart⟩ := ordered.nacks_not_queued position before
        rw [stale] at absent
        exact ⟨fun member => absent (List.mem_cons_of_mem _ member), apart⟩
      · rw [List.mem_singleton.mp last]
        exact ⟨headFresh, Or.inr headAbove⟩
  · rename_i stale
    have room := queue_nil stale waiting
    have headNotNacked : positions.fresh ∉ positions.nacks := by
      intro nacked
      have apart := (ordered.nacks_not_queued _ nacked).2
      omega
    have low := ordered.needed_fresh
    refine ⟨?_, ?_, ordered.stale_above, ordered.stale_not_needed, ordered.stale_distinct, ?_, ?_,
      ?_, ordered.acks_below, ordered.acks_distinct, by simp⟩ <;> simp only
    · omega
    · omega
    · intro position nacked
      rcases List.mem_append.mp nacked with before | last
      · exact ordered.nacks_needed position before
      · rw [List.mem_singleton.mp last]
        exact low
    · refine List.nodup_append.mpr ⟨ordered.nacks_distinct, by simp, ?_⟩
      rintro position nacked other last rfl
      rw [List.mem_singleton.mp last] at nacked
      exact headNotNacked nacked
    · intro position nacked
      rcases List.mem_append.mp nacked with before | last
      · obtain ⟨absent, apart⟩ := ordered.nacks_not_queued position before
        exact ⟨absent, by omega⟩
      · rw [List.mem_singleton.mp last]
        exact ⟨by simp [stale], Or.inl (by omega)⟩

theorem refuse_in_flight (waiting : positions.queue ≠ []) :
    positions.refuse.InFlight position ↔ positions.InFlight position := by
  unfold Positions.refuse
  split
  · rename_i head rest stale
    simp only [Positions.InFlight, stale, List.mem_append, List.mem_cons]
    tauto
  · rename_i stale
    have room := queue_nil stale waiting
    simp only [Positions.InFlight, stale, List.mem_append, List.mem_singleton, List.not_mem_nil,
      false_or]
    by_cases first : position = positions.fresh
    · simp [first, room]
    · have bounds : positions.fresh + 1 ≤ position ↔ positions.fresh ≤ position := by omega
      simp [first, bounds]

/-- The head of the queue has not been accepted before. -/
theorem head_needed {inRnr : Bool} (ordered : Ordered positions inRnr) {head : Nat}
    {rest : List Nat} (shape : positions.queue = head :: rest) :
    positions.needed ≤ head ∧ positions.InFlight head ∧
      (head = positions.needed → positions.stale = [] ∧ positions.fresh = positions.needed ∧
        positions.fresh < positions.next) ∧
      (inRnr = false → head = positions.needed) := by
  have waiting : positions.queue ≠ [] := by simp [shape]
  have needed := Nat.le_trans ordered.needed_fresh ordered.fresh_next
  have low := ordered.needed_fresh
  cases stale : positions.stale with
  | cons first others =>
    simp only [Positions.queue, stale, List.cons_append, List.cons.injEq] at shape
    obtain ⟨rfl, rfl⟩ := shape
    have member : first ∈ positions.stale := by simp [stale]
    have above := ordered.stale_above first member
    refine ⟨by omega, Or.inl member, ?_, ?_⟩
    · rintro rfl
      exact absurd member ordered.stale_not_needed
    · intro quiet
      simp [(ordered.calm quiet).1] at stale
  | nil =>
    have room := queue_nil stale waiting
    have width : positions.next - positions.fresh =
        positions.next - (positions.fresh + 1) + 1 := by omega
    simp only [Positions.queue, stale, List.nil_append] at shape
    rw [width, List.range'_succ] at shape
    obtain ⟨rfl, rfl⟩ := List.cons.inj shape
    exact ⟨low, Or.inr (Or.inl ⟨Nat.le_refl _, room⟩), fun same => ⟨rfl, same, room⟩,
      fun quiet => (ordered.calm quiet).2.1⟩

/-- What the queue pair answers at the head of the queue: it never meets an RSN that it
cannot place, accepts only the RSN it needs and refuses in RNR state. -/
theorem process_cases (tracked : Tracked start system positions) {rest : List UInt32}
    (refuse : Bool) (head : system.queue = rsn :: rest) :
    ∃ position others, positions.queue = position :: others ∧ rsn = advance start position ∧
      rest = others.map (advance start) ∧
      ((position = positions.needed ∧ processIncoming system.context rsn refuse =
          .ok (.ack, leaveRnrState (updateNextRsnToReceive system.context))) ∨
        processIncoming system.context rsn refuse = .ok (.rnrNak, enterRnrState system.context)) := by
  have shape := tracked.queue_rsn
  rw [head] at shape
  obtain ⟨position, others, queued, rfl, rfl⟩ := List.map_eq_cons_iff.mp shape.symm
  obtain ⟨low, inFlight, _, quiet⟩ := head_needed tracked.ordered queued
  refine ⟨position, others, queued, rfl, rfl, ?_⟩
  have near := tracked.arrived_near (tracked.buffered.flying position inFlight).1
  simp only [processIncoming, isRsnAcceptable, tracked.rcMode, tracked.needed_rsn, true_and]
  by_cases same : position = positions.needed
  · subst same
    cases refuse
    · exact Or.inl ⟨rfl, by simp⟩
    · exact Or.inr (by simp)
  · right
    have different : advance start position ≠ advance start positions.needed := by
      intro equal
      have numbers := congrArg UInt32.toNat equal
      rw [advance_to_nat, advance_to_nat] at numbers
      omega
    have inRnr : system.context.inRnr = true := by
      by_contra calm
      exact same (quiet (by simpa using calm))
    simp [different, inRnr]

theorem process_tracked (tracked : Tracked start system positions) {rest : List UInt32}
    {refuse : Bool} {result : Syndrome × FalconQpContext} (head : system.queue = rsn :: rest)
    (done : processIncoming system.context rsn refuse = .ok result) :
    ∃ after, Tracked start (system.answer rsn rest result) after := by
  obtain ⟨position, others, queued, rfl, rfl, outcome⟩ := process_cases tracked refuse head
  have waiting : positions.queue ≠ [] := by simp [queued]
  rcases outcome with ⟨same, accepted⟩ | refused
  · obtain ⟨empty, aligned, room⟩ := (head_needed tracked.ordered queued).2.2.1 same
    rw [accepted] at done
    cases done
    have left : positions.accept.queue = others := by
      rw [← (refuse_queue queued).1]
      simp [Positions.queue, Positions.accept, Positions.refuse, empty]
    refine ⟨positions.accept, ?_, ?_, tracked.mode, ?_, tracked.next_rsn, ?_, ?_,
      tracked.nacks_rsn, ?_, ?_⟩ <;>
      simp only [System.answer, leaveRnrState, updateNextRsnToReceive, tracked.rcMode, if_true]
    · exact accept_ordered tracked.ordered empty aligned room
    · exact buffered_of_same tracked.buffered rfl rfl rfl
        (fun _ => accept_in_flight aligned room) rfl (Nat.le_succ _)
    · rw [tracked.needed_rsn, Positions.accept, advance_succ]
    · rw [left]
    · simp [Positions.accept, tracked.acks_rsn, same]
    · simp [Positions.accept, tracked.accepted_rsn, same, List.range_succ]
  · rw [refused] at done
    cases done
    obtain ⟨moved, nacked⟩ := refuse_queue queued
    have kept : positions.refuse.needed = positions.needed ∧
        positions.refuse.next = positions.next ∧ positions.refuse.acks = positions.acks := by
      unfold Positions.refuse
      split <;> exact ⟨rfl, rfl, rfl⟩
    refine ⟨positions.refuse, ?_, ?_, tracked.mode, ?_, ?_, ?_, ?_, ?_, ?_, ?_⟩ <;>
      simp only [System.answer, enterRnrState, tracked.rcMode, if_true, kept]
    · exact refuse_ordered tracked.ordered waiting
    · exact buffered_of_same tracked.buffered rfl rfl rfl
        (fun _ => refuse_in_flight waiting) kept.2.1 (Nat.le_of_eq kept.1.symm)
    · exact tracked.next_rsn
    · exact tracked.needed_rsn
    · rw [moved]
    · simp [nacked, tracked.nacks_rsn]
    · exact tracked.acks_rsn
    · exact tracked.accepted_rsn

/-! ### Answers come back -/

/-- An open position leaves flight: everything else keeps its place. -/
private theorem erase_split {before after : List Nat} {all : List Nat}
    (shape : all = before ++ position :: after) (distinct : all.Nodup) :
    (before ++ after).Nodup ∧ ∀ other, other ∈ before ++ after ↔ other ∈ all ∧ other ≠ position := by
  subst shape
  have moved : (before ++ position :: after).Perm (position :: (before ++ after)) :=
    List.perm_middle
  obtain ⟨absent, rest⟩ := List.nodup_cons.mp (moved.nodup_iff.mp distinct)
  refine ⟨rest, fun other => ?_⟩
  rw [moved.mem_iff, List.mem_cons]
  constructor
  · intro member
    refine ⟨Or.inr member, ?_⟩
    rintro rfl
    exact absent member
  · rintro ⟨rfl | member, different⟩
    · exact absurd rfl different
    · exact member

theorem ack_tracked (tracked : Tracked start system positions) {before after : List UInt32}
    (arrived : position ∈ system.arrived) (pending : position ∉ system.acknowledged)
    (answered : system.acks = before ++ advance start position :: after) :
    ∃ final, Tracked start
      { system with
        info := ackInto (advance start position) system.info
        acks := before ++ after
        acknowledged := system.acknowledged ++ [position] } final := by
  have shape := tracked.acks_rsn
  rw [answered] at shape
  obtain ⟨early, rest, split, rfl, later⟩ := List.map_eq_append_iff.mp shape.symm
  obtain ⟨acked, late, rfl, same, rfl⟩ := List.map_eq_cons_iff.mp later
  have member : acked ∈ positions.acks := by simp [split]
  have flying : positions.InFlight acked := Or.inr (Or.inr (Or.inr member))
  obtain rfl := tracked.open_injective (tracked.buffered.flying acked flying)
    ⟨arrived, pending⟩ same
  obtain ⟨distinct, members⟩ := erase_split split tracked.ordered.acks_distinct
  have below := tracked.ordered.acks_below acked member
  have ordered := tracked.ordered
  have needed := tracked.needed_next
  have flights : ∀ other, Positions.InFlight { positions with acks := early ++ late } other ↔
      positions.InFlight other ∧ other ≠ acked := by
    intro other
    simp only [Positions.InFlight, members other]
    constructor
    · rintro (stale | ⟨above, under⟩ | nacked | ⟨listed, different⟩)
      · have above := ordered.stale_above other stale
        exact ⟨Or.inl stale, by omega⟩
      · have low := ordered.needed_fresh
        exact ⟨Or.inr (Or.inl ⟨above, under⟩), by omega⟩
      · have low := ordered.nacks_needed other nacked
        exact ⟨Or.inr (Or.inr (Or.inl nacked)), by omega⟩
      · exact ⟨Or.inr (Or.inr (Or.inr listed)), different⟩
    · rintro ⟨stale | fresh | nacked | listed, different⟩
      · exact Or.inl stale
      · exact Or.inr (Or.inl fresh)
      · exact Or.inr (Or.inr (Or.inl nacked))
      · exact Or.inr (Or.inr (Or.inr ⟨listed, different⟩))
  have opens : ∀ other, other ∈ system.arrived ∧ other ∉ system.acknowledged ++ [acked] ↔
      Open system other ∧ other ≠ acked := by
    intro other
    simp [Open, and_assoc]
  have erased : ackInto (advance start acked) system.info = { system.info with
      targetRsnBuffer := system.info.targetRsnBuffer.erase (advance start acked)
      nextTargetNetworkRsn := system.info.nextTargetNetworkRsn + 1
      inRnr := false } := by simp [ackInto, tracked.mode]
  refine ⟨{ positions with acks := early ++ late },
    { ordered with acks_below := ?_, acks_distinct := distinct },
    ⟨?_, ?_, ?_, ?_, tracked.buffered.passed, ?_, ?_⟩, ?_, tracked.rcMode, ?_,
    tracked.needed_rsn, tracked.queue_rsn, tracked.nacks_rsn, ?_, tracked.accepted_rsn⟩
  · intro other listed
    exact ordered.acks_below other ((members other).mp listed).1
  · intro other opened
    obtain ⟨openBefore, different⟩ := (opens other).mp opened
    obtain ⟨entry, held, inFlight⟩ := tracked.buffered.held other openBefore
    have apart : advance start other ≠ advance start acked := fun equal =>
      different (tracked.open_injective openBefore ⟨arrived, pending⟩ equal)
    refine ⟨entry, ?_, ?_⟩
    · rw [erased]
      simp only
      rw [get_erase, if_neg apart, held]
    · rw [inFlight, flights other]
      simp [different]
  · intro rsn listed
    rw [erased] at listed
    obtain ⟨entry, held⟩ := mem_iff_get.mp listed
    rw [get_erase] at held
    split at held
    · cases held
    · rename_i apart
      obtain ⟨other, openBefore, rfl⟩ :=
        tracked.buffered.only rsn (mem_iff_get.mpr ⟨entry, held⟩)
      refine ⟨other, (opens other).mpr ⟨openBefore, ?_⟩, rfl⟩
      rintro rfl
      exact apart rfl
  · intro other inFlight
    obtain ⟨before, different⟩ := (flights other).mp inFlight
    exact (opens other).mpr ⟨tracked.buffered.flying other before, different⟩
  · intro other opened grounded
    obtain ⟨openBefore, different⟩ := (opens other).mp opened
    rw [flights other] at grounded
    exact tracked.buffered.resting other openBefore fun inFlight => grounded ⟨inFlight, different⟩
  · intro other done
    rcases List.mem_append.mp done with before | last
    · exact tracked.buffered.acknowledged other before
    · rw [List.mem_singleton.mp last]
      exact below
  · intro other listed earlier far
    exact List.mem_append_left _ (tracked.buffered.window other listed earlier far)
  · rw [erased]
    exact tracked.mode
  · rw [erased]
    exact tracked.next_rsn
  · simp

/-- The engine rewinds to a position that the ULP refused. -/
def Positions.rewind (positions : Positions) (position : Nat) (nacks : List Nat) : Positions :=
  if position < positions.next then
    { positions with
      next := position
      stale := positions.queue
      fresh := position
      nacks }
  else { positions with nacks }

theorem rewind_ordered {inRnr : Bool} (ordered : Ordered positions inRnr) {nacks : List Nat}
    (nacked : position ∈ positions.nacks) (distinct : nacks.Nodup)
    (members : ∀ other, other ∈ nacks ↔ other ∈ positions.nacks ∧ other ≠ position) :
    Ordered (positions.rewind position nacks) inRnr := by
  have needed := ordered.nacks_needed position nacked
  have apart := (ordered.nacks_not_queued position nacked).2
  have low := ordered.needed_fresh
  unfold Positions.rewind
  split
  · rename_i behind
    have queued : ∀ other, other ∈ positions.queue ↔ other ∈ positions.stale ∨
        positions.fresh ≤ other ∧ other < positions.next := by
      intro other
      have high := ordered.fresh_next
      simp only [Positions.queue, List.mem_append, List.mem_range'_1]
      have bound : positions.fresh + (positions.next - positions.fresh) = positions.next := by omega
      rw [bound]
    refine ⟨needed, Nat.le_refl _, ?_, ?_, ?_, ?_, distinct, ?_, ordered.acks_below,
      ordered.acks_distinct, ?_⟩ <;> simp only
    · intro other listed
      rcases (queued other).mp listed with stale | ⟨above, _⟩
      · have high := ordered.stale_above other stale
        omega
      · omega
    · intro listed
      rcases (queued _).mp listed with stale | ⟨above, _⟩
      · exact ordered.stale_not_needed stale
      · omega
    · refine List.nodup_append.mpr ⟨ordered.stale_distinct, List.nodup_range', ?_⟩
      intro other stale same range
      have high := ordered.stale_above other stale
      have inside := List.mem_range'_1.mp range
      have order := ordered.fresh_next
      omega
    · intro other listed
      exact ordered.nacks_needed other ((members other).mp listed).1
    · intro other listed
      obtain ⟨absent, elsewhere⟩ := ordered.nacks_not_queued other ((members other).mp listed).1
      refine ⟨?_, by omega⟩
      intro member
      rcases (queued other).mp member with stale | ⟨above, under⟩
      · exact absent stale
      · omega
    · intro quiet
      have later := (ordered.calm quiet).2.2 position nacked
      omega
  · refine { ordered with
      nacks_needed := ?_, nacks_distinct := distinct, nacks_not_queued := ?_, calm := ?_ }
    · intro other listed
      exact ordered.nacks_needed other ((members other).mp listed).1
    · intro other listed
      exact ordered.nacks_not_queued other ((members other).mp listed).1
    · intro quiet
      obtain ⟨empty, aligned, later⟩ := ordered.calm quiet
      exact ⟨empty, aligned, fun other listed => later other ((members other).mp listed).1⟩

theorem rewind_in_flight {inRnr : Bool} (ordered : Ordered positions inRnr) {nacks : List Nat}
    (nacked : position ∈ positions.nacks)
    (members : ∀ other, other ∈ nacks ↔ other ∈ positions.nacks ∧ other ≠ position) (other : Nat) :
    (positions.rewind position nacks).InFlight other ↔
      positions.InFlight other ∧ other ≠ position := by
  obtain ⟨notStale, apart⟩ := ordered.nacks_not_queued position nacked
  have needed := ordered.nacks_needed position nacked
  have notAcked : position ∉ positions.acks := by
    intro acked
    have below := ordered.acks_below position acked
    omega
  have order := ordered.fresh_next
  have bound : positions.fresh + (positions.next - positions.fresh) = positions.next := by omega
  by_cases same : other = position
  · subst same
    have gone : other ∉ nacks := fun listed => ((members other).mp listed).2 rfl
    have inside : ¬ (positions.fresh ≤ other ∧ other < positions.next) := by omega
    unfold Positions.rewind
    split
    · simp only [Positions.InFlight, Positions.queue, List.mem_append, List.mem_range'_1, bound,
        notStale, gone, notAcked, inside, Nat.lt_irrefl, and_false, or_self, ne_eq,
        not_true_eq_false]
    · simp only [Positions.InFlight, notStale, gone, notAcked, inside, or_self, ne_eq,
        not_true_eq_false, and_false]
  · unfold Positions.rewind
    split
    · simp only [Positions.InFlight, Positions.queue, List.mem_append, List.mem_range'_1, bound,
        members other]
      simp only [same, ne_eq, not_false_eq_true, and_true]
      constructor
      · rintro ((stale | range) | range | rest)
        · exact Or.inl stale
        · exact Or.inr (Or.inl range)
        · omega
        · exact Or.inr (Or.inr rest)
      · rintro (stale | range | rest)
        · exact Or.inl (Or.inl stale)
        · exact Or.inl (Or.inr range)
        · exact Or.inr (Or.inr rest)
    · simp only [Positions.InFlight, members other, same, ne_eq, not_false_eq_true, and_true]

theorem rewind_queue (positions : Positions) (position : Nat) (nacks : List Nat) :
    (positions.rewind position nacks).queue = positions.queue := by
  unfold Positions.rewind
  split
  · simp [Positions.queue]
  · rfl

theorem nack_tracked (tracked : Tracked start system positions) {before after : List UInt32}
    (rnrTimeout : Nat) (answered : system.nacks = before ++ rsn :: after)
    (agrees : ComparisonAgrees system rsn) :
    ∃ final, Tracked start
      { system with
        info := rnrNackInto system.now rsn rnrTimeout system.info
        timers := system.timers ++ [⟨cid, rsn, system.now + rnrTimeout⟩]
        nacks := before ++ after } final := by
  have shape := tracked.nacks_rsn
  rw [answered] at shape
  obtain ⟨early, rest, split, rfl, later⟩ := List.map_eq_append_iff.mp shape.symm
  obtain ⟨position, late, rfl, rfl, rfl⟩ := List.map_eq_cons_iff.mp later
  have ordered := tracked.ordered
  have nacked : position ∈ positions.nacks := by simp [split]
  obtain ⟨distinct, members⟩ := erase_split split ordered.nacks_distinct
  have opened := tracked.buffered.flying position (Or.inr (Or.inr (Or.inl nacked)))
  have low := ordered.nacks_needed position nacked
  have near := tracked.arrived_near opened.1
  have nextLow := tracked.needed_next
  have nextNear := tracked.next_near
  -- below one cycle the distances from the needed RSN are the distances of the positions
  have rewinds : advance start position < system.info.nextTargetRsn ↔
      position < positions.next := by
    refine agrees.trans ?_
    rw [tracked.needed_rsn, tracked.next_rsn]
    have distances : ∀ other, positions.needed ≤ other → other < positions.needed + 2 ^ 32 →
        distance (advance start positions.needed) (advance start other) =
          other - positions.needed := by
      intro other reached below
      have shift : advance start other =
          advance (advance start positions.needed) (other - positions.needed) := by
        rw [advance_advance]
        congr 1
        omega
      rw [shift, distance_advance _ (by omega)]
    rw [distances position low (by omega), distances positions.next nextLow nextNear]
    omega
  obtain ⟨entry, held, _⟩ := tracked.buffered.held position opened
  have rewound : rnrNackInto system.now (advance start position) rnrTimeout system.info =
      { system.info with
        nextTargetRsn := if position < positions.next then advance start position
          else system.info.nextTargetRsn
        inRnr := true
        rnrTimeout
        targetRsnBuffer := system.info.targetRsnBuffer.insert (advance start position)
          { entry with retryTime := .ticks (system.now + rnrTimeout) } } := by
    simp [rnrNackInto, tracked.mode, rewinds, Std.ExtTreeMap.getD_eq_getD_getElem?, held]
  have lookup : ∀ key : UInt32, (rnrNackInto system.now (advance start position) rnrTimeout
      system.info).targetRsnBuffer[key]? =
        if key = advance start position then
          some { entry with retryTime := .ticks (system.now + rnrTimeout) }
        else system.info.targetRsnBuffer[key]? := by
    intro key
    rw [rewound]
    exact get_insert _ _ _ _
  have flights := rewind_in_flight ordered nacked members
  have nextLe : (positions.rewind position (early ++ late)).next ≤ positions.next ∧
      (positions.rewind position (early ++ late)).next ≤ position := by
    unfold Positions.rewind
    split <;> simp only <;> omega
  have kept : (positions.rewind position (early ++ late)).needed = positions.needed ∧
      (positions.rewind position (early ++ late)).acks = positions.acks ∧
      (positions.rewind position (early ++ late)).nacks = early ++ late := by
    unfold Positions.rewind
    split <;> exact ⟨rfl, rfl, rfl⟩
  refine ⟨positions.rewind position (early ++ late), rewind_ordered ordered nacked distinct members,
    ⟨?_, ?_, ?_, ?_, ?_, ?_, tracked.buffered.window⟩, ?_, tracked.rcMode, ?_, ?_, ?_, ?_, ?_, ?_⟩
  · intro other openOther
    simp only [lookup, flights other]
    by_cases same : other = position
    · subst same
      exact ⟨_, if_pos rfl, by simp⟩
    · have different : advance start other ≠ advance start position := fun equal =>
        same (tracked.open_injective openOther opened equal)
      obtain ⟨otherEntry, otherHeld, inFlight⟩ := tracked.buffered.held other openOther
      exact ⟨otherEntry, by rw [if_neg different, otherHeld], by simp [inFlight, same]⟩
  · intro key listed
    obtain ⟨other, found⟩ := mem_iff_get.mp listed
    simp only [lookup] at found
    split at found
    · rename_i same
      exact ⟨position, opened, same⟩
    · exact tracked.buffered.only key (mem_iff_get.mpr ⟨other, found⟩)
  · intro other inFlight
    exact tracked.buffered.flying other ((flights other).mp inFlight).1
  · intro other openOther grounded
    rw [flights other] at grounded
    by_cases same : other = position
    · rw [same]
      exact nextLe.2
    · have above := tracked.buffered.resting other openOther fun inFlight =>
        grounded ⟨inFlight, same⟩
      exact Nat.le_trans nextLe.1 above
  · intro other below
    exact tracked.buffered.passed other (Nat.lt_of_lt_of_le below nextLe.1)
  · intro other done
    rw [kept.1]
    exact tracked.buffered.acknowledged other done
  · rw [rewound]
    exact tracked.mode
  · rw [rewound]
    unfold Positions.rewind
    split <;> simp [*, tracked.next_rsn]
  · rw [kept.1]
    exact tracked.needed_rsn
  · rw [rewind_queue]
    exact tracked.queue_rsn
  · simp [kept]
  · rw [kept.2.1]
    exact tracked.acks_rsn
  · rw [kept.1]
    exact tracked.accepted_rsn

/-! ### Retries and timers -/

/-- Bringing forward the retry time of a resting entry changes nothing else. -/
theorem retime_tracked (tracked : Tracked start system positions) {entry : TransactionMetadata}
    (found : system.info.targetRsnBuffer[rsn]? = some entry)
    (resting : entry.retryTime ≠ .infinite) (time : Nat) :
    Tracked start
      (system.absorb ⟨{ system.info with targetRsnBuffer :=
        system.info.targetRsnBuffer.insert rsn { entry with retryTime := .ticks time } }, []⟩)
      positions := by
  have lookup : ∀ key : UInt32, (system.info.targetRsnBuffer.insert rsn
      { entry with retryTime := .ticks time })[key]? =
        if key = rsn then some { entry with retryTime := .ticks time }
        else system.info.targetRsnBuffer[key]? := fun key => get_insert _ _ _ _
  refine ⟨tracked.ordered, ⟨?_, ?_, tracked.buffered.flying, tracked.buffered.resting,
    tracked.buffered.passed, tracked.buffered.acknowledged, tracked.buffered.window⟩,
    tracked.mode, tracked.rcMode, tracked.next_rsn, tracked.needed_rsn, ?_, tracked.nacks_rsn,
    tracked.acks_rsn, tracked.accepted_rsn⟩
  · intro position opened
    obtain ⟨other, held, inFlight⟩ := tracked.buffered.held position opened
    simp only [System.absorb, lookup]
    by_cases same : advance start position = rsn
    · subst same
      rw [found] at held
      cases held
      exact ⟨_, if_pos rfl, iff_of_false (by simp) fun flying => resting (inFlight.mpr flying)⟩
    · exact ⟨other, by rw [if_neg same, held], inFlight⟩
  · intro key listed
    obtain ⟨other, held⟩ := mem_iff_get.mp listed
    simp only [System.absorb, lookup] at held
    split at held
    · rename_i same
      rw [same]
      exact tracked.buffered.only rsn (mem_iff_get.mpr ⟨entry, found⟩)
    · exact tracked.buffered.only key (mem_iff_get.mpr ⟨other, held⟩)
  · simpa [System.absorb] using tracked.queue_rsn

theorem retry_tracked (tracked : Tracked start system positions) {status : Status}
    {progress : Progress}
    (done : retryInto cid system.now rsn system.info = .ok (status, progress)) :
    ∃ after, Tracked start (system.absorb progress) after := by
  have ordered : system.info.orderingMode ≠ .unordered := by simp [tracked.mode]
  unfold retryInto at done
  split at done
  · cases done
  · rename_i entry found
    split at done
    · cases done
    · split at done
      · cases done
        exact ⟨positions, absorb_unchanged tracked⟩
      · rename_i resting
        split at done
        · cases done
          exact check_target_tracked _ system.now _
            (retime_tracked tracked found resting system.now)
        · split at done <;> cases done <;> exact ⟨positions, absorb_unchanged tracked⟩

theorem timeout_tracked (tracked : Tracked start system positions) (rsn : UInt32) :
    ∃ after, Tracked start (system.absorb (rnrTimeoutInto cid system.now rsn system.info))
      after := by
  unfold rnrTimeoutInto
  simp only [tracked.mode, reduceCtorEq, if_false]
  split
  · exact ⟨positions, absorb_unchanged tracked⟩
  · split
    · exact ⟨positions, absorb_unchanged tracked⟩
    · split
      · exact ⟨positions, absorb_unchanged tracked⟩
      · exact check_target_tracked _ system.now _ (absorb_unchanged tracked)

/-! ## Runs -/

theorem initial_tracked (start initiatorRsn initiatorSsn targetSsn : UInt32) :
    Tracked start (System.initial start
      (newConnection initiatorRsn start initiatorSsn targetSsn .ordered))
      { needed := 0, next := 0, stale := [], fresh := 0, nacks := [], acks := [] } := by
  refine ⟨⟨?_, ?_, ?_, ?_, ?_, ?_, ?_, ?_, ?_, ?_, ?_⟩, ⟨?_, ?_, ?_, ?_, ?_, ?_, ?_⟩,
    ?_, ?_, ?_, ?_, ?_, ?_, ?_, ?_⟩ <;>
    simp [System.initial, newConnection, Open, Positions.InFlight, Positions.queue]

theorem step_tracked {system' : System} (tracked : Tracked start system positions)
    (step : Step cid start ComparisonAgrees system system') :
    ∃ after, Tracked start system' after := by
  cases step with
  | insert request once window done => exact insert_tracked tracked request once window done
  | process head done => exact process_tracked tracked head done
  | deliverAck arrived pending answered => exact ack_tracked tracked arrived pending answered
  | deliverNack rnrTimeout answered agrees =>
    exact nack_tracked tracked rnrTimeout answered agrees
  | retry done => exact retry_tracked tracked done
  | timeout set due =>
    obtain ⟨after, fired⟩ := timeout_tracked tracked _
    exact ⟨after, clock_tracked fired _ _⟩
  | tick later inTime => exact ⟨positions, clock_tracked tracked _ _⟩

theorem reachable_tracked (reached : Reachable cid start ComparisonAgrees system) :
    ∃ positions, Tracked start system positions := by
  apply Runs.invariant_of_reachable _ _ reached
  · rintro state ⟨initiatorRsn, initiatorSsn, targetSsn, rfl⟩
    exact ⟨_, initial_tracked start initiatorRsn initiatorSsn targetSsn⟩
  · rintro state next ⟨positions, tracked⟩ step
    exact step_tracked tracked step

theorem in_flight_distinct (tracked : Tracked start system positions) :
    system.inFlight.Nodup := by
  have ordered := tracked.ordered
  have needed := tracked.needed_next
  have low := ordered.needed_fresh
  have order := ordered.fresh_next
  have queued : ∀ position ∈ positions.queue, position ∈ positions.stale ∨
      positions.fresh ≤ position ∧ position < positions.next := by
    intro position listed
    rcases List.mem_append.mp listed with stale | range
    · exact Or.inl stale
    · have inside := List.mem_range'_1.mp range
      exact Or.inr (by omega)
  have shape : system.inFlight =
      (positions.queue ++ positions.nacks ++ positions.acks).map (advance start) := by
    simp [System.inFlight, tracked.queue_rsn, tracked.nacks_rsn, tracked.acks_rsn]
  rw [shape]
  have flying : ∀ position ∈ positions.queue ++ positions.nacks ++ positions.acks,
      Open system position := by
    intro position listed
    apply tracked.buffered.flying
    rcases List.mem_append.mp listed with front | acked
    · rcases List.mem_append.mp front with queue | nacked
      · rcases queued position queue with stale | range
        · exact Or.inl stale
        · exact Or.inr (Or.inl range)
      · exact Or.inr (Or.inr (Or.inl nacked))
    · exact Or.inr (Or.inr (Or.inr acked))
  refine List.Nodup.map_on
    (fun left leftListed right rightListed same =>
      tracked.open_injective (flying left leftListed) (flying right rightListed) same) ?_
  have queueDistinct : positions.queue.Nodup := by
    refine List.nodup_append.mpr ⟨ordered.stale_distinct, List.nodup_range', ?_⟩
    intro position stale other range
    have above := ordered.stale_above position stale
    have inside := List.mem_range'_1.mp range
    omega
  refine List.nodup_append.mpr ⟨List.nodup_append.mpr ⟨queueDistinct, ordered.nacks_distinct, ?_⟩,
    ordered.acks_distinct, ?_⟩
  · rintro position queue other nacked rfl
    obtain ⟨notStale, apart⟩ := ordered.nacks_not_queued position nacked
    rcases queued position queue with stale | range
    · exact notStale stale
    · omega
  · rintro position front other acked rfl
    have below := ordered.acks_below position acked
    rcases List.mem_append.mp front with queue | nacked
    · rcases queued position queue with stale | range
      · have above := ordered.stale_above position stale
        omega
      · omega
    · have above := ordered.nacks_needed position nacked
      omega

/-- When the RSN the ULP needs is buffered and not in flight, it is the next one handed out. -/
theorem needed_is_next (tracked : Tracked start system positions)
    (buffered : system.context.nextRxRsn ∈ system.info.targetRsnBuffer)
    (landed : system.context.nextRxRsn ∉ system.inFlight) :
    system.info.nextTargetRsn = system.context.nextRxRsn := by
  obtain ⟨position, opened, same⟩ := tracked.buffered.only _ buffered
  have grounded : ¬ positions.InFlight position := by
    intro inFlight
    apply landed
    have order := tracked.ordered.fresh_next
    have bound : positions.fresh + (positions.next - positions.fresh) = positions.next := by omega
    have listed : position ∈ positions.queue ++ positions.nacks ++ positions.acks := by
      simp only [Positions.queue, List.mem_append, List.mem_range'_1, bound]
      rcases inFlight with stale | range | nacked | acked
      · exact Or.inl (Or.inl (Or.inl stale))
      · exact Or.inl (Or.inl (Or.inr range))
      · exact Or.inl (Or.inr nacked)
      · exact Or.inr acked
    have mapped : advance start position ∈
        (positions.queue ++ positions.nacks ++ positions.acks).map (advance start) :=
      List.mem_map.mpr ⟨position, listed, rfl⟩
    rw [same]
    simpa [System.inFlight, tracked.queue_rsn, tracked.nacks_rsn, tracked.acks_rsn] using mapped
  have above := tracked.buffered.resting position opened grounded
  have near := tracked.arrived_near opened.1
  have low := tracked.needed_next
  rw [tracked.needed_rsn] at same
  have numbers := congrArg UInt32.toNat same
  rw [advance_to_nat, advance_to_nat] at numbers
  have equal : positions.next = positions.needed := by omega
  rw [tracked.next_rsn, tracked.needed_rsn, equal]

/-! ## A refused RSN -/

/-- The first RSN was inserted and handed to the ULP. -/
def handedFirst (start : UInt32) : System :=
  let info := newConnection 0 start 0 0 .ordered
  { System.initial start info with
    info := (sendToUlpTarget 1 start { packetType := .pushUnsolicitedData }
      (remember start .pushUnsolicitedData info)).info
    queue := [start]
    arrived := [0] }

/-- The queue pair refused it. -/
def refusedFirst (start : UInt32) : System :=
  { handedFirst start with
    context := { rcMode := .orderedRc, nextRxRsn := start, inRnr := true }
    queue := []
    nacks := [start] }

/-- The RNR NACK reached the engine. -/
def nackedFirst (start : UInt32) : System :=
  { refusedFirst start with
    info := rnrNackInto 0 start 5 (handedFirst start).info
    timers := [⟨1, start, 5⟩]
    nacks := [] }

/-- The timer went off while another RSN was due. -/
def timedOutFirst (start : UInt32) : System := { nackedFirst start with now := 5, timers := [] }

theorem nacked_first_reachable (start : UInt32) {nackAllowed : System → UInt32 → Prop}
    (handed : insertInto 1 0 .pushUnsolicitedData (advance start 0) 0
      (newConnection 0 start 0 0 .ordered) =
        .ok (.ok, ⟨(handedFirst start).info, [⟨1, start, .pushUnsolicitedData⟩]⟩))
    (allowed : nackAllowed (refusedFirst start) start) :
    Reachable 1 start nackAllowed (nackedFirst start) := by
  have opened : Reachable 1 start nackAllowed
      (System.initial start (newConnection 0 start 0 0 .ordered)) :=
    Runs.reachable_initial ⟨0, 0, 0, rfl⟩
  have inserted : Step 1 start nackAllowed
      (System.initial start (newConnection 0 start 0 0 .ordered)) (handedFirst start) := by
    have once : 0 ∉ (System.initial start (newConnection 0 start 0 0 .ordered)).arrived := by
      simp [System.initial]
    have window : ∀ earlier, earlier + 2 ^ 32 ≤ 0 + 1 →
        earlier ∈ (System.initial start (newConnection 0 start 0 0 .ordered)).acknowledged := by
      omega
    exact .insert rfl once window handed
  have refused : Step 1 start nackAllowed (handedFirst start) (refusedFirst start) := by
    have done : processIncoming (handedFirst start).context start true =
        .ok (.rnrNak, (refusedFirst start).context) := by
      simp [processIncoming, isRsnAcceptable, handedFirst, refusedFirst, System.initial,
        enterRnrState]
    exact .process rfl done
  have nacked : Step 1 start nackAllowed (refusedFirst start) (nackedFirst start) := by
    have answered : (refusedFirst start).nacks = [] ++ start :: [] := rfl
    exact .deliverNack 5 answered allowed
  exact Runs.reachable_step (Runs.reachable_step (Runs.reachable_step opened inserted) refused)
    nacked

/-- In every run in which each RNR NACK meets a numeric comparison that agrees with the order
of the sequence, the engine hands nothing out twice, the ULP accepts every RSN once and in
order without meeting an unexpected one, and the RSN it needs is never lost. -/
theorem agreeing_runs_sound (reached : Reachable cid start ComparisonAgrees system) :
    Sound start system := by
  obtain ⟨positions, tracked⟩ := reachable_tracked reached
  refine ⟨in_flight_distinct tracked, ?_, ?_, ?_⟩
  · rw [tracked.accepted_rsn, List.length_map, List.length_range]
  · intro rsn rest refuse head
    obtain ⟨_, _, _, _, _, ⟨_, accepted⟩ | refused⟩ := process_cases tracked refuse head
    · exact ⟨_, accepted⟩
    · exact ⟨_, refused⟩
  · intro buffered landed
    exact Or.inl (needed_is_next tracked buffered landed)

/-- A refused RSN that lies before the next one in both orders is rewound to. -/
theorem agreeing_runs_sound_refused : Sound 5 (nackedFirst 5) := by
  have agrees : ComparisonAgrees (refusedFirst 5) 5 := by
    unfold ComparisonAgrees
    decide +kernel
  exact agreeing_runs_sound (nacked_first_reachable 5 rfl agrees)

/-- The queue pair refuses RSN 0xFFFFFFFF after the engine's next RSN wrapped to 0. The engine
does not rewind, its timer finds another RSN due, and nothing is left that would hand the
refused RSN out again. -/
theorem refused_before_wrap_wedges :
    Reachable 1 0xFFFFFFFF (fun _ _ => True) (timedOutFirst 0xFFFFFFFF) ∧
      ¬ Sound 0xFFFFFFFF (timedOutFirst 0xFFFFFFFF) := by
  have nacked : Reachable 1 0xFFFFFFFF (fun _ _ => True) (nackedFirst 0xFFFFFFFF) :=
    nacked_first_reachable 0xFFFFFFFF rfl trivial
  have waited : Step 1 0xFFFFFFFF (fun _ _ => True) (nackedFirst 0xFFFFFFFF)
      { nackedFirst 0xFFFFFFFF with now := 5 } := .tick (by decide) (by decide)
  have fired : Step 1 0xFFFFFFFF (fun _ _ => True) { nackedFirst 0xFFFFFFFF with now := 5 }
      (timedOutFirst 0xFFFFFFFF) := by
    have set : ⟨1, 0xFFFFFFFF, 5⟩ ∈
        ({ nackedFirst 0xFFFFFFFF with now := 5 } : System).timers := by decide
    exact .timeout set rfl
  refine ⟨Runs.reachable_step (Runs.reachable_step nacked waited) fired, ?_⟩
  intro sound
  rcases sound.neverWedged (by decide +kernel) (by decide +kernel) with next | ⟨timer, set, _⟩
  · revert next
    decide +kernel
  · cases set

end Isekai.RnrProofs
