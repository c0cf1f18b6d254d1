import Isekai.MapContents
import Isekai.ReliabilityState

/-! How a transmitter window agrees with what was sent through it: its base and its bits say which
packets are acknowledged, and the packet contexts are those of all the others. While a window is
being moved up, the packets below a bound are swept: their contexts are gone, and their bits are
not yet set. -/

namespace Isekai.WindowAlignment
open SequenceNumber Reliability FastConnectionScheduler

variable {after : TxWindow}

/-- How many PSNs were sent from the base on. -/
def span (tx : TxWindow) : Nat :=
  distance tx.basePacketSequenceNumber tx.nextPacketSequenceNumber

/-- How far a PSN is from the base. -/
def offset (tx : TxWindow) (psn : UInt32) : Nat := distance tx.basePacketSequenceNumber psn

/-- The packet that was sent at an offset from the base. -/
def sentAt (tx : TxWindow) (log : List OutstandingPacketContext) (index : Nat) :
    Option OutstandingPacketContext :=
  log[log.length - span tx + index]?

/-- A window agrees with the list of the packets that were sent through it. -/
structure Aligned (swept : Nat) (tx : TxWindow) (log : List OutstandingPacketContext) : Prop where
  size : tx.window.size = txBitmapWidth
  within : span tx ≤ txBitmapWidth
  sent : span tx ≤ log.length
  next : tx.nextPacketSequenceNumber = UInt32.ofNat log.length
  clear : ∀ index, span tx ≤ index → tx.window.bits index = false
  contexts : ∀ psn, tx.outstandingPacketContexts psn =
    if swept ≤ offset tx psn ∧ offset tx psn < span tx ∧ tx.window.bits (offset tx psn) = false then
      sentAt tx log (offset tx psn)
    else none

variable {swept : Nat} {tx : TxWindow} {log : List OutstandingPacketContext} {psn : UInt32}
  {context : OutstandingPacketContext}

theorem aligned_empty : Aligned 0 {} [] := by
  refine ⟨rfl, Nat.zero_le _, Nat.le_refl _, rfl, fun _ _ => rfl, fun psn => ?_⟩
  rw [if_neg (by rintro ⟨_, below, _⟩; exact absurd below (Nat.not_lt_zero _))]

/-- A packet with a context was sent and is not acknowledged. -/
theorem Aligned.found (aligned : Aligned swept tx log)
    (found : tx.outstandingPacketContexts psn = some context) :
    swept ≤ offset tx psn ∧ offset tx psn < span tx ∧ tx.window.bits (offset tx psn) = false ∧
      sentAt tx log (offset tx psn) = some context := by
  rw [aligned.contexts] at found
  split_ifs at found with unacked
  exact ⟨unacked.1, unacked.2.1, unacked.2.2, found⟩

/-- The next PSN is not in use. -/
theorem Aligned.vacant (aligned : Aligned swept tx log) :
    tx.outstandingPacketContexts tx.nextPacketSequenceNumber = none := by
  rw [aligned.contexts, if_neg]
  rintro ⟨_, below, _⟩
  exact absurd below (Nat.lt_irrefl _)

theorem offset_advance {index : Nat} (small : index < 2 ^ 32) :
    offset tx (advance tx.basePacketSequenceNumber index) = index :=
  distance_advance _ small

theorem eq_advance_iff {index : Nat} (small : index < 2 ^ 32) :
    psn = advance tx.basePacketSequenceNumber index ↔ offset tx psn = index := by
  constructor
  · rintro rfl
    exact offset_advance small
  · intro same
    rw [← same]
    exact (advance_distance _ _).symm

/-! ## Steps of a window -/

/-- What the alignment does not read may change. -/
theorem aligned_same (aligned : Aligned swept tx log)
    (base : after.basePacketSequenceNumber = tx.basePacketSequenceNumber)
    (next : after.nextPacketSequenceNumber = tx.nextPacketSequenceNumber)
    (bits : after.window = tx.window)
    (contexts : after.outstandingPacketContexts = tx.outstandingPacketContexts) :
    Aligned swept after log := by
  have spans : span after = span tx := by simp only [span, base, next]
  have offsets (other : UInt32) : offset after other = offset tx other := by
    simp only [offset, base]
  refine ⟨bits ▸ aligned.size, spans ▸ aligned.within, spans ▸ aligned.sent, next ▸ aligned.next, ?_,
    fun other => ?_⟩
  · rw [spans, bits]
    exact aligned.clear
  · rw [contexts, aligned.contexts]
    simp only [spans, offsets, bits, sentAt]

/-- A packet whose bit is set has no context to take away. -/
theorem aligned_skip (aligned : Aligned swept tx log) (acked : tx.window.bits swept = true) :
    Aligned (swept + 1) tx log := by
  refine ⟨aligned.size, aligned.within, aligned.sent, aligned.next, aligned.clear, fun other => ?_⟩
  rw [aligned.contexts]
  by_cases here : offset tx other = swept
  · rw [here, if_neg (by simp [acked]), if_neg (by omega)]
  · exact if_congr (and_congr_left' (by omega)) rfl rfl

/-- The context of the first packet that is not swept is taken away. -/
theorem aligned_sweep (aligned : Aligned swept tx log) (below : swept < span tx)
    (same : after.basePacketSequenceNumber = tx.basePacketSequenceNumber ∧
      after.nextPacketSequenceNumber = tx.nextPacketSequenceNumber ∧ after.window = tx.window)
    (contexts : after.outstandingPacketContexts = Function.update tx.outstandingPacketContexts
      (advance tx.basePacketSequenceNumber swept) none) : Aligned (swept + 1) after log := by
  have spans : span after = span tx := by simp only [span, same.1, same.2.1]
  have offsets (other : UInt32) : offset after other = offset tx other := by
    simp only [offset, same.1]
  have small : swept < 2 ^ 32 := by
    have := aligned.within
    unfold txBitmapWidth at this
    omega
  refine ⟨same.2.2 ▸ aligned.size, spans ▸ aligned.within, spans ▸ aligned.sent,
    same.2.1 ▸ aligned.next, ?_, fun other => ?_⟩
  · rw [spans, same.2.2]
    exact aligned.clear
  · simp only [contexts, spans, offsets, same.2.2, sentAt]
    by_cases here : offset tx other = swept
    · rw [(eq_advance_iff small).2 here, Function.update_self, offset_advance small,
        if_neg (by omega)]
    · rw [Function.update_of_ne (fun is => here ((eq_advance_iff small).1 is)), aligned.contexts]
      exact if_congr (and_congr_left' (by omega)) rfl rfl

/-- The window moves up to what was swept. -/
theorem aligned_shift (aligned : Aligned swept tx log) (below : swept ≤ span tx)
    (base : after.basePacketSequenceNumber = advance tx.basePacketSequenceNumber swept)
    (same : after.nextPacketSequenceNumber = tx.nextPacketSequenceNumber ∧
      after.outstandingPacketContexts = tx.outstandingPacketContexts)
    (bits : after.window = tx.window.rightShift swept) : Aligned 0 after log := by
  have bound := aligned.within
  have long := aligned.sent
  unfold txBitmapWidth at bound
  have spans : span after = span tx - swept := by
    simp only [span, base, same.1]
    exact distance_from_advance _ _ below
  refine ⟨by rw [bits]; exact aligned.size, by unfold txBitmapWidth; omega, by omega,
    same.1 ▸ aligned.next, fun index outside => ?_, fun other => ?_⟩
  · rw [bits, FalconBitmap.bits_right_shift]
    exact aligned.clear _ (by omega)
  · rw [same.2, aligned.contexts, bits]
    simp only [FalconBitmap.bits_right_shift, spans, sentAt]
    by_cases beyond : swept ≤ offset tx other
    · have moved : offset after other = offset tx other - swept := by
        simp only [offset, base]
        exact distance_from_advance _ _ beyond
      have back : offset tx other - swept + swept = offset tx other := by omega
      have index : log.length - (span tx - swept) + (offset tx other - swept) =
          log.length - span tx + offset tx other := by omega
      rw [moved, back, index]
      refine if_congr ?_ rfl rfl
      constructor
      · rintro ⟨_, inside, unacked⟩
        exact ⟨Nat.zero_le _, by omega, unacked⟩
      · rintro ⟨_, inside, unacked⟩
        exact ⟨beyond, by omega, unacked⟩
    · -- A PSN before the new base is a whole cycle away from it.
      have far : span tx - swept ≤ offset after other := by
        have value : offset after other = 2 ^ 32 - swept + offset tx other := by
          have low := tx.basePacketSequenceNumber.toNat_lt
          have high := other.toNat_lt
          simp only [offset, base, distance_mod, advance_to_nat] at beyond ⊢
          omega
        omega
      rw [if_neg (fun held => beyond held.1), if_neg (fun held => by omega)]

/-- The bit of a packet is set, and its context is taken away. -/
theorem aligned_bit (aligned : Aligned 0 tx log)
    (found : tx.outstandingPacketContexts psn = some context)
    (same : after.basePacketSequenceNumber = tx.basePacketSequenceNumber ∧
      after.nextPacketSequenceNumber = tx.nextPacketSequenceNumber)
    (size : after.window.size = tx.window.size) (bits : ∀ index, after.window.bits index =
      if index = offset tx psn then true else tx.window.bits index)
    (contexts : after.outstandingPacketContexts =
      Function.update tx.outstandingPacketContexts psn none) : Aligned 0 after log := by
  obtain ⟨_, below, _, _⟩ := aligned.found found
  have spans : span after = span tx := by simp only [span, same.1, same.2]
  have offsets (other : UInt32) : offset after other = offset tx other := by
    simp only [offset, same.1]
  refine ⟨size ▸ aligned.size, spans ▸ aligned.within, spans ▸ aligned.sent, same.2 ▸ aligned.next,
    fun index outside => ?_, fun other => ?_⟩
  · rw [spans] at outside
    rw [bits, if_neg (by omega)]
    exact aligned.clear index outside
  · simp only [contexts, spans, offsets, bits, sentAt]
    by_cases here : other = psn
    · subst here
      rw [Function.update_self, if_pos rfl, if_neg (by simp)]
    · have apart : offset tx other ≠ offset tx psn := fun is => here (distance_injective _ is)
      rw [Function.update_of_ne here, aligned.contexts, if_neg apart]
      rfl

/-- A packet is sent under the next PSN. -/
theorem aligned_sent (aligned : Aligned 0 tx log) (room : span tx < txBitmapWidth)
    (same : after.basePacketSequenceNumber = tx.basePacketSequenceNumber ∧
      after.window = tx.window)
    (next : after.nextPacketSequenceNumber = tx.nextPacketSequenceNumber + 1)
    (contexts : after.outstandingPacketContexts = Function.update tx.outstandingPacketContexts
      tx.nextPacketSequenceNumber (some context)) : Aligned 0 after (log ++ [context]) := by
  have small : span tx < 2 ^ 32 - 1 := by
    unfold txBitmapWidth at room
    omega
  have long := aligned.sent
  have spans : span after = span tx + 1 := by
    simp only [span] at small ⊢
    rw [same.1, next, ← advance_distance tx.basePacketSequenceNumber tx.nextPacketSequenceNumber,
      ← advance_succ, distance_advance _ (by omega), advance_distance]
  have offsets (other : UInt32) : offset after other = offset tx other := by
    simp only [offset, same.1]
  refine ⟨same.2 ▸ aligned.size, by omega, by rw [spans, List.length_append]; simpa using long, ?_,
    fun index outside => ?_, fun other => ?_⟩
  · rw [next, aligned.next, List.length_append, List.length_singleton]
    apply UInt32.toNat_inj.mp
    simp only [UInt32.toNat_add, UInt32.toNat_ofNat', UInt32.toNat_one]
    omega
  · rw [same.2]
    exact aligned.clear index (by omega)
  · have start : (log ++ [context]).length - span after = log.length - span tx := by
      rw [spans, List.length_append, List.length_singleton]
      omega
    simp only [contexts, offsets, same.2, sentAt, start]
    by_cases here : other = tx.nextPacketSequenceNumber
    · subst here
      have at_ : offset tx tx.nextPacketSequenceNumber = span tx := rfl
      have last : log.length - span tx + span tx = log.length := by omega
      rw [Function.update_self, at_, if_pos ⟨Nat.zero_le _, by omega, aligned.clear _ le_rfl⟩, last,
        List.getElem?_concat_length]
    · have apart : offset tx other ≠ span tx := fun is => here (distance_injective _ is)
      rw [Function.update_of_ne here, aligned.contexts]
      by_cases inside : offset tx other < span tx
      · have earlier : log.length - span tx + offset tx other < log.length := by omega
        rw [List.getElem?_append_left earlier, spans]
        refine if_congr ?_ rfl rfl
        constructor
        · rintro ⟨_, _, unacked⟩
          exact ⟨Nat.zero_le _, by omega, unacked⟩
        · rintro ⟨_, _, unacked⟩
          exact ⟨Nat.zero_le _, inside, unacked⟩
      · rw [if_neg (fun held => inside held.2.1), if_neg (fun held => by omega)]

/-! ## What is acknowledged -/

/-- The packets from the base on whose bits are as given. -/
def withBit (acked : Bool) (tx : TxWindow) (log : List OutstandingPacketContext) :
    List OutstandingPacketContext :=
  (List.range (span tx)).filterMap fun index =>
    if tx.window.bits index = acked then sentAt tx log index else none

/-- The packets that were sent and are not acknowledged. -/
def unacked (tx : TxWindow) (log : List OutstandingPacketContext) :
    List OutstandingPacketContext := withBit false tx log

/-- The packets that were sent and are acknowledged: those below the base and those whose bit is
set. -/
def acked (tx : TxWindow) (log : List OutstandingPacketContext) : List OutstandingPacketContext :=
  log.take (log.length - span tx) ++ withBit true tx log

/-- The contexts are those of the packets that are not acknowledged. -/
theorem contains_unacked (aligned : Aligned 0 tx log) :
    MapContents.Contains tx.outstandingPacketContexts ↑(unacked tx log) := by
  let entry (index : Nat) : Option (UInt32 × OutstandingPacketContext) :=
    (if tx.window.bits index = false then sentAt tx log index else none).map
      fun context => (advance tx.basePacketSequenceNumber index, context)
  have within (index : Nat) (below : index < span tx) : index < 2 ^ 32 := by
    have bound := aligned.within
    unfold txBitmapWidth at bound
    omega
  have values : ((List.range (span tx)).filterMap entry).map Prod.snd = unacked tx log := by
    rw [List.map_filterMap]
    refine List.filterMap_congr fun index _ => ?_
    simp only [entry, Option.map_map, Function.comp_def, Option.map_id_fun', id]
  have key {index : Nat} {psn : UInt32} {context : OutstandingPacketContext}
      (found : entry index = some (psn, context)) :
      psn = advance tx.basePacketSequenceNumber index := by
    obtain ⟨other, _, same⟩ := Option.map_eq_some_iff.1 found
    exact (congrArg Prod.fst same).symm
  rw [← values]
  refine MapContents.contains_of_list ?_ fun psn context => ?_
  · rw [List.Nodup, List.pairwise_map, List.pairwise_filterMap]
    refine List.Pairwise.imp_of_mem ?_ (List.nodup_range (n := span tx))
    rintro one other first second apart ⟨psn, context⟩ found ⟨psn', context'⟩ found' same
    refine apart (advance_injective tx.basePacketSequenceNumber (within one (List.mem_range.1 first))
      (within other (List.mem_range.1 second)) ?_)
    rw [← key found, ← key found']
    exact same
  · rw [List.mem_filterMap]
    constructor
    · rintro ⟨index, below, found⟩
      have small := within index (List.mem_range.1 below)
      obtain ⟨other, sent, same⟩ := Option.map_eq_some_iff.1 found
      cases same
      rw [aligned.contexts, offset_advance small]
      split_ifs at sent with unset
      rw [if_pos ⟨Nat.zero_le _, List.mem_range.1 below, unset⟩]
      exact sent
    · intro found
      obtain ⟨_, below, unset, sent⟩ := aligned.found found
      refine ⟨offset tx psn, List.mem_range.2 below, ?_⟩
      simp only [entry, if_pos unset, sent, Option.map_some]
      rw [show advance tx.basePacketSequenceNumber (offset tx psn) = psn from advance_distance _ _]

theorem filterMap_range_getElem? {Item : Type} (items : List Item) :
    (List.range items.length).filterMap (fun index => items[index]?) = items := by
  induction items using List.reverseRecOn with
  | nil => rfl
  | append_singleton items last ih =>
    rw [List.length_append, List.length_singleton, List.range_succ, List.filterMap_append]
    have first : (List.range items.length).filterMap (fun index => (items ++ [last])[index]?) =
        items := by
      refine (List.filterMap_congr fun index below => ?_).trans ih
      exact List.getElem?_append_left (List.mem_range.1 below)
    rw [first]
    simp

theorem perm_by_bit (tx : TxWindow) (log : List OutstandingPacketContext) (indices : List Nat) :
    (indices.filterMap (fun index => if tx.window.bits index = false then sentAt tx log index else none)
      ++ indices.filterMap (fun index =>
        if tx.window.bits index = true then sentAt tx log index else none)).Perm
      (indices.filterMap (sentAt tx log)) := by
  induction indices with
  | nil => exact .nil
  | cons index rest ih =>
    simp only [List.filterMap_cons]
    cases bit : tx.window.bits index with
    | false =>
      cases sentAt tx log index with
      | none => simpa using ih
      | some context => simpa using ih.cons context
    | true =>
      cases sentAt tx log index with
      | none => simpa using ih
      | some context =>
        simp only [Bool.true_eq_false, if_false, if_true]
        exact List.perm_middle.trans (ih.cons context)

/-- Every packet that was sent is acknowledged or not. -/
theorem acked_or_not (aligned : Aligned 0 tx log) :
    (unacked tx log ++ acked tx log).Perm log := by
  have long := aligned.sent
  have recent : (List.range (span tx)).filterMap (sentAt tx log) =
      log.drop (log.length - span tx) := by
    have length : (log.drop (log.length - span tx)).length = span tx := by
      rw [List.length_drop]
      omega
    rw [← filterMap_range_getElem? (log.drop (log.length - span tx)), length]
    exact List.filterMap_congr fun index _ => List.getElem?_drop.symm
  have split := perm_by_bit tx log (List.range (span tx))
  rw [recent] at split
  have moved := List.perm_append_comm_assoc (unacked tx log)
    (log.take (log.length - span tx)) (withBit true tx log)
  have whole := List.take_append_drop (log.length - span tx) log
  exact moved.trans ((split.append_left _).trans (.of_eq whole))

end Isekai.WindowAlignment
