import Isekai.SequenceNumber

/-! Delivery in the order of wrapping sequence numbers. A receiver holds what arrived
early and hands on what is next; whatever way it drains its buffer, what it delivered
is a consecutive run of what arrived, and the longest one once nothing more is due. -/

namespace Isekai.InOrderDelivery
open Isekai.SequenceNumber

variable {number : UInt32}

/-- A receiver: the number due next, the values held back and those handed on. -/
structure Receiver (V : Type) where
  next : UInt32
  waiting : UInt32 → Option V
  delivered : List V

variable {V : Type} {start : UInt32} {arrived : List (UInt32 × V)} {receiver : Receiver V}
  {count : Nat}

namespace Receiver

/-- A value arrives and is held under its number. -/
def hold (receiver : Receiver V) (number : UInt32) (value : V) : Receiver V :=
  { receiver with waiting := Function.update receiver.waiting number (some value) }

/-- The value that is due is handed on. -/
def deliver (receiver : Receiver V) (value : V) : Receiver V where
  next := receiver.next + 1
  waiting := Function.update receiver.waiting receiver.next none
  delivered := receiver.delivered ++ [value]

/-- No held value is due. -/
def Settled (receiver : Receiver V) : Prop := receiver.waiting receiver.next = none

end Receiver

/-- Any number of due values are handed on, one after the other. -/
inductive Drains : Receiver V → Receiver V → Prop where
  | stop (receiver : Receiver V) : Drains receiver receiver
  | deliver {receiver final : Receiver V} {value : V}
      (due : receiver.waiting receiver.next = some value)
      (rest : Drains (receiver.deliver value) final) : Drains receiver final

/-- Draining only ever empties places. -/
theorem waiting_of_drains {receiver final : Receiver V} (drained : Drains receiver final)
    (held : final.waiting number ≠ none) : receiver.waiting number ≠ none := by
  induction drained with
  | stop => exact held
  | deliver _ _ ih =>
    have before := ih held
    simp only [Receiver.deliver, Function.update_apply] at before
    split at before
    · exact absurd rfl before
    · exact before

/-- The values of the longest consecutive run of what arrived, in order. -/
def expected (arrived : List (UInt32 × V)) (start : UInt32) : List V :=
  (longestRun (arrived.map Prod.fst) start).filterMap (fun number => arrived.lookup number)

/-- The receiver delivered exactly the first `count` values from `start` and still
holds everything else that arrived. -/
structure InOrder (start : UInt32) (arrived : List (UInt32 × V)) (receiver : Receiver V)
    (count : Nat) : Prop where
  within : count ≤ 2 ^ 32
  next_exact : receiver.next = advance start count
  delivered_exact : receiver.delivered =
    (List.range count).filterMap (fun i => arrived.lookup (advance start i))
  present : ∀ i < count, advance start i ∈ arrived.map Prod.fst
  waiting_exact : ∀ number, receiver.waiting number =
    if distance start number < count then none else arrived.lookup number

/-- The number that the longest run inside `numbers` leads up to. -/
def dueNumber (numbers : List UInt32) (start : UInt32) : UInt32 :=
  advance start (longestRun numbers start).length

/-- A number that arrived but lies beyond the longest run. -/
def HeldBack (numbers : List UInt32) (start number : UInt32) : Prop :=
  number ∈ numbers ∧ number ∉ longestRun numbers start

/-- No number of the list is a stalling one for those that came before it. -/
def NeverStalls (stall : List UInt32 → UInt32 → Prop) (numbers : List UInt32) : Prop :=
  ∀ earlier number later, numbers = earlier ++ number :: later → ¬ stall earlier number

theorem never_stalls_nil (stall : List UInt32 → UInt32 → Prop) : NeverStalls stall [] := by
  intro earlier number later split
  simp at split

theorem never_stalls_snoc (stall : List UInt32 → UInt32 → Prop) (numbers : List UInt32)
    (number : UInt32) :
    NeverStalls stall (numbers ++ [number]) ↔
      NeverStalls stall numbers ∧ ¬ stall numbers number := by
  constructor
  · intro never
    refine ⟨fun earlier other later split => ?_, never numbers number [] rfl⟩
    exact never earlier other (later ++ [number]) (by simp [split])
  · rintro ⟨never, last⟩ earlier other later split
    rcases List.eq_nil_or_concat later with rfl | ⟨middle, final, rfl⟩
    · obtain ⟨rfl, same⟩ := List.append_inj' split rfl
      obtain rfl := List.singleton_inj.mp same
      exact last
    · have shape : numbers ++ [number] = (earlier ++ other :: middle) ++ [final] := by simp [split]
      obtain ⟨same, _⟩ := List.append_inj' shape rfl
      exact never earlier other middle same

theorem lookup_none_iff (arrived : List (UInt32 × V)) (number : UInt32) :
    arrived.lookup number = none ↔ number ∉ arrived.map Prod.fst := by
  rw [List.lookup_eq_none_iff]
  simp only [List.mem_map, not_exists, not_and, bne_iff_ne]
  constructor
  · intro absent entry member same
    exact absent entry member same.symm
  · intro absent entry member same
    exact absent entry member same.symm

theorem lookup_some_of_mem (member : number ∈ arrived.map Prod.fst) :
    ∃ value, arrived.lookup number = some value := by
  rw [← Option.isSome_iff_exists, Option.isSome_iff_ne_none]
  exact fun absent => (lookup_none_iff arrived number).mp absent member

theorem lookup_snoc_other {fresh : UInt32} (value : V) (other : number ≠ fresh) :
    (arrived ++ [(fresh, value)]).lookup number = arrived.lookup number := by
  have differs : (number == fresh) = false := by simpa using other
  rw [List.lookup_append, List.lookup_cons, differs]
  simp

theorem lookup_snoc_fresh {fresh : UInt32} (value : V)
    (absent : fresh ∉ arrived.map Prod.fst) :
    (arrived ++ [(fresh, value)]).lookup fresh = some value := by
  rw [List.lookup_append, (lookup_none_iff arrived fresh).mpr absent]
  simp

private theorem filter_map_length_of_some {α β : Type} (values : List α) (f : α → Option β)
    (total : ∀ value ∈ values, ∃ image, f value = some image) :
    (values.filterMap f).length = values.length := by
  induction values with
  | nil => rfl
  | cons value rest ih =>
    obtain ⟨image, found⟩ := total value (by simp)
    rw [List.filterMap_cons_some found, List.length_cons, List.length_cons,
      ih (fun other member => total other (List.mem_cons_of_mem _ member))]

theorem initial_in_order (start : UInt32) :
    InOrder start ([] : List (UInt32 × V)) ⟨start, fun _ => none, []⟩ 0 where
  within := by omega
  next_exact := by simp
  delivered_exact := rfl
  present := by intro i below; omega
  waiting_exact := by intro number; simp

namespace InOrder

/-- A number that has not arrived yet is not among the delivered ones. -/
theorem fresh_not_delivered (ordered : InOrder start arrived receiver count)
    (fresh : number ∉ arrived.map Prod.fst) : ¬ distance start number < count := by
  intro below
  apply fresh
  simpa using ordered.present _ below

theorem hold (ordered : InOrder start arrived receiver count) (value : V)
    (fresh : number ∉ arrived.map Prod.fst) :
    InOrder start (arrived ++ [(number, value)]) (receiver.hold number value) count where
  within := ordered.within
  next_exact := ordered.next_exact
  delivered_exact := by
    rw [Receiver.hold, ordered.delivered_exact]
    apply List.filterMap_congr
    intro i member
    rw [lookup_snoc_other]
    rintro rfl
    exact fresh (ordered.present i (List.mem_range.mp member))
  present := by
    intro i below
    simp [List.map_append, ordered.present i below]
  waiting_exact := by
    intro other
    by_cases same : other = number
    · subst same
      have later := ordered.fresh_not_delivered fresh
      simp [Receiver.hold, later, lookup_snoc_fresh value fresh]
    · rw [lookup_snoc_other value same]
      simp [Receiver.hold, same, ordered.waiting_exact other]

/-- Something is due only before the numbers have gone once around. -/
theorem count_lt_of_due (ordered : InOrder start arrived receiver count) {value : V}
    (due : receiver.waiting receiver.next = some value) : count < 2 ^ 32 := by
  rcases Nat.lt_or_ge count (2 ^ 32) with below | reached
  · exact below
  · have delivered : distance start receiver.next < count :=
      Nat.lt_of_lt_of_le (distance_lt _ _) reached
    rw [ordered.waiting_exact, if_pos delivered] at due
    cases due

theorem due_lookup (ordered : InOrder start arrived receiver count) {value : V}
    (due : receiver.waiting receiver.next = some value) :
    arrived.lookup (advance start count) = some value := by
  have small := ordered.count_lt_of_due due
  rw [ordered.waiting_exact, ordered.next_exact, distance_advance start small,
    if_neg (Nat.lt_irrefl count)] at due
  exact due

theorem deliver (ordered : InOrder start arrived receiver count) {value : V}
    (due : receiver.waiting receiver.next = some value) :
    InOrder start arrived (receiver.deliver value) (count + 1) := by
  have small := ordered.count_lt_of_due due
  have found := ordered.due_lookup due
  refine ⟨small, ?_, ?_, ?_, ?_⟩
  · rw [advance_succ, ← ordered.next_exact]
    rfl
  · simp [Receiver.deliver, List.range_succ, List.filterMap_append, found,
      ordered.delivered_exact]
  · intro i below
    rcases Nat.lt_or_ge i count with earlier | last
    · exact ordered.present i earlier
    · obtain rfl : i = count := by omega
      by_contra absent
      rw [(lookup_none_iff arrived _).mpr absent] at found
      cases found
  · intro number
    by_cases same : number = receiver.next
    · subst same
      simp [Receiver.deliver, ordered.next_exact, distance_advance start small]
    · have differs : distance start number ≠ count := by
        intro equal
        apply same
        rw [ordered.next_exact, ← equal, advance_distance]
      have bounds : distance start number < count + 1 ↔ distance start number < count := by omega
      simp [Receiver.deliver, same, bounds, ordered.waiting_exact number]

theorem drains {final : Receiver V} (drained : Drains receiver final)
    (ordered : InOrder start arrived receiver count) :
    ∃ reached, InOrder start arrived final reached := by
  induction drained generalizing count with
  | stop => exact ⟨count, ordered⟩
  | deliver due _ ih => exact ih (ordered.deliver due)

theorem keys_length_le (distinct : (arrived.map Prod.fst).Nodup) : arrived.length ≤ 2 ^ 32 := by
  have natDistinct : ((arrived.map Prod.fst).map UInt32.toNat).Nodup :=
    distinct.map fun _ _ same => UInt32.toNat_inj.mp same
  have included : (arrived.map Prod.fst).map UInt32.toNat ⊆ List.range (2 ^ 32) := by
    intro value member
    obtain ⟨number, _, rfl⟩ := List.mem_map.mp member
    exact List.mem_range.mpr number.toNat_lt
  simpa only [List.length_map, List.length_range] using (natDistinct.subperm included).length_le

theorem delivered_length (ordered : InOrder start arrived receiver count) :
    receiver.delivered.length = count := by
  rw [ordered.delivered_exact, filter_map_length_of_some, List.length_range]
  intro i member
  exact lookup_some_of_mem (ordered.present i (List.mem_range.mp member))

theorem run_of_settled (ordered : InOrder start arrived receiver count)
    (distinct : (arrived.map Prod.fst).Nodup) (settled : receiver.Settled) :
    longestRun (arrived.map Prod.fst) start = (List.range count).map (advance start) := by
  have within : count ≤ (arrived.map Prod.fst).length :=
    run_length_le _ start count ordered.within ordered.present
  apply longest_run_exact _ start count within ordered.present
  rcases Nat.lt_or_ge count (2 ^ 32) with small | full
  · right
    have held := ordered.waiting_exact receiver.next
    rw [settled, ordered.next_exact, distance_advance start small,
      if_neg (Nat.lt_irrefl count)] at held
    exact (lookup_none_iff arrived _).mp held.symm
  · left
    have most := keys_length_le distinct
    simp only [List.length_map] at within ⊢
    omega

theorem delivered_of_settled (ordered : InOrder start arrived receiver count)
    (distinct : (arrived.map Prod.fst).Nodup) (settled : receiver.Settled) :
    receiver.delivered = expected arrived start := by
  rw [expected, ordered.run_of_settled distinct settled, List.filterMap_map,
    ordered.delivered_exact]
  rfl

/-- Handing on whatever is due comes to an end. -/
theorem settles (ordered : InOrder start arrived receiver count) :
    ∃ final reached, InOrder start arrived final reached ∧ final.Settled ∧ count ≤ reached := by
  induction gap : 2 ^ 32 - count using Nat.strong_induction_on generalizing receiver count with
  | _ gap ih =>
    cases due : receiver.waiting receiver.next with
    | none => exact ⟨receiver, count, ordered, due, Nat.le_refl _⟩
    | some value =>
      have small := ordered.count_lt_of_due due
      obtain ⟨final, reached, finalOrdered, settled, further⟩ :=
        ih (2 ^ 32 - (count + 1)) (by omega) (ordered.deliver due) rfl
      exact ⟨final, reached, finalOrdered, settled, by omega⟩

/-- The deliveries are the longest consecutive run exactly when nothing held is due. -/
theorem delivered_longest_iff (ordered : InOrder start arrived receiver count)
    (distinct : (arrived.map Prod.fst).Nodup) :
    receiver.delivered = expected arrived start ↔ receiver.Settled := by
  constructor
  · intro exact
    by_contra unsettled
    obtain ⟨value, due⟩ := Option.ne_none_iff_exists'.mp unsettled
    -- draining on from here would deliver at least one value more than was delivered
    obtain ⟨final, reached, finalOrdered, settled, further⟩ := (ordered.deliver due).settles
    have longest := finalOrdered.delivered_of_settled distinct settled
    have lengths : receiver.delivered.length = final.delivered.length := by rw [exact, longest]
    rw [ordered.delivered_length, finalOrdered.delivered_length] at lengths
    omega
  · exact ordered.delivered_of_settled distinct

theorem next_of_settled (ordered : InOrder start arrived receiver count)
    (distinct : (arrived.map Prod.fst).Nodup) (settled : receiver.Settled) :
    receiver.next = dueNumber (arrived.map Prod.fst) start := by
  rw [dueNumber, ordered.run_of_settled distinct settled, List.length_map, List.length_range,
    ordered.next_exact]

theorem held_back_iff (ordered : InOrder start arrived receiver count)
    (distinct : (arrived.map Prod.fst).Nodup) (settled : receiver.Settled) (number : UInt32) :
    HeldBack (arrived.map Prod.fst) start number ↔ receiver.waiting number ≠ none := by
  have delivered : number ∈ longestRun (arrived.map Prod.fst) start ↔
      distance start number < count := by
    rw [ordered.run_of_settled distinct settled]
    constructor
    · intro member
      obtain ⟨i, below, rfl⟩ := List.mem_map.mp member
      have small := ordered.within
      rw [List.mem_range] at below
      rw [distance_advance start (by omega)]
      exact below
    · intro below
      exact List.mem_map.mpr ⟨_, List.mem_range.mpr below, advance_distance start number⟩
  rw [HeldBack, delivered, ordered.waiting_exact number]
  by_cases below : distance start number < count
  · simp [below]
  · rw [if_neg below, Ne, lookup_none_iff]
    simp [below]

end InOrder
end Isekai.InOrderDelivery
