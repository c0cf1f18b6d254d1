import Mathlib.Data.UInt
import Std.Data.ExtTreeMap.Lemmas

/-! Maps keyed by sequence numbers that are visited in the numeric order of the keys: the
first entry, and the keys an iterator visits from a given key to the end. -/

namespace Isekai

/-- An ordered map with sequence numbers as keys. -/
abbrev SequenceBuffer (V : Type) := Std.ExtTreeMap UInt32 V

namespace SequenceBuffer

variable {V : Type} {buffer : SequenceBuffer V} {number key : UInt32} {value : V}

/-- The entry with the numerically smallest key. -/
def first (buffer : SequenceBuffer V) : Option (UInt32 × V) := buffer.toList.head?

/-- The keys from `number` to the end of the map: none when `number` is not a key. -/
def keysFrom (buffer : SequenceBuffer V) (number : UInt32) : List UInt32 :=
  if number ∈ buffer then buffer.keys.filter (fun key => number ≤ key) else []

theorem get_insert (buffer : SequenceBuffer V) (number key : UInt32) (value : V) :
    (buffer.insert number value)[key]? = if key = number then some value else buffer[key]? := by
  by_cases same : key = number
  · simp [same]
  · simp [Std.ExtTreeMap.getElem?_insert, same, Ne.symm same]

theorem get_erase (buffer : SequenceBuffer V) (number key : UInt32) :
    (buffer.erase number)[key]? = if key = number then none else buffer[key]? := by
  by_cases same : key = number
  · simp [same]
  · simp [Std.ExtTreeMap.getElem?_erase, same, Ne.symm same]

theorem mem_iff_get : number ∈ buffer ↔ ∃ value, buffer[number]? = some value := by
  rw [Std.ExtTreeMap.mem_iff_isSome_getElem?, Option.isSome_iff_exists]

theorem not_mem_iff_get : number ∉ buffer ↔ buffer[number]? = none := by
  rw [Std.ExtTreeMap.mem_iff_isSome_getElem?]
  simp

private theorem lt_of_compare (less : compare key number = .lt) : key < number :=
  compareOfLessAndEq_eq_lt.mp less

theorem first_none (none : buffer.first = none) (number : UInt32) : buffer[number]? = .none := by
  have empty : buffer = ∅ := by simpa [first] using none
  simp [empty]

theorem first_some (found : buffer.first = some (number, value)) :
    buffer[number]? = some value ∧ ∀ key ∈ buffer, number ≤ key := by
  obtain ⟨rest, shape⟩ := List.head?_eq_some_iff.mp found
  have member : (number, value) ∈ buffer.toList := by simp [shape]
  refine ⟨Std.ExtTreeMap.mem_toList_iff_getElem?_eq_some.mp member, ?_⟩
  intro key present
  obtain ⟨other, held⟩ := mem_iff_get.mp present
  have listed := Std.ExtTreeMap.mem_toList_iff_getElem?_eq_some.mpr held
  have ordered : buffer.toList.Pairwise fun left right => compare left.1 right.1 = .lt :=
    Std.ExtTreeMap.ordered_keys_toList
  rw [shape] at listed ordered
  rcases List.mem_cons.mp listed with same | later
  · cases same
    exact UInt32.le_refl _
  · exact UInt32.le_of_lt (lt_of_compare ((List.pairwise_cons.mp ordered).1 _ later))

theorem size_erase_lt (member : number ∈ buffer) : (buffer.erase number).size < buffer.size := by
  have positive : 0 < buffer.size := by
    rcases Nat.eq_zero_or_pos buffer.size with zero | positive
    · have empty := Std.ExtTreeMap.eq_empty_iff_size_eq_zero.mpr zero
      simp [empty] at member
    · exact positive
  rw [Std.ExtTreeMap.size_erase, if_pos (Std.ExtTreeMap.mem_iff_contains.mp member)]
  omega

theorem keys_from_ordered (buffer : SequenceBuffer V) (number : UInt32) :
    (buffer.keysFrom number).Pairwise (· < ·) := by
  unfold keysFrom
  split
  · exact (Std.ExtTreeMap.ordered_keys.imp fun less => lt_of_compare less).filter _
  · exact List.Pairwise.nil

theorem mem_keys_from (member : number ∈ buffer) :
    key ∈ buffer.keysFrom number ↔ key ∈ buffer ∧ number ≤ key := by
  simp [keysFrom, member, Std.ExtTreeMap.mem_keys]

end SequenceBuffer
end Isekai
