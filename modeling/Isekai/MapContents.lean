import Mathlib.Algebra.Order.Group.Multiset
import Mathlib.Data.Finset.Card

/-! What a partial map contains, as a multiset of its values: it is determined by the map, an entry
that is written where there was none adds its value, and one that is taken out takes its value
away. -/

namespace Isekai.MapContents

variable {Key Value : Type} [DecidableEq Key] [DecidableEq Value]
variable {map : Key → Option Value}

/-- The values of a map with finitely many entries. -/
def Contains (map : Key → Option Value) (values : Multiset Value) : Prop :=
  ∃ entries : Finset (Key × Value),
    (∀ key value, (key, value) ∈ entries ↔ map key = some value) ∧
      values = entries.val.map Prod.snd

omit [DecidableEq Key] [DecidableEq Value] in
theorem contains_empty : Contains (fun _ : Key => (none : Option Value)) 0 :=
  ⟨∅, by simp, rfl⟩

omit [DecidableEq Key] [DecidableEq Value] in
theorem contains_unique {one other : Multiset Value} (first : Contains map one)
    (second : Contains map other) : one = other := by
  obtain ⟨entries, exact, rfl⟩ := first
  obtain ⟨others, exactToo, rfl⟩ := second
  have same : entries = others := by
    ext ⟨key, value⟩
    rw [exact, exactToo]
  rw [same]

/-- An entry that is written where there was none. -/
theorem contains_insert {values : Multiset Value} {key : Key} (contains : Contains map values)
    (vacant : map key = none) (value : Value) :
    Contains (Function.update map key (some value)) (value ::ₘ values) := by
  obtain ⟨entries, exact, rfl⟩ := contains
  have fresh : (key, value) ∉ entries := by simp [exact, vacant]
  refine ⟨insert (key, value) entries, fun other content => ?_, ?_⟩
  · rw [Finset.mem_insert, exact, Prod.mk.injEq]
    by_cases same : other = key
    · subst same
      simp [vacant, eq_comm]
    · simp [same]
  · rw [Finset.insert_val_of_notMem fresh, Multiset.map_cons]

/-- An entry that is taken out was counted. -/
theorem contains_erase {values : Multiset Value} {key : Key} {value : Value}
    (contains : Contains map values) (found : map key = some value) :
    ∃ rest, values = value ::ₘ rest ∧ Contains (Function.update map key none) rest := by
  obtain ⟨entries, exact, rfl⟩ := contains
  have member : (key, value) ∈ entries := (exact key value).2 found
  refine ⟨(entries.erase (key, value)).val.map Prod.snd, ?_,
    entries.erase (key, value), fun other content => ?_, rfl⟩
  · rw [← Multiset.map_cons Prod.snd (key, value), Finset.erase_val,
      Multiset.cons_erase member]
  · rw [Finset.mem_erase, exact, ne_eq, Prod.mk.injEq]
    by_cases same : other = key
    · subst same
      simp [found, eq_comm]
    · simp [same]

/-- An entry that is written over what was there, or taken out. -/
theorem contains_update {values : Multiset Value} (contains : Contains map values) (key : Key)
    (entry : Option Value) :
    ∃ rest : Multiset Value, values = ↑(map key).toList + rest ∧
      Contains (Function.update map key entry) (↑entry.toList + rest) := by
  have written : ∀ {vacant : Key → Option Value} {rest : Multiset Value},
      vacant key = none → Contains vacant rest →
      Contains (Function.update vacant key entry) (↑entry.toList + rest) := by
    intro vacant rest none_ held
    cases entry with
    | none => rwa [← none_, Function.update_eq_self, none_, Option.toList_none, Multiset.coe_nil,
        zero_add]
    | some value => exact contains_insert held none_ value
  cases found : map key with
  | none => exact ⟨values, by simp, written found contains⟩
  | some old =>
    obtain ⟨rest, whole, held⟩ := contains_erase contains found
    refine ⟨rest, whole, ?_⟩
    have overwritten := written (Function.update_self key none map) held
    rwa [Function.update_idem] at overwritten

omit [DecidableEq Key] [DecidableEq Value] in
/-- A map that a list of entries with different keys describes. -/
theorem contains_of_list {entries : List (Key × Value)} (distinct : (entries.map Prod.fst).Nodup)
    (exact : ∀ key value, (key, value) ∈ entries ↔ map key = some value) :
    Contains map ↑(entries.map Prod.snd) :=
  ⟨⟨↑entries, Multiset.coe_nodup.2 distinct.of_map⟩, exact, rfl⟩

end Isekai.MapContents
