import Mathlib.Data.List.Infix

/-! Binary tries whose entries are found by paths of bits. Inserting changes one entry, and a walk
along a path that remembers the last value it saw ends with the value of the longest entry that is
a prefix of the path. -/

namespace Isekai.PrefixTrie

/-- A subtree, or none. -/
inductive Trie (T : Type) where
  | null
  | node (data : Option T) (left right : Trie T)

namespace Trie

variable {T : Type} {trie : Trie T} {path bits : List Bool} {value : T}

def entry : Trie T → List Bool → Option T
  | null, _ => none
  | node data _ _, [] => data
  | node _ left right, bit :: rest => if bit then right.entry rest else left.entry rest

/-- Creates the nodes that the path lacks, and gives its end the value. -/
def insert (value : T) : List Bool → Trie T → Trie T
  | [], null => node (some value) null null
  | [], node _ left right => node (some value) left right
  | bit :: rest, null =>
    if bit then node none null (insert value rest null) else node none (insert value rest null) null
  | bit :: rest, node data left right =>
    if bit then node data left (insert value rest right)
    else node data (insert value rest left) right

/-- The last value along a path, or one that was found before. -/
def longest : Trie T → List Bool → Option T → Option T
  | null, _, found => found
  | node data _ _, [], found => data.or found
  | node data left right, bit :: rest, found =>
    if bit then right.longest rest (data.or found) else left.longest rest (data.or found)

/-- The number of nodes on the longest way down. -/
def height : Trie T → ℕ
  | null => 0
  | node _ left right => max left.height right.height + 1

/-! ## Entries -/

@[simp] theorem entry_null (path : List Bool) : (null : Trie T).entry path = none := by
  cases path <;> rfl

theorem entry_cons (data : Option T) (left right : Trie T) (bit : Bool) (rest : List Bool) :
    (node data left right).entry (bit :: rest) = (if bit then right else left).entry rest := by
  cases bit <;> rfl

/-- An insertion changes the entry of its path alone. -/
theorem entry_insert (value : T) (path other : List Bool) (trie : Trie T) :
    (insert value path trie).entry other = if other = path then some value else trie.entry other := by
  induction path generalizing other trie with
  | nil =>
    cases other with
    | nil => cases trie <;> rfl
    | cons bit rest => cases trie <;> cases bit <;> simp [insert, entry]
  | cons bit rest ih =>
    cases other with
    | nil => cases trie <;> cases bit <;> simp [insert, entry]
    | cons first later =>
      cases trie <;> cases bit <;> cases first <;> simp [insert, entry, ih]

theorem height_insert (value : T) (path : List Bool) (trie : Trie T) :
    (insert value path trie).height ≤ max trie.height (path.length + 1) := by
  induction path generalizing trie with
  | nil => cases trie <;> simp [insert, height]
  | cons bit rest ih =>
    have fresh := ih null
    simp only [height] at fresh
    cases trie with
    | null => cases bit <;> simp [insert, height] <;> omega
    | node data left right =>
      have below := ih left
      have belowRight := ih right
      cases bit <;> simp only [insert, height, List.length_cons, if_true, Bool.false_eq_true,
        if_false] <;> omega

/-! ## The longest entry -/

theorem longest_found (trie : Trie T) (bits : List Bool) (found : Option T) :
    trie.longest bits found = (trie.longest bits none).or found := by
  induction bits generalizing trie found with
  | nil => cases trie <;> simp [longest]
  | cons bit rest ih =>
    cases trie with
    | null => simp [longest]
    | node data left right =>
      cases bit
      · simp only [longest, Bool.false_eq_true, if_false, Option.or_none]
        rw [ih left (data.or found), ih left data, Option.or_assoc]
      · simp only [longest, if_true, Option.or_none]
        rw [ih right (data.or found), ih right data, Option.or_assoc]

theorem longest_cons (data : Option T) (left right : Trie T) (bit : Bool) (rest : List Bool) :
    (node data left right).longest (bit :: rest) none =
      ((if bit then right else left).longest rest none).or data := by
  cases bit <;> simp only [longest, Bool.false_eq_true, if_false, if_true, Option.or_none] <;>
    exact longest_found _ _ _

/-- A prefix of the path whose entry has the value, and no longer one has any. -/
structure LongestEntry (trie : Trie T) (bits path : List Bool) (value : T) : Prop where
  isPrefix : path <+: bits
  entry : trie.entry path = some value
  longest : ∀ other, other <+: bits → (trie.entry other).isSome → other.length ≤ path.length

theorem longest_eq_none_iff :
    trie.longest bits none = none ↔ ∀ other, other <+: bits → trie.entry other = none := by
  induction bits generalizing trie with
  | nil =>
    cases trie with
    | null => simp [longest]
    | node data left right => simp [longest, entry]
  | cons bit rest ih =>
    cases trie with
    | null => simp [longest]
    | node data left right =>
      rw [longest_cons, Option.or_eq_none_iff, ih]
      constructor
      · rintro ⟨below, own⟩ other isPrefix
        cases other with
        | nil => exact own
        | cons first later =>
          obtain ⟨rfl, tail⟩ := List.cons_prefix_cons.1 isPrefix
          rw [entry_cons]
          exact below later tail
      · intro unset
        refine ⟨fun other isPrefix => ?_, unset [] List.nil_prefix⟩
        rw [← entry_cons data]
        exact unset (bit :: other) (List.cons_prefix_cons.2 ⟨rfl, isPrefix⟩)

/-- The walk ends with the value of the longest entry. -/
theorem longest_eq_some_iff :
    trie.longest bits none = some value ↔ ∃ path, LongestEntry trie bits path value := by
  induction bits generalizing trie value with
  | nil =>
    cases trie with
    | null =>
      refine ⟨nofun, ?_⟩
      rintro ⟨path, isLongest⟩
      simpa using isLongest.entry
    | node data left right =>
      simp only [longest, Option.or_none]
      constructor
      · intro own
        refine ⟨[], List.nil_prefix, own, fun other isPrefix _ => ?_⟩
        rw [List.prefix_nil.1 isPrefix]
      · rintro ⟨path, isLongest⟩
        have own := isLongest.entry
        rw [List.prefix_nil.1 isLongest.isPrefix] at own
        exact own
  | cons bit rest ih =>
    cases trie with
    | null =>
      refine ⟨nofun, ?_⟩
      rintro ⟨path, isLongest⟩
      simpa using isLongest.entry
    | node data left right =>
      rw [longest_cons]
      constructor
      · intro last
        cases below : (if bit then right else left).longest rest none with
        | none =>
          -- nothing is set further down, so the node's own value is the last
          rw [below, Option.none_or] at last
          refine ⟨[], List.nil_prefix, last, fun other isPrefix set => ?_⟩
          cases other with
          | nil => exact le_refl _
          | cons first later =>
            obtain ⟨rfl, tail⟩ := List.cons_prefix_cons.1 isPrefix
            rw [entry_cons, longest_eq_none_iff.1 below later tail] at set
            cases set
        | some found =>
          rw [below, Option.some_or] at last
          obtain ⟨path, isLongest⟩ := ih.1 (below.trans last)
          refine ⟨bit :: path, List.cons_prefix_cons.2 ⟨rfl, isLongest.isPrefix⟩, ?_,
            fun other isPrefix set => ?_⟩
          · rw [entry_cons]
            exact isLongest.entry
          · cases other with
            | nil => exact Nat.zero_le _
            | cons first later =>
              obtain ⟨rfl, tail⟩ := List.cons_prefix_cons.1 isPrefix
              rw [entry_cons] at set
              exact Nat.succ_le_succ (isLongest.longest later tail set)
      · rintro ⟨path, isPrefix, own, isLongest⟩
        cases path with
        | nil =>
          have below : (if bit then right else left).longest rest none = none := by
            refine longest_eq_none_iff.2 fun other tail => ?_
            rw [← entry_cons data, ← Option.not_isSome_iff_eq_none]
            intro set
            have short := isLongest _ (List.cons_prefix_cons.2 ⟨rfl, tail⟩) set
            cases short
          rw [below, Option.none_or]
          exact own
        | cons first later =>
          obtain ⟨rfl, tail⟩ := List.cons_prefix_cons.1 isPrefix
          rw [entry_cons] at own
          have below := ih.2 ⟨later, tail, own, fun other otherTail set => by
            rw [← entry_cons data left right] at set
            exact Nat.le_of_succ_le_succ
              (isLongest _ (List.cons_prefix_cons.2 ⟨rfl, otherTail⟩) set)⟩
          rw [below]
          rfl

end Trie
end Isekai.PrefixTrie
