import Isekai.IPTable

/-! The loops over the two halves follow the path of the prefix's bits, so the table is a trie whose
entries are the inserted prefixes, and a lookup finds the longest of those that contain the
address. -/

namespace Isekai.IPTable
open PrefixTrie PrefixTrie.Trie

variable {T : Type}
variable {depth : ℕ}

/-! ## Bits -/

/-- From the highest bit on. -/
def bitsOf (address : UInt128) : List Bool := List.ofFn fun index : Fin 128 =>
  address.getMsbD index

/-- The half of a value that holds its bit at a depth. -/
def halfAt (value : UInt128) (depth : ℕ) : UInt64 :=
  if depth < 64 then high64 value else low64 value

def bitAt (depth : ℕ) : UInt64 := highBit >>> UInt64.ofNat (depth % 64)

@[simp] theorem bits_length (address : UInt128) : (bitsOf address).length = 128 := by
  exact List.length_ofFn

theorem bits_drop (address : UInt128) (below : depth < 128) :
    (bitsOf address).drop depth = address.getMsbD depth :: (bitsOf address).drop (depth + 1) := by
  rw [List.drop_eq_getElem_cons (by simpa using below)]
  simp only [bitsOf, List.getElem_ofFn]

theorem bit_at_two_pow : ∀ place : Fin 64,
    (highBit >>> UInt64.ofNat place).toBitVec = BitVec.twoPow 64 (63 - place) := by
  decide

theorem tests_bit (value : UInt64) {place : ℕ} (within : place < 64) :
    (highBit >>> UInt64.ofNat place) &&& value ≠ 0 ↔ value.toBitVec.getMsbD place = true := by
  have single := bit_at_two_pow ⟨place, within⟩
  rw [ne_eq, ← UInt64.toBitVec_inj, UInt64.toBitVec_and, single, BitVec.twoPow_and,
    BitVec.getMsbD_eq_getLsbD]
  simp only [within, decide_true, Bool.true_and]
  have place' : 64 - 1 - place = 63 - place := by omega
  rw [place']
  by_cases set : value.toBitVec.getLsbD (63 - place) = true
  · rw [if_pos set]
    simp only [set, iff_true]
    intro zero
    have bit := congrArg (fun word => word.getLsbD (63 - place)) zero
    simp at bit
    omega
  · rw [if_neg set]
    simp [set]

theorem half_bit (value : UInt128) (below : depth < 128) :
    (halfAt value depth).toBitVec.getMsbD (depth % 64) = value.getMsbD depth := by
  unfold halfAt high64 low64
  by_cases first : depth < 64
  · rw [if_pos first, Nat.mod_eq_of_lt first]
    simp only [BitVec.getMsbD_eq_getLsbD, BitVec.getLsbD_extractLsb', first, below, decide_true,
      Bool.true_and]
    have inside : 64 - 1 - depth < 64 := by omega
    have place : 64 + (64 - 1 - depth) = 128 - 1 - depth := by omega
    simp only [inside, place, decide_true, Bool.true_and]
  · rw [if_neg first]
    have rest : depth % 64 = depth - 64 := by omega
    have small : depth - 64 < 64 := by omega
    simp only [BitVec.getMsbD_eq_getLsbD, BitVec.getLsbD_extractLsb', rest, small, below,
      decide_true, Bool.true_and]
    have inside : 64 - 1 - (depth - 64) < 64 := by omega
    have place : 0 + (64 - 1 - (depth - 64)) = 128 - 1 - depth := by omega
    simp only [inside, place, decide_true, Bool.true_and]

theorem tests_half (value : UInt128) (below : depth < 128) :
    bitAt depth &&& halfAt value depth ≠ 0 ↔ value.getMsbD depth = true := by
  unfold bitAt
  rw [tests_bit _ (Nat.mod_lt _ (by omega)), half_bit value below]

theorem decides_half (value : UInt128) (below : depth < 128) :
    decide (bitAt depth &&& halfAt value depth ≠ 0) = value.getMsbD depth := by
  have tests := tests_half value below
  by_cases set : value.getMsbD depth = true
  · rw [set]
    exact decide_eq_true (tests.2 set)
  · rw [Bool.eq_false_iff.2 set]
    exact decide_eq_false fun bit => set (tests.1 bit)

/-- The bit that a shift leads to, or the start of the next half. -/
theorem bit_shifts : ∀ depth : Fin 128,
    bitAt (depth + 1) = if bitAt depth >>> 1 = 0 then highBit else bitAt depth >>> 1 := by
  decide

theorem bit_runs_out : ∀ depth : Fin 128, bitAt depth >>> 1 = 0 ↔ (depth : ℕ) % 64 = 63 := by
  decide

/-! ## The loops of an insertion -/

def cursorAt (range : IPRange) (depth : ℕ) : Cursor where
  bit := bitAt depth
  count := depth / 64
  addr := halfAt range.address depth
  mask := halfAt range.mask depth

theorem start_eq (range : IPRange) : Cursor.start range = cursorAt range 0 := rfl

theorem advance_cursor (range : IPRange) (below : depth < 128) :
    (cursorAt range depth).advance range =
      if depth = 127 then none else some (cursorAt range (depth + 1)) := by
  have shifts := bit_shifts ⟨depth, below⟩
  have out := bit_runs_out ⟨depth, below⟩
  dsimp only at shifts out
  by_cases beyond : depth % 64 = 63
  · have zero := out.2 beyond
    rw [if_pos zero] at shifts
    unfold Cursor.advance
    simp only [cursorAt, zero, if_true]
    by_cases last : depth = 127
    · subst last
      rfl
    · have middle : depth = 63 := by omega
      subst middle
      rfl
  · have more : bitAt depth >>> 1 ≠ 0 := fun zero => beyond (out.1 zero)
    rw [if_neg more] at shifts
    have notLast : depth ≠ 127 := by omega
    unfold Cursor.advance
    simp only [cursorAt, more, if_false, notLast, Option.some.injEq]
    have half : depth / 64 = (depth + 1) / 64 := by omega
    have sameHalf : ∀ value, halfAt value depth = halfAt value (depth + 1) := by
      intro value
      unfold halfAt
      by_cases first : depth < 64
      · rw [if_pos first, if_pos (by omega)]
      · rw [if_neg first, if_neg (by omega)]
    rw [shifts, half, sameHalf range.address, sameHalf range.mask]

theorem contiguous_bit {length : ℕ} (depth : ℕ) (short : length ≤ 128) :
    (contiguousMask length).getMsbD depth = decide (depth < length) := by
  unfold contiguousMask
  rw [BitVec.getMsbD_shiftLeft, BitVec.getMsbD_allOnes]
  by_cases inside : depth < length
  · simp only [inside, decide_true, decide_eq_true_eq]
    omega
  · simp only [inside, decide_false, decide_eq_false_iff_not]
    omega

namespace Prefix

/-- The way from the root to the prefix. -/
def path (ipv6 : Prefix) : List Bool := (bitsOf ipv6.address).take ipv6.length

/-- What is left of the way. -/
def pathFrom (ipv6 : Prefix) (depth : ℕ) : List Bool := ipv6.path.drop depth

@[simp] theorem path_length (ipv6 : Prefix) : ipv6.path.length = ipv6.length := by
  simp [path, ipv6.short]

theorem masked_cursor (ipv6 : Prefix) (below : depth < 128) :
    (cursorAt ipv6.toRange depth).masked = decide (depth < ipv6.length) := by
  unfold toRange
  exact (decides_half _ below).trans (contiguous_bit depth ipv6.short)

theorem goes_right_cursor (ipv6 : Prefix) (below : depth < 128) :
    (cursorAt ipv6.toRange depth).goesRight = ipv6.address.getMsbD depth := by
  unfold toRange
  exact decides_half _ below

theorem path_from_cons (ipv6 : Prefix) (below : depth < ipv6.length) :
    ipv6.pathFrom depth = ipv6.address.getMsbD depth :: ipv6.pathFrom (depth + 1) := by
  unfold pathFrom path
  rw [List.drop_take, List.drop_take, bits_drop _ (lt_of_lt_of_le below ipv6.short)]
  have more : ipv6.length - depth = (ipv6.length - (depth + 1)) + 1 := by omega
  rw [more, List.take_succ_cons]

theorem path_from_nil (ipv6 : Prefix) (beyond : ipv6.length ≤ depth) :
    ipv6.pathFrom depth = [] := by
  unfold pathFrom
  exact List.drop_eq_nil_of_le (by simpa using beyond)

end Prefix

theorem extend_fresh (ipv6 : Prefix) (value : T) (fuel depth : ℕ) (below : depth < 128)
    (reached : depth ≤ ipv6.length) (enough : 129 ≤ fuel + depth) :
    extend ipv6.toRange value fuel (cursorAt ipv6.toRange depth) freshNode =
      Trie.insert value (ipv6.pathFrom depth) null := by
  induction fuel generalizing depth with
  | zero => omega
  | succ fuel ih =>
    rw [extend, ipv6.masked_cursor below]
    by_cases inside : depth < ipv6.length
    · rw [if_pos (decide_eq_true inside), advance_cursor _ below, ipv6.path_from_cons inside,
        ipv6.goes_right_cursor below]
      have short := ipv6.short
      by_cases last : depth = 127
      · rw [if_pos last, ipv6.path_from_nil (by omega)]
        cases ipv6.address.getMsbD depth <;> rfl
      · rw [if_neg last]
        dsimp only
        rw [ih (depth + 1) (by omega) inside (by omega)]
        cases ipv6.address.getMsbD depth <;> rfl
    · rw [if_neg (by simpa using inside), ipv6.path_from_nil (by omega)]
      rfl

theorem extend_node (ipv6 : Prefix) (value : T) (fuel depth : ℕ) (data : Option T)
    (left right : TrieNode T) (inside : depth < ipv6.length) (enough : 129 ≤ fuel + 1 + depth)
    (missing : (if ipv6.address.getMsbD depth then right else left) = null) :
    extend ipv6.toRange value (fuel + 1) (cursorAt ipv6.toRange depth) (node data left right) =
      Trie.insert value (ipv6.pathFrom depth) (node data left right) := by
  have short := ipv6.short
  have below : depth < 128 := by omega
  rw [extend, ipv6.masked_cursor below, if_pos (decide_eq_true inside), advance_cursor _ below,
    ipv6.goes_right_cursor below, ipv6.path_from_cons inside]
  by_cases last : depth = 127
  · rw [if_pos last, ipv6.path_from_nil (by omega)]
    cases bit : ipv6.address.getMsbD depth <;> rw [bit] at missing <;>
      simp only [if_true, Bool.false_eq_true, if_false] at missing <;> subst missing <;> rfl
  · rw [if_neg last]
    dsimp only
    rw [extend_fresh ipv6 value fuel (depth + 1) (by omega) inside (by omega)]
    cases bit : ipv6.address.getMsbD depth <;> rw [bit] at missing <;>
      simp only [if_true, Bool.false_eq_true, if_false] at missing <;> subst missing <;> rfl

/-- What an insertion makes of a subtree: an entry that exists is kept. -/
def inserted (value : T) (path : List Bool) (trie : TrieNode T) :
    Except InternalError (TrieNode T) :=
  if (trie.entry path).isSome then .error ⟨"Can not overwrite the data in Trie."⟩
  else .ok (Trie.insert value path trie)

theorem store_eq (value : T) (data : Option T) (left right : TrieNode T) :
    store value (node data left right) = inserted value [] (node data left right) := by
  cases data <;> rfl

theorem inserted_below (value : T) (bit : Bool) (rest : List Bool) (data : Option T)
    (left right : TrieNode T) :
    (inserted value rest (child bit (node data left right))).map
        (fun next => setChild bit next (node data left right)) =
      inserted value (bit :: rest) (node data left right) := by
  unfold inserted
  rw [entry_cons]
  cases bit
  · simp only [child, Bool.false_eq_true, if_false]
    by_cases present : (left.entry rest).isSome
    · rw [if_pos present, if_pos present]
      rfl
    · rw [if_neg present, if_neg present]
      rfl
  · simp only [child, if_true]
    by_cases present : (right.entry rest).isSome
    · rw [if_pos present, if_pos present]
      rfl
    · rw [if_neg present, if_neg present]
      rfl

/-- Both loops together insert at the end of the path. -/
theorem insert_from_eq (ipv6 : Prefix) (value : T) (fuel depth : ℕ) (data : Option T)
    (left right : TrieNode T) (below : depth < 128) (reached : depth ≤ ipv6.length)
    (enough : 129 ≤ fuel + depth) :
    insertFrom ipv6.toRange value fuel (cursorAt ipv6.toRange depth) (node data left right) =
      inserted value (ipv6.pathFrom depth) (node data left right) := by
  induction fuel generalizing depth data left right with
  | zero => omega
  | succ fuel ih =>
    rw [insertFrom, ipv6.masked_cursor below]
    by_cases inside : depth < ipv6.length
    · rw [if_pos (decide_eq_true inside), advance_cursor _ below, ipv6.goes_right_cursor below]
      dsimp only
      cases next : child (ipv6.address.getMsbD depth) (node data left right) with
      | null =>
        have missing : (if ipv6.address.getMsbD depth then right else left) = null := next
        rw [isNull, if_pos rfl, extend_node ipv6 value fuel depth data left right inside
          (by omega) missing, ipv6.path_from_cons inside]
        unfold inserted
        rw [entry_cons, missing, entry_null]
        rfl
      | node nextData nextLeft nextRight =>
        rw [isNull, if_neg Bool.false_ne_true, ipv6.path_from_cons inside, ← inserted_below, next]
        have short := ipv6.short
        by_cases last : depth = 127
        · rw [if_pos last, ipv6.path_from_nil (by omega)]
          dsimp only
          rw [store_eq]
        · rw [if_neg last]
          dsimp only
          rw [ih (depth + 1) nextData nextLeft nextRight (by omega) inside (by omega)]
    · rw [if_neg (by simpa using inside), ipv6.path_from_nil (by omega), store_eq]

/-- One turn of the loop of a lookup. -/
theorem find_from_node (address : UInt128) (data : Option T) (left right : TrieNode T)
    (bit addr : UInt64) (found : Option T) :
    findFrom address (node data left right) bit addr found =
      if addr &&& bit ≠ 0 then
        findFrom address right (if bit >>> 1 = 0 then highBit else bit >>> 1)
          (if bit >>> 1 = 0 then low64 address else addr) (data.or found)
      else
        findFrom address left (if bit >>> 1 = 0 then highBit else bit >>> 1)
          (if bit >>> 1 = 0 then low64 address else addr) (data.or found) := by
  cases data <;> rfl

theorem find_from_eq (address : UInt128) (trie : TrieNode T) (depth : ℕ) (found : Option T)
    (reached : depth ≤ 128) (low : trie.height + depth ≤ 129) :
    findFrom address trie (bitAt depth) (halfAt address depth) found =
      trie.longest ((bitsOf address).drop depth) found := by
  induction trie generalizing depth found with
  | null => cases (bitsOf address).drop depth <;> rfl
  | node data left right ihLeft ihRight =>
    rw [height] at low
    rw [find_from_node]
    by_cases below : depth < 128
    · have shifts := bit_shifts ⟨depth, below⟩
      have out := bit_runs_out ⟨depth, below⟩
      dsimp only at shifts out
      have half : (if bitAt depth >>> 1 = 0 then low64 address else halfAt address depth) =
          halfAt address (depth + 1) := by
        unfold halfAt
        by_cases beyond : depth % 64 = 63
        · rw [if_pos (out.2 beyond), if_neg (by omega)]
        · rw [if_neg fun zero => beyond (out.1 zero)]
          by_cases first : depth < 64
          · rw [if_pos first, if_pos (by omega)]
          · rw [if_neg first, if_neg (by omega)]
      rw [← shifts, half, bits_drop _ below, UInt64.and_comm]
      by_cases bit : address.getMsbD depth = true
      · rw [if_pos ((tests_half address below).2 bit), bit, longest, if_pos rfl]
        exact ihRight (depth + 1) _ (by omega) (by omega)
      · rw [if_neg fun set => bit ((tests_half address below).1 set), Bool.eq_false_iff.2 bit,
          longest, if_neg Bool.false_ne_true]
        exact ihLeft (depth + 1) _ (by omega) (by omega)
    · -- at the end of the path a node has no children
      have beyond : (bitsOf address).drop depth = [] :=
        List.drop_eq_nil_of_le (by simpa using Nat.le_of_not_lt below)
      have childless : ∀ trie : TrieNode T, trie.height = 0 → trie = null := by
        intro trie flat
        cases trie with
        | null => rfl
        | node => simp [height] at flat
      rw [beyond, childless left (by omega), childless right (by omega)]
      split_ifs <;> rfl

/-! ## Prefixes and paths -/

namespace Prefix

instance (ipv6 : Prefix) (address : UInt128) : Decidable (ipv6.Contains address) :=
  inferInstanceAs (Decidable (_ = _))

instance (first second : Prefix) : Decidable (first.Same second) :=
  inferInstanceAs (Decidable (_ ∧ _))

theorem contains_iff (ipv6 : Prefix) (address : UInt128) : ipv6.Contains address ↔
    ∀ depth < ipv6.length, address.getMsbD depth = ipv6.address.getMsbD depth := by
  unfold Contains toRange
  constructor
  · intro same depth inside
    have bit := congrArg (fun word => word.getMsbD depth) same
    simpa [BitVec.getMsbD_and, contiguous_bit depth ipv6.short, inside] using bit
  · intro agree
    refine BitVec.eq_of_getMsbD_eq fun depth _ => ?_
    rw [BitVec.getMsbD_and, BitVec.getMsbD_and, contiguous_bit depth ipv6.short]
    by_cases inside : depth < ipv6.length
    · rw [agree depth inside]
    · rw [decide_eq_false inside, Bool.and_false, Bool.and_false]

/-- The prefix contains the addresses whose ways begin with its own. -/
theorem path_prefix_iff (ipv6 : Prefix) (address : UInt128) :
    ipv6.path <+: bitsOf address ↔ ipv6.Contains address := by
  rw [List.prefix_iff_getElem, contains_iff]
  have short := ipv6.short
  constructor
  · rintro ⟨_, agree⟩ depth inside
    have bit := agree depth (by simpa using inside)
    simp only [path, bitsOf, List.getElem_take, List.getElem_ofFn] at bit
    exact bit.symm
  · intro agree
    refine ⟨by simpa using short, fun depth inside => ?_⟩
    rw [path_length] at inside
    simp only [path, bitsOf, List.getElem_take, List.getElem_ofFn]
    exact (agree depth inside).symm

theorem path_eq_iff (first second : Prefix) : first.path = second.path ↔ first.Same second := by
  unfold Same
  rw [← path_prefix_iff]
  constructor
  · intro same
    refine ⟨by rw [← path_length, same, path_length], ?_⟩
    rw [same]
    exact List.take_prefix _ _
  · rintro ⟨length, isPrefix⟩
    rw [List.prefix_iff_eq_take, path_length, length] at isPrefix
    exact isPrefix

end Prefix

/-! ## The table -/

/-- The root exists, the trie is no deeper than an address is long, and its entries are the
prefixes. -/
structure Holds (table : Table T) (entries : List (Prefix × T)) : Prop where
  root : table.head ≠ null
  low : table.head.height ≤ 129
  entry : ∀ path value, table.head.entry path = some value ↔
    ∃ ipv6, (ipv6, value) ∈ entries ∧ ipv6.path = path

theorem holds_initial : Holds ({} : Table T) [] where
  root := nofun
  low := by simp [freshNode, height]
  entry := by
    intro path value
    cases path with
    | nil => simp [freshNode, entry]
    | cons bit rest => cases bit <;> simp [freshNode, entry]

namespace Holds

variable {table : Table T} {entries : List (Prefix × T)}

theorem insert_eq (holds : Holds table entries) (ipv6 : Prefix) (value : T) :
    table.insert ipv6.toRange value = match inserted value ipv6.path table.head with
      | .error error => (.error error, table)
      | .ok head => (.ok (), { head, size := table.size + 1 }) := by
  cases root : table.head with
  | null => exact absurd root holds.root
  | node data left right =>
    have from_root := insert_from_eq ipv6 value loopFuel 0 data left right (by omega)
      (Nat.zero_le _) (by decide)
    rw [Prefix.pathFrom, List.drop_zero] at from_root
    cases added : inserted value ipv6.path (.node data left right) <;>
      simp [Table.insert, start_eq, root, from_root, added]

theorem entry_some (holds : Holds table entries) (path : List Bool) :
    (table.head.entry path).isSome ↔ ∃ entry ∈ entries, entry.1.path = path := by
  constructor
  · intro present
    obtain ⟨value, found⟩ := Option.isSome_iff_exists.1 present
    obtain ⟨ipv6, listed, same⟩ := (holds.entry path value).1 found
    exact ⟨(ipv6, value), listed, same⟩
  · rintro ⟨⟨ipv6, value⟩, listed, same⟩
    exact Option.isSome_iff_exists.2 ⟨value, (holds.entry path value).2 ⟨ipv6, listed, same⟩⟩

/-- An insertion of a prefix that is in the table fails, and leaves the table as it was. -/
theorem insert_present (holds : Holds table entries) {ipv6 present : Prefix} {value other : T}
    (listed : (present, other) ∈ entries) (same : present.Same ipv6) :
    table.insert ipv6.toRange value =
      (.error ⟨"Can not overwrite the data in Trie."⟩, table) := by
  have occupied := (holds.entry_some ipv6.path).2
    ⟨(present, other), listed, (Prefix.path_eq_iff present ipv6).2 same⟩
  rw [holds.insert_eq, inserted, if_pos occupied]

theorem insert_distinct (holds : Holds table entries) {ipv6 : Prefix} {value : T}
    (distinct : ∀ entry ∈ entries, ¬ entry.1.Same ipv6) :
    (table.insert ipv6.toRange value).1 = .ok () ∧
      Holds (table.insert ipv6.toRange value).2 (entries ++ [(ipv6, value)]) := by
  have vacant : ¬ (table.head.entry ipv6.path).isSome := by
    rw [holds.entry_some]
    rintro ⟨entry, listed, same⟩
    exact distinct entry listed ((Prefix.path_eq_iff entry.1 ipv6).1 same)
  rw [holds.insert_eq, inserted, if_neg vacant]
  refine ⟨rfl, ?_, ?_, ?_⟩
  · dsimp only
    cases ipv6.path with
    | nil => cases table.head <;> nofun
    | cons bit rest => cases table.head <;> cases bit <;> nofun
  · have higher := height_insert value ipv6.path table.head
    rw [Prefix.path_length] at higher
    have short := ipv6.short
    have low := holds.low
    dsimp only
    omega
  · intro path other
    dsimp only
    rw [entry_insert]
    by_cases here : path = ipv6.path
    · rw [if_pos here]
      constructor
      · rintro ⟨⟩
        exact ⟨ipv6, by simp, here.symm⟩
      · rintro ⟨present, listed, same⟩
        rcases List.mem_append.1 listed with old | new
        · have clash := (Prefix.path_eq_iff present ipv6).1 (same.trans here)
          exact absurd clash (distinct _ old)
        · simp only [List.mem_singleton, Prod.mk.injEq] at new
          rw [new.2]
    · rw [if_neg here, holds.entry]
      constructor
      · rintro ⟨present, listed, same⟩
        exact ⟨present, List.mem_append_left _ listed, same⟩
      · rintro ⟨present, listed, same⟩
        rcases List.mem_append.1 listed with old | new
        · exact ⟨present, old, same⟩
        · simp only [List.mem_singleton, Prod.mk.injEq] at new
          exact absurd (same.symm.trans (congrArg Prefix.path new.1)) here

theorem find_longest_eq (holds : Holds table entries) (address : UInt128) :
    table.findLongest address = match table.head.longest (bitsOf address) none with
      | none => .error ⟨"Fail to find a match for the given address."⟩
      | some value => .ok value := by
  have found := find_from_eq address table.head 0 none (Nat.zero_le _) holds.low
  rw [List.drop_zero] at found
  rw [Table.findLongest, ← found]
  rfl

/-- A lookup finds the value of the longest of the prefixes that contain the address. -/
theorem find_longest_ok (holds : Holds table entries) (address : UInt128) (value : T) :
    table.findLongest address = .ok value ↔ ∃ ipv6, (ipv6, value) ∈ entries ∧
      ipv6.Contains address ∧
      ∀ entry ∈ entries, entry.1.Contains address → entry.1.length ≤ ipv6.length := by
  have walk : table.findLongest address = .ok value ↔
      table.head.longest (bitsOf address) none = some value := by
    rw [holds.find_longest_eq]
    cases table.head.longest (bitsOf address) none <;> simp
  rw [walk, longest_eq_some_iff]
  constructor
  · rintro ⟨path, isPrefix, own, isLongest⟩
    obtain ⟨ipv6, listed, rfl⟩ := (holds.entry path value).1 own
    refine ⟨ipv6, listed, (ipv6.path_prefix_iff address).1 isPrefix, fun entry present within => ?_⟩
    have short := isLongest entry.1.path ((entry.1.path_prefix_iff address).2 within)
      ((holds.entry_some _).2 ⟨entry, present, rfl⟩)
    rw [Prefix.path_length, Prefix.path_length] at short
    exact short
  · rintro ⟨ipv6, listed, contains, isLongest⟩
    refine ⟨ipv6.path, (ipv6.path_prefix_iff address).2 contains,
      (holds.entry _ _).2 ⟨ipv6, listed, rfl⟩, fun path isPrefix present => ?_⟩
    obtain ⟨entry, other, rfl⟩ := (holds.entry_some path).1 present
    rw [Prefix.path_length, Prefix.path_length]
    exact isLongest entry other ((entry.1.path_prefix_iff address).1 isPrefix)

theorem find_longest_error (holds : Holds table entries) (address : UInt128) :
    (table.findLongest address).toOption = none ↔ ∀ entry ∈ entries, ¬ entry.1.Contains address := by
  have walk : (table.findLongest address).toOption = none ↔
      table.head.longest (bitsOf address) none = none := by
    rw [holds.find_longest_eq]
    cases table.head.longest (bitsOf address) none <;> simp [Except.toOption]
  rw [walk, longest_eq_none_iff]
  constructor
  · intro unset entry listed contains
    have vacant := unset entry.1.path ((entry.1.path_prefix_iff address).2 contains)
    have occupied := (holds.entry_some entry.1.path).2 ⟨entry, listed, rfl⟩
    rw [vacant] at occupied
    cases occupied
  · intro outside path isPrefix
    rw [← Option.not_isSome_iff_eq_none, holds.entry_some]
    rintro ⟨entry, listed, rfl⟩
    exact outside entry listed ((entry.1.path_prefix_iff address).1 isPrefix)

end Holds

/-- Inserts one prefix after the other, with what each insertion returns. -/
def insertAll : List (Prefix × T) → Table T → List (Except InternalError Unit) × Table T
  | [], table => ([], table)
  | (ipv6, value) :: rest, table =>
    let (status, table) := table.insert ipv6.toRange value
    let (statuses, table) := insertAll rest table
    (status :: statuses, table)

theorem insert_all_holds (rest entries : List (Prefix × T)) (table : Table T)
    (holds : Holds table entries)
    (distinct : (entries ++ rest).Pairwise fun first second => ¬ first.1.Same second.1) :
    (∀ status ∈ (insertAll rest table).1, status = .ok ()) ∧
      Holds (insertAll rest table).2 (entries ++ rest) := by
  induction rest generalizing entries table with
  | nil =>
    rw [List.append_nil]
    exact ⟨nofun, holds⟩
  | cons entry rest ih =>
    obtain ⟨ipv6, value⟩ := entry
    have others : ∀ entry ∈ entries, ¬ entry.1.Same ipv6 := fun entry listed =>
      (List.pairwise_append.1 distinct).2.2 entry listed (ipv6, value) (by simp)
    obtain ⟨done, next⟩ := @Holds.insert_distinct T table entries holds ipv6 value others
    rw [List.append_cons] at distinct ⊢
    obtain ⟨statuses, final⟩ := ih _ _ next distinct
    refine ⟨?_, final⟩
    intro status returned
    rcases List.mem_cons.1 returned with rfl | later
    · exact done
    · exact statuses status later

/-- Distinct prefixes are all accepted, in any order; a lookup then returns the value of the longest
one that contains the address, and fails if none does. A prefix that is in the table already is
refused and no lookup changes. -/
theorem finds_longest_match (entries : List (Prefix × T))
    (distinct : entries.Pairwise fun first second => ¬ first.1.Same second.1) :
    (∀ status ∈ (insertAll entries {}).1, status = .ok ()) ∧
    (∀ address value, (insertAll entries {}).2.findLongest address = .ok value ↔
      ∃ ipv6, (ipv6, value) ∈ entries ∧ ipv6.Contains address ∧
        ∀ entry ∈ entries, entry.1.Contains address → entry.1.length ≤ ipv6.length) ∧
    (∀ address, ((insertAll entries {}).2.findLongest address).toOption = none ↔
      ∀ entry ∈ entries, ¬ entry.1.Contains address) ∧
    (∀ entry ∈ entries, ∀ ipv6 value, entry.1.Same ipv6 →
      ((insertAll entries {}).2.insert ipv6.toRange value).1.toOption = none ∧
      ∀ address, ((insertAll entries {}).2.insert ipv6.toRange value).2.findLongest address =
        (insertAll entries {}).2.findLongest address) := by
  obtain ⟨statuses, holds⟩ := insert_all_holds entries [] {} holds_initial distinct
  rw [List.nil_append] at holds
  refine ⟨statuses, holds.find_longest_ok, holds.find_longest_error, ?_⟩
  intro entry listed ipv6 value same
  rw [holds.insert_present listed same]
  exact ⟨rfl, fun address => rfl⟩

/-- A default route and two nested prefixes, the longer one first. -/
def nestedPrefixes : List (Prefix × ℕ) :=
  [(⟨0x20010db8000100000000000000000000, 48, by decide⟩, 2),
    (⟨0, 0, by decide⟩, 0),
    (⟨0x20010db8000000000000000000000000, 32, by decide⟩, 1)]

theorem finds_longest_match_example :
    (insertAll nestedPrefixes {}).2.findLongest 0x20010db8000100000000000000000001 = .ok 2 :=
  ((finds_longest_match nestedPrefixes (by decide)).2.1 _ _).2
    ⟨_, List.mem_cons_self, by decide, by decide⟩

end Isekai.IPTable
