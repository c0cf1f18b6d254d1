import Isekai.FalconTypes
import Isekai.PrefixTrie

/-! The table of IPv6 prefixes: a binary trie that is walked by testing one bit of a 64-bit half
after the other. An insertion first follows the nodes that exist and then creates the missing ones;
a lookup follows the address as far as there are nodes. -/

namespace Isekai.IPTable
open PrefixTrie PrefixTrie.Trie

abbrev UInt128 := BitVec 128

/-- `absl::Uint128High64` and `absl::Uint128Low64`. -/
def high64 (value : UInt128) : UInt64 := ⟨value.extractLsb' 64 64⟩

def low64 (value : UInt128) : UInt64 := ⟨value.extractLsb' 0 64⟩

structure IPRange where
  address : UInt128
  mask : UInt128
  deriving DecidableEq, Repr

abbrev TrieNode := Trie

/-- `absl::InternalError`. -/
structure InternalError where
  message : String
  deriving DecidableEq, Repr

def highBit : UInt64 := 0x8000000000000000

/-- The variables of the loops of `insert`: `count` is the number of halves that are over. -/
structure Cursor where
  bit : UInt64 := highBit
  count : Nat := 0
  addr : UInt64
  mask : UInt64
  deriving DecidableEq, Repr

namespace Cursor

def start (range : IPRange) : Cursor where
  addr := high64 range.address
  mask := high64 range.mask

/-- The bit is shifted, and starts over in the low half; after that the loop is left. -/
def advance (range : IPRange) (cursor : Cursor) : Option Cursor :=
  let bit := cursor.bit >>> 1
  if bit = 0 then
    if cursor.count + 1 = 2 then none
    else some ⟨highBit, cursor.count + 1, low64 range.address, low64 range.mask⟩
  else some { cursor with bit }

def masked (cursor : Cursor) : Bool := cursor.bit &&& cursor.mask ≠ 0

def goesRight (cursor : Cursor) : Bool := cursor.bit &&& cursor.addr ≠ 0

end Cursor

variable {T : Type}

def isNull : TrieNode T → Bool
  | .null => true
  | .node .. => false

def child (right : Bool) : TrieNode T → TrieNode T
  | .null => .null
  | .node _ left other => if right then other else left

def setChild (right : Bool) (next : TrieNode T) : TrieNode T → TrieNode T
  | .null => .null
  | .node data left other => if right then .node data left next else .node data next other

def setData (value : T) : TrieNode T → TrieNode T
  | .null => .null
  | .node _ left right => .node (some value) left right

/-- `std::make_unique<TrieNode<T>>()`. -/
def freshNode : TrieNode T := .node none .null .null

/-- More turns than a loop over 128 bits takes. -/
def loopFuel : Nat := 129

/-- The second loop of `insert`, from a node whose next child is missing, and the assignment after
it. -/
def extend (range : IPRange) (value : T) : Nat → Cursor → TrieNode T → TrieNode T
  | 0, _, current => current
  | fuel + 1, cursor, current =>
    if cursor.masked then
      let next : TrieNode T := match cursor.advance range with
        | none => setData value freshNode
        | some cursor => extend range value fuel cursor freshNode
      setChild cursor.goesRight next current
    else setData value current

/-- What `insert` does at the node where its first loop ends, if there is one. -/
def store (value : T) (current : TrieNode T) : Except InternalError (TrieNode T) :=
  match current with
  | .node (some _) _ _ => .error ⟨"Can not overwrite the data in Trie."⟩
  | _ => .ok (setData value current)

/-- The first loop of `insert`, from a node on. -/
def insertFrom (range : IPRange) (value : T) :
    Nat → Cursor → TrieNode T → Except InternalError (TrieNode T)
  | 0, _, current => .ok current
  | fuel + 1, cursor, current =>
    if cursor.masked then
      let next := child cursor.goesRight current
      if isNull next then .ok (extend range value (fuel + 1) cursor current)
      else
        (match cursor.advance range with
          | none => store value next
          | some cursor => insertFrom range value fuel cursor next).map fun next =>
            setChild cursor.goesRight next current
    else store value current

/-- The loop of `find_longest`: `found` is what `ptr` points to. -/
def findFrom (address : UInt128) : TrieNode T → UInt64 → UInt64 → Option T → Option T
  | .null, _, _, found => found
  | .node data left right, bit, addr, found =>
    let found := match data with
      | some value => some value
      | none => found
    let shifted := bit >>> 1
    let bit' := if shifted = 0 then highBit else shifted
    let addr' := if shifted = 0 then low64 address else addr
    if addr &&& bit ≠ 0 then findFrom address right bit' addr' found
    else findFrom address left bit' addr' found

/-- `IPTable`. -/
structure Table (T : Type) where
  head : TrieNode T := freshNode
  size : UInt32 := 0

namespace Table

/-- `insert`, with the table that it leaves. -/
def insert (table : Table T) (range : IPRange) (value : T) : Except InternalError Unit × Table T :=
  match insertFrom range value loopFuel (Cursor.start range) table.head with
  | .error error => (.error error, table)
  | .ok head => (.ok (), { head, size := table.size + 1 })

def findLongest (table : Table T) (address : UInt128) : Except InternalError T :=
  match findFrom address table.head highBit (high64 address) none with
  | none => .error ⟨"Fail to find a match for the given address."⟩
  | some value => .ok value

end Table

/-! ## Prefixes -/

/-- A mask whose first bits alone are set. -/
def contiguousMask (length : Nat) : UInt128 := BitVec.allOnes 128 <<< (128 - length)

/-- An IPv6 prefix: the first bits of an address. -/
structure Prefix where
  address : UInt128
  length : Nat
  short : length ≤ 128

namespace Prefix

def toRange (ipv6 : Prefix) : IPRange := ⟨ipv6.address, contiguousMask ipv6.length⟩

/-- An address that agrees with the prefix under its mask. -/
def Contains (ipv6 : Prefix) (address : UInt128) : Prop :=
  address &&& ipv6.toRange.mask = ipv6.address &&& ipv6.toRange.mask

/-- The same length, and the same address under the mask. -/
def Same (first second : Prefix) : Prop := first.length = second.length ∧
  first.Contains second.address

end Prefix

end Isekai.IPTable
