import Isekai.FalconTypes

/-! MAC addresses as text: six bytes in hexadecimal, separated by colons. The parser tells a wrong
number of groups by a status, but checks that each group is a byte. -/

namespace Isekai.NetAddress

/-- A string of the source, whose characters are bytes. -/
abbrev Bytes := List UInt8

/-- The bytes of a text in ASCII. -/
def ascii (text : String) : Bytes := text.toList.map fun c => UInt8.ofNat c.toNat

def colon : UInt8 := 58

/-- What a call ends with other than a value: a status for the caller, or a failed `CHECK`. -/
inductive Failure where
  | invalidArgument (message : Bytes)
  | checkFailed
  deriving DecidableEq, Repr

/-- `MacAddress`, with its bitset. -/
structure MacAddress where
  macAddress : BitVec 48
  deriving DecidableEq, Repr

/-- The constructor. -/
def ofBytes (byte6 byte5 byte4 byte3 byte2 byte1 : UInt8) : MacAddress :=
  ⟨BitVec.ofNat 48 ((byte6.toUInt64 <<< 40) + (byte5.toUInt64 <<< 32) + (byte4.toUInt64 <<< 24) +
    (byte3.toUInt64 <<< 16) + (byte2.toUInt64 <<< 8) + (byte1.toUInt64 <<< 0)).toNat⟩

/-! ## Parsing -/

/-- `absl::ascii_isxdigit`. -/
def isXDigit (c : UInt8) : Bool :=
  (48 ≤ c && c ≤ 57) || (65 ≤ c && c ≤ 70) || (97 ≤ c && c ≤ 102)

def digitValue (c : UInt8) : Nat :=
  if 65 ≤ c then if 97 ≤ c then c.toNat - 97 + 10 else c.toNat - 65 + 10 else c.toNat - 48

/-- The loop of `ParseByteInBase16`, over the value so far. -/
def parseDigits (buffer : Nat) : Bytes → Option Nat
  | [] => some buffer
  | c :: rest => if !isXDigit c then none else parseDigits (buffer * 16 + digitValue c) rest

def parseByteInBase16 (base16String : Bytes) : Option UInt8 :=
  if base16String = [] ∨ 2 < base16String.length then none
  else (parseDigits 0 base16String).map UInt8.ofNat

def parseGroup (group : Bytes) : Except Failure UInt8 :=
  match parseByteInBase16 group with
  | none => .error .checkFailed
  | some byte => .ok byte

/-- `MacAddress::OfString`. -/
def ofString (address : Bytes) : Except Failure MacAddress :=
  let bytes := address.splitOn colon
  if bytes.length ≠ 6 then
    .error (.invalidArgument (ascii "Invalid input MAC address: " ++ address))
  else do
    let addressBuf ← bytes.mapM parseGroup
    return ofBytes (addressBuf.getD 0 0) (addressBuf.getD 1 0) (addressBuf.getD 2 0)
      (addressBuf.getD 3 0) (addressBuf.getD 4 0) (addressBuf.getD 5 0)

/-! ## Printing -/

def hexDigit (digit : Nat) : UInt8 := UInt8.ofNat (if digit < 10 then 48 + digit else 87 + digit)

/-- The format `%02x`. -/
def formatByte (byte : UInt8) : Bytes := [hexDigit (byte.toNat / 16), hexDigit (byte.toNat % 16)]

/-- The byte of the address that begins at a bit. -/
def byteAt (mac : MacAddress) (shift : Nat) : UInt8 :=
  UInt8.ofNat ((mac.macAddress >>> shift).toNat &&& 0xFF)

/-- `MacAddress::ToString`. -/
def toString (mac : MacAddress) : Bytes :=
  [colon].intercalate [formatByte (byteAt mac 40), formatByte (byteAt mac 32),
    formatByte (byteAt mac 24), formatByte (byteAt mac 16), formatByte (byteAt mac 8),
    formatByte (byteAt mac 0)]

/-! ## Groups -/

/-- One or two hexadecimal digits. -/
structure IsGroup (group : Bytes) : Prop where
  nonempty : group ≠ []
  short : group.length ≤ 2
  digits : ∀ c ∈ group, isXDigit c = true

/-- Six groups of one or two hexadecimal digits, separated by colons. -/
def IsAddress (address : Bytes) : Prop :=
  ∃ groups : List Bytes, groups.length = 6 ∧ (∀ group ∈ groups, IsGroup group) ∧
    address = [colon].intercalate groups

theorem parse_digits_some_iff {buffer : Nat} {text : Bytes} :
    (parseDigits buffer text).isSome ↔ ∀ c ∈ text, isXDigit c = true := by
  induction text generalizing buffer with
  | nil => simp [parseDigits]
  | cons c rest ih =>
    rw [parseDigits, List.forall_mem_cons]
    cases digit : isXDigit c with
    | true => simpa using ih
    | false => simp

theorem parse_group_ok_iff {group : Bytes} :
    (∃ byte, parseGroup group = .ok byte) ↔ IsGroup group := by
  unfold parseGroup parseByteInBase16
  by_cases shape : group = [] ∨ 2 < group.length
  · rw [if_pos shape]
    refine ⟨nofun, fun isGroup => ?_⟩
    rcases shape with empty | long
    · exact absurd empty isGroup.nonempty
    · exact absurd isGroup.short (by omega)
  · rw [if_neg shape]
    obtain ⟨nonempty, short⟩ := not_or.1 shape
    cases parsed : parseDigits 0 group with
    | none =>
      refine ⟨nofun, fun isGroup => ?_⟩
      have parses := (@parse_digits_some_iff 0 group).2 isGroup.digits
      rw [parsed] at parses
      cases parses
    | some value =>
      refine ⟨fun _ => ⟨nonempty, by omega, ?_⟩, fun _ => ⟨_, rfl⟩⟩
      rw [← @parse_digits_some_iff 0, parsed]
      rfl

theorem parse_group_error {group : Bytes} {failure : Failure}
    (failed : parseGroup group = .error failure) : failure = .checkFailed := by
  unfold parseGroup at failed
  split at failed <;> cases failed
  rfl

/-- All groups are parsed, or a check fails. -/
theorem parse_groups (groups : List Bytes) :
    (∀ group ∈ groups, IsGroup group) ∧ (∃ bytes, groups.mapM parseGroup = .ok bytes) ∨
      (¬ ∀ group ∈ groups, IsGroup group) ∧ groups.mapM parseGroup = .error .checkFailed := by
  induction groups with
  | nil => exact .inl ⟨by simp, [], rfl⟩
  | cons group rest ih =>
    rw [List.forall_mem_cons, List.mapM_cons]
    cases parsed : parseGroup group with
    | error failure =>
      refine .inr ⟨fun all => ?_, by rw [parse_group_error parsed]; rfl⟩
      obtain ⟨byte, parses⟩ := parse_group_ok_iff.2 all.1
      rw [parsed] at parses
      cases parses
    | ok byte =>
      have isGroup := parse_group_ok_iff.1 ⟨byte, parsed⟩
      rcases ih with ⟨all, bytes, done⟩ | ⟨notAll, failed⟩
      · exact .inl ⟨⟨isGroup, all⟩, byte :: bytes, by rw [done]; rfl⟩
      · exact .inr ⟨fun all => notAll all.2, by rw [failed]; rfl⟩

theorem colon_not_digit : isXDigit colon = false := by decide

theorem is_address_iff {address : Bytes} :
    IsAddress address ↔ (address.splitOn colon).length = 6 ∧
      ∀ group ∈ address.splitOn colon, IsGroup group := by
  constructor
  · rintro ⟨groups, six, all, rfl⟩
    rw [List.splitOn_intercalate]
    · exact ⟨six, all⟩
    · intro group mem isColon
      have digit := (all group mem).digits colon isColon
      rw [colon_not_digit] at digit
      cases digit
    · rintro rfl
      cases six
  · rintro ⟨six, all⟩
    exact ⟨address.splitOn colon, six, all, (List.intercalate_splitOn colon).symm⟩

theorem length_split (address : Bytes) :
    (address.splitOn colon).length = address.count colon + 1 := by
  induction address with
  | nil => rfl
  | cons c rest ih =>
    rw [List.splitOn_cons_eq_if_modifyHead, List.count_cons]
    split
    · rw [List.length_cons, ih]
    · rw [List.length_modifyHead, ih]

/-! ## Round trip -/

theorem hex_digit_spec : ∀ digit < 16, isXDigit (hexDigit digit) = true ∧
    digitValue (hexDigit digit) = digit := by
  decide

/-- A printed byte is parsed again. -/
theorem parse_format_byte (byte : UInt8) : parseGroup (formatByte byte) = .ok byte := by
  have below := byte.toNat_lt
  obtain ⟨isHigh, high⟩ := hex_digit_spec (byte.toNat / 16) (by omega)
  obtain ⟨isLow, low⟩ := hex_digit_spec (byte.toNat % 16) (by omega)
  have parsed : parseDigits 0 (formatByte byte) = some byte.toNat := by
    simp only [formatByte, parseDigits, isHigh, isLow, high, low, Bool.not_true, Bool.false_eq_true,
      if_false]
    congr 1
    omega
  unfold parseGroup parseByteInBase16
  rw [if_neg (by simp [formatByte]), parsed]
  simp

theorem is_group_format (byte : UInt8) : IsGroup (formatByte byte) :=
  parse_group_ok_iff.1 ⟨byte, parse_format_byte byte⟩

theorem byte_at_to_nat (mac : MacAddress) (shift : Nat) :
    (byteAt mac shift).toNat = mac.macAddress.toNat / 2 ^ shift % 256 := by
  unfold byteAt
  rw [UInt8.toNat_ofNat', BitVec.toNat_ushiftRight, Nat.shiftRight_eq_div_pow]
  have low : mac.macAddress.toNat / 2 ^ shift &&& 0xFF = mac.macAddress.toNat / 2 ^ shift % 256 :=
    Nat.and_two_pow_sub_one_eq_mod _ 8
  rw [low]
  omega

theorem shifted_byte (byte : UInt8) (shift : UInt64) (inside : shift.toNat ≤ 40) :
    (byte.toUInt64 <<< shift).toNat = byte.toNat * 2 ^ shift.toNat := by
  have below := byte.toNat_lt
  have power : 2 ^ shift.toNat ≤ 2 ^ 40 := Nat.pow_le_pow_right (by omega) inside
  have bound : byte.toNat * 2 ^ shift.toNat < 2 ^ 8 * 2 ^ 40 :=
    Nat.mul_lt_mul_of_lt_of_le below power (by omega)
  rw [UInt64.toNat_shiftLeft, Nat.mod_eq_of_lt (show shift.toNat < 64 by omega),
    Nat.shiftLeft_eq, UInt8.toNat_toUInt64, Nat.mod_eq_of_lt (by omega)]

/-- The bytes of an address make it up. -/
theorem of_bytes_byte_at (mac : MacAddress) :
    ofBytes (byteAt mac 40) (byteAt mac 32) (byteAt mac 24) (byteAt mac 16) (byteAt mac 8)
      (byteAt mac 0) = mac := by
  obtain ⟨bits⟩ := mac
  have below := bits.isLt
  unfold ofBytes
  congr 1
  refine BitVec.eq_of_toNat_eq ?_
  rw [BitVec.toNat_ofNat]
  simp only [UInt64.toNat_add, shifted_byte _ 40 (by decide), shifted_byte _ 32 (by decide),
    shifted_byte _ 24 (by decide), shifted_byte _ 16 (by decide), shifted_byte _ 8 (by decide),
    shifted_byte _ 0 (by decide), byte_at_to_nat]
  simp only [UInt64.reduceToNat]
  omega

/-- What is printed is parsed again. -/
theorem of_string_to_string (mac : MacAddress) : ofString (toString mac) = .ok mac := by
  have split : (toString mac).splitOn colon = [formatByte (byteAt mac 40),
      formatByte (byteAt mac 32), formatByte (byteAt mac 24), formatByte (byteAt mac 16),
      formatByte (byteAt mac 8), formatByte (byteAt mac 0)] := by
    refine List.splitOn_intercalate colon (fun group mem isColon => ?_) (by simp)
    have isGroup : IsGroup group := by
      simp only [List.mem_cons, List.not_mem_nil, or_false] at mem
      rcases mem with rfl | rfl | rfl | rfl | rfl | rfl <;> exact is_group_format _
    have digit := isGroup.digits colon isColon
    rw [colon_not_digit] at digit
    cases digit
  unfold ofString
  rw [split]
  simp only [List.mapM_cons, List.mapM_nil, parse_format_byte]
  exact congrArg Except.ok (of_bytes_byte_at mac)

/-! ## What the parser accepts -/

/-- The parser accepts addresses alone, and tells anything else by a status. -/
structure ParsesExactly (address : Bytes) : Prop where
  accepted : IsAddress address → ∃ mac, ofString address = .ok mac
  rejected : ¬ IsAddress address → ∃ message, ofString address = .error (.invalidArgument message)

theorem parses_exactly_of {address : Bytes}
    (shape : address.count colon ≠ 5 ∨ IsAddress address) : ParsesExactly address := by
  have length := length_split address
  constructor
  · intro isAddress
    obtain ⟨six, all⟩ := is_address_iff.1 isAddress
    rcases parse_groups (address.splitOn colon) with ⟨-, bytes, done⟩ | ⟨notAll, -⟩
    · refine ⟨ofBytes (bytes.getD 0 0) (bytes.getD 1 0) (bytes.getD 2 0) (bytes.getD 3 0)
        (bytes.getD 4 0) (bytes.getD 5 0), ?_⟩
      unfold ofString
      rw [if_neg (not_not.2 six), done]
      rfl
    · exact absurd all notAll
  · intro notAddress
    have wrong : (address.splitOn colon).length ≠ 6 := by
      have count := shape.resolve_right notAddress
      omega
    refine ⟨ascii "Invalid input MAC address: " ++ address, ?_⟩
    unfold ofString
    rw [if_pos wrong]

/-- Five colons around something that is no byte end the run. -/
theorem check_fails {address : Bytes} (five : address.count colon = 5)
    (notAddress : ¬ IsAddress address) : ofString address = .error .checkFailed := by
  have six : (address.splitOn colon).length = 6 := by
    rw [length_split, five]
  rcases parse_groups (address.splitOn colon) with ⟨all, -⟩ | ⟨-, failed⟩
  · exact absurd (is_address_iff.2 ⟨six, all⟩) notAddress
  · unfold ofString
    rw [if_neg (not_not.2 six), failed]
    rfl

/-- The parser is exact, and reads what was printed, where a text without exactly five colons or a
well-formed one is parsed. -/
theorem parses_exactly_iff (address : Bytes) :
    (ParsesExactly address ∧ ∀ mac, ofString (toString mac) = .ok mac) ↔
      address.count colon ≠ 5 ∨ IsAddress address := by
  refine ⟨fun exact => ?_, fun shape => ⟨parses_exactly_of shape, of_string_to_string⟩⟩
  by_contra neither
  obtain ⟨five, notAddress⟩ := not_or.1 neither
  obtain ⟨message, rejected⟩ := exact.1.rejected notAddress
  rw [check_fails (not_not.1 five) notAddress] at rejected
  cases rejected

/-- A letter that is no digit, in the last of six groups. -/
def misspelt : Bytes := ascii "01:23:45:67:89:ag"

theorem misspelt_fails_check : ¬ ParsesExactly misspelt := by
  intro exact
  have failed : ofString misspelt = .error .checkFailed := by decide
  have notAddress : ¬ IsAddress misspelt := by
    intro isAddress
    obtain ⟨mac, accepted⟩ := exact.accepted isAddress
    rw [failed] at accepted
    cases accepted
  obtain ⟨message, rejected⟩ := exact.rejected notAddress
  rw [failed] at rejected
  cases rejected

end Isekai.NetAddress
