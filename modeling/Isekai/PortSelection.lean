import Isekai.FalconTypes
import Isekai.PrefixSums

/-! The output port of a packet by weighted cost multipath. The hash of the packet is rotated as
the stage of the router says, and its remainder by the sum of the weights is located among the
weights by subtracting one after the other. -/

namespace Isekai.PortSelection
open PrefixSums

/-- `OutputInfo`: an output port with its weight. -/
structure OutputInfo where
  weight : UInt32
  portIndex : UInt32
  deriving DecidableEq, Repr

/-- What ends a run here: a stage that is not known, and a remainder by 0. -/
inductive Fatal where
  | unknownStage
  | zeroWeightSum
  deriving DecidableEq, Repr

def rotateLeftBits (value bitCount : UInt32) : UInt32 :=
  let mask : UInt32 := 8 * 4 - 1
  let bitCount := bitCount &&& mask
  (value <<< bitCount) ||| (value >>> (-bitCount &&& mask))

/-- `HashValueRotation`. -/
def hashValueRotation (hashValue : UInt32) (stage : Int) (uplink : Bool) : Except Fatal UInt32 :=
  match stage with
  | 1 => .ok hashValue
  | 2 => .ok (if uplink then rotateLeftBits hashValue 4 else rotateLeftBits hashValue 16)
  | 3 => .ok (if uplink then rotateLeftBits hashValue 8 else rotateLeftBits hashValue 12)
  | _ => .error .unknownStage

def weightSum (outputOptions : List OutputInfo) : UInt32 :=
  outputOptions.foldl (fun sum option => sum + option.weight) 0

/-- The loop of `SelectOutputPort`: the option at which it breaks. -/
def scan : List OutputInfo → UInt32 → Option Nat
  | [], _ => none
  | option :: rest, modHashValue =>
    if modHashValue < option.weight then some 0
    else (scan rest (modHashValue - option.weight)).map (· + 1)

/-- The option that the loop breaks at for the hash of a packet. `uplink` is whether the packet has
the source MAC of the VRF for the way up. -/
def selectOption (outputOptions : List OutputInfo) (hashValue : UInt32) (uplink : Bool)
    (stage : Int) : Except Fatal (Option Nat) :=
  (hashValueRotation hashValue stage uplink) >>= fun rotated =>
    if weightSum outputOptions = 0 then .error .zeroWeightSum
    else .ok (scan outputOptions (rotated % weightSum outputOptions))

/-- `WcmpOutputPortSelection::SelectOutputPort`. -/
def selectOutputPort (outputOptions : List OutputInfo) (hashValue : UInt32) (uplink : Bool)
    (stage : Int) : Except Fatal UInt32 :=
  (selectOption outputOptions hashValue uplink stage).map fun selected =>
    ((selected >>= fun index => outputOptions[index]?).map OutputInfo.portIndex).getD 0

/-! ## The rotation -/

theorem rotate_left_injective {width : Nat} (amount : Nat) :
    Function.Injective fun value : BitVec width => value.rotateLeft amount := by
  intro first second same
  refine BitVec.eq_of_getLsbD_eq fun position inside => ?_
  have shift := Nat.mod_lt amount (show 0 < width by omega)
  -- where the bit at the position has gone
  by_cases high : position < width - amount % width
  · have bit := congrArg (fun value => BitVec.getLsbD value (position + amount % width)) same
    simpa [BitVec.getLsbD_rotateLeft, BitVec.getLsbD_eq_getElem inside,
      show position + amount % width < width by omega] using bit
  · have bit := congrArg
      (fun value => BitVec.getLsbD value (position - (width - amount % width))) same
    simpa [BitVec.getLsbD_rotateLeft, show position - (width - amount % width) < amount % width
        by omega,
      show width - amount % width + (position - (width - amount % width)) = position by omega]
      using bit

theorem rotate_left_bits_eq {value bitCount : UInt32} (known : bitCount ∈ [4, 8, 12, 16]) :
    (rotateLeftBits value bitCount).toBitVec = value.toBitVec.rotateLeft bitCount.toNat := by
  simp only [List.mem_cons, List.not_mem_nil, or_false] at known
  unfold rotateLeftBits
  rcases known with rfl | rfl | rfl | rfl <;> simp [BitVec.rotateLeft_def]

instance uint32_finite : Finite UInt32 :=
  Finite.of_injective UInt32.toFin fun _ _ same => UInt32.toFin_inj.1 same

theorem rotate_left_bits_bijective {bitCount : UInt32} (known : bitCount ∈ [4, 8, 12, 16]) :
    Function.Bijective fun value => rotateLeftBits value bitCount := by
  refine Finite.injective_iff_bijective.1 fun first second same => ?_
  refine UInt32.toBitVec_inj.1 (rotate_left_injective bitCount.toNat ?_)
  dsimp only at same ⊢
  rw [← rotate_left_bits_eq known, ← rotate_left_bits_eq known, same]

/-- `S1`, `S2` and `S3`. -/
def KnownStage (stage : Int) : Prop := stage = 1 ∨ stage = 2 ∨ stage = 3

/-- Every known stage turns the hashes around among themselves. -/
theorem rotation_bijective {stage : Int} (known : KnownStage stage) (uplink : Bool) :
    ∃ turned : UInt32 → UInt32, Function.Bijective turned ∧
      ∀ hashValue, hashValueRotation hashValue stage uplink = .ok (turned hashValue) := by
  rcases known with rfl | rfl | rfl
  · exact ⟨id, Function.bijective_id, fun _ => rfl⟩
  · cases uplink with
    | true => exact ⟨_, rotate_left_bits_bijective (by simp), fun _ => rfl⟩
    | false => exact ⟨_, rotate_left_bits_bijective (by simp), fun _ => rfl⟩
  · cases uplink with
    | true => exact ⟨_, rotate_left_bits_bijective (by simp), fun _ => rfl⟩
    | false => exact ⟨_, rotate_left_bits_bijective (by simp), fun _ => rfl⟩

/-! ## The scan -/

/-- The weights of the options. -/
def weights (outputOptions : List OutputInfo) : List ℕ := outputOptions.map (·.weight.toNat)

theorem scan_eq_locate (outputOptions : List OutputInfo) (modHashValue : UInt32) :
    scan outputOptions modHashValue = locate (weights outputOptions) modHashValue.toNat := by
  induction outputOptions generalizing modHashValue with
  | nil => rfl
  | cons option rest ih =>
    rw [scan, weights, List.map_cons, locate]
    by_cases first : modHashValue < option.weight
    · rw [if_pos first, if_pos (UInt32.lt_iff_toNat_lt.1 first)]
    · have covered : option.weight ≤ modHashValue := by
        rw [UInt32.le_iff_toNat_le]
        rw [UInt32.lt_iff_toNat_lt] at first
        omega
      rw [if_neg first, if_neg (mt UInt32.lt_iff_toNat_lt.2 first), ih,
        UInt32.toNat_sub_of_le _ _ covered]
      rfl

theorem weight_sum_eq {outputOptions : List OutputInfo}
    (small : (weights outputOptions).sum < 2 ^ 32) :
    (weightSum outputOptions).toNat = (weights outputOptions).sum := by
  have general : ∀ (options : List OutputInfo) (start : UInt32),
      start.toNat + (weights options).sum < 2 ^ 32 →
      (options.foldl (fun sum option => sum + option.weight) start).toNat =
        start.toNat + (weights options).sum := by
    intro options
    induction options with
    | nil => simp [weights]
    | cons option rest ih =>
      intro start bound
      rw [weights, List.map_cons, List.sum_cons] at bound
      change start.toNat + (_ + (weights rest).sum) < _ at bound
      have added : (start + option.weight).toNat = start.toNat + option.weight.toNat := by
        rw [UInt32.toNat_add]
        omega
      rw [List.foldl_cons, ih _ (by omega), added]
      simp only [weights, List.map_cons, List.sum_cons]
      omega
  rw [weightSum, general outputOptions 0 (by simpa using small), UInt32.toNat_zero, Nat.zero_add]

/-! ## The selection -/

variable {outputOptions : List OutputInfo} {stage : Int}

/-- Scheme 1 of the source: the prefix sums on both sides of an option enclose the remainder of the
rotated hash. -/
def Scheme1 (outputOptions : List OutputInfo) (rotated : UInt32) (index : ℕ) : Prop :=
  Covers (weights outputOptions) (rotated.toNat % (weights outputOptions).sum) index

/-- How many of all hashes have the loop break at an option. -/
def timesSelected (outputOptions : List OutputInfo) (uplink : Bool) (stage : Int) (index : ℕ) :
    ℕ :=
  ((Finset.range (2 ^ 32)).filter fun hashValue =>
    (selectOption outputOptions (UInt32.ofNat hashValue) uplink stage).toOption =
      some (some index)).card

theorem weight_sum_positive (nonempty : outputOptions ≠ [])
    (positive : ∀ option ∈ outputOptions, 0 < option.weight) :
    0 < (weights outputOptions).sum := by
  obtain ⟨option, rest, rfl⟩ := List.exists_cons_of_ne_nil nonempty
  have first := UInt32.lt_iff_toNat_lt.1 (positive option List.mem_cons_self)
  rw [UInt32.toNat_zero] at first
  simp only [weights, List.map_cons, List.sum_cons]
  omega

/-- What the loop breaks at is what Scheme 1 says. -/
theorem select_option_eq {hashValue rotated : UInt32} {uplink : Bool}
    (positive : 0 < (weights outputOptions).sum)
    (small : (weights outputOptions).sum < 2 ^ 32)
    (turned : hashValueRotation hashValue stage uplink = .ok rotated) :
    selectOption outputOptions hashValue uplink stage =
      .ok (locate (weights outputOptions) (rotated.toNat % (weights outputOptions).sum)) := by
  have sum := weight_sum_eq small
  have nonzero : weightSum outputOptions ≠ 0 := by
    intro zero
    rw [zero, UInt32.toNat_zero] at sum
    omega
  unfold selectOption
  rw [turned]
  change (if weightSum outputOptions = 0 then _ else _) = _
  rw [if_neg nonzero, scan_eq_locate, UInt32.toNat_mod, sum]

theorem select_output_port_eq {hashValue : UInt32} {uplink : Bool} {index : ℕ}
    (found : selectOption outputOptions hashValue uplink stage = .ok (some index))
    (inside : index < outputOptions.length) :
    selectOutputPort outputOptions hashValue uplink stage =
      .ok outputOptions[index].portIndex := by
  unfold selectOutputPort
  rw [found]
  simp [Except.map, List.getElem?_eq_getElem inside]

/-- The interval of an option, by its own weight. -/
theorem covers_iff {number index : ℕ} (inside : index < outputOptions.length) :
    Covers (weights outputOptions) number index ↔
      prefixSum (weights outputOptions) index ≤ number ∧
        number < prefixSum (weights outputOptions) index + outputOptions[index].weight.toNat := by
  have known : index < (weights outputOptions).length := by simpa [weights] using inside
  have next := prefix_sum_succ known
  have own : (weights outputOptions)[index] = outputOptions[index].weight.toNat := by
    simp [weights]
  rw [own] at next
  rw [← next]
  exact ⟨fun covers => ⟨covers.lower, covers.upper⟩, fun both => ⟨known, both.1, both.2⟩⟩

/-- The rotation only changes which hashes an option is selected for, not how many. -/
theorem times_selected_eq {turned : UInt32 → UInt32} {uplink : Bool} {index : ℕ}
    (bijective : Function.Bijective turned)
    (rotation : ∀ hashValue, hashValueRotation hashValue stage uplink = .ok (turned hashValue))
    (positive : 0 < (weights outputOptions).sum)
    (small : (weights outputOptions).sum < 2 ^ 32) (inside : index < outputOptions.length) :
    timesSelected outputOptions uplink stage index =
      ((Finset.range (2 ^ 32)).filter fun number =>
        prefixSum (weights outputOptions) index ≤ number % (weights outputOptions).sum ∧
          number % (weights outputOptions).sum <
            prefixSum (weights outputOptions) index + outputOptions[index].weight.toNat).card := by
  have selected : ∀ number, (selectOption outputOptions (UInt32.ofNat number) uplink
      stage).toOption = some (some index) ↔ Covers (weights outputOptions)
        ((turned (UInt32.ofNat number)).toNat % (weights outputOptions).sum) index := by
    intro number
    rw [select_option_eq positive small (rotation _), ← locate_eq_some_iff]
    simp [Except.toOption]
  refine Finset.card_bij (fun number _ => (turned (UInt32.ofNat number)).toNat) ?_ ?_ ?_
  · intro number mem
    have covers := (selected number).1 (Finset.mem_filter.1 mem).2
    exact Finset.mem_filter.2 ⟨Finset.mem_range.2 (UInt32.toNat_lt _), (covers_iff inside).1 covers⟩
  · intro first memFirst second memSecond same
    have equal := bijective.1 (UInt32.toNat_inj.1 same)
    have below := Finset.mem_range.1 (Finset.mem_filter.1 memFirst).1
    have belowSecond := Finset.mem_range.1 (Finset.mem_filter.1 memSecond).1
    have numbers := congrArg UInt32.toNat equal
    rwa [UInt32.toNat_ofNat_of_lt' below, UInt32.toNat_ofNat_of_lt' belowSecond] at numbers
  · intro number mem
    obtain ⟨below, covers⟩ := Finset.mem_filter.1 mem
    obtain ⟨source, turns⟩ := bijective.2 (UInt32.ofNat number)
    have back : (turned (UInt32.ofNat source.toNat)).toNat = number := by
      rw [UInt32.ofNat_toNat, turns, UInt32.toNat_ofNat_of_lt' (Finset.mem_range.1 below)]
    refine ⟨source.toNat, Finset.mem_filter.2 ⟨Finset.mem_range.2 source.toNat_lt, ?_⟩, back⟩
    rw [selected, back]
    exact (covers_iff inside).2 covers

/-- The loop selects the option that Scheme 1 says, and over all hashes it selects every option in
proportion to its weight. -/
theorem wcmp_selects_by_weight (nonempty : outputOptions ≠ [])
    (positive : ∀ option ∈ outputOptions, 0 < option.weight)
    (small : (weights outputOptions).sum < 2 ^ 32) (known : KnownStage stage) (uplink : Bool) :
    (∀ hashValue, ∃ rotated, hashValueRotation hashValue stage uplink = .ok rotated ∧
      (∃! index, Scheme1 outputOptions rotated index) ∧
      ∀ index, Scheme1 outputOptions rotated index → ∃ inside : index < outputOptions.length,
        selectOption outputOptions hashValue uplink stage = .ok (some index) ∧
        selectOutputPort outputOptions hashValue uplink stage =
          .ok outputOptions[index].portIndex) ∧
    ∀ index, ∀ inside : index < outputOptions.length,
      2 ^ 32 / (weights outputOptions).sum * outputOptions[index].weight.toNat ≤
        timesSelected outputOptions uplink stage index ∧
      timesSelected outputOptions uplink stage index ≤
        (2 ^ 32 ⌈/⌉ (weights outputOptions).sum) * outputOptions[index].weight.toNat := by
  have total := weight_sum_positive nonempty positive
  obtain ⟨turned, bijective, rotation⟩ := rotation_bijective known uplink
  constructor
  · intro hashValue
    refine ⟨turned hashValue, rotation hashValue,
      exists_unique_covers (Nat.mod_lt _ total), fun index covers => ?_⟩
    have inside : index < outputOptions.length := by simpa [weights] using covers.inside
    have found : selectOption outputOptions hashValue uplink stage = .ok (some index) := by
      rw [select_option_eq total small (rotation hashValue), locate_eq_some_iff.2 covers]
    exact ⟨inside, found, select_output_port_eq found inside⟩
  · intro index inside
    have known : index < (weights outputOptions).length := by simpa [weights] using inside
    have next := prefix_sum_succ known
    have own : (weights outputOptions)[index] = outputOptions[index].weight.toNat := by
      simp [weights]
    have fits := prefix_sum_le (weights outputOptions) (index + 1)
    rw [next, own] at fits
    rw [times_selected_eq bijective rotation total small inside]
    exact card_interval (2 ^ 32) fits

/-- The options of the source's example. -/
def exampleOptions : List OutputInfo := [⟨2, 1⟩, ⟨1, 2⟩, ⟨4, 3⟩, ⟨3, 4⟩]

/-- Every third hash of ten goes to the last option, and the one with remainder 4 to the third. -/
theorem wcmp_selects_by_weight_example :
    selectOutputPort exampleOptions 4 true 1 = .ok 3 ∧
      429496729 * 3 ≤ timesSelected exampleOptions true 1 3 ∧
      timesSelected exampleOptions true 1 3 ≤ 429496730 * 3 := by
  obtain ⟨selects, shares⟩ := @wcmp_selects_by_weight exampleOptions 1 (by decide) (by decide)
    (by decide) (.inl rfl) true
  obtain ⟨rotated, rotation, -, selected⟩ := selects 4
  cases rotation
  obtain ⟨_, _, port⟩ := selected 2 ⟨by decide, by decide, by decide⟩
  exact ⟨port, shares 3 (by decide)⟩

end Isekai.PortSelection
