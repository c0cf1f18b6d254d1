import Isekai.FalconResourceCredits
import Isekai.Runs
import Mathlib.Algebra.Order.BigOperators.Group.List

/-! Oversubscribed credits over a run of reservations and releases. The two ULP pools of a kind lend
to each other, the others are counters. The pools are sound as long as no release brings the ULP
requests above their limit, which the code only looks at while the ULP data pool is empty. -/

namespace Isekai.ResourceCredits
open LendingPools

variable {resource : Resource}

/-! ## Machine integers -/

theorem toInt_add_of (one other : Int32) (lower : -2 ^ 31 ≤ one.toInt + other.toInt)
    (upper : one.toInt + other.toInt < 2 ^ 31) :
    (one + other).toInt = one.toInt + other.toInt := by
  rw [Int32.toInt_add]
  apply Int.bmod_eq_of_le <;> omega

theorem toInt_sub_of (one other : Int32) (lower : -2 ^ 31 ≤ one.toInt - other.toInt)
    (upper : one.toInt - other.toInt < 2 ^ 31) :
    (one - other).toInt = one.toInt - other.toInt := by
  rw [Int32.toInt_sub]
  apply Int.bmod_eq_of_le <;> omega

theorem toInt_min (one other : Int32) : (min one other).toInt = min one.toInt other.toInt := by
  change (if one ≤ other then one else other).toInt = _
  by_cases less : one ≤ other
  · rw [if_pos less, min_eq_left (Int32.le_iff_toInt_le.1 less)]
  · rw [if_neg less, min_eq_right (le_of_not_ge fun le => less (Int32.le_iff_toInt_le.2 le))]

theorem nonneg_iff {credits : Int32} : 0 ≤ credits ↔ 0 ≤ credits.toInt :=
  Int32.le_iff_toInt_le

theorem eq_zero_iff {credits : Int32} : credits = 0 ↔ credits.toInt = 0 :=
  Int32.toInt_inj.symm

/-! ## The ULP pools of a kind -/

/-- ULP requests lend to ULP data. -/
def TxCredits.pools (credits : TxCredits) : Pools :=
  ⟨credits.ulpRequests.toInt, credits.ulpData.toInt, credits.maxUlpRequests.toInt⟩

/-- What a reservation takes from them. -/
def TxCredits.share (credits : TxCredits) : Share :=
  ⟨credits.ulpRequests.toInt, credits.ulpData.toInt⟩

theorem pools_ext {one other : Pools} (lender : one.lender = other.lender)
    (borrower : one.borrower = other.borrower) (limit : one.limit = other.limit) :
    one = other := by
  cases one
  cases other
  simp_all

variable {credits request : TxCredits}

theorem pools_sub (nonneg : request.share.Nonneg) (borrower : 0 ≤ credits.pools.borrower)
    (covers : credits.pools.Covers request.share) :
    (credits.sub true request).pools = credits.pools.take request.share := by
  obtain ⟨first, second⟩ := nonneg
  obtain ⟨enough, both⟩ := covers_iff.1 covers
  dsimp only [TxCredits.pools, TxCredits.share] at *
  have top := Int32.toInt_lt credits.ulpRequests
  have topData := Int32.toInt_lt credits.ulpData
  have topRequest := Int32.toInt_lt request.ulpData
  have least := toInt_min credits.ulpData request.ulpData
  have rest := toInt_sub_of request.ulpData (min credits.ulpData request.ulpData)
    (by omega) (by omega)
  have own := toInt_sub_of credits.ulpRequests request.ulpRequests (by omega) (by omega)
  have data := toInt_sub_of credits.ulpData (min credits.ulpData request.ulpData)
    (by omega) (by omega)
  have left := toInt_sub_of (credits.ulpRequests - request.ulpRequests)
    (request.ulpData - min credits.ulpData request.ulpData) (by omega) (by omega)
  apply pools_ext
  · simp only [TxCredits.sub, Pools.take, if_true]
    omega
  · simp only [TxCredits.sub, Pools.take, if_true]
    omega
  · rfl

/-- What is given back was taken before, so that the sums stay within the type. -/
theorem pools_add (nonneg : request.share.Nonneg) (lender : 0 ≤ credits.pools.lender)
    (borrower : 0 ≤ credits.pools.borrower) (limit : 0 ≤ credits.pools.limit)
    (bounded : credits.pools.lender + credits.pools.borrower +
      (request.share.lender + request.share.borrower) < 2 ^ 31) :
    (credits.add true request).pools = credits.pools.give request.share := by
  obtain ⟨first, second⟩ := nonneg
  dsimp only [TxCredits.pools, TxCredits.share] at *
  have top := Int32.toInt_lt credits.maxUlpRequests
  have own := toInt_add_of credits.ulpRequests request.ulpRequests (by omega) (by omega)
  by_cases empty : credits.ulpData = 0
  · have none := eq_zero_iff.1 empty
    have room := toInt_sub_of credits.maxUlpRequests (credits.ulpRequests + request.ulpRequests)
      (by omega) (by omega)
    have least := toInt_min request.ulpData
      (credits.maxUlpRequests - (credits.ulpRequests + request.ulpRequests))
    have back := toInt_add_of (credits.ulpRequests + request.ulpRequests) (min request.ulpData
      (credits.maxUlpRequests - (credits.ulpRequests + request.ulpRequests))) (by omega) (by omega)
    have rest := toInt_sub_of request.ulpData (min request.ulpData
      (credits.maxUlpRequests - (credits.ulpRequests + request.ulpRequests))) (by omega) (by omega)
    have data := toInt_add_of credits.ulpData (request.ulpData - min request.ulpData
      (credits.maxUlpRequests - (credits.ulpRequests + request.ulpRequests))) (by omega) (by omega)
    apply pools_ext
    · simp only [TxCredits.add, Pools.give, if_true, if_pos empty, if_pos none]
      omega
    · simp only [TxCredits.add, Pools.give, if_true, if_pos empty, if_pos none]
      omega
    · simp only [TxCredits.add, Pools.give, if_true, if_pos empty, if_pos none]
  · have some := fun none => empty (eq_zero_iff.2 none)
    have data := toInt_add_of credits.ulpData request.ulpData (by omega) (by omega)
    apply pools_ext <;> simp only [TxCredits.add, Pools.give, if_true, if_neg empty, if_neg some]
    · exact own
    · exact data

/-- The comparison asks whether the ULP pools cover the request. -/
theorem within_iff (request credits : TxCredits) (nonneg : 0 ≤ request.share.lender)
    (level : 0 ≤ credits.pools.lender ∧ 0 ≤ credits.pools.borrower)
    (sum : request.ulpData.toInt + request.ulpRequests.toInt < 2 ^ 31)
    (bounded : credits.pools.lender + credits.pools.borrower < 2 ^ 31)
    (positive : 0 ≤ request.share.borrower) :
    request.Within true credits ↔ credits.pools.Covers request.share ∧
      request.networkRequests ≤ credits.networkRequests := by
  obtain ⟨lender, borrower⟩ := level
  unfold TxCredits.Within
  rw [covers_iff]
  dsimp only [TxCredits.pools, TxCredits.share] at *
  have asked := toInt_add_of request.ulpData request.ulpRequests (by omega) sum
  have left := toInt_add_of credits.ulpData credits.ulpRequests (by omega) (by omega)
  simp only [if_true, Int32.le_iff_toInt_le, asked, left]
  tauto

/-! ## What is reserved -/

/-- What the reservations took of a pool. -/
def taken (resource : Resource) (reservations : List FalconResourceCredits) : ℤ :=
  (reservations.map fun request => (request.of resource).toInt).sum

/-- What the reservations took of the ULP pools of a kind. -/
def takenShare (kind : Kind) (reservations : List FalconResourceCredits) : Share :=
  ⟨taken (.txUlpRequests kind) reservations, taken (.txUlpData kind) reservations⟩

section Taken

variable {reservations : List FalconResourceCredits} {request : FalconResourceCredits}

theorem taken_cons (resource : Resource) : taken resource (request :: reservations) =
    taken resource reservations + (request.of resource).toInt := by
  simp [taken, add_comm]

theorem taken_erase (resource : Resource) (held : request ∈ reservations) :
    taken resource (reservations.erase request) =
      taken resource reservations - (request.of resource).toInt := by
  have sum := List.sum_map_erase (fun request => (request.of resource).toInt) held
  unfold taken
  omega

theorem taken_nonneg (resource : Resource) (ranges : ∀ request ∈ reservations, InRange request) :
    0 ≤ taken resource reservations := by
  apply List.sum_nonneg
  intro amount member
  obtain ⟨request, held, rfl⟩ := List.mem_map.1 member
  exact nonneg_iff.1 ((ranges request held).nonneg resource)

theorem le_taken (resource : Resource) (ranges : ∀ request ∈ reservations, InRange request)
    (held : request ∈ reservations) :
    (request.of resource).toInt ≤ taken resource reservations := by
  have others : 0 ≤ taken resource (reservations.erase request) :=
    taken_nonneg resource fun other member => ranges other (List.mem_of_mem_erase member)
  rw [taken_erase resource held] at others
  omega

end Taken

/-! ## The pools of a ledger -/

/-- The pools that do not lend. -/
def Resource.Plain : Resource → Prop
  | .txUlpRequests _ | .txUlpData _ => False
  | .txNetworkRequests _ | .rxUlpRequests _ | .rxNetworkRequests _ => True

theorem of_add (plain : resource.Plain) (credits request : FalconResourceCredits) :
    (credits + request).of resource = credits.of resource + request.of resource := by
  cases resource with
  | txUlpRequests kind => exact plain.elim
  | txUlpData kind => exact plain.elim
  | txNetworkRequests kind =>
    simp only [FalconResourceCredits.of, tx_add, TxCredits.add]
    split_ifs <;> rfl
  | rxUlpRequests kind => simp only [FalconResourceCredits.of, rx_add, RxCredits.add]
  | rxNetworkRequests kind => simp only [FalconResourceCredits.of, rx_add, RxCredits.add]

theorem of_sub (plain : resource.Plain) (credits request : FalconResourceCredits) :
    (credits - request).of resource = credits.of resource - request.of resource := by
  cases resource with
  | txUlpRequests kind => exact plain.elim
  | txUlpData kind => exact plain.elim
  | txNetworkRequests kind =>
    simp only [FalconResourceCredits.of, tx_sub, TxCredits.sub]
    split_ifs <;> rfl
  | rxUlpRequests kind => simp only [FalconResourceCredits.of, rx_sub, RxCredits.sub]
  | rxNetworkRequests kind => simp only [FalconResourceCredits.of, rx_sub, RxCredits.sub]

/-- The credits of a plain pool and its reservations are what it was configured with; the ULP pools
are balanced. -/
structure Accounted (config : ResourceCreditsConfig) (ledger : Ledger) : Prop where
  ranges : ∀ request ∈ ledger.reservations, InRange request
  enabled : ledger.globalCredits.enableUlpPoolOversubscription = true
  limit : ∀ kind, (ledger.globalCredits.tx kind).pools.limit =
    ((create config).tx kind).pools.lender
  balanced : ∀ kind, Balanced ((create config).tx kind).pools.borrower
    (ledger.globalCredits.tx kind).pools (takenShare kind ledger.reservations)
  total : ∀ resource, resource.Plain → (ledger.globalCredits.of resource).toInt +
    taken resource ledger.reservations = ((create config).of resource).toInt
  nonneg : ∀ resource, resource.Plain → 0 ≤ (ledger.globalCredits.of resource).toInt

variable {config : ResourceCreditsConfig} {ledger : Ledger} {asked : FalconResourceCredits}

/-- Whether the pools can cover a request: the ULP pools by lending, each other pool by itself. -/
def Covered (credits request : FalconResourceCredits) : Prop :=
  (∀ kind, (credits.tx kind).pools.Covers (request.tx kind).share) ∧
    ∀ resource, resource.Plain → request.of resource ≤ credits.of resource

theorem share_nonneg (range : InRange asked) (kind : Kind) : (asked.tx kind).share.Nonneg :=
  ⟨nonneg_iff.1 (range.nonneg (.txUlpRequests kind)), nonneg_iff.1 (range.nonneg (.txUlpData kind))⟩

/-- The request is accepted exactly if the pools cover it. -/
theorem accepted_iff (credits : FalconResourceCredits)
    (enabled : credits.enableUlpPoolOversubscription = true)
    (level : ∀ kind, 0 ≤ (credits.tx kind).pools.lender ∧ 0 ≤ (credits.tx kind).pools.borrower)
    (bounded : ∀ kind, (credits.tx kind).pools.lender + (credits.tx kind).pools.borrower < 2 ^ 31)
    (range : InRange asked) : asked ≤ credits ↔ Covered credits asked := by
  have beyond : oversubscribed asked credits = true := by simp [oversubscribed, enabled]
  have each := fun kind => within_iff (asked.tx kind) (credits.tx kind) (share_nonneg range kind).1
    (level kind) (range.sum kind) (bounded kind) (share_nonneg range kind).2
  rw [le_iff, beyond]
  constructor
  · intro within
    refine ⟨fun kind => ((each kind).1 (within kind).1).1, fun resource plain => ?_⟩
    cases resource with
    | txUlpRequests kind => exact plain.elim
    | txUlpData kind => exact plain.elim
    | txNetworkRequests kind => exact ((each kind).1 (within kind).1).2
    | rxUlpRequests kind => exact (within kind).2.1
    | rxNetworkRequests kind => exact (within kind).2.2
  · rintro ⟨covers, plain⟩ kind
    exact ⟨(each kind).2 ⟨covers kind, plain (.txNetworkRequests kind) trivial⟩,
      plain (.rxUlpRequests kind) trivial, plain (.rxNetworkRequests kind) trivial⟩

/-! ## Steps -/

/-- What the configuration gives a kind for ULP requests and ULP data fits the counters. -/
theorem config_bound (configured : InRange (create config)) (kind : Kind) :
    0 ≤ ((create config).tx kind).pools.lender ∧ 0 ≤ ((create config).tx kind).pools.borrower ∧
      ((create config).tx kind).pools.lender + ((create config).tx kind).pools.borrower <
        2 ^ 31 := by
  have sum := configured.sum kind
  obtain ⟨lender, borrower⟩ := share_nonneg configured kind
  dsimp only [TxCredits.pools, TxCredits.share] at *
  omega

theorem taken_share_nonneg (ranges : ∀ request ∈ ledger.reservations, InRange request)
    (kind : Kind) : (takenShare kind ledger.reservations).Nonneg :=
  ⟨taken_nonneg _ ranges, taken_nonneg _ ranges⟩

/-- What is left of the ULP pools fits the counters. -/
theorem Accounted.bounded (accounted : Accounted config ledger)
    (configured : InRange (create config)) (kind : Kind) :
    (ledger.globalCredits.tx kind).pools.lender + (ledger.globalCredits.tx kind).pools.borrower +
      ((takenShare kind ledger.reservations).lender +
        (takenShare kind ledger.reservations).borrower) < 2 ^ 31 := by
  have total := (accounted.balanced kind).total
  have limit := accounted.limit kind
  have bound := config_bound configured kind
  omega

theorem new_ledger_accounted (enabled : config.enableUlpPoolOversubscription = some true)
    (configured : InRange (create config)) : Accounted config (newLedger config) where
  ranges := by
    intro request held
    cases held
  enabled := by simp [newLedger, create, enabled]
  limit := by
    intro kind
    cases kind <;> rfl
  balanced := by
    intro kind
    have bound := config_bound configured kind
    have limit : ((create config).tx kind).pools.limit =
        ((create config).tx kind).pools.lender := by
      cases kind <;> rfl
    constructor <;> simp only [newLedger, takenShare, taken, List.map_nil, List.sum_nil, limit] <;>
      omega
  total := by
    intro resource plain
    simp [newLedger, taken]
  nonneg := fun resource plain => nonneg_iff.1 (configured.nonneg resource)

theorem Accounted.accepted_iff (accounted : Accounted config ledger)
    (configured : InRange (create config)) (range : InRange asked) :
    asked ≤ ledger.globalCredits ↔ Covered ledger.globalCredits asked := by
  apply ResourceCredits.accepted_iff _ accounted.enabled _ _ range
  · intro kind
    exact ⟨(accounted.balanced kind).lender, (accounted.balanced kind).borrower⟩
  · intro kind
    have bounded := accounted.bounded configured kind
    obtain ⟨lender, borrower⟩ := taken_share_nonneg accounted.ranges kind
    omega

/-- A plain pool of the ledger after a reservation. -/
theorem plain_reserved (accounted : Accounted config ledger) (range : InRange asked)
    (covered : Covered ledger.globalCredits asked) (plain : resource.Plain) :
    ((ledger.reserve asked).globalCredits.of resource).toInt =
      (ledger.globalCredits.of resource).toInt - (asked.of resource).toInt := by
  have less := Int32.le_iff_toInt_le.1 (covered.2 resource plain)
  have positive := nonneg_iff.1 (range.nonneg resource)
  have top := Int32.toInt_lt (ledger.globalCredits.of resource)
  have level := accounted.nonneg resource plain
  change ((ledger.globalCredits - asked).of resource).toInt = _
  rw [of_sub plain]
  apply toInt_sub_of <;> omega

theorem reserve_accounted (accounted : Accounted config ledger)
    (configured : InRange (create config)) (range : InRange asked)
    (accepted : asked ≤ ledger.globalCredits) : Accounted config (ledger.reserve asked) := by
  have covered := (accounted.accepted_iff configured range).1 accepted
  have pools : ∀ kind, ((ledger.reserve asked).globalCredits.tx kind).pools =
      (ledger.globalCredits.tx kind).pools.take (asked.tx kind).share := by
    intro kind
    change ((ledger.globalCredits - asked).tx kind).pools = _
    rw [tx_sub, accounted.enabled]
    exact pools_sub (share_nonneg range kind) (accounted.balanced kind).borrower (covered.1 kind)
  constructor
  · intro request held
    rcases List.mem_cons.1 held with rfl | before
    · exact range
    · exact accounted.ranges request before
  · exact accounted.enabled
  · intro kind
    rw [pools kind]
    exact accounted.limit kind
  · intro kind
    have share : takenShare kind (ledger.reserve asked).reservations =
        ⟨(takenShare kind ledger.reservations).lender + (asked.tx kind).share.lender,
          (takenShare kind ledger.reservations).borrower + (asked.tx kind).share.borrower⟩ := by
      simp only [takenShare, Ledger.reserve, taken_cons, FalconResourceCredits.of, TxCredits.share]
    rw [pools kind, share]
    exact take_balanced (accounted.balanced kind) (share_nonneg range kind) (covered.1 kind)
  · intro resource plain
    have total := accounted.total resource plain
    have after := plain_reserved accounted range covered plain
    have sum : taken resource (ledger.reserve asked).reservations =
      taken resource ledger.reservations + (asked.of resource).toInt := taken_cons resource
    omega
  · intro resource plain
    have after := plain_reserved accounted range covered plain
    have less := Int32.le_iff_toInt_le.1 (covered.2 resource plain)
    omega

/-- What a release gives back to the ULP requests of a kind fits below their limit, or ULP data has
no credits left, so that the limit is looked at. -/
def Fits (credits request : FalconResourceCredits) : Prop :=
  ∀ kind, (credits.tx kind).pools.Fits (request.tx kind).share

theorem pools_released (accounted : Accounted config ledger)
    (configured : InRange (create config)) (held : asked ∈ ledger.reservations) (kind : Kind) :
    ((ledger.release asked).globalCredits.tx kind).pools =
      (ledger.globalCredits.tx kind).pools.give (asked.tx kind).share := by
  have bounded := accounted.bounded configured kind
  have limit := accounted.limit kind
  have bound := config_bound configured kind
  have first := le_taken (.txUlpRequests kind) accounted.ranges held
  have second := le_taken (.txUlpData kind) accounted.ranges held
  change ((ledger.globalCredits + asked).tx kind).pools = _
  rw [tx_add, accounted.enabled]
  apply pools_add (share_nonneg (accounted.ranges asked held) kind)
    (accounted.balanced kind).lender (accounted.balanced kind).borrower
  · omega
  · dsimp only [takenShare, TxCredits.share, FalconResourceCredits.of] at *
    omega

theorem plain_released (accounted : Accounted config ledger) (held : asked ∈ ledger.reservations)
    (plain : resource.Plain) :
    ((ledger.release asked).globalCredits.of resource).toInt =
      (ledger.globalCredits.of resource).toInt + (asked.of resource).toInt := by
  have total := accounted.total resource plain
  have part := le_taken resource accounted.ranges held
  have positive := nonneg_iff.1 ((accounted.ranges asked held).nonneg resource)
  have top := Int32.toInt_lt ((create config).of resource)
  have level := accounted.nonneg resource plain
  change ((ledger.globalCredits + asked).of resource).toInt = _
  rw [of_add plain]
  apply toInt_add_of <;> omega

theorem release_accounted (accounted : Accounted config ledger)
    (configured : InRange (create config)) (held : asked ∈ ledger.reservations)
    (fits : Fits ledger.globalCredits asked) : Accounted config (ledger.release asked) := by
  have range := accounted.ranges asked held
  have pools := pools_released accounted configured held
  constructor
  · intro request member
    exact accounted.ranges request (List.mem_of_mem_erase member)
  · exact accounted.enabled
  · intro kind
    rw [pools kind, ← accounted.limit kind]
    unfold Pools.give
    dsimp only
    split_ifs <;> rfl
  · intro kind
    have share : takenShare kind (ledger.release asked).reservations =
        ⟨(takenShare kind ledger.reservations).lender - (asked.tx kind).share.lender,
          (takenShare kind ledger.reservations).borrower - (asked.tx kind).share.borrower⟩ := by
      simp only [takenShare, Ledger.release, taken_erase _ held, FalconResourceCredits.of,
        TxCredits.share]
    rw [pools kind, share]
    exact give_balanced (accounted.balanced kind) (share_nonneg range kind)
      (le_taken (.txUlpRequests kind) accounted.ranges held) (fits kind)
  · intro resource plain
    have total := accounted.total resource plain
    have after := plain_released accounted held plain
    have sum : taken resource (ledger.release asked).reservations =
      taken resource ledger.reservations - (asked.of resource).toInt := taken_erase resource held
    omega
  · intro resource plain
    have after := plain_released accounted held plain
    have level := accounted.nonneg resource plain
    have positive := nonneg_iff.1 (range.nonneg resource)
    omega

/-! ## Soundness -/

/-- With nothing reserved every pool has what it was configured with, no pool leaves its range, and
a request is accepted exactly if the pools cover it. -/
structure Sound (config : ResourceCreditsConfig) (ledger : Ledger) : Prop where
  restored : ledger.reservations = [] → ∀ resource,
    ledger.globalCredits.of resource = (create config).of resource
  within : ∀ resource, 0 ≤ ledger.globalCredits.of resource ∧
    ledger.globalCredits.of resource ≤ (create config).of resource
  accepted : ∀ request, InRange request →
    (request ≤ ledger.globalCredits ↔ Covered ledger.globalCredits request)

theorem Accounted.restored (accounted : Accounted config ledger)
    (configured : InRange (create config)) (nothing : ledger.reservations = [])
    (resource : Resource) : ledger.globalCredits.of resource = (create config).of resource := by
  have none : ∀ resource, taken resource ledger.reservations = 0 := by
    intro resource
    simp [taken, nothing]
  have full : ∀ kind, _ := fun kind => (accounted.balanced kind).full
    (config_bound configured kind).2.1 ⟨none _, none _⟩
  apply Int32.toInt_inj.1
  cases resource with
  | txUlpRequests kind => exact (full kind).1.trans (accounted.limit kind)
  | txUlpData kind => exact (full kind).2
  | txNetworkRequests kind =>
    have total := accounted.total (.txNetworkRequests kind) trivial
    have zero := none (.txNetworkRequests kind)
    omega
  | rxUlpRequests kind =>
    have total := accounted.total (.rxUlpRequests kind) trivial
    have zero := none (.rxUlpRequests kind)
    omega
  | rxNetworkRequests kind =>
    have total := accounted.total (.rxNetworkRequests kind) trivial
    have zero := none (.rxNetworkRequests kind)
    omega

theorem Accounted.plain_within (accounted : Accounted config ledger) (plain : resource.Plain) :
    0 ≤ ledger.globalCredits.of resource ∧
      ledger.globalCredits.of resource ≤ (create config).of resource := by
  have total := accounted.total resource plain
  have some := taken_nonneg resource accounted.ranges
  refine ⟨nonneg_iff.2 (accounted.nonneg resource plain), Int32.le_iff_toInt_le.2 ?_⟩
  omega

theorem Accounted.within (accounted : Accounted config ledger)
    (configured : InRange (create config)) (resource : Resource) :
    0 ≤ ledger.globalCredits.of resource ∧
      ledger.globalCredits.of resource ≤ (create config).of resource := by
  cases resource with
  | txUlpRequests kind =>
    have limit := accounted.limit kind
    refine ⟨nonneg_iff.2 (accounted.balanced kind).lender, Int32.le_iff_toInt_le.2 ?_⟩
    exact (accounted.balanced kind).within.trans_eq limit
  | txUlpData kind =>
    have size := (accounted.balanced kind).borrower_le (taken_share_nonneg accounted.ranges kind)
      (config_bound configured kind).2.1
    exact ⟨nonneg_iff.2 (accounted.balanced kind).borrower, Int32.le_iff_toInt_le.2 size⟩
  | txNetworkRequests kind => exact accounted.plain_within trivial
  | rxUlpRequests kind => exact accounted.plain_within trivial
  | rxNetworkRequests kind => exact accounted.plain_within trivial

theorem Accounted.sound (accounted : Accounted config ledger)
    (configured : InRange (create config)) : Sound config ledger where
  restored := accounted.restored configured
  within := accounted.within configured
  accepted := fun _ range => accounted.accepted_iff configured range

/-- Requests that the pools cover and releases that fit. -/
inductive FittingStep : Ledger → Ledger → Prop
  | reserve (ledger : Ledger) (request : FalconResourceCredits) (amount : InRange request)
      (accepted : request ≤ ledger.globalCredits) : FittingStep ledger (ledger.reserve request)
  | release (ledger : Ledger) (request : FalconResourceCredits)
      (held : request ∈ ledger.reservations) (fits : Fits ledger.globalCredits request) :
      FittingStep ledger (ledger.release request)

theorem reachable_accounted (enabled : config.enableUlpPoolOversubscription = some true)
    (configured : InRange (create config))
    (reached : Runs.Reachable (· = newLedger config) FittingStep ledger) :
    Accounted config ledger := by
  apply Runs.invariant_of_reachable _ _ reached
  · rintro ledger rfl
    exact new_ledger_accounted enabled configured
  · intro ledger next accounted taken
    cases taken with
    | reserve request range accepted => exact reserve_accounted accounted configured range accepted
    | release request held fits => exact release_accounted accounted configured held fits

/-- A release that does not fit brings a pool above its limit. -/
theorem release_sound_iff (accounted : Accounted config ledger)
    (configured : InRange (create config)) (held : asked ∈ ledger.reservations) :
    Sound config (ledger.release asked) ↔ Fits ledger.globalCredits asked := by
  constructor
  · intro sound kind
    by_contra beyond
    have above := give_beyond beyond
    rw [← pools_released accounted configured held kind, accounted.limit kind] at above
    have within := Int32.le_iff_toInt_le.1 (sound.within (.txUlpRequests kind)).2
    exact absurd within (not_le_of_gt above)
  · intro fits
    exact (release_accounted accounted configured held fits).sound configured

theorem nothing_covered {credits : FalconResourceCredits}
    (level : ∀ resource, 0 ≤ credits.of resource) : Covered credits {} := by
  refine ⟨fun kind => ⟨0, le_refl 0, ?_, ?_⟩, fun resource _ => ?_⟩
  · have lender := nonneg_iff.1 (level (.txUlpRequests kind))
    cases kind <;> exact lender
  · have borrower := nonneg_iff.1 (level (.txUlpData kind))
    cases kind <;> exact borrower
  · rcases resource with kind | kind | kind | kind | kind <;> cases kind <;> exact level _

/-- The sum of two counters that is too large for the type. -/
theorem toInt_add_large {one other : Int32} (large : 2 ^ 31 ≤ one.toInt + other.toInt) :
    (one + other).toInt < 0 := by
  have first := Int32.toInt_lt one
  have second := Int32.toInt_lt other
  rw [Int32.toInt_add, Int.bmod_def]
  split_ifs <;> omega

/-- Configured with negative credits, or with credits whose sum the counters do not hold, a new
ledger is not sound: in the latter case the comparison refuses what asks for nothing. -/
theorem new_ledger_sound_iff (enabled : config.enableUlpPoolOversubscription = some true) :
    Sound config (newLedger config) ↔ InRange (create config) := by
  constructor
  · intro sound
    have level : ∀ resource, 0 ≤ (create config).of resource :=
      fun resource => (sound.within resource).1
    refine ⟨level, fun kind => ?_⟩
    by_contra large
    have beyond : oversubscribed {} (create config) = true := by
      simp [oversubscribed, create, enabled]
    have accepted := (sound.accepted {} (by decide)).2 (nothing_covered level)
    have within := (le_iff.1 accepted kind).1.2
    change if oversubscribed {} (create config) then _ else _ at within
    rw [beyond, if_pos rfl, Int32.le_iff_toInt_le] at within
    have negative := toInt_add_large (le_of_not_gt large)
    have zero : ((({} : FalconResourceCredits).tx kind).ulpData +
        (({} : FalconResourceCredits).tx kind).ulpRequests).toInt = 0 := by
      cases kind <;> decide
    rw [zero] at within
    exact absurd within (not_le_of_gt negative)
  · intro configured
    exact (new_ledger_accounted enabled configured).sound configured

/-- A new ledger is sound if its configuration fits the counters; all that happens to it then keeps
it so, apart from a release of ULP requests beyond their limit while ULP data has credits. -/
theorem credits_sound_iff (enabled : config.enableUlpPoolOversubscription = some true) :
    (Sound config (newLedger config) ↔ InRange (create config)) ∧
      (InRange (create config) → ∀ ledger,
        Runs.Reachable (· = newLedger config) FittingStep ledger → Sound config ledger ∧
          ∀ request ∈ ledger.reservations,
            (Sound config (ledger.release request) ↔ Fits ledger.globalCredits request)) := by
  refine ⟨new_ledger_sound_iff enabled, fun configured ledger reached => ?_⟩
  have accounted := reachable_accounted enabled configured reached
  exact ⟨accounted.sound configured, fun request held =>
    release_sound_iff accounted configured held⟩

/-- Ten packets for ULP requests and five for ULP data. -/
def tenAndFive : ResourceCreditsConfig :=
  { txPacketCredits := { ulpRequests := 10, ulpData := 5 }
    enableUlpPoolOversubscription := some true }

/-- Packets for ULP requests. -/
def requestPackets (count : Int32) : FalconResourceCredits :=
  { txPacketCredits := { ulpRequests := count } }

/-- Packets for ULP data. -/
def dataPackets (count : Int32) : FalconResourceCredits :=
  { txPacketCredits := { ulpData := count } }

/-- ULP data has borrowed two packets of ULP requests, which have three more. -/
def borrowed : Ledger := ((newLedger tenAndFive).reserve (requestPackets 3)).reserve (dataPackets 7)

theorem credits_sound_iff_borrowed : Sound tenAndFive (borrowed.release (dataPackets 7)) := by
  have configured : InRange (create tenAndFive) := by decide
  have reached : Runs.Reachable (· = newLedger tenAndFive) FittingStep borrowed := by
    apply Runs.reachable_step _ (.reserve _ (dataPackets 7) (by decide) (by decide))
    apply Runs.reachable_step _ (.reserve _ (requestPackets 3) (by decide) (by decide))
    exact Runs.reachable_initial rfl
  have releases := ((credits_sound_iff rfl).2 configured borrowed reached).2
  apply (releases (dataPackets 7) (by decide)).2
  intro kind
  cases kind <;> exact .inl (by decide)

/-- The data is released while requests are outstanding, and fills up their pool. -/
def filledUp : Ledger :=
  (((newLedger tenAndFive).reserve (requestPackets 3)).reserve (dataPackets 5)).release
    (dataPackets 5)

/-- All is released, and thirteen packets are left for ULP requests and two for ULP data. -/
theorem requests_beyond_limit : InRange (create tenAndFive) ∧ ∃ ledger,
    Runs.Reachable (· = newLedger tenAndFive) Step ledger ∧ ledger.reservations = [] ∧
      ledger.globalCredits.of (.txUlpRequests .packet) = 13 ∧
      ledger.globalCredits.of (.txUlpData .packet) = 2 := by
  refine ⟨by decide, filledUp.release (requestPackets 3), ?_, by decide, by decide, by decide⟩
  apply Runs.reachable_step _ (.release _ (requestPackets 3) (by decide))
  apply Runs.reachable_step _ (.release _ (dataPackets 5) (by decide))
  apply Runs.reachable_step _ (.reserve _ (dataPackets 5) (by decide) (by decide))
  apply Runs.reachable_step _ (.reserve _ (requestPackets 3) (by decide) (by decide))
  exact Runs.reachable_initial rfl

end Isekai.ResourceCredits
