import Isekai.CreditProofs
import Isekai.MapContents
import Mathlib.Algebra.BigOperators.Group.Multiset.Basic

/-! As long as every transaction that is sent is matched, the usage of each queue pair and the global
credits are off their initial values by what the transactions that are held were charged. -/

namespace Isekai.CreditRunProofs
open RdmaFalcon CreditState CreditProofs MapContents
open FalconCredit (Pool)

variable {qpId : Nat} {type : PacketType}

/-! ## Transactions that will give back what they were charged -/

/-- A transaction under its key: what it still has to give back is what it was charged. -/
def Sound (config : SizeConfig) (key : HeldKey) (transaction : HeldTransaction) : Prop :=
  transaction.qpId = key.1 ∧
  match key.2.location, transaction.type with
  | .initiator, .pull => ∃ request, transaction.packets .pullRequest = some request ∧
      (∀ data, transaction.packets .pullData = some data →
        data = networkPacket (pulledLength transaction.sgl)) ∧
      transaction.charged =
        { requestTxPacket := 1
          requestTxBuffer := calculateFalconTxBufferCredits request.dataLength request.sglLength
            config.txBufferMinimumAllocationUnit
          requestRxPacket := 1
          requestRxBuffer := calculateFalconRxBufferCredits
            (pulledLength transaction.sgl).toUInt32 config.rxBufferMinimumAllocationUnit }
  | .initiator, .pushSolicited => transaction.packets .pullData = none ∧
      ∃ packet, transaction.packets .pushSolicitedData = some (ulpPacket packet) ∧
        transaction.charged = pushCredit config (ulpPacket packet)
  | .initiator, .pushUnsolicited => transaction.packets .pullData = none ∧
      ∃ packet, transaction.packets .pushUnsolicitedData = some (ulpPacket packet) ∧
        transaction.charged = pushCredit config (ulpPacket packet)
  | .target, .pull =>
      (transaction.packets .pullData = none ∧ transaction.charged = 0) ∨
      ∃ packet, transaction.packets .pullData = some (ulpPacket packet) ∧
        transaction.charged =
          { responseTxPacket := 1
            responseTxBuffer := calculateFalconTxBufferCredits packet.dataLength packet.sglLength
              config.txBufferMinimumAllocationUnit }
  | .target, _ => False

section Releases
variable {config : SizeConfig} {key : HeldKey} {transaction : HeldTransaction} {packets : Packets}
  {type : PacketType} {credit : FalconCredit}

theorem release_cases (firstPhase : config.resourceReservationMode = .firstPhaseReservation)
    (released : releaseResources config transaction.packets type = .ok (packets, credit)) :
    ∃ packet, transaction.packets type = some packet ∧
      (releasedCredits config transaction.packets type packet).map Prod.snd = .ok credit ∧
      packets =
        Function.update transaction.packets type (some { packet with resourcesReserved := false }) := by
  simp only [releaseResources, firstPhase, reduceCtorEq, if_false] at released
  cases there : transaction.packets type with
  | none => simp [there] at released
  | some packet =>
    simp only [there] at released
    split_ifs at released
    obtain ⟨pair, computed, done⟩ := map_eq_ok.1 released
    cases done
    exact ⟨packet, rfl, by rw [computed]; rfl, rfl⟩

/-- Data of a pull that is released gives back what was charged. -/
theorem pull_data_released (firstPhase : config.resourceReservationMode = .firstPhaseReservation)
    (sound : Sound config key transaction)
    (released : releaseResources config transaction.packets .pullData = .ok (packets, credit)) :
    credit = transaction.charged := by
  obtain ⟨packet, there, computed, -⟩ := release_cases firstPhase released
  obtain ⟨-, shape⟩ := sound
  split at shape
  · obtain ⟨request, requested, arrived, charged⟩ := shape
    rw [arrived packet there, pull_data_credits _ rfl requested] at computed
    rw [charged, ← Except.ok.inj computed]
    rfl
  · rw [shape.1] at there
    cases there
  · rw [shape.1] at there
    cases there
  · obtain ⟨vacant, -⟩ | ⟨sent, held, charged⟩ := shape
    · rw [vacant] at there
      cases there
    · rw [held, Option.some.injEq] at there
      rw [← there, response_credits rfl] at computed
      rw [charged, ← Except.ok.inj computed]
      rfl
  · exact shape.elim

/-- The completion of a solicited push gives back what was charged. -/
theorem solicited_released (firstPhase : config.resourceReservationMode = .firstPhaseReservation)
    (sound : Sound config key transaction) (initiator : key.2.location = .initiator)
    (solicited : transaction.type = .pushSolicited)
    (released :
      releaseResources config transaction.packets .pushSolicitedData = .ok (packets, credit)) :
    credit = transaction.charged := by
  obtain ⟨packet, there, computed, -⟩ := release_cases firstPhase released
  obtain ⟨-, shape⟩ := sound
  rw [initiator, solicited] at shape
  obtain ⟨-, sent, held, charged⟩ := shape
  rw [held, Option.some.injEq] at there
  rw [← there, solicited_credits firstPhase rfl] at computed
  rw [charged, ← Except.ok.inj computed]

/-- The completion of an unsolicited push gives back what was charged. -/
theorem unsolicited_released (firstPhase : config.resourceReservationMode = .firstPhaseReservation)
    (sound : Sound config key transaction) (initiator : key.2.location = .initiator)
    (unsolicited : transaction.type = .pushUnsolicited)
    (released :
      releaseResources config transaction.packets .pushUnsolicitedData = .ok (packets, credit)) :
    credit = transaction.charged := by
  obtain ⟨packet, there, computed, -⟩ := release_cases firstPhase released
  obtain ⟨-, shape⟩ := sound
  rw [initiator, unsolicited] at shape
  obtain ⟨-, sent, held, charged⟩ := shape
  rw [held, Option.some.injEq] at there
  rw [← there, unsolicited_credits rfl] at computed
  rw [charged, ← Except.ok.inj computed]

/-- What makes a transaction sound is not touched by other packets. -/
theorem sound_of_packets (sound : Sound config key transaction)
    (requests : key.2.location = .initiator → ∀ request,
      transaction.packets .pullRequest = some request → ∃ next,
        packets .pullRequest = some next ∧ next.dataLength = request.dataLength ∧
          next.sglLength = request.sglLength)
    (pulled : packets .pullData = transaction.packets .pullData)
    (solicited : packets .pushSolicitedData = transaction.packets .pushSolicitedData)
    (unsolicited : packets .pushUnsolicitedData = transaction.packets .pushUnsolicitedData) :
    Sound config key { transaction with packets := packets } := by
  refine ⟨sound.1, ?_⟩
  have shape := sound.2
  cases location : key.2.location <;> cases kind : transaction.type <;>
    rw [location, kind] at shape <;> dsimp only <;> dsimp only at shape
  · obtain ⟨request, held, arrived, charged⟩ := shape
    obtain ⟨next, there, data, sgl⟩ := requests location request held
    exact ⟨next, there, by rwa [pulled], by rw [data, sgl, charged]⟩
  · rwa [pulled, solicited]
  · rwa [pulled, unsolicited]
  · rwa [pulled]

/-- A request that is released gives nothing back, and leaves the transaction as sound. -/
theorem request_released (firstPhase : config.resourceReservationMode = .firstPhaseReservation)
    (sound : Sound config key transaction) (request : type = .pullRequest ∨ type = .pushRequest)
    (released : releaseResources config transaction.packets type = .ok (packets, credit)) :
    credit = 0 ∧ Sound config key { transaction with packets := packets } := by
  obtain ⟨packet, there, computed, rfl⟩ := release_cases firstPhase released
  rw [request_credits request] at computed
  have others : ∀ {other : PacketType}, other ≠ type →
      Function.update transaction.packets type (some { packet with resourcesReserved := false })
        other = transaction.packets other := fun different => Function.update_of_ne different _ _
  refine ⟨(Except.ok.inj computed).symm, sound_of_packets sound (fun _ asked held => ?_) ?_ ?_ ?_⟩
  · rcases request with rfl | rfl
    · rw [there, Option.some.injEq] at held
      subst held
      exact ⟨_, Function.update_self .., rfl, rfl⟩
    · exact ⟨asked, (others (by decide)).trans held, rfl, rfl⟩
  all_goals
    apply others
    rcases request with rfl | rfl <;> decide

/-- A transaction that the work scheduler starts is sound if it holds what it was charged. -/
theorem request_sound {rsn : UInt32} {packet : Packet} :
    Sound config (qpId, ⟨rsn, .initiator⟩)
      (requestTransaction config qpId packet (heldCredit config packet)) := by
  unfold requestTransaction
  split_ifs with read
  · exact ⟨rfl, ulpPacket packet, by simp, by simp, by simp [heldCredit, read, ulpPacket]⟩
  · exact ⟨rfl, by simp, packet, by simp, by simp [heldCredit, read, pushCredit, ulpPacket]⟩
  · exact ⟨rfl, by simp, packet, by simp, by simp [heldCredit, read, pushCredit, ulpPacket]⟩

end Releases

/-! ## The books -/

/-- What a transaction that may be held was charged in a pool of a queue pair. -/
def weight (qpId : Nat) (pool : Pool) (transaction : HeldTransaction) : Nat :=
  if transaction.qpId = qpId then (transaction.charged.of pool).toNat else 0

/-- The usage of every queue pair and the global credits are off their initial values by what the
held transactions were charged. -/
def Booked (first state : CreditState) (held : Multiset HeldTransaction) : Prop :=
  (∀ qpId pool, ((state.creditUsage qpId).of pool).toNat =
    ((first.creditUsage qpId).of pool).toNat + (held.map (weight qpId pool)).sum) ∧
  state.remainingGlobalCredits + (held.map HeldTransaction.charged).sum =
    first.remainingGlobalCredits

/-- Every held transaction is sound, and the books are right. -/
structure Balanced (config : SizeConfig) (first state : CreditState) : Prop where
  sound : ∀ key transaction, state.transactions key = some transaction →
    Sound config key transaction
  booked : ∃ held, Contains state.transactions held ∧ Booked first state held

/-- What an entry that may be there adds to a sum. -/
def entryOf {M : Type} [Zero M] (amount : HeldTransaction → M) (entry : Option HeldTransaction) : M :=
  (entry.map amount).getD 0

theorem sum_entry {M : Type} [AddCommMonoid M] (amount : HeldTransaction → M)
    (entry : Option HeldTransaction) (rest : Multiset HeldTransaction) :
    ((↑entry.toList + rest).map amount).sum = entryOf amount entry + (rest.map amount).sum := by
  cases entry <;> simp [entryOf]

section Moves
variable {config : SizeConfig} {first state next : CreditState} {key : HeldKey}
  {transaction : HeldTransaction}

/-- When an entry is written, the usage and the global credits have to move by the difference of what
was charged. -/
theorem balanced_move (balanced : Balanced config first state) (entry : Option HeldTransaction)
    (written : next.transactions = Function.update state.transactions key entry)
    (sound : ∀ transaction, entry = some transaction → Sound config key transaction)
    (usage : ∀ qpId pool, ((next.creditUsage qpId).of pool).toNat +
        entryOf (weight qpId pool) (state.transactions key) =
      ((state.creditUsage qpId).of pool).toNat + entryOf (weight qpId pool) entry)
    (pool : next.remainingGlobalCredits + entryOf HeldTransaction.charged entry =
      state.remainingGlobalCredits + entryOf HeldTransaction.charged (state.transactions key)) :
    Balanced config first next := by
  classical
  obtain ⟨held, contains, used, globally⟩ := balanced.booked
  obtain ⟨rest, rfl, after⟩ := contains_update contains key entry
  refine ⟨fun other transaction found => ?_, _, written ▸ after, fun qpId counter => ?_, ?_⟩
  · rw [written] at found
    by_cases same : other = key
    · subst same
      rw [Function.update_self] at found
      exact sound transaction found
    · rw [Function.update_of_ne same] at found
      exact balanced.sound other transaction found
  · have before := used qpId counter
    have moved := usage qpId counter
    rw [sum_entry] at before ⊢
    omega
  · rw [sum_entry] at globally ⊢
    rw [← add_assoc, pool, add_assoc, globally]

/-- What a transaction was charged is within the usage of its queue pair. -/
theorem charged_le_usage (balanced : Balanced config first state)
    (found : state.transactions key = some transaction) :
    transaction.charged ≤ state.creditUsage transaction.qpId := by
  classical
  obtain ⟨held, contains, used, -⟩ := balanced.booked
  obtain ⟨rest, rfl, -⟩ := contains_update contains key none
  rw [FalconCredit.le_iff]
  intro pool
  have total := used transaction.qpId pool
  rw [sum_entry, found] at total
  simp only [entryOf, weight, Option.map_some, Option.getD_some, if_true] at total
  omega

/-- An operation keeps the books, and does not fail because a credit is above the usage. -/
def Safe (config : SizeConfig) (first : CreditState) (result : Except Fault CreditState) : Prop :=
  result ≠ .error .creditAboveUsage ∧ ∀ next, result = .ok next → Balanced config first next

theorem safe_ok (balanced : Balanced config first next) : Safe config first (.ok next) :=
  ⟨by simp, fun _ same => by cases same; exact balanced⟩

theorem safe_bind {A : Type} {start : Except Fault A} {rest : A → Except Fault CreditState}
    (harmless : start ≠ .error .creditAboveUsage)
    (each : ∀ value, start = .ok value → Safe config first (rest value)) :
    Safe config first (start >>= rest) := by
  cases start with
  | error fault =>
    exact ⟨fun same => harmless (congrArg Except.error (Except.error.inj same)),
      fun _ impossible => by cases impossible⟩
  | ok value => exact each value rfl

theorem find_harmless : state.find key ≠ .error .creditAboveUsage := by
  unfold CreditState.find
  cases state.transactions key <;> simp

theorem find_eq_ok : state.find key = .ok transaction ↔
    state.transactions key = some transaction := by
  unfold CreditState.find
  cases state.transactions key <;> simp

theorem release_harmless {packets : Packets} :
    releaseResources config packets type ≠ .error .creditAboveUsage := by
  unfold releaseResources
  split_ifs
  · simp
  · cases packets type with
    | none => simp
    | some packet =>
      dsimp only
      split_ifs
      · simp
      · unfold releasedCredits
        split <;> try simp [Except.map]
        cases packets .pullRequest <;> simp

/-! ### Releases -/

/-- The last release of a transaction returns what it was charged, and erases it. -/
theorem release_erases (balanced : Balanced config first state)
    (returns : ∀ transaction packets credit, state.transactions key = some transaction →
      releaseResources config transaction.packets type = .ok (packets, credit) →
      credit = transaction.charged) : Safe config first (state.release config key type true) := by
  refine safe_bind find_harmless fun transaction found => ?_
  rw [find_eq_ok] at found
  refine safe_bind release_harmless fun ⟨packets, credit⟩ released => ?_
  obtain rfl := returns transaction packets credit found released
  have within := charged_le_usage balanced found
  simp only [returnRdmaManaged, returnFalconCredit, if_pos within, if_true]
  by_cases initialized : transaction.charged.isInitialized = true
  · rw [if_pos initialized]
    refine safe_ok (balanced_move balanced none rfl (by simp) (fun qpId pool => ?_) ?_)
    · rw [found]
      simp only [put, entryOf, weight, Option.map_some, Option.map_none, Option.getD_some,
        Option.getD_none, Function.update_apply]
      by_cases same : qpId = transaction.qpId
      · subst same
        have bound := (FalconCredit.le_iff _ _).1 within pool
        rw [if_pos rfl, if_pos rfl, FalconCredit.of_sub,
          UInt32.toNat_sub_of_le _ _ (UInt32.le_iff_toNat_le.2 bound)]
        omega
      · rw [if_neg same, if_neg fun equal => same equal.symm]
    · simp [put, entryOf, found]
  · have nothing : transaction.charged = 0 := by simpa [FalconCredit.isInitialized] using initialized
    rw [if_neg initialized]
    refine safe_ok (balanced_move balanced none rfl (by simp) (fun qpId pool => ?_) ?_)
    · simp [put, entryOf, weight, found, nothing]
    · simp [put, entryOf, found, nothing]

/-- A request that is released leaves the books as they are. -/
theorem release_keeps (firstPhase : config.resourceReservationMode = .firstPhaseReservation)
    (balanced : Balanced config first state) (request : type = .pullRequest ∨ type = .pushRequest) :
    Safe config first (state.release config key type false) := by
  refine safe_bind find_harmless fun transaction found => ?_
  rw [find_eq_ok] at found
  refine safe_bind release_harmless fun ⟨packets, credit⟩ released => ?_
  obtain ⟨rfl, sound⟩ :=
    request_released firstPhase (balanced.sound key transaction found) request released
  refine safe_ok (balanced_move balanced (some { transaction with packets := packets }) rfl ?_
    (fun qpId pool => ?_) ?_)
  · rintro _ ⟨⟩
    exact sound
  · rw [found]
    rfl
  · rw [found]
    rfl

/-- A transaction is replaced by one that was charged as much. -/
theorem put_keeps (balanced : Balanced config first state) {entry : HeldTransaction}
    (sound : Sound config key entry)
    (same : entryOf HeldTransaction.charged (state.transactions key) = entry.charged)
    (vacant : state.transactions key = none → entry.charged = 0) :
    Balanced config first (state.put key (some entry)) := by
  refine balanced_move balanced (some entry) rfl ?_ (fun qpId pool => ?_) ?_
  · rintro _ ⟨⟩
    exact sound
  · cases found : state.transactions key with
    | none => simp [put, entryOf, weight, vacant found]
    | some transaction =>
      have owner := (balanced.sound key transaction found).1.trans sound.1.symm
      rw [found] at same
      simp only [entryOf, Option.map_some, Option.getD_some] at same
      simp [put, entryOf, weight, owner, same]
  · rw [same]
    rfl

/-! ### Charges -/

/-- No counter of the queue pair wraps when the credit is charged to it. -/
def Fits (state : CreditState) (qpId : Nat) (credit : FalconCredit) : Prop :=
  ∀ pool, ((state.creditUsage qpId).of pool).toNat + (credit.of pool).toNat < 2 ^ 32

/-- The work scheduler charges the transaction that it writes over one that was charged nothing. -/
theorem charge_keeps (balanced : Balanced config first state) (entry : HeldTransaction)
    (owner : entry.qpId = qpId) (sound : Sound config key entry)
    (fits : Fits state qpId entry.charged)
    (free : ∀ old, state.transactions key = some old → old.charged = 0) :
    Balanced config first ((state.charge qpId entry.charged).put key (some entry)) := by
  have nothing : entryOf HeldTransaction.charged (state.transactions key) = 0 := by
    cases found : state.transactions key with
    | none => rfl
    | some old => exact free old found
  refine balanced_move balanced (some entry) rfl ?_ (fun other pool => ?_) ?_
  · rintro _ ⟨⟩
    exact sound
  · have weightless : entryOf (weight other pool) (state.transactions key) = 0 := by
      cases found : state.transactions key with
      | none => rfl
      | some old => simp [entryOf, weight, free old found]
    have bound := fits pool
    rw [weightless]
    simp only [put, charge, entryOf, weight, owner, Option.map_some, Option.getD_some,
      Function.update_apply, eq_comm (a := qpId)]
    by_cases same : other = qpId
    · subst same
      rw [if_pos rfl, if_pos rfl, FalconCredit.of_add, UInt32.toNat_add]
      omega
    · rw [if_neg same, if_neg same]
  · rw [nothing]
    simp [put, charge, entryOf]

theorem compute_harmless {op : RdmaOp} :
    computeRequestCredit config op ≠ .error .creditAboveUsage := by
  intro failed
  cases compute_request_fault failed

theorem create_request_harmless {op : RdmaOp} {rsn : UInt32} :
    createRequestPacket config op rsn ≠ .error .creditAboveUsage := by
  intro failed
  rcases create_request_fault failed with reason | reason | reason <;> cases reason

theorem create_response_harmless {request : InboundReadRequest} :
    createResponsePacket request ≠ .error .creditAboveUsage := by
  intro failed
  cases create_response_fault failed

/-- What is asked of a step: the transactions that are sent are matched, and no counter wraps. -/
def Covered (config : SizeConfig) (state : CreditState) : Event → Prop
  | .sendRequest qpId _ op => RequestMatched config op ∧
    ∀ credit, computeRequestCredit config op = .ok credit → Fits state qpId credit
  | .sendResponse qpId request => ResponseMatched config request ∧
    Fits state qpId (computeResponseCredit config request)
  | _ => True

theorem send_request_safe (balanced : Balanced config first state) {rsn : UInt32} {op : RdmaOp}
    (possible : state.Possible config (.sendRequest qpId rsn op))
    (covered : Covered config state (.sendRequest qpId rsn op)) :
    Safe config first (state.perform config (.sendRequest qpId rsn op)) := by
  refine safe_bind compute_harmless fun credit computed => ?_
  refine safe_bind create_request_harmless fun ⟨packet, rest⟩ created => ?_
  obtain rfl := (held_eq_charged_iff possible.1 created computed covered.1.firstPhase).2 covered.1
  have owner : (requestTransaction config qpId packet (heldCredit config packet)).charged =
      heldCredit config packet := by
    unfold requestTransaction
    split_ifs <;> rfl
  have sound : Sound config (qpId, ⟨rsn, .initiator⟩)
      (requestTransaction config qpId packet (heldCredit config packet)) := request_sound
  have kept := charge_keeps balanced _ sound.1 sound (by rw [owner]; exact covered.2 _ computed)
    (by simp [possible.2])
  rw [owner] at kept
  exact safe_ok kept

theorem send_response_safe (balanced : Balanced config first state) {request : InboundReadRequest}
    (possible : state.Possible config (.sendResponse qpId request))
    (covered : Covered config state (.sendResponse qpId request)) :
    Safe config first (state.perform config (.sendResponse qpId request)) := by
  refine safe_bind create_response_harmless fun packet created => ?_
  refine safe_bind find_harmless fun transaction found => ?_
  rw [find_eq_ok] at found
  obtain ⟨length, counted, done⟩ := bind_eq_ok.1 created
  cases done
  have unanswered := possible transaction found
  obtain ⟨owner, shape⟩ := balanced.sound _ _ found
  cases kind : transaction.type <;> simp only [kind] at shape
  · have nothing : transaction.charged = 0 := by
      rcases shape with ⟨-, nothing⟩ | ⟨sent, held, -⟩
      · exact nothing
      · rw [unanswered] at held
        cases held
    refine safe_ok (charge_keeps balanced (transaction.respond _ _) owner
      ⟨owner, ?_⟩ covered.2 ?_)
    · simp only [HeldTransaction.respond, HeldTransaction.createPacket, kind]
      refine .inr ⟨_, Function.update_self .., ?_⟩
      apply FalconCredit.ext
      iterate 5 rfl
      exact (tx_buffer_eq_iff counted).2 covered.1.fragments
    · intro old same
      rw [found] at same
      cases same
      exact nothing

/-! ### Arrivals -/

theorem pull_request_arrives_balanced (balanced : Balanced config first state) (qpId : Nat)
    (rsn : UInt32) (payloadLength : UInt16) :
    Balanced config first (state.pullRequestArrives qpId rsn payloadLength) := by
  dsimp only [CreditState.pullRequestArrives]
  cases found : state.transactions (qpId, ⟨rsn, .target⟩) with
  | none =>
    refine put_keeps balanced ⟨rfl, Or.inl ⟨rfl, rfl⟩⟩ ?_ fun _ => rfl
    rw [found]
    rfl
  | some transaction =>
    refine put_keeps balanced ?_ (by rw [found]; rfl) (by simp [found])
    exact sound_of_packets (balanced.sound _ _ found) (by simp) rfl rfl rfl

/-- A packet of the network is added to a transaction that expects it. -/
theorem arrives_safe (balanced : Balanced config first state) {expected : TransactionType}
    {payloadLength : HeldTransaction → UInt16}
    (sound : ∀ transaction, Sound config key transaction → transaction.type = expected →
      Sound config key
        (transaction.createPacket type (networkPacket (payloadLength transaction)))) :
    Safe config first (state.arrives key expected type payloadLength) := by
  refine safe_bind find_harmless fun transaction found => ?_
  rw [find_eq_ok] at found
  split_ifs with kind
  · exact safe_ok (put_keeps balanced (sound transaction (balanced.sound _ _ found) kind)
      (by rw [found]; rfl) (by simp [found]))
  · exact ⟨by simp, fun _ impossible => by cases impossible⟩

theorem push_completed_safe (firstPhase : config.resourceReservationMode = .firstPhaseReservation)
    (balanced : Balanced config first state) (initiator : key.2.location = .initiator) :
    Safe config first (state.pushCompleted config key) := by
  refine safe_bind find_harmless fun transaction found => ?_
  rw [find_eq_ok] at found
  cases kind : transaction.type with
  | pull => exact ⟨by simp, fun _ impossible => by cases impossible⟩
  | pushSolicited =>
    refine release_erases balanced fun held packets credit same released => ?_
    cases found.symm.trans same
    exact solicited_released firstPhase (balanced.sound _ _ found) initiator kind released
  | pushUnsolicited =>
    refine release_erases balanced fun held packets credit same released => ?_
    cases found.symm.trans same
    exact unsolicited_released firstPhase (balanced.sound _ _ found) initiator kind released

/-- Every step that is covered keeps the books. -/
theorem perform_safe (firstPhase : config.resourceReservationMode = .firstPhaseReservation)
    (balanced : Balanced config first state) {event : Event}
    (possible : state.Possible config event) (covered : Covered config state event) :
    Safe config first (state.perform config event) := by
  have delivered : ∀ held, Safe config first (state.release config held .pullData true) :=
    fun held => release_erases balanced fun transaction packets credit found released =>
      pull_data_released firstPhase (balanced.sound _ _ found) released
  cases event with
  | sendRequest qpId rsn op => exact send_request_safe balanced possible covered
  | sendResponse qpId request => exact send_response_safe balanced possible covered
  | pullRequestArrives qpId rsn payloadLength =>
    exact safe_ok (pull_request_arrives_balanced balanced qpId rsn payloadLength)
  | pullRequestAccepted qpId rsn => exact release_keeps firstPhase balanced (.inl rfl)
  | packetAcknowledged qpId rsn type =>
    dsimp only [CreditState.perform]
    split_ifs with released
    · rcases released with rfl | rfl | rfl
      · exact release_keeps firstPhase balanced (.inl rfl)
      · exact release_keeps firstPhase balanced (.inr rfl)
      · exact delivered _
    · exact safe_ok balanced
  | pushGrantArrives qpId rsn =>
    exact arrives_safe balanced fun transaction sound _ =>
      sound_of_packets sound (fun _ request held => ⟨request, held, rfl, rfl⟩) rfl rfl rfl
  | pullDataArrives qpId rsn =>
    refine arrives_safe balanced fun transaction sound kind => ⟨sound.1, ?_⟩
    obtain ⟨-, shape⟩ := sound
    simp only [HeldTransaction.createPacket, kind] at shape ⊢
    obtain ⟨request, held, -, charged⟩ := shape
    exact ⟨request, held, by simp, charged⟩
  | pullDataDelivered qpId rsn => exact delivered _
  | pushCompleted qpId rsn => exact push_completed_safe firstPhase balanced rfl

end Moves

/-! ## Whole runs -/

/-- A step that is covered. -/
def CoveredStep (config : SizeConfig) (state next : CreditState) : Prop :=
  ∃ event, state.Possible config event ∧ Covered config state event ∧
    state.perform config event = .ok next

theorem balanced_of_reachable {config : SizeConfig} {first state : CreditState}
    (firstPhase : config.resourceReservationMode = .firstPhaseReservation) (idle : first.Idle)
    (reached : Runs.Reachable (· = first) (CoveredStep config) state) :
    Balanced config first state := by
  apply Runs.invariant_of_reachable _ _ reached
  · rintro start rfl
    refine ⟨fun key transaction found => ?_, 0, ?_, fun qpId pool => by simp, by simp⟩
    · rw [idle key] at found
      cases found
    · rw [show start.transactions = fun _ => none from funext idle]
      exact contains_empty
  · rintro before after balanced ⟨event, possible, covered, done⟩
    exact (perform_safe firstPhase balanced possible covered).2 after done

/-- The credits of an idle state are the initial ones. -/
theorem idle_restored {config : SizeConfig} {first state : CreditState}
    (balanced : Balanced config first state) (idle : state.Idle) :
    state.creditUsage = first.creditUsage ∧
      state.remainingGlobalCredits = first.remainingGlobalCredits := by
  obtain ⟨held, contains, used, globally⟩ := balanced.booked
  rw [show state.transactions = fun _ => none from funext idle] at contains
  obtain rfl := contains_unique contains contains_empty
  refine ⟨funext fun qpId => FalconCredit.ext_of fun pool => ?_, by simpa using globally⟩
  exact UInt32.toNat_inj.1 (by simpa using used qpId pool)

/-- A request and a response each get back over their life what they were charged exactly when the
fragments and the data take the same number of allocation units on both sides; and in every run whose
transactions are so matched, no returned credit is above the usage of its queue pair, and all credits
are back when no transaction is held. -/
theorem credits_returned (config : SizeConfig) :
    (∀ op : RdmaOp, op.Checked config → ∀ qpId rsn packet rest credit,
      createRequestPacket config op rsn = .ok (packet, rest) →
      computeRequestCredit config op = .ok credit →
      (returnedForRequest config (requestTransaction config qpId packet credit) = .ok credit ↔
        RequestMatched config op)) ∧
    (∀ request packet, createResponsePacket request = .ok packet →
      (returnedForResponse config packet = .ok (computeResponseCredit config request) ↔
        ResponseMatched config request)) ∧
    (config.resourceReservationMode = .firstPhaseReservation →
      ∀ first state : CreditState, first.Idle →
        Runs.Reachable (· = first) (CoveredStep config) state →
        (∀ event, state.Possible config event → Covered config state event →
          state.perform config event ≠ .error .creditAboveUsage) ∧
        (state.Idle → state.creditUsage = first.creditUsage ∧
          state.remainingGlobalCredits = first.remainingGlobalCredits)) := by
  refine ⟨fun op checked qpId rsn packet rest credit created charged =>
    request_returned_iff checked qpId created charged,
    fun request packet created => response_returned_iff created,
    fun firstPhase first state idle reached => ?_⟩
  have balanced := balanced_of_reachable firstPhase idle reached
  exact ⟨fun event possible covered => (perform_safe firstPhase balanced possible covered).1,
    idle_restored balanced⟩

/-- The default allocation units with a small MTU. -/
def smallConfig : SizeConfig :=
  { rdmaMtu := 4096, maxSegmentLength := 4096, txBufferMinimumAllocationUnit := 64
    rxBufferMinimumAllocationUnit := 128, solicitedWriteThreshold := 8192
    resourceReservationMode := .firstPhaseReservation, txUnitRange := by decide
    rxUnitRange := by decide, mtuRange := by decide, segmentRange := by decide }

/-- Nothing is held yet. -/
def idleState : CreditState :=
  { creditUsage := fun _ => 0, transactions := fun _ => none
    remainingGlobalCredits := ⟨100, 100, 100, 100, 100, 100⟩ }

/-- A write of one fragment. -/
def shortWrite : RdmaOp := { opcode := .write, sgl := [100] }

theorem short_write_matched : RequestMatched smallConfig shortWrite := by
  refine ⟨rfl, fun _ entries some_ => ?_, fun read => by cases read⟩
  obtain rfl : 1 = entries := Option.some.inj some_
  exact (ceil_div_eq_iff (by decide) (by decide) (by decide)).1 (by decide)

theorem segments_checked {segments : List UInt32} (same : ∀ segment ∈ segments, segment = 100) :
    ∀ segment ∈ segments, 0 < segment ∧ segment ≤ smallConfig.maxSegmentLength := by
  intro segment member
  rw [same segment member]
  decide

/-- The credits of a write of one fragment come back. -/
theorem credits_returned_write :
    returnedForRequest smallConfig (requestTransaction smallConfig 1
      { opcode := .writeOnly, rsn := 0, sgl := [100], dataLength := 28, requestLength := 128
        sglLength := 24, isLastPacket := true } ⟨1, 1, 1, 0, 0, 0⟩) = .ok ⟨1, 1, 1, 0, 0, 0⟩ ∧
      idleState.perform smallConfig (.sendRequest 1 0 shortWrite) ≠ .error .creditAboveUsage := by
  have checked : shortWrite.Checked smallConfig :=
    ⟨segments_checked fun _ member => List.mem_singleton.1 member, by decide, by decide⟩
  have fits : ∀ credit, computeRequestCredit smallConfig shortWrite = .ok credit →
      Fits idleState 1 credit := by
    rintro _ ⟨⟩ pool
    cases pool <;> decide
  refine ⟨((credits_returned smallConfig).1 shortWrite checked 1 0 _ [] _ rfl (by decide)).2
    short_write_matched, ?_⟩
  exact ((credits_returned smallConfig).2.2 rfl idleState idleState (fun _ => rfl)
    ⟨idleState, rfl, .refl⟩).1 _ ⟨checked, rfl⟩ ⟨short_write_matched, fits⟩

/-- A write of nine fragments. -/
def longWrite : RdmaOp := { opcode := .write, sgl := List.replicate 9 100 }

/-- The nine fragments are charged three units and take four, so that the completion of the write is
returned more than the usage of the queue pair. -/
theorem nine_fragments_abort : ∃ state, Runs.Reachable (· = idleState) (Step smallConfig) state ∧
    state.perform smallConfig (.pushCompleted 1 0) = .error .creditAboveUsage := by
  have tested : (match idleState.perform smallConfig (.sendRequest 1 0 longWrite) with
      | .ok state => match state.perform smallConfig (.pushCompleted 1 0) with
        | .error fault => fault == .creditAboveUsage
        | .ok _ => false
      | .error _ => false) = true := by decide +kernel
  have checked : longWrite.Checked smallConfig :=
    ⟨segments_checked fun _ member => (List.mem_replicate.1 member).2, by decide, by decide⟩
  cases sent : idleState.perform smallConfig (.sendRequest 1 0 longWrite) with
  | error fault => simp [sent] at tested
  | ok state =>
    refine ⟨state, Runs.reachable_step (Runs.reachable_initial rfl)
      ⟨.sendRequest 1 0 longWrite, ⟨checked, rfl⟩, sent⟩, ?_⟩
    simp only [sent] at tested
    cases completed : state.perform smallConfig (.pushCompleted 1 0) with
    | ok next => simp [completed] at tested
    | error fault => simpa [completed] using tested

end Isekai.CreditRunProofs
