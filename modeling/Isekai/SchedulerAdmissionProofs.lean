import Isekai.Ledger
import Isekai.SchedulerExecution
import Isekai.SchedulerRunProofs

/-! The solicitation window. Its counter is the sum of the request lengths of the pull requests
and push grants that were admitted and not yet refunded: the bytes of a pull stay on the window
until its data is handed to the ULP, and those of a grant until the ULP has acked the data. -/

namespace Isekai.SchedulerAdmissionProofs
open FastConnectionScheduler SchedulerSystem SchedulerFrameProofs SchedulerTransactionProofs
  SchedulerEffects SchedulerRunProofs AdmissionControl

variable {before after : Host} {connection : ConnectionState} {transaction : TransactionMetadata}

/-! ## Bytes on the window -/

noncomputable instance fintypeUInt32 : Fintype UInt32 :=
  Fintype.ofInjective UInt32.toFin fun _ _ same => UInt32.toFin_inj.1 same

noncomputable instance fintypeTransactionKey : Fintype TransactionKey :=
  Fintype.ofInjective (fun key => (key.rsn, decide (key.location = .initiator))) <| by
    rintro ⟨rsn, location⟩ ⟨otherRsn, otherLocation⟩ same
    cases location <;> cases otherLocation <;> simp_all

/-- The states of a transaction whose request or grant was admitted and not yet refunded. -/
def onWindow : TransactionLocation → List TransactionState
  | .initiator => [.pullReqNtwkTx, .pullDataNtwkRx]
  | .target => [.pushGrantNtwkTx, .pushSolicitedDataNtwkRx, .pushSolicitedDataUlpTx,
      .pushSolicitedDataRnrUlpRx]

/-- The bytes of a transaction on the window. -/
def charge (location : TransactionLocation) : Option TransactionMetadata → Nat
  | none => 0
  | some transaction =>
    if transaction.state ∈ onWindow location then transaction.requestLength.toNat else 0

def chargeAt (connections : UInt32 → Option ConnectionState) (account : UInt32 × TransactionKey) :
    Nat :=
  match connections account.1 with
  | none => 0
  | some connection => charge account.2.location (connection.transactions account.2)

/-- The bytes that all transactions of a host have on the window. -/
noncomputable def outstanding (host : Host) : Nat := Ledger.total (chargeAt host.connections)

section Charges
variable {before after : Host} {scid : UInt32} {connection final : ConnectionState}
  {key : TransactionKey} {value : Option TransactionMetadata}

theorem charge_at_of_found (connection : ConnectionState) {account : UInt32 × TransactionKey}
    {connections : UInt32 → Option ConnectionState}
    (found : connections account.1 = some connection) :
    chargeAt connections account = charge account.2.location (connection.transactions account.2) := by
  simp only [chargeAt, found]

/-- When one transaction changes, the sum changes by what that transaction is charged. -/
theorem outstanding_move (found : before.connections scid = some connection)
    (connections : after.connections = Function.update before.connections scid (some final))
    (transactions : final.transactions = Function.update connection.transactions key value) :
    outstanding after + charge key.location (connection.transactions key) =
      outstanding before + charge key.location value := by
  have moved := Ledger.total_move (chargeAt before.connections) (chargeAt after.connections)
    (scid, key) ?_
  · have was : chargeAt before.connections (scid, key) =
        charge key.location (connection.transactions key) := charge_at_of_found connection found
    have now : chargeAt after.connections (scid, key) = charge key.location value := by
      rw [charge_at_of_found final (by simp [connections]), transactions,
        Function.update_self]
    rw [← was, ← now]
    exact moved
  · rintro ⟨otherScid, otherKey⟩ different
    by_cases same : otherScid = scid
    · subst same
      have otherKeyNe : otherKey ≠ key := by
        rintro rfl
        exact different rfl
      rw [charge_at_of_found final (by simp [connections]),
        charge_at_of_found connection found, transactions,
        Function.update_of_ne otherKeyNe]
    · simp only [chargeAt, connections, Function.update_of_ne same]

/-- A transaction that is charged as before leaves the sum as it was. -/
theorem outstanding_keep (found : before.connections scid = some connection)
    (connections : after.connections = Function.update before.connections scid (some final))
    (transactions : final.transactions = Function.update connection.transactions key value)
    (same : charge key.location value = charge key.location (connection.transactions key)) :
    outstanding after = outstanding before := by
  have moved := outstanding_move found connections transactions
  omega

theorem charge_of_state {location : TransactionLocation} {first second : TransactionMetadata}
    (state : first.state = second.state) (length : first.requestLength = second.requestLength) :
    charge location (some first) = charge location (some second) := by
  simp only [charge, state, length]

end Charges

/-! ## The invariant -/

/-- The counter of the solicitation window is exact, and within the window. -/
def Accounted (host : Host) : Prop :=
  host.admission.windowBased = true →
    host.admission.solicitedDataBytes.toNat = outstanding host ∧
      outstanding host ≤ host.admission.admissionWindowBytes.toNat

theorem accounted_of_same (accounted : Accounted before)
    (policy : after.admission.policy = before.admission.policy)
    (window : after.admission.admissionWindowBytes = before.admission.admissionWindowBytes)
    (solicited : after.admission.solicitedDataBytes = before.admission.solicitedDataBytes)
    (same : outstanding after = outstanding before) : Accounted after := by
  intro enabled
  rw [AdmissionControlManager.windowBased, policy] at enabled
  rw [same, window, solicited]
  exact accounted enabled

theorem length_to_nat (length : UInt32) : length.toUInt64.toNat = length.toNat :=
  UInt32.toNat_toUInt64 length

/-- An admitted packet that reserves its bytes. -/
theorem accounted_of_reserved (accounted : Accounted before) {length : UInt32} {type : PacketType}
    (admitted : before.admission.admits length.toUInt64 type before.now = true)
    (reserved : before.admission.Reserved length.toUInt64 type after.admission)
    (more : outstanding after = outstanding before +
      if solicits type then length.toNat else 0) : Accounted after := by
  intro enabled
  have enabledBefore : before.admission.windowBased = true := by
    rw [AdmissionControlManager.windowBased, reserved.policy] at enabled
    exact enabled
  obtain ⟨exact_, within⟩ := accounted enabledBefore
  rw [more, reserved.window, reserved.solicited]
  by_cases asks : solicits type = true
  · have room := ((AdmissionControlManager.admits_iff _ _ _ _).1 admitted).1 enabledBefore asks
    rw [UInt64.le_iff_toNat_le, UInt64.toNat_sub_of_le _ _ (by
      rw [UInt64.le_iff_toNat_le]; omega), length_to_nat] at room
    have bound := before.admission.admissionWindowBytes.toNat_lt
    rw [if_pos ⟨enabledBefore, asks⟩, if_pos asks, UInt64.toNat_add, length_to_nat]
    omega
  · rw [if_neg (by simp [asks]), if_neg asks]
    omega

/-- Bytes that are on the window can be refunded. -/
theorem accounted_of_refunded (accounted : Accounted before) {length : UInt32}
    {unsolicited : Bool}
    (refunded : before.admission.refundAdmissionControlResource length.toUInt64 unsolicited =
      .ok after.admission) (less : outstanding after + length.toNat = outstanding before) :
    Accounted after := by
  intro enabled
  unfold AdmissionControlManager.refundAdmissionControlResource at refunded
  split at refunded
  · rename_i enabledBefore
    split at refunded
    · cases refunded
    · obtain ⟨exact_, within⟩ := accounted enabledBefore
      rw [← Except.ok.inj refunded]
      dsimp only
      rw [UInt64.toNat_sub_of_le _ _ (by rw [UInt64.le_iff_toNat_le, length_to_nat]; omega),
        length_to_nat]
      omega
  · rename_i disabled
    rw [← Except.ok.inj refunded] at enabled
    exact absurd enabled disabled

/-! ## One step -/

/-- Transactions that move on keep their bytes on the window, except for those refunded. -/
theorem progress_charge {old : TransactionMetadata} {location : TransactionLocation}
    {value : Option TransactionMetadata} {refunded : Bool}
    (progress : Progress old location value refunded) :
    charge location value + (if refunded then old.requestLength.toNat else 0) =
      charge location (some old) := by
  cases progress with
  | handed data step =>
    rcases data with rfl | rfl | rfl <;>
    · obtain ⟨before, rfl⟩ := expect_eq_ok.1 step
      simp at before
      rcases before with before | before <;> simp [charge, onWindow, before]
  | refused step =>
    cases type : old.type <;> rw [type] at step <;>
    · obtain ⟨before, rfl⟩ := expect_eq_ok.1 step
      simp at before
      rcases before with before | before <;> simp [charge, onWindow, before]
  | accepted pull step =>
    obtain ⟨before, rfl⟩ := expect_eq_ok.1 step
    simp at before
    simp [charge, onWindow, before]
  | pushed push step =>
    obtain ⟨state, step⟩ := step
    cases type : old.type <;> rw [type] at step
    · exact absurd type push
    all_goals
      obtain ⟨before, rfl⟩ := expect_eq_ok.1 step
      simp at before
      simp [charge, onWindow, before]
  | pulled step => simp [charge, onWindow, step]
  | completed step => rcases step with step | step <;> simp [charge, onWindow, step]
  | acked side step =>
    rename_i type state
    cases type with
    | pullRequest | pushRequest | pushGrant =>
      obtain rfl : old.state = state := Except.ok.inj step
      simp
    | pullData | pushSolicitedData | pushUnsolicitedData =>
      cases side
      obtain ⟨before, rfl⟩ := expect_eq_ok.1 step
      simp at before
      simp [charge, onWindow, before]
    | resync | ack | nack | back | eack | invalid => cases step

/-- A packet that arrives leaves the bytes of its transaction on the window. -/
theorem arrived_charge {final : ConnectionState} {packet : NetworkPacket}
    {location : TransactionLocation} {base : TransactionMetadata}
    (unused : beginsTransaction packet.type = true →
      connection.transactions ⟨packet.rsn, .target⟩ = none)
    (arrived : Arrived connection packet location base transaction final) :
    charge location (some transaction) =
      charge location (connection.transactions ⟨packet.rsn, location⟩) := by
  obtain ⟨side, emplaced, step, sameType, length, others, rfl⟩ := arrived
  obtain ⟨type, rsn, requestLength, payloadLength⟩ := packet
  dsimp only at *
  cases type with
  | pullRequest | pushRequest | pushUnsolicitedData =>
    cases side
    have state := Except.ok.inj step
    have fresh := unused (by simp [beginsTransaction])
    simp only [if_true, charge, ← state, fresh]
    simp [onWindow]
  | pullData | pushGrant | pushSolicitedData =>
    cases side
    obtain ⟨was, now⟩ := expect_eq_ok.1 step
    have live := get_transaction_eq_ok.1 emplaced
    simp at was
    simp only [if_true, live]
    simp [charge, onWindow, was, now, length]
  | resync | ack | nack | back | eack | invalid => cases side

/-- A packet that is sent puts the bytes that it solicits on the window. -/
theorem moved_charge {final : ConnectionState} {item : WorkId} {moved : TransactionMetadata}
    (spec : Moved connection final item transaction moved) :
    charge (itemLocation item.type) (some moved) =
      charge (itemLocation item.type) (some transaction) +
        if solicits item.type then transaction.requestLength.toNat else 0 := by
  have state := moved_state spec
  simp only [charge, state, spec.before, spec.requestLength]
  cases type : item.type <;> simp [sentState, expectedState, itemLocation, onWindow, solicits]

theorem outstanding_of_same (same : ∀ scid, Option.Rel SameTransactions (before.connections scid)
      (after.connections scid)) : outstanding after = outstanding before := by
  refine Ledger.total_congr fun ⟨scid, key⟩ => ?_
  have related := same scid
  simp only [chargeAt]
  generalize before.connections scid = old, after.connections scid = new at related ⊢
  cases related with
  | none => rfl
  | some transactions => simp only [transactions.transactions]

theorem outstanding_connected {scid : UInt32} (spec : Connected before after scid connection) :
    outstanding after = outstanding before := by
  refine Ledger.total_congr fun ⟨other, key⟩ => ?_
  by_cases same : other = scid
  · subst same
    simp [chargeAt, spec.connections, spec.fresh, spec.empty, charge]
  · simp [chargeAt, spec.connections, same]

/-- Every step keeps the counter of the solicitation window exact. -/
theorem accounted_step {before after : System} (consistent : SystemConsistent before)
    (accounted : Accounted before.host) (effect : Effect before after) : Accounted after.host := by
  cases effect with
  | quiet connections packets admission threshold network inserted history =>
    exact accounted_of_same accounted admission.policy admission.window admission.solicited
      (outstanding_of_same connections)
  | connected spec inserted history =>
    exact accounted_of_same accounted (by rw [spec.admission]) (by rw [spec.admission])
      (by rw [spec.admission]) (outstanding_connected spec)
  | requested found unused pull solicited spec enqueued inserted history =>
    rename_i scid rsn connection final kind type transaction
    refine accounted_of_same accounted enqueued.admission.policy enqueued.admission.window
      enqueued.admission.solicited
      (outstanding_keep found enqueued.connections spec.transactions ?_)
    rw [unused]
    simp only [charge, spec.new.state]
    rcases spec.new.request with rfl | rfl | rfl <;> simp [expectedState, onWindow]
  | responded found spec enqueued inserted history =>
    rename_i scid rsn connection final old transaction
    refine accounted_of_same accounted enqueued.admission.policy enqueued.admission.window
      enqueued.admission.solicited
      (outstanding_keep found enqueued.connections spec.transactions ?_)
    rw [spec.live]
    simp [charge, spec.state, spec.before, onWindow]
  | received spec inserted history =>
    rename_i scid packet connection location base transaction
    obtain ⟨final, arrived, connections⟩ := spec.arrived
    refine accounted_of_same accounted (by rw [spec.admission]) (by rw [spec.admission])
      (by rw [spec.admission]) (outstanding_keep spec.found connections
        (by rw [arrived.after]; rfl) (arrived_charge spec.unused arrived))
  | progressed spec inserted history =>
    rename_i scid connection key old value refunded
    have charges := progress_charge spec.progress
    have moved := outstanding_move spec.found spec.connections rfl
    rw [spec.live] at moved
    have admission := spec.admission
    cases refunded with
    | false =>
      simp only [Bool.false_eq_true, if_false] at admission charges
      exact accounted_of_same accounted (by rw [admission]) (by rw [admission])
        (by rw [admission]) (by omega)
    | true =>
      simp only [if_true] at admission charges
      exact accounted_of_refunded accounted admission (by omega)
  | answered due answer open_ enqueued inserted history =>
    refine accounted_of_same accounted enqueued.admission.policy enqueued.admission.window
      enqueued.admission.solicited (outstanding_of_same fun other => ?_)
    rw [enqueued.connections]
    exact option_rel_refl other
  | madeEligible due ordered located spec inserted history =>
    obtain ⟨-, live, -⟩ := lookup_packet_eq_ok.1 located
    refine accounted_of_same accounted spec.admission.policy spec.admission.window
      spec.admission.solicited (outstanding_keep spec.found spec.connections rfl ?_)
    rw [live]
    exact charge_of_state rfl rfl
  | retransmitted spec inserted history =>
    obtain ⟨again, transactions, -⟩ := transmitted_again spec.located spec.sent spec.transmitted
    obtain ⟨-, live, -⟩ := lookup_packet_eq_ok.1 spec.located
    rw [item_key_of_located spec.located] at live
    refine accounted_of_same accounted spec.admission.policy spec.admission.window
      spec.admission.solicited (outstanding_keep spec.found spec.connections transactions ?_)
    rw [live]
    exact charge_of_state rfl rfl
  | sent spec inserted history =>
    obtain ⟨queue, live, waiting⟩ :=
      head_waiting (consistent.each _ _ spec.found) spec.head spec.located
    obtain ⟨moved, movedSpec⟩ := transmitted_moved spec.located waiting.unsent
      (eligible_state waiting spec.eligible) spec.transmitted
    have move := outstanding_move spec.found spec.connections movedSpec.transactions
    rw [live] at move
    have charges := moved_charge movedSpec
    refine accounted_of_reserved accounted spec.admitted spec.reserved ?_
    simp only [itemKey] at move
    omega
  | phantom spec inserted history =>
    obtain ⟨-, live, -⟩ := lookup_packet_eq_ok.1 spec.located
    refine accounted_of_same accounted spec.admission.policy spec.admission.window
      spec.admission.solicited (outstanding_keep spec.found spec.connections rfl ?_)
    rw [live]
    exact charge_of_state rfl rfl

theorem accounted_initial {system : System} (initial : Initial system) :
    Accounted system.host := by
  intro _
  have empty : outstanding system.host = 0 := by
    refine Ledger.total_zero fun account => ?_
    simp [chargeAt, initial.connections]
  rw [initial.unsolicited, empty]
  exact ⟨rfl, Nat.zero_le _⟩

/-! ## Runs -/

/-- What holds of the solicitation window when it is in use. -/
structure SolicitationSound (host : Host) : Prop where
  counted : host.admission.solicitedDataBytes.toNat = outstanding host
  within : host.admission.solicitedDataBytes ≤ host.admission.admissionWindowBytes
  refundable : ∀ scid connection key transaction, host.connections scid = some connection →
    connection.transactions key = some transaction → transaction.state ∈ onWindow key.location →
    transaction.requestLength.toUInt64 ≤ host.admission.solicitedDataBytes

theorem reachable_accounted {system : System} (reachable : Reachable system) :
    Accounted system.host := by
  apply Runs.invariant_of_reachable_with (fun _ => reachable_consistent) _ _ reachable
  · exact fun _ initial => accounted_initial initial
  · exact fun _ _ consistent accounted step =>
      accounted_step consistent accounted (step_effect step)

theorem charge_le_outstanding {host : Host} {scid : UInt32} {key : TransactionKey}
    (found : host.connections scid = some connection)
    (live : connection.transactions key = some transaction)
    (charged : transaction.state ∈ onWindow key.location) :
    transaction.requestLength.toNat ≤ outstanding host := by
  have le := Ledger.balance_le_total (chargeAt host.connections) (scid, key)
  rwa [charge_at_of_found connection found, live, charge, if_pos charged] at le

/-- In every reachable state of a host that uses the solicitation window, the counter is the sum
of the request lengths on the window, it is within the window, and no refund underflows it. -/
theorem solicitation_window_sound {system : System} (reachable : Reachable system)
    (enabled : system.host.admission.windowBased = true) : SolicitationSound system.host := by
  obtain ⟨counted, within⟩ := reachable_accounted reachable enabled
  refine ⟨counted, ?_, ?_⟩
  · rw [UInt64.le_iff_toNat_le]
    omega
  · intro scid connection key transaction found live charged
    rw [UInt64.le_iff_toNat_le, length_to_nat, counted]
    exact charge_le_outstanding found live charged

/-- A read of 64 bytes on a connection of a host with a window of 10000 bytes, up to the arrival
of its data. -/
def readCommands : List SchedulerExecution.Command :=
  [.connect 0 .unordered SchedulerExecution.openWindow, .submit 0 (.readRequest 64 0 0), .schedule,
    .receive 0 { type := .pullData, rsn := 0, payloadLength := 64 }]

def windowAdmission : AdmissionControlManager :=
  { policy := .rxWindowBased, admissionWindowBytes := 10000,
    rxBucket := .full 1 1 1, txBucket := .full 1 1 1 }

/-- The read is on the window, and its data has arrived. -/
def readArrived (system : System) : Bool :=
  system.host.admission.windowBased && system.host.admission.solicitedDataBytes = 64 &&
    match system.host.connections 0 with
    | none => false
    | some connection =>
      match connection.transactions ⟨0, .initiator⟩ with
      | none => false
      | some transaction => transaction.state = .pullDataNtwkRx && transaction.requestLength = 64

theorem read_arrives : ∃ system, Reachable system ∧ readArrived system = true :=
  SchedulerExecution.run_of_check readCommands readArrived
    (Runs.reachable_initial (SchedulerExecution.fresh_host_initial windowAdmission 4096 rfl)) (by decide +kernel)

theorem solicitation_window_sound_read : ∃ system, Reachable system ∧
    system.host.admission.solicitedDataBytes = 64 ∧ SolicitationSound system.host := by
  obtain ⟨system, reachable, arrived⟩ := read_arrives
  simp only [readArrived, Bool.and_eq_true, decide_eq_true_eq] at arrived
  exact ⟨system, reachable, arrived.1.2, solicitation_window_sound reachable arrived.1.1⟩

/-! ## Data that has arrived -/

/-- The state of a transaction whose request or grant was admitted and whose data has not
arrived. -/
def awaitsData : TransactionLocation → TransactionState
  | .initiator => .pullReqNtwkTx
  | .target => .pushGrantNtwkTx

/-- The bytes of a transaction that are still to arrive. -/
def unarrivedAt (connections : UInt32 → Option ConnectionState)
    (account : UInt32 × TransactionKey) : Nat :=
  match connections account.1 with
  | none => 0
  | some connection =>
    match connection.transactions account.2 with
    | none => 0
    | some transaction =>
      if transaction.state = awaitsData account.2.location then transaction.requestLength.toNat
      else 0

noncomputable def unarrived (host : Host) : Nat := Ledger.total (unarrivedAt host.connections)

theorem unarrived_le_charge (connections : UInt32 → Option ConnectionState)
    (account : UInt32 × TransactionKey) :
    unarrivedAt connections account ≤ chargeAt connections account := by
  simp only [unarrivedAt, chargeAt]
  split
  · exact le_refl 0
  · split
    · exact Nat.zero_le _
    · rename_i transaction live
      rw [live, charge]
      split
      · rename_i awaits
        rw [if_pos]
        rw [awaits]
        cases account.2.location <;> simp [awaitsData, onWindow]
      · exact Nat.zero_le _

/-- While the data of a transaction has arrived and its bytes are not refunded, the counter is
above the sum over the transactions whose data is still to come. -/
theorem unarrived_lt_outstanding {host : Host} {scid : UInt32} {key : TransactionKey}
    (found : host.connections scid = some connection)
    (live : connection.transactions key = some transaction)
    (charged : transaction.state ∈ onWindow key.location)
    (arrived : transaction.state ≠ awaitsData key.location)
    (positive : 0 < transaction.requestLength.toNat) : unarrived host < outstanding host := by
  refine Ledger.total_lt (unarrived_le_charge host.connections) (scid, key) ?_
  rw [charge_at_of_found connection found, live, charge, if_pos charged]
  simpa [unarrivedAt, found, live, arrived] using positive

/-- Data that has arrived is counted until it is handed to the ULP. -/
theorem arrived_data_counted : ∃ system, Reachable system ∧
    system.host.admission.windowBased = true ∧
    system.host.admission.solicitedDataBytes.toNat ≠ unarrived system.host := by
  obtain ⟨system, reachable, arrived⟩ := read_arrives
  simp only [readArrived, Bool.and_eq_true, decide_eq_true_eq] at arrived
  obtain ⟨⟨enabled, -⟩, read⟩ := arrived
  refine ⟨system, reachable, enabled, ?_⟩
  split at read
  · cases read
  · rename_i connection found
    split at read
    · cases read
    · rename_i transaction live
      simp only [Bool.and_eq_true, decide_eq_true_eq] at read
      have less := unarrived_lt_outstanding found live (by simp [read.1, onWindow])
        (by simp [read.1, awaitsData]) (by simp [read.2])
      rw [(reachable_accounted reachable enabled).1]
      omega

end Isekai.SchedulerAdmissionProofs
