import Isekai.AcknowledgementBooks

/-! The books of outstanding packets stay in order when a packet is acknowledged, however the
acknowledgement arrives. -/

namespace Isekai.BooksAcknowledged
open Outcomes Reliability Reliability.Endpoint OutstandingBooks BookFrameProofs TransactionPhases
open MapContents AcknowledgementBooks

variable {config : Config} {sent : WindowType → List OutstandingPacketContext}
  {answered : Multiset UInt32} {limit : WindowType → UInt32}

theorem rsns_of_cons (type : PacketType) (context : OutstandingPacketContext)
    (rest : Multiset OutstandingPacketContext) :
    rsnsOf type (context ::ₘ rest) =
      if context.packetType = type then context.rsn ::ₘ rsnsOf type rest else rsnsOf type rest := by
  unfold rsnsOf
  split_ifs with same
  · rw [Multiset.filter_cons_of_pos (p := fun packet => packet.packetType = type) rest same,
      Multiset.map_cons]
  · rw [Multiset.filter_cons_of_neg (p := fun packet => packet.packetType = type) rest same]

section Acked
variable {window : WindowType} {psn : UInt32} {context : OutstandingPacketContext}
  {before after : Endpoint}

theorem recorded_acked (recorded : Recorded before)
    (acked : Acked config window psn context before after) : Recorded after := by
  refine recorded.onward acked.onward (fun other number content read => ?_)
    (fun other work held => ?_) fun other work waits next queued => ?_
  · by_cases here : other = window
    · subst here
      rw [acked.contexts] at read
      by_cases same : number = psn
      · rw [same, Function.update_self] at read
        cases read
      · rwa [Function.update_of_ne same] at read
    · rwa [acked.elsewhere other here] at read
  · have earlier := recorded.works other work
      (held.imp (acked.waiting other work) (acked.queued other work))
    by_cases here : other = window
    · subst here
      rw [acked.contexts, Function.update_of_ne (acked.gone work held)]
      exact earlier
    · rw [acked.elsewhere other here]
      exact earlier
  · exact recorded.apart other work (acked.waiting other work waits) next
      (acked.queued other next queued)

/-- A counter that is lowered counted something. -/
theorem counter_acked (acked : Acked config window psn context before after) (other : WindowType)
    (positive : Lowers config context.packetType ∧ countedWindow context.packetType = other →
      0 < (before.tx other).outstandingRequestsCounter.toNat) :
    (after.tx other).outstandingRequestsCounter.toNat =
      if Lowers config context.packetType ∧ countedWindow context.packetType = other then
        (before.tx other).outstandingRequestsCounter.toNat - 1
      else (before.tx other).outstandingRequestsCounter.toNat := by
  rw [acked.counters]
  split_ifs with lowers
  · have counted := positive lowers
    have bound := (before.tx other).outstandingRequestsCounter.toNat_lt
    rw [UInt32.toNat_sub, UInt32.toNat_one]
    omega
  · rfl

theorem contains_acked {live : WindowType → Multiset OutstandingPacketContext}
    {rest : Multiset OutstandingPacketContext}
    (contains : ∀ other, Contains (before.tx other).outstandingPacketContexts (live other))
    (contained : Contains
      (Function.update (before.tx window).outstandingPacketContexts psn none) rest)
    (acked : Acked config window psn context before after) (other : WindowType) :
    Contains (after.tx other).outstandingPacketContexts (Function.update live window rest other) := by
  by_cases here : other = window
  · subst here
    rw [acked.contexts, Function.update_self]
    exact contained
  · rw [acked.elsewhere other here, Function.update_of_ne here]
    exact contains other

/-- The push request of solicited data that is acknowledged is no longer open. -/
theorem opened_acked {debts pulls : Multiset UInt32} (opened : Opened before debts pulls)
    (acked : Acked config window psn context before after)
    (pushed : context.packetType = .pushSolicitedData) :
    context.rsn ∈ debts ∧ Opened after (debts.erase context.rsn) pulls := by
  obtain ⟨⟨old, held, pushing⟩, closed⟩ := acked.pushed pushed
  have onward := opened.onward acked.onward
  refine ⟨opened.pushing _ old held pushing, fun rsn new heldAfter still => ?_, onward.pulling⟩
  have other : rsn ≠ context.rsn := by
    rintro rfl
    exact closed new heldAfter still
  exact (Multiset.mem_erase_of_ne other).2 (onward.pushing rsn new heldAfter still)

section Counts
variable {live : WindowType → Multiset OutstandingPacketContext}
  {rest : Multiset OutstandingPacketContext} {debts pulls : Multiset UInt32}

theorem rsns_erased (whole : live window = context ::ₘ rest) (type : PacketType)
    (other : WindowType) :
    rsnsOf type (live other) =
      if context.packetType = type ∧ window = other then
        context.rsn ::ₘ rsnsOf type (Function.update live window rest other)
      else rsnsOf type (Function.update live window rest other) := by
  by_cases here : other = window
  · subst here
    simp only [whole, rsns_of_cons, Function.update_self, and_true]
  · rw [if_neg (fun both => here both.2.symm), Function.update_of_ne here]

theorem counted_positive (tally : Tally config before live debts pulls)
    (opened : Opened before debts pulls) (acked : Acked config window psn context before after)
    (whole : live window = context ::ₘ rest) (place : windowOf context.packetType = window)
    (other : WindowType)
    (lowers : Lowers config context.packetType ∧ countedWindow context.packetType = other) :
    0 < (before.tx other).outstandingRequestsCounter.toNat := by
  obtain ⟨⟨pull, flag⟩ | pushed | unsolicited, rfl⟩ := lowers
  · rw [pull] at place ⊢
    subst place
    have erased := rsns_erased whole .pullRequest .request
    rw [if_pos ⟨pull, rfl⟩] at erased
    refine lt_of_lt_of_eq ?_ tally.request.symm
    rw [flag, if_neg Bool.false_ne_true, erased, Multiset.card_cons]
    omega
  · rw [pushed]
    have member := (opened_acked opened acked pushed).1
    have some := Multiset.card_pos_iff_exists_mem.2 ⟨_, member⟩
    refine lt_of_lt_of_eq ?_ tally.request.symm
    omega
  · rw [unsolicited] at place ⊢
    subst place
    have erased := rsns_erased whole .pushUnsolicitedData .data
    rw [if_pos ⟨unsolicited, rfl⟩] at erased
    refine lt_of_lt_of_eq ?_ tally.data.symm
    rw [erased, Multiset.card_cons]
    omega

/-- The counts after the acknowledgement of anything but solicited data. -/
theorem counts_acked (tally : Tally config before live debts pulls)
    (balanced : Balanced sent answered live debts pulls) (opened : Opened before debts pulls)
    (acked : Acked config window psn context before after)
    (whole : live window = context ::ₘ rest) (place : windowOf context.packetType = window)
    (other : context.packetType ≠ .pushSolicitedData) :
    Tally config after (Function.update live window rest) debts pulls ∧
      Balanced sent answered (Function.update live window rest) debts pulls := by
  have erased := rsns_erased whole
  have counter (other : WindowType) := counter_acked acked other
    (counted_positive tally opened acked whole place other)
  refine ⟨⟨?_, ?_⟩, ?_, balanced.pulls⟩
  · rw [counter, tally.request, erased .pullRequest .request]
    by_cases pull : context.packetType = .pullRequest
    · rw [pull] at place ⊢
      subst place
      cases flag : config.decrementOrcOnPullResponse
      · rw [if_pos ⟨.inl ⟨rfl, flag⟩, rfl⟩, if_neg Bool.false_ne_true, if_neg Bool.false_ne_true,
          if_pos ⟨rfl, rfl⟩, Multiset.card_cons]
        omega
      · rw [if_neg (by simp [Lowers, flag]), if_pos rfl, if_pos rfl]
    · have same : ¬ (Lowers config context.packetType ∧ countedWindow context.packetType = .request) := by
        rintro ⟨⟨is, _⟩ | is | is, counts⟩
        · exact pull is
        · exact other is
        · rw [is] at counts
          cases counts
      have live : ¬ (context.packetType = .pullRequest ∧ window = .request) := fun both => pull both.1
      rw [if_neg same, if_neg live]
  · rw [counter, tally.data, erased .pushUnsolicitedData .data]
    by_cases unsolicited : context.packetType = .pushUnsolicitedData
    · rw [unsolicited] at place ⊢
      subst place
      rw [if_pos ⟨.inr (.inr rfl), rfl⟩, if_pos ⟨rfl, rfl⟩, Multiset.card_cons]
      rfl
    · rw [if_neg fun both => by simp [countedWindow, unsolicited] at both,
        if_neg fun both => unsolicited both.1]
  · rw [balanced.pushes, erased .pushSolicitedData .data, if_neg fun both => other both.1]

/-- The counts after the acknowledgement of solicited data. -/
theorem counts_pushed (tally : Tally config before live debts pulls)
    (balanced : Balanced sent answered live debts pulls) (opened : Opened before debts pulls)
    (acked : Acked config window psn context before after)
    (whole : live window = context ::ₘ rest) (place : windowOf context.packetType = window)
    (pushed : context.packetType = .pushSolicitedData) :
    Tally config after (Function.update live window rest) (debts.erase context.rsn) pulls ∧
      Balanced sent answered (Function.update live window rest) (debts.erase context.rsn) pulls := by
  have erased := rsns_erased whole
  have counter (other : WindowType) := counter_acked acked other
    (counted_positive tally opened acked whole place other)
  have member := (opened_acked opened acked pushed).1
  have some := Multiset.card_pos_iff_exists_mem.2 ⟨_, member⟩
  rw [pushed] at place erased counter
  subst place
  have requests := erased .pullRequest .request
  have data := erased .pushUnsolicitedData .data
  have solicited := erased .pushSolicitedData .data
  rw [if_neg fun both => by cases both.1] at requests data
  rw [if_pos ⟨rfl, rfl⟩] at solicited
  refine ⟨⟨?_, ?_⟩, ?_, balanced.pulls⟩
  · rw [counter, tally.request, if_pos ⟨.inr (.inl rfl), rfl⟩, requests,
      Multiset.card_erase_of_mem member, Nat.pred_eq_sub_one, Nat.add_sub_assoc some]
  · rw [counter, tally.data, data, if_neg fun both => by cases both.2]
  · have pushes := balanced.pushes
    rw [solicited, ← Multiset.cons_erase member, Multiset.cons_add, Multiset.add_cons,
      Multiset.cons_inj_right] at pushes
    exact pushes

end Counts

theorem books_acked (books : Books config sent answered limit before)
    (found : (before.tx window).outstandingPacketContexts psn = some context)
    (acked : Acked config window psn context before after) :
    Books config sent answered limit after := by
  obtain ⟨live, debts, pulls, contains, tally, balanced, opened⟩ := books.counted
  obtain ⟨rest, whole, contained⟩ := contains_erase (contains window) found
  have place := books.recorded.windows window psn context found
  have contains := contains_acked contains contained acked
  refine ⟨recorded_acked books.recorded acked, books.queued.onward acked.onward
    (acked.pending ▸ books.queued.distinct) (fun work => acked.pending ▸ id), ?_, fun other => ?_⟩
  · by_cases pushed : context.packetType = .pushSolicitedData
    · obtain ⟨tally, balanced⟩ := counts_pushed tally balanced opened acked whole place pushed
      exact ⟨_, _, _, contains, tally, balanced, (opened_acked opened acked pushed).2⟩
    · obtain ⟨tally, balanced⟩ := counts_acked tally balanced opened acked whole place pushed
      exact ⟨_, _, _, contains, tally, balanced, opened.onward acked.onward⟩
  · refine UInt32.le_trans ?_ (books.bounded other)
    rw [UInt32.le_iff_toNat_le, counter_acked acked other
      (counted_positive tally opened acked whole place other)]
    split_ifs <;> omega

end Acked
end Isekai.BooksAcknowledged
