import Mathlib.Data.Int.Order.Basic

/-! Two pools of credits, of which the second may borrow from the first when it has run out. What is
given back is told apart by the levels alone: while the second pool is empty the first one is filled
up to its limit. -/

namespace Isekai.LendingPools

/-- The levels of the two pools, and the limit up to which what is given back goes to the first. -/
structure Pools where
  lender : ℤ
  borrower : ℤ
  limit : ℤ

/-- What is taken from each of the two. -/
structure Share where
  lender : ℤ
  borrower : ℤ

/-- No part of it is negative. -/
def Share.Nonneg (share : Share) : Prop := 0 ≤ share.lender ∧ 0 ≤ share.borrower

variable {pools : Pools} {share taken : Share} {size : ℤ}

/-- Some part of the second share can be borrowed so that both pools have what is left. -/
def Pools.Covers (pools : Pools) (share : Share) : Prop :=
  ∃ borrowed, 0 ≤ borrowed ∧ share.lender + borrowed ≤ pools.lender ∧
    share.borrower - borrowed ≤ pools.borrower

theorem covers_iff : pools.Covers share ↔
    share.lender ≤ pools.lender ∧
      share.borrower + share.lender ≤ pools.borrower + pools.lender := by
  constructor
  · rintro ⟨borrowed, positive, first, second⟩
    omega
  · rintro ⟨first, both⟩
    by_cases enough : share.borrower ≤ pools.borrower
    · exact ⟨0, le_refl 0, by omega, by omega⟩
    · exact ⟨share.borrower - pools.borrower, by omega, by omega, by omega⟩

/-- The second share is taken from its own pool as far as that goes. -/
def Pools.take (pools : Pools) (share : Share) : Pools :=
  { pools with
    lender := pools.lender - share.lender - (share.borrower - min pools.borrower share.borrower)
    borrower := pools.borrower - min pools.borrower share.borrower }

/-- The second share is given to the first pool, up to its limit, while the second is empty. -/
def Pools.give (pools : Pools) (share : Share) : Pools :=
  let lender := pools.lender + share.lender
  if pools.borrower = 0 then
    let back := min share.borrower (pools.limit - lender)
    { pools with lender := lender + back, borrower := pools.borrower + (share.borrower - back) }
  else { pools with lender, borrower := pools.borrower + share.borrower }

/-- The levels and what is taken add up to the limit and the size of the second pool, no level is
negative, the first is within its limit, and only an empty pool has borrowed. -/
structure Balanced (size : ℤ) (pools : Pools) (taken : Share) : Prop where
  total : pools.lender + pools.borrower + (taken.lender + taken.borrower) = pools.limit + size
  lender : 0 ≤ pools.lender
  borrower : 0 ≤ pools.borrower
  within : pools.lender ≤ pools.limit
  lent : pools.limit ≤ pools.lender + taken.lender ∨ pools.borrower = 0

theorem Balanced.borrower_le (balanced : Balanced size pools taken) (nonneg : taken.Nonneg)
    (positive : 0 ≤ size) : pools.borrower ≤ size := by
  obtain ⟨first, second⟩ := nonneg
  have total := balanced.total
  rcases balanced.lent with none | empty <;> omega

/-- With nothing taken the pools are full. -/
theorem Balanced.full (balanced : Balanced size pools taken) (positive : 0 ≤ size)
    (nothing : taken.lender = 0 ∧ taken.borrower = 0) :
    pools.lender = pools.limit ∧ pools.borrower = size := by
  obtain ⟨first, second⟩ := nothing
  have total := balanced.total
  have within := balanced.within
  rcases balanced.lent with none | empty <;> omega

theorem take_balanced (balanced : Balanced size pools taken) (nonneg : share.Nonneg)
    (covers : pools.Covers share) :
    Balanced size (pools.take share)
      ⟨taken.lender + share.lender, taken.borrower + share.borrower⟩ := by
  obtain ⟨first, second⟩ := nonneg
  obtain ⟨enough, both⟩ := covers_iff.1 covers
  obtain ⟨total, lender, borrower, within, lent⟩ := balanced
  by_cases own : pools.borrower ≤ share.borrower
  · have least : min pools.borrower share.borrower = pools.borrower := min_eq_left own
    constructor <;> simp only [Pools.take, least] <;> omega
  · have least : min pools.borrower share.borrower = share.borrower := min_eq_right (by omega)
    constructor <;> simp only [Pools.take, least] <;> omega

/-- What is given back to the first pool fits in it, unless the second pool is empty. -/
def Pools.Fits (pools : Pools) (share : Share) : Prop :=
  pools.borrower = 0 ∨ pools.lender + share.lender ≤ pools.limit

theorem give_balanced (balanced : Balanced size pools taken) (nonneg : share.Nonneg)
    (part : share.lender ≤ taken.lender) (fits : pools.Fits share) :
    Balanced size (pools.give share)
      ⟨taken.lender - share.lender, taken.borrower - share.borrower⟩ := by
  obtain ⟨first, second⟩ := nonneg
  obtain ⟨total, lender, borrower, within, lent⟩ := balanced
  by_cases empty : pools.borrower = 0
  · by_cases full : share.borrower ≤ pools.limit - (pools.lender + share.lender)
    · have least := min_eq_left full
      constructor <;> simp only [Pools.give, if_pos empty, least] <;> omega
    · have least := min_eq_right (le_of_not_ge full)
      constructor <;> simp only [Pools.give, if_pos empty, least] <;> omega
  · have room := fits.resolve_left empty
    constructor <;> simp only [Pools.give, if_neg empty] <;> omega

/-- What does not fit leaves the first pool above its limit. -/
theorem give_beyond (beyond : ¬ pools.Fits share) :
    pools.limit < (pools.give share).lender := by
  obtain ⟨empty, room⟩ := not_or.1 beyond
  simp only [Pools.give, if_neg empty]
  omega

end Isekai.LendingPools
