import Mathlib.Algebra.Order.BigOperators.Group.Finset
import Mathlib.Data.Fintype.Prod
import Mathlib.Data.Rat.Floor

/-! Totals over finitely many accounts, and what they become when one account moves; and totals
over the items that are held at a time. -/

namespace Isekai.Ledger

section Accounts
variable {Account : Type} [Fintype Account]

/-- The sum of all balances. -/
def total (balance : Account → Nat) : Nat := ∑ account, balance account

theorem total_zero {balance : Account → Nat} (empty : ∀ account, balance account = 0) :
    total balance = 0 :=
  Finset.sum_eq_zero fun account _ => empty account

theorem total_congr {before after : Account → Nat}
    (same : ∀ account, after account = before account) : total after = total before :=
  Finset.sum_congr rfl fun account _ => same account

/-- No account holds more than all of them. -/
theorem balance_le_total (balance : Account → Nat) (account : Account) :
    balance account ≤ total balance :=
  Finset.single_le_sum (fun _ _ => Nat.zero_le _) (Finset.mem_univ account)

theorem total_lt {less more : Account → Nat} (le : ∀ account, less account ≤ more account)
    (account : Account) (lt : less account < more account) : total less < total more :=
  Finset.sum_lt_sum (fun other _ => le other) ⟨account, Finset.mem_univ account, lt⟩

/-- When one account moves, the total moves with it. -/
theorem total_move (before after : Account → Nat) (account : Account)
    (elsewhere : ∀ other, other ≠ account → after other = before other) :
    total after + before account = total before + after account := by
  classical
  have rest : ∑ other ∈ Finset.univ.erase account, after other =
      ∑ other ∈ Finset.univ.erase account, before other :=
    Finset.sum_congr rfl fun other member => elsewhere other (Finset.ne_of_mem_erase member)
  have splitAfter := Finset.add_sum_erase Finset.univ after (Finset.mem_univ account)
  have splitBefore := Finset.add_sum_erase Finset.univ before (Finset.mem_univ account)
  simp only [total]
  omega

end Accounts

/-! ## Held items -/

section Held
variable {Item : Type}

/-- The sum of the weights of all held items. -/
def weighed (weight : Item → Nat) (held : List Item) : Nat := (held.map weight).sum

@[simp] theorem weighed_nil (weight : Item → Nat) : weighed weight [] = 0 := rfl

@[simp] theorem weighed_cons (weight : Item → Nat) (item : Item) (held : List Item) :
    weighed weight (item :: held) = weight item + weighed weight held := by simp [weighed]

theorem weighed_le {less more : Item → Nat} {held : List Item}
    (le : ∀ item ∈ held, less item ≤ more item) : weighed less held ≤ weighed more held :=
  List.sum_le_sum le

theorem weighed_perm (weight : Item → Nat) {held next : List Item} (perm : next.Perm held) :
    weighed weight next = weighed weight held := (perm.map weight).sum_eq

theorem weighed_erase [DecidableEq Item] (weight : Item → Nat) {held : List Item} {item : Item}
    (mem : item ∈ held) : weighed weight held = weight item + weighed weight (held.erase item) := by
  rw [← weighed_cons, weighed_perm weight (List.perm_cons_erase mem)]

theorem weight_le_weighed [DecidableEq Item] (weight : Item → Nat) {held : List Item}
    {item : Item} (mem : item ∈ held) : weight item ≤ weighed weight held := by
  rw [weighed_erase weight mem]
  omega

end Held

end Isekai.Ledger
