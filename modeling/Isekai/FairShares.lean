import Mathlib.Algebra.Order.BigOperators.Group.Finset
import Mathlib.Algebra.Order.Ring.Nat

/-! Shares of a resource that is handed out in rounds. A member may be given its share in a round,
and what all members may still be given, those that have dropped out for a while among them, is
never more than what is left of the resource. -/

namespace Isekai.FairShares

variable {Member : Type}

/-- A round: what each member may still be given, what it has been given, and what is left. -/
structure Round (Member : Type) where
  left : Member → ℕ
  given : Member → ℕ
  total : ℤ

/-- No member gets more than its share, and there is enough for what members may still be given. -/
structure Sound (members : Finset Member) (share : Member → ℕ) (round : Round Member) : Prop where
  shares : ∀ member ∈ members, round.given member + round.left member ≤ share member
  covered : ((∑ member ∈ members, round.left member : ℕ) : ℤ) ≤ round.total

/-- A member that has been given its share but for what it may still be given. -/
def Whole (share : Member → ℕ) (round : Round Member) (member : Member) : Prop :=
  round.given member + round.left member = share member

variable {members : Finset Member} {share : Member → ℕ} {round next : Round Member}
  {member other : Member}

theorem given_le (sound : Sound members share round) (known : member ∈ members) :
    round.given member ≤ share member :=
  le_trans (Nat.le_add_right _ _) (sound.shares member known)

/-- A round begins with the sum of all shares. -/
theorem sound_restart {left : Member → ℕ} {total : ℤ}
    (fits : ∀ member ∈ members, left member ≤ share member)
    (enough : total = ((∑ member ∈ members, share member : ℕ) : ℤ)) :
    Sound members share ⟨left, fun _ => 0, total⟩ := by
  refine ⟨fun member known => by simpa using fits member known, ?_⟩
  have sums := Finset.sum_le_sum fits
  dsimp only
  omega

/-- If nothing is left, no member may be given anything. -/
theorem left_eq_zero (sound : Sound members share round) (spent : round.total = 0)
    (known : member ∈ members) : round.left member = 0 := by
  have summand := Finset.single_le_sum (fun other _ => Nat.zero_le (round.left other)) known
  have covered := sound.covered
  omega

/-- A member that has nothing left has been given its share. -/
theorem given_eq_share (whole : Whole share round member) (spent : round.left member = 0) :
    round.given member = share member := by
  unfold Whole at whole
  omega

/-- What a member is given reaches no other member. -/
structure Takes (round next : Round Member) (member : Member) : Prop where
  left : round.left member = next.left member + 1
  given : next.given member = round.given member + 1
  leftOthers : ∀ other, other ≠ member → next.left other = round.left other
  givenOthers : ∀ other, other ≠ member → next.given other = round.given other
  total : next.total = round.total - 1

theorem sound_takes [DecidableEq Member] (takes : Takes round next member)
    (known : member ∈ members) (sound : Sound members share round) :
    Sound members share next := by
  constructor
  · intro other among
    have shares := sound.shares other among
    by_cases same : other = member
    · subst same
      have left := takes.left
      have given := takes.given
      omega
    · rw [takes.leftOthers other same, takes.givenOthers other same]
      exact shares
  · have others : ∑ other ∈ members.erase member, next.left other =
        ∑ other ∈ members.erase member, round.left other :=
      Finset.sum_congr rfl fun other among =>
        takes.leftOthers other (Finset.ne_of_mem_erase among)
    have before := Finset.add_sum_erase members round.left known
    have after := Finset.add_sum_erase members next.left known
    have left := takes.left
    have total := takes.total
    have covered := sound.covered
    omega

theorem whole_takes [DecidableEq Member] (takes : Takes round next member)
    (whole : Whole share round other) : Whole share next other := by
  unfold Whole at whole ⊢
  by_cases same : other = member
  · subst same
    have left := takes.left
    have given := takes.given
    omega
  · rw [takes.leftOthers other same, takes.givenOthers other same]
    exact whole

end Isekai.FairShares
