import BlockOrder.Proofs.RunSort.Sorting
import BlockOrder.Sort.Arrange
import Mathlib.Order.Defs.LinearOrder

/-!
# The order of entries

Entries compare by their ranks first.  If keys compare as a total preorder, so do entries, and
sorting them has a result.  Whatever keys do, entries come out ordered by rank, and those that have
a place of their own in the order they were in.
-/

namespace BlockOrder

open RunSort

theorem Rank.toNat_injective : Function.Injective Rank.toNat := by
  intro a b h
  revert h
  cases a <;> cases b <;> decide

namespace SortEntry

variable {k : KeyOrder} {a b c : SortEntry}

theorem order_of_rank_ne (h : a.rank ≠ b.rank) :
    a.order k b = compare a.rank.toNat b.rank.toNat := by
  have hne : compare a.rank.toNat b.rank.toNat ≠ .eq := by
    intro heq
    exact h (Rank.toNat_injective (Nat.compare_eq_eq.mp heq))
  rw [order]
  cases hcompare : compare a.rank.toNat b.rank.toNat with
  | lt => rfl
  | eq => exact absurd hcompare hne
  | gt => rfl

theorem order_of_rank_eq (h : a.rank = b.rank) :
    a.order k b = if a.rank = .normal then k.compare a.key b.key else .eq := by
  rw [order, h, Nat.compare_eq_eq.mpr rfl]
  rfl

theorem less_iff : less k a b = true ↔
    a.rank.toNat < b.rank.toNat ∨
      a.rank = b.rank ∧ a.rank = .normal ∧ k.compare a.key b.key = .lt := by
  rw [less, beq_iff_eq]
  by_cases hrank : a.rank = b.rank
  · rw [order_of_rank_eq hrank, hrank]
    split
    · next hnormal => simp [hnormal]
    · next hnormal => simp [hnormal]
  · rw [order_of_rank_ne hrank, Nat.compare_eq_lt]
    simp [hrank]

theorem not_less_iff : less k b a = false ↔
    a.rank.toNat < b.rank.toNat ∨
      a.rank = b.rank ∧ (a.rank = .normal → k.compare b.key a.key ≠ .lt) := by
  rw [Bool.eq_false_iff, ne_eq, less_iff]
  rcases Nat.lt_trichotomy a.rank.toNat b.rank.toNat with hlt | heq | hgt
  · have hne : b.rank ≠ a.rank := fun h => Nat.ne_of_gt hlt (congrArg Rank.toNat h)
    simp [hlt, hne, Nat.not_lt_of_gt hlt]
  · have hrank := Rank.toNat_injective heq
    simp [hrank]
  · have hne : a.rank ≠ b.rank := fun h => Nat.ne_of_gt hgt (congrArg Rank.toNat h)
    simp [hgt, hne, Nat.not_lt_of_gt hgt]

/-- If keys compare as a total preorder, entries make sense as an order. -/
theorem weakOrder_less (hk : Std.TransCmp k.compare) : WeakOrder (less k) where
  asymm {a b} hab := by
    rw [less_iff] at hab
    rw [not_less_iff]
    refine hab.imp_right fun ⟨hrank, hnormal, hlt⟩ => ⟨hrank, fun _ hlt' => ?_⟩
    have hswap : k.compare a.key b.key = (k.compare b.key a.key).swap := Std.OrientedCmp.eq_swap
    rw [hlt, hlt'] at hswap
    cases hswap
  trans {a b c} hab hbc := by
    rw [not_less_iff] at hab hbc ⊢
    rcases hab with hlt | ⟨hrank, hkey⟩ <;> rcases hbc with hlt' | ⟨hrank', hkey'⟩
    · exact .inl (Nat.lt_trans hlt hlt')
    · exact .inl (hrank' ▸ hlt)
    · exact .inl (hrank ▸ hlt')
    · refine .inr ⟨hrank.trans hrank', fun hnormal => ?_⟩
      have hba := Ordering.ne_lt_iff_isGE.mp (hkey hnormal)
      have hcb := Ordering.ne_lt_iff_isGE.mp (hkey' (hrank ▸ hnormal))
      exact Ordering.ne_lt_iff_isGE.mpr (Std.TransCmp.isGE_trans hcb hba)

end SortEntry

end BlockOrder
