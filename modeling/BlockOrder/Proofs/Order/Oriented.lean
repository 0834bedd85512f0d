import BlockOrder.Proofs.Order.Collation

/-!
# Comparing the other way round

Unless case counts, comparing two keys the other way round gives the opposite, with whatever
characters are ignored or have an order of their own.
-/

namespace BlockOrder

theorem CollationOptions.IgnoresCase.collate_swap {o : CollationOptions} (h : o.IgnoresCase)
    (a b : Text) : o.collate a b = (o.collate b a).swap := by
  rw [h.collate_eq, h.collate_eq]
  exact Std.OrientedCmp.eq_swap

namespace KeyOrder

variable {k : KeyOrder}

/-- Texts compare the other way round as they should. -/
def Oriented (k : KeyOrder) : Prop := ∀ a b, k.collate a b = (k.collate b a).swap

theorem customCompare_of_unplaced {order : List Char} {x y : Char}
    (hplace : k.place? order x = none ∨ k.place? order y = none) (xs ys : Text) :
    k.customCompare order (x :: xs) (y :: ys) =
      if k.collate [x] [y] = .eq then k.customCompare order xs ys
      else some (k.collate [x] [y]) := by
  rw [customCompare]
  rcases hplace with hx | hy
  · rw [hx]
    cases k.collate [x] [y] <;> rfl
  · rw [hy]
    cases k.place? order x <;> cases k.collate [x] [y] <;> rfl

theorem customCompare_swap (h : k.Oriented) (order : List Char) (a b : Text) :
    k.customCompare order a b = (k.customCompare order b a).map Ordering.swap := by
  induction a generalizing b with
  | nil => cases b <;> rfl
  | cons x xs ih =>
      cases b with
      | nil => rfl
      | cons y ys =>
          by_cases hplace : k.place? order x = none ∨ k.place? order y = none
          · rw [customCompare_of_unplaced hplace, customCompare_of_unplaced hplace.symm, h [x] [y]]
            cases k.collate [y] [x] with
            | lt => rfl
            | eq => exact ih ys
            | gt => rfl
          · obtain ⟨hx, hy⟩ := not_or.mp hplace
            obtain ⟨i, hi⟩ := Option.ne_none_iff_exists'.mp hx
            obtain ⟨j, hj⟩ := Option.ne_none_iff_exists'.mp hy
            simp only [customCompare, hi, hj]
            by_cases hij : i = j
            · -- the same place: it decides only where one of the texts ends, which is symmetric
              simp only [hij, ne_eq, not_true_eq_false, if_false, Bool.or_comm ys.isEmpty]
              split
              · rw [Option.map_some, Nat.compare_swap]
              · exact ih ys
            · have hji : j ≠ i := fun h => hij h.symm
              simp only [ne_eq, hij, hji, not_false_eq_true, if_true, Option.map_some,
                Nat.compare_swap]

theorem Oriented.compare_swap (h : k.Oriented) (a b : Text) :
    k.compare a b = (k.compare b a).swap := by
  unfold KeyOrder.compare
  split
  · rfl
  · have hcustom : ∀ a b : Text,
        (k.customOrder.bind fun order => k.customCompare order a b).getD (k.collate a b) =
          ((k.customOrder.bind fun order => k.customCompare order b a).getD
            (k.collate b a)).swap := by
      intro a b
      cases k.customOrder with
      | none => exact h a b
      | some order =>
          rw [Option.bind_some, Option.bind_some, customCompare_swap h]
          cases k.customCompare order b a with
          | none => exact h a b
          | some o => rfl
    simp only [hcustom (k.reduce a)]
    cases k.direction <;> rfl

theorem oriented_ofOptions {o : CollationOptions} (h : o.IgnoresCase) (direction : Direction) :
    (ofOptions o direction).Oriented := h.collate_swap

end KeyOrder

end BlockOrder
