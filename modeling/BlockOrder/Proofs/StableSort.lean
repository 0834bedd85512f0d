import BlockOrder.StableSort
import Mathlib.Data.List.Chain

/-!
# Sorted lists

Insertion sort puts a list in order whenever any two elements compare, and leaves a list in order
as it is.  That the order is transitive is not needed for either: it is needed only for an element
to precede all that come after it and not just the next one.
-/

namespace BlockOrder

variable {α : Type} {le : α → α → Bool}

/-- Every element may precede the next one. -/
def InOrder (le : α → α → Bool) (l : List α) : Prop := l.IsChain fun a b => le a b = true

theorem inOrder_cons_insertBy {x y : α} {l : List α} (htotal : ∀ a b, le a b = true ∨ le b a = true)
    (hl : InOrder le (y :: l)) (hyx : le y x = true) : InOrder le (y :: insertBy le x l) := by
  induction l generalizing y with
  | nil => exact List.isChain_pair.mpr hyx
  | cons z zs ih =>
      obtain ⟨hyz, hzs⟩ := List.isChain_cons_cons.mp hl
      simp only [insertBy]
      split
      · next hxz => exact List.isChain_cons_cons.mpr ⟨hyx, List.isChain_cons_cons.mpr ⟨hxz, hzs⟩⟩
      · next hxz =>
          have hzx := (htotal x z).resolve_left hxz
          exact List.isChain_cons_cons.mpr ⟨hyz, ih hzs hzx⟩

theorem inOrder_insertBy {x : α} {l : List α} (htotal : ∀ a b, le a b = true ∨ le b a = true)
    (hl : InOrder le l) : InOrder le (insertBy le x l) := by
  cases l with
  | nil => exact List.isChain_singleton x
  | cons y ys =>
      simp only [insertBy]
      split
      · next hxy => exact List.isChain_cons_cons.mpr ⟨hxy, hl⟩
      · next hxy =>
          have hyx := (htotal x y).resolve_left hxy
          exact inOrder_cons_insertBy htotal hl hyx

theorem inOrder_sortBy (htotal : ∀ a b, le a b = true ∨ le b a = true) (l : List α) :
    InOrder le (sortBy le l) := by
  induction l with
  | nil => exact List.isChain_nil
  | cons x xs ih => exact inOrder_insertBy htotal ih

theorem sortBy_eq_self {l : List α} (hl : InOrder le l) : sortBy le l = l := by
  induction l with
  | nil => rfl
  | cons x xs ih =>
      rw [sortBy, ih hl.tail]
      cases xs with
      | nil => rfl
      | cons y ys =>
          have hxy := (List.isChain_cons_cons.mp hl).1
          simp [insertBy, hxy]

end BlockOrder
