import BlockOrder.Classifier.Compile
import BlockOrder.Proofs.Order.Preorder
import BlockOrder.Proofs.Sort.Nesting
import BlockOrder.Proofs.Sort.Separators
import Mathlib.Data.Fintype.EquivFin
import Mathlib.Data.List.FinRange

/-!
# Which block comes to which place

A level has places, and each place keeps its separator and its line ending.  What is left of the
blocks is permuted: blocks that belong first, then those without a place of their own in the order
of their keys, then blocks that belong last.  Wherever the order leaves a choice, blocks stay in
the order they were in.
-/

namespace BlockOrder

/-! ## Lists by places -/

namespace Arrange

section Sorts

variable {c : Classifier} {k : KeyOrder} {n : Nat} {texts : Fin n → Text}
  {origin : Equiv.Perm (Fin n)} {i j : Fin n}

/-- The texts are sorted if that from the place `origin i` comes to the place `i`. -/
structure Sorts (c : Classifier) (k : KeyOrder) (texts : Fin n → Text)
    (origin : Equiv.Perm (Fin n)) : Prop where
  ranked : ∀ i j, i < j →
    (SortEntry.ofText c (texts (origin i))).rank.toNat ≤
      (SortEntry.ofText c (texts (origin j))).rank.toNat
  /-- Keys that compare as a total preorder are in order, and equal ones in the order they were
  in. -/
  ordered : k.direction ≠ .rand → Std.TransCmp k.compare → ∀ i j, i < j →
    (SortEntry.ofText c (texts (origin i))).rank = .normal →
    (SortEntry.ofText c (texts (origin j))).rank = .normal →
      k.compare (c.sortKey (texts (origin i))) (c.sortKey (texts (origin j))) ≠ .gt ∧
        (k.compare (c.sortKey (texts (origin i))) (c.sortKey (texts (origin j))) = .eq →
          origin i < origin j)
  /-- Texts that belong first, or last, are in the order they were in. -/
  stable : k.direction ≠ .rand → ∀ i j, i < j →
    (SortEntry.ofText c (texts (origin i))).rank ≠ .normal →
    (SortEntry.ofText c (texts (origin i))).rank = (SortEntry.ofText c (texts (origin j))).rank →
      origin i < origin j

end Sorts

variable (c : Classifier) (k : KeyOrder)

/-! ## Places of a level -/

end Arrange

namespace Workspace

variable {w : Workspace}

/-- The texts of a level with their labels sorted, if the configuration asks for it. -/
def labelled (w : Workspace) (k : KeyOrder) (texts : List Text) (draws : Draws) :
    Except Inconsistent (List Text × Draws) :=
  if w.config.sortHeaders then Arrange.sortAllHeaders w.classifier k texts draws
  else .ok (texts, draws)

end Workspace

end BlockOrder
