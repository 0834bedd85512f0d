import BlockOrder.Order.Keystream

/-!
# Shuffling

A list in random order: from the last place to the second, each place receives an element drawn
from those that are left.
-/

namespace BlockOrder

variable {α : Type}

/-- The element at a place, and the list without it: the last element takes its place. -/
def pick? (place : Nat) (l : List α) : Option (α × List α) :=
  match l[place]?, l.getLast? with
  | some x, some last => some (x, (l.set place last).dropLast)
  | _, _ => none

/-- Shuffles a list in front of elements that have been drawn. -/
def shuffleFrom : (size : Nat) → List α → List α → Keystream → List α × Keystream
  | 0, left, drawn, k => (left ++ drawn, k)
  | 1, left, drawn, k => (left ++ drawn, k)
  | size + 1, left, drawn, k =>
      let (place, k) := k.draw (size + 1)
      match pick? place left with
      | some (x, left) => shuffleFrom size left (x :: drawn) k
      | none => (left ++ drawn, k)

def shuffle (l : List α) (k : Keystream) : List α × Keystream := shuffleFrom l.length l [] k

end BlockOrder
