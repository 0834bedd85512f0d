import BlockOrder.Classifier.Basic
import BlockOrder.Order.KeyOrder
import BlockOrder.Order.Shuffle
import BlockOrder.RunSort
import BlockOrder.Text.LineEnding

/-!
# Arranging the blocks of one level

Blocks that belong first come first, and those that belong last come last; the others are sorted
by their keys.  What separates blocks belongs to the place and not to the block: line endings
stay where they are, and so do separators if all blocks but the last have the same one.
-/

namespace BlockOrder

/-- Where random numbers come from.  Without a seed nothing is shuffled. -/
abbrev Draws := Option Keystream

/-- The place of a block before it is compared with others. -/
inductive Rank where
  | first
  | normal
  | last
deriving DecidableEq

namespace Rank

def toNat : Rank → Nat
  | first => 0
  | normal => 1
  | last => 2

end Rank

/-- A text with what it is sorted by. -/
structure SortEntry where
  rank : Rank
  key : Text
  text : Text

namespace SortEntry

def ofText (c : Classifier) (t : Text) : SortEntry where
  rank := if c.isForcedFirst t then .first else if c.isForcedLast t then .last else .normal
  key := c.sortKey t
  text := t

/-- The order of texts: by rank, and by key among those that have no place of their own. -/
def order (k : KeyOrder) (a b : SortEntry) : Ordering :=
  (compare a.rank.toNat b.rank.toNat).then
    (if a.rank = .normal then k.compare a.key b.key else .eq)

def less (k : KeyOrder) (a b : SortEntry) : Bool := a.order k b == .lt

/-- As many entries as the sort may set aside: those that fit into eight megabytes, at 56 bytes for
each. -/
def mostAside : Nat := 8000000 / 56

end SortEntry

namespace Arrange

/-- A list in random order, if the direction asks for it. -/
def mixed {α : Type} (k : KeyOrder) (l : List α) (draws : Draws) : List α × Draws :=
  match k.direction, draws with
  | .rand, some stream => let (l, stream) := shuffle l stream; (l, some stream)
  | _, _ => (l, draws)

def sortTexts (c : Classifier) (k : KeyOrder) (texts : List Text) (draws : Draws) :
    Except Inconsistent (List Text × Draws) := do
  let (entries, draws) := mixed k (texts.map (SortEntry.ofText c)) draws
  let entries ← RunSort.sort (SortEntry.less k) SortEntry.mostAside entries
  return (entries.map (·.text), draws)

/-- A block with its labels in order: the lines at its start that are headers, if there are at
least two. -/
def sortHeaders (c : Classifier) (k : KeyOrder) (t : Text) (draws : Draws) :
    Except Inconsistent (Text × Draws) :=
  let isHeader := fun line : Text => !line.isEmpty && c.isHeader line
  let headers := t.lines.takeWhile isHeader
  if headers.length < 2 then return (t, draws)
  else do
    let (sorted, draws) ← sortTexts c k headers draws
    return (Text.unlines (sorted ++ t.lines.drop headers.length), draws)

def sortAllHeaders (c : Classifier) (k : KeyOrder) :
    List Text → Draws → Except Inconsistent (List Text × Draws)
  | [], draws => return ([], draws)
  | t :: rest, draws => do
      let (t, draws) ← sortHeaders c k t draws
      let (rest, draws) ← sortAllHeaders c k rest draws
      return (t :: rest, draws)

/-- The separators of a level: that of all blocks but the last, and that of the last block.
Where the last block has the same separator as the others, or the others have none in common,
separators belong to the blocks. -/
def separators (c : Classifier) (bodies : List Text) : Option Char × Option Char :=
  match c.commonSeparator? bodies.dropLast with
  | none => (none, none)
  | some s =>
      let last := bodies.getLastD []
      if last.getLast? = some s then (none, none) else (some s, c.trailingSeparator? last)

/-- What each of `n` places has at its end. -/
def closers (separator floated : Option Char) : (n : Nat) → List Text
  | 0 => []
  | 1 => [floated.toList]
  | n + 1 => separator.toList :: closers separator floated n

/-- A body without what belongs to its place. -/
def core (body closer : Text) : Text := body.take (body.length - closer.length)

def arrange (c : Classifier) (keepNewlines : Bool) (k : KeyOrder) (texts : List Text)
    (draws : Draws) : Except Inconsistent (List Text × Draws) := do
  let split := texts.map fun t => if keepNewlines then LineEnding.splitSuffix t else (t, [])
  let bodies := split.map (·.1)
  let suffixes := split.map (·.2)
  let (separator, floated) := separators c bodies
  let closers := closers separator floated bodies.length
  let (sorted, draws) ← sortTexts c k (List.zipWith core bodies closers) draws
  return (List.zipWith (· ++ ·) sorted (List.zipWith (· ++ ·) closers suffixes), draws)

/-- The texts of a level in order, their labels first if labels are to be sorted. -/
def arrangeAll (c : Classifier) (headers keepNewlines : Bool) (k : KeyOrder) (texts : List Text)
    (draws : Draws) : Except Inconsistent (List Text × Draws) := do
  let (texts, draws) ← if headers then sortAllHeaders c k texts draws else pure (texts, draws)
  arrange c keepNewlines k texts draws

end Arrange

end BlockOrder
