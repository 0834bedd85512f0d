import BlockOrder.Blocks.Query
import BlockOrder.Blocks.Selection
import BlockOrder.Edit.Pending
import BlockOrder.Sort.Arrange
import BlockOrder.Sort.Options

/-!
# Sorting blocks

Every block becomes a text, its inner blocks sorted first if the depth allows, and the texts of a
level are arranged.  Pending edits that lie inside a stretch that is copied become part of it.
-/

namespace BlockOrder

/-- What changes in the course of sorting. -/
structure SortState where
  cache : LineCache
  pending : Pending
  draws : Draws

/-- A step in the course of sorting, which may be cancelled. -/
abbrev SortStep := EStateM Cancelled SortState

/-- A computation in the course of sorting.  It may be cancelled, and it has no result if keys are
found to compare inconsistently. -/
abbrev Sorting := ExceptT Inconsistent SortStep

/-- Work on the line cache that may include sorting. -/
abbrev SortWork := ExceptT Inconsistent Work

/-- Work on the line cache in the course of sorting. -/
def SortStep.ofWork {α : Type} (x : Work α) : SortStep α := fun s =>
  match x s.cache with
  | .ok a cache => .ok a { s with cache }
  | .error e cache => .error e { s with cache }

/-- What is left to do on a level: how deep inner blocks are sorted, and how many levels from
here on stay as they are. -/
structure Level where
  depth : Depth
  skipParents : Nat

namespace Level

def inner (l : Level) : Level := ⟨l.depth.pred, l.skipParents - 1⟩

end Level

/-- A block as inner blocks with what comes before and after them. -/
structure Split where
  head : Range
  inner : List Range
  tail : Range

namespace Split

def changeFirst {α : Type} (f : α → α) : List α → List α
  | [] => []
  | x :: xs => f x :: xs

def changeLast {α : Type} (f : α → α) : List α → List α
  | [] => []
  | [x] => [f x]
  | x :: xs => x :: changeLast f xs

/-- The inner blocks of a block, kept within it, and what is around them. -/
def of? (block : Range) (inner : List Range) : Option Split :=
  let opened := changeFirst (fun r => { r with start := r.start.later block.start }) inner
  let clipped := changeLast (fun r => { r with stop := r.stop.earlier block.stop }) opened
  match clipped.head?, clipped.getLast? with
  | some first, some last =>
      some ⟨.between block.start first.start, clipped, .between last.stop block.stop⟩
  | _, _ => none

end Split

namespace Workspace

def checkSorting (w : Workspace) : SortStep Unit := .ofWork w.check

/-- The text of a range with the pending edits inside it, which are pending no more. -/
def editedText (w : Workspace) (r : Range) : SortStep Text := do
  w.checkSorting
  let s ← get
  let (text, pending) := s.pending.editedText w.document r
  set { s with pending }
  return text

/-- The texts of a level in order, unless the level is skipped. -/
def arrangeLevel (w : Workspace) (k : KeyOrder) (l : Level) (texts : List Text) :
    Sorting (List Text) :=
  if 0 < l.skipParents then return texts
  else do
    w.checkSorting
    let s ← get
    let (texts, draws) ← Arrange.arrangeAll w.classifier w.config.sortHeaders
      w.config.keepNewlines k texts s.draws
    set { s with draws }
    return texts

/-- The inner blocks of a block. -/
def innerRanges (w : Workspace) (block : Range) : SortStep (List Range) :=
  .ofWork (w.innerBlocks block)

/-- The texts of several blocks, one after the other. -/
def blockTexts (w : Workspace) (text : Range → Sorting Text) : List Range → Sorting (List Text)
  | [] => return []
  | b :: rest => do
      w.checkSorting
      let t ← text b
      return t :: (← w.blockTexts text rest)

/-- The text of a block with its inner blocks sorted.  There are no more levels than lines, so
the number of lines is enough `room` for all of them. -/
def blockText (w : Workspace) (k : KeyOrder) : (room : Nat) → Level → Range → Sorting Text
  | 0, _, block => w.editedText (w.document.clamp block)
  | room + 1, l, block => do
      let block := w.document.clamp block
      if l.depth.isZero || block.isSingleLine then w.editedText block
      else
        match Split.of? block (← w.innerRanges block) with
        | none => w.editedText block
        | some split =>
            let head ← w.editedText split.head
            let texts ← w.blockTexts (w.blockText k room l.inner) split.inner
            let sorted ← w.arrangeLevel k l.inner texts
            let tail ← w.editedText split.tail
            return head ++ Text.unlines sorted ++ tail

def sortLevel (w : Workspace) (o : SortOptions) (blocks : List Range) : Sorting (List Text) := do
  let l : Level := ⟨o.depth, o.skipParents⟩
  let texts ← w.blockTexts (w.blockText o.order w.document.lineCount l) blocks
  w.arrangeLevel o.order l texts

/-- The texts of blocks, sorted, and the edits that are still pending. -/
def sortBlocks (w : Workspace) (o : SortOptions) (blocks : List Range) (pending : Pending) :
    SortWork (List Text × Pending) := fun cache =>
  match w.sortLevel o blocks ⟨cache, pending, o.seed.map Keystream.ofSeed⟩ with
  | .ok texts s => .ok (texts.map (·, s.pending)) s.cache
  | .error e s => .error e s.cache

/-- The edit that sorts the blocks around a selection, and the edits that are still pending. -/
def sortEdit (w : Workspace) (o : SortOptions) (selection : Range) (pending : Pending) :
    SortWork (Edit × Pending) := do
  let range ← w.select selection o.expansion
  let blocks ← w.blocks range
  if blocks.isEmpty then return (⟨range, w.document.slice range⟩, pending)
  else
    let (texts, pending) ← w.sortBlocks o blocks pending
    return (⟨range, Text.unlines texts⟩, pending)

end Workspace

end BlockOrder
