import BlockOrder.Edit.Basic
import BlockOrder.Text.Break

/-!
# Merging edits into a block

Edits inside a block are applied to the text of the block, one after the other.  An edit that
starts before the end of the last applied one is rejected.
-/

namespace BlockOrder

namespace Edit

/-- The offset of a position in the text of a block that starts at `start`.  Positions beyond a
line count as its end, positions beyond the text as the end of the text. -/
def offsetIn (start : Position) (t : Text) (p : Position) : Nat :=
  let line := p.line - start.line
  match t.brokenLines[line]? with
  | none => t.length
  | some text =>
      let column := if line = 0 then p.column.since start.column else p.column
      t.lineStart line + column.within text.withoutNewline.length

/-- The state of a merge: the text so far, the rejected edits, the end of the last applied edit
in the block as it was, and by how much what follows that end has moved. -/
structure Merging where
  text : Text
  rejected : List Edit
  appliedEnd : Nat
  shift : Int

/-- Applies or rejects one edit; `base` is the text of the block before any edit. -/
def Merging.step (start : Position) (base : Text) (m : Merging) (e : Edit) : Merging :=
  let first := offsetIn start base e.range.start
  let last := max first (offsetIn start base e.range.stop)
  if first < m.appliedEnd then { m with rejected := m.rejected ++ [e] }
  else
    let low := (first + m.shift).toNat
    let high := (last + m.shift).toNat
    { text := m.text.take low ++ e.text ++ m.text.drop high
      rejected := m.rejected
      appliedEnd := last
      shift := m.shift + (e.text.length - (last - first : Nat)) }

/-- Applies edits to the text of a block that starts at `start`.  The result is the new text and
the edits that were rejected. -/
def merge (start : Position) (t : Text) (edits : List Edit) : Text × List Edit :=
  let m := edits.foldl (Merging.step start t) ⟨t, [], 0, 0⟩
  (m.text, m.rejected)

end Edit

end BlockOrder
