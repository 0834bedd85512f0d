import BlockOrder.Document

/-!
# Edits

An edit replaces the text of a range.
-/

namespace BlockOrder

/-- The replacement of a range by a text. -/
structure Edit where
  range : Range
  text : Text
deriving DecidableEq

namespace Edit

/-- The number of lines in the new text. -/
def lineCount (e : Edit) : Nat := e.text.lines.length

/-- The edit with its range clamped to a document. -/
def clamp (d : Document) (e : Edit) : Edit := { e with range := d.clamp e.range }

end Edit

end BlockOrder
