import BlockOrder.Position
import BlockOrder.Text.Blank

/-!
# Documents

A document is what sorting reads: a list of lines.  Ranges that reach beyond it are clamped, and
the text of a range is the text of its lines with newlines between them.
-/

namespace BlockOrder

/-- A snapshot of a text, line by line. -/
structure Document where
  lines : List Text

namespace Document

def lineCount (d : Document) : Nat := d.lines.length

/-- The number of the last line, zero if there is none. -/
def lastLine (d : Document) : Nat := d.lineCount - 1

def line? (d : Document) (n : Nat) : Option Text := d.lines[n]?

/-- The length of a line, zero beyond the document. -/
def lineLength (d : Document) (n : Nat) : Nat := ((d.line? n).map List.length).getD 0

/-- Whether a line holds white space only; so does every line beyond the document. -/
def isBlankLine (d : Document) (n : Nat) : Bool := (d.line? n).all Text.isBlank

def clampPosition (d : Document) (p : Position) : Position :=
  if d.lineCount = 0 then .ofOffset 0 0
  else if d.lineCount ≤ p.line then .ofOffset d.lastLine (d.lineLength d.lastLine)
  else .ofOffset p.line (p.column.within (d.lineLength p.line))

/-- The range with both ends clamped to the document. -/
def clamp (d : Document) (r : Range) : Range :=
  .between (d.clampPosition r.start) (d.clampPosition r.stop)

/-- The lines from `first` to `last` in full, clamped. -/
def lineRange (d : Document) (first last : Nat) : Range := d.clamp (.lines first last)

def whole (d : Document) : Range := .lines 0 d.lastLine

/-- Lines joined by newlines, the first from offset `low` on and the last up to offset `high`. -/
def sliceLines (low high : Nat) : List Text → Text
  | [] => []
  | [line] => (line.drop low).take (high - low)
  | line :: more => line.drop low ++ '\n' :: sliceLines 0 high more

def slice (d : Document) (r : Range) : Text :=
  let r := d.clamp r
  let low := r.start.column.within (d.lineLength r.start.line)
  let high := r.stop.column.within (d.lineLength r.stop.line)
  sliceLines low high ((d.lines.drop r.start.line).take r.lineCount)

end Document

end BlockOrder
