import BlockOrder.Edit.Basic
import BlockOrder.Text.Break
import BlockOrder.Text.LineEnding

/-!
# Buffers

A buffer holds the text of a file with plain newlines, together with the line ending it was
loaded with and the language it is written in.  Its lines are a document; edits replace
stretches of its text.
-/

namespace BlockOrder

/-- An open text. -/
structure Buffer where
  text : Text
  ending : LineEnding
  language : String

namespace Buffer

def load (t : Text) (language : String) : Buffer :=
  ⟨LineEnding.normalize t, LineEnding.detect t, language⟩

def document (b : Buffer) : Document := ⟨b.text.brokenLines.map Text.withoutNewline⟩

def saved (b : Buffer) : Text := b.ending.apply b.text

/-- The number of characters before a position, which is clamped first. -/
def offset (b : Buffer) (p : Position) : Nat :=
  let d := b.document
  let p := d.clampPosition p
  b.text.lineStart p.line + p.column.within (d.lineLength p.line)

/-- Replaces the range of an edit by its text, with plain newlines. -/
def edit (b : Buffer) (e : Edit) : Buffer :=
  let start := b.offset e.range.start
  let stop := max start (b.offset e.range.stop)
  { b with text := b.text.take start ++ LineEnding.normalize e.text ++ b.text.drop stop }

/-- The number of lines that the new text of an edit takes up in a buffer. -/
def editedLineCount (e : Edit) : Nat := (LineEnding.normalize e.text).lines.length

end Buffer

end BlockOrder
