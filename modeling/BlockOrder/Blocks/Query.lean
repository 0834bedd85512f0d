import BlockOrder.Blocks.Tiling
import BlockOrder.Blocks.Workspace

/-!
# Blocks of a document

The blocks in a range of a document, and the blocks one level inside a block.
-/

namespace BlockOrder.Workspace

def blocks (w : Workspace) (r : Range) : Work (List Range) := do
  w.check
  let r := w.document.clamp r
  let lines ← w.lines r.start.line r.stop.line
  return (Blocks.tile r.start.line r.stop.line lines).map fun s =>
    w.document.lineRange s.first s.last

/-- The blocks one level inside a block: those of its first run of lines that are indented deeper
than its least indented line. -/
def innerBlocks (w : Workspace) (block : Range) : Work (List Range) := do
  let block := w.document.clamp block
  let lines := (← w.lines block.start.line block.stop.line).filterMap id
  match IndentRange.ofLines? true lines with
  | none => return []
  | some indent =>
      w.check
      match Blocks.deeperRun indent.least block.start.line none lines with
      | none => return []
      | some run => w.blocks (.lines run.first run.last)

end BlockOrder.Workspace
