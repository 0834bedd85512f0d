import BlockOrder.Blocks.Workspace

/-!
# Growing selections

A selection grows to whole lines and until its brackets are balanced; beyond that it takes in
neighbouring lines for the reasons that the expansion gives.
-/

namespace BlockOrder

/-- The lines of a growing selection and the brackets they leave open. -/
structure Selection where
  first : Nat
  last : Nat
  folding : Folding

/-- The side on which a selection grows. -/
inductive Side where
  | up
  | down
deriving DecidableEq

namespace Growth

/-- Whether a line is taken in.  `least` is the least indentation of the selection, `lastIndent`
that of the last line with content on the way. -/
def takesIn (g : Growth) (folding : Folding) (least lastIndent : Nat) (f : LineFacts) : Bool :=
  (g.locally && f.hasContent && least ≤ f.indent) ||
    (g.overEmptyLines && !f.hasContent) ||
    (g.indentationComplete && (least < f.indent || (least < lastIndent && !f.hasContent))) ||
    (g.foldingComplete && folding.total != 0)

end Growth

namespace Selection

/-- The selection with one more line above or below. -/
def extend (s : Selection) (line : Nat) (f : LineFacts) : Selection :=
  ⟨min s.first line, max s.last line, s.folding.merge f.folding⟩

/-- The line at the side of a selection. -/
def edge (s : Selection) : Side → Nat
  | .up => s.first
  | .down => s.last

end Selection

namespace Workspace

/-- The brackets with those of one more line. -/
def mergeLine (w : Workspace) (folding : Folding) (line : Nat) : Work Folding := do
  match ← w.line line with
  | some f => return folding.merge f.folding
  | none => return folding

/-- Takes in lines below while some bracket is open and lines above while some bracket is closed
that was not opened.  Every round takes in one line, so the number of lines is fuel enough. -/
def balance (w : Workspace) : (fuel : Nat) → Selection → Work Selection
  | 0, s => return s
  | fuel + 1, s => do
      w.check
      if s.folding.hasPositive && s.last < w.document.lastLine then
        let folding ← w.mergeLine s.folding (s.last + 1)
        w.balance fuel { s with last := s.last + 1, folding }
      else if s.folding.hasNegative && 0 < s.first then
        let folding ← w.mergeLine s.folding (s.first - 1)
        w.balance fuel { s with first := s.first - 1, folding }
      else return s

/-- The line next to a selection on one side. -/
def neighbour? (w : Workspace) (line : Nat) : Side → Option Nat
  | .up => if 0 < line then some (line - 1) else none
  | .down => if line + 1 < w.document.lineCount then some (line + 1) else none

/-- A selection that grows on one side: the selection before the last line was taken in, the
selection, and the indentation of the last line with content. -/
structure Advance where
  previous : Selection
  current : Selection
  lastIndent : Nat

/-- Takes in lines on one side as long as there are reasons to. -/
def advance (w : Workspace) (g : Growth) (least : Nat) (side : Side) :
    (fuel : Nat) → Advance → Work Advance
  | 0, a => return a
  | fuel + 1, a => do
      match w.neighbour? (a.current.edge side) side with
      | none => return a
      | some next =>
          w.check
          match ← w.line next with
          | none => return a
          | some f =>
              if g.takesIn a.current.folding least a.lastIndent f then
                w.advance g least side fuel {
                  previous := a.current
                  current := a.current.extend next f
                  lastIndent := if f.hasContent then f.indent else a.lastIndent }
              else return a

/-- Grows a selection on one side.  If the top of the document is reached with open brackets, the
last line is given back. -/
def growTowards (w : Workspace) (g : Growth) (least : Nat) (side : Side) (s : Selection) :
    Work Selection := do
  let edge ← w.line (s.edge side)
  let lastIndent := (edge.map (·.indent)).getD 0
  let a ← w.advance g least side w.document.lineCount ⟨s, s, lastIndent⟩
  return if a.current.edge side == 0 && 0 < a.current.folding.total then a.previous else a.current

/-- The selection with the brackets of its lines. -/
def selectLines (w : Workspace) (first last : Nat) : Work Selection := do
  let lines ← w.lines first last
  w.check
  let folding := (lines.filterMap id).foldl (fun f l => f.merge l.folding)
    w.classifier.folding.closed
  return ⟨first, last, folding⟩

def expand (w : Workspace) (r : Range) (e : Expansion) : Work Range := do
  let r := w.document.clamp r
  let s ← w.selectLines r.start.line r.stop.line
  let s ← w.balance (w.document.lineCount + 1) s
  match e.growth? with
  | none => return w.document.lineRange s.first s.last
  | some g =>
      let lines := ((← get).slice s.first s.last).filterMap id
      let least := ((IndentRange.ofLines? true lines).map (·.least)).getD 0
      let (one, other) := if 0 < s.folding.total then (Side.down, Side.up) else (Side.up, Side.down)
      let s ← w.growTowards g least one s
      let s ← w.growTowards g least other s
      return w.document.lineRange s.first s.last

end Workspace

namespace Document

/-- The first line from `line` on that is not blank, at most `room` lines further. -/
def skipBlankLines (d : Document) : (room line : Nat) → Nat
  | 0, line => line
  | room + 1, line => if d.isBlankLine line then d.skipBlankLines room (line + 1) else line

/-- The last line up to `line` that is not blank, at most `room` lines back. -/
def skipBlankLinesBack (d : Document) : (room line : Nat) → Nat
  | 0, line => line
  | room + 1, line => if d.isBlankLine line then d.skipBlankLinesBack room (line - 1) else line

/-- The lines of a range without blank lines at either end. -/
def trimRange (d : Document) (r : Range) : Range :=
  let r := d.clamp r
  let first := d.skipBlankLines (r.stop.line - r.start.line) r.start.line
  let last := d.skipBlankLinesBack (r.stop.line - first) r.stop.line
  d.lineRange first last

end Document

namespace Workspace

/-- The range that a selection grows to, without blank lines at either end. -/
def select (w : Workspace) (r : Range) (e : Expansion) : Work Range := do
  return w.document.trimRange (← w.expand r e)

end Workspace

end BlockOrder
