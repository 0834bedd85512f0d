import BlockOrder.Directive.Basic
import BlockOrder.Sort.Blocks
import BlockOrder.StableSort

/-!
# Formatting by directives

The directives of a document and the edits they ask for.  A directive is about the first line
below it that is indented deeper.  Inner directives are followed first, and their edits become
part of the edits around them; an edit that overlaps a larger one is dropped.
-/

namespace BlockOrder

/-- A directive in a document. -/
structure Marker where
  line : Nat
  /-- Where the line that the directive is about starts, if there is one. -/
  target : Option Position
  directive : Directive
deriving DecidableEq

namespace Document

/-- The first position of the first line from `line` on that is not blank and indented deeper
than `indent`. -/
def deeperFrom? (indent : Nat) : (line : Nat) → List Text → Option Position
  | _, [] => none
  | line, t :: rest =>
      if !t.isBlank && indent < t.leadingBlanks then some (.ofOffset line t.leadingBlanks)
      else deeperFrom? indent (line + 1) rest

/-- Where the line starts that a directive on a given line is about. -/
def target? (d : Document) (line : Nat) (t : Text) : Option Position :=
  deeperFrom? t.leadingBlanks (line + 1) (d.lines.drop (line + 1))

end Document

namespace Workspace

/-- The directive on a line, if there is a usable one. -/
def markerOn? (w : Workspace) (line : Nat) (t : Text) : Option Marker :=
  if w.classifier.isDirectiveLine t then
    match Directive.parse t line w.config.skipParents.toNat with
    | .ok directive => some ⟨line, w.document.target? line t, directive⟩
    | .error _ => none
  else none

/-- The directives on the given lines, the first of which has number `line`. -/
def markersFrom (w : Workspace) : (line : Nat) → List Text → List Marker
  | _, [] => []
  | line, t :: rest => (w.markerOn? line t).toList ++ w.markersFrom (line + 1) rest

/-- The directives in a range, or in the whole document. -/
def markers (w : Workspace) (r : Option Range) : Work (List Marker) := do
  w.check
  let r := w.document.clamp (r.getD w.document.whole)
  let lines := (w.document.lines.drop r.start.line).take r.lineCount
  return w.markersFrom r.start.line lines

/-- A directive with its target and the range that will be sorted. -/
structure Target where
  range : Range
  position : Position
  options : SortOptions

/-- Smaller targets come first, and of targets of one size the upper one. -/
def Target.precedes (a b : Target) : Bool :=
  a.range.lineCount < b.range.lineCount ||
    (a.range.lineCount == b.range.lineCount && a.position ≤ b.position)

/-- The targets of directives, as far as they start in a range. -/
def targets (w : Workspace) (r : Option Range) : List Marker → Work (List Target)
  | [] => return []
  | m :: rest => do
      match m.target with
      | none => w.targets r rest
      | some position =>
          if r.all (·.containsPosition position) then
            let options := m.directive.sortOptions w.config
            let range ← w.select (.caret position) options.expansion
            return ⟨range, position, options⟩ :: (← w.targets r rest)
          else w.targets r rest

/-- Sorts around one target after the other; every edit is pending for those that follow. -/
def followTargets (w : Workspace) : List Target → Pending → SortWork Pending
  | [], pending => return pending
  | t :: rest, pending => do
      let (edit, pending) ← w.sortEdit t.options (.caret t.position) pending
      w.followTargets rest (pending.push edit)

/-- The edits that do not overlap one that was kept before them. -/
def keepApart (kept : List Edit) : List Edit → List Edit
  | [] => kept
  | e :: rest =>
      if kept.any (·.range.overlaps e.range) then keepApart kept rest
      else keepApart (kept ++ [e]) rest

/-- The edits that the directives of a document ask for, as far as their targets start in a
range. -/
def formatEdits (w : Workspace) (r : Option Range) : SortWork (List Edit) := do
  let markers ← w.markers none
  let targets ← w.targets (r.map w.document.clamp) markers
  let pending ← w.followTargets (sortBy Target.precedes targets) .none
  let candidates :=
    sortBy (fun a b => decide (b.range.lineCount ≤ a.range.lineCount)) pending.edits
  return sortBy (fun a b => decide (a.range.start ≤ b.range.start)) (keepApart [] candidates)

end Workspace

end BlockOrder
