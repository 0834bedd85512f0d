import BlockOrder.Lines.Cache

/-!
# Blocks of lines

A block is a line together with the lines that belong to it.  A line starts a new block if the
block before it has a valid line and a line with content, if its last line with content is not
incomplete, if the line is indented like the first line, and if no bracket is open.  Blank lines
at the end belong to the last block.
-/

namespace BlockOrder

/-- What has been seen of the current block: a valid line, a line with content, and whether the
last line with content completes the block or goes on in the next line. -/
structure Gathered where
  valid : Bool
  hasContent : Bool
  complete : Bool
  incomplete : Bool

namespace Gathered

def nothing : Gathered := ⟨false, false, false, false⟩

/-- The first line of all, whatever it holds. -/
def first (f : LineFacts) : Gathered := ⟨f.valid, f.hasContent, f.complete, f.incomplete⟩

def add (g : Gathered) (f : LineFacts) : Gathered :=
  if f.hasContent then ⟨g.valid || f.valid, true, f.complete, f.incomplete⟩
  else { g with valid := g.valid || f.valid }

/-- Whether a line starts a new block after what has been seen.  `indent` is the indentation of
the first line of all, `folding` are the brackets of all lines before. -/
def isFollowedBy (g : Gathered) (indent : Nat) (folding : Folding) (f : LineFacts) : Bool :=
  g.valid && g.hasContent && !f.isBlank && !g.incomplete && (!f.ignoresIndent || g.complete) &&
    f.indent == indent && !folding.hasOpen

end Gathered

namespace Blocks

/-- The numbers of the lines that start a block.  The first line of the list has number `line`;
the list is read up to the first line about which nothing is known. -/
def starts (indent : Nat) :
    (g : Gathered) → Folding → (line : Nat) → List (Option LineFacts) → List Nat
  | _, _, _, [] => []
  | _, _, _, none :: _ => []
  | g, folding, line, some f :: rest =>
      if g.isFollowedBy indent folding f then
        line :: starts indent (Gathered.nothing.add f) (folding.merge f.folding) (line + 1) rest
      else starts indent (g.add f) (folding.merge f.folding) (line + 1) rest

/-- The spans between starts, the last one up to line `last`.  If nothing follows the last start
that counts, its lines belong to the span before it, or to none. -/
def spans (isBlankFrom : Nat → Bool) (last : Nat) : List Nat → List LineSpan
  | [] => []
  | [s] => if isBlankFrom s then [] else [⟨s, last⟩]
  | [s, t] => if isBlankFrom t then [⟨s, last⟩] else [⟨s, t - 1⟩, ⟨t, last⟩]
  | s :: t :: rest => ⟨s, t - 1⟩ :: spans isBlankFrom last (t :: rest)

/-- The blocks of the lines from `first` to `last`, of which the facts are given in order. -/
def tile (first last : Nat) (lines : List (Option LineFacts)) : List LineSpan :=
  match lines with
  | some f :: rest =>
      let isBlankFrom := fun s => (lines.drop (s - first)).all fun l => l.all LineFacts.isBlank
      spans isBlankFrom last
        (first :: starts f.indent (Gathered.first f) f.folding (first + 1) rest)
  | _ => []

/-- The first run of lines that are indented deeper than `indent`, from its first to its last
line that is not blank. -/
def deeperRun (indent : Nat) :
    (line : Nat) → Option LineSpan → List LineFacts → Option LineSpan
  | _, run, [] => run
  | line, run, f :: rest =>
      if f.isBlank then deeperRun indent (line + 1) run rest
      else if f.indent ≤ indent then
        match run with
        | some r => some r
        | none => deeperRun indent (line + 1) none rest
      else
        let start := (run.map (·.first)).getD line
        deeperRun indent (line + 1) (some ⟨start, line⟩) rest

end Blocks

end BlockOrder
