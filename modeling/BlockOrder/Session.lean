import BlockOrder.Directive.Format

/-!
# Sessions

A session keeps what is needed between calls on one document: the settings, the patterns compiled
from them, and the line cache.  A cancelled call has no result, or its input for a result.  A call
that sorts keys which compare inconsistently may have no result either, and then says so.
-/

namespace BlockOrder

/-- The state kept for an open document. -/
structure Session where
  config : Config
  language : String
  classifier : Classifier
  /-- What cannot be used of the settings. -/
  errors : List ConfigError
  cache : LineCache

namespace Session

def start (config : Config) (language : String) : Session :=
  let (classifier, errors) := Classifier.compile config language
  ⟨config, language, classifier, errors, .empty⟩

/-- Takes note of an edit that has been made. -/
def noteEdit (s : Session) (e : Edit) : Session :=
  { s with cache := s.cache.invalidate e.range.start.line e.range.stop.line e.lineCount }

def close (s : Session) : Session := { s with cache := .empty }

def workspace (s : Session) (d : Document) (cancelled : Bool) : Workspace :=
  ⟨d, s.classifier, s.config, cancelled⟩

/-- The result of work on the line cache, `none` if it was cancelled, and the session after
it. -/
def run {α : Type} (s : Session) (x : Work α) : Option α × Session :=
  match x s.cache with
  | .ok a cache => (some a, { s with cache })
  | .error _ cache => (none, { s with cache })

def sortOptions (s : Session) (direction : Direction) : SortOptions where
  order := .ofOptions s.config.collation direction

/-- The options for sorting in a direction to the configured depth. -/
def multilevelOptions (s : Session) (direction : Direction) : SortOptions :=
  { s.sortOptions direction with depth := .ofInt s.config.defaultDepth.toInt }

/-- The facts about the lines of several ranges. -/
def factsOf (w : Workspace) : List Range → Work (List LineFacts)
  | [] => return []
  | r :: rest => do
      let r := w.document.clamp r
      let lines := (← w.lines r.start.line r.stop.line).filterMap id
      return lines ++ (← factsOf w rest)

/-- The facts about the lines of ranges, or of the whole document. -/
def lineFacts (s : Session) (d : Document) (ranges : Option (List Range)) (cancelled : Bool) :
    List LineFacts × Session :=
  let (result, s) := s.run (factsOf (s.workspace d cancelled) (ranges.getD [d.whole]))
  (result.getD [], s)

def blocks (s : Session) (d : Document) (r : Range) (cancelled : Bool) : List Range × Session :=
  let (result, s) := s.run ((s.workspace d cancelled).blocks r)
  (result.getD [], s)

def innerBlocks (s : Session) (d : Document) (r : Range) (cancelled : Bool) :
    List Range × Session :=
  let (result, s) := s.run ((s.workspace d cancelled).innerBlocks r)
  (result.getD [], s)

def expand (s : Session) (d : Document) (r : Range) (e : Expansion) (cancelled : Bool) :
    Range × Session :=
  let (result, s) := s.run ((s.workspace d cancelled).expand r e)
  (result.getD (d.clamp r), s)

/-- The range that a cursor or a selection grows to, as configured, without blank lines at either
end. -/
def expandSelection (s : Session) (d : Document) (r : Range) (cancelled : Bool) :
    Range × Session :=
  let e := if r.isEmpty then s.config.expandCursor else s.config.expandSelection
  let (result, s) := s.run ((s.workspace d cancelled).select r e)
  (result.getD (d.clamp r), s)

/-- The texts of blocks, sorted, and the edits that are still pending. -/
def sortBlocks (s : Session) (d : Document) (o : SortOptions) (blocks : List Range)
    (pending : Pending) (cancelled : Bool) : Except Inconsistent (List Text × Pending) × Session :=
  let (result, s) := s.run ((s.workspace d cancelled).sortBlocks o blocks pending)
  (result.getD (.ok ([], pending)), s)

/-- The edit that sorts the blocks around a selection, and the edits that are still pending. -/
def sortEdit (s : Session) (d : Document) (o : SortOptions) (selection : Range)
    (pending : Pending) (cancelled : Bool) :
    Except Inconsistent (Option Edit × Pending) × Session :=
  let (result, s) := s.run ((s.workspace d cancelled).sortEdit o selection pending)
  match result with
  | some result => (result.map fun (edit, pending) => (some edit, pending), s)
  | none => (.ok (none, pending), s)

def directiveAt (s : Session) (d : Document) (line : Nat) : Except DirectiveError Directive :=
  match d.line? line with
  | none => .error (.missing line)
  | some t => Directive.parse t line s.config.skipParents.toNat

/-- The directives in a range, or in the whole document. -/
def markers (s : Session) (d : Document) (r : Option Range) (cancelled : Bool) :
    List Marker × Session :=
  let (result, s) := s.run ((s.workspace d cancelled).markers r)
  (result.getD [], s)

/-- The edits that the directives of a document ask for. -/
def formatEdits (s : Session) (d : Document) (r : Option Range) (cancelled : Bool) :
    Except Inconsistent (List Edit) × Session :=
  let (result, s) := s.run ((s.workspace d cancelled).formatEdits r)
  (result.getD (.ok []), s)

end Session

end BlockOrder
