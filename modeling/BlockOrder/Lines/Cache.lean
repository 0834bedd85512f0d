import BlockOrder.Document
import BlockOrder.Lines.Facts
import BlockOrder.Lines.LineSet

/-!
# The line cache

Facts about the lines of a document are computed when they are needed and kept until an edit of
the lines is reported.
-/

namespace BlockOrder

/-- The sign that a call was cancelled. -/
structure Cancelled where
deriving DecidableEq

namespace Cancelled

def message (_ : Cancelled) : String := "operation cancelled"

end Cancelled

/-- Facts about the lines of a document, and the lines for which they hold. -/
structure LineCache where
  lines : List (Option LineFacts)
  computed : LineSet
deriving DecidableEq

/-- A computation on a line cache that may be cancelled. -/
abbrev Work := EStateM Cancelled LineCache

namespace LineCache

def empty : LineCache := ⟨[], .empty⟩

def get? (c : LineCache) (line : Nat) : Option LineFacts := c.lines[line]?.join

/-- What is known about the lines from `first` to `last`. -/
def slice (c : LineCache) (first last : Nat) : List (Option LineFacts) :=
  (List.range' first (last + 1 - first)).map c.get?

/-- Whether the facts about the lines from `first` to `last` hold. -/
def isComputed (c : LineCache) (first last : Nat) : Bool :=
  c.computed.contains (.between first last)

/-- The cache with a place for each of `n` lines. -/
def resize (c : LineCache) (n : Nat) : LineCache :=
  { c with lines := c.lines.take n ++ List.replicate (n - c.lines.length) none }

/-- Whether the facts about one line are there and hold. -/
def holds (c : LineCache) (line : Nat) : Bool :=
  (c.get? line).isSome && c.isComputed line line

/-- The cache after the facts about a span of lines have been computed; facts that hold are
kept. -/
def refresh (k : Classifier) (d : Document) (span : LineSpan) (c : LineCache) : LineCache :=
  { lines := c.lines.mapIdx fun line facts =>
      if span.first ≤ line && line ≤ span.last && !c.holds line then
        some (LineFacts.compute k ((d.line? line).getD []))
      else facts
    computed := c.computed.add span }

/-- The lines from `first` to `last`, as far as a document has them. -/
def clampSpan (d : Document) (first last : Nat) : LineSpan :=
  let last := min last d.lastLine
  ⟨min first last, last⟩

/-- Makes sure that the facts about the lines from `first` to `last` are there.  A cancelled
call computes nothing. -/
def ensure (k : Classifier) (d : Document) (cancelled : Bool) (first last : Nat) : Work Unit :=
  if d.lineCount = 0 then pure ()
  else do
    modify (·.resize d.lineCount)
    let span := clampSpan d first last
    if (← get).computed.contains span then pure ()
    else if cancelled then throw {}
    else modify (refresh k d span)

/-- The facts about the lines from `first` to `last`, which are computed if necessary. -/
def facts (k : Classifier) (d : Document) (cancelled : Bool) (first last : Nat) :
    Work (List LineFacts) := do
  ensure k d cancelled first last
  let c ← get
  let last := min last (c.lines.length - 1)
  return (c.slice (min first last) last).filterMap id

/-- Takes note that the lines between two given ones have been replaced by `count` lines. -/
def invalidate (a b count : Nat) (c : LineCache) : LineCache :=
  let first := min a b
  let last := max a b
  let delta : Int := count - (last - first + 1 : Nat)
  { lines :=
      if first < c.lines.length then
        c.lines.take first ++ List.replicate count none ++ c.lines.drop (last + 1)
      else c.lines
    computed := c.computed.removeAndShift first last delta }

end LineCache

end BlockOrder
