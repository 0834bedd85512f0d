/-!
# Sets of lines

A set of line numbers as a list of spans in ascending order, with at least one line between
neighbours.
-/

namespace BlockOrder

/-- The lines from `first` to `last`. -/
structure LineSpan where
  first : Nat
  last : Nat
deriving DecidableEq

namespace LineSpan

/-- The span between two lines, whichever comes first. -/
def between (a b : Nat) : LineSpan := if a ≤ b then ⟨a, b⟩ else ⟨b, a⟩

def contains (s t : LineSpan) : Bool := s.first ≤ t.first && t.last ≤ s.last

/-- Whether two spans overlap or one follows directly on the other. -/
def touches (s t : LineSpan) : Bool := s.first ≤ t.last + 1 && t.first ≤ s.last + 1

def hull (s t : LineSpan) : LineSpan := ⟨min s.first t.first, max s.last t.last⟩

end LineSpan

/-- A set of lines. -/
structure LineSet where
  spans : List LineSpan
deriving DecidableEq

namespace LineSet

def empty : LineSet := ⟨[]⟩

/-- Whether one span of the set contains all lines of a span. -/
def contains (s : LineSet) (t : LineSpan) : Bool := s.spans.any (·.contains t)

/-- The spans that do not touch a span that has been placed before them.  In a list in ascending
order these are all of them. -/
def apart (placed : LineSpan) : List LineSpan → List LineSpan
  | [] => []
  | s :: rest => if s.touches placed then apart (s.hull placed) rest else s :: apart placed rest

/-- Puts a span among others, merging it with those it touches. -/
def insertSpan (new : LineSpan) : List LineSpan → List LineSpan
  | [] => [new]
  | s :: rest =>
      if s.touches new then insertSpan (s.hull new) rest
      else if s.last < new.first then s :: insertSpan new rest
      else new :: s :: apart new rest

def add (s : LineSet) (new : LineSpan) : LineSet := ⟨insertSpan new s.spans⟩

def lastLineNumber : Nat := 0xFFFFFFFFFFFFFFFF

/-- A line number moved by some lines, no further than to line zero or the last line number. -/
def moved (delta : Int) (line : Nat) : Nat := min (line + delta).toNat lastLineNumber

/-- What is left of a span when the lines from `first` to `last` go and those after them move. -/
def pieces (first last : Nat) (delta : Int) (s : LineSpan) : List LineSpan :=
  if s.last < first then [s]
  else if last < s.first then [.between (moved delta s.first) (moved delta s.last)]
  else
    (if s.first < first then [.between s.first (first - 1)] else []) ++
      (if last < s.last then [.between (moved delta (last + 1)) (moved delta s.last)] else [])

/-- Removes the lines from `first` to `last` and moves the later ones. -/
def removeAndShift (s : LineSet) (first last : Nat) (delta : Int) : LineSet :=
  ⟨s.spans.flatMap (pieces first last delta)⟩

end LineSet

end BlockOrder
