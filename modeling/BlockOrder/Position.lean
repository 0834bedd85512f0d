/-!
# Positions and ranges

Positions count lines and, within a line, characters, both from zero.  A column may also be the
end of its line, wherever that is; it comes after every counted column.
-/

namespace BlockOrder

/-- A place within a line. -/
inductive Column where
  /-- Before the character with this offset. -/
  | char (offset : Nat)
  /-- The end of the line. -/
  | lineEnd
deriving DecidableEq

namespace Column

/-- Columns are ordered by offset, the end of the line last. -/
protected def le : Column → Column → Bool
  | _, lineEnd => true
  | lineEnd, char _ => false
  | char a, char b => a ≤ b

instance : LE Column := ⟨fun a b => a.le b = true⟩

instance (a b : Column) : Decidable (a ≤ b) := inferInstanceAs (Decidable (a.le b = true))

/-- The offset in a line of the given length: no further than its end. -/
def within (length : Nat) : Column → Nat
  | char offset => min offset length
  | lineEnd => length

/-- The column counted from a start.  Nothing lies before the start. -/
def since : (column start : Column) → Column
  | char offset, char start => char (offset - start)
  | lineEnd, char _ => lineEnd
  | _, lineEnd => char 0

end Column

/-- A place in a document. -/
structure Position where
  line : Nat
  column : Column
deriving DecidableEq

namespace Position

/-- Positions are ordered by line, then by column. -/
protected def le (a b : Position) : Bool :=
  a.line < b.line || (a.line == b.line && a.column.le b.column)

instance : LE Position := ⟨fun a b => a.le b = true⟩

instance (a b : Position) : Decidable (a ≤ b) := inferInstanceAs (Decidable (a.le b = true))

instance : LT Position := ⟨fun a b => ¬ b ≤ a⟩

instance (a b : Position) : Decidable (a < b) := inferInstanceAs (Decidable (¬ b ≤ a))

def order (a b : Position) : Ordering :=
  if a = b then .eq else if a ≤ b then .lt else .gt

def later (a b : Position) : Position := if a ≤ b then b else a

def earlier (a b : Position) : Position := if a ≤ b then a else b

/-- The position before the character with a given offset. -/
def ofOffset (line offset : Nat) : Position := ⟨line, .char offset⟩

def endOf (line : Nat) : Position := ⟨line, .lineEnd⟩

end Position

/-- The stretch of a document from one position to another. -/
structure Range where
  start : Position
  stop : Position
deriving DecidableEq

namespace Range

/-- The range between two positions, whichever comes first. -/
def between (a b : Position) : Range := if a ≤ b then ⟨a, b⟩ else ⟨b, a⟩

/-- The lines from `first` to `last` in full. -/
def lines (first last : Nat) : Range := between (.ofOffset first 0) (.endOf last)

def caret (p : Position) : Range := ⟨p, p⟩

def isEmpty (r : Range) : Bool := r.start == r.stop

def isSingleLine (r : Range) : Bool := r.start.line == r.stop.line

/-- The number of lines that the range touches. -/
def lineCount (r : Range) : Nat := r.stop.line - r.start.line + 1

def contains (r s : Range) : Bool := r.start ≤ s.start && s.stop ≤ r.stop

/-- Whether a position lies inside the range or at one of its ends. -/
def containsPosition (r : Range) (p : Position) : Bool := r.start ≤ p && p ≤ r.stop

/-- What two ranges have in common; ranges that touch have an empty range in common. -/
def intersection? (r s : Range) : Option Range :=
  let start := r.start.later s.start
  let stop := r.stop.earlier s.stop
  if start ≤ stop then some ⟨start, stop⟩ else none

def union (r s : Range) : Range := ⟨r.start.earlier s.start, r.stop.later s.stop⟩

def overlaps (r s : Range) : Bool := r.start < s.stop && s.start < r.stop

end Range

end BlockOrder
