import BlockOrder.Data.SortedMap

/-!
# Markers

What a language is known by: the patterns that open and close its comments and strings, the
patterns of its decorators, and the pairs of brackets that nest.  All patterns are kept as
written.
-/

namespace BlockOrder

/-- A stretch of text between two patterns, such as a comment or a string.  Without an end it
runs to the end of the line. -/
structure Delimiters where
  start : String
  stop : Option String := none
  /-- The character that keeps the end from counting. -/
  escape : Option Char := none
deriving DecidableEq

namespace Delimiters

/-- From a pattern to the end of the line. -/
def toLineEnd (start : String) : Delimiters := { start }

def enclosed (start stop : String) : Delimiters := { start, stop := some stop }

/-- Between two occurrences of one pattern, with a backslash as escape. -/
def quoted (mark : String) : Delimiters := { start := mark, stop := some mark, escape := some '\\' }

def stop? (d : Delimiters) : Option String := d.stop.filter (· ≠ "")

/-- Whether the stretch runs to the end of the line. -/
def endsWithLine (d : Delimiters) : Bool := d.stop?.isNone

end Delimiters

/-- A pair of brackets that nest. -/
structure FoldMarker where
  start : String
  stop : String
  /-- Pairs are looked at in ascending order of priority. -/
  priority : Int32 := 0
  /-- The pair whose openings on a line undo the openings of this one on that line. -/
  abortOn : Option String := none
deriving DecidableEq

/-- The markers of one language. -/
structure LanguageMarkers where
  comments : List Delimiters := []
  strings : List Delimiters := []
  decorators : List String := []
deriving DecidableEq

end BlockOrder
