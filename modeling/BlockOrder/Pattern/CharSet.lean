import BlockOrder.Text.Blank
import BlockOrder.Text.Letter
import BlockOrder.Text.CaseFold

/-!
# Sets of characters

The sets a pattern can ask a single character to belong to: ranges, the named classes, and what
complement, union and intersection make of them.
-/

namespace BlockOrder

/-- A set of characters, as written in a pattern. -/
inductive CharSet where
  /-- No character. -/
  | nothing
  /-- The characters from `lo` to `hi`. -/
  | range (lo hi : Char)
  /-- White space. -/
  | blanks
  /-- Decimal digits. -/
  | digits
  /-- Word characters. -/
  | words
  /-- The characters of a table of ranges. -/
  | table (ranges : List (Nat × Nat))
  /-- The characters equal to a member up to case. -/
  | anyCase (s : CharSet)
  /-- The characters outside a set. -/
  | compl (s : CharSet)
  /-- The characters of either set. -/
  | union (a b : CharSet)
  /-- The characters of both sets. -/
  | inter (a b : CharSet)
deriving DecidableEq

namespace CharSet

def contains : CharSet → Char → Bool
  | nothing, _ => false
  | range lo hi, c => lo ≤ c && c ≤ hi
  | blanks, c => isBlankChar c
  | digits, c => isDecimalDigit c
  | words, c => isWordChar c
  | table ranges, c => inRanges ranges c.toNat
  | anyCase s, c => (foldOrbit c).any s.contains
  | compl s, c => !s.contains c
  | union a b, c => a.contains c || b.contains c
  | inter a b, c => a.contains c && b.contains c

def single (c : Char) : CharSet := range c c

def ofList : List Char → CharSet
  | [] => nothing
  | [c] => single c
  | c :: rest => union (single c) (ofList rest)

/-- The set in which case does not count.  Every range is closed under changes of case before a
complement is taken, so the complement of a letter excludes both its cases. -/
def ignoringCase : CharSet → CharSet
  | range lo hi => anyCase (range lo hi)
  | table ranges => anyCase (table ranges)
  | compl s => compl s.ignoringCase
  | union a b => union a.ignoringCase b.ignoringCase
  | inter a b => inter a.ignoringCase b.ignoringCase
  | s => s

/-- The characters of `a` that are not in `b`. -/
def diff (a b : CharSet) : CharSet := inter a (compl b)

/-- The characters that are in exactly one of two sets. -/
def symmDiff (a b : CharSet) : CharSet := union (diff a b) (diff b a)

def everything : CharSet := compl nothing

def exceptNewline : CharSet := compl (single '\n')

end CharSet

end BlockOrder
