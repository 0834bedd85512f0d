import BlockOrder.Config.Options
import BlockOrder.Language.Table

/-!
# Configuration

The settings of a session.  Markers come in addition to the default ones; pairs of brackets are
merged with the default pairs by key, and a key without value removes a pair.
-/

namespace BlockOrder

/-- The settings of a session. -/
structure Config where
  /-- Columns of an indentation level. -/
  tabSize : UInt64 := Defaults.tabSize
  /-- Patterns of lines whose indentation does not count. -/
  indentIgnoreMarkers : List String := []
  /-- Patterns of lines that complete a block. -/
  completeBlockMarkers : List String := []
  /-- Pairs of brackets, in addition to the default ones or instead of them. -/
  foldMarkers : SortedMap (Option FoldMarker) := .empty
  /-- The pattern of a line that goes on in the next one. -/
  incompleteBlock : Option String := none
  /-- The pattern of a line that is one of several labels of a block. -/
  multiBlockHeader : Option String := none
  /-- The pattern of blocks that come first. -/
  forceFirst : Option String := none
  /-- The pattern of blocks that come last. -/
  forceLast : Option String := none
  /-- Whether the labels of a block are sorted among themselves. -/
  sortHeaders : Bool := true
  /-- Whether the newline that ends a block stays in its place when the block moves. -/
  keepNewlines : Bool := true
  /-- The depth of sorting where none is asked for; unlimited if negative. -/
  defaultDepth : Int64 := -1
  /-- The number of outer levels that directives leave unsorted. -/
  skipParents : UInt64 := 0
  /-- How far a cursor grows. -/
  expandCursor : Expansion := .full
  /-- How far a selection grows. -/
  expandSelection : Expansion := .disabled
  collation : CollationOptions := {}
  /-- The characters that separate blocks. -/
  separators : String := Defaults.separators
  /-- Markers of languages, in place of the known ones. -/
  languages : SortedMap LanguageMarkers := .empty

namespace Config

def nonempty? (s : Option String) : Option String := s.filter (· ≠ "")

def markersOf (c : Config) (language : String) : LanguageMarkers :=
  (c.languages.get? language).getD (Language.markers language)

def allFoldMarkers (c : Config) : SortedMap FoldMarker :=
  c.foldMarkers.entries.foldl
    (fun m (key, marker) =>
      match marker with
      | some marker => m.insert key marker
      | none => m.erase key)
    Defaults.foldMarkers

/-- The markers of lines whose indentation does not count, the default ones last. -/
def allIndentIgnoreMarkers (c : Config) : List String :=
  c.indentIgnoreMarkers.filter (· ≠ "") ++ Defaults.indentIgnoreMarkers

/-- The markers of lines that complete a block, the default ones last. -/
def allCompleteBlockMarkers (c : Config) : List String :=
  c.completeBlockMarkers.filter (· ≠ "") ++ Defaults.completeBlockMarkers

def incompletePattern (c : Config) : String :=
  (nonempty? c.incompleteBlock).getD Defaults.incompleteBlock

def headerPattern (c : Config) : String :=
  (nonempty? c.multiBlockHeader).getD Defaults.multiBlockHeader

/-- The pattern of blocks that come first, if there is one. -/
def forceFirstPattern? (c : Config) : Option String := nonempty? c.forceFirst

def forceLastPattern (c : Config) : String := (nonempty? c.forceLast).getD Defaults.forceLast

def separatorChars (c : Config) : List Char :=
  if c.separators = "" then Defaults.separators.toList else c.separators.toList

end Config

end BlockOrder
