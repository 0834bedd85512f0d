import BlockOrder.Classifier.Folding
import BlockOrder.Config.Basic

/-!
# Classifying texts

A classifier holds the patterns of a session and answers questions about lines and blocks: what
is left without comments, strings and decorators, which brackets are open, which lines may
separate blocks.
-/

namespace BlockOrder

/-- The patterns of a session. -/
structure Classifier where
  tabSize : Nat
  comments : List Matcher
  strings : List Matcher
  decorators : List Matcher
  /-- What a line that holds a directive starts with. -/
  directives : List Matcher
  folding : FoldTable
  indentIgnore : Option Matcher
  complete : Option Matcher
  incomplete : Option Matcher
  header : Option Matcher
  forceFirst : Option Matcher
  forceLast : Option Matcher
  separators : List Char

namespace Classifier

def stripComments (c : Classifier) (t : Text) : Text := Matcher.strip c.comments t

def stripStrings (c : Classifier) (t : Text) : Text := Matcher.strip c.strings t

/-- The text without comments and strings; what starts first counts. -/
def stripCommentsAndStrings (c : Classifier) (t : Text) : Text :=
  Matcher.strip (c.comments ++ c.strings) t

def stripDecorators (c : Classifier) (t : Text) : Text :=
  c.decorators.foldl (fun t p => p.removeAll t) t

def bare (c : Classifier) (t : Text) : Text := c.stripDecorators (c.stripComments t)

/-- Whether a pattern, if there is one, occurs in a text. -/
def occurs (p : Option Matcher) (t : Text) : Bool := p.any (·.occursIn t)

/-- The depths of the brackets after a text of any number of lines. -/
def foldingOf (c : Classifier) (mode : FoldMode) (initial : Folding) (t : Text) : Folding :=
  t.lines.foldl (fun f line => c.folding.count mode f (c.stripCommentsAndStrings line)) initial

def lineFolding (c : Classifier) (t : Text) : Folding := c.foldingOf .raw c.folding.closed t

/-- Whether a line holds more than comments and white space. -/
def hasContent (c : Classifier) (line : Text) : Bool := !(c.stripComments line).isBlank

/-- Whether a text without white space around it consists of closing brackets, possibly with a
comma or semicolon after them. -/
def isClosingOnly (t : Text) : Bool :=
  let body :=
    if t.getLast? = some ',' ∨ t.getLast? = some ';' then Text.trimEnd t.dropLast
    else Text.trimEnd t
  !body.isEmpty && body.all fun c => c == ')' || c == ']' || c == '\x7d'

/-- Whether a line may separate blocks: it has content besides decorators, does not open brackets
with a curly brace in front, and does not only close brackets. -/
def isValidLine (c : Classifier) (line : Text) : Bool :=
  let trimmed := line.trim
  let folding := c.lineFolding line
  !trimmed.isEmpty && c.hasContent line && !(c.stripDecorators line).isBlank &&
    !(trimmed.head? == some '\x7b' && folding.hasOpen) &&
    !(isClosingOnly trimmed && folding.hasNegative)

/-- Whether a line is one of several labels of a block. -/
def isHeader (c : Classifier) (line : Text) : Bool := occurs c.header (c.bare line)

def isForcedFirst (c : Classifier) (block : Text) : Bool := occurs c.forceFirst block

def isForcedLast (c : Classifier) (block : Text) : Bool := occurs c.forceLast block

/-- Whether a line starts with a comment that holds a directive. -/
def isDirectiveLine (c : Classifier) (line : Text) : Bool :=
  c.directives.any (·.occursIn line.trim)

def isSeparator (c : Classifier) (x : Char) : Bool := c.separators.contains x

def trailingSeparator? (c : Classifier) (block : Text) : Option Char :=
  block.getLast?.filter c.isSeparator

/-- The separator that all blocks of a list end with. -/
def commonSeparator? (c : Classifier) : List Text → Option Char
  | [] => none
  | block :: rest =>
      (c.trailingSeparator? block).filter fun s =>
        rest.all fun b => c.trailingSeparator? b == some s

/-- The text that a block is sorted by: the block without comments and decorators, unless that
leaves nothing. -/
def sortKey (c : Classifier) (block : Text) : Text :=
  let key := (c.bare block).trim
  if key.isEmpty then block.trim else key

end Classifier

end BlockOrder
