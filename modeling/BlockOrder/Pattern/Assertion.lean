import BlockOrder.Text.Basic
import BlockOrder.Text.Letter

/-!
# Assertions

Conditions on a place in a text, which patterns can ask for without taking a character.  A place
is given by the characters before it, nearest first, and the characters after it.
-/

namespace BlockOrder

/-- A condition on a place in a text. -/
inductive Assertion where
  /-- The place is the start of the text. -/
  | textStart
  /-- The place is the end of the text. -/
  | textEnd
  /-- The place is the start of a line. -/
  | lineStart
  /-- The place is the end of a line. -/
  | lineEnd
  /-- Exactly one of the neighbouring characters belongs to a word. -/
  | wordBoundary
  /-- Both neighbouring characters belong to words, or neither does. -/
  | noWordBoundary
  /-- A word starts at the place. -/
  | wordStart
  /-- A word ends at the place. -/
  | wordEnd
  /-- No word character comes immediately before. -/
  | noWordBefore
  /-- No word character follows immediately. -/
  | noWordAfter
deriving DecidableEq

namespace Assertion

/-- Whether the next character of a list belongs to a word. -/
def wordNext : Text → Bool
  | [] => false
  | c :: _ => isWordChar c

def holds (a : Assertion) (before rest : Text) : Bool :=
  match a with
  | textStart => before.isEmpty
  | textEnd => rest.isEmpty
  | lineStart => before.head?.all (· == '\n')
  | lineEnd => rest.head?.all (· == '\n')
  | wordBoundary => wordNext before != wordNext rest
  | noWordBoundary => wordNext before == wordNext rest
  | wordStart => !wordNext before && wordNext rest
  | wordEnd => wordNext before && !wordNext rest
  | noWordBefore => !wordNext before
  | noWordAfter => !wordNext rest

def isAboutWords : Assertion → Bool
  | textStart | textEnd | lineStart | lineEnd => false
  | _ => true

end Assertion

end BlockOrder
