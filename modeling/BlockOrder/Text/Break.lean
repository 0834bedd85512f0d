import BlockOrder.Text.Basic

/-!
# Line breaks of stored texts

A stored text breaks into lines at more characters than the newline: also at carriage returns,
vertical tabs, form feeds, next-line characters and the line and paragraph separators.  Only a
newline is taken off the end of a line; the other break characters stay part of it.
-/

namespace BlockOrder

def isBreakChar (c : Char) : Bool :=
  c == '\n' || c == '\r' || c == '\x0b' || c == '\x0c' || c == '\u0085' || c == '\u2028' ||
    c == '\u2029'

namespace Text

/-- The lines of a stored text, each with the break that ends it.  A carriage return and the
newline after it are one break. -/
def brokenLines : Text → List Text
  | [] => [[]]
  | '\r' :: '\n' :: rest => ['\r', '\n'] :: brokenLines rest
  | c :: rest =>
      if isBreakChar c then [c] :: brokenLines rest
      else
        match brokenLines rest with
        | [] => [[c]]
        | line :: more => (c :: line) :: more

/-- A text without the newline that ends it, if one does. -/
def withoutNewline (t : Text) : Text := if t.getLast? = some '\n' then t.dropLast else t

/-- The offset at which a line of a stored text starts. -/
def lineStart (t : Text) (line : Nat) : Nat := (t.brokenLines.take line).flatten.length

end Text

end BlockOrder
