import BlockOrder.Text.Basic

/-!
# Line endings

Texts are worked on with plain newlines.  The ending that a text came with is remembered, so that
it can be saved as it was loaded.
-/

namespace BlockOrder

/-- The sequence that ends the lines of a saved text. -/
inductive LineEnding where
  | lf
  | crlf
deriving DecidableEq, Inhabited

namespace LineEnding

def sequence : LineEnding → Text
  | lf => ['\n']
  | crlf => ['\r', '\n']

/-- A text uses `crlf` if a carriage return and a newline follow each other anywhere in it. -/
def detect : Text → LineEnding
  | '\r' :: '\n' :: _ => crlf
  | _ :: rest => detect rest
  | [] => lf

/-- The text with every newline written as the ending. -/
def apply : LineEnding → Text → Text
  | lf, t => t
  | crlf, t => t.flatMap fun c => if c = '\n' then ['\r', '\n'] else [c]

/-- The text with every carriage return, together with the newline after it if there is one,
replaced by a newline. -/
def normalize : Text → Text
  | '\r' :: '\n' :: rest => '\n' :: normalize rest
  | '\r' :: rest => '\n' :: normalize rest
  | c :: rest => c :: normalize rest
  | [] => []

/-- A text without the line ending it closes with, and that ending. -/
def splitSuffix (t : Text) : Text × Text :=
  match t.reverse with
  | '\n' :: '\r' :: body => (body.reverse, ['\r', '\n'])
  | '\n' :: body => (body.reverse, ['\n'])
  | _ => (t, [])

end LineEnding

end BlockOrder
