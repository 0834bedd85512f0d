import BlockOrder.Text.Basic

/-!
# Places in a configuration file

Where a reader of a file stands: what follows, and how far it has come.  Lines are ended by
newlines, carriage returns, both together, or one of the separators of Unicode.
-/

namespace BlockOrder.Data.Yaml

/-- Whether a character separates words on a line. -/
def isSpacing (c : Char) : Bool := c == ' ' || c == '\t'

def isLineEnd (c : Char) : Bool :=
  c == '\n' || c == '\r' || c.toNat == 0x85 || c.toNat == 0x2028 || c.toNat == 0x2029

/-- Whether a text starts with white space or a line end, or is empty. -/
def opensBlank : Text → Bool
  | [] => true
  | c :: _ => isSpacing c || isLineEnd c

/-- Whether a character may stand in a file: no control character but tabs and line ends. -/
def isAllowed (c : Char) : Bool :=
  let n := c.toNat
  n == 0x09 || n == 0x0A || n == 0x0D || (0x20 ≤ n && n ≤ 0x7E) || n == 0x85 ||
    (0xA0 ≤ n && n ≤ 0xFFFD) || 0x10000 ≤ n

/-- A place in a file. -/
structure Place where
  rest : Text
  index : Nat := 0
  line : Nat := 0
  column : Nat := 0

namespace Place

def next? (p : Place) : Option Char := p.rest.head?

/-- The place after one character that does not end a line. -/
def step (p : Place) : Place :=
  { p with rest := p.rest.drop 1, index := p.index + 1, column := p.column + 1 }

/-- The place after a number of characters that do not end a line. -/
def steps (n : Nat) (p : Place) : Place :=
  { p with rest := p.rest.drop n, index := p.index + n, column := p.column + n }

/-- The place after the characters of which a condition holds; none of them ends a line. -/
def skipWhile (cond : Char → Bool) (p : Place) : Place :=
  p.steps (p.rest.takeWhile cond).length

/-- The place after a line end, if one comes next, and the character that stands for it.  The
separators of Unicode stand for themselves, all other line ends for a newline. -/
def lineEnd? (p : Place) : Option (Char × Place) :=
  let after := fun n => { p with
    rest := p.rest.drop n, index := p.index + n, line := p.line + 1, column := 0 }
  match p.rest with
  | '\r' :: '\n' :: _ => some ('\n', after 2)
  | c :: _ =>
      if !isLineEnd c then none
      else if c.toNat == 0x2028 || c.toNat == 0x2029 then some (c, after 1)
      else some ('\n', after 1)
  | [] => none

/-- Whether a given mark stands at the start of a line, with nothing attached to it. -/
def hasMark (p : Place) (mark : String) : Bool :=
  p.column == 0 && (Text.after? mark.toList p.rest).any opensBlank

/-- Whether the line starts or ends a document. -/
def atDocumentMark (p : Place) : Bool := p.hasMark "---" || p.hasMark "..."

end Place

end BlockOrder.Data.Yaml
