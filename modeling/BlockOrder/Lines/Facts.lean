import BlockOrder.Classifier.Basic

/-!
# Facts about lines

What the division into blocks needs to know about a line.
-/

namespace BlockOrder

/-- Facts about a line. -/
structure LineFacts where
  /-- The number of white-space characters that open the line. -/
  indent : Nat
  /-- The brackets that the line opens and closes. -/
  folding : Folding
  /-- The line may separate blocks. -/
  valid : Bool
  /-- The line holds more than comments and white space. -/
  hasContent : Bool
  /-- The indentation of the line does not decide about blocks. -/
  ignoresIndent : Bool
  /-- The line completes a block. -/
  complete : Bool
  /-- The line goes on in the next one. -/
  incomplete : Bool
  /-- The line is one of several labels of a block. -/
  header : Bool
  /-- The line itself. -/
  text : Text
deriving DecidableEq

namespace LineFacts

def compute (c : Classifier) (t : Text) : LineFacts :=
  let bare := c.bare t
  { indent := t.leadingBlanks
    folding := c.lineFolding t
    valid := c.isValidLine t
    hasContent := c.hasContent t
    ignoresIndent := Classifier.occurs c.indentIgnore bare
    complete := Classifier.occurs c.complete bare
    incomplete := Classifier.occurs c.incomplete bare
    header := Classifier.occurs c.header bare
    text := t }

def isBlank (f : LineFacts) : Bool := f.text.isBlank

end LineFacts

/-- The smallest and the largest indentation of some lines. -/
structure IndentRange where
  least : Nat
  most : Nat
deriving DecidableEq

namespace IndentRange

def include? (r : Option IndentRange) (indent : Nat) : IndentRange :=
  match r with
  | none => ⟨indent, indent⟩
  | some r => ⟨min r.least indent, max r.most indent⟩

/-- The range over the lines from a given place on; `last` is the place of the last one. -/
def from? (skipIgnored : Bool) (last : Nat) :
    (place : Nat) → Option IndentRange → List LineFacts → Option IndentRange
  | _, r, [] => r
  | place, r, f :: rest =>
      if f.isBlank || (skipIgnored && f.ignoresIndent && place != 0 && place != last) then
        from? skipIgnored last (place + 1) r rest
      else from? skipIgnored last (place + 1) (some (include? r f.indent)) rest

/-- The range over some lines.  Blank lines do not count, and with `skipIgnored` neither do lines
whose indentation does not decide, unless they are the first or the last line. -/
def ofLines? (skipIgnored : Bool) (lines : List LineFacts) : Option IndentRange :=
  from? skipIgnored (lines.length - 1) 0 none lines

end IndentRange

end BlockOrder
