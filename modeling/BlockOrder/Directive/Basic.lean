import BlockOrder.Classifier.Compile
import BlockOrder.Sort.Options
import BlockOrder.Text.Numeral

/-!
# Directives

A directive in a comment asks for the blocks below it to be sorted: the keyword, a direction and
a depth, the latter two optional.
-/

namespace BlockOrder

/-- What a directive asks for. -/
structure Directive where
  direction : Direction
  depth : Depth
  /-- The number of outer levels that stay as they are. -/
  skipParents : Nat
deriving DecidableEq

/-- Why a line has no usable directive. -/
inductive DirectiveError where
  | missing (line : Nat)
  | invalidDepth (depth : Text)
deriving DecidableEq

namespace DirectiveError

def message : DirectiveError → String
  | missing line => "line " ++ toString line ++ " does not contain a @blocksort directive"
  | invalidDepth depth => "invalid sort depth '" ++ String.ofList depth ++ "'"

end DirectiveError

namespace Directive

/-- What follows the first occurrence of a pattern in a text. -/
def afterFirst? (pattern : Text) : Text → Option Text
  | [] => Text.after? pattern []
  | c :: rest => (Text.after? pattern (c :: rest)).or (afterFirst? pattern rest)

/-- The text after a space, if it starts with one. -/
def skipSpace : Text → Text
  | ' ' :: rest => rest
  | t => t

/-- The direction at the start of a text, ascending if there is none. -/
def readDirection (t : Text) : Direction × Text :=
  match Text.after? "asc".toList t, Text.after? "desc".toList t with
  | some rest, _ => (.asc, rest)
  | none, some rest => (.desc, rest)
  | none, none => (.asc, t)

/-- The depth at the start of a text: a numeral below 2^64, or a word for an unbounded depth. -/
def readDepth (t : Text) : Except DirectiveError Depth :=
  let digits := t.takeWhile isDecimalDigit
  if !digits.isEmpty then
    match decimal? digits with
    | some n => if n < 0x10000000000000000 then .ok (.limited n) else .error (.invalidDepth digits)
    | none => .error (.invalidDepth digits)
  else if (Text.after? "inf".toList t).isSome then .ok .unbounded
  else .ok (.limited 0)

/-- The directive in the text of a line. -/
def parse (t : Text) (line skipParents : Nat) : Except DirectiveError Directive :=
  match afterFirst? Classifier.keyword.toList t with
  | none => .error (.missing line)
  | some rest => do
      let (direction, rest) := readDirection (skipSpace rest)
      let depth ← readDepth (skipSpace rest)
      return ⟨direction, depth, skipParents⟩

/-- The options for the sorting that a directive asks for. -/
def sortOptions (d : Directive) (c : Config) : SortOptions where
  order := .ofOptions c.collation d.direction
  depth := d.depth
  skipParents := d.skipParents

end Directive

end BlockOrder
