import BlockOrder.Text.Basic
import BlockOrder.Text.Numeral

/-!
# Coded properties

Large properties of characters are written down as texts: words between spaces that give the
lengths of runs of code points, one run after the other from zero on.
-/

namespace BlockOrder

/-- Puts a character in front of the first word. -/
def consWord (c : Char) : List Text → List Text
  | [] => [[c]]
  | word :: rest => (c :: word) :: rest

/-- The pieces of a text between its spaces. -/
def splitWords : Text → List Text
  | [] => [[]]
  | c :: rest => if c = ' ' then [] :: splitWords rest else consWord c (splitWords rest)

/-- The words of a line of a coded property. -/
def codingWords (line : String) : List Text := splitWords line.toList

/-- A run of code points with the label of the property value that they share. -/
structure LabelledRun where
  label : Text
  first : Nat
  last : Nat

namespace LabelledRun

/-- The runs that words describe, from code point `start` on.  A word is a label of `size`
characters and the length of a run. -/
def decode (size : Nat) : (start : Nat) → List Text → List LabelledRun
  | _, [] => []
  | start, word :: rest =>
      match hexadecimal? (word.drop size) with
      | some n => ⟨word.take size, start, start + n - 1⟩ :: decode size (start + n) rest
      | none => decode size start rest

/-- The ranges of the runs that have one of the given labels. -/
def select (labels : List Text) : List LabelledRun → List (Nat × Nat)
  | [] => []
  | r :: rest =>
      if labels.contains r.label then (r.first, r.last) :: select labels rest
      else select labels rest

end LabelledRun

/-- The ranges that words describe, from code point `start` on: the length of a gap and that of
the run after it in turn. -/
def decodeGaps : (start : Nat) → List Text → List (Nat × Nat)
  | start, gap :: run :: rest =>
      match hexadecimal? gap, hexadecimal? run with
      | some g, some n => (start + g, start + g + n - 1) :: decodeGaps (start + g + n) rest
      | _, _ => decodeGaps start rest
  | _, _ => []

def codedRanges (coding : List String) : List (Nat × Nat) :=
  decodeGaps 0 (coding.flatMap codingWords)

end BlockOrder
