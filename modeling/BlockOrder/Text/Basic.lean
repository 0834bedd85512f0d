/-!
# Texts

A text is its list of Unicode scalar values.  Lines of a text are separated by the newline
character; splitting a text into lines and joining the lines again are inverse to each other.
-/

namespace BlockOrder

/-- A text is a list of characters; positions in it count characters. -/
abbrev Text := List Char

namespace Text

/-- The lines of a text: the pieces between its newlines.  There is always at least one. -/
def lines : Text → List Text
  | [] => [[]]
  | c :: rest =>
      if c = '\n' then [] :: lines rest
      else
        match lines rest with
        | [] => [[c]]
        | line :: more => (c :: line) :: more

/-- Texts written one after the other with a newline between neighbours. -/
def unlines : List Text → Text
  | [] => []
  | [line] => line
  | line :: more => line ++ '\n' :: unlines more

/-- Whether `pattern` stands at the start of the text, and what follows it there. -/
def after? : (pattern text : Text) → Option Text
  | [], text => some text
  | _ :: _, [] => none
  | p :: ps, c :: cs => if p = c then after? ps cs else none

def occurs (pattern : Text) : Text → Bool
  | [] => pattern.isEmpty
  | c :: rest => (after? pattern (c :: rest)).isSome || occurs pattern rest

theorem lines_ne_nil (t : Text) : lines t ≠ [] := by
  cases t with
  | nil => simp [lines]
  | cons c rest =>
      by_cases h : c = '\n'
      · simp [lines, h]
      · simp only [lines, h, if_false]
        split <;> simp

/-- Joining the lines of a text gives the text back. -/
theorem unlines_lines (t : Text) : unlines (lines t) = t := by
  induction t with
  | nil => rfl
  | cons c rest ih =>
      by_cases h : c = '\n'
      · subst h
        cases hl : lines rest with
        | nil => exact absurd hl (lines_ne_nil rest)
        | cons line more =>
            rw [hl] at ih
            simp [lines, hl, unlines, ih]
      · simp only [lines, h, if_false]
        cases hl : lines rest with
        | nil => exact absurd hl (lines_ne_nil rest)
        | cons line more =>
            rw [hl] at ih
            cases more <;> simp_all [unlines]

end Text

end BlockOrder
