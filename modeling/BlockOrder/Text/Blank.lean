import BlockOrder.Text.Basic

/-!
# White space

The characters of the Unicode property `White_Space`, trimming, and the number of white-space
characters that open a line.
-/

namespace BlockOrder

/-- The white-space characters: tab to carriage return, the space, the no-break space, the
spaces of the general punctuation block, the line and paragraph separators and the ideographic
space. -/
def isBlankChar (c : Char) : Bool :=
  let n := c.toNat
  if n < 0x80 then n == 0x20 || (0x09 ≤ n && n ≤ 0x0D)
  else
    n == 0x85 || n == 0xA0 || n == 0x1680 || (0x2000 ≤ n && n ≤ 0x200A) || n == 0x2028 ||
      n == 0x2029 || n == 0x202F || n == 0x205F || n == 0x3000

namespace Text

/-- The text without the white space that opens it. -/
def trimStart (t : Text) : Text := t.dropWhile isBlankChar

/-- The text without the white space that closes it. -/
def trimEnd (t : Text) : Text := (t.reverse.dropWhile isBlankChar).reverse

/-- The text without white space at either end. -/
def trim (t : Text) : Text := trimEnd (trimStart t)

def isBlank (t : Text) : Bool := t.all isBlankChar

/-- The number of white-space characters that open the text. -/
def leadingBlanks (t : Text) : Nat := (t.takeWhile isBlankChar).length

theorem dropWhile_isBlankChar_eq_nil_iff (t : Text) :
    t.dropWhile isBlankChar = [] ↔ t.isBlank = true := by
  induction t with
  | nil => simp [isBlank]
  | cons c rest ih =>
      cases h : isBlankChar c with
      | false => simp [isBlank, h]
      | true =>
          rw [List.dropWhile_cons_of_pos h, ih]
          simp [isBlank, h]

/-- Trimming leaves nothing of blank texts, and of those only. -/
theorem trim_eq_nil_iff (t : Text) : trim t = [] ↔ t.isBlank = true := by
  have reversed : isBlank (trimStart t).reverse = isBlank (trimStart t) := by
    simp [isBlank]
  rw [trim, trimEnd, List.reverse_eq_nil_iff, dropWhile_isBlankChar_eq_nil_iff, reversed]
  induction t with
  | nil => simp [trimStart]
  | cons c rest ih =>
      cases h : isBlankChar c with
      | false => simp [trimStart, isBlank, h]
      | true =>
          have step : trimStart (c :: rest) = trimStart rest := by
            simp [trimStart, h]
          rw [step]
          simpa [isBlank, h] using ih (by simp [isBlank])

end Text

end BlockOrder
