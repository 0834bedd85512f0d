import Mathlib.Data.List.Basic
import BlockOrder.Proofs.Order.Collation
import BlockOrder.Proofs.Text.Decimal

/-!
# Numbers compare by value

Runs of digits are compared without computing what they stand for: by the number of their
significant digits, then digit by digit, then by their lengths.  This is the order of their values,
and of their lengths where the values are equal.  A text that does not end in a digit is read the
same whatever comes behind it, so keys that differ in a number behind such a text are ordered by
the value of the number.
-/

namespace BlockOrder

namespace KeyPart

/-- A nonempty run of digits. -/
structure IsNumeral (a : Text) : Prop where
  nonempty : a ≠ []
  digits : a.all isAsciiDigit = true

/-- The number that a run of digits stands for. -/
def value (a : Text) : Nat := Nat.ofDigitChars 10 a 0

/-! ## Runs of the same length -/

/-- Digits do not make up for a smaller number in front of them. -/
theorem ofDigitChars_lt {a b : Text} (ha : a.all isAsciiDigit = true)
    (hlength : a.length = b.length) {m n : Nat} (h : m < n) :
    Nat.ofDigitChars 10 a m < Nat.ofDigitChars 10 b n := by
  induction a generalizing b m n with
  | nil =>
      obtain rfl := List.length_eq_zero_iff.mp hlength.symm
      exact h
  | cons x a ih =>
      cases b with
      | nil => cases hlength
      | cons y b =>
          rw [List.all_cons, Bool.and_eq_true, isAsciiDigit_iff] at ha
          rw [Nat.ofDigitChars_cons, Nat.ofDigitChars_cons]
          refine ih ha.2 (Nat.succ.inj hlength) ?_
          have hzero : '0'.toNat = 0x30 := rfl
          omega

theorem compare_ofDigitChars {a b : Text} (ha : a.all isAsciiDigit = true)
    (hb : b.all isAsciiDigit = true) (hlength : a.length = b.length) (n : Nat) :
    compare (Nat.ofDigitChars 10 a n) (Nat.ofDigitChars 10 b n) = codePointOrder a b := by
  induction a generalizing b n with
  | nil =>
      obtain rfl := List.length_eq_zero_iff.mp hlength.symm
      exact Nat.compare_eq_eq.mpr rfl
  | cons x a ih =>
      cases b with
      | nil => cases hlength
      | cons y b =>
          rw [List.all_cons, Bool.and_eq_true] at ha hb
          have hx := (isAsciiDigit_iff x).mp ha.1
          have hy := (isAsciiDigit_iff y).mp hb.1
          have hmore : a.length = b.length := Nat.succ.inj hlength
          have hzero : '0'.toNat = 0x30 := rfl
          rw [codePointOrder, Nat.ofDigitChars_cons, Nat.ofDigitChars_cons]
          -- the first digits that differ decide, whatever follows them
          by_cases hxy : x < y
          · have hlt : x.toNat < y.toNat := hxy
            rw [if_pos hxy, Nat.compare_eq_lt]
            exact ofDigitChars_lt ha.2 hmore (by omega)
          by_cases hyx : y < x
          · have hlt : y.toNat < x.toNat := hyx
            rw [if_neg hxy, if_pos hyx, Nat.compare_eq_gt]
            exact ofDigitChars_lt hb.2 hmore.symm (by omega)
          · obtain rfl : x = y := Char.le_antisymm (Char.not_lt.mp hyx) (Char.not_lt.mp hxy)
            rw [if_neg hxy, if_neg hyx]
            exact ih ha.2 hb.2 hmore _

/-! ## Leading zeros -/

theorem value_replicate_append (k : Nat) (a : Text) :
    value (List.replicate k '0' ++ a) = value a := by
  induction k with
  | zero => rfl
  | succ k ih => exact ih

theorem value_significant (a : Text) : value (significant a) = value a := by
  rw [← value_replicate_append (a.length - (significant a).length) (significant a),
    replicate_append_significant]

theorem all_isAsciiDigit_significant {a : Text} (ha : a.all isAsciiDigit = true) :
    (significant a).all isAsciiDigit = true := by
  rw [← replicate_append_significant a, List.all_append, Bool.and_eq_true] at ha
  exact ha.2

theorem head_significant_ne_zero {a b : Text} {x : Char} (h : significant a = x :: b) :
    x ≠ '0' := by
  have hhead := List.head?_dropWhile_not (· == '0') a
  rw [← significant, h] at hhead
  simpa using hhead

/-- A longer run is larger unless it starts with a zero. -/
theorem value_lt_of_length_lt {a b : Text} {x : Char} (ha : a.all isAsciiDigit = true)
    (hdigit : isAsciiDigit x = true) (hx : x ≠ '0') (hlength : a.length ≤ b.length) :
    value a < value (x :: b) := by
  have hpositive : 0 < 10 * 0 + (x.toNat - '0'.toNat) := by
    have hzero : '0'.toNat = 0x30 := rfl
    have hne : x.toNat ≠ '0'.toNat := fun h => hx (Char.toNat_inj.mp h)
    have hrange := (isAsciiDigit_iff x).mp hdigit
    omega
  have hpadded : (List.replicate (b.length - a.length) '0' ++ a).all isAsciiDigit = true := by
    rw [List.all_append, ha, Bool.and_true, List.all_replicate]
    exact ite_eq_left_iff.mpr fun _ => rfl
  rw [← value_replicate_append (b.length - a.length) a, value, value, Nat.ofDigitChars_cons]
  refine ofDigitChars_lt hpadded ?_ hpositive
  rw [List.length_append, List.length_replicate]
  omega

theorem value_lt_of_significant_length_lt {a b : Text} (ha : a.all isAsciiDigit = true)
    (hb : b.all isAsciiDigit = true) (h : (significant a).length < (significant b).length) :
    value a < value b := by
  rw [← value_significant a, ← value_significant b]
  have hdigits := all_isAsciiDigit_significant hb
  cases hsignificant : significant b with
  | nil => simp [hsignificant] at h
  | cons x more =>
      rw [hsignificant, List.all_cons, Bool.and_eq_true] at hdigits
      rw [hsignificant, List.length_cons, Nat.lt_succ_iff] at h
      exact value_lt_of_length_lt (all_isAsciiDigit_significant ha) hdigits.1
        (head_significant_ne_zero hsignificant) h

/-- Significant digits, counted and then compared one by one, are ordered as the values are. -/
theorem compare_value {a b : Text} (ha : a.all isAsciiDigit = true)
    (hb : b.all isAsciiDigit = true) :
    compare (value a) (value b) =
      (compare (significant a).length (significant b).length).then
        (codePointOrder (significant a) (significant b)) := by
  rcases Nat.lt_trichotomy (significant a).length (significant b).length with hlt | heq | hgt
  · have hvalue := value_lt_of_significant_length_lt ha hb hlt
    rw [Nat.compare_eq_lt.mpr hlt, Nat.compare_eq_lt.mpr hvalue]
    rfl
  · rw [Nat.compare_eq_eq.mpr heq, ← value_significant a, ← value_significant b]
    exact compare_ofDigitChars (all_isAsciiDigit_significant ha) (all_isAsciiDigit_significant hb)
      heq 0
  · have hvalue := value_lt_of_significant_length_lt hb ha hgt
    rw [Nat.compare_eq_gt.mpr hgt, Nat.compare_eq_gt.mpr hvalue]
    rfl

theorem numberOrder_eq {a b : Text} (ha : a.all isAsciiDigit = true)
    (hb : b.all isAsciiDigit = true) :
    numberOrder a b = (compare (value a) (value b)).then (compare a.length b.length) := by
  rw [compare_value ha hb, Ordering.then_assoc]
  rfl

/-! ## Numbers behind the same text -/

/-- What stands before a text is read by itself, unless it ends in a digit. -/
theorem Reads.append {p a : Text} {parts more : List KeyPart} (hp : Reads true p parts)
    (hlast : p.getLast?.any isAsciiDigit = false) (ha : Reads true a more) :
    Reads true (p ++ a) (parts ++ more) := by
  induction hp with
  | nil => exact ha
  | @number digits rest parts counts nonempty isDigits ends reads ih =>
      -- the digits are not the end of the text, so what ends them is still there
      cases rest with
      | nil =>
          rw [List.append_nil, List.getLast?_eq_some_getLast nonempty] at hlast
          have hdigit := List.all_eq_true.mp isDigits _ (List.getLast_mem nonempty)
          exact absurd hdigit (by simpa using hlast)
      | cons x rest =>
          rw [List.getLast?_append_cons] at hlast
          rw [List.append_assoc]
          exact .number counts nonempty isDigits ends (ih hlast)
  | @char c rest parts noNumber reads ih =>
      refine .char noNumber (ih ?_)
      cases rest with
      | nil => rfl
      | cons x rest => rwa [List.getLast?_cons_cons] at hlast

theorem ofText_append_numeral {p a : Text} (hlast : p.getLast?.any isAsciiDigit = false)
    (ha : IsNumeral a) : ofText true (p ++ a) = ofText true p ++ [number a] := by
  have hnumber : Reads true (a ++ []) [number a] := .number rfl ha.nonempty ha.digits rfl .nil
  rw [List.append_nil] at hnumber
  exact ((reads_ofText true p).append hlast hnumber).ofText_eq

theorem listOrder_append (parts xs ys : List KeyPart) :
    listOrder (parts ++ xs) (parts ++ ys) = listOrder xs ys := by
  induction parts with
  | nil => rfl
  | cons part parts ih =>
      have hself : part.order part = .eq := Std.ReflCmp.compare_self
      rw [List.cons_append, List.cons_append, listOrder, hself, ih]
      rfl

theorem listOrder_numbers {p a b : Text} (hlast : p.getLast?.any isAsciiDigit = false)
    (ha : IsNumeral a) (hb : IsNumeral b) :
    listOrder (ofText true (p ++ a)) (ofText true (p ++ b)) = numberOrder a b := by
  rw [ofText_append_numeral hlast ha, ofText_append_numeral hlast hb, listOrder_append]
  exact Ordering.then_eq

end KeyPart

namespace CollationOptions

open KeyPart

theorem collate_of_listOrder_lt {o : CollationOptions} {a b : Text}
    (h : listOrder (ofText o.numeric a) (ofText o.numeric b) = .lt) : o.collate a b = .lt := by
  rw [collate, h]
  rfl

/-- Numbers are ordered by value and then by length, and keys that have the same text in front of
their numbers are ordered by the values of these. -/
theorem collate_numbers_by_value {a b : Text} (ha : IsNumeral a) (hb : IsNumeral b) :
    numberOrder a b = (compare (value a) (value b)).then (compare a.length b.length) ∧
      ∀ (o : CollationOptions) (p : Text), o.numeric = true →
        p.getLast?.any isAsciiDigit = false → value a < value b →
          o.collate (p ++ a) (p ++ b) = .lt := by
  have horder := numberOrder_eq ha.digits hb.digits
  refine ⟨horder, ?_⟩
  intro o p hnumeric hlast hlt
  apply collate_of_listOrder_lt
  rw [hnumeric, listOrder_numbers hlast ha hb, horder, Nat.compare_eq_lt.mpr hlt]
  rfl

/-- A shorter numeral with a larger value, behind a text with a number in it. -/
theorem collate_numbers_by_value_of_zeros :
    IsNumeral "00099".toList ∧ IsNumeral "100".toList ∧
      numberOrder "00099".toList "100".toList = .lt ∧
      CollationOptions.collate {} "v2.é00099".toList "v2.é100".toList = .lt := by
  have ha : IsNumeral "00099".toList := ⟨by decide, by decide⟩
  have hb : IsNumeral "100".toList := ⟨by decide, by decide⟩
  obtain ⟨horder, hcollate⟩ := collate_numbers_by_value ha hb
  have hlt : value "00099".toList < value "100".toList := by decide
  have hnumber : numberOrder "00099".toList "100".toList = .lt := by
    rw [horder, Nat.compare_eq_lt.mpr hlt]
    rfl
  exact ⟨ha, hb, hnumber, hcollate {} "v2.é".toList rfl (by decide) hlt⟩

end CollationOptions

end BlockOrder
