import BlockOrder.Proofs.Text.Case
import BlockOrder.Text.Basic
import BlockOrder.Text.Numeral

/-!
# Values of decimal numerals

The value of a nonempty row of digits is the number it stands for, whatever its length and with
any zeros in front, and the digits of a number are read as that number.
-/

namespace BlockOrder

theorem isDecimalDigit_of_isAsciiDigit {c : Char} (h : isAsciiDigit c = true) :
    isDecimalDigit c = true := by
  have hc : c.toNat < 0x80 := by
    have := (isAsciiDigit_iff c).mp h
    omega
  rw [isDecimalDigit, if_pos hc, h]

/-- A row of characters of one kind ends where the rest starts with another kind. -/
theorem span_of_all {p : Char → Bool} {row rest : Text} (hrow : row.all p = true)
    (hrest : rest.head?.any p = false) :
    (row ++ rest).takeWhile p = row ∧ (row ++ rest).dropWhile p = rest := by
  have hp : ∀ c ∈ row, p c = true := List.all_eq_true.mp hrow
  rw [List.takeWhile_append_of_pos hp, List.dropWhile_append_of_pos hp]
  cases rest with
  | nil => simp
  | cons c rest =>
      have hc : p c = false := hrest
      simp [hc]

theorem digitValue?_of_isAsciiDigit {c : Char} (h : isAsciiDigit c = true) :
    digitValue? c = some (c.toNat - '0'.toNat) := if_pos h

theorem numeralFrom_digits {digits : Text} (h : digits.all isAsciiDigit = true) (high : Nat) :
    numeralFrom digitValue? 10 high digits = some (Nat.ofDigitChars 10 digits high) := by
  induction digits generalizing high with
  | nil => rw [numeralFrom, Nat.ofDigitChars_nil]
  | cons c digits ih =>
      simp only [List.all_cons, Bool.and_eq_true] at h
      rw [numeralFrom, digitValue?_of_isAsciiDigit h.1, Nat.ofDigitChars_cons, Nat.mul_comm 10]
      exact ih h.2 _

theorem decimal?_digits {digits : Text} (hne : digits ≠ []) (h : digits.all isAsciiDigit = true) :
    decimal? digits = some (Nat.ofDigitChars 10 digits 0) := by
  cases digits with
  | nil => exact absurd rfl hne
  | cons c digits => exact numeralFrom_digits h 0

theorem all_isAsciiDigit_toDigits (n : Nat) : (Nat.toDigits 10 n).all isAsciiDigit = true :=
  List.all_eq_true.mpr fun _ hc => Nat.isDigit_of_mem_toDigits (by decide) (by decide) hc

theorem decimal?_toDigits (n : Nat) : decimal? (Nat.toDigits 10 n) = some n := by
  rw [decimal?_digits Nat.toDigits_ne_nil (all_isAsciiDigit_toDigits n),
    Nat.ofDigitChars_ten_toDigits]

/-- No number but zero is written with a zero in front. -/
theorem eq_zero_of_head?_toDigits {n : Nat} (h : (Nat.toDigits 10 n).head? = some '0') : n = 0 := by
  induction n using Nat.strongRecOn with
  | ind n ih =>
      rcases Nat.lt_or_ge n 10 with hlt | hge
      · rw [Nat.toDigits_of_lt_base hlt, List.head?_cons, Option.some.injEq] at h
        exact Nat.digitChar_eq_zero.mp h
      · have hne : Nat.toDigits 10 (n / 10) ≠ [] := Nat.toDigits_ne_nil
        obtain ⟨c, high, hhigh⟩ := List.exists_cons_of_ne_nil hne
        rw [Nat.toDigits_of_base_le (by decide) hge, hhigh] at h
        have hdiv := ih (n / 10) (by omega) (hhigh ▸ h)
        omega

end BlockOrder
