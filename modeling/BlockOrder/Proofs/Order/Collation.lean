import BlockOrder.Order.KeyOrder
import BlockOrder.Proofs.Text.Case

/-!
# Collation orders keys

Parts of keys are ordered by their kind, by the value of a number and by a character, one after
the other, and no two of them are equal in this order.  Keys are ordered by their parts from left
to right, so comparing keys is a total preorder, in which those keys are equal that read as the
same parts.
-/

namespace BlockOrder

open Std

/-- Comparing images is as lawful as comparing. -/
theorem transCmp_comap {α β : Type} (f : α → β) (cmp : β → β → Ordering) [TransCmp cmp] :
    TransCmp fun a b => cmp (f a) (f b) where
  eq_swap {a b} := @OrientedCmp.eq_swap β cmp _ (f a) (f b)
  isLE_trans {a b c} := @TransCmp.isLE_trans β cmp _ (f a) (f b) (f c)

theorem codePointOrder_eq_compareLex : codePointOrder = List.compareLex compare := by
  funext a b
  induction a generalizing b with
  | nil => cases b <;> rfl
  | cons x xs ih =>
      cases b with
      | nil => rfl
      | cons y ys =>
          rw [codePointOrder, List.compareLex_cons_cons, ih]
          change _ = (compareOfLessAndEq x y).then _
          unfold compareOfLessAndEq
          by_cases hxy : x < y
          · rw [if_pos hxy, if_pos hxy]
            rfl
          · rw [if_neg hxy, if_neg hxy]
            by_cases hyx : y < x
            · rw [if_pos hyx, if_neg (Char.ne_of_lt hyx).symm]
              rfl
            · rw [if_neg hyx, if_pos (Char.le_antisymm (Char.not_lt.mp hyx) (Char.not_lt.mp hxy))]
              rfl

instance : TransCmp codePointOrder := by
  rw [codePointOrder_eq_compareLex]
  infer_instance

instance : LawfulEqCmp codePointOrder := by
  rw [codePointOrder_eq_compareLex]
  infer_instance

namespace KeyPart

/-! ## Numbers -/

instance : TransCmp numberOrder :=
  have := transCmp_comap significant codePointOrder
  inferInstanceAs (TransCmp (compareLex (compareOn fun a => (significant a).length)
    (compareLex (fun a b => codePointOrder (significant a) (significant b))
      (compareOn List.length))))

/-- A numeral is its significant digits after as many zeros as its length leaves room for. -/
theorem replicate_append_significant (a : Text) :
    List.replicate (a.length - (significant a).length) '0' ++ significant a = a := by
  have happend : a.takeWhile (· == '0') ++ significant a = a := List.takeWhile_append_dropWhile
  have hlength := congrArg List.length happend
  rw [List.length_append] at hlength
  have hzeros : a.takeWhile (· == '0') =
      List.replicate (a.length - (significant a).length) '0' := by
    refine List.eq_replicate_iff.mpr ⟨by omega, fun c hc => ?_⟩
    simpa using (List.all_eq_true.mp List.all_takeWhile) c hc
  rw [← hzeros, happend]

instance : LawfulEqCmp numberOrder where
  eq_of_compare {a b} h := by
    simp only [numberOrder, Ordering.then_eq_eq, LawfulEqCmp.compare_eq_iff_eq] at h
    obtain ⟨-, hdigits, hlength⟩ := h
    rw [← replicate_append_significant a, ← replicate_append_significant b, hdigits, hlength]

/-! ## Parts -/

/-- The digits of a number; other parts have none. -/
def digits : KeyPart → Text
  | number digits => digits
  | _ => []

/-- The character of a letter or a punctuation mark. -/
def char : KeyPart → Char
  | punctuation c => c
  | letter c => c
  | _ => '0'

theorem order_eq_compareLex :
    order = compareLex (compareOn kind)
      (compareLex (fun a b => numberOrder a.digits b.digits) (compareOn char)) := by
  funext a b
  cases a with
  | blank => cases b <;> rfl
  | punctuation x => cases b <;> rfl
  | letter x => cases b <;> rfl
  | number x =>
      cases b with
      | number y => exact Ordering.then_eq.symm
      | _ => rfl

instance : TransCmp order := by
  have := transCmp_comap digits numberOrder
  rw [order_eq_compareLex]
  infer_instance

instance : LawfulEqCmp order where
  compare_self {a} := by
    rw [order_eq_compareLex]
    simp [compareLex, compareOn]
  eq_of_compare {a b} h := by
    simp only [order_eq_compareLex, compareLex, compareOn, Ordering.then_eq_eq,
      LawfulEqCmp.compare_eq_iff_eq] at h
    obtain ⟨hkind, hdigits, hchar⟩ := h
    cases a <;> cases b <;> simp_all [kind, digits, char]

theorem listOrder_eq_compareLex : listOrder = List.compareLex order := by
  funext a b
  induction a generalizing b with
  | nil => cases b <;> rfl
  | cons x xs ih =>
      cases b with
      | nil => rfl
      | cons y ys => rw [listOrder, ih, List.compareLex_cons_cons]

instance : TransCmp listOrder := by
  rw [listOrder_eq_compareLex]
  infer_instance

instance : LawfulEqCmp listOrder := by
  rw [listOrder_eq_compareLex]
  infer_instance

/-! ## Reading a key -/

/-- A text read as parts.  If numbers count, digits that no other digit follows are one part as
they are written; every other character is a part of its own. -/
inductive Reads (numeric : Bool) : Text → List KeyPart → Prop
  | nil : Reads numeric [] []
  | number {digits rest : Text} {parts : List KeyPart} (counts : numeric = true)
      (nonempty : digits ≠ []) (isDigits : digits.all isAsciiDigit = true)
      (ends : rest.head?.any isAsciiDigit = false) (reads : Reads numeric rest parts) :
      Reads numeric (digits ++ rest) (number digits :: parts)
  | char {c : Char} {rest : Text} {parts : List KeyPart}
      (noNumber : (numeric && isAsciiDigit c) = false) (reads : Reads numeric rest parts) :
      Reads numeric (c :: rest) (ofChar c :: parts)

theorem ofChar_ne_number (c : Char) (digits : Text) : ofChar c ≠ number digits := by
  unfold ofChar
  split
  · nofun
  split <;> nofun

theorem ofText_cons_char {numeric : Bool} {c : Char} (h : (numeric && isAsciiDigit c) = false)
    (rest : Text) : ofText numeric (c :: rest) = ofChar c :: ofText numeric rest := by
  rw [ofText, h]
  rfl

theorem ofText_digits {digits rest : Text} (hne : digits ≠ [])
    (hdigits : digits.all isAsciiDigit = true) (hends : rest.head?.any isAsciiDigit = false) :
    ofText true (digits ++ rest) = number digits :: ofText true rest := by
  induction digits with
  | nil => exact absurd rfl hne
  | cons c more ih =>
      rw [List.all_cons, Bool.and_eq_true] at hdigits
      rw [List.cons_append, ofText, Bool.true_and, hdigits.1, if_pos rfl]
      cases more with
      | nil =>
          rw [List.nil_append]
          cases rest with
          | nil => rfl
          | cons d rest =>
              have hd : (true && isAsciiDigit d) = false := by simpa using hends
              rw [ofText_cons_char hd]
              split
              · next heq => exact absurd (List.cons.inj heq).1 (ofChar_ne_number d _)
              · rfl
      | cons d more => rw [ih (by simp) hdigits.2]

theorem Reads.ofText_eq {numeric : Bool} {t : Text} {parts : List KeyPart}
    (h : Reads numeric t parts) : ofText numeric t = parts := by
  induction h with
  | nil => rfl
  | number counts nonempty isDigits ends _ ih =>
      subst counts
      rw [ofText_digits nonempty isDigits ends, ih]
  | char noNumber _ ih => rw [ofText_cons_char noNumber, ih]

theorem reads_ofText (numeric : Bool) (t : Text) : Reads numeric t (ofText numeric t) := by
  induction t with
  | nil => exact .nil
  | cons c rest ih =>
      cases hc : numeric && isAsciiDigit c with
      | false =>
          rw [ofText_cons_char hc]
          exact .char hc ih
      | true =>
          obtain ⟨hnumeric, hdigit⟩ := (Bool.and_eq_true _ _).mp hc
          rw [ofText, hc, if_pos rfl]
          -- the digit joins the number that the rest starts with, if there is one
          have hone : [c].all isAsciiDigit = true := by simpa using hdigit
          generalize ofText numeric rest = parts at ih
          cases ih with
          | nil => exact .number hnumeric (List.cons_ne_nil c []) hone rfl .nil
          | @number digits _ _ _ nonempty isDigits ends reads =>
              exact .number hnumeric (List.cons_ne_nil c digits)
                (by rw [List.all_cons, hdigit, isDigits]; rfl) ends reads
          | @char d _ _ noNumber reads =>
              have hends : isAsciiDigit d = false := by simpa [hnumeric] using noNumber
              split
              · next heq => exact absurd (List.cons.inj heq).1 (ofChar_ne_number d _)
              · exact .number hnumeric (List.cons_ne_nil c []) hone (by simpa using hends)
                  (.char noNumber reads)

theorem reads_iff {numeric : Bool} {t : Text} {parts : List KeyPart} :
    Reads numeric t parts ↔ ofText numeric t = parts :=
  ⟨Reads.ofText_eq, fun h => h ▸ reads_ofText numeric t⟩

/-! ## Case -/

variable {numeric : Bool}

/-- A text of one character as a part. -/
def single (numeric : Bool) (c : Char) : KeyPart :=
  if numeric && isAsciiDigit c then number [c] else ofChar c

theorem ofText_singleton (c : Char) : ofText numeric [c] = [single numeric c] := by
  simp only [ofText, single]
  split <;> rfl

/-- Case does not show in the parts of a key. -/
theorem single_eq_of_lowerFirst_eq {x y : Char} (h : lowerFirst x = lowerFirst y) :
    single numeric x = single numeric y := by
  have hletter : ∀ {c : Char}, IsLetter c → single numeric c = letter (lowerFirst c) := by
    intro c hc
    have hblank : isBlankChar c = false := by
      rw [Bool.eq_false_iff]
      intro hblank
      exact absurd hc.alphanumeric (by simp [isAlphanumeric_of_isBlankChar hblank])
    simp [single, ofChar, hc.notDigit, hblank, hc.alphanumeric]
  by_cases hx : lowerFirst x = x
  · by_cases hy : lowerFirst y = y
    · rw [← hx, ← hy, h]
    · obtain ⟨hy, hlower⟩ := isLetter_of_lowerFirst_ne hy
      rw [← h, hx] at hlower
      rw [hletter hlower, hletter hy, h]
  · obtain ⟨hx, hlower⟩ := isLetter_of_lowerFirst_ne hx
    have hy : IsLetter y := by
      by_cases hy : lowerFirst y = y
      · rwa [h, hy] at hlower
      · exact (isLetter_of_lowerFirst_ne hy).1
    rw [hletter hx, hletter hy, h]

theorem ofText_congr {a b : Text} (h : a.map (single numeric) = b.map (single numeric)) :
    ofText numeric a = ofText numeric b := by
  induction a generalizing b with
  | nil =>
      rw [List.map_nil, eq_comm, List.map_eq_nil_iff] at h
      rw [h]
  | cons x xs ih =>
      obtain ⟨y, ys, rfl, hxy, hrest⟩ := List.map_eq_cons_iff.mp h.symm
      unfold single at hxy
      cases hx : numeric && isAsciiDigit x <;> cases hy : numeric && isAsciiDigit y <;>
        simp only [hx, hy, if_true, Bool.false_eq_true, if_false] at hxy
      · rw [ofText_cons_char hx, ofText_cons_char hy, hxy, ih hrest.symm]
      · exact absurd hxy.symm (ofChar_ne_number _ _)
      · exact absurd hxy (ofChar_ne_number _ _)
      · rw [List.cons.inj (number.inj hxy) |>.1, ofText, ofText, ih hrest.symm]

end KeyPart

/-! ## Keys -/

namespace CollationOptions

/-- The comparison does not look at case. -/
def IgnoresCase (o : CollationOptions) : Prop := o.sensitivity = .base ∨ o.sensitivity = .accent

theorem IgnoresCase.collate_eq {o : CollationOptions} (h : o.IgnoresCase) (a b : Text) :
    o.collate a b =
      KeyPart.listOrder (KeyPart.ofText o.numeric a) (KeyPart.ofText o.numeric b) := by
  unfold collate
  rcases h with h | h <;> simp only [h] <;> exact Ordering.then_eq

end CollationOptions

end BlockOrder
