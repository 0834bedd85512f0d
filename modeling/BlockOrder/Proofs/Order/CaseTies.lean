import BlockOrder.Proofs.Order.Collation
import BlockOrder.Proofs.Text.CasePairs
import Mathlib.Data.List.Zip

/-!
# Ties that case decides

Where case counts, keys that read as the same parts are ordered by the first place at which they
differ in case only.  One question decides there: is the first character upper case, and the
second one not?  If both are upper case or neither is, the answer is no either way round, and
each of the keys comes before the other, or after it.
-/

namespace BlockOrder.CollationOptions

open Std

/-- The comparison looks at case where nothing else decides. -/
def CountsCase (o : CollationOptions) : Prop :=
  o.sensitivity = .case ∨ o.sensitivity = .variant

/-! ## Where case decides -/

/-- The first two characters at the same place that differ in case only. -/
def caseDifference? (a b : Text) : Option (Char × Char) :=
  (a.zip b).find? fun p => p.1 ≠ p.2 && lowerFirst p.1 = lowerFirst p.2

theorem caseDifference?_swap (a b : Text) :
    caseDifference? b a = (caseDifference? a b).map Prod.swap := by
  have hsymm : ((fun p : Char × Char => p.1 ≠ p.2 && lowerFirst p.1 = lowerFirst p.2) ∘
      Prod.swap) = fun p => p.1 ≠ p.2 && lowerFirst p.1 = lowerFirst p.2 := by
    funext p
    simp only [Function.comp_apply, Prod.fst_swap, Prod.snd_swap, eq_comm, ne_eq]
  rw [caseDifference?, ← List.zip_swap, List.find?_map, hsymm, caseDifference?]

theorem mem_of_caseDifference? {a b : Text} {p : Char × Char} (h : caseDifference? a b = some p) :
    p.1 ∈ a ++ b ∧ p.2 ∈ a ++ b ∧ p.1 ≠ p.2 ∧ lowerFirst p.1 = lowerFirst p.2 := by
  have hmem := List.of_mem_zip (List.mem_of_find?_eq_some h)
  have hdiffers := List.find?_some h
  simp only [ne_eq, decide_not, Bool.and_eq_true, Bool.not_eq_true', decide_eq_false_iff_not,
    decide_eq_true_eq] at hdiffers
  exact ⟨List.mem_append_left b hmem.1, List.mem_append_right a hmem.2, hdiffers⟩

theorem caseDifference?_singleton {x y : Char} (hne : x ≠ y)
    (h : lowerFirst x = lowerFirst y) : caseDifference? [x] [y] = some (x, y) := by
  simp [caseDifference?, hne, h]

/-- The order of two characters that differ in case only. -/
def tieOrder (first : CaseFirst) (x y : Char) : Ordering :=
  let ordering := if isUppercase x && !isUppercase y then Ordering.lt else .gt
  match first with
  | .upper => ordering
  | .lower | .either => ordering.swap

theorem tieOrder_ne_eq (first : CaseFirst) (x y : Char) : tieOrder first x y ≠ .eq := by
  unfold tieOrder
  cases isUppercase x <;> cases isUppercase y <;> cases first <;> decide

theorem tieOrder_swap_iff (first : CaseFirst) (x y : Char) :
    tieOrder first y x = (tieOrder first x y).swap ↔ isUppercase x ≠ isUppercase y := by
  unfold tieOrder
  cases isUppercase x <;> cases isUppercase y <;> cases first <;> decide

theorem caseOrder_eq (first : CaseFirst) (a b : Text) :
    caseOrder first a b =
      ((caseDifference? a b).map fun p => tieOrder first p.1 p.2).getD .eq := by
  induction a generalizing b with
  | nil => rfl
  | cons x xs ih =>
      cases b with
      | nil => rfl
      | cons y ys =>
          rw [caseOrder, caseDifference?, List.zip_cons_cons, List.find?_cons]
          by_cases hskip : x = y ∨ lowerFirst x ≠ lowerFirst y
          · have hfind : (x ≠ y && lowerFirst x = lowerFirst y) = false := by
              simpa [Decidable.or_iff_not_imp_left] using hskip
            rw [if_pos (by simpa using hskip), hfind]
            exact ih ys
          · have hdiffers : x ≠ y ∧ lowerFirst x = lowerFirst y := by
              simpa [not_or] using hskip
            rw [if_neg (by simpa using hskip)]
            simp only [hdiffers, ne_eq, not_false_eq_true, decide_true, Bool.and_true]
            rfl

/-! ## Comparing the other way round -/

variable {o : CollationOptions}

/-- How keys compare that read as the same parts. -/
def tieBreak (o : CollationOptions) (a b : Text) : Ordering :=
  match caseDifference? a b with
  | some (x, y) => tieOrder o.caseFirst x y
  | none => if o.sensitivity = .variant then codePointOrder a b else .eq

theorem CountsCase.collate_eq (h : o.CountsCase) (a b : Text) :
    o.collate a b =
      (KeyPart.listOrder (KeyPart.ofText o.numeric a) (KeyPart.ofText o.numeric b)).then
        (o.tieBreak a b) := by
  have htie : ∀ p : Char × Char, ∀ rest : Ordering,
      (tieOrder o.caseFirst p.1 p.2).then rest = tieOrder o.caseFirst p.1 p.2 := by
    intro p rest
    cases hp : tieOrder o.caseFirst p.1 p.2 with
    | eq => exact absurd hp (tieOrder_ne_eq _ _ _)
    | _ => rfl
  unfold collate tieBreak
  rcases h with h | h <;> simp only [h, caseOrder_eq] <;> cases caseDifference? a b with
  | none => rfl
  | some p => simp [htie]

theorem tieBreak_swap_iff (a b : Text) :
    o.tieBreak b a = (o.tieBreak a b).swap ↔
      ∀ p ∈ caseDifference? a b, isUppercase p.1 ≠ isUppercase p.2 := by
  unfold tieBreak
  rw [caseDifference?_swap a b]
  cases caseDifference? a b with
  | some p => simpa using tieOrder_swap_iff o.caseFirst p.1 p.2
  | none =>
      have hswap : codePointOrder b a = (codePointOrder a b).swap := OrientedCmp.eq_swap
      simp only [Option.map_none, hswap]
      split <;> simp

theorem CountsCase.collate_swap_iff_tieBreak (h : o.CountsCase) (a b : Text) :
    o.collate b a = (o.collate a b).swap ↔
      (KeyPart.ofText o.numeric a = KeyPart.ofText o.numeric b →
        o.tieBreak b a = (o.tieBreak a b).swap) := by
  generalize hpa : KeyPart.ofText o.numeric a = pa
  generalize hpb : KeyPart.ofText o.numeric b = pb
  have hswap : KeyPart.listOrder pb pa = (KeyPart.listOrder pa pb).swap := OrientedCmp.eq_swap
  have heq : KeyPart.listOrder pa pb = .eq ↔ pa = pb := LawfulEqCmp.compare_eq_iff_eq
  rw [h.collate_eq, h.collate_eq, hpa, hpb, hswap, Ordering.swap_then, ← heq]
  cases KeyPart.listOrder pa pb <;> simp

/-- Where case counts, comparing the other way round gives the opposite unless the keys read as
the same parts and, where they first differ in case only, both characters are upper case or
neither is.  This takes an ambiguous character, and every ambiguous character can do it. -/
theorem collate_swap_iff_isUppercase_ne (h : o.CountsCase) :
    (∀ a b, o.collate b a = (o.collate a b).swap ↔
      (KeyPart.ofText o.numeric a = KeyPart.ofText o.numeric b →
        ∀ p ∈ caseDifference? a b, isUppercase p.1 ≠ isUppercase p.2)) ∧
      (∀ a b, (∀ c ∈ a ++ b, ¬ IsAmbiguous c) → o.collate b a = (o.collate a b).swap) ∧
      ∀ c, IsAmbiguous c → ∃ d, o.collate [d] [c] ≠ (o.collate [c] [d]).swap := by
  have hiff : ∀ a b, o.collate b a = (o.collate a b).swap ↔
      (KeyPart.ofText o.numeric a = KeyPart.ofText o.numeric b →
        ∀ p ∈ caseDifference? a b, isUppercase p.1 ≠ isUppercase p.2) := by
    intro a b
    rw [h.collate_swap_iff_tieBreak, tieBreak_swap_iff]
  refine ⟨hiff, ?_, ?_⟩
  · intro a b hclear
    apply (hiff a b).mpr
    intro _ p hp
    obtain ⟨hx, hy, hne, hlower⟩ := mem_of_caseDifference? hp
    exact isUppercase_ne_of_lowerFirst_eq (hclear _ hx) (hclear _ hy) hne hlower
  · intro c hc
    obtain ⟨d, hne, hlower, hupper⟩ := hc.exists_lowerFirst_eq
    refine ⟨d, fun hswap => ?_⟩
    have hparts : KeyPart.ofText o.numeric [c] = KeyPart.ofText o.numeric [d] := by
      rw [KeyPart.ofText_singleton, KeyPart.ofText_singleton,
        KeyPart.single_eq_of_lowerFirst_eq hlower]
    exact (hiff [c] [d]).mp hswap hparts (c, d) (caseDifference?_singleton hne hlower) hupper

/-- Capitals and small letters of several scripts, none of them ambiguous. -/
theorem collate_swap_of_accents :
    ({ sensitivity := .case, caseFirst := .upper } : CollationOptions).CountsCase ∧
      (∀ c ∈ "Été Ωk".toList ++ "été ωK".toList, ¬ IsAmbiguous c) ∧
      collate { sensitivity := .case, caseFirst := .upper } "Été Ωk".toList "été ωK".toList =
        .lt ∧
      collate { sensitivity := .case, caseFirst := .upper } "été ωK".toList "Été Ωk".toList =
        .gt := by
  have hcase : ({ sensitivity := .case, caseFirst := .upper } : CollationOptions).CountsCase :=
    .inl rfl
  have hclear : ∀ c ∈ "Été Ωk".toList ++ "été ωK".toList, ¬ IsAmbiguous c := by
    have hall : ("Été Ωk".toList ++ "été ωK".toList).all
        (fun c => decide (¬ IsAmbiguous c)) = true := by
      decide +kernel
    intro c hc
    exact of_decide_eq_true (List.all_eq_true.mp hall c hc)
  have hlt : collate { sensitivity := .case, caseFirst := .upper } "Été Ωk".toList
      "été ωK".toList = .lt := by
    decide +kernel
  have hswap := (collate_swap_iff_isUppercase_ne hcase).2.1 _ _ hclear
  rw [hlt] at hswap
  exact ⟨hcase, hclear, hlt, hswap⟩

/-- The letter K and the kelvin sign are both upper case, and each comes after the other. -/
theorem collate_kelvin :
    collate { sensitivity := .case, caseFirst := .upper } ['K'] ['\u212a'] = .gt ∧
      collate { sensitivity := .case, caseFirst := .upper } ['\u212a'] ['K'] = .gt := by
  decide +kernel

end BlockOrder.CollationOptions
