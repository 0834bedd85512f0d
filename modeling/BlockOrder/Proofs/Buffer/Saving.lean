import BlockOrder.Proofs.Buffer.Reading

/-!
# Saving what was loaded

A buffer keeps no carriage return, and what it saves loads as the same buffer.  The text of a file
is saved exactly as it was if it has no carriage returns, or if these and the newlines occur in
pairs only.  A single stray one of either is enough for the saved text to differ.
-/

namespace BlockOrder

namespace Text

/-- Carriage returns and newlines occur only as pairs, in this order. -/
structure EndsInPairs (t : Text) : Prop where
  newline_next : ∀ i, t[i]? = some '\r' → t[i + 1]? = some '\n'
  return_before : ∀ i, t[i]? = some '\n' → ∃ j, i = j + 1 ∧ t[j]? = some '\r'

theorem endsInPairs_nil : EndsInPairs [] where
  newline_next := by simp
  return_before := by simp

theorem endsInPairs_pair_cons {t : Text} : EndsInPairs ('\r' :: '\n' :: t) ↔ EndsInPairs t := by
  constructor
  · intro h
    constructor
    · intro i hi
      exact h.newline_next (i + 2) hi
    · intro i hi
      obtain ⟨j, hj, hreturn⟩ := h.return_before (i + 2) hi
      obtain rfl : j = i + 1 := by omega
      cases i with
      | zero => simp at hreturn
      | succ j => exact ⟨j, rfl, hreturn⟩
  · intro h
    constructor
    · intro i hi
      match i with
      | 0 => rfl
      | 1 => simp at hi
      | i + 2 => exact h.newline_next i hi
    · intro i hi
      match i with
      | 0 => simp at hi
      | 1 => exact ⟨0, rfl, rfl⟩
      | i + 2 =>
          obtain ⟨j, rfl, hreturn⟩ := h.return_before i hi
          exact ⟨j + 2, rfl, hreturn⟩

theorem endsInPairs_cons {c : Char} (hreturn : c ≠ '\r') (hnewline : c ≠ '\n') {t : Text} :
    EndsInPairs (c :: t) ↔ EndsInPairs t := by
  constructor
  · intro h
    constructor
    · intro i hi
      exact h.newline_next (i + 1) hi
    · intro i hi
      obtain ⟨j, hj, hbefore⟩ := h.return_before (i + 1) hi
      obtain rfl : j = i := by omega
      cases j with
      | zero => exact absurd (Option.some.inj hbefore) hreturn
      | succ j => exact ⟨j, rfl, hbefore⟩
  · intro h
    constructor
    · intro i hi
      cases i with
      | zero => exact absurd (Option.some.inj hi) hreturn
      | succ i => exact h.newline_next i hi
    · intro i hi
      cases i with
      | zero => exact absurd (Option.some.inj hi) hnewline
      | succ i =>
          obtain ⟨j, rfl, hbefore⟩ := h.return_before i hi
          exact ⟨j + 1, rfl, hbefore⟩

theorem not_endsInPairs_newline (t : Text) : ¬ EndsInPairs ('\n' :: t) := by
  intro h
  obtain ⟨j, hj, -⟩ := h.return_before 0 rfl
  exact absurd hj (Nat.zero_ne_add_one j)

end Text

namespace LineEnding

theorem detect_of_pair {t : Text} {i : Nat} (hreturn : t[i]? = some '\r')
    (hnewline : t[i + 1]? = some '\n') : detect t = crlf := by
  fun_induction detect t generalizing i with
  | case1 => rfl
  | case2 c rest hpair ih =>
      cases i with
      | zero =>
          obtain ⟨rest, rfl⟩ : ∃ more, rest = '\n' :: more := by
            cases rest with
            | nil => simp at hnewline
            | cons x more => exact ⟨more, by simpa using hnewline⟩
          exact absurd rfl (hpair rest (Option.some.inj hreturn))
      | succ i => exact ih hreturn hnewline
  | case3 => simp at hreturn

theorem newline_mem_normalize {t : Text} (h : detect t = crlf) : '\n' ∈ normalize t := by
  fun_induction normalize t with
  | case1 rest ih => exact List.mem_cons_self
  | case2 rest _ ih => exact List.mem_cons_self
  | case3 c rest _ hne ih =>
      rw [detect_cons_of_ne hne] at h
      exact List.mem_cons_of_mem _ (ih h)
  | case4 => cases h

theorem apply_crlf_normalize_eq_iff (t : Text) :
    crlf.apply (normalize t) = t ↔ t.EndsInPairs := by
  fun_induction normalize t with
  | case1 rest ih =>
      rw [apply_cons_newline, Text.endsInPairs_pair_cons, ← ih]
      simp [sequence]
  | case2 rest hpair ih =>
      have hrest : ¬ ∃ more, rest = '\n' :: more := by
        rintro ⟨more, hmore⟩
        exact hpair more hmore
      constructor
      · intro h
        rw [apply_cons_newline] at h
        exact absurd ⟨_, (List.cons.inj h).2.symm⟩ hrest
      · intro h
        have hnext := h.newline_next 0 rfl
        cases rest with
        | nil => simp at hnext
        | cons x more => exact absurd ⟨more, by simpa using hnext⟩ hrest
  | case3 c rest _ hne ih =>
      have hreturn : c ≠ '\r' := hne
      by_cases hc : c = '\n'
      · subst hc
        rw [apply_cons_newline]
        simp [sequence, Text.not_endsInPairs_newline]
      · rw [apply_cons_of_ne _ hc, Text.endsInPairs_cons hreturn hc, ← ih]
        simp
  | case4 => exact ⟨fun _ => Text.endsInPairs_nil, fun _ => rfl⟩

theorem detect_apply_normalize (t : Text) : detect ((detect t).apply (normalize t)) = detect t := by
  have hplain := return_notMem_normalize t
  rcases detect_apply (detect t) hplain with hdetect | hnewline
  · exact hdetect
  · cases hcase : detect t with
    | lf => exact detect_of_notMem hplain
    | crlf => exact absurd (newline_mem_normalize hcase) hnewline

theorem apply_detect_normalize_eq_iff (t : Text) :
    (detect t).apply (normalize t) = t ↔ '\r' ∉ t ∨ t.EndsInPairs := by
  cases hdetect : detect t with
  | lf =>
      change normalize t = t ↔ _
      constructor
      · intro h
        exact .inl (h ▸ return_notMem_normalize t)
      · rintro (hnone | hpairs)
        · exact normalize_of_notMem hnone
        · apply normalize_of_notMem
          intro hmem
          obtain ⟨i, hi⟩ := List.getElem?_of_mem hmem
          have hcrlf := detect_of_pair hi (hpairs.newline_next i hi)
          exact absurd (hdetect.symm.trans hcrlf) (by decide)
  | crlf =>
      have hmem : '\r' ∈ t := by
        apply Classical.byContradiction
        intro hnot
        exact absurd (hdetect.symm.trans (detect_of_notMem hnot)) (by decide)
      rw [apply_crlf_normalize_eq_iff, or_iff_right (not_not_intro hmem)]

end LineEnding

namespace Buffer

/-- A loaded buffer has no carriage returns, what it saves loads as it did, and it saves what was
loaded if and only if that has no carriage returns or has them and newlines in pairs only. -/
theorem load_saved (t : Text) (language : String) :
    '\r' ∉ (load t language).text ∧
      load (load t language).saved language = load t language ∧
      ((load t language).saved = t ↔ '\r' ∉ t ∨ t.EndsInPairs) := by
  have hplain := LineEnding.return_notMem_normalize t
  refine ⟨hplain, ?_, ?_⟩
  · simp only [saved, load, LineEnding.normalize_apply _ hplain, LineEnding.detect_apply_normalize]
  · exact LineEnding.apply_detect_normalize_eq_iff t

end Buffer

end BlockOrder
