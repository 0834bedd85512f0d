import BlockOrder.Proofs.Text.Breaks

/-!
# Line endings come back

A text whose breaks are all of one kind is a plain text with every newline written as that
ending.  Loading it gives the plain text, and saving a text with the same characters writes the
same ending.  Lines that are equal in two plain texts are saved the same way.
-/

namespace BlockOrder

namespace LineEnding

theorem apply_append (e : LineEnding) (t u : Text) : e.apply (t ++ u) = e.apply t ++ e.apply u := by
  cases e with
  | lf => rfl
  | crlf => exact List.flatMap_append

theorem apply_perm (e : LineEnding) {t u : Text} (h : t.Perm u) : (e.apply t).Perm (e.apply u) := by
  cases e with
  | lf => exact h
  | crlf => exact h.flatMap_right _

theorem apply_of_notMem (e : LineEnding) {t : Text} (h : '\n' ∉ t) : e.apply t = t := by
  induction t with
  | nil => cases e <;> rfl
  | cons c t ih =>
      simp only [List.mem_cons, not_or] at h
      rw [apply_cons_of_ne e (Ne.symm h.1), ih h.2]

theorem apply_ended (e : LineEnding) {ls : List Text} (h : ∀ line ∈ ls, '\n' ∉ line) :
    e.apply (Text.ended ls) = (ls.map (· ++ e.sequence)).flatten := by
  induction ls with
  | nil => cases e <;> rfl
  | cons line ls ih =>
      rw [Text.ended_cons, apply_append, apply_cons_newline, apply_of_notMem e (h line (by simp)),
        ih fun x hx => h x (by simp [hx])]
      simp

theorem normalize_cons_of_ne {c : Char} (hc : c ≠ '\r') (t : Text) :
    normalize (c :: t) = c :: normalize t := by
  rw [normalize]
  · rintro - rfl
    exact absurd rfl hc
  · rintro rfl
    exact absurd rfl hc

theorem normalize_of_notMem {t : Text} (h : '\r' ∉ t) : normalize t = t := by
  induction t with
  | nil => rfl
  | cons c t ih =>
      simp only [List.mem_cons, not_or] at h
      rw [normalize_cons_of_ne (Ne.symm h.1), ih h.2]

theorem normalize_apply (e : LineEnding) {t : Text} (h : '\r' ∉ t) : normalize (e.apply t) = t := by
  cases e with
  | lf => exact normalize_of_notMem h
  | crlf =>
      induction t with
      | nil => rfl
      | cons c t ih =>
          simp only [List.mem_cons, not_or] at h
          by_cases hc : c = '\n'
          · subst hc
            rw [apply_cons_newline]
            exact congrArg ('\n' :: ·) (ih h.2)
          · rw [apply_cons_of_ne _ hc, normalize_cons_of_ne (Ne.symm h.1), ih h.2]

theorem detect_cons_of_ne {c : Char} (hc : c ≠ '\r') (t : Text) : detect (c :: t) = detect t := by
  rw [detect]
  rintro - rfl
  exact absurd rfl hc

theorem detect_of_notMem {t : Text} (h : '\r' ∉ t) : detect t = lf := by
  induction t with
  | nil => rfl
  | cons c t ih =>
      simp only [List.mem_cons, not_or] at h
      rw [detect_cons_of_ne (Ne.symm h.1), ih h.2]

/-- The ending of a saved text is found again, unless the text has one line only. -/
theorem detect_apply (e : LineEnding) {t : Text} (h : '\r' ∉ t) :
    detect (e.apply t) = e ∨ '\n' ∉ t := by
  cases e with
  | lf => exact .inl (detect_of_notMem h)
  | crlf =>
      induction t with
      | nil => exact .inr (by simp)
      | cons c t ih =>
          simp only [List.mem_cons, not_or] at h
          by_cases hc : c = '\n'
          · subst hc
            rw [apply_cons_newline]
            exact .inl rfl
          · rw [apply_cons_of_ne _ hc, detect_cons_of_ne (Ne.symm h.1)]
            refine (ih h.2).imp_right fun hnot => ?_
            simp [Ne.symm hc, hnot]

/-- What is saved after loading has the ending that was loaded, if no characters have changed. -/
theorem apply_detect_apply (e : LineEnding) {t u : Text} (h : '\r' ∉ t) (hu : u.Perm t) :
    (detect (e.apply t)).apply u = e.apply u := by
  rcases detect_apply e h with heq | hnot
  · rw [heq]
  · have hnot' : '\n' ∉ u := fun hmem => hnot (hu.mem_iff.mp hmem)
    rw [apply_of_notMem _ hnot', apply_of_notMem _ hnot']

end LineEnding

namespace Text

/-- All breaks of the text are the same line ending. -/
def Uniform (t : Text) : Prop := ∃ (e : LineEnding) (u : Text), Plain u ∧ t = e.apply u

section Broken

variable (e : LineEnding) {t : Text} (ht : Plain t)
include ht

theorem length_brokenLines_apply : (e.apply t).brokenLines.length = t.lines.length := by
  obtain ⟨init, last, hlines, hbroken⟩ := exists_brokenLines_apply e ht
  rw [hbroken, hlines, List.length_append, List.length_append, List.length_map]

/-- Every line but the last is saved with the ending. -/
theorem getElem?_brokenLines_apply (n : Nat) : (e.apply t).brokenLines[n]? =
    t.lines[n]?.map fun line => if n + 1 < t.lines.length then line ++ e.sequence else line := by
  obtain ⟨init, last, hlines, hbroken⟩ := exists_brokenLines_apply e ht
  rw [hbroken, hlines, List.length_append, List.length_singleton]
  rcases Nat.lt_or_ge n init.length with hlt | hge
  · have hbelow : n + 1 < init.length + 1 := Nat.succ_lt_succ hlt
    rw [List.getElem?_append_left (by simpa using hlt), List.getElem?_append_left hlt,
      List.getElem?_map]
    simp only [if_pos hbelow]
  · have hnot : ¬ n + 1 < init.length + 1 := by omega
    rw [List.getElem?_append_right (by simpa using hge), List.getElem?_append_right hge,
      List.length_map]
    simp only [if_neg hnot, Option.map_id']

/-- Lines that follow each other are saved as the text they make up, followed by an ending unless
they are the last ones. -/
theorem flatten_brokenLines_apply {a k : Nat} (hk : 0 < k) (hle : a + k ≤ t.lines.length) :
    (((e.apply t).brokenLines.drop a).take k).flatten =
      e.apply (unlines ((t.lines.drop a).take k) ++
        if a + k < t.lines.length then ['\n'] else []) := by
  obtain ⟨init, last, hlines, hbroken⟩ := exists_brokenLines_apply e ht
  have hinit : ∀ line ∈ init, '\n' ∉ line := fun line hline =>
    newline_notMem_of_mem_lines (t := t) (by simp [hlines, hline])
  have hlast : '\n' ∉ last := newline_notMem_of_mem_lines (t := t) (by simp [hlines])
  rw [hlines, List.length_append, List.length_singleton] at hle
  have hdrop : (init.drop a).length = init.length - a := List.length_drop
  rw [hbroken, hlines, List.length_append, List.length_singleton,
    List.drop_append_of_le_length (by rw [List.length_map]; omega),
    List.drop_append_of_le_length (by omega), ← List.map_drop]
  split
  · next hlt =>
      have hne : (init.drop a).take k ≠ [] := by
        rw [← List.length_pos_iff, List.length_take]
        omega
      rw [List.take_append_of_le_length (by rw [List.length_map]; omega),
        List.take_append_of_le_length (by omega), ← List.map_take, unlines_append_newline hne]
      refine (LineEnding.apply_ended e fun line hline => hinit line ?_).symm
      exact List.mem_of_mem_drop (List.mem_of_mem_take hline)
  · next hend =>
      rw [List.take_of_length_le (by simp; omega), List.take_of_length_le (by simp; omega),
        unlines_append_cons, begun_nil, List.append_nil, List.append_nil, LineEnding.apply_append,
        LineEnding.apply_ended e fun line hline => hinit line (List.mem_of_mem_drop hline),
        LineEnding.apply_of_notMem e hlast, List.flatten_append, List.flatten_singleton]

end Broken

end Text

end BlockOrder
