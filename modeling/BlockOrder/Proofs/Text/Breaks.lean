import BlockOrder.Proofs.Text.Lines
import BlockOrder.Text.Break
import BlockOrder.Text.LineEnding

/-!
# Breaks of texts

The lines of a text with their breaks make up the text, so an offset counts the characters of the
lines before it.  In a plain text only newlines are breaks.  Such a text, with every newline
written as a line ending, breaks into its lines, each but the last with that ending after it.
-/

namespace BlockOrder

namespace LineEnding

theorem apply_cons_newline (e : LineEnding) (t : Text) :
    e.apply ('\n' :: t) = e.sequence ++ e.apply t := by
  cases e with
  | lf => rfl
  | crlf => simp [apply, sequence]

theorem apply_cons_of_ne (e : LineEnding) {c : Char} (hc : c ≠ '\n') (t : Text) :
    e.apply (c :: t) = c :: e.apply t := by
  cases e with
  | lf => rfl
  | crlf => simp [apply, hc]

end LineEnding

namespace Text

theorem flatten_brokenLines (t : Text) : t.brokenLines.flatten = t := by
  fun_induction brokenLines t with
  | case1 => rfl
  | case2 rest ih => simp [ih]
  | case3 c rest _ _ ih => simp [ih]
  | case4 c rest _ _ hnil ih =>
      obtain rfl : rest = [] := by simpa [hnil] using ih.symm
      rfl
  | case5 c rest _ _ line more hcons ih => simpa [hcons] using ih

theorem brokenLines_ne_nil (t : Text) : t.brokenLines ≠ [] := by
  fun_cases brokenLines t <;> simp_all

/-- The characters before a place in a line: the lines before it and the start of the line. -/
theorem take_lineStart_add {t line : Text} {n k : Nat} (h : t.brokenLines[n]? = some line)
    (hk : k ≤ line.length) :
    t.take (t.lineStart n + k) = (t.brokenLines.take n).flatten ++ line.take k := by
  obtain ⟨hn, rfl⟩ := List.getElem?_eq_some_iff.mp h
  have hsplit : (t.brokenLines.take n).flatten ++
      (t.brokenLines[n] ++ (t.brokenLines.drop (n + 1)).flatten) = t := by
    rw [← List.flatten_cons, ← List.drop_eq_getElem_cons hn, ← List.flatten_append,
      List.take_append_drop, flatten_brokenLines]
  have htake := congrArg (List.take (t.lineStart n + k)) hsplit
  rw [lineStart, List.take_length_add_append, List.take_append_of_le_length hk] at htake
  exact htake.symm

theorem lineStart_add_le {t line : Text} {n k : Nat} (h : t.brokenLines[n]? = some line)
    (hk : k ≤ line.length) : t.lineStart n + k ≤ t.length := by
  have hlength := congrArg List.length (take_lineStart_add h hk)
  rw [List.length_take, List.length_append, List.length_take_of_le hk, ← lineStart] at hlength
  exact hlength ▸ Nat.min_le_right _ _

theorem lineStart_succ {t line : Text} {n : Nat} (h : t.brokenLines[n]? = some line) :
    t.lineStart (n + 1) = t.lineStart n + line.length := by
  rw [lineStart, lineStart, List.take_add_one, h, List.flatten_append, List.length_append]
  simp

theorem lineStart_mono (t : Text) {n m : Nat} (h : n ≤ m) : t.lineStart n ≤ t.lineStart m := by
  obtain ⟨k, rfl⟩ := Nat.exists_eq_add_of_le h
  rw [lineStart, lineStart, List.take_add, List.flatten_append, List.length_append]
  exact Nat.le_add_right _ _

theorem length_withoutNewline_le (t : Text) : t.withoutNewline.length ≤ t.length := by
  unfold withoutNewline
  split
  · rw [List.length_dropLast]
    exact Nat.sub_le _ _
  · exact Nat.le_refl _

theorem take_withoutNewline {t : Text} {k : Nat} (hk : k ≤ t.withoutNewline.length) :
    t.withoutNewline.take k = t.take k := by
  unfold withoutNewline at hk ⊢
  split
  · next hlast =>
      rw [if_pos hlast, List.length_dropLast] at hk
      rw [List.dropLast_eq_take, List.take_take, Nat.min_eq_left hk]
  · rfl

/-- Newlines are the only breaks of the text. -/
def Plain (t : Text) : Prop := ∀ x ∈ t, isBreakChar x = true → x = '\n'

instance (t : Text) : Decidable t.Plain :=
  List.decidableBAll (fun x => isBreakChar x = true → x = '\n') t

theorem plain_cons {c : Char} {t : Text} :
    Plain (c :: t) ↔ (isBreakChar c = true → c = '\n') ∧ Plain t := by
  simp [Plain]

theorem plain_append {t u : Text} : Plain (t ++ u) ↔ Plain t ∧ Plain u := by
  simp only [Plain, List.mem_append]
  exact ⟨fun h => ⟨fun x hx => h x (.inl hx), fun x hx => h x (.inr hx)⟩,
    fun h x hx => hx.elim (h.1 x) (h.2 x)⟩

theorem Plain.perm {t u : Text} (h : Plain t) (hperm : u.Perm t) : Plain u :=
  fun x hx => h x (hperm.mem_iff.mp hx)

theorem Plain.return_notMem {t : Text} (h : Plain t) : '\r' ∉ t := fun hmem =>
  absurd (h '\r' hmem rfl) (by decide)

theorem isBreakChar_of_ne_newline {c : Char} {t : Text} (h : Plain (c :: t)) (hc : c ≠ '\n') :
    isBreakChar c = false := by
  rw [plain_cons] at h
  exact Bool.eq_false_iff.mpr fun hbreak => hc (h.1 hbreak)

theorem brokenLines_ending (e : LineEnding) (t : Text) :
    brokenLines (e.sequence ++ t) = e.sequence :: brokenLines t := by
  cases e with
  | lf =>
      change brokenLines ('\n' :: t) = _
      rw [brokenLines]
      · rfl
      · simp
  | crlf => rfl

theorem brokenLines_cons {c : Char} (hc : isBreakChar c = false) {t line : Text}
    {more : List Text} (ht : brokenLines t = line :: more) :
    brokenLines (c :: t) = (c :: line) :: more := by
  rw [brokenLines]
  · simp [hc, ht]
  · rintro rest rfl
    exact absurd hc (by decide)

theorem exists_brokenLines_apply (e : LineEnding) {t : Text} (ht : Plain t) :
    ∃ init last, lines t = init ++ [last] ∧
      brokenLines (e.apply t) = init.map (· ++ e.sequence) ++ [last] := by
  induction t with
  | nil => exact ⟨[], [], rfl, by cases e <;> rfl⟩
  | cons c t ih =>
      obtain ⟨init, last, hlines, hbroken⟩ := ih (plain_cons.mp ht).2
      by_cases hc : c = '\n'
      · subst hc
        refine ⟨[] :: init, last, by rw [lines_cons_newline, hlines, List.cons_append], ?_⟩
        rw [LineEnding.apply_cons_newline, brokenLines_ending, hbroken]
        rfl
      · have hbreak := isBreakChar_of_ne_newline ht hc
        rw [LineEnding.apply_cons_of_ne e hc]
        cases init with
        | nil => exact ⟨[], c :: last, lines_cons_of_ne hc hlines, brokenLines_cons hbreak hbroken⟩
        | cons x init =>
            exact ⟨(c :: x) :: init, last, lines_cons_of_ne hc hlines,
              brokenLines_cons hbreak hbroken⟩

theorem withoutNewline_append (t : Text) : withoutNewline (t ++ ['\n']) = t := by
  simp [withoutNewline]

theorem withoutNewline_of_notMem {t : Text} (h : '\n' ∉ t) : withoutNewline t = t := by
  have hlast : t.getLast? ≠ some '\n' := fun heq => h (List.mem_of_getLast? heq)
  simp [withoutNewline, hlast]

/-- Without the newlines at their ends the broken lines of a plain text are its lines. -/
theorem map_withoutNewline_brokenLines {t : Text} (ht : Plain t) :
    t.brokenLines.map withoutNewline = t.lines := by
  obtain ⟨init, last, hlines, hbroken⟩ := exists_brokenLines_apply .lf ht
  have hlast : '\n' ∉ last := newline_notMem_of_mem_lines (t := t) (by simp [hlines])
  change brokenLines t = init.map (· ++ ['\n']) ++ [last] at hbroken
  rw [hbroken, hlines]
  simp [withoutNewline_append, withoutNewline_of_notMem hlast, Function.comp_def]

/-- A line of a plain text starts after the lines before it and their newlines. -/
theorem lineStart_eq {t : Text} (ht : Plain t) {line : Nat} (hline : line < t.lines.length) :
    t.lineStart line = (ended (t.lines.take line)).length := by
  obtain ⟨init, last, hlines, hbroken⟩ := exists_brokenLines_apply .lf ht
  rw [hlines, List.length_append, List.length_singleton] at hline
  have hle : line ≤ init.length := Nat.le_of_lt_succ hline
  change brokenLines t = init.map (· ++ ['\n']) ++ [last] at hbroken
  rw [lineStart, hbroken, hlines, List.take_append_of_le_length (by simpa using hle),
    List.take_append_of_le_length hle, ← List.map_take, ended, List.flatMap]

end Text

end BlockOrder
