import BlockOrder.Text.Basic
import Mathlib.Data.List.Perm.Basic

/-!
# Lines of a text

How splitting into lines and joining lines behave on texts that are put together from pieces.
Everything about `lines` follows from one equation: a newline between two texts divides their
lines.  A text around one of its lines is that line with ended lines before it and begun lines
after it.
-/

namespace BlockOrder.Text

theorem lines_cons_newline (t : Text) : lines ('\n' :: t) = [] :: lines t := by
  simp [lines]

theorem lines_cons_of_ne {c : Char} (hc : c ≠ '\n') {t line : Text} {more : List Text}
    (ht : lines t = line :: more) : lines (c :: t) = (c :: line) :: more := by
  simp [lines, hc, ht]

theorem lines_append_newline (x y : Text) : lines (x ++ '\n' :: y) = lines x ++ lines y := by
  induction x with
  | nil => exact lines_cons_newline y
  | cons c x ih =>
      by_cases hc : c = '\n'
      · subst hc
        rw [List.cons_append, lines_cons_newline, lines_cons_newline, ih, List.cons_append]
      · obtain ⟨line, more, hx⟩ := List.exists_cons_of_ne_nil (lines_ne_nil x)
        rw [hx, List.cons_append] at ih
        rw [List.cons_append, lines_cons_of_ne hc hx, lines_cons_of_ne hc ih, List.cons_append]

theorem lines_eq_singleton {t : Text} (h : '\n' ∉ t) : lines t = [t] := by
  induction t with
  | nil => rfl
  | cons c t ih =>
      simp only [List.mem_cons, not_or] at h
      exact lines_cons_of_ne (Ne.symm h.1) (ih h.2)

theorem newline_notMem_of_mem_lines {t line : Text} (h : line ∈ lines t) : '\n' ∉ line := by
  induction t generalizing line with
  | nil =>
      obtain rfl : line = [] := by simpa [lines] using h
      simp
  | cons c t ih =>
      by_cases hc : c = '\n'
      · subst hc
        rw [lines_cons_newline, List.mem_cons] at h
        rcases h with rfl | h
        · simp
        · exact ih h
      · obtain ⟨first, more, ht⟩ := List.exists_cons_of_ne_nil (lines_ne_nil t)
        rw [lines_cons_of_ne hc ht, List.mem_cons] at h
        rcases h with rfl | h
        · have hfirst : '\n' ∉ first := ih (by simp [ht])
          simp [Ne.symm hc, hfirst]
        · exact ih (by simp [ht, h])

theorem length_lines (t : Text) : (lines t).length = t.count '\n' + 1 := by
  induction t with
  | nil => rfl
  | cons c t ih =>
      by_cases hc : c = '\n'
      · subst hc
        simp [lines_cons_newline, ih]
      · obtain ⟨line, more, ht⟩ := List.exists_cons_of_ne_nil (lines_ne_nil t)
        rw [lines_cons_of_ne hc ht, List.count_cons_of_ne hc, ← ih, ht]
        rfl

/-- Lines with a newline after each of them. -/
def ended (ls : List Text) : Text := ls.flatMap (· ++ ['\n'])

/-- Lines with a newline before each of them. -/
def begun (ls : List Text) : Text := ls.flatMap ('\n' :: ·)

@[simp] theorem ended_nil : ended [] = [] := rfl

@[simp] theorem ended_cons (x : Text) (xs : List Text) :
    ended (x :: xs) = x ++ '\n' :: ended xs := by
  simp [ended]

@[simp] theorem ended_append (xs ys : List Text) : ended (xs ++ ys) = ended xs ++ ended ys := by
  simp [ended]

@[simp] theorem begun_nil : begun [] = [] := rfl

@[simp] theorem begun_cons (x : Text) (xs : List Text) :
    begun (x :: xs) = '\n' :: x ++ begun xs := by
  simp [begun]

@[simp] theorem begun_append (xs ys : List Text) : begun (xs ++ ys) = begun xs ++ begun ys := by
  simp [begun]

theorem unlines_cons_of_ne_nil (x : Text) {xs : List Text} (h : xs ≠ []) :
    unlines (x :: xs) = x ++ '\n' :: unlines xs := by
  cases xs with
  | nil => exact absurd rfl h
  | cons y ys => rfl

theorem unlines_cons (x : Text) (xs : List Text) : unlines (x :: xs) = x ++ begun xs := by
  induction xs generalizing x with
  | nil => simp [unlines]
  | cons y ys ih => simp [unlines, ih]

theorem unlines_append_cons (xs : List Text) (y : Text) (zs : List Text) :
    unlines (xs ++ y :: zs) = ended xs ++ y ++ begun zs := by
  induction xs with
  | nil => simp [unlines_cons]
  | cons x xs ih =>
      rw [List.cons_append, unlines_cons_of_ne_nil x (by simp), ih]
      simp

theorem unlines_append_append (xs : List Text) {ys : List Text} (h : ys ≠ []) (zs : List Text) :
    unlines (xs ++ ys ++ zs) = ended xs ++ unlines ys ++ begun zs := by
  obtain ⟨y, ys, rfl⟩ := List.exists_cons_of_ne_nil h
  rw [List.append_assoc, List.cons_append, unlines_append_cons, unlines_cons, begun_append]
  simp only [List.append_assoc]

theorem unlines_append_newline {ls : List Text} (h : ls ≠ []) :
    unlines ls ++ ['\n'] = ended ls := by
  obtain ⟨xs, x, rfl⟩ := List.eq_nil_or_concat ls |>.resolve_left h
  have hx := unlines_append_cons xs x []
  simp only [begun_nil, List.append_nil] at hx
  simp [hx]

/-- Ended lines in front of a text are lines of their own. -/
theorem lines_ended_append {xs : List Text} (h : ∀ x ∈ xs, '\n' ∉ x) (t : Text) :
    lines (ended xs ++ t) = xs ++ lines t := by
  induction xs with
  | nil => rfl
  | cons x xs ih =>
      have hx : lines x = [x] := lines_eq_singleton (h x (by simp))
      have hxs := ih fun y hy => h y (by simp [hy])
      rw [ended_cons, List.append_assoc, List.cons_append, lines_append_newline, hx, hxs]
      rfl

/-- Begun lines after a text are lines of their own. -/
theorem lines_append_begun {zs : List Text} (h : ∀ z ∈ zs, '\n' ∉ z) (t : Text) :
    lines (t ++ begun zs) = lines t ++ zs := by
  induction zs generalizing t with
  | nil => simp
  | cons z zs ih =>
      have hz : lines z = [z] := lines_eq_singleton (h z (by simp))
      have hzs := ih (fun y hy => h y (by simp [hy])) z
      rw [begun_cons, List.cons_append, lines_append_newline, hzs, hz]
      rfl

/-- Where two texts meet, the last line of one goes on with the first line of the other. -/
theorem lines_append {t u last first : Text} {init rest : List Text}
    (ht : lines t = init ++ [last]) (hu : lines u = first :: rest) :
    lines (t ++ u) = init ++ (last ++ first) :: rest := by
  have hinit : ∀ x ∈ init ++ [last], '\n' ∉ x := fun x hx =>
    newline_notMem_of_mem_lines (ht ▸ hx)
  have hrest : ∀ x ∈ first :: rest, '\n' ∉ x := fun x hx =>
    newline_notMem_of_mem_lines (hu ▸ hx)
  have ht' : t = ended init ++ last := by
    rw [← unlines_lines t, ht, unlines_append_cons, begun_nil, List.append_nil]
  have hu' : u = first ++ begun rest := by
    rw [← unlines_lines u, hu, unlines_cons]
  have hmid : lines (last ++ first) = [last ++ first] := by
    apply lines_eq_singleton
    simp [hinit last (by simp), hrest first (by simp)]
  rw [ht', hu', List.append_assoc, lines_ended_append fun x hx => hinit x (by simp [hx]),
    ← List.append_assoc, lines_append_begun fun x hx => hrest x (by simp [hx]), hmid]
  rfl

/-- Lines without newlines are the lines of the text that they make up. -/
theorem lines_unlines {ls : List Text} (hne : ls ≠ []) (h : ∀ x ∈ ls, '\n' ∉ x) :
    lines (unlines ls) = ls := by
  obtain ⟨x, xs, rfl⟩ := List.exists_cons_of_ne_nil hne
  have hx : lines x = [x] := lines_eq_singleton (h x (by simp))
  rw [unlines_cons, lines_append_begun fun y hy => h y (by simp [hy]), hx]
  rfl

theorem ended_perm (ls : List Text) :
    (ended ls).Perm (ls.flatten ++ List.replicate ls.length '\n') := by
  induction ls with
  | nil => exact .refl _
  | cons x xs ih =>
      rw [ended_cons, List.flatten_cons, List.append_assoc, List.length_cons,
        List.replicate_succ]
      exact ((ih.cons '\n').trans List.perm_middle.symm).append_left x

/-- Joined texts have the characters of the texts, and newlines. -/
theorem unlines_perm_append {ls : List Text} (h : ls ≠ []) :
    (unlines ls).Perm (ls.flatten ++ List.replicate (ls.length - 1) '\n') := by
  have hended := ended_perm ls
  have hlength : ls.length = ls.length - 1 + 1 :=
    (Nat.sub_add_cancel (List.length_pos_iff.mpr h)).symm
  rw [← unlines_append_newline h, hlength, List.replicate_succ', ← List.append_assoc] at hended
  exact (List.perm_append_right_iff _).mp hended

theorem mem_unlines {ls : List Text} {x : Char} (hx : x ≠ '\n') :
    x ∈ unlines ls ↔ ∃ line ∈ ls, x ∈ line := by
  by_cases hne : ls = []
  · simp [hne, unlines]
  · rw [(unlines_perm_append hne).mem_iff, List.mem_append, List.mem_flatten, List.mem_replicate]
    simp [hx]

/-- Joined texts have the same characters if the texts have and are equal in number. -/
theorem unlines_perm {xs ys : List Text} (hlen : xs.length = ys.length)
    (h : xs.flatten.Perm ys.flatten) : (unlines xs).Perm (unlines ys) := by
  by_cases hx : xs = []
  · subst hx
    obtain rfl : ys = [] := List.length_eq_zero_iff.mp hlen.symm
    exact .refl _
  · have hy : ys ≠ [] := by
      rintro rfl
      exact hx (List.length_eq_zero_iff.mp hlen)
    refine (unlines_perm_append hx).trans (.trans ?_ (unlines_perm_append hy).symm)
    rw [hlen]
    exact h.append_right _

end BlockOrder.Text
