import BlockOrder.Proofs.Buffer.Reading
import BlockOrder.Session

/-!
# How many lines an edit adds

An edit that is noted moves what is known about later lines by the lines of its text less those of
its range.  A buffer clamps the range first, turns carriage returns into newlines, and breaks into
lines at other characters too.  So the number of its lines changes as noted only where these
differences cancel out.
-/

namespace BlockOrder

namespace LineEnding

/-- The number of carriage returns without a newline after them. -/
def loneReturns : Text → Nat
  | '\r' :: '\n' :: rest => loneReturns rest
  | '\r' :: rest => loneReturns rest + 1
  | _ :: rest => loneReturns rest
  | [] => 0

theorem count_newline_normalize (t : Text) :
    (normalize t).count '\n' = t.count '\n' + loneReturns t := by
  fun_induction normalize t with
  | case1 rest ih => simp [loneReturns, ih]; omega
  | case2 rest hne ih =>
      rw [loneReturns.eq_2 rest hne, List.count_cons_self, ih,
        List.count_cons_of_ne (by decide : '\r' ≠ '\n')]
      omega
  | case3 c rest hpair hne ih =>
      rw [loneReturns.eq_3 c rest hpair hne, List.count_cons, List.count_cons, ih]
      omega
  | case4 => rfl

end LineEnding

namespace Text

/-- The number of breaks in a text without carriage returns. -/
def breakCount (t : Text) : Nat := t.countP isBreakChar

def isOtherBreak (c : Char) : Bool := isBreakChar c && c != '\n' && c != '\r'

/-- The number of breaks that are neither newlines nor carriage returns. -/
def otherBreaks (t : Text) : Nat := t.countP isOtherBreak

theorem breakCount_append (t u : Text) : (t ++ u).breakCount = t.breakCount + u.breakCount :=
  List.countP_append

theorem breakCount_eq {t : Text} (h : '\r' ∉ t) :
    t.breakCount = t.count '\n' + t.otherBreaks := by
  induction t with
  | nil => rfl
  | cons c t ih =>
      simp only [List.mem_cons, not_or] at h
      have hc : (if isBreakChar c then 1 else 0) =
          (if c == '\n' then 1 else 0) + if isOtherBreak c then 1 else 0 := by
        have hreturn : (c != '\r') = true := bne_iff_ne.mpr (Ne.symm h.1)
        by_cases hnewline : c = '\n'
        · subst hnewline
          rfl
        · simp [isOtherBreak, hnewline, hreturn]
      have hrest := ih h.2
      unfold breakCount otherBreaks at hrest ⊢
      rw [List.countP_cons, List.countP_cons, List.count_cons, hrest, hc]
      omega

theorem otherBreaks_normalize (t : Text) :
    otherBreaks (LineEnding.normalize t) = otherBreaks t := by
  have hnewline : isOtherBreak '\n' = false := rfl
  have hreturn : isOtherBreak '\r' = false := rfl
  unfold otherBreaks
  fun_induction LineEnding.normalize t with
  | case1 rest ih => simp [hnewline, hreturn, ih]
  | case2 rest _ ih => simp [hnewline, hreturn, ih]
  | case3 c rest _ _ ih => rw [List.countP_cons, List.countP_cons, ih]
  | case4 => rfl

/-- Every line but the last ends in the only break that it has. -/
theorem exists_brokenLines {t : Text} (h : '\r' ∉ t) : ∃ init last,
    t.brokenLines = init ++ [last] ∧ (∀ line ∈ init, line.breakCount = 1) ∧
      last.breakCount = 0 := by
  induction t with
  | nil => exact ⟨[], [], rfl, by simp, rfl⟩
  | cons c t ih =>
      simp only [List.mem_cons, not_or] at h
      obtain ⟨init, last, hlines, hinit, hlast⟩ := ih h.2
      by_cases hc : isBreakChar c = true
      · refine ⟨[c] :: init, last, ?_, ?_, hlast⟩
        · rw [brokenLines, if_pos hc, hlines, List.cons_append]
          rintro rest rfl
          exact absurd rfl h.1
        · intro line hline
          rcases List.mem_cons.mp hline with rfl | hline
          · simp [breakCount, hc]
          · exact hinit line hline
      · rw [Bool.not_eq_true] at hc
        cases init with
        | nil =>
            refine ⟨[], c :: last, brokenLines_cons hc hlines, by simp, ?_⟩
            simpa [breakCount, hc] using hlast
        | cons first init =>
            refine ⟨(c :: first) :: init, last, brokenLines_cons hc hlines, ?_, hlast⟩
            rw [List.forall_mem_cons] at hinit ⊢
            exact ⟨by simpa [breakCount, hc] using hinit.1, hinit.2⟩

theorem breakCount_flatten {ls : List Text} (h : ∀ line ∈ ls, line.breakCount = 1) :
    breakCount ls.flatten = ls.length := by
  induction ls with
  | nil => rfl
  | cons line ls ih =>
      rw [List.forall_mem_cons] at h
      rw [List.flatten_cons, breakCount_append, h.1, ih h.2, List.length_cons, Nat.add_comm]

theorem length_brokenLines {t : Text} (h : '\r' ∉ t) :
    t.brokenLines.length = t.breakCount + 1 := by
  obtain ⟨init, last, hlines, hinit, hlast⟩ := exists_brokenLines h
  conv_rhs => rw [← flatten_brokenLines t, hlines]
  rw [hlines, List.flatten_append, breakCount_append, breakCount_flatten hinit,
    List.flatten_singleton, hlast, List.length_append, List.length_singleton]

theorem breakCount_flatten_take {t : Text} (h : '\r' ∉ t) {n : Nat}
    (hn : n < t.brokenLines.length) : breakCount (t.brokenLines.take n).flatten = n := by
  obtain ⟨init, last, hlines, hinit, -⟩ := exists_brokenLines h
  rw [hlines, List.length_append, List.length_singleton] at hn
  have hle : n ≤ init.length := Nat.le_of_lt_succ hn
  rw [hlines, List.take_append_of_le_length hle,
    breakCount_flatten fun line hline => hinit line (List.mem_of_mem_take hline)]
  exact List.length_take_of_le hle

end Text

namespace Edit

/-- The number of lines by which an edit that is noted moves what comes after it. -/
def lineDelta (e : Edit) : Int := e.lineCount - e.range.lineCount

end Edit

theorem Session.noteEdit_computed (s : Session) {e : Edit} (h : e.range.start ≤ e.range.stop) :
    (s.noteEdit e).cache.computed =
      s.cache.computed.removeAndShift e.range.start.line e.range.stop.line e.lineDelta := by
  have hline := Position.line_le h
  simp only [noteEdit, LineCache.invalidate, Nat.min_eq_left hline, Nat.max_eq_right hline]
  rfl

namespace Buffer

variable {b : Buffer}

/-- The breaks that come before a position on its own line, since they stay in it: one behind a
break other than a newline, else none. -/
def breaksPassed (b : Buffer) (p : Position) : Nat :=
  let p := b.document.clampPosition p
  Text.breakCount ((b.document.lineText p.line).take
    (p.column.within (b.document.lineLength p.line)))

theorem lineCount_eq (hb : '\r' ∉ b.text) : b.document.lineCount = b.text.breakCount + 1 := by
  rw [Document.lineCount, document, List.length_map, Text.length_brokenLines hb]

theorem breakCount_take_offset (hb : '\r' ∉ b.text) (p : Position) :
    Text.breakCount (b.text.take (b.offset p)) =
      (b.document.clampPosition p).line + b.breaksPassed p := by
  have hp := b.document.inside_clampPosition p
  have hline : (b.document.clampPosition p).line < b.text.brokenLines.length :=
    Nat.lt_of_lt_of_eq (line_lt hp) (List.length_map _)
  rw [← offset_clampPosition, take_offset_of_inside hp, Text.breakCount_append,
    Text.breakCount_flatten_take hb hline]
  rfl

theorem clamp_lineCount {r : Range} (h : r.start ≤ r.stop) :
    (b.document.clamp r).lineCount + (b.document.clampPosition r.start).line =
      (b.document.clampPosition r.stop).line + 1 := by
  have hle := Position.line_le (b.document.clampPosition_mono h)
  rw [Document.clamp_of_le _ h, Range.lineCount]
  change (b.document.clampPosition r.stop).line - (b.document.clampPosition r.start).line + 1 +
    (b.document.clampPosition r.start).line = _
  omega

theorem editedLineCount_eq (e : Edit) :
    editedLineCount e = e.lineCount + LineEnding.loneReturns e.text := by
  rw [editedLineCount, Edit.lineCount, Text.length_lines, Text.length_lines,
    LineEnding.count_newline_normalize]
  omega

/-- The lines of the range make way for those of the text.  A break that stays in its line counts
where it is passed. -/
theorem lineCount_edit (hb : '\r' ∉ b.text) {e : Edit} (h : e.range.start ≤ e.range.stop) :
    (b.edit e).document.lineCount + (b.document.clamp e.range).lineCount +
        b.breaksPassed e.range.stop =
      b.document.lineCount + editedLineCount e + e.text.otherBreaks +
        b.breaksPassed e.range.start := by
  have hle := offset_mono (b := b) h
  have htext : (b.edit e).text = b.text.take (b.offset e.range.start) ++
      LineEnding.normalize e.text ++ b.text.drop (b.offset e.range.stop) := by
    simp only [edit, Nat.max_eq_right hle]
  have hedit : '\r' ∉ (b.edit e).text := return_notMem_foldl_edit [e] hb
  have hnew : (LineEnding.normalize e.text).breakCount + 1 =
      editedLineCount e + e.text.otherBreaks := by
    rw [Text.breakCount_eq (LineEnding.return_notMem_normalize e.text),
      Text.otherBreaks_normalize, editedLineCount, Text.length_lines]
    omega
  have hwhole : b.text.breakCount = Text.breakCount (b.text.take (b.offset e.range.stop)) +
      Text.breakCount (b.text.drop (b.offset e.range.stop)) := by
    rw [← Text.breakCount_append, List.take_append_drop]
  have hrange := clamp_lineCount (b := b) h
  rw [breakCount_take_offset hb] at hwhole
  rw [lineCount_eq hedit, lineCount_eq hb, htext, Text.breakCount_append,
    Text.breakCount_append, breakCount_take_offset hb]
  omega

/-- An edit that is noted moves what is known about later lines by the lines of its text less those
of its range.  The number of lines changes by as many, and the edit takes up as many lines as its
text has, if and only if the text has no carriage return without a newline, and its other breaks
and the lines of the range beyond the document are made up for by a break that the range passes at
its end only. -/
theorem lineCount_edit_eq_lineDelta_iff (t : Text) (language : String) (edits : List Edit)
    (p q : Position) (new : Text) :
    let b := edits.foldl edit (load t language)
    let e : Edit := ⟨.between p q, new⟩
    (∀ s : Session, (s.noteEdit e).cache.computed =
        s.cache.computed.removeAndShift e.range.start.line e.range.stop.line e.lineDelta) ∧
      editedLineCount e = e.lineCount + LineEnding.loneReturns new ∧
      ((b.edit e).document.lineCount : Int) - b.document.lineCount =
        e.lineDelta + LineEnding.loneReturns new + new.otherBreaks +
          (e.range.lineCount - (b.document.clamp e.range).lineCount) +
            (b.breaksPassed e.range.start - b.breaksPassed e.range.stop) ∧
      ((editedLineCount e = e.lineCount ∧
          ((b.edit e).document.lineCount : Int) - b.document.lineCount = e.lineDelta) ↔
        LineEnding.loneReturns new = 0 ∧
          new.otherBreaks + e.range.lineCount + b.breaksPassed e.range.start =
            (b.document.clamp e.range).lineCount + b.breaksPassed e.range.stop) := by
  intro b e
  have hle : e.range.start ≤ e.range.stop := Range.between_start_le_stop p q
  have hb : '\r' ∉ b.text :=
    return_notMem_foldl_edit edits (LineEnding.return_notMem_normalize t)
  have hcount := editedLineCount_eq e
  have hlines := lineCount_edit hb hle
  have htext : e.text = new := rfl
  rw [htext] at hcount hlines
  have hdelta : e.lineDelta = (e.lineCount : Int) - e.range.lineCount := rfl
  refine ⟨fun s => s.noteEdit_computed hle, hcount, ?_, ?_⟩
  · rw [hdelta]
    omega
  · rw [hdelta]
    constructor
    · rintro ⟨hreturns, hsame⟩
      omega
    · rintro ⟨hreturns, hsame⟩
      omega

/-- A carriage return becomes a newline that is not counted in the text. -/
theorem lineCount_edit_of_return :
    editedLineCount ⟨.caret (.ofOffset 0 0), "a\r".toList⟩ = 2 ∧
      Edit.lineCount ⟨.caret (.ofOffset 0 0), "a\r".toList⟩ = 1 ∧
      (load "x\ny".toList "plaintext").document.lineCount = 2 ∧
      ((load "x\ny".toList "plaintext").edit
        ⟨.caret (.ofOffset 0 0), "a\r".toList⟩).document.lineCount = 3 ∧
      Edit.lineDelta ⟨.caret (.ofOffset 0 0), "a\r".toList⟩ = 0 := by
  decide

end Buffer

end BlockOrder
