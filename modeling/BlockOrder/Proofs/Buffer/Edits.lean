import BlockOrder.Buffer
import BlockOrder.Proofs.Edit.Merge
import BlockOrder.Proofs.Edit.Rearranging
import BlockOrder.Proofs.Text.Endings

/-!
# Editing plain buffers

The text of a plain buffer is what comes before a position and what comes after it.  An edit
replaces the lines that its range touches; the lines above and below stay as they are.
-/

namespace BlockOrder

namespace Document

variable {d : Document}

/-- The text of the document from a position on. -/
def after (d : Document) (p : Position) : Text :=
  (d.lineText p.line).drop (p.column.within (d.lineLength p.line)) ++
    Text.begun (d.lines.drop (p.line + 1))

/-- A document is what comes before a position and what comes after it. -/
theorem before_append_after {p : Position} (hp : p.line < d.lineCount) :
    d.before p ++ d.after p = Text.unlines d.lines := by
  have hsplit : d.lines =
      d.lines.take p.line ++ d.lineText p.line :: d.lines.drop (p.line + 1) := by
    rw [lineText_of_lt hp, ← List.drop_eq_getElem_cons hp, List.take_append_drop]
  conv_rhs => rw [hsplit, Text.unlines_append_cons]
  rw [before, after, List.append_assoc, ← List.append_assoc (List.take _ _), List.take_append_drop,
    List.append_assoc]

end Document

namespace Buffer

variable {b : Buffer}

/-! ## Offsets -/

theorem lines_ne_nil (b : Buffer) : b.document.lines ≠ [] := by
  rw [document, ne_eq, List.map_eq_nil_iff]
  exact b.text.brokenLines_ne_nil

theorem line_lt {p : Position} (hp : b.document.Inside p) :
    p.line < b.document.lineCount :=
  Document.lt_lineCount_of_le hp.line_le b.lines_ne_nil

theorem exists_brokenLine {p : Position} (hp : b.document.Inside p) :
    ∃ line, b.text.brokenLines[p.line]? = some line ∧
      b.document.lineText p.line = line.withoutNewline := by
  have hline := line_lt hp
  rw [Document.lineCount, document, List.length_map] at hline
  refine ⟨_, List.getElem?_eq_getElem hline, ?_⟩
  simp [Document.lineText, Document.line?, document, hline]

theorem offset_of_inside {p : Position} (hp : b.document.Inside p) :
    b.offset p = b.text.lineStart p.line + p.column.within (b.document.lineLength p.line) := by
  rw [offset, Document.clampPosition_of_inside hp]

theorem offset_clampPosition (b : Buffer) (p : Position) :
    b.offset (b.document.clampPosition p) = b.offset p := by
  rw [offset_of_inside (b.document.inside_clampPosition p), offset]

theorem offset_mono {p q : Position} (h : p ≤ q) : b.offset p ≤ b.offset q := by
  have hle := b.document.clampPosition_mono h
  have hp := b.document.inside_clampPosition p
  have hq := b.document.inside_clampPosition q
  rw [← offset_clampPosition b p, ← offset_clampPosition b q]
  generalize b.document.clampPosition p = p at hle hp
  generalize b.document.clampPosition q = q at hle hq
  rw [offset_of_inside hp, offset_of_inside hq]
  rcases Position.le_iff.mp hle with hlt | ⟨heq, hcolumn⟩
  · obtain ⟨line, hline, htext⟩ := exists_brokenLine hp
    have hwithin := Document.within_le (b.document.lineLength p.line) p.column
    have hlength := line.length_withoutNewline_le
    have hstart := Text.lineStart_mono b.text (Nat.succ_le_of_lt hlt)
    rw [Text.lineStart_succ hline] at hstart
    rw [Document.lineLength_eq, htext] at hwithin ⊢
    omega
  · rw [heq]
    exact Nat.add_le_add_left (Document.within_mono _ hcolumn) _

/-- The text before a position: the broken lines before it and the start of its line. -/
theorem take_offset_of_inside {p : Position} (hp : b.document.Inside p) :
    b.text.take (b.offset p) = (b.text.brokenLines.take p.line).flatten ++
      (b.document.lineText p.line).take (p.column.within (b.document.lineLength p.line)) := by
  obtain ⟨line, hline, htext⟩ := exists_brokenLine hp
  have hwithin := Document.within_le (b.document.lineLength p.line) p.column
  rw [Document.lineLength_eq, htext] at hwithin
  rw [offset_of_inside hp, Document.lineLength_eq, htext, Text.take_withoutNewline hwithin,
    Text.take_lineStart_add hline (Nat.le_trans hwithin line.length_withoutNewline_le)]

/-! ## Plain buffers -/

theorem document_lines (hb : b.text.Plain) : b.document.lines = b.text.lines :=
  Text.map_withoutNewline_brokenLines hb

theorem unlines_document_lines (hb : b.text.Plain) : Text.unlines b.document.lines = b.text := by
  rw [document_lines hb, Text.unlines_lines]

theorem plain_document (hb : b.text.Plain) : b.document.Plain := by
  rw [Document.Plain, document_lines hb]
  intro line hline x hx
  have hmem : x ∈ b.text := by
    have hperm := Text.unlines_perm_append b.text.lines_ne_nil
    rw [Text.unlines_lines] at hperm
    exact hperm.mem_iff.mpr (List.mem_append_left _ (List.mem_flatten_of_mem hline hx))
  rw [Bool.eq_false_iff]
  intro hbreak
  rw [hb x hmem hbreak] at hx
  exact Text.newline_notMem_of_mem_lines hline hx

/-- A position is found in the text behind what comes before it. -/
theorem offset_eq (hb : b.text.Plain) (p : Position) :
    b.offset p = (b.document.before (b.document.clampPosition p)).length := by
  have hp := b.document.inside_clampPosition p
  generalize hq : b.document.clampPosition p = q at hp
  have hline : q.line < b.text.lines.length := by
    rw [← document_lines hb]
    exact line_lt hp
  have hcolumn : ((b.document.lineText q.line).take
      (q.column.within (b.document.lineLength q.line))).length =
        q.column.within (b.document.lineLength q.line) := by
    apply List.length_take_of_le
    rw [← Document.lineLength_eq]
    exact Document.within_le _ _
  simp only [offset, hq]
  rw [Text.lineStart_eq hb hline, Document.before, List.length_append, hcolumn, document_lines hb]

theorem text_eq (hb : b.text.Plain) {p : Position} (hp : p.line < b.document.lineCount) :
    b.text = b.document.before p ++ b.document.after p := by
  rw [Document.before_append_after hp, unlines_document_lines hb]

theorem edit_text (hb : b.text.Plain) {e : Edit} (he : e.text.Plain) {p q : Position}
    (hp : b.document.clampPosition e.range.start = p)
    (hq : b.document.clampPosition e.range.stop = q) (hle : p ≤ q) :
    (b.edit e).text = b.document.before p ++ e.text ++ b.document.after q := by
  have hpinside : b.document.Inside p := hp ▸ b.document.inside_clampPosition _
  have hqinside : b.document.Inside q := hq ▸ b.document.inside_clampPosition _
  have hfits : b.document.Fits ⟨p, q⟩ := ⟨hpinside, hqinside, hle⟩
  have hbetween : b.document.before p ++ b.document.slice ⟨p, q⟩ = b.document.before q :=
    Document.before_append_slice hfits
  have hlength : (b.document.before p).length ≤ (b.document.before q).length := by
    rw [← hbetween, List.length_append]
    exact Nat.le_add_right _ _
  have hbefore := b.text_eq hb (line_lt hpinside)
  have hafter := b.text_eq hb (line_lt hqinside)
  simp only [edit, offset_eq hb, hp, hq, Nat.max_eq_right hlength,
    LineEnding.normalize_of_notMem he.return_notMem]
  conv_lhs => rw [hafter, List.drop_left, ← hafter, hbefore, List.take_left]

theorem plain_edit (hb : b.text.Plain) {e : Edit} (he : e.text.Plain) :
    (b.edit e).text.Plain := by
  have hnormal := LineEnding.normalize_of_notMem he.return_notMem
  unfold edit
  rw [Text.plain_append, Text.plain_append, hnormal]
  exact ⟨⟨fun x hx => hb x (List.mem_of_mem_take hx), he⟩,
    fun x hx => hb x (List.mem_of_mem_drop hx)⟩

theorem newline_notMem_of_mem (hb : b.text.Plain) {line : Text}
    (hline : line ∈ b.document.lines) : '\n' ∉ line := fun hmem =>
  absurd (plain_document hb line hline _ hmem) (by decide)

theorem edit_lines (hb : b.text.Plain) {e : Edit} (he : e.text.Plain) {p q : Position}
    (hp : b.document.clampPosition e.range.start = p)
    (hq : b.document.clampPosition e.range.stop = q) (hle : p ≤ q) :
    (b.edit e).document.lines = b.document.lines.take p.line ++
      Text.lines ((b.document.lineText p.line).take
        (p.column.within (b.document.lineLength p.line)) ++ e.text ++
          (b.document.lineText q.line).drop (q.column.within (b.document.lineLength q.line))) ++
        b.document.lines.drop (q.line + 1) := by
  rw [document_lines (plain_edit hb he), edit_text hb he hp hq hle, Document.before,
    Document.after, ← List.append_assoc,
    Text.lines_append_begun fun line hline => newline_notMem_of_mem hb (List.mem_of_mem_drop hline)]
  simp only [List.append_assoc]
  rw [Text.lines_ended_append fun line hline =>
    newline_notMem_of_mem hb (List.mem_of_mem_take hline), List.append_assoc]

/-- An edit replaces the lines that its range touches by as many lines as its text has. -/
theorem exists_edit_lines (hb : b.text.Plain) {e : Edit} (he : e.text.Plain) {p q : Position}
    (hp : b.document.clampPosition e.range.start = p)
    (hq : b.document.clampPosition e.range.stop = q) (hle : p ≤ q) :
    ∃ new, new.length = e.text.lines.length ∧ (b.edit e).document.lines =
      b.document.lines.take p.line ++ new ++ b.document.lines.drop (q.line + 1) := by
  have hplain := plain_document hb
  refine ⟨_, ?_, edit_lines hb he hp hq hle⟩
  have hfirst : (List.take (p.column.within (b.document.lineLength p.line))
      (b.document.lineText p.line)).count '\n' = 0 :=
    List.count_eq_zero.mpr fun hmem => hplain.newline_notMem _ (List.mem_of_mem_take hmem)
  have hlast : (List.drop (q.column.within (b.document.lineLength q.line))
      (b.document.lineText q.line)).count '\n' = 0 :=
    List.count_eq_zero.mpr fun hmem => hplain.newline_notMem _ (List.mem_of_mem_drop hmem)
  rw [Text.length_lines, Text.length_lines, List.count_append, List.count_append, hfirst, hlast]
  omega

/-! ## Rearranging lines -/

section Rearranging

variable {e : Edit} (hb : b.text.Plain) (he : e.Rearranges b.document)
include hb he

theorem plain_of_rearranges : e.text.Plain := ((plain_document hb).slice e.range).perm he.text

/-- The new text has as many lines as the range. -/
theorem length_lines_of_rearranges : e.text.lines.length = e.range.lineCount := by
  rw [Text.length_lines, he.text.count_eq, (plain_document hb).count_slice he.fits,
    Range.lineCount]

theorem edit_text_of_rearranges : (b.edit e).text =
    b.document.before e.range.start ++ e.text ++ b.document.after e.range.stop :=
  edit_text hb (plain_of_rearranges hb he) (Document.clampPosition_of_inside he.fits.start)
    (Document.clampPosition_of_inside he.fits.stop) he.fits.le

/-- Whole lines are replaced by the lines of the new text. -/
theorem edit_lines_of_rearranges :
    (b.edit e).document.lines = b.document.lines.take e.range.start.line ++ e.text.lines ++
      b.document.lines.drop (e.range.stop.line + 1) := by
  have hlines := edit_lines hb (plain_of_rearranges hb he)
    (Document.clampPosition_of_inside he.fits.start)
    (Document.clampPosition_of_inside he.fits.stop) he.fits.le
  have hstart : e.range.start.column = .char 0 := congrArg Position.column he.start
  have hstop : e.range.stop.column = .char (b.document.lineLength e.range.stop.line) :=
    congrArg Position.column he.stop
  rw [hstart, hstop, Column.within, Column.within, Nat.zero_min, Nat.min_self, List.take_zero,
    List.nil_append, Document.lineLength_eq, List.drop_length, List.append_nil] at hlines
  exact hlines

/-- An edit that rearranges lines keeps the other lines and the characters. -/
theorem rearrangedIn_edit :
    Document.RearrangedIn [e.range] b.document (b.edit e).document := by
  have hlines := edit_lines_of_rearranges hb he
  have hlength := length_lines_of_rearranges hb he
  have hle := he.fits.line_le
  have hlast := line_lt he.fits.stop
  have htake : (b.document.lines.take e.range.start.line).length = e.range.start.line :=
    List.length_take_of_le (Nat.le_trans hle (Nat.le_of_lt hlast))
  rw [Range.lineCount] at hlength
  refine ⟨?_, ?_, ?_, ?_⟩
  · rw [Document.lineCount, hlines, List.length_append, List.length_append, htake, hlength,
      List.length_drop]
    change e.range.start.line + _ + (b.document.lineCount - _) = b.document.lineCount
    omega
  · have hbetween := Document.before_append_slice he.fits
    have hplain := plain_edit hb (plain_of_rearranges hb he)
    rw [unlines_document_lines hb, unlines_document_lines hplain, edit_text_of_rearranges hb he,
      text_eq hb hlast, ← hbetween]
    exact (he.text.append_left _).append_right _
  · intro r hr
    obtain rfl := List.mem_singleton.mp hr
    have hnew : (b.edit e).document.linesIn e.range = e.text.lines := by
      rw [Document.linesIn, hlines, List.append_assoc, List.drop_left' htake,
        List.take_left' (by rw [hlength, Range.lineCount])]
    rw [hnew, Text.unlines_lines, ← he.slice_eq (lines_ne_nil b)]
    exact he.text
  · intro n hn
    have hnot := hn e.range (List.mem_singleton_self _)
    rw [Range.Touches] at hnot
    rw [hlines]
    rcases Nat.lt_or_ge n e.range.start.line with hlt | hge
    · rw [List.append_assoc, List.getElem?_append_left (by omega), List.getElem?_take_of_lt hlt]
    · rw [List.getElem?_append_right (by rw [List.length_append]; omega), List.getElem?_drop,
        List.length_append, htake, hlength]
      congr 1
      omega

end Rearranging

/-- Edits without a common line that rearrange lines keep the other lines and the characters. -/
theorem rearrangedIn_foldl_edit (hb : b.text.Plain) {edits : List Edit}
    (hedits : ∀ e ∈ edits, e.Rearranges b.document)
    (hapart : edits.Pairwise fun e e' => e.range.Apart e'.range) :
    (edits.foldl edit b).text.Plain ∧ (edits.foldl edit b).ending = b.ending ∧
      Document.RearrangedIn (edits.map Edit.range) b.document (edits.foldl edit b).document := by
  induction edits generalizing b with
  | nil => exact ⟨hb, rfl, .refl _⟩
  | cons e rest ih =>
      obtain ⟨hfirst, hrest⟩ := List.pairwise_cons.mp hapart
      have he := hedits e (by simp)
      have hstep := rearrangedIn_edit hb he
      -- the other edits do not touch the lines of the first, so they still fit after it
      have hstill : ∀ e' ∈ rest, e'.Rearranges (b.edit e).document := by
        intro e' he'
        refine (hedits e' (by simp [he'])).of_lines_eq (lines_ne_nil b) hstep.lineCount ?_
        intro n hn
        refine hstep.outside n fun r hr => ?_
        rw [List.mem_singleton.mp hr]
        exact (hfirst e' he').symm.not_touches hn
      obtain ⟨hplain, hending, hrun⟩ := ih (plain_edit hb (plain_of_rearranges hb he)) hstill hrest
      refine ⟨hplain, hending, hstep.append hrun ?_ ?_⟩
      · intro r hr
        change r ∈ (e :: rest).map Edit.range at hr
        obtain ⟨e', he', rfl⟩ := List.mem_map.mp hr
        exact (hedits e' he').fits
      · intro r hr r' hr'
        obtain rfl := List.mem_singleton.mp hr
        obtain ⟨e', he', rfl⟩ := List.mem_map.mp hr'
        exact hfirst e' he'

end Buffer

end BlockOrder
