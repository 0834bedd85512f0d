import BlockOrder.Edit.Basic
import BlockOrder.Proofs.Document.Runs

/-!
# Rearranging whole lines

An edit that replaces whole lines by a text with the same characters keeps the number of lines
and all lines outside its range.  Several such edits without a common line do so together, in
whatever order they are made.
-/

namespace BlockOrder

namespace Range

/-- The line is one of those that the range is on. -/
def Touches (r : Range) (n : Nat) : Prop := r.start.line ≤ n ∧ n ≤ r.stop.line

/-- The ranges have no line in common. -/
def Apart (r s : Range) : Prop := r.stop.line < s.start.line ∨ s.stop.line < r.start.line

variable {r s : Range}

theorem Apart.symm (h : r.Apart s) : s.Apart r := Or.symm h

theorem Apart.not_touches (h : r.Apart s) {n : Nat} (hn : r.Touches n) : ¬ s.Touches n := by
  simp only [Apart, Touches] at h hn ⊢
  omega

end Range

namespace Document

variable {d d' d'' : Document} {r : Range}

/-- The lines that a range touches. -/
def linesIn (d : Document) (r : Range) : List Text := (d.lines.drop r.start.line).take r.lineCount

theorem linesIn_congr (hle : r.start.line ≤ r.stop.line)
    (h : ∀ n, r.Touches n → d'.lines[n]? = d.lines[n]?) : d'.linesIn r = d.linesIn r := by
  apply List.ext_getElem?
  intro i
  rw [linesIn, linesIn, List.getElem?_take, List.getElem?_take]
  split
  · next hi =>
      simp only [Range.lineCount] at hi
      rw [List.getElem?_drop, List.getElem?_drop]
      exact h _ ⟨Nat.le_add_right _ _, by omega⟩
  · rfl

theorem slice_eq_unlines (hr : d.Fits r) (hstart : r.start = .ofOffset r.start.line 0)
    (hstop : r.stop = d.lineStop r.stop.line) (hne : d.lines ≠ []) :
    d.slice r = Text.unlines (d.linesIn r) := by
  have hle := hr.line_le
  have hlast := lt_lineCount_of_le hr.stop.line_le hne
  have htake : d.lines.take r.stop.line = d.lines.take r.start.line ++
      (d.lines.drop r.start.line).take (r.stop.line - r.start.line) := by
    rw [← List.take_add, Nat.add_sub_cancel' hle]
  have hslice := before_append_slice hr
  rw [hstart, hstop, before_lineStart, before_lineStop, htake, Text.ended_append,
    List.append_assoc] at hslice
  rw [linesIn, Range.lineCount, take_drop_eq hle hlast, Text.unlines_append_cons, Text.begun_nil,
    List.append_nil]
  exact List.append_cancel_left hslice

/-- The documents differ on the lines of the ranges only, and there in the order of the
characters. -/
structure RearrangedIn (ranges : List Range) (d d' : Document) : Prop where
  lineCount : d'.lineCount = d.lineCount
  chars : (Text.unlines d'.lines).Perm (Text.unlines d.lines)
  inside : ∀ r ∈ ranges, (Text.unlines (d'.linesIn r)).Perm (Text.unlines (d.linesIn r))
  outside : ∀ n, (∀ r ∈ ranges, ¬ r.Touches n) → d'.lines[n]? = d.lines[n]?

namespace RearrangedIn

variable {ranges ranges' : List Range}

theorem refl (d : Document) : RearrangedIn [] d d :=
  ⟨rfl, .refl _, by simp, fun _ _ => rfl⟩

theorem perm (h : RearrangedIn ranges d d') (hperm : ranges.Perm ranges') :
    RearrangedIn ranges' d d' :=
  ⟨h.lineCount, h.chars, fun r hr => h.inside r (hperm.mem_iff.mpr hr),
    fun n hn => h.outside n fun r hr => hn r (hperm.mem_iff.mp hr)⟩

theorem append (h : RearrangedIn ranges d d') (h' : RearrangedIn ranges' d' d'')
    (hfits : ∀ r ∈ ranges ++ ranges', d.Fits r)
    (hapart : ∀ r ∈ ranges, ∀ r' ∈ ranges', r.Apart r') :
    RearrangedIn (ranges ++ ranges') d d'' := by
  refine ⟨h'.lineCount.trans h.lineCount, h'.chars.trans h.chars, ?_, ?_⟩
  · intro r hr
    have hr' := hfits r hr
    rcases List.mem_append.mp hr with hr | hr
    · have hsame : d''.linesIn r = d'.linesIn r := linesIn_congr (hr'.line_le) fun n hn =>
        h'.outside n fun r' hr' => (hapart r hr r' hr').not_touches hn
      rw [hsame]
      exact h.inside r hr
    · have hsame : d'.linesIn r = d.linesIn r := linesIn_congr (hr'.line_le) fun n hn =>
        h.outside n fun r' hr' => (hapart r' hr' r hr).symm.not_touches hn
      rw [← hsame]
      exact h'.inside r hr
  · intro n hn
    rw [h'.outside n fun r hr => hn r (List.mem_append_right _ hr),
      h.outside n fun r hr => hn r (List.mem_append_left _ hr)]

end RearrangedIn

end Document

/-- The edit replaces whole lines of the document by a text with the same characters. -/
structure Edit.Rearranges (d : Document) (e : Edit) : Prop where
  fits : d.Fits e.range
  start : e.range.start = .ofOffset e.range.start.line 0
  stop : e.range.stop = d.lineStop e.range.stop.line
  text : e.text.Perm (d.slice e.range)

namespace Edit

variable {d d' : Document} {e : Edit}

theorem rearranges_lineRange {a b : Nat} {t : Text} (hab : a ≤ b) (hb : b ≤ d.lastLine)
    (ht : t.Perm (d.slice (d.lineRange a b))) : Rearranges d ⟨d.lineRange a b, t⟩ := by
  refine ⟨?_, ?_, ?_, ht⟩
  · rw [Document.lineRange_eq hab hb]
    exact Document.fits_lines hab hb
  · rw [Document.lineRange_eq hab hb]
    rfl
  · rw [Document.lineRange_eq hab hb]
    rfl

namespace Rearranges

theorem clamp_eq (h : e.Rearranges d) : e.clamp d = e := by
  obtain ⟨r, t⟩ := e
  exact congrArg (Edit.mk · t) (Document.clamp_of_fits h.fits)

theorem slice_eq (h : e.Rearranges d) (hne : d.lines ≠ []) :
    d.slice e.range = Text.unlines (d.linesIn e.range) :=
  Document.slice_eq_unlines h.fits h.start h.stop hne

/-- An edit goes on to rearrange its lines when other lines change. -/
theorem of_lines_eq (h : e.Rearranges d) (hne : d.lines ≠ [])
    (hcount : d'.lineCount = d.lineCount)
    (hlines : ∀ n, e.range.Touches n → d'.lines[n]? = d.lines[n]?) : e.Rearranges d' := by
  have hle := h.fits.line_le
  have hlast : e.range.stop.line ≤ d'.lastLine := by
    rw [Document.lastLine, hcount]
    exact h.fits.stop.line_le
  have hne' : d'.lines ≠ [] := by
    rw [← List.length_pos_iff] at hne ⊢
    exact Nat.lt_of_lt_of_eq hne hcount.symm
  have hsame : d'.lineStop e.range.stop.line = d.lineStop e.range.stop.line := by
    simp only [Document.lineStop, Document.lineLength, Document.line?,
      hlines _ ⟨hle, Nat.le_refl _⟩]
  have hstop := h.stop.trans hsame.symm
  have hfits : d'.Fits e.range := by
    have hrange : e.range = ⟨.ofOffset e.range.start.line 0, d'.lineStop e.range.stop.line⟩ := by
      rw [← h.start, ← hstop]
    rw [hrange]
    exact Document.fits_lines hle hlast
  refine ⟨hfits, h.start, hstop, ?_⟩
  rw [Document.slice_eq_unlines hfits h.start hstop hne', Document.linesIn_congr hle hlines,
    ← h.slice_eq hne]
  exact h.text

end Rearranges

end Edit

end BlockOrder
