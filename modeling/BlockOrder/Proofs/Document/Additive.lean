import BlockOrder.Proofs.Document.Runs

/-!
# Texts of neighbouring ranges add up

Clamping takes a position to the last position of the document that is not behind it.  So it keeps
the order of positions, and positions of the document stay where they are.  Cutting a range at any
position, on the document or beyond it, cuts its text in two, and the text of the whole document is
its lines joined by newlines.
-/

namespace BlockOrder

namespace Document

variable {d : Document}

/-! ## Clamped positions -/

theorem ofOffset_within_le (line length : Nat) (c : Column) :
    Position.ofOffset line (c.within length) ≤ ⟨line, c⟩ := by
  refine Position.le_iff.mpr (.inr ⟨rfl, ?_⟩)
  cases c with
  | lineEnd => rfl
  | char offset =>
      change decide (min offset length ≤ offset) = true
      exact decide_eq_true (Nat.min_le_left _ _)

theorem clampPosition_le (d : Document) (p : Position) : d.clampPosition p ≤ p := by
  unfold clampPosition
  split
  · rcases Nat.eq_zero_or_pos p.line with hzero | hpos
    · have hstart := ofOffset_within_le 0 0 p.column
      rw [Nat.le_zero.mp (within_le 0 p.column), ← hzero] at hstart
      rw [← hzero]
      exact hstart
    · exact Position.le_iff.mpr (.inl hpos)
  split
  · next hcount hbeyond =>
      refine Position.le_iff.mpr (.inl ?_)
      simp only [Position.ofOffset_line, lastLine]
      omega
  · exact ofOffset_within_le p.line _ p.column

/-- A position of the document is not behind the clamped one if it is not behind the given one. -/
theorem Inside.le_clampPosition_iff {p q : Position} (hq : d.Inside q) :
    q ≤ d.clampPosition p ↔ q ≤ p := by
  constructor
  · intro h
    exact Position.le_trans h (d.clampPosition_le p)
  · intro h
    have hclamped := d.clampPosition_mono h
    rwa [clampPosition_of_inside hq] at hclamped

theorem clampPosition_clampPosition (d : Document) (p : Position) :
    d.clampPosition (d.clampPosition p) = d.clampPosition p :=
  clampPosition_of_inside (d.inside_clampPosition p)

/-! ## Texts -/

theorem fits_clampPosition (d : Document) {p q : Position} (h : p ≤ q) :
    d.Fits ⟨d.clampPosition p, d.clampPosition q⟩ :=
  ⟨d.inside_clampPosition p, d.inside_clampPosition q, d.clampPosition_mono h⟩

theorem slice_clampPosition (d : Document) {p q : Position} (h : p ≤ q) :
    d.slice ⟨d.clampPosition p, d.clampPosition q⟩ = d.slice ⟨p, q⟩ := by
  have hclamp : d.clamp ⟨p, q⟩ = ⟨d.clampPosition p, d.clampPosition q⟩ := d.clamp_of_le h
  rw [← hclamp, slice_clamp]

theorem slice_append_of_le (d : Document) {p q r : Position} (hpq : p ≤ q) (hqr : q ≤ r) :
    d.slice ⟨p, q⟩ ++ d.slice ⟨q, r⟩ = d.slice ⟨p, r⟩ := by
  rw [← d.slice_clampPosition hpq, ← d.slice_clampPosition hqr,
    ← d.slice_clampPosition (Position.le_trans hpq hqr)]
  exact slice_append_slice (d.fits_clampPosition hpq) (d.fits_clampPosition hqr)

theorem slice_whole (d : Document) : d.slice d.whole = Text.unlines d.lines := by
  by_cases hlines : d.lines = []
  · simp [slice, hlines, sliceLines, Text.unlines]
  have hlast : d.lastLine < d.lineCount := lt_lineCount_of_le (Nat.le_refl _) hlines
  have hsplit : d.lines = d.lines.take d.lastLine ++ [d.lineText d.lastLine] := by
    rw [← take_succ_eq hlast, List.take_of_length_le]
    simp only [lastLine, lineCount]
    omega
  have hbefore := before_append_slice (fits_lines (Nat.zero_le d.lastLine) (Nat.le_refl _))
  rw [before_lineStart, List.take_zero, Text.ended_nil, List.nil_append, before_lineStop]
    at hbefore
  rw [← slice_clamp, whole, ← lineRange, lineRange_eq (Nat.zero_le _) (Nat.le_refl _), hbefore]
  conv_rhs => rw [hsplit, Text.unlines_append_cons]
  simp

/-- For positions in order, on the document or not: clamping keeps the order, clamps once and for
all, and goes back no further than it must; the text of a range is the texts of its two parts, and
all ranges together have the lines of the document. -/
theorem slice_additive (d : Document) {p q r : Position} (hpq : p ≤ q) (hqr : q ≤ r) :
    d.clampPosition p ≤ d.clampPosition q ∧
      d.clampPosition (d.clampPosition p) = d.clampPosition p ∧
      (∀ s, d.Inside s → (s ≤ d.clampPosition p ↔ s ≤ p)) ∧
      d.slice ⟨p, r⟩ = d.slice ⟨p, q⟩ ++ d.slice ⟨q, r⟩ ∧
      d.slice d.whole = Text.unlines d.lines := by
  refine ⟨d.clampPosition_mono hpq, d.clampPosition_clampPosition p, ?_, ?_, d.slice_whole⟩
  · intro s hs
    exact hs.le_clampPosition_iff
  · exact (d.slice_append_of_le hpq hqr).symm

/-- A cut at the end of a line, in a range that goes on beyond the document. -/
theorem slice_additive_beyond :
    Position.ofOffset 0 1 ≤ .endOf 0 ∧ Position.endOf 0 ≤ .ofOffset 7 0 ∧
      (⟨["ab".toList, "c".toList]⟩ : Document).slice ⟨.ofOffset 0 1, .ofOffset 7 0⟩ =
        "b".toList ++ "\nc".toList := by
  have hpq : Position.ofOffset 0 1 ≤ .endOf 0 := by decide
  have hqr : Position.endOf 0 ≤ .ofOffset 7 0 := by decide
  have hparts := (slice_additive ⟨["ab".toList, "c".toList]⟩ hpq hqr).2.2.2.1
  refine ⟨hpq, hqr, hparts.trans ?_⟩
  decide

end Document

end BlockOrder
