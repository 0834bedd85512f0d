import BlockOrder.Lines.LineSet
import BlockOrder.Proofs.Document.Slice

/-!
# Ranges on consecutive lines

Spans tile some lines if each of them starts on the line after the one before it.  Ranges run
from one position to another if each of them ends at the end of a line and the next one starts
on the line after it; their texts, joined by newlines, are the text between the two positions.
-/

namespace BlockOrder

/-- The spans follow each other without gap from line `first` up to line `last`; none of them is
empty. -/
inductive Tiles (last : Nat) : (first : Nat) → List LineSpan → Prop
  | one {first : Nat} (le : first ≤ last) : Tiles last first [⟨first, last⟩]
  | cons {first mid : Nat} {rest : List LineSpan} (le : first ≤ mid)
      (tiles : Tiles last (mid + 1) rest) : Tiles last first (⟨first, mid⟩ :: rest)

namespace Tiles

variable {first last : Nat} {spans : List LineSpan}

theorem ne_nil (h : Tiles last first spans) : spans ≠ [] := by
  cases h <;> simp

theorem le (h : Tiles last first spans) : first ≤ last := by
  induction h with
  | one le => exact le
  | cons le _ ih => omega

end Tiles

namespace Document

variable {d : Document}

theorem lineRange_eq {a b : Nat} (hab : a ≤ b) (hb : b ≤ d.lastLine) :
    d.lineRange a b = ⟨.ofOffset a 0, d.lineStop b⟩ := by
  have hlines : Range.lines a b = ⟨.ofOffset a 0, .endOf b⟩ := by
    refine between_of_le (Position.le_iff.mpr ?_)
    rcases Nat.lt_or_eq_of_le hab with hlt | rfl
    · exact .inl hlt
    · exact .inr ⟨rfl, rfl⟩
  have hstart : d.clampPosition (.ofOffset a 0) = .ofOffset a 0 :=
    clampPosition_of_inside (inside_ofOffset (Nat.le_trans hab hb) (Nat.zero_le _))
  have hstop : d.clampPosition (.endOf b) = d.lineStop b := by
    unfold clampPosition lineStop
    simp only [lastLine] at hb
    split
    · next hzero =>
        obtain rfl : b = 0 := by omega
        rw [lineLength_of_empty hzero]
    split
    · next hzero hbeyond =>
        simp only [Position.endOf] at hbeyond
        omega
    · rfl
  have hle : Position.ofOffset a 0 ≤ d.lineStop b := (inside_lineStop hb).lineStart_le hab
  rw [lineRange, hlines, clamp, hstart, hstop, between_of_le hle]

theorem fits_lines {a b : Nat} (hab : a ≤ b) (hb : b ≤ d.lastLine) :
    d.Fits ⟨.ofOffset a 0, d.lineStop b⟩ :=
  ⟨inside_ofOffset (Nat.le_trans hab hb) (Nat.zero_le _), inside_lineStop hb,
    (inside_lineStop hb).lineStart_le hab⟩

theorem fits_lineBreak {line : Nat} (next : line + 1 < d.lineCount) :
    d.Fits ⟨d.lineStop line, .ofOffset (line + 1) 0⟩ := by
  refine ⟨inside_lineStop ?_, inside_ofOffset ?_ (Nat.zero_le _), ?_⟩
  · simp only [lastLine]
    omega
  · simp only [lastLine]
    omega
  · rw [lineStop, Position.ofOffset_le_ofOffset]
    exact .inl (Nat.lt_succ_self line)

/-- The ranges run from a position to `q`, line by line. -/
inductive Runs (d : Document) (q : Position) : (p : Position) → List Range → Prop
  | one {p : Position} (fits : d.Fits ⟨p, q⟩) : Runs d q p [⟨p, q⟩]
  | cons {p : Position} {line : Nat} {rest : List Range} (fits : d.Fits ⟨p, d.lineStop line⟩)
      (next : line + 1 < d.lineCount) (runs : Runs d q (.ofOffset (line + 1) 0) rest) :
      Runs d q p (⟨p, d.lineStop line⟩ :: rest)

namespace Runs

variable {p q : Position} {ranges : List Range}

theorem ne_nil (h : Runs d q p ranges) : ranges ≠ [] := by
  cases h <;> simp

theorem fits_of_mem (h : Runs d q p ranges) {r : Range} (hr : r ∈ ranges) : d.Fits r := by
  induction h with
  | one fits =>
      obtain rfl := List.mem_singleton.mp hr
      exact fits
  | cons fits _ _ ih =>
      rcases List.mem_cons.mp hr with rfl | hr
      · exact fits
      · exact ih hr

theorem fits (h : Runs d q p ranges) : d.Fits ⟨p, q⟩ := by
  induction h with
  | one fits => exact fits
  | cons fits next _ ih => exact fits.trans ((fits_lineBreak next).trans ih)

/-- Every range lies between the first start and the last end. -/
theorem fits_around (h : Runs d q p ranges) {r : Range} (hr : r ∈ ranges) :
    d.Fits ⟨p, r.start⟩ ∧ d.Fits ⟨r.stop, q⟩ := by
  induction h with
  | one fits =>
      obtain rfl := List.mem_singleton.mp hr
      exact ⟨fits.start.fits_refl, fits.stop.fits_refl⟩
  | cons fits next runs ih =>
      rcases List.mem_cons.mp hr with rfl | hr
      · exact ⟨fits.start.fits_refl, (fits_lineBreak next).trans runs.fits⟩
      · obtain ⟨hbefore, hafter⟩ := ih hr
        exact ⟨fits.trans ((fits_lineBreak next).trans hbefore), hafter⟩

theorem before_append (h : Runs d q p ranges) :
    d.before p ++ Text.unlines (ranges.map d.slice) = d.before q := by
  induction h with
  | one fits => exact before_append_slice fits
  | cons fits next runs ih =>
      have hline := before_nextLine (Nat.lt_of_succ_lt next)
      have hne : List.map d.slice _ ≠ [] := List.map_eq_nil_iff.not.mpr runs.ne_nil
      rw [List.map_cons, Text.unlines_cons_of_ne_nil _ hne, ← ih, hline,
        ← before_append_slice fits]
      simp

/-- The texts of the ranges, joined, are the text from the first start to the last end. -/
theorem unlines_slices (h : Runs d q p ranges) :
    Text.unlines (ranges.map d.slice) = d.slice ⟨p, q⟩ := by
  exact List.append_cancel_left (h.before_append.trans (before_append_slice h.fits).symm)

end Runs

/-- The text of a range over several lines, parted after line `line`. -/
theorem slice_eq_parted {p q : Position} (h : d.Fits ⟨p, q⟩) (line : Nat) (hp : p.line ≤ line)
    (hq : line < q.line) :
    d.slice ⟨p, q⟩ =
      d.slice ⟨p, d.lineStop line⟩ ++ '\n' :: d.slice ⟨.ofOffset (line + 1) 0, q⟩ := by
  have hlast := h.stop.line_le
  have hnext : line + 1 < d.lineCount := by
    simp only [lastLine] at hlast
    omega
  have hstop : d.Inside (d.lineStop line) :=
    inside_lineStop (Nat.le_trans (Nat.le_of_lt hq) hlast)
  have hstart : d.Inside (.ofOffset (line + 1) 0) :=
    inside_ofOffset (Nat.le_trans hq hlast) (Nat.zero_le _)
  have hruns : Runs d q p [⟨p, d.lineStop line⟩, ⟨.ofOffset (line + 1) 0, q⟩] :=
    .cons ⟨h.start, hstop, h.start.le_lineStop hp⟩ hnext
      (.one ⟨hstart, h.stop, h.stop.lineStart_le hq⟩)
  exact hruns.unlines_slices.symm

/-- The whole lines of spans that tile some lines run from the first line to the last. -/
theorem runs_of_tiles {first last : Nat} {spans : List LineSpan} (h : Tiles last first spans)
    (hlast : last ≤ d.lastLine) :
    Runs d (d.lineStop last) (.ofOffset first 0)
      (spans.map fun s => d.lineRange s.first s.last) := by
  induction h with
  | one le =>
      rw [List.map_singleton, lineRange_eq le hlast]
      exact .one (fits_lines le hlast)
  | @cons first mid rest le tiles ih =>
      have hmid : mid + 1 ≤ d.lastLine := Nat.le_trans tiles.le hlast
      have hcount : mid + 1 < d.lineCount := by
        simp only [lastLine] at hmid
        omega
      have hfits := fits_lines (d := d) le (Nat.le_of_succ_le hmid)
      rw [List.map_cons, lineRange_eq le (Nat.le_of_succ_le hmid)]
      exact .cons hfits hcount ih

end Document

end BlockOrder
