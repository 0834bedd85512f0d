import BlockOrder.Document
import BlockOrder.Proofs.Text.Lines

/-!
# Texts of ranges

The text of a range is what the text before its end has more than the text before its start.
Hence texts of ranges that follow each other add up, and so do those of ranges on consecutive
lines, with newlines between them.
-/

namespace BlockOrder

/-! ## The order of positions -/

namespace Column

theorem le_total (a b : Column) : a ≤ b ∨ b ≤ a := by
  change a.le b = true ∨ b.le a = true
  cases a with
  | char x =>
      cases b with
      | char y => simpa only [Column.le, decide_eq_true_eq] using Nat.le_total x y
      | lineEnd => exact .inl rfl
  | lineEnd => cases b <;> exact .inr rfl

theorem le_trans {a b c : Column} (hab : a ≤ b) (hbc : b ≤ c) : a ≤ c := by
  change a.le c = true
  change a.le b = true at hab
  change b.le c = true at hbc
  cases c with
  | lineEnd => cases a <;> rfl
  | char z =>
      cases b with
      | lineEnd => cases hbc
      | char y =>
          cases a with
          | lineEnd => cases hab
          | char x =>
              simp only [Column.le, decide_eq_true_eq] at hab hbc ⊢
              exact Nat.le_trans hab hbc

theorem le_antisymm {a b : Column} (hab : a ≤ b) (hba : b ≤ a) : a = b := by
  change a.le b = true at hab
  change b.le a = true at hba
  cases a with
  | lineEnd =>
      cases b with
      | lineEnd => rfl
      | char y => cases hab
  | char x =>
      cases b with
      | lineEnd => cases hba
      | char y =>
          simp only [Column.le, decide_eq_true_eq] at hab hba
          rw [Nat.le_antisymm hab hba]

end Column

namespace Position

theorem le_iff {a b : Position} :
    a ≤ b ↔ a.line < b.line ∨ a.line = b.line ∧ a.column ≤ b.column := by
  change Position.le a b = true ↔ _
  simp only [Position.le, Bool.or_eq_true, decide_eq_true_eq, Bool.and_eq_true, beq_iff_eq]
  exact Iff.rfl

theorem line_le {a b : Position} (h : a ≤ b) : a.line ≤ b.line :=
  (le_iff.mp h).elim Nat.le_of_lt fun h => Nat.le_of_eq h.1

theorem le_total (a b : Position) : a ≤ b ∨ b ≤ a := by
  rw [le_iff, le_iff]
  rcases Nat.lt_trichotomy a.line b.line with hlt | heq | hlt
  · exact .inl (.inl hlt)
  · rcases Column.le_total a.column b.column with h | h
    · exact .inl (.inr ⟨heq, h⟩)
    · exact .inr (.inr ⟨heq.symm, h⟩)
  · exact .inr (.inl hlt)

theorem le_refl (a : Position) : a ≤ a := (le_total a a).elim id id

theorem le_trans {a b c : Position} (hab : a ≤ b) (hbc : b ≤ c) : a ≤ c := by
  rw [le_iff] at hab hbc ⊢
  rcases hab with hab | ⟨hab, hcolumn⟩
  · rcases hbc with hbc | ⟨hbc, -⟩
    · exact .inl (Nat.lt_trans hab hbc)
    · exact .inl (hbc ▸ hab)
  · rcases hbc with hbc | ⟨hbc, hcolumn'⟩
    · exact .inl (hab ▸ hbc)
    · exact .inr ⟨hab.trans hbc, Column.le_trans hcolumn hcolumn'⟩

theorem le_antisymm {a b : Position} (hab : a ≤ b) (hba : b ≤ a) : a = b := by
  rw [le_iff] at hab hba
  obtain ⟨line, column⟩ := a
  obtain ⟨line', column'⟩ := b
  obtain rfl : line = line' := by
    dsimp only at hab hba
    omega
  rcases hab with hlt | ⟨-, hab⟩
  · exact absurd hlt (Nat.lt_irrefl _)
  rcases hba with hlt | ⟨-, hba⟩
  · exact absurd hlt (Nat.lt_irrefl _)
  rw [show column = column' from Column.le_antisymm hab hba]

@[simp] theorem ofOffset_le_ofOffset {a b x y : Nat} :
    ofOffset a x ≤ ofOffset b y ↔ a < b ∨ a = b ∧ x ≤ y := by
  have hcolumn : (ofOffset a x).column ≤ (ofOffset b y).column ↔ x ≤ y := by
    change Column.le _ _ = true ↔ _
    simp [ofOffset, Column.le]
  rw [le_iff, hcolumn]
  rfl

@[simp] theorem ofOffset_line (a x : Nat) : (ofOffset a x).line = a := rfl

@[simp] theorem ofOffset_column (a x : Nat) : (ofOffset a x).column = .char x := rfl

theorem ofOffset_inj {a b x y : Nat} : ofOffset a x = ofOffset b y ↔ a = b ∧ x = y := by
  simp [ofOffset]

end Position

theorem Range.between_start_le_stop (p q : Position) :
    (Range.between p q).start ≤ (Range.between p q).stop := by
  unfold Range.between
  split
  · next h => exact h
  · next h => exact (Position.le_total p q).resolve_left h

namespace Document

variable {d : Document}

/-- The text of a line, empty beyond the document. -/
def lineText (d : Document) (n : Nat) : Text := (d.line? n).getD []

theorem lineLength_eq (d : Document) (n : Nat) : d.lineLength n = (d.lineText n).length := by
  unfold lineLength lineText
  cases d.line? n <;> rfl

theorem lineText_of_lt {n : Nat} (h : n < d.lines.length) : d.lineText n = d.lines[n] := by
  simp [lineText, line?, h]

theorem lineLength_of_empty (h : d.lineCount = 0) (n : Nat) : d.lineLength n = 0 := by
  have hlines : d.lines = [] := List.length_eq_zero_iff.mp h
  simp [lineLength, line?, hlines]

theorem lt_lineCount_of_le {n : Nat} (h : n ≤ d.lastLine) (hne : d.lines ≠ []) :
    n < d.lines.length := by
  have hpos : 0 < d.lines.length := List.length_pos_iff.mpr hne
  simp only [lastLine, lineCount] at h
  omega

/-! ## Positions and ranges inside a document -/

/-- A counted position on a line of the document, or the start of a document without lines. -/
def Inside (d : Document) (p : Position) : Prop :=
  ∃ line offset, p = .ofOffset line offset ∧ line ≤ d.lastLine ∧ offset ≤ d.lineLength line

/-- The end of a line, as a counted position. -/
def lineStop (d : Document) (line : Nat) : Position := .ofOffset line (d.lineLength line)

@[simp] theorem lineStop_line (d : Document) (line : Nat) : (d.lineStop line).line = line := rfl

theorem inside_ofOffset {line offset : Nat} (hline : line ≤ d.lastLine)
    (hoffset : offset ≤ d.lineLength line) : d.Inside (.ofOffset line offset) :=
  ⟨line, offset, rfl, hline, hoffset⟩

theorem inside_lineStop {line : Nat} (hline : line ≤ d.lastLine) : d.Inside (d.lineStop line) :=
  inside_ofOffset hline (Nat.le_refl _)

theorem Inside.line_le {p : Position} (h : d.Inside p) : p.line ≤ d.lastLine := by
  obtain ⟨line, offset, rfl, hline, -⟩ := h
  exact hline

/-- Positions up to a line lie before the end of that line. -/
theorem Inside.le_lineStop {p : Position} (h : d.Inside p) {line : Nat} (hline : p.line ≤ line) :
    p ≤ d.lineStop line := by
  obtain ⟨n, offset, rfl, -, hoffset⟩ := h
  rw [lineStop, Position.ofOffset_le_ofOffset]
  rcases Nat.lt_or_eq_of_le hline with hlt | rfl
  · exact .inl hlt
  · exact .inr ⟨rfl, hoffset⟩

/-- A line starts before all positions on it and on later lines. -/
theorem Inside.lineStart_le {p : Position} (h : d.Inside p) {line : Nat} (hline : line ≤ p.line) :
    Position.ofOffset line 0 ≤ p := by
  obtain ⟨n, offset, rfl, -, -⟩ := h
  rw [Position.ofOffset_le_ofOffset]
  rcases Nat.lt_or_eq_of_le hline with hlt | rfl
  · exact .inl hlt
  · exact .inr ⟨rfl, Nat.zero_le _⟩

theorem within_le (length : Nat) (c : Column) : c.within length ≤ length := by
  cases c with
  | char offset => exact Nat.min_le_right _ _
  | lineEnd => exact Nat.le_refl _

theorem inside_clampPosition (d : Document) (p : Position) : d.Inside (d.clampPosition p) := by
  unfold clampPosition
  split
  · exact inside_ofOffset (Nat.zero_le _) (Nat.zero_le _)
  split
  · exact inside_lineStop (Nat.le_refl _)
  · refine inside_ofOffset ?_ (within_le _ _)
    simp only [lastLine]
    omega

theorem clampPosition_of_inside {p : Position} (h : d.Inside p) : d.clampPosition p = p := by
  obtain ⟨line, offset, rfl, hline, hoffset⟩ := h
  unfold clampPosition
  simp only [lastLine] at hline
  split
  · next hzero =>
      obtain rfl : line = 0 := by omega
      rw [lineLength_of_empty hzero] at hoffset
      obtain rfl : offset = 0 := by omega
      rfl
  split
  · next hzero hbeyond =>
      simp only [Position.ofOffset_line] at hbeyond
      omega
  · simp [Column.within, Nat.min_eq_left hoffset]

theorem clampPosition_line {p : Position} (hp : p.line < d.lineCount) :
    (d.clampPosition p).line = p.line := by
  have hcount : d.lineCount ≠ 0 := by omega
  simp only [clampPosition, if_neg hcount, if_neg (Nat.not_le_of_lt hp), Position.ofOffset_line]

theorem within_mono (length : Nat) {a b : Column} (h : a ≤ b) :
    a.within length ≤ b.within length := by
  change Column.le a b = true at h
  cases b with
  | lineEnd => exact within_le _ _
  | char y =>
      cases a with
      | lineEnd => cases h
      | char x =>
          simp only [Column.le, decide_eq_true_eq] at h
          simp only [Column.within]
          omega

theorem clampPosition_mono (d : Document) {p q : Position} (h : p ≤ q) :
    d.clampPosition p ≤ d.clampPosition q := by
  have hp := d.inside_clampPosition p
  rcases Nat.lt_or_ge q.line d.lineCount with hq | hq
  · have hcount : d.lineCount ≠ 0 := by omega
    have hline := Position.line_le h
    simp only [clampPosition, if_neg hcount, if_neg (Nat.not_le_of_lt hq),
      if_neg (Nat.not_le_of_lt (Nat.lt_of_le_of_lt hline hq)), Position.ofOffset_le_ofOffset]
    rcases Position.le_iff.mp h with hlt | ⟨heq, hcolumn⟩
    · exact .inl hlt
    · exact .inr ⟨heq, heq ▸ within_mono _ hcolumn⟩
  · -- beyond the document a position is clamped to its very end
    by_cases hcount : d.lineCount = 0
    · simp only [clampPosition, if_pos hcount]
      exact Position.le_refl _
    · rw [clampPosition.eq_def d q, if_neg hcount, if_pos hq]
      exact hp.le_lineStop hp.line_le

/-- A range between two positions inside the document. -/
structure Fits (d : Document) (r : Range) : Prop where
  start : d.Inside r.start
  stop : d.Inside r.stop
  le : r.start ≤ r.stop

theorem Inside.fits_refl {p : Position} (hp : d.Inside p) : d.Fits ⟨p, p⟩ :=
  ⟨hp, hp, Position.le_refl p⟩

theorem fits_between {p q : Position} (hp : d.Inside p) (hq : d.Inside q) :
    d.Fits (.between p q) := by
  unfold Range.between
  split
  · next h => exact ⟨hp, hq, h⟩
  · next h => exact ⟨hq, hp, (Position.le_total p q).resolve_left h⟩

theorem fits_clamp (d : Document) (r : Range) : d.Fits (d.clamp r) :=
  fits_between (inside_clampPosition d _) (inside_clampPosition d _)

theorem between_of_le {p q : Position} (h : p ≤ q) : Range.between p q = ⟨p, q⟩ := by
  simp [Range.between, h]

theorem clamp_of_le (d : Document) {r : Range} (h : r.start ≤ r.stop) :
    d.clamp r = ⟨d.clampPosition r.start, d.clampPosition r.stop⟩ :=
  between_of_le (d.clampPosition_mono h)

theorem clamp_caret (d : Document) (p : Position) :
    d.clamp (.caret p) = .caret (d.clampPosition p) :=
  between_of_le (Position.le_refl _)

theorem clamp_of_fits {r : Range} (h : d.Fits r) : d.clamp r = r := by
  rw [clamp, clampPosition_of_inside h.start, clampPosition_of_inside h.stop, between_of_le h.le]

@[simp] theorem clamp_clamp (d : Document) (r : Range) : d.clamp (d.clamp r) = d.clamp r :=
  clamp_of_fits (fits_clamp d r)

theorem Fits.line_le {r : Range} (h : d.Fits r) : r.start.line ≤ r.stop.line :=
  Position.line_le h.le

theorem Fits.trans {p q r : Position} (hpq : d.Fits ⟨p, q⟩) (hqr : d.Fits ⟨q, r⟩) :
    d.Fits ⟨p, r⟩ :=
  ⟨hpq.start, hqr.stop, Position.le_trans hpq.le hqr.le⟩

@[simp] theorem slice_clamp (d : Document) (r : Range) : d.slice (d.clamp r) = d.slice r := by
  simp [slice]

/-! ## The text before a position -/

/-- The text of the document up to a position. -/
def before (d : Document) (p : Position) : Text :=
  Text.ended (d.lines.take p.line) ++
    (d.lineText p.line).take (p.column.within (d.lineLength p.line))

/-- What comes before a position are newlines and characters of lines. -/
theorem mem_before {p : Position} {x : Char} (hx : x ∈ d.before p) :
    x = '\n' ∨ ∃ line ∈ d.lines, x ∈ line := by
  rw [before, List.mem_append, Text.ended, List.mem_flatMap] at hx
  rcases hx with ⟨line, hline, hx⟩ | hx
  · rcases List.mem_append.mp hx with hx | hx
    · exact .inr ⟨line, List.mem_of_mem_take hline, hx⟩
    · exact .inl (List.mem_singleton.mp hx)
  · right
    have hmem := List.mem_of_mem_take hx
    unfold lineText line? at hmem
    cases hline : d.lines[p.line]? with
    | none => simp [hline] at hmem
    | some line => exact ⟨line, List.mem_of_getElem? hline, by simpa [hline] using hmem⟩

theorem before_lineStart (d : Document) (line : Nat) :
    d.before (.ofOffset line 0) = Text.ended (d.lines.take line) := by
  simp [before, Column.within]

theorem before_lineStop (d : Document) (line : Nat) :
    d.before (d.lineStop line) = Text.ended (d.lines.take line) ++ d.lineText line := by
  have htake : (d.lineText line).take (d.lineLength line) = d.lineText line := by
    rw [lineLength_eq, List.take_length]
  simp [before, lineStop, Column.within, htake]

theorem take_succ_eq {line : Nat} (h : line < d.lineCount) :
    d.lines.take (line + 1) = d.lines.take line ++ [d.lineText line] := by
  rw [List.take_succ_eq_append_getElem h, lineText_of_lt h]

/-- A line starts after the newline that ends the line before it. -/
theorem before_nextLine {line : Nat} (h : line < d.lineCount) :
    d.before (.ofOffset (line + 1) 0) = d.before (d.lineStop line) ++ ['\n'] := by
  rw [before_lineStart, before_lineStop, take_succ_eq h]
  simp

theorem sliceLines_cons (low high : Nat) (x : Text) {xs : List Text} (h : xs ≠ []) :
    sliceLines low high (x :: xs) = x.drop low ++ '\n' :: sliceLines 0 high xs := by
  cases xs with
  | nil => exact absurd rfl h
  | cons y ys => rfl

/-- A slice is completed by what its first line has in front of it. -/
theorem take_append_sliceLines (low high : Nat) (init : List Text) (last : Text)
    (hle : init = [] → low ≤ high) :
    ((init ++ [last]).headD []).take low ++ sliceLines low high (init ++ [last]) =
      Text.ended init ++ last.take high := by
  induction init generalizing low with
  | nil =>
      have hsplit := List.take_add (l := last) (i := low) (j := high - low)
      rw [Nat.add_sub_cancel' (hle rfl)] at hsplit
      simp [sliceLines, hsplit]
  | cons x xs ih =>
      have hrest := ih 0 fun _ => Nat.zero_le _
      rw [List.take_zero, List.nil_append] at hrest
      rw [List.cons_append, sliceLines_cons low high x (by simp), hrest, List.headD_cons,
        ← List.append_assoc, List.take_append_drop]
      simp

/-- The lines from `a` to `b` end with line `b`. -/
theorem take_drop_eq {a b : Nat} (hab : a ≤ b) (hb : b < d.lineCount) :
    (d.lines.drop a).take (b - a + 1) = (d.lines.drop a).take (b - a) ++ [d.lineText b] := by
  have hlt : b - a < (d.lines.drop a).length := by
    rw [List.length_drop]
    change b < d.lines.length at hb
    omega
  rw [List.take_succ_eq_append_getElem hlt, List.getElem_drop, lineText_of_lt hb]
  simp only [Nat.add_sub_cancel' hab]
  rfl

/-- The text of a range takes the text before its start to the text before its end. -/
theorem before_append_slice {r : Range} (h : d.Fits r) :
    d.before r.start ++ d.slice r = d.before r.stop := by
  obtain ⟨⟨a, x, ha, hla, hx⟩, ⟨b, y, hb, hlb, hy⟩, hle⟩ := id h
  have hab := h.line_le
  rw [ha, hb, Position.ofOffset_le_ofOffset] at hle
  simp only [slice, clamp_of_fits h, before, Range.lineCount]
  simp only [ha, hb, Position.ofOffset_line, Position.ofOffset_column, Column.within,
    Nat.min_eq_left hx, Nat.min_eq_left hy] at hab ⊢
  by_cases hlines : d.lines = []
  · simp [hlines, lineText, line?, sliceLines]
  have hb' : b < d.lineCount := lt_lineCount_of_le hlb hlines
  have hhead : ((d.lines.drop a).take (b - a) ++ [d.lineText b]).headD [] = d.lineText a := by
    rw [← take_drop_eq hab hb', lineText, line?]
    simp [List.headD_eq_head?_getD, List.head?_take, List.head?_drop]
  have hone : (d.lines.drop a).take (b - a) = [] → x ≤ y := by
    intro hnil
    have hlength := congrArg List.length hnil
    change b < d.lines.length at hb'
    simp only [List.length_take, List.length_drop, List.length_nil] at hlength
    omega
  rw [take_drop_eq hab hb', List.append_assoc, ← hhead, take_append_sliceLines x y _ _ hone,
    ← List.append_assoc, ← Text.ended_append, ← List.take_add, Nat.add_sub_cancel' hab]

theorem slice_append_slice {p q r : Position} (hpq : d.Fits ⟨p, q⟩) (hqr : d.Fits ⟨q, r⟩) :
    d.slice ⟨p, q⟩ ++ d.slice ⟨q, r⟩ = d.slice ⟨p, r⟩ := by
  have hall : d.before p ++ (d.slice ⟨p, q⟩ ++ d.slice ⟨q, r⟩) = d.before p ++ d.slice ⟨p, r⟩ := by
    rw [before_append_slice (hpq.trans hqr), ← List.append_assoc, before_append_slice hpq,
      before_append_slice hqr]
  exact List.append_cancel_left hall

theorem slice_refl {p : Position} (hp : d.Inside p) : d.slice ⟨p, p⟩ = [] := by
  have hbefore := before_append_slice hp.fits_refl
  rwa [List.append_right_eq_self] at hbefore

end Document

end BlockOrder
