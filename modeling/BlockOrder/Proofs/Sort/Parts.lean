import BlockOrder.Proofs.Blocks.Inner
import BlockOrder.Proofs.Blocks.Layout
import BlockOrder.Proofs.Sort.Nesting

/-!
# The parts of a block

What the inner blocks of a block are depends on its lines alone.  Cutting a block of whole lines
leaves the lines before its inner blocks, the lines of these, and the lines after them.
-/

namespace BlockOrder

namespace Blocks

variable {c : Classifier} {ls : List Text} {s : LineSpan}

/-- The first of some lines that are not blank starts a block. -/
theorem tile_ne_nil {f : LineFacts} (hf : f.isBlank = false) (first last : Nat)
    (rest : List (Option LineFacts)) : tile first last (some f :: rest) ≠ [] := by
  unfold tile
  dsimp only
  cases starts f.indent (Gathered.first f) f.folding (first + 1) rest with
  | nil => simp [spans, hf]
  | cons t ss =>
      cases ss with
      | nil =>
          rw [spans]
          split <;> simp
      | cons u ss => exact List.cons_ne_nil _ _

theorem deeperRun_shift (n indent line : Nat) (run : Option LineSpan) (fs : List LineFacts) :
    deeperRun indent (line + n) (run.map (shift n)) fs =
      (deeperRun indent line run fs).map (shift n) := by
  induction fs generalizing line run with
  | nil => rfl
  | cons f fs ih =>
      simp only [deeperRun, Nat.add_right_comm line n 1]
      split
      · exact ih _ _
      split
      · cases run with
        | none => exact ih _ none
        | some s => rfl
      · cases run with
        | none => exact ih _ (some ⟨line, line⟩)
        | some s => exact ih _ (some ⟨s.first, line⟩)

/-- The lines of the inner blocks of a block. -/
def innerSpan? (c : Classifier) (ls : List Text) : Option LineSpan :=
  let facts := ls.map (LineFacts.compute c)
  (IndentRange.ofLines? true facts).bind fun indent => deeperRun indent.least 0 none facts

theorem exists_of_innerSpan? (h : innerSpan? c ls = some s) :
    s.first ≤ s.last ∧ s.last < ls.length ∧
      ∃ line, ls[s.first]? = some line ∧ line.isBlank = false := by
  obtain ⟨indent, -, hrun⟩ := Option.bind_eq_some_iff.mp h
  have hwithin := deeperRun_within hrun (Nat.le_refl 0) (by simp)
  rw [Nat.zero_add, List.length_map] at hwithin
  obtain ⟨-, hle, hlast⟩ := hwithin
  have hfacts : ls.map (LineFacts.compute c) =
      (List.range' 0 ls.length).map fun n => LineFacts.compute c (ls.getD n []) := by
    apply List.ext_getElem (by simp)
    intro i hi _
    have hi : i < ls.length := by simpa using hi
    simp [hi]
  rw [hfacts] at hrun
  refine ⟨hle, hlast, _, List.getElem?_eq_getElem (Nat.lt_of_le_of_lt hle hlast), ?_⟩
  rcases deeperRun_cases (found_none _ 0 indent.least) (Nat.le_refl 0)
      (show 0 + ls.length = ls.length - 1 + 1 by omega) with ⟨hnone, -⟩ | ⟨run, hsome, hdeeper⟩
  · rw [hnone] at hrun
    cases hrun
  · obtain rfl := Option.some.inj (hsome.symm.trans hrun)
    have hblank := hdeeper.notBlank.1
    rwa [List.getD_eq_getElem?_getD, List.getElem?_eq_getElem (Nat.lt_of_le_of_lt hle hlast),
      Option.getD_some] at hblank

theorem innerSpan?_singleton (line : Text) : innerSpan? c [line] = none := by
  simp only [innerSpan?, List.map_cons, List.map_nil, IndentRange.ofLines?, IndentRange.from?]
  split
  · rfl
  · next hskip =>
      have hblank : (LineFacts.compute c line).isBlank = false := by
        cases h : (LineFacts.compute c line).isBlank with
        | false => rfl
        | true => simp [h] at hskip
      simp [deeperRun, hblank, IndentRange.include?]

/-- A block as the lines of its inner blocks with the lines before and after them. -/
structure Parts where
  head : List Text
  inner : List Text
  tail : List Text

def parts? (c : Classifier) (ls : List Text) : Option Parts :=
  (innerSpan? c ls).map fun s =>
    ⟨ls.take s.first, linesAt ls s, ls.drop (s.last + 1)⟩

theorem append_of_parts? {p : Parts} (h : parts? c ls = some p) :
    p.head ++ p.inner ++ p.tail = ls ∧ p.inner ≠ [] := by
  obtain ⟨s, hs, rfl⟩ := Option.map_eq_some_iff.mp h
  obtain ⟨hle, hlast, -⟩ := exists_of_innerSpan? hs
  have hdrop : ls.drop (s.last + 1) = (ls.drop s.first).drop (s.last + 1 - s.first) := by
    rw [List.drop_drop, Nat.add_sub_cancel' (Nat.le_succ_of_le hle)]
  constructor
  · dsimp only [linesAt]
    rw [hdrop, List.append_assoc, List.take_append_drop, List.take_append_drop]
  · rw [← List.length_pos_iff]
    simp only [linesAt, List.length_take, List.length_drop]
    omega

end Blocks

namespace Split

variable {d : Document}

theorem changeFirst_eq_self {f : Range → Range} {p q : Position} {ranges : List Range}
    (h : d.Runs q p ranges) (hf : ∀ r : Range, r.start = p → f r = r) :
    changeFirst f ranges = ranges := by
  cases h with
  | one _ => rw [changeFirst, hf _ rfl]
  | cons _ _ _ => rw [changeFirst, hf _ rfl]

theorem changeLast_eq_self {f : Range → Range} {p q : Position} {ranges : List Range}
    (h : d.Runs q p ranges) (hf : ∀ r : Range, r.stop = q → f r = r) :
    changeLast f ranges = ranges := by
  induction h with
  | one _ => rw [changeLast, hf _ rfl]
  | cons _ _ runs ih =>
      obtain ⟨r, rest, rfl⟩ := List.exists_cons_of_ne_nil runs.ne_nil
      rw [changeLast, ih]
      simp

/-- Nothing has to be clipped of inner blocks inside a block. -/
theorem of?_eq_some {a b p q : Position} {ranges : List Range} (h : d.Runs q p ranges)
    (ha : a ≤ p) (hb : q ≤ b) : of? ⟨a, b⟩ ranges = some ⟨⟨a, p⟩, ranges, ⟨q, b⟩⟩ := by
  have hlater : p.later a = p := by
    unfold Position.later
    split
    · next hle => exact Position.le_antisymm ha hle
    · rfl
  have hearlier : q.earlier b = q := if_pos hb
  have hfirst : changeFirst (fun r => { r with start := r.start.later a }) ranges = ranges :=
    changeFirst_eq_self h fun r hr => by rw [hr, hlater, ← hr]
  have hlast : changeLast (fun r => { r with stop := r.stop.earlier b }) ranges = ranges :=
    changeLast_eq_self h fun r hr => by rw [hr, hearlier, ← hr]
  obtain ⟨r, hr, rfl⟩ := h.head_start
  obtain ⟨r', hr', rfl⟩ := h.last_stop
  simp only [of?, hfirst, hlast, hr, hr', Document.between_of_le ha, Document.between_of_le hb]

end Split

namespace Document

variable {d : Document} {n i : Nat} {ls : List Text}

theorem take_drop_of_isPrefix (h : ls <+: d.lines.drop n) (hi : i ≤ ls.length) :
    (d.lines.drop n).take i = ls.take i := by
  rw [List.prefix_iff_eq_take.mp h, List.take_take, Nat.min_eq_left hi]

theorem slice_head (h : ls <+: d.lines.drop n) (hi : i < ls.length) :
    d.slice ⟨.ofOffset n 0, .ofOffset (n + i) 0⟩ = Text.ended (ls.take i) := by
  have hne := List.length_pos_iff.mp (Nat.zero_lt_of_lt hi)
  obtain ⟨-, hlast, -⟩ := lines_of_isPrefix h hne
  have hfits : d.Fits ⟨.ofOffset n 0, .ofOffset (n + i) 0⟩ := by
    refine ⟨inside_ofOffset (by omega) (Nat.zero_le _),
      inside_ofOffset (by omega) (Nat.zero_le _), ?_⟩
    rw [Position.ofOffset_le_ofOffset]
    omega
  have hslice := before_append_slice hfits
  rw [before_lineStart, before_lineStart, List.take_add,
    take_drop_of_isPrefix h (Nat.le_of_lt hi), Text.ended_append] at hslice
  exact List.append_cancel_left hslice

theorem before_lineStop_of_isPrefix (h : ls <+: d.lines.drop n) (hi : i < ls.length) :
    d.before (d.lineStop (n + i)) =
      Text.ended (d.lines.take n) ++ Text.unlines (ls.take (i + 1)) := by
  obtain ⟨-, -, hcount⟩ := lines_of_isPrefix h (List.length_pos_iff.mp (Nat.zero_lt_of_lt hi))
  have hline : d.lineText (n + i) = ls[i] := by
    have hget := List.prefix_iff_getElem?.mp h i hi
    rw [List.getElem?_drop] at hget
    rw [lineText, line?, hget]
    rfl
  have hlines := Text.unlines_append_cons (ls.take i) ls[i] []
  rw [Text.begun_nil, List.append_nil] at hlines
  rw [before_lineStop, List.take_add, take_drop_of_isPrefix h (Nat.le_of_lt hi),
    Text.ended_append, hline, List.take_succ_eq_append_getElem hi, hlines, List.append_assoc]

theorem slice_tail (h : ls <+: d.lines.drop n) (hi : i < ls.length) :
    d.slice ⟨d.lineStop (n + i), d.lineStop (n + ls.length - 1)⟩ =
      Text.begun (ls.drop (i + 1)) := by
  obtain ⟨-, hlast, -⟩ := lines_of_isPrefix h (List.length_pos_iff.mp (Nat.zero_lt_of_lt hi))
  have hstop : d.Inside (d.lineStop (n + i)) := inside_lineStop (by omega)
  have hfits : d.Fits ⟨d.lineStop (n + i), d.lineStop (n + ls.length - 1)⟩ :=
    ⟨hstop, inside_lineStop hlast, hstop.le_lineStop (by rw [lineStop_line]; omega)⟩
  have hslice := before_append_slice hfits
  have htake : ls.take (i + 1) ≠ [] := by
    simp [List.take_eq_nil_iff, List.length_pos_iff.mp (Nat.zero_lt_of_lt hi)]
  have hlines := Text.unlines_append_append [] htake (ls.drop (i + 1))
  rw [List.nil_append, List.take_append_drop, Text.ended_nil, List.nil_append] at hlines
  rw [before_lineStop_of_isPrefix h hi, show n + ls.length - 1 = n + (ls.length - 1) by omega,
    before_lineStop_of_isPrefix h (show ls.length - 1 < ls.length by omega),
    Nat.sub_add_cancel (Nat.zero_lt_of_lt hi), List.take_length, hlines, List.append_assoc]
    at hslice
  rw [show n + ls.length - 1 = n + (ls.length - 1) by omega]
  exact List.append_cancel_left (List.append_cancel_left hslice)

/-- The inner blocks of a block run through the lines of its first deeper run. -/
theorem runs_blocksIn {c : Classifier} {s : LineSpan} (h : ls <+: d.lines.drop n)
    (hs : Blocks.innerSpan? c ls = some s) :
    d.Runs (d.lineStop (n + s.last)) (.ofOffset (n + s.first) 0)
      (d.blocksIn c (n + s.first) (n + s.last)) := by
  obtain ⟨horder, hwithin, line, hline, hblank⟩ := Blocks.exists_of_innerSpan? hs
  obtain ⟨hne, hprefix, hstop⟩ := linesAt_of_isPrefix h ⟨horder, hwithin⟩
  have hhead : (Blocks.linesAt ls s)[0]? = some line := by
    rw [Blocks.linesAt, List.getElem?_take_of_lt (by omega), List.getElem?_drop, Nat.add_zero,
      hline]
  generalize Blocks.linesAt ls s = inner at hne hprefix hstop hhead
  obtain ⟨more, rfl⟩ : ∃ more, inner = line :: more := by
    cases inner with
    | nil => cases hhead
    | cons x more => exact ⟨more, by rw [Option.some.inj hhead]⟩
  obtain ⟨hle, hlast, -⟩ := lines_of_isPrefix hprefix hne
  rw [hstop, blocksIn, factsOf_of_isPrefix c hprefix hne]
  refine (Blocks.tile_map_eq_nil_or_runs hle hlast ?_).resolve_left ?_
  · rw [List.length_map, List.length_cons]
    omega
  · rw [List.map_eq_nil_iff]
    exact Blocks.tile_ne_nil (f := LineFacts.compute c line) hblank _ _ _

/-- A block with inner blocks has several lines, and is cut where its inner blocks are. -/
theorem of?_blocksIn {c : Classifier} {s : LineSpan} (h : ls <+: d.lines.drop n)
    (hs : Blocks.innerSpan? c ls = some s) :
    (d.lineRange n (n + ls.length - 1)).isSingleLine = false ∧
      Split.of? (d.lineRange n (n + ls.length - 1)) (d.blocksIn c (n + s.first) (n + s.last)) =
        some ⟨⟨.ofOffset n 0, .ofOffset (n + s.first) 0⟩,
          d.blocksIn c (n + s.first) (n + s.last),
          ⟨d.lineStop (n + s.last), d.lineStop (n + ls.length - 1)⟩⟩ := by
  obtain ⟨horder, hwithin, -⟩ := Blocks.exists_of_innerSpan? hs
  obtain ⟨hle, hlast, -⟩ := lines_of_isPrefix h (List.length_pos_iff.mp (Nat.zero_lt_of_lt hwithin))
  rw [lineRange_eq hle hlast]
  constructor
  · rw [Range.isSingleLine, Position.ofOffset_line, lineStop_line, beq_eq_false_iff_ne]
    intro hsingle
    obtain ⟨line, rfl⟩ := List.length_eq_one_iff.mp (show ls.length = 1 by omega)
    rw [Blocks.innerSpan?_singleton] at hs
    cases hs
  · apply Split.of?_eq_some (runs_blocksIn h hs)
    · rw [Position.ofOffset_le_ofOffset]
      omega
    · have hstop : d.Inside (d.lineStop (n + s.last)) := inside_lineStop (by omega)
      exact hstop.le_lineStop (by rw [lineStop_line]; omega)

end Document

namespace Workspace

variable {w : Workspace} {n : Nat} {ls : List Text}

/-- The inner blocks of a block of whole lines. -/
theorem innerBlocks_yields (hw : w.cancelled = false) (h : ls <+: w.document.lines.drop n)
    (hne : ls ≠ []) :
    Yields w.Faithful (w.innerBlocks (w.document.lineRange n (n + ls.length - 1)))
      (((Blocks.innerSpan? w.classifier ls).map fun s =>
        w.document.blocksIn w.classifier (n + s.first) (n + s.last)).getD []) w.Faithful := by
  obtain ⟨hle, hlast, hcount⟩ := Document.lines_of_isPrefix h hne
  have hfits := Document.fits_lines (d := w.document) hle hlast
  unfold innerBlocks
  dsimp only
  rw [Document.lineRange_eq hle hlast, Document.clamp_of_fits hfits, Position.ofOffset_line,
    Document.lineStop_line]
  refine ((lines_yields hw n _).mono (fun _ hc => hc) fun _ hc => hc.1).bind ?_
  have hfacts : (ls.map fun line => some (LineFacts.compute w.classifier line)).filterMap id =
      ls.map (LineFacts.compute w.classifier) := by
    rw [List.filterMap_map]
    exact congrFun (List.filterMap_eq_map (f := LineFacts.compute w.classifier)) ls
  rw [Document.factsOf_of_isPrefix w.classifier h hne, hfacts]
  unfold Blocks.innerSpan?
  dsimp only
  cases IndentRange.ofLines? true (ls.map (LineFacts.compute w.classifier)) with
  | none => exact .pure _
  | some indent =>
      have hshift := Blocks.deeperRun_shift n indent.least 0 none
        (ls.map (LineFacts.compute w.classifier))
      rw [Nat.zero_add, Option.map_none] at hshift
      simp only [check_of_not_cancelled hw, pure_bind, hshift, Option.bind_some]
      cases hrun : Blocks.deeperRun indent.least 0 none
          (ls.map (LineFacts.compute w.classifier)) with
      | none => exact .pure _
      | some run =>
          have hwithin := Blocks.deeperRun_within hrun (Nat.le_refl 0) (by simp)
          rw [Nat.zero_add, List.length_map] at hwithin
          obtain ⟨-, horder, hwithin⟩ := hwithin
          have hblocks := blocks_yields hw (.lines (run.first + n) (run.last + n))
          have hclamp : w.document.clamp (.lines (run.first + n) (run.last + n)) = _ :=
            Document.lineRange_eq (Nat.add_le_add_right horder n) (by omega)
          rw [hclamp, Position.ofOffset_line, Document.lineStop_line, Nat.add_comm _ n,
            Nat.add_comm _ n] at hblocks
          simp only [Option.map_some, Blocks.shift, Nat.add_comm _ n]
          exact hblocks

end Workspace

end BlockOrder
