import BlockOrder.Proofs.Blocks.Growth
import BlockOrder.Proofs.Blocks.Margins
import BlockOrder.Proofs.Sort.Settled
import BlockOrder.Proofs.Sort.Transparency

/-!
# Sorting a document level by level

A document is sorted without the blank lines at its ends.  What comes out is given by the lines
alone: the blocks in order, each of them with its inner blocks in order.
-/

namespace BlockOrder

namespace Document

variable {d : Document}

theorem exists_trimRange_whole (hne : d.lines ≠ []) :
    ∃ n ls, ls ≠ [] ∧ ls <+: d.lines.drop n ∧
      d.trimRange d.whole = d.lineRange n (n + ls.length - 1) := by
  obtain ⟨a, b, hab, hb, htrim, -⟩ :=
    exists_trimRange (d := d) (Nat.zero_le d.lastLine) (Nat.le_refl _)
  have hlength : ((d.lines.drop a).take (b + 1 - a)).length = b + 1 - a := by
    have hcount : b < d.lines.length := lt_lineCount_of_le hb hne
    rw [List.length_take, List.length_drop]
    omega
  refine ⟨a, (d.lines.drop a).take (b + 1 - a), ?_, List.take_prefix _ _, ?_⟩
  · rw [← List.length_pos_iff, hlength]
    omega
  · rw [lineRange, trimRange_clamp] at htrim
    rw [hlength, show a + (b + 1 - a) - 1 = b by omega]
    exact htrim

theorem clamp_of_isPrefix {n : Nat} {ls : List Text} (h : ls <+: d.lines.drop n) (hne : ls ≠ []) :
    d.clamp (d.lineRange n (n + ls.length - 1)) = d.lineRange n (n + ls.length - 1) := by
  obtain ⟨hle, hlast, -⟩ := lines_of_isPrefix h hne
  rw [lineRange_eq hle hlast, clamp_of_fits (fits_lines hle hlast)]

theorem lines_unlines_of_isPrefix {n : Nat} {ls : List Text} (hd : d.Plain)
    (h : ls <+: d.lines.drop n) (hne : ls ≠ []) : (Text.unlines ls).lines = ls := by
  apply Text.lines_unlines hne
  intro line hline hmem
  have hbreak := hd line (List.mem_of_mem_drop (h.subset hline)) _ hmem
  exact absurd hbreak (by decide)

/-- The blocks of a document without the blank lines at its ends. -/
def blocks (d : Document) (c : Classifier) : List Range :=
  d.blocksIn c (d.trimRange d.whole).start.line (d.trimRange d.whole).stop.line

def texts (d : Document) (c : Classifier) : List Text := (d.blocks c).map d.slice

/-- The text of a document without the blank lines at its ends, its blocks in order. -/
def sortedText (d : Document) (c : Classifier) (k : KeyOrder) (depth : Depth) : Text :=
  if (d.texts c).isEmpty then d.slice (d.trimRange d.whole)
  else Text.unlines (Arrange.sortedLevel c k d.lineCount depth (d.texts c))

variable {n : Nat} {ls : List Text}

theorem blocks_of_isPrefix (c : Classifier) (h : ls <+: d.lines.drop n) (hne : ls ≠ [])
    (htrim : d.trimRange d.whole = d.lineRange n (n + ls.length - 1)) :
    d.blocks c = d.blocksIn c n (n + ls.length - 1) := by
  obtain ⟨hle, hlast, -⟩ := lines_of_isPrefix h hne
  rw [blocks, htrim, lineRange_eq hle hlast]
  rfl

theorem texts_of_isPrefix (c : Classifier) (h : ls <+: d.lines.drop n) (hne : ls ≠ [])
    (htrim : d.trimRange d.whole = d.lineRange n (n + ls.length - 1)) :
    d.texts c = Blocks.textsOf c ls := by
  rw [texts, blocks_of_isPrefix c h hne htrim, slices_blocksIn c h hne]

end Document

namespace Workspace

variable {w : Workspace} {k : KeyOrder} {l : Level} {n : Nat} {ls : List Text} {α : Type}

/-- What is the case for every cache is the case for the result that all faithful ones give. -/
theorem Transparent.exists_yields {x : Work α} {P : α → Prop} (hx : w.Transparent x)
    (hw : w.cancelled = false) (hP : Returns x P) :
    ∃ a, P a ∧ Yields w.Faithful x a w.Faithful := by
  obtain ⟨a, -, ha⟩ := hx.steady hw ()
  -- the empty cache is faithful, so what it gives is what all of them give
  obtain ⟨a', c', hok, hP'⟩ := hP .empty
  obtain ⟨c'', hok', -⟩ := ha .empty (LineCache.faithful_empty _ _)
  rw [hok] at hok'
  cases hok'
  exact ⟨a, hP', ha⟩

/-- A whole document is selected without the blank lines at its ends. -/
theorem select_yields (hw : w.cancelled = false) (e : Expansion) :
    Yields w.Faithful (w.select w.document.whole e) (w.document.trimRange w.document.whole)
      w.Faithful := by
  obtain ⟨r, hr, hyields⟩ := (transparent_expand w w.document.whole e).exists_yields hw
    (expand_returns hw w.document.whole e)
  obtain ⟨first, last, hfirst, hstop, -, hlast, rfl⟩ := hr
  have hclamp : w.document.clamp w.document.whole =
      w.document.lineRange 0 w.document.lastLine := rfl
  have hwhole := Document.lineRange_eq (d := w.document) (Nat.zero_le w.document.lastLine)
    (Nat.le_refl _)
  rw [hclamp, hwhole] at hfirst hstop
  obtain rfl : first = 0 := Nat.le_zero.mp hfirst
  obtain rfl : last = w.document.lastLine := Nat.le_antisymm hlast hstop
  rw [← hclamp] at hyields
  rw [← Document.trimRange_clamp]
  exact hyields.bind (.pure _)

theorem blocksIn_yields (hw : w.cancelled = false) (hls : ls <+: w.document.lines.drop n)
    (hne : ls ≠ []) :
    Yields w.Faithful (w.blocks (w.document.lineRange n (n + ls.length - 1)))
      (w.document.blocksIn w.classifier n (n + ls.length - 1)) w.Faithful := by
  obtain ⟨hle, hlast, -⟩ := Document.lines_of_isPrefix hls hne
  have hblocks := blocks_yields hw ⟨.ofOffset n 0, w.document.lineStop (n + ls.length - 1)⟩
  rw [Document.clamp_of_fits (Document.fits_lines hle hlast)] at hblocks
  rw [Document.lineRange_eq hle hlast]
  exact hblocks

theorem ofWork_yields {x : Work α} {a : α} (hx : Yields w.Faithful x a w.Faithful)
    (i : Pending × Draws) : Yields (w.SortsWith i) (SortStep.ofWork x) a (w.SortsWith i) := by
  rintro ⟨c, p, draws⟩ ⟨hc, hi⟩
  obtain ⟨c', hok, hc'⟩ := hx c hc
  refine ⟨⟨c', p, draws⟩, ?_, hc', hi⟩
  unfold SortStep.ofWork
  rw [hok]

theorem copied_yields (hw : w.cancelled = false) (r : Range) :
    Yields (w.SortsWith (.none, none)) (w.editedText r) (w.document.slice r)
      (w.SortsWith (.none, none)) :=
  editedText_yields hw (fun _ hs => congrArg Prod.fst hs.2) r

/-- A workspace with what the defaults provide for, and an order of keys that can be sorted by. -/
structure Ordinary (w : Workspace) (k : KeyOrder) : Prop where
  ready : w.cancelled = false
  headers : w.config.sortHeaders = true
  newlines : w.config.keepNewlines = true
  plain : w.document.Plain
  direction : k.direction ≠ .rand
  compare : Std.TransCmp k.compare

namespace Ordinary

theorem arrangeLevel_yields (h : w.Ordinary k) (hskip : l.skipParents = 0) (texts : List Text) :
    Yields (w.SortsWith (.none, none)) (w.arrangeLevel k l texts).run
      (.ok (Arrange.arranged w.classifier k texts)) (w.SortsWith (.none, none)) := by
  rintro ⟨c, p, draws⟩ ⟨hc, hi⟩
  cases hi
  have harranged := Arrange.arrangeAll_eq (c := w.classifier) h.direction h.compare texts none
  have hrun := arrangeLevel_run_of_ok h.ready (s := ⟨c, .none, none⟩) hskip
    (by rw [h.headers, h.newlines, harranged])
  exact ⟨_, hrun, hc, rfl⟩

/-- The texts of blocks of whole lines. -/
theorem blockTexts_yields (h : w.Ordinary k) {text : Range → Sorting Text} {f : Text → Text}
    (htext : ∀ {n : Nat} {ls : List Text}, ls <+: w.document.lines.drop n → ls ≠ [] →
      Yields (w.SortsWith (.none, none)) (text (w.document.lineRange n (n + ls.length - 1))).run
        (.ok (f (Text.unlines ls))) (w.SortsWith (.none, none)))
    (hls : ls <+: w.document.lines.drop n) (hne : ls ≠ []) :
    Yields (w.SortsWith (.none, none))
      (w.blockTexts text (w.document.blocksIn w.classifier n (n + ls.length - 1))).run
      (.ok ((Blocks.textsOf w.classifier ls).map f)) (w.SortsWith (.none, none)) := by
  rw [← Document.slices_blocksIn w.classifier hls hne, List.map_map]
  apply Workspace.blockTexts_yields h.ready
  intro r hr
  rw [Document.blocksIn_of_isPrefix w.classifier hls hne] at hr
  obtain ⟨s, hs, rfl⟩ := List.mem_map.mp hr
  obtain ⟨hms, hprefix, hlast⟩ :=
    Document.linesAt_of_isPrefix hls (Blocks.bounds_of_mem_spansOf hne hs)
  rw [hlast, Function.comp_apply, Document.slice_of_isPrefix hprefix hms]
  exact htext hprefix hms

theorem blockText_yields (h : w.Ordinary k) (room : Nat) (hskip : l.skipParents = 0)
    (hls : ls <+: w.document.lines.drop n) (hne : ls ≠ []) :
    Yields (w.SortsWith (.none, none))
      (w.blockText k room l (w.document.lineRange n (n + ls.length - 1))).run
      (.ok (Arrange.sortedBlock w.classifier k room l.depth (Text.unlines ls)))
      (w.SortsWith (.none, none)) := by
  have hcopied : ∀ {n : Nat} {ls : List Text}, ls <+: w.document.lines.drop n → ls ≠ [] →
      Yields (w.SortsWith (.none, none)) (liftM (w.editedText
        (w.document.lineRange n (n + ls.length - 1))) : Sorting Text).run (.ok (Text.unlines ls))
        (w.SortsWith (.none, none)) := by
    intro n ls hls hne
    rw [← Document.slice_of_isPrefix hls hne]
    exact (copied_yields h.ready _).run_lift
  induction room generalizing l n ls with
  | zero =>
      rw [blockText, Document.clamp_of_isPrefix hls hne]
      exact hcopied hls hne
  | succ room ih =>
      have hlines := Document.lines_unlines_of_isPrefix h.plain hls hne
      have hinner := ofWork_yields (innerBlocks_yields h.ready hls hne) (.none, none)
      rw [blockText, Arrange.sortedBlock, Document.clamp_of_isPrefix hls hne, hlines]
      cases hzero : l.depth.isZero with
      | true =>
          simp only [Bool.true_or, if_true]
          exact hcopied hls hne
      | false =>
          simp only [Bool.false_or, Bool.false_eq_true, if_false]
          cases hspan : Blocks.innerSpan? w.classifier ls with
          | none =>
              rw [Blocks.parts?, hspan]
              split
              · exact hcopied hls hne
              · rw [hspan] at hinner
                exact hinner.run_lift_bind (hcopied hls hne)
          | some s =>
              obtain ⟨horder, hwithin, -⟩ := Blocks.exists_of_innerSpan? hspan
              obtain ⟨hinside, hprefix, hstop⟩ :=
                Document.linesAt_of_isPrefix hls ⟨horder, hwithin⟩
              obtain ⟨hmany, hsplit⟩ := Document.of?_blocksIn hls hspan
              have htexts := h.blockTexts_yields (ih (l := l.inner) (by simp [Level.inner, hskip]))
                hprefix hinside
              rw [← hstop] at htexts
              rw [hspan] at hinner
              rw [if_neg (by simp [hmany]), Blocks.parts?, hspan]
              refine hinner.run_lift_bind ?_
              simp only [Option.map_some, Option.getD_some, hsplit]
              rw [← Document.slice_head hls (Nat.lt_of_le_of_lt horder hwithin),
                ← Document.slice_tail hls hwithin]
              refine (copied_yields h.ready _).run_lift_bind (htexts.run_bind ?_)
              refine (h.arrangeLevel_yields (by simp [Level.inner, hskip]) _).run_bind ?_
              exact (copied_yields h.ready _).run_lift_bind (.pure _)

/-- Sorting a document puts its blocks in order, with the levels inside them. -/
theorem sortEdit_yields {o : SortOptions} (h : w.Ordinary o.order) (hne : w.document.lines ≠ [])
    (hskip : o.skipParents = 0) (hseed : o.seed = none) :
    Yields w.Faithful (w.sortEdit o w.document.whole .none).run
      (.ok (⟨w.document.trimRange w.document.whole,
        w.document.sortedText w.classifier o.order o.depth⟩, .none)) w.Faithful := by
  obtain ⟨n, ls, hls, hprefix, htrim⟩ := Document.exists_trimRange_whole hne
  have hblocks := blocksIn_yields h.ready hprefix hls
  have htexts := Document.texts_of_isPrefix w.classifier hprefix hls htrim
  have hsorted : Yields w.Faithful
      (w.sortBlocks o (w.document.blocksIn w.classifier n (n + ls.length - 1)) .none).run
      (.ok (Arrange.sortedLevel w.classifier o.order w.document.lineCount o.depth
        (w.document.texts w.classifier), .none)) w.Faithful := by
    have hlevel : Yields (w.SortsWith (.none, none))
        (w.sortLevel o (w.document.blocksIn w.classifier n (n + ls.length - 1))).run
        (.ok (Arrange.sortedLevel w.classifier o.order w.document.lineCount o.depth
          (w.document.texts w.classifier))) (w.SortsWith (.none, none)) := by
      rw [htexts]
      exact (h.blockTexts_yields (h.blockText_yields (l := ⟨o.depth, o.skipParents⟩) _ hskip)
        hprefix hls).run_bind (h.arrangeLevel_yields hskip _)
    intro c hc
    obtain ⟨s, hok, hs, hpending⟩ := hlevel ⟨c, .none, none⟩ ⟨hc, rfl⟩
    have hseed' : o.seed.map Keystream.ofSeed = none := by rw [hseed, Option.map_none]
    refine ⟨s.cache, ?_, hs⟩
    rw [sortBlocks_run (by rw [hseed', hok]), show s.pending = .none from
      congrArg Prod.fst hpending]
    rfl
  have hselect := select_yields h.ready o.expansion
  rw [htrim] at hselect ⊢
  refine hselect.run_lift_bind (hblocks.run_lift_bind ?_)
  rw [Document.sortedText, htrim]
  have hempty : (w.document.texts w.classifier).isEmpty =
      (w.document.blocksIn w.classifier n (n + ls.length - 1)).isEmpty := by
    rw [Document.texts, Document.blocks_of_isPrefix w.classifier hprefix hls htrim,
      List.isEmpty_map]
  rw [hempty]
  split
  · exact .pure _
  · exact hsorted.run_bind (.pure _)

end Ordinary

end Workspace

end BlockOrder
