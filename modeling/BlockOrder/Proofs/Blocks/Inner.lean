import BlockOrder.Proofs.Blocks.Boundaries

/-!
# Inner blocks

The inner blocks of a block are those of its first run of lines that are indented deeper than its
least indented line.  Lines whose indentation does not decide have no say in what is least, but
they belong to a run or end it like all others.  The least indented line itself lies outside the
run, so inner blocks never make up the whole block.
-/

namespace BlockOrder

namespace Blocks

variable {F : Nat → LineFacts} {first last line m room : Nat}

/-! ## The least indentation -/

/-- The line has a say in the least indentation of the lines from `first` to `last`. -/
structure Counts (F : Nat → LineFacts) (first last n : Nat) : Prop where
  le : first ≤ n
  le_last : n ≤ last
  notBlank : (F n).isBlank = false
  decides : (F n).ignoresIndent = true → n = first ∨ n = last

structure LeastIndent (F : Nat → LineFacts) (first last m : Nat) : Prop where
  attained : ∃ n, Counts F first last n ∧ (F n).indent = m
  least : ∀ n, Counts F first last n → m ≤ (F n).indent

theorem LeastIndent.unique {m' : Nat} (h : LeastIndent F first last m)
    (h' : LeastIndent F first last m') : m = m' := by
  obtain ⟨n, hn, rfl⟩ := h.attained
  obtain ⟨n', hn', rfl⟩ := h'.attained
  exact Nat.le_antisymm (h.least n' hn') (h'.least n hn)

/-- What a range of indentations says about the lines before `line`. -/
def Gauges (F : Nat → LineFacts) (first last line : Nat) : Option IndentRange → Prop
  | none => ∀ n, n < line → ¬ Counts F first last n
  | some r => (∃ n, n < line ∧ Counts F first last n ∧ (F n).indent = r.least) ∧
      ∀ n, n < line → Counts F first last n → r.least ≤ (F n).indent

theorem skips_iff (hfirst : first ≤ line) (hlast : line ≤ last) :
    ((F line).isBlank || (true && (F line).ignoresIndent && line - first != 0 &&
      line - first != last - first)) = true ↔ ¬ Counts F first last line := by
  simp only [Bool.true_and, Bool.or_eq_true, Bool.and_eq_true, bne_iff_ne, ne_eq]
  constructor
  · rintro (hblank | ⟨⟨hignores, hzero⟩, hend⟩) hcounts
    · rw [hcounts.notBlank] at hblank
      cases hblank
    · rcases hcounts.decides hignores with rfl | rfl
      · exact hzero (Nat.sub_self _)
      · exact hend rfl
  · intro hcounts
    by_contra hnot
    rw [not_or, Bool.not_eq_true] at hnot
    apply hcounts
    refine ⟨hfirst, hlast, hnot.1, fun hignores => ?_⟩
    by_contra hinner
    apply hnot.2
    refine ⟨⟨hignores, ?_⟩, ?_⟩ <;> omega

theorem Gauges.skip {r : Option IndentRange} (h : Gauges F first last line r)
    (hnot : ¬ Counts F first last line) : Gauges F first last (line + 1) r := by
  have hearlier : ∀ n, n < line + 1 → Counts F first last n → n < line := by
    intro n hn hcounts
    rcases Nat.lt_or_eq_of_le (Nat.le_of_lt_succ hn) with hlt | rfl
    · exact hlt
    · exact absurd hcounts hnot
  cases r with
  | none =>
      intro n hn hcounts
      exact h n (hearlier n hn hcounts) hcounts
  | some r =>
      obtain ⟨⟨n, hn, hattained⟩, hleast⟩ := h
      refine ⟨⟨n, Nat.lt_succ_of_lt hn, hattained⟩, fun n' hn' hcounts => ?_⟩
      exact hleast n' (hearlier n' hn' hcounts) hcounts

theorem Gauges.count {r : Option IndentRange} (h : Gauges F first last line r)
    (hcounts : Counts F first last line) :
    Gauges F first last (line + 1) (some (IndentRange.include? r (F line).indent)) := by
  cases r with
  | none =>
      refine ⟨⟨line, Nat.lt_succ_self line, hcounts, rfl⟩, fun n hn hcounts' => ?_⟩
      rcases Nat.lt_or_eq_of_le (Nat.le_of_lt_succ hn) with hlt | rfl
      · exact absurd hcounts' (h n hlt)
      · exact Nat.le_refl _
  | some r =>
      obtain ⟨⟨n, hn, hn', hattained⟩, hleast⟩ := h
      change (∃ n, n < line + 1 ∧ Counts F first last n ∧
        (F n).indent = min r.least (F line).indent) ∧ ∀ n, n < line + 1 →
          Counts F first last n → min r.least (F line).indent ≤ (F n).indent
      constructor
      · rcases Nat.le_total r.least (F line).indent with hle | hle
        · exact ⟨n, Nat.lt_succ_of_lt hn, hn', by rw [Nat.min_eq_left hle, hattained]⟩
        · exact ⟨line, Nat.lt_succ_self line, hcounts, by rw [Nat.min_eq_right hle]⟩
      · intro n' hlt hcounts'
        rcases Nat.lt_or_eq_of_le (Nat.le_of_lt_succ hlt) with hlt | rfl
        · exact Nat.le_trans (Nat.min_le_left _ _) (hleast n' hlt hcounts')
        · exact Nat.min_le_right _ _

theorem gauges_from? {r : Option IndentRange} (h : Gauges F first last line r)
    (hfirst : first ≤ line) (hroom : line + room = last + 1) :
    Gauges F first last (last + 1) (IndentRange.from? true (last - first) (line - first) r
      ((List.range' line room).map F)) := by
  induction room generalizing line r with
  | zero =>
      obtain rfl : line = last + 1 := hroom
      exact h
  | succ room ih =>
      have hskips := skips_iff (F := F) hfirst (show line ≤ last by omega)
      rw [List.range'_succ, List.map_cons, IndentRange.from?,
        show line - first + 1 = line + 1 - first by omega]
      split
      · next hskip => exact ih (h.skip (hskips.mp hskip)) (by omega) (by omega)
      · next hskip =>
          rw [hskips, not_not] at hskip
          exact ih (h.count hskip) (by omega) (by omega)

theorem gauges_ofLines? (F : Nat → LineFacts) (hle : first ≤ last) :
    Gauges F first last (last + 1)
      (IndentRange.ofLines? true ((List.range' first (last + 1 - first)).map F)) := by
  have hnone : Gauges F first last first none := fun n hn hcounts =>
    absurd hcounts.le (Nat.not_le_of_lt hn)
  have hfrom := gauges_from? hnone (Nat.le_refl first) (Nat.add_sub_cancel' (by omega))
  rw [IndentRange.ofLines?, List.length_map, List.length_range',
    show last + 1 - first - 1 = last - first by omega]
  rwa [Nat.sub_self] at hfrom

theorem leastIndent_of_ofLines? (hle : first ≤ last) {indent : IndentRange}
    (h : IndentRange.ofLines? true ((List.range' first (last + 1 - first)).map F) = some indent) :
    LeastIndent F first last indent.least := by
  have hgauges := gauges_ofLines? F hle
  rw [h] at hgauges
  obtain ⟨⟨n, -, hattained⟩, hleast⟩ := hgauges
  exact ⟨⟨n, hattained⟩, fun n hn => hleast n (Nat.lt_succ_of_le hn.le_last) hn⟩

/-! ## The first deeper run -/

/-- A run of lines deeper than `m` with no such line before it, from one line that is not blank
to another. -/
structure OpensRun (F : Nat → LineFacts) (first m : Nat) (run : LineSpan) : Prop where
  le : first ≤ run.first
  ordered : run.first ≤ run.last
  notBlank : (F run.first).isBlank = false ∧ (F run.last).isBlank = false
  deeper : ∀ n, run.first ≤ n → n ≤ run.last → (F n).isBlank = false → m < (F n).indent
  before : ∀ n, first ≤ n → n < run.first → (F n).isBlank = false → (F n).indent ≤ m

/-- The run is over at its last line: the next line that is not blank, if there is one up to line
`last`, is not deeper. -/
structure DeeperRun (F : Nat → LineFacts) (first last m : Nat) (run : LineSpan) : Prop extends
    OpensRun F first m run where
  le_last : run.last ≤ last
  after : ∀ n, run.last < n → n ≤ last → (F n).isBlank = false →
    (∀ n', run.last < n' → n' < n → (F n').isBlank = true) → (F n).indent ≤ m

/-- What has been found of a run before `line`. -/
def Found (F : Nat → LineFacts) (first m line : Nat) : Option LineSpan → Prop
  | none => ∀ n, first ≤ n → n < line → (F n).isBlank = false → (F n).indent ≤ m
  | some run => OpensRun F first m run ∧ run.last < line ∧
      ∀ n, run.last < n → n < line → (F n).isBlank = true

theorem found_none (F : Nat → LineFacts) (first m : Nat) : Found F first m first none :=
  fun _ hn hn' => absurd hn (Nat.not_le_of_lt hn')

theorem Found.blank {run : Option LineSpan} (h : Found F first m line run)
    (hblank : (F line).isBlank = true) : Found F first m (line + 1) run := by
  cases run with
  | none =>
      intro n hn hn' hnot
      rcases Nat.lt_or_eq_of_le (Nat.le_of_lt_succ hn') with hlt | rfl
      · exact h n hn hlt hnot
      · rw [hblank] at hnot
        cases hnot
  | some run =>
      obtain ⟨hopens, hlast, hrest⟩ := h
      refine ⟨hopens, Nat.lt_succ_of_lt hlast, fun n hn hn' => ?_⟩
      rcases Nat.lt_or_eq_of_le (Nat.le_of_lt_succ hn') with hlt | rfl
      · exact hrest n hn hlt
      · exact hblank

theorem Found.shallow (h : Found F first m line none) (hindent : (F line).indent ≤ m) :
    Found F first m (line + 1) none := by
  intro n hn hn' hnot
  rcases Nat.lt_or_eq_of_le (Nat.le_of_lt_succ hn') with hlt | rfl
  · exact h n hn hlt hnot
  · exact hindent

theorem Found.deeper {run : Option LineSpan} (h : Found F first m line run)
    (hfirst : first ≤ line) (hnot : (F line).isBlank = false) (hindent : m < (F line).indent) :
    Found F first m (line + 1) (some ⟨(run.map (·.first)).getD line, line⟩) := by
  refine ⟨?_, Nat.lt_succ_self line, fun n hn hn' => absurd hn' (by simp only at hn; omega)⟩
  cases run with
  | none =>
      refine ⟨hfirst, Nat.le_refl line, ⟨hnot, hnot⟩, fun n hn hn' _ => ?_, h⟩
      obtain rfl : n = line := Nat.le_antisymm hn' hn
      exact hindent
  | some run =>
      obtain ⟨hopens, hlast, hrest⟩ := h
      refine ⟨hopens.le, ?_, ⟨hopens.notBlank.1, hnot⟩, fun n hn hn' hblank => ?_, hopens.before⟩
      · exact Nat.le_trans hopens.ordered (Nat.le_of_lt hlast)
      · -- between what was found and this line there are blank lines only
        rcases Nat.lt_or_ge run.last n with hlater | hearlier
        · rcases Nat.lt_or_eq_of_le hn' with hlt | rfl
          · rw [hrest n hlater hlt] at hblank
            cases hblank
          · exact hindent
        · exact hopens.deeper n hn hearlier hblank

theorem Found.deeperRun_of_shallow {run : LineSpan} (h : Found F first m line (some run))
    (hlast : line ≤ last) (hnot : (F line).isBlank = false) (hindent : (F line).indent ≤ m) :
    DeeperRun F first last m run := by
  obtain ⟨hopens, hrun, hrest⟩ := h
  refine ⟨hopens, by omega, fun n hn hn' hblank hbetween => ?_⟩
  rcases Nat.lt_trichotomy n line with hlt | rfl | hgt
  · rw [hrest n hn hlt] at hblank
    cases hblank
  · exact hindent
  · rw [hbetween line hrun hgt] at hnot
    cases hnot

theorem Found.deeperRun_of_end {run : LineSpan} (h : Found F first m (last + 1) (some run)) :
    DeeperRun F first last m run := by
  obtain ⟨hopens, hrun, hrest⟩ := h
  refine ⟨hopens, Nat.le_of_lt_succ hrun, fun n hn hn' hblank _ => ?_⟩
  rw [hrest n hn (Nat.lt_succ_of_le hn')] at hblank
  cases hblank

theorem deeperRun_cases {run : Option LineSpan} (h : Found F first m line run)
    (hfirst : first ≤ line) (hroom : line + room = last + 1) :
    (deeperRun m line run ((List.range' line room).map F) = none ∧
      ∀ n, first ≤ n → n ≤ last → (F n).isBlank = false → (F n).indent ≤ m) ∨
    ∃ r, deeperRun m line run ((List.range' line room).map F) = some r ∧
      DeeperRun F first last m r := by
  induction room generalizing line run with
  | zero =>
      obtain rfl : line = last + 1 := hroom
      cases run with
      | none => exact .inl ⟨rfl, fun n hn hn' => h n hn (Nat.lt_succ_of_le hn')⟩
      | some run => exact .inr ⟨run, rfl, h.deeperRun_of_end⟩
  | succ room ih =>
      simp only [List.range'_succ, List.map_cons, deeperRun]
      cases hblank : (F line).isBlank with
      | true =>
          simp only [if_true]
          exact ih (h.blank hblank) (by omega) (by omega)
      | false =>
          simp only [Bool.false_eq_true, if_false]
          split
          · next hindent =>
              cases run with
              | none => exact ih (h.shallow hindent) (by omega) (by omega)
              | some run =>
                  exact .inr ⟨run, rfl, h.deeperRun_of_shallow (by omega) hblank hindent⟩
          · next hindent =>
              exact ih (h.deeper hfirst hblank (Nat.lt_of_not_le hindent)) (by omega) (by omega)

/-- No line counts, or none of the lines is deeper than the least indented one. -/
def Shallow (F : Nat → LineFacts) (first last : Nat) : Prop :=
  (∀ n, ¬ Counts F first last n) ∨ ∃ m, LeastIndent F first last m ∧
    ∀ n, first ≤ n → n ≤ last → (F n).isBlank = false → (F n).indent ≤ m

theorem DeeperRun.not_shallow {run : LineSpan} (h : DeeperRun F first last m run)
    (hm : LeastIndent F first last m) : ¬ Shallow F first last := by
  rintro (hnone | ⟨m', hm', hshallow⟩)
  · obtain ⟨n, hn, -⟩ := hm.attained
    exact hnone n hn
  · obtain rfl := hm.unique hm'
    have hindent := hshallow run.first h.le (Nat.le_trans h.ordered h.le_last) h.notBlank.1
    exact absurd (h.deeper _ (Nat.le_refl _) h.ordered h.notBlank.1) (Nat.not_lt_of_le hindent)

/-- The least indented line lies outside the run. -/
theorem DeeperRun.exists_outside {run : LineSpan} (h : DeeperRun F first last m run)
    (hm : LeastIndent F first last m) :
    ∃ n, first ≤ n ∧ n ≤ last ∧ ¬ run.Holds n := by
  obtain ⟨n, hn, hindent⟩ := hm.attained
  refine ⟨n, hn.le, hn.le_last, fun hholds => ?_⟩
  have hdeeper := h.deeper n hholds.1 hholds.2 hn.notBlank
  omega

end Blocks

/-! ## Calls -/

namespace Document

variable {d : Document}

theorem filterMap_factsOf_empty (k : Classifier) (hcount : d.lineCount = 0) (first last : Nat) :
    (d.factsOf k first last).filterMap id = [] := by
  rw [List.filterMap_eq_nil_iff]
  intro fact hfact
  obtain ⟨n, -, rfl⟩ := List.mem_map.mp hfact
  exact d.facts?_of_le k (by omega)

end Document

namespace Workspace

variable {w : Workspace}

theorem blocks_lines_delivers (hw : w.cancelled = false) {first last : Nat} (hle : first ≤ last)
    (hlast : last < w.document.lineCount)
    (hnot : (w.document.lineFacts w.classifier first).isBlank = false) :
    Delivers w.Faithful (w.blocks (.lines first last)) fun ranges =>
      ∃ spans, ranges = (spans.map fun b => w.document.lineRange b.first b.last) ∧
        Blocks.Segmentation (w.document.lineFacts w.classifier) first last spans := by
  have hclamp : w.document.clamp (.lines first last) =
      ⟨.ofOffset first 0, w.document.lineStop last⟩ :=
    Document.lineRange_eq hle (Nat.le_sub_one_of_lt hlast)
  have hyields := blocks_yields hw (.lines first last)
  rw [hclamp] at hyields
  simp only [Position.ofOffset_line, Document.lineStop_line] at hyields
  rw [Document.factsOf_eq_known w.classifier hlast] at hyields
  intro c hc
  obtain ⟨c', hok, hc'⟩ := hyields c hc
  refine ⟨_, c', hok, hc', _, rfl, ?_⟩
  rcases Blocks.tile_known (F := w.document.lineFacts w.classifier) hle with
    ⟨-, hblank⟩ | ⟨hsegmentation, -⟩
  · rw [hblank first (Nat.le_refl first) hle] at hnot
    cases hnot
  · exact hsegmentation

theorem innerBlocks_delivers (hw : w.cancelled = false) (r : Range) :
    Delivers w.Faithful (w.innerBlocks r) fun ranges =>
      (ranges = [] ∧ Blocks.Shallow (w.document.lineFacts w.classifier)
        (w.document.clamp r).start.line (w.document.clamp r).stop.line) ∨
      ∃ m run spans,
        Blocks.LeastIndent (w.document.lineFacts w.classifier)
          (w.document.clamp r).start.line (w.document.clamp r).stop.line m ∧
        Blocks.DeeperRun (w.document.lineFacts w.classifier)
          (w.document.clamp r).start.line (w.document.clamp r).stop.line m run ∧
        ranges = (spans.map fun b => w.document.lineRange b.first b.last) ∧
        Blocks.Segmentation (w.document.lineFacts w.classifier) run.first run.last spans := by
  have hle := (w.document.fits_clamp r).line_le
  have hstop := (w.document.fits_clamp r).stop.line_le
  unfold innerBlocks
  dsimp only
  generalize (w.document.clamp r).start.line = first at hle ⊢
  generalize (w.document.clamp r).stop.line = last at hle hstop ⊢
  refine (Delivers.of_yields (lines_yields hw first last) fun _ hc => hc.1).bind
    fun lines hlines => ?_
  subst hlines
  rcases Nat.eq_zero_or_pos w.document.lineCount with hzero | hcount
  · -- a document without lines has no line that counts
    rw [Document.filterMap_factsOf_empty w.classifier hzero]
    refine .pure (.inl ⟨rfl, .inl fun n hcounts => ?_⟩)
    have hblank := Document.isBlank_lineFacts_of_le (d := w.document) w.classifier (n := n)
      (by omega)
    rw [hcounts.notBlank] at hblank
    cases hblank
  have hlast := Document.lt_lineCount_of_le hstop (List.length_pos_iff.mp hcount)
  rw [Document.filterMap_factsOf w.classifier hlast]
  cases hrange : IndentRange.ofLines? true
      ((List.range' first (last + 1 - first)).map (w.document.lineFacts w.classifier)) with
  | none =>
      have hgauges := Blocks.gauges_ofLines? (w.document.lineFacts w.classifier) hle
      rw [hrange] at hgauges
      refine .pure (.inl ⟨rfl, .inl fun n hcounts => ?_⟩)
      exact hgauges n (Nat.lt_succ_of_le hcounts.le_last) hcounts
  | some indent =>
      have hm := Blocks.leastIndent_of_ofLines? hle hrange
      simp only [check_of_not_cancelled hw, pure_bind]
      rcases Blocks.deeperRun_cases (Blocks.found_none _ first indent.least) (Nat.le_refl first)
          (Nat.add_sub_cancel' (Nat.le_succ_of_le hle)) with ⟨hrun, hall⟩ | ⟨run, hrun, hdeeper⟩
      · rw [hrun]
        exact .pure (.inl ⟨rfl, .inr ⟨_, hm, hall⟩⟩)
      · rw [hrun]
        have hblocks := blocks_lines_delivers hw hdeeper.ordered
          (Nat.lt_of_le_of_lt hdeeper.le_last hlast) hdeeper.notBlank.1
        intro c hc
        obtain ⟨ranges, c', hok, hc', spans, hranges, hsegmentation⟩ := hblocks c hc
        exact ⟨ranges, c', hok, hc', .inr ⟨_, run, spans, hm, hdeeper, hranges, hsegmentation⟩⟩

end Workspace

namespace Session

theorem Stands.innerBlocks_of_delivers {fresh s : Session} {d : Document} (h : Stands fresh d s)
    {r : Range} {P : List Range → Prop} (hP : Delivers (fresh.workspace d false).Faithful
      ((fresh.workspace d false).innerBlocks r) P) : P (s.innerBlocks d r false).1 := by
  obtain ⟨ranges, s', hrun, hranges⟩ := h.exists_run hP
  rw [innerBlocks, h.workspace_eq, hrun]
  exact hranges

/-- The inner blocks of a block, whatever the session has been asked before.  There are none if no
line counts or none is deeper than the least indented one.  Otherwise they are blocks of the first
run of deeper lines, which does not hold all lines of the block. -/
theorem innerBlocks_deeperRun (config : Config) (language : String) (d : Document) (r : Range)
    (earlier : List (Bool × Query)) :
    ((((start config language).askAll d earlier).innerBlocks d r false).1 = [] ↔
      Blocks.Shallow (d.lineFacts (start config language).classifier) (d.clamp r).start.line
        (d.clamp r).stop.line) ∧
    ((((start config language).askAll d earlier).innerBlocks d r false).1 ≠ [] →
      ∃ m run spans,
        Blocks.LeastIndent (d.lineFacts (start config language).classifier)
          (d.clamp r).start.line (d.clamp r).stop.line m ∧
        Blocks.DeeperRun (d.lineFacts (start config language).classifier)
          (d.clamp r).start.line (d.clamp r).stop.line m run ∧
        (((start config language).askAll d earlier).innerBlocks d r false).1 =
          (spans.map fun b => d.lineRange b.first b.last) ∧
        Blocks.Segmentation (d.lineFacts (start config language).classifier) run.first run.last
          spans ∧
        ∃ n, (d.clamp r).start.line ≤ n ∧ n ≤ (d.clamp r).stop.line ∧ ¬ run.Holds n) := by
  have hstands := (stands_start config language d).askAll earlier
  have hw : ((start config language).workspace d false).cancelled = false := rfl
  rcases hstands.innerBlocks_of_delivers (Workspace.innerBlocks_delivers hw r) with
    ⟨hnil, hshallow⟩ | ⟨m, run, spans, hm, hdeeper, hranges, hsegmentation⟩
  · exact ⟨⟨fun _ => hshallow, fun _ => hnil⟩, fun hne => absurd hnil hne⟩
  · refine ⟨⟨fun hnil => ?_, fun hshallow => absurd hshallow (hdeeper.not_shallow hm)⟩,
      fun _ => ⟨m, run, spans, hm, hdeeper, hranges, hsegmentation, hdeeper.exists_outside hm⟩⟩
    rw [hranges, List.map_eq_nil_iff] at hnil
    exact absurd hnil hsegmentation.tiles.ne_nil

/-- A body of two lines with a blank line between them, and one more line at its end. -/
def body : Document :=
  ⟨["f() \x7b".toList, "  b;".toList, [], "  a;".toList, "\x7d".toList]⟩

theorem not_shallow_body (k : Classifier) : ¬ Blocks.Shallow (body.lineFacts k) 0 4 := by
  have hcounts : Blocks.Counts (body.lineFacts k) 0 4 0 :=
    ⟨Nat.le_refl 0, by decide, rfl, fun _ => .inl rfl⟩
  rintro (hnone | ⟨m, hm, hshallow⟩)
  · exact hnone 0 hcounts
  · have hleast : m ≤ 0 := hm.least 0 hcounts
    have hdeeper : 2 ≤ m := hshallow 1 (by decide) (by decide) rfl
    omega

theorem innerBlocks_deeperRun_body :
    (((start {} "typescript").askAll body []).innerBlocks body body.whole false).1 ≠ [] ∧
      ∃ m run spans,
        Blocks.LeastIndent (body.lineFacts (start {} "typescript").classifier) 0 4 m ∧
        Blocks.DeeperRun (body.lineFacts (start {} "typescript").classifier) 0 4 m run ∧
        (((start {} "typescript").askAll body []).innerBlocks body body.whole false).1 =
          (spans.map fun b => body.lineRange b.first b.last) ∧
        Blocks.Segmentation (body.lineFacts (start {} "typescript").classifier) run.first run.last
          spans ∧
        ∃ n, 0 ≤ n ∧ n ≤ 4 ∧ ¬ run.Holds n := by
  obtain ⟨hnil, hinner⟩ := innerBlocks_deeperRun {} "typescript" body body.whole []
  have hne := hnil.not.mpr (not_shallow_body _)
  exact ⟨hne, hinner hne⟩

end Session

end BlockOrder
