import BlockOrder.Proofs.Blocks.Growth
import BlockOrder.Proofs.Classifier.Brackets

/-!
# Brackets of grown selections

In a document whose brackets are well nested, a selection that takes in lines until its brackets
are balanced ends with all of them closed.  A selection that grows further looks at the total of
the depths of all pairs only: it may stop where pairs cancel out, and it may run into the end of
the document.
-/

namespace BlockOrder

/-! ## Well nested documents -/

/-- No pair of brackets is closed more often than it was opened, and all are closed in the end. -/
structure Document.WellNested (d : Document) (k : Classifier) : Prop where
  opened : ∀ family < k.folding.size, ∀ n ≤ d.lineCount,
    0 ≤ Blocks.depth (d.lineFacts k) family 0 n
  closed : ∀ family < k.folding.size, Blocks.depth (d.lineFacts k) family 0 d.lineCount = 0

/-- Lines without brackets of a pair do not nest them. -/
theorem Blocks.depth_eq_zero {F : Nat → LineFacts} {family : Nat}
    (h : ∀ n, (F n).folding.level family = 0) (s stop : Nat) : depth F family s stop = 0 := by
  rcases Nat.le_total s stop with hle | hle
  · induction hle with
    | refl => exact depth_self F family s
    | step hle ih => rw [depth_succ hle, ih, h, Int.add_zero]
  · rw [depth, Nat.sub_eq_zero_of_le hle]
    rfl

namespace Document

variable {d : Document} {k : Classifier}

theorem depth_eq_zero_of_size_le {family : Nat} (h : k.folding.size ≤ family) (n : Nat) :
    Blocks.depth (d.lineFacts k) family 0 n = 0 := by
  apply Blocks.depth_eq_zero
  intro m
  have hlength : (d.lineFacts k m).folding.levels.length ≤ family := by
    rw [lineFacts, LineFacts.compute, Classifier.length_lineFolding]
    exact h
  rw [Folding.level, List.getElem?_eq_none hlength, Option.getD_none]

theorem level_brackets_eq_sub {first last : Nat} (hle : first ≤ last) (hlast : last < d.lineCount)
    (family : Nat) :
    (d.brackets k first last).level family = Blocks.depth (d.lineFacts k) family 0 (last + 1) -
      Blocks.depth (d.lineFacts k) family 0 first := by
  have hadd : Blocks.depth (d.lineFacts k) family 0 (last + 1) = _ :=
    Blocks.depth_add (Nat.zero_le first) (Nat.le_succ_of_le hle)
  rw [level_brackets hle hlast]
  omega

namespace WellNested

variable (h : d.WellNested k)
include h

theorem depth_nonneg (family : Nat) {n : Nat} (hn : n ≤ d.lineCount) :
    0 ≤ Blocks.depth (d.lineFacts k) family 0 n := by
  by_cases hsize : family < k.folding.size
  · exact h.opened family hsize n hn
  · exact Int.le_of_eq (depth_eq_zero_of_size_le (Nat.le_of_not_lt hsize) n).symm

theorem depth_lineCount (family : Nat) :
    Blocks.depth (d.lineFacts k) family 0 d.lineCount = 0 := by
  by_cases hsize : family < k.folding.size
  · exact h.closed family hsize
  · exact depth_eq_zero_of_size_le (Nat.le_of_not_lt hsize) _

/-- Lines from the first one on close nothing that they did not open. -/
theorem level_nonneg {last : Nat} (hlast : last < d.lineCount) (family : Nat) :
    0 ≤ (d.brackets k 0 last).level family := by
  have hdepth := h.depth_nonneg family (Nat.succ_le_of_lt hlast)
  rw [level_brackets (Nat.zero_le last) hlast]
  exact hdepth

/-- Lines up to the last one leave nothing open. -/
theorem level_nonpos {first : Nat} (hfirst : first < d.lineCount) (family : Nat) :
    (d.brackets k first d.lastLine).level family ≤ 0 := by
  have hend : d.lastLine + 1 = d.lineCount := Nat.succ_pred_eq_of_pos (Nat.zero_lt_of_lt hfirst)
  have hle : first ≤ d.lastLine := Nat.le_sub_one_of_lt hfirst
  have hdepth := h.depth_nonneg family (Nat.le_of_lt hfirst)
  have hclosed := h.depth_lineCount family
  rw [level_brackets_eq_sub hle (Nat.lt_of_succ_le (Nat.le_of_eq hend)), hend]
  omega

end WellNested

/-- The brackets that a selection counts when it is made are those of its lines. -/
theorem foldl_merge_factsOf {first last : Nat} (hle : first ≤ last) (hlast : last < d.lineCount) :
    ((d.factsOf k first last).filterMap id).foldl (fun f l => f.merge l.folding)
      k.folding.closed = d.brackets k first last := by
  rw [filterMap_factsOf k hlast]
  induction hle with
  | refl =>
      rw [Nat.add_sub_cancel_left, brackets_self hlast]
      exact FoldTable.closed_merge_eq (Nat.le_of_eq (Classifier.length_lineFolding k _).symm)
  | @step last hle ih =>
      have hle : first ≤ last := hle
      have hrange : List.range' first (last + 1 + 1 - first) =
          List.range' first (last + 1 - first) ++ [last + 1] := by
        rw [Nat.succ_sub (Nat.le_succ_of_le hle), List.range'_concat]
        congr 2
        omega
      rw [hrange, List.map_append, List.foldl_append, ih (Nat.lt_of_succ_lt hlast),
        brackets_succ hle hlast]
      rfl

end Document

/-! ## Selections -/

/-- The selection has become a larger one, and has counted the brackets of its lines. -/
structure Selection.Tracks (d : Document) (k : Classifier) (s₀ s : Selection) : Prop extends
    Selection.Grows d s₀ s where
  folding : s.folding = d.brackets k s.first s.last

/-- No bracket is left that a line below could close or a line above could open. -/
structure Selection.Balanced (d : Document) (s : Selection) : Prop where
  down : s.folding.hasPositive = true → d.lastLine ≤ s.last
  up : s.folding.hasNegative = true → s.first = 0

/-- How many lines there are left to take in on one side. -/
def Selection.room (d : Document) (s : Selection) : Side → Nat
  | .up => s.first
  | .down => d.lastLine - s.last

namespace Workspace

variable {w : Workspace} {s₀ s : Selection}

theorem line_delivers (hw : w.cancelled = false) {n : Nat} (hn : n < w.document.lineCount) :
    Delivers w.Faithful (w.line n) (· = some (w.document.lineFacts w.classifier n)) := by
  have hline : Yields (w.Informed 1 0) (w.line n) _ (w.Informed n n) :=
    line_yields hw ⟨Nat.le_refl n, Nat.le_refl n⟩ fun m hm hm' => .inr (by omega)
  rw [Document.facts?_eq w.classifier hn] at hline
  exact .of_yields (hline.mono (fun _ => .of_faithful) fun _ hc => hc.1) fun _ hc => hc

theorem mergeLine_delivers (hw : w.cancelled = false) (folding : Folding) {n : Nat}
    (hn : n < w.document.lineCount) :
    Delivers w.Faithful (w.mergeLine folding n)
      (· = folding.merge (w.document.lineFacts w.classifier n).folding) := by
  refine (line_delivers hw hn).bind fun f hf => ?_
  subst hf
  exact .pure rfl

theorem selectLines_delivers (hw : w.cancelled = false) {first last : Nat} (hle : first ≤ last)
    (hlast : last < w.document.lineCount) :
    Delivers w.Faithful (w.selectLines first last)
      (· = ⟨first, last, w.document.brackets w.classifier first last⟩) := by
  have hlines := lines_yields hw first last
  refine (Delivers.of_yields hlines fun _ hc => hc.1).bind fun lines hlines => ?_
  subst hlines
  rw [check_of_not_cancelled hw, pure_bind, Document.foldl_merge_factsOf hle hlast]
  exact .pure rfl

/-- Selections of a document with at least one line stay within its lines. -/
theorem lt_lineCount (hcount : 0 < w.document.lineCount)
    (hs : s₀.Tracks w.document w.classifier s) : s.last < w.document.lineCount := by
  have hlast := hs.within
  simp only [Document.lastLine] at hlast
  omega

theorem tracks_down (hs : s₀.Tracks w.document w.classifier s)
    (hlast : s.last + 1 < w.document.lineCount) :
    s₀.Tracks w.document w.classifier ⟨s.first, s.last + 1,
      s.folding.merge (w.document.lineFacts w.classifier (s.last + 1)).folding⟩ := by
  refine ⟨⟨hs.first, Nat.le_succ_of_le hs.last, Nat.le_succ_of_le hs.ordered, ?_⟩, ?_⟩
  · exact Nat.le_sub_one_of_lt hlast
  · rw [hs.folding]
    exact (Document.brackets_succ hs.ordered hlast).symm

theorem tracks_up (hcount : 0 < w.document.lineCount)
    (hs : s₀.Tracks w.document w.classifier s) (hfirst : 0 < s.first) :
    s₀.Tracks w.document w.classifier ⟨s.first - 1, s.last,
      s.folding.merge (w.document.lineFacts w.classifier (s.first - 1)).folding⟩ := by
  refine ⟨⟨?_, hs.last, ?_, hs.within⟩, ?_⟩
  · exact Nat.le_trans (Nat.sub_le _ _) hs.first
  · exact Nat.le_trans (Nat.sub_le _ _) hs.ordered
  · rw [hs.folding]
    exact (Document.brackets_pred hfirst hs.ordered (lt_lineCount hcount hs)).symm

/-- In a well nested document the brackets of a balanced selection are closed. -/
theorem hasOpen_of_balanced (hcount : 0 < w.document.lineCount)
    (hnested : w.document.WellNested w.classifier) (hs : s₀.Tracks w.document w.classifier s)
    (hbalanced : s.Balanced w.document) : s.folding.hasOpen = false := by
  have hlast := lt_lineCount hcount hs
  have hpositive : s.folding.hasPositive = false := by
    cases hpos : s.folding.hasPositive with
    | false => rfl
    | true =>
        -- at the end of the document nothing is left open
        have hend : s.last = w.document.lastLine := Nat.le_antisymm hs.within (hbalanced.down hpos)
        rw [← hpos, hs.folding, Folding.hasPositive_eq_false_iff, hend]
        exact hnested.level_nonpos (Nat.lt_of_le_of_lt hs.ordered hlast)
  have hnegative : s.folding.hasNegative = false := by
    cases hneg : s.folding.hasNegative with
    | false => rfl
    | true =>
        rw [← hneg, hs.folding, Folding.hasNegative_eq_false_iff, hbalanced.up hneg]
        exact hnested.level_nonneg hlast
  rw [Folding.hasPositive_eq_false_iff] at hpositive
  rw [Folding.hasNegative_eq_false_iff] at hnegative
  rw [Folding.hasOpen_eq_false_iff]
  exact fun i => Int.le_antisymm (hpositive i) (hnegative i)

/-- Balancing ends with a balanced selection.  Every round leaves fewer lines outside. -/
theorem balance_delivers (hw : w.cancelled = false) (hcount : 0 < w.document.lineCount)
    (fuel : Nat) {s : Selection} (hs : s₀.Tracks w.document w.classifier s)
    (hfuel : s.room w.document .down + s.room w.document .up < fuel) :
    Delivers w.Faithful (w.balance fuel s) fun s' =>
      s₀.Tracks w.document w.classifier s' ∧ s'.Balanced w.document := by
  induction fuel generalizing s with
  | zero => exact absurd hfuel (Nat.not_lt_zero _)
  | succ fuel ih =>
      unfold balance
      rw [check_of_not_cancelled hw]
      simp only [pure_bind, Selection.room] at hfuel ⊢
      split
      · next hdown =>
          simp only [Bool.and_eq_true, decide_eq_true_eq] at hdown
          have hlast : s.last + 1 < w.document.lineCount := Nat.add_lt_of_lt_sub hdown.2
          refine (mergeLine_delivers hw s.folding hlast).bind fun folding hfolding => ?_
          subst hfolding
          apply ih (tracks_down hs hlast)
          simp only [Selection.room, Document.lastLine] at hfuel ⊢
          omega
      · next hdown =>
          split
          · next hup =>
              simp only [Bool.and_eq_true, decide_eq_true_eq] at hup
              have hlast := lt_lineCount hcount hs
              have hordered := hs.ordered
              refine (mergeLine_delivers hw s.folding (by omega)).bind fun folding hfolding => ?_
              subst hfolding
              apply ih (tracks_up hcount hs hup.2)
              simp only [Selection.room]
              omega
          · next hup =>
              refine .pure ⟨hs, ?_, ?_⟩
              · intro hpositive
                rw [hpositive, Bool.true_and, decide_eq_true_eq] at hdown
                exact Nat.le_of_not_lt hdown
              · intro hnegative
                rw [hnegative, Bool.true_and, decide_eq_true_eq] at hup
                exact Nat.eq_zero_of_not_pos hup

/-- What comes after a selection has been made and balanced can rely on both. -/
theorem balanced_bind_delivers {β : Type} (hw : w.cancelled = false)
    (hcount : 0 < w.document.lineCount) (r : Range) {f : Selection → Work β} {Q : β → Prop}
    (hf : ∀ s₀ s : Selection, s₀.first = (w.document.clamp r).start.line →
      s₀.last = (w.document.clamp r).stop.line → s₀.Tracks w.document w.classifier s →
        s.Balanced w.document → Delivers w.Faithful (f s) Q) :
    Delivers w.Faithful (w.selectLines (w.document.clamp r).start.line
      (w.document.clamp r).stop.line >>= fun s =>
        w.balance (w.document.lineCount + 1) s >>= f) Q := by
  have hfits := w.document.fits_clamp r
  have hstop : (w.document.clamp r).stop.line < w.document.lineCount := by
    have hline := hfits.stop.line_le
    simp only [Document.lastLine] at hline
    omega
  refine (selectLines_delivers hw hfits.line_le hstop).bind fun s₀ hs₀ => ?_
  have htracks : s₀.Tracks w.document w.classifier s₀ := by
    subst hs₀
    exact ⟨⟨Nat.le_refl _, Nat.le_refl _, hfits.line_le, hfits.stop.line_le⟩, rfl⟩
  have hroom : s₀.room w.document .down + s₀.room w.document .up <
      w.document.lineCount + 1 := by
    have hordered := htracks.ordered
    have hwithin := htracks.within
    simp only [Selection.room, Document.lastLine] at hwithin ⊢
    omega
  refine (balance_delivers hw hcount _ htracks hroom).bind fun s hs => ?_
  apply hf s₀ s
  · rw [hs₀]
  · rw [hs₀]
  · exact hs.1
  · exact hs.2

/-! ## Growing further -/

/-- Taking in one more line on a side leaves one line less there. -/
theorem tracks_extend (hcount : 0 < w.document.lineCount)
    (hs : s₀.Tracks w.document w.classifier s) {side : Side} {next : Nat}
    (hnext : w.neighbour? (s.edge side) side = some next) :
    next < w.document.lineCount ∧
      ∃ s', s.extend next (w.document.lineFacts w.classifier next) = s' ∧
        s₀.Tracks w.document w.classifier s' ∧
        s'.room w.document side < s.room w.document side ∧ (side = .down → 0 < s'.last) := by
  have hlast := lt_lineCount hcount hs
  have hordered := hs.ordered
  cases side with
  | up =>
      change (if 0 < s.first then some (s.first - 1) else none) = some next at hnext
      by_cases hfirst : 0 < s.first
      · rw [if_pos hfirst] at hnext
        obtain rfl := Option.some.inj hnext
        refine ⟨by omega, _, rfl, ?_, ?_, fun h => by cases h⟩
        · have htracks := tracks_up hcount hs hfirst
          simpa only [Selection.extend, Nat.min_eq_right (Nat.sub_le s.first 1),
            Nat.max_eq_left (Nat.le_trans (Nat.sub_le _ _) hordered)] using htracks
        · simp only [Selection.room, Selection.extend]
          omega
      · rw [if_neg hfirst] at hnext
        cases hnext
  | down =>
      change (if s.last + 1 < w.document.lineCount then some (s.last + 1) else none) = some next
        at hnext
      by_cases hmore : s.last + 1 < w.document.lineCount
      · rw [if_pos hmore] at hnext
        obtain rfl := Option.some.inj hnext
        refine ⟨hmore, _, rfl, ?_, ?_, fun _ => ?_⟩
        · have htracks := tracks_down hs hmore
          simpa only [Selection.extend, Nat.min_eq_left (Nat.le_succ_of_le hordered),
            Nat.max_eq_right (Nat.le_succ s.last)] using htracks
        · simp only [Selection.room, Selection.extend, Document.lastLine]
          omega
        · simp only [Selection.extend]
          omega
      · rw [if_neg hmore] at hnext
        cases hnext

/-- Both selections of an advance have counted the brackets of their lines.  Downwards they are
the same until a line has been taken in. -/
structure Advance.Tracks (d : Document) (k : Classifier) (s₀ : Selection) (side : Side)
    (a : Advance) : Prop where
  previous : s₀.Tracks d k a.previous
  current : s₀.Tracks d k a.current
  moved : side = .down → a.previous = a.current ∨ 0 < a.current.last

theorem total_of_not_takesIn {g : Growth} (hg : g.foldingComplete = true) {folding : Folding}
    {least lastIndent : Nat} {f : LineFacts}
    (h : g.takesIn folding least lastIndent f = false) : folding.total = 0 := by
  simp only [Growth.takesIn, hg, Bool.true_and, Bool.or_eq_false_iff] at h
  simpa using h.2

/-- Lines are taken in until there is none left, or the total of the brackets is zero. -/
theorem advance_delivers (hw : w.cancelled = false) (hcount : 0 < w.document.lineCount)
    (g : Growth) (least : Nat) (side : Side) (fuel : Nat) {a : Advance}
    (ha : a.Tracks w.document w.classifier s₀ side)
    (hfuel : a.current.room w.document side < fuel) :
    Delivers w.Faithful (w.advance g least side fuel a) fun a' =>
      a'.Tracks w.document w.classifier s₀ side ∧
        (g.foldingComplete = true →
          w.neighbour? (a'.current.edge side) side = none ∨ a'.current.folding.total = 0) := by
  induction fuel generalizing a with
  | zero => exact absurd hfuel (Nat.not_lt_zero _)
  | succ fuel ih =>
      unfold advance
      split
      · next hnone => exact .pure ⟨ha, fun _ => .inl hnone⟩
      · next next hnext =>
          obtain ⟨hline, s', hs', htracks, hroom, hmoved⟩ := tracks_extend hcount ha.current hnext
          rw [check_of_not_cancelled hw]
          simp only [pure_bind]
          refine (line_delivers hw hline).bind fun f hf => ?_
          subst hf
          dsimp only
          split
          · rw [hs']
            refine ih ⟨ha.current, htracks, fun hside => .inr (hmoved hside)⟩ ?_
            exact Nat.lt_of_lt_of_le hroom (Nat.le_of_lt_succ hfuel)
          · next hstop =>
              rw [Bool.not_eq_true] at hstop
              exact .pure ⟨ha, fun hg => .inr (total_of_not_takesIn hg hstop)⟩

theorem growTowards_delivers (hw : w.cancelled = false) (hcount : 0 < w.document.lineCount)
    (g : Growth) (least : Nat) (side : Side) (hs : s₀.Tracks w.document w.classifier s) :
    Delivers w.Faithful (w.growTowards g least side s) fun s' =>
      s₀.Tracks w.document w.classifier s' ∧ (side = .down → g.foldingComplete = true →
        s'.folding.total = 0 ∨ s'.last = w.document.lastLine) := by
  have hlast := lt_lineCount hcount hs
  have hordered := hs.ordered
  have hedge : s.edge side < w.document.lineCount := by
    cases side with
    | up => exact Nat.lt_of_le_of_lt hordered hlast
    | down => exact hlast
  have hroom : s.room w.document side < w.document.lineCount := by
    cases side with
    | up => exact Nat.lt_of_le_of_lt hordered hlast
    | down =>
        simp only [Selection.room, Document.lastLine]
        omega
  refine (line_delivers hw hedge).bind fun edge _ => ?_
  refine (advance_delivers hw hcount g least side _ ⟨hs, hs, fun _ => .inl rfl⟩ hroom).bind
    fun a ha => .pure ?_
  obtain ⟨htracks, hstop⟩ := ha
  cases side with
  | up =>
      refine ⟨?_, fun h => by cases h⟩
      split
      · exact htracks.previous
      · exact htracks.current
  | down =>
      -- giving a line back changes nothing: the first line was not taken in from above
      have hsame : (if a.current.edge .down == 0 && 0 < a.current.folding.total then a.previous
          else a.current) = a.current := by
        split
        · next hback =>
            simp only [Bool.and_eq_true, beq_iff_eq] at hback
            have hzero : a.current.last = 0 := hback.1
            exact (htracks.moved rfl).resolve_right (by omega)
        · rfl
      rw [hsame]
      refine ⟨htracks.current, fun _ hg => ?_⟩
      rcases hstop hg with hnone | htotal
      · right
        change (if a.current.last + 1 < w.document.lineCount then some (a.current.last + 1)
          else none) = none at hnone
        have hmore : ¬ a.current.last + 1 < w.document.lineCount := by
          intro h
          rw [if_pos h] at hnone
          cases hnone
        have hwithin := htracks.current.within
        simp only [Document.lastLine] at hwithin ⊢
        omega
      · exact .inl htotal

/-- A selection that is not grown any further has balanced brackets.  One that grows until its
brackets are complete has a total of zero, unless it reaches the end of the document. -/
theorem expand_delivers (hw : w.cancelled = false) (hcount : 0 < w.document.lineCount)
    (hnested : w.document.WellNested w.classifier) (r : Range) (e : Expansion) :
    Delivers w.Faithful (w.expand r e) fun r' => ∃ first last,
      first ≤ (w.document.clamp r).start.line ∧ (w.document.clamp r).stop.line ≤ last ∧
      first ≤ last ∧ last ≤ w.document.lastLine ∧ r' = w.document.lineRange first last ∧
      (e.growth? = none → (w.document.brackets w.classifier first last).hasOpen = false) ∧
      (∀ g, e.growth? = some g → g.foldingComplete = true →
        (w.document.brackets w.classifier first last).total = 0 ∨
          last = w.document.lastLine) := by
  refine balanced_bind_delivers hw hcount r fun s₀ s hfirst hlast hs hbalanced => ?_
  have hclosed := hasOpen_of_balanced hcount hnested hs hbalanced
  cases hgrowth : e.growth? with
  | none =>
      refine .pure ⟨s.first, s.last, hfirst ▸ hs.first, hlast ▸ hs.last, hs.ordered, hs.within,
        rfl, fun _ => ?_, ?_⟩
      · rw [← hs.folding]
        exact hclosed
      · intro g h
        cases h
  | some g =>
      refine Delivers.get_bind fun c => ?_
      have htotal : ¬ 0 < s.folding.total := by
        rw [Folding.hasOpen_eq_false_iff] at hclosed
        rw [Folding.total_eq_level (fun i _ => hclosed i : ∀ i, i ≠ 0 → _), hclosed 0]
        exact Int.lt_irrefl 0
      simp only [if_neg htotal]
      refine (growTowards_delivers hw hcount g _ .up hs).bind fun s' hs' => ?_
      refine (growTowards_delivers hw hcount g _ .down hs'.1).bind fun s'' hs'' => .pure ?_
      obtain ⟨hs'', hend⟩ := hs''
      refine ⟨s''.first, s''.last, hfirst ▸ hs''.first, hlast ▸ hs''.last, hs''.ordered,
        hs''.within, rfl, ?_, ?_⟩
      · intro h
        cases h
      · intro g' hg' hcomplete
        obtain rfl := Option.some.inj hg'
        rw [← hs''.folding]
        exact hend rfl hcomplete

end Workspace

/-! ## Calls -/

namespace Session

/-- The brackets of the text of a range, where every closing bracket counts. -/
def rawFolding (s : Session) (d : Document) (r : Range) : Folding :=
  s.classifier.foldingOf .raw s.classifier.folding.closed (d.slice r)

theorem Stands.expand_of_delivers {fresh s : Session} {d : Document} (h : Stands fresh d s)
    {r : Range} {e : Expansion} {P : Range → Prop} (hP : Delivers (fresh.workspace d false).Faithful
      ((fresh.workspace d false).expand r e) P) : P (s.expand d r e false).1 := by
  obtain ⟨range, s', hrun, hrange⟩ := h.exists_run hP
  rw [expand, h.workspace_eq, hrun]
  exact hrange

theorem Stands.expand_eq {fresh s : Session} {d : Document} (h : Stands fresh d s)
    (hcount : 0 < d.lineCount) (hnested : d.WellNested fresh.classifier) (r : Range)
    (e : Expansion) :
    ∃ first last, first ≤ (d.clamp r).start.line ∧ (d.clamp r).stop.line ≤ last ∧ first ≤ last ∧
      last ≤ d.lastLine ∧ (s.expand d r e false).1 = d.lineRange first last ∧
      (e.growth? = none → (d.brackets fresh.classifier first last).hasOpen = false) ∧
      (∀ g, e.growth? = some g → g.foldingComplete = true →
        (d.brackets fresh.classifier first last).total = 0 ∨ last = d.lastLine) := by
  have hw : (fresh.workspace d false).cancelled = false := rfl
  exact h.expand_of_delivers (Workspace.expand_delivers hw hcount hnested r e)

/-- In a well nested document a selection that is repaired has balanced brackets.  A selection
that is grown in full has depths that add up to zero, or reaches the last line and leaves nothing
open.  It has balanced brackets if it starts with the first line, or if there is only one pair of
brackets and it does not reach the last line. -/
theorem expand_brackets_of_wellNested (config : Config) (language : String) {d : Document}
    (hcount : 0 < d.lineCount) (hnested : d.WellNested (start config language).classifier)
    (r : Range) (earlier : List (Bool × Query)) :
    ∃ repaired grown,
      (((start config language).askAll d earlier).expand d r .disabled false).1 = repaired ∧
      (((start config language).askAll d earlier).expand d r .full false).1 = grown ∧
      ((start config language).rawFolding d repaired).hasOpen = false ∧
      (((start config language).rawFolding d grown).total = 0 ∨
        grown.stop.line = d.lastLine ∧
          ((start config language).rawFolding d grown).hasPositive = false) ∧
      (grown.start.line = 0 → ((start config language).rawFolding d grown).hasOpen = false) ∧
      (∀ family, (∀ i, i ≠ family → ∀ n,
          (d.lineFacts (start config language).classifier n).folding.level i = 0) →
        grown.stop.line ≠ d.lastLine →
          ((start config language).rawFolding d grown).hasOpen = false) := by
  have hstands := (stands_start config language d).askAll earlier
  generalize (start config language).askAll d earlier = s at hstands ⊢
  generalize start config language = fresh at hnested hstands ⊢
  obtain ⟨a, b, -, -, -, -, hrepaired, hclosed, -⟩ :=
    hstands.expand_eq hcount hnested r .disabled
  obtain ⟨first, last, -, -, hle, hwithin, hgrown, -, hcomplete⟩ :=
    hstands.expand_eq hcount hnested r .full
  have hlast : last < d.lineCount := Document.lt_lineCount_of_le hwithin
    (List.length_pos_iff.mp hcount)
  have htotal := hcomplete _ rfl rfl
  have hstart : (d.lineRange first last).start.line = first := by
    rw [Document.lineRange_eq hle hwithin]
    rfl
  have hstop : (d.lineRange first last).stop.line = last := by
    rw [Document.lineRange_eq hle hwithin]
    rfl
  refine ⟨_, _, hrepaired, hgrown, hclosed rfl, ?_, ?_, ?_⟩
  · rw [hstop]
    rcases htotal with hzero | rfl
    · exact .inl hzero
    · refine .inr ⟨rfl, ?_⟩
      rw [Folding.hasPositive_eq_false_iff]
      exact hnested.level_nonpos (Nat.lt_of_le_of_lt hle hlast)
  · rw [hstart]
    rintro rfl
    change (d.brackets fresh.classifier 0 last).hasOpen = false
    have hnonneg := hnested.level_nonneg hlast
    rw [Folding.hasOpen_eq_false_iff]
    rcases htotal with hzero | rfl
    · exact Folding.level_eq_zero_of_total hnonneg hzero
    · exact fun i => Int.le_antisymm (hnested.level_nonpos hcount i) (hnonneg i)
  · rw [hstop]
    intro family honly hnot
    change (d.brackets fresh.classifier first last).hasOpen = false
    have hothers : ∀ i, i ≠ family → (d.brackets fresh.classifier first last).level i = 0 := by
      intro i hi
      rw [Document.level_brackets hle hlast]
      exact Blocks.depth_eq_zero (honly i hi) _ _
    rw [Folding.hasOpen_eq_false_iff]
    intro i
    by_cases hi : i = family
    · rw [hi, ← Folding.total_eq_level hothers]
      exact htotal.resolve_right hnot
    · exact hothers i hi

/-- A curly bracket is closed on the line on which a round one is opened. -/
def crossed : Document := ⟨["\x7b".toList, "  \x7d (".toList, "  x".toList, ")".toList]⟩

theorem crossed_counts :
    (∀ family < (start {} "plaintext").classifier.folding.size, ∀ n ≤ crossed.lineCount,
      0 ≤ Blocks.depth (crossed.lineFacts (start {} "plaintext").classifier) family 0 n) ∧
    (∀ family < (start {} "plaintext").classifier.folding.size,
      Blocks.depth (crossed.lineFacts (start {} "plaintext").classifier) family 0
        crossed.lineCount = 0) ∧
    ((start {} "plaintext").rawFolding crossed
      ((start {} "plaintext").expand crossed (.caret (.ofOffset 2 0)) .full false).1).hasOpen =
        true := by
  decide +kernel

theorem wellNested_crossed : crossed.WellNested (start {} "plaintext").classifier :=
  ⟨crossed_counts.1, crossed_counts.2.1⟩

/-- Two lines that close a curly bracket and open a round one have a total of zero, and a cursor
on the second of them grows no further. -/
theorem expand_full_leaves_open :
    crossed.WellNested (start {} "plaintext").classifier ∧
      ((start {} "plaintext").rawFolding crossed
        ((start {} "plaintext").expand crossed (.caret (.ofOffset 2 0)) .full false).1).hasOpen =
          true :=
  ⟨wellNested_crossed, crossed_counts.2.2⟩

theorem expand_brackets_of_crossed :
    0 < crossed.lineCount ∧ crossed.WellNested (start {} "plaintext").classifier ∧
      ∃ repaired grown,
        (((start {} "plaintext").askAll crossed []).expand crossed (.caret (.ofOffset 2 0))
          .disabled false).1 = repaired ∧
        (((start {} "plaintext").askAll crossed []).expand crossed (.caret (.ofOffset 2 0))
          .full false).1 = grown ∧
        ((start {} "plaintext").rawFolding crossed repaired).hasOpen = false ∧
        (((start {} "plaintext").rawFolding crossed grown).total = 0 ∨
          grown.stop.line = crossed.lastLine ∧
            ((start {} "plaintext").rawFolding crossed grown).hasPositive = false) := by
  have hcount : 0 < crossed.lineCount := by decide
  obtain ⟨repaired, grown, hrepaired, hgrown, hclosed, htotal, -⟩ :=
    expand_brackets_of_wellNested {} "plaintext" hcount wellNested_crossed
      (.caret (.ofOffset 2 0)) []
  exact ⟨hcount, wellNested_crossed, repaired, grown, hrepaired, hgrown, hclosed, htotal⟩

end Session

end BlockOrder
