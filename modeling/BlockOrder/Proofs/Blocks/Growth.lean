import BlockOrder.Blocks.Selection
import BlockOrder.Proofs.Blocks.Tiling

/-!
# Selections grow

Whatever the cache holds, a selection grows to whole lines of the document, among them the lines
it started with.  Without blank lines at either end it still is a range of whole lines, and it
starts with a line that is not blank if there was one.
-/

namespace BlockOrder

/-- The selection has become a larger one within the document. -/
structure Selection.Grows (d : Document) (s s' : Selection) : Prop where
  first : s'.first ≤ s.first
  last : s.last ≤ s'.last
  ordered : s'.first ≤ s'.last
  within : s'.last ≤ d.lastLine

namespace Workspace

variable {w : Workspace}

theorem line_returns (hw : w.cancelled = false) (n : Nat) :
    Returns (w.line n) fun _ => True := by
  intro c
  obtain ⟨c', hc⟩ := ensure_ok hw n n c
  refine ⟨c'.get? n, c', ?_, trivial⟩
  rw [line, bind_of_ok hc]
  rfl

theorem mergeLine_returns (hw : w.cancelled = false) (folding : Folding) (n : Nat) :
    Returns (w.mergeLine folding n) fun _ => True := by
  refine (line_returns hw n).bind fun f _ => ?_
  cases f <;> exact .pure trivial

theorem selectLines_returns (hw : w.cancelled = false) (first last : Nat) :
    Returns (w.selectLines first last) fun s => s.first = first ∧ s.last = last := by
  intro c
  obtain ⟨ls, c', hls, -⟩ := lines_ok hw first last c
  refine ⟨⟨first, last, (ls.filterMap id).foldl (fun f l => f.merge l.folding)
    w.classifier.folding.closed⟩, c', ?_, rfl, rfl⟩
  rw [selectLines, bind_of_ok hls, check_of_not_cancelled hw]
  rfl

theorem balance_returns (hw : w.cancelled = false) {s₀ : Selection} (fuel : Nat) (s : Selection)
    (hs : s₀.Grows w.document s) : Returns (w.balance fuel s) (s₀.Grows w.document) := by
  induction fuel generalizing s with
  | zero => exact .pure hs
  | succ fuel ih =>
      unfold balance
      rw [check_of_not_cancelled hw]
      simp only [pure_bind]
      split
      · next hdown =>
          simp only [Bool.and_eq_true, decide_eq_true_eq] at hdown
          refine (mergeLine_returns hw _ _).bind fun folding _ => ih _ ⟨hs.first, ?_, ?_, hdown.2⟩
          · exact Nat.le_succ_of_le hs.last
          · exact Nat.le_succ_of_le hs.ordered
      split
      · refine (mergeLine_returns hw _ _).bind fun folding _ => ih _ ⟨?_, hs.last, ?_, hs.within⟩
        · exact Nat.le_trans (Nat.sub_le _ _) hs.first
        · exact Nat.le_trans (Nat.sub_le _ _) hs.ordered
      · exact .pure hs

theorem neighbour?_le {line next : Nat} {side : Side} (hline : line ≤ w.document.lastLine)
    (hnext : w.neighbour? line side = some next) : next ≤ w.document.lastLine := by
  cases side with
  | up =>
      by_cases h : 0 < line
      · simp only [neighbour?, if_pos h, Option.some.injEq] at hnext
        omega
      · simp only [neighbour?, if_neg h, reduceCtorEq] at hnext
  | down =>
      by_cases h : line + 1 < w.document.lineCount
      · simp only [neighbour?, if_pos h, Option.some.injEq] at hnext
        simp only [Document.lastLine]
        omega
      · simp only [neighbour?, if_neg h, reduceCtorEq] at hnext

theorem grows_extend {s₀ s : Selection} (hs : s₀.Grows w.document s) {side : Side} {next : Nat}
    (hnext : w.neighbour? (s.edge side) side = some next) (f : LineFacts) :
    s₀.Grows w.document (s.extend next f) := by
  have hedge : s.edge side ≤ w.document.lastLine := by
    cases side with
    | up => exact Nat.le_trans hs.ordered hs.within
    | down => exact hs.within
  refine ⟨Nat.le_trans (Nat.min_le_left _ _) hs.first,
    Nat.le_trans hs.last (Nat.le_max_left _ _), ?_,
    Nat.max_le.mpr ⟨hs.within, neighbour?_le hedge hnext⟩⟩
  exact Nat.le_trans (Nat.min_le_left _ _) (Nat.le_trans hs.ordered (Nat.le_max_left _ _))

theorem advance_returns (hw : w.cancelled = false) {s₀ : Selection} (g : Growth) (least : Nat)
    (side : Side) (fuel : Nat) (a : Advance) (hprevious : s₀.Grows w.document a.previous)
    (hcurrent : s₀.Grows w.document a.current) :
    Returns (w.advance g least side fuel a) fun a' =>
      s₀.Grows w.document a'.previous ∧ s₀.Grows w.document a'.current := by
  induction fuel generalizing a with
  | zero => exact .pure ⟨hprevious, hcurrent⟩
  | succ fuel ih =>
      unfold advance
      split
      · exact .pure ⟨hprevious, hcurrent⟩
      · next next hnext =>
          rw [check_of_not_cancelled hw]
          simp only [pure_bind]
          refine (line_returns hw next).bind fun f _ => ?_
          cases f with
          | none => exact .pure ⟨hprevious, hcurrent⟩
          | some f =>
              dsimp only
              split
              · exact ih _ hcurrent (grows_extend hcurrent hnext f)
              · exact .pure ⟨hprevious, hcurrent⟩

theorem growTowards_returns (hw : w.cancelled = false) {s₀ : Selection} (g : Growth)
    (least : Nat) (side : Side) (s : Selection) (hs : s₀.Grows w.document s) :
    Returns (w.growTowards g least side s) (s₀.Grows w.document) := by
  refine (line_returns hw _).bind fun edge _ => ?_
  refine (advance_returns hw g least side _ _ hs hs).bind fun a ha => .pure ?_
  split
  · exact ha.1
  · exact ha.2

theorem expand_returns (hw : w.cancelled = false) (r : Range) (e : Expansion) :
    Returns (w.expand r e) fun r' => ∃ first last, first ≤ (w.document.clamp r).start.line ∧
      (w.document.clamp r).stop.line ≤ last ∧ first ≤ last ∧ last ≤ w.document.lastLine ∧
        r' = w.document.lineRange first last := by
  have hfits := w.document.fits_clamp r
  refine (selectLines_returns hw _ _).bind fun s₀ hs₀ => ?_
  have hgrows : s₀.Grows w.document s₀ := by
    refine ⟨Nat.le_refl _, Nat.le_refl _, ?_, ?_⟩
    · rw [hs₀.1, hs₀.2]
      exact hfits.line_le
    · rw [hs₀.2]
      exact hfits.stop.line_le
  refine (balance_returns hw _ s₀ hgrows).bind fun s hs => ?_
  have hresult : ∀ s, s₀.Grows w.document s → ∃ first last,
      first ≤ (w.document.clamp r).start.line ∧ (w.document.clamp r).stop.line ≤ last ∧
        first ≤ last ∧ last ≤ w.document.lastLine ∧
          w.document.lineRange s.first s.last = w.document.lineRange first last := by
    intro s hs
    exact ⟨s.first, s.last, hs₀.1 ▸ hs.first, hs₀.2 ▸ hs.last, hs.ordered, hs.within, rfl⟩
  cases e.growth? with
  | none => exact .pure (hresult s hs)
  | some g =>
      refine Returns.get_bind fun c => ?_
      refine (growTowards_returns hw _ _ _ s hs).bind fun s' hs' => ?_
      refine (growTowards_returns hw _ _ _ s' hs').bind fun s'' hs'' => ?_
      exact .pure (hresult s'' hs'')

end Workspace

/-! ## Blank lines -/

namespace Document

variable {d : Document}

theorem skipBlankLines_spec (d : Document) (room line : Nat) :
    line ≤ d.skipBlankLines room line ∧ d.skipBlankLines room line ≤ line + room ∧
      ∀ n, line ≤ n → n ≤ line + room → d.isBlankLine n = false →
        d.isBlankLine (d.skipBlankLines room line) = false := by
  induction room generalizing line with
  | zero =>
      refine ⟨Nat.le_refl _, Nat.le_refl _, fun n hn hn' hblank => ?_⟩
      obtain rfl : n = line := by omega
      exact hblank
  | succ room ih =>
      unfold skipBlankLines
      split
      · next hblank =>
          obtain ⟨hle, hge, hfound⟩ := ih (line + 1)
          refine ⟨by omega, by omega, fun n hn hn' hnot => hfound n ?_ (by omega) hnot⟩
          rcases Nat.lt_or_eq_of_le hn with hlt | rfl
          · exact hlt
          · rw [hblank] at hnot
            cases hnot
      · next hblank =>
          refine ⟨Nat.le_refl _, Nat.le_add_right _ _, fun _ _ _ _ => ?_⟩
          exact Bool.not_eq_true _ ▸ hblank

theorem skipBlankLinesBack_spec (d : Document) (room line : Nat) :
    d.skipBlankLinesBack room line ≤ line ∧ line - room ≤ d.skipBlankLinesBack room line := by
  induction room generalizing line with
  | zero => exact ⟨Nat.le_refl _, Nat.le_refl _⟩
  | succ room ih =>
      unfold skipBlankLinesBack
      split
      · have := ih (line - 1)
        omega
      · exact ⟨Nat.le_refl _, Nat.sub_le _ _⟩

/-- Without blank lines at either end, whole lines are whole lines. -/
theorem exists_trimRange {first last : Nat} (hle : first ≤ last) (hlast : last ≤ d.lastLine) :
    ∃ a b, a ≤ b ∧ b ≤ d.lastLine ∧ d.trimRange (d.lineRange first last) = d.lineRange a b ∧
      ∀ n, first ≤ n → n ≤ last → d.isBlankLine n = false → d.isBlankLine a = false := by
  obtain ⟨hfirst, hroom, hfound⟩ := d.skipBlankLines_spec (last - first) first
  obtain ⟨hback, hback'⟩ := d.skipBlankLinesBack_spec
    (last - d.skipBlankLines (last - first) first) last
  refine ⟨d.skipBlankLines (last - first) first, d.skipBlankLinesBack
    (last - d.skipBlankLines (last - first) first) last, by omega, by omega, ?_, ?_⟩
  · rw [trimRange, lineRange_eq hle hlast, clamp_of_fits (fits_lines hle hlast)]
    rfl
  · intro n hn hn'
    exact hfound n hn (by omega)

end Document

namespace Workspace

variable {w : Workspace}

/-- A selection without blank lines at either end is whole lines. -/
theorem select_returns (hw : w.cancelled = false) (r : Range) (e : Expansion) :
    Returns (w.select r e) fun r' => ∃ a b, a ≤ b ∧ b ≤ w.document.lastLine ∧
      r' = w.document.lineRange a b ∧
        ∀ n, (w.document.clamp r).start.line ≤ n → n ≤ (w.document.clamp r).stop.line →
          w.document.isBlankLine n = false → w.document.isBlankLine a = false := by
  refine (expand_returns hw r e).bind fun r' hr' => ?_
  obtain ⟨first, last, hfirst, hstop, hle, hlast, rfl⟩ := hr'
  obtain ⟨a, b, hab, hb, htrim, hfound⟩ := Document.exists_trimRange hle hlast
  exact .pure ⟨a, b, hab, hb, htrim, fun n hn hn' => hfound n (by omega) (by omega)⟩

end Workspace

end BlockOrder
