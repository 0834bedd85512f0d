import BlockOrder.Proofs.Blocks.Balance

/-!
# Repaired selections

A selection that is only repaired takes in lines below while some bracket is open and lines above
while some bracket is closed that was not opened.  It stops where neither helps, or where the
document ends, and repairing it once more changes nothing.
-/

namespace BlockOrder

namespace Selection.Balanced

variable {d : Document} {k : Classifier} {s₀ s : Selection}

theorem last_of_depth_pos (h : s.Balanced d) (hs : s₀.Tracks d k s) (hcount : 0 < d.lineCount) :
    (∀ family, Blocks.depth (d.lineFacts k) family s.first (s.last + 1) ≤ 0) ∨
      s.last = d.lastLine := by
  have hlast := Document.lt_lineCount_of_le hs.within (List.length_pos_iff.mp hcount)
  cases hpositive : s.folding.hasPositive with
  | true => exact .inr (Nat.le_antisymm hs.within (h.down hpositive))
  | false =>
      left
      intro family
      rw [Folding.hasPositive_eq_false_iff, hs.folding] at hpositive
      rw [← Document.level_brackets hs.ordered hlast]
      exact hpositive family

theorem first_of_depth_neg (h : s.Balanced d) (hs : s₀.Tracks d k s) (hcount : 0 < d.lineCount) :
    (∀ family, 0 ≤ Blocks.depth (d.lineFacts k) family s.first (s.last + 1)) ∨ s.first = 0 := by
  have hlast := Document.lt_lineCount_of_le hs.within (List.length_pos_iff.mp hcount)
  cases hnegative : s.folding.hasNegative with
  | true => exact .inr (h.up hnegative)
  | false =>
      left
      intro family
      rw [Folding.hasNegative_eq_false_iff, hs.folding] at hnegative
      rw [← Document.level_brackets hs.ordered hlast]
      exact hnegative family

end Selection.Balanced

namespace Workspace

variable {w : Workspace} {s₀ s : Selection}

theorem balance_of_balanced (hw : w.cancelled = false) (hs : s.Balanced w.document) (fuel : Nat) :
    w.balance fuel s = pure s := by
  cases fuel with
  | zero => rfl
  | succ fuel =>
      have hdown : (s.folding.hasPositive && s.last < w.document.lastLine) = false := by
        cases hpositive : s.folding.hasPositive with
        | false => rfl
        | true => simpa using hs.down hpositive
      have hup : (s.folding.hasNegative && 0 < s.first) = false := by
        cases hnegative : s.folding.hasNegative with
        | false => rfl
        | true => simpa using hs.up hnegative
      rw [balance, check_of_not_cancelled hw, pure_bind, hdown, hup]
      rfl

theorem expand_disabled_delivers (hw : w.cancelled = false) (hcount : 0 < w.document.lineCount)
    (r : Range) :
    Delivers w.Faithful (w.expand r .disabled) fun r' => ∃ s₀ s : Selection,
      s₀.Tracks w.document w.classifier s ∧ s.Balanced w.document ∧
        r' = w.document.lineRange s.first s.last := by
  refine balanced_bind_delivers hw hcount r fun s₀ s _ _ hs hbalanced => ?_
  exact .pure ⟨s₀, s, hs, hbalanced, rfl⟩

/-- A balanced selection counts the same brackets when it is made anew, so nothing is taken in. -/
theorem expand_disabled_of_balanced (hw : w.cancelled = false)
    (hcount : 0 < w.document.lineCount) (hs : s₀.Tracks w.document w.classifier s)
    (hbalanced : s.Balanced w.document) :
    Delivers w.Faithful (w.expand (w.document.lineRange s.first s.last) .disabled)
      (· = w.document.lineRange s.first s.last) := by
  have hlines := Document.lineRange_eq hs.ordered hs.within
  have hclamp : w.document.clamp (w.document.lineRange s.first s.last) =
      ⟨.ofOffset s.first 0, w.document.lineStop s.last⟩ := by
    rw [hlines]
    exact Document.clamp_of_fits (Document.fits_lines hs.ordered hs.within)
  have hselect := selectLines_delivers hw hs.ordered (lt_lineCount hcount hs)
  rw [← hs.folding] at hselect
  unfold expand
  rw [hclamp]
  refine hselect.bind fun s' hs' => ?_
  subst hs'
  rw [balance_of_balanced hw hbalanced, pure_bind]
  exact .pure rfl

end Workspace

namespace Session

theorem expand_of_ok {s : Session} {d : Document} {r range : Range} {e : Expansion} {c : LineCache}
    (h : (s.workspace d false).expand r e s.cache = .ok range c) :
    (s.expand d r e false).1 = range :=
  congrArg (fun ran => ran.1.getD (d.clamp r)) (run_of_ok h)

/-- A selection grows to whole lines, among them its own.  If it is only repaired, no bracket of
these lines is left open unless they reach the last line, and none is closed that was not opened
unless they reach the first line.  Repairing them again changes nothing, and in a well nested
document their brackets are balanced. -/
theorem expand_disabled_repairs (config : Config) (language : String) {d : Document}
    (hcount : 0 < d.lineCount) (r : Range) (earlier : List (Bool × Query)) :
    (∀ e, ∃ first last,
      (((start config language).askAll d earlier).expand d r e false).1 = d.lineRange first last ∧
      first ≤ (d.clamp r).start.line ∧ (d.clamp r).stop.line ≤ last ∧ last ≤ d.lastLine) ∧
    ∃ first last,
      (((start config language).askAll d earlier).expand d r .disabled false).1 =
        d.lineRange first last ∧ first ≤ last ∧ last ≤ d.lastLine ∧
      ((∀ family, Blocks.depth (d.lineFacts (start config language).classifier) family first
        (last + 1) ≤ 0) ∨ last = d.lastLine) ∧
      ((∀ family, 0 ≤ Blocks.depth (d.lineFacts (start config language).classifier) family first
        (last + 1)) ∨ first = 0) ∧
      (∀ again, (((start config language).askAll d again).expand d (d.lineRange first last)
        .disabled false).1 = d.lineRange first last) ∧
      (d.WellNested (start config language).classifier → ∀ family,
        Blocks.depth (d.lineFacts (start config language).classifier) family first
          (last + 1) = 0) := by
  have hstart := stands_start config language d
  have hw : ((start config language).workspace d false).cancelled = false := rfl
  constructor
  · intro e
    generalize (start config language).askAll d earlier = s
    obtain ⟨range, c, hrun, first, last, hfirst, hlast, -, hwithin, rfl⟩ :=
      Workspace.expand_returns (w := s.workspace d false) rfl r e s.cache
    exact ⟨first, last, expand_of_ok hrun, hfirst, hlast, hwithin⟩
  · obtain ⟨s₀, s, hs, hbalanced, hrange⟩ := (hstart.askAll earlier).expand_of_delivers
      (Workspace.expand_disabled_delivers hw hcount r)
    have hlast := Document.lt_lineCount_of_le hs.within (List.length_pos_iff.mp hcount)
    refine ⟨s.first, s.last, hrange, hs.ordered, hs.within, hbalanced.last_of_depth_pos hs hcount,
      hbalanced.first_of_depth_neg hs hcount, fun again => ?_, fun hnested family => ?_⟩
    · exact (hstart.askAll again).expand_of_delivers
        (Workspace.expand_disabled_of_balanced hw hcount hs hbalanced)
    · have hclosed := Workspace.hasOpen_of_balanced
        (w := (start config language).workspace d false) hcount hnested hs hbalanced
      rw [Folding.hasOpen_eq_false_iff, hs.folding] at hclosed
      rw [← hclosed family]
      exact (Document.level_brackets hs.ordered hlast family).symm

/-- The second line closes a bracket and opens another, so lines are taken in on both sides. -/
theorem expand_disabled_repairs_crossed :
    0 < crossed.lineCount ∧ crossed.WellNested (start {} "plaintext").classifier ∧
      ∃ first last,
        (((start {} "plaintext").askAll crossed []).expand crossed (.caret (.ofOffset 1 0))
          .disabled false).1 = crossed.lineRange first last ∧
        ∀ family, Blocks.depth (crossed.lineFacts (start {} "plaintext").classifier) family first
          (last + 1) = 0 := by
  have hcount : 0 < crossed.lineCount := by decide
  obtain ⟨-, first, last, hrange, -, -, -, -, -, hnested⟩ :=
    expand_disabled_repairs {} "plaintext" hcount (.caret (.ofOffset 1 0)) []
  exact ⟨hcount, wellNested_crossed, first, last, hrange, hnested wellNested_crossed⟩

end Session

end BlockOrder
