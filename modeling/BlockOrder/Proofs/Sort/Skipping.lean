import BlockOrder.Proofs.Sort.Nesting
import BlockOrder.Session

/-!
# Levels that are skipped

If sorting leaves alone more outer levels than it goes down, there is no level left that it
arranges.  Blocks are still cut into head, inner blocks and tail on every level, and their texts
are put together again; what comes out is the text of the blocks in the document.
-/

namespace BlockOrder

/-- More levels are left alone than there are to go down. -/
def Level.Skipped (l : Level) : Prop := ∃ n, l.depth = .limited n ∧ n < l.skipParents

namespace Level.Skipped

variable {l : Level}

theorem pos (h : l.Skipped) : 0 < l.skipParents := by
  obtain ⟨n, -, hn⟩ := h
  exact Nat.zero_lt_of_lt hn

theorem inner (h : l.Skipped) (hdepth : l.depth.isZero = false) : l.inner.Skipped := by
  obtain ⟨n, hlimit, hn⟩ := h
  have hne : n ≠ 0 := by
    rintro rfl
    rw [hlimit] at hdepth
    cases hdepth
  refine ⟨n - 1, ?_, ?_⟩
  · rw [Level.inner, hlimit]
    rfl
  · change n - 1 < l.skipParents - 1
    omega

end Level.Skipped

/-- In the course of sorting no edits are pending. -/
def SortState.Unedited (s : SortState) : Prop := s.pending = .none

namespace Workspace

variable {w : Workspace}

theorem arrangeLevel_of_skipped (k : KeyOrder) {l : Level} (hl : l.Skipped) (texts : List Text) :
    w.arrangeLevel k l texts = pure texts := if_pos hl.pos

/-- A block is its own text if all levels inside it are skipped. -/
theorem blockText_yields_slice (hw : w.cancelled = false) (k : KeyOrder) (room : Nat) {l : Level}
    (hl : l.Skipped) (r : Range) :
    Yields SortState.Unedited (w.blockText k room l r).run (.ok (w.document.slice r))
      SortState.Unedited := by
  have hparts : ∀ r, Yields SortState.Unedited (w.editedText r) (w.document.slice r)
      SortState.Unedited := editedText_yields hw fun _ hs => hs
  have hcopied : ∀ r, Yields SortState.Unedited
      (liftM (w.editedText (w.document.clamp r)) : Sorting Text).run (.ok (w.document.slice r))
      SortState.Unedited := by
    intro r
    rw [← Document.slice_clamp]
    exact (hparts _).run_lift
  induction room generalizing l r with
  | zero => exact hcopied r
  | succ room ih =>
      unfold blockText
      simp only
      split
      · exact hcopied r
      · next hdeeper =>
          have hdepth : l.depth.isZero = false := by
            rw [Bool.or_eq_true, not_or, Bool.not_eq_true] at hdeeper
            exact hdeeper.1
          have hinner := hl.inner hdepth
          rw [run_lift_bind]
          -- the inner blocks depend on the cache, but however the block is cut its text is the same
          intro s hs
          obtain ⟨ranges, cache, hranges, hsplit⟩ := split_ok hw (w.document.fits_clamp r) s
          rw [bind_of_ok hranges]
          rcases hsplit with hnone | ⟨split, hsome, hcuts⟩
          · rw [hnone]
            exact hcopied r _ hs
          · have htexts : Yields SortState.Unedited
                (w.blockTexts (w.blockText k room l.inner) split.inner).run
                (.ok (split.inner.map w.document.slice)) SortState.Unedited := by
              apply blockTexts_yields hw
              intro r' _
              exact ih hinner r'
            rw [hsome, ← Document.slice_clamp, ← hcuts.slice_eq]
            refine Yields.run_lift_bind (hparts split.head) (htexts.run_bind ?_) _ hs
            simp only [arrangeLevel_of_skipped k hinner, pure_bind]
            exact .run_lift_bind (hparts split.tail) (.pure _)

end Workspace

namespace Session

/-- Sorting that leaves alone more outer levels than it goes down returns the blocks as they are
in the document, whatever has been computed before. -/
theorem sortBlocks_of_skipped (s : Session) (d : Document) (o : SortOptions) {n : Nat}
    (hdepth : o.depth = .limited n) (hskip : n < o.skipParents) (blocks : List Range) :
    ∃ cache, s.sortBlocks d o blocks .none false =
      (.ok (blocks.map d.slice, .none), { s with cache }) := by
  have hl : Level.Skipped ⟨o.depth, o.skipParents⟩ := ⟨n, hdepth, hskip⟩
  have hlevel : Yields SortState.Unedited ((s.workspace d false).sortLevel o blocks).run
      (.ok (blocks.map d.slice)) SortState.Unedited := by
    unfold Workspace.sortLevel
    simp only [Workspace.arrangeLevel_of_skipped o.order hl]
    refine Yields.run_bind (Workspace.blockTexts_yields rfl fun r _ => ?_) (.pure _)
    exact Workspace.blockText_yields_slice rfl o.order _ hl r
  obtain ⟨⟨cache, pending, draws⟩, hok, hpending⟩ :=
    hlevel ⟨s.cache, .none, o.seed.map Keystream.ofSeed⟩ rfl
  obtain rfl : pending = .none := hpending
  have hrun := Workspace.sortBlocks_run hok
  change (s.workspace d false).sortBlocks o blocks .none s.cache = _ at hrun
  refine ⟨cache, ?_⟩
  rw [sortBlocks, run, hrun]
  rfl

/-- A block that starts in the middle of a line, with an inner level that would be shuffled. -/
theorem sortBlocks_of_skipped_mid_line :
    ∃ cache, (start {} "typescript").sortBlocks
        ⟨["f() \x7b".toList, "  b;".toList, "  a;".toList, "\x7d".toList]⟩
        { order := .ofOptions {} .rand, depth := .limited 1, skipParents := 2, seed := some 7 }
        [⟨.ofOffset 0 1, .ofOffset 2 3⟩, .lines 3 3] .none false =
      (.ok (["() \x7b\n  b;\n  a".toList, "\x7d".toList], .none),
        { start {} "typescript" with cache }) :=
  sortBlocks_of_skipped (start {} "typescript") _ _ (n := 1) rfl (by decide)
    [⟨.ofOffset 0 1, .ofOffset 2 3⟩, .lines 3 3]

end Session

end BlockOrder
