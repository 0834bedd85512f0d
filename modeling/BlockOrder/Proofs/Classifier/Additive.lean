import BlockOrder.Proofs.Classifier.Brackets
import BlockOrder.Proofs.Edit.Rearranging

/-!
# Counting is additive

Where every closing bracket counts, a text adds the same to the depths whatever they were before
it, for any number of them.  What is undone on a line depends on that line alone.  So the depths
of a text are the sums of what its lines add, and the facts about single lines are enough to
count the brackets of a stretch of a document.
-/

namespace BlockOrder

namespace Folding

/-- Depths added pair by pair. -/
def sum (families : Nat) (fs : List Folding) : Folding := fs.foldl merge (closed families)

theorem foldl_merge (f : Folding) (fs : List Folding) {families : Nat}
    (h : families ≤ f.levels.length) : fs.foldl merge f = f.merge (sum families fs) := by
  unfold sum
  induction fs generalizing f with
  | nil => exact ((merge_comm _ _).trans (closed_merge h)).symm
  | cons g fs ih =>
      have hwide : ∀ f : Folding, families ≤ f.levels.length →
          families ≤ (f.merge g).levels.length := by
        intro f hf
        rw [merge, length_addLevels]
        exact Nat.le_trans hf (Nat.le_max_left _ _)
      have hclosed : families ≤ (closed families).levels.length :=
        Nat.le_of_eq List.length_replicate.symm
      have hself : f.merge (closed families) = f := (merge_comm _ _).trans (closed_merge h)
      rw [List.foldl_cons, List.foldl_cons, ih _ (hwide f h), ih _ (hwide _ hclosed),
        ← merge_assoc f, ← merge_assoc f, hself]

theorem level_closed (families i : Nat) : (closed families).level i = 0 := by
  rw [level, closed, List.getElem?_replicate]
  split <;> rfl

theorem level_sum (families : Nat) (fs : List Folding) (i : Nat) :
    (sum families fs).level i = (fs.map (·.level i)).foldr (· + ·) 0 := by
  suffices ∀ f : Folding, (fs.foldl merge f).level i =
      f.level i + (fs.map (·.level i)).foldr (· + ·) 0 by
    rw [sum, this, level_closed, Int.zero_add]
  induction fs with
  | nil => exact fun f => (Int.add_zero _).symm
  | cons g fs ih =>
      intro f
      rw [List.foldl_cons, ih, level_merge, List.map_cons, List.foldr_cons, Int.add_assoc]

end Folding

namespace Classifier

variable (c : Classifier)

theorem foldingOf_raw (initial : Folding) (t : Text) :
    c.foldingOf .raw initial t = initial.merge (c.lineFolding t) := by
  obtain ⟨line, rest, hlines⟩ := List.exists_cons_of_ne_nil t.lines_ne_nil
  have hwide : ∀ f : Folding, c.folding.size ≤
      (c.folding.count .raw f (c.stripCommentsAndStrings line)).levels.length := by
    intro f
    rw [FoldTable.length_count]
    exact Nat.le_max_left _ _
  rw [lineFolding, foldingOf, foldingOf, hlines, List.foldl_cons, List.foldl_cons,
    foldl_count_raw rest (hwide initial), foldl_count_raw rest (hwide c.folding.closed),
    FoldTable.count_raw initial, Folding.merge_assoc]

theorem lineFolding_unlines {lines : List Text} (h : lines ≠ []) :
    c.lineFolding (Text.unlines lines) =
      Folding.sum c.folding.size (lines.map c.lineFolding) := by
  induction lines with
  | nil => exact absurd rfl h
  | cons line rest ih =>
      have hwide : c.folding.size ≤ (c.lineFolding line).levels.length :=
        Nat.le_of_eq (c.length_lineFolding line).symm
      have hfirst : Folding.sum c.folding.size ((line :: rest).map c.lineFolding) =
          (c.lineFolding line).merge (Folding.sum c.folding.size (rest.map c.lineFolding)) := by
        rw [Folding.sum, List.map_cons, List.foldl_cons, Folding.closed_merge hwide,
          Folding.foldl_merge _ _ hwide]
      rw [hfirst]
      by_cases hrest : rest = []
      · subst hrest
        exact ((Folding.merge_comm _ _).trans (Folding.closed_merge hwide)).symm
      · rw [Text.unlines_cons_of_ne_nil line hrest, lineFolding_append_newline, ih hrest]

/-- The depths after a text are those before it and what the text adds to none, and the text of
whole lines adds what the facts about these lines say. -/
theorem foldingOf_raw_additive :
    (∀ (initial : Folding) (t : Text), c.foldingOf .raw initial t =
      initial.merge (c.foldingOf .raw c.folding.closed t)) ∧
    ∀ (d : Document) (first last : Nat), first ≤ last → last < d.lineCount →
      c.foldingOf .raw c.folding.closed (d.slice (.lines first last)) =
          Folding.sum c.folding.size (((d.lines.drop first).take (last - first + 1)).map
            fun line => (LineFacts.compute c line).folding) ∧
        ∀ family, (c.foldingOf .raw c.folding.closed (d.slice (.lines first last))).level family =
          (((d.lines.drop first).take (last - first + 1)).map
            fun line => (LineFacts.compute c line).folding.level family).foldr (· + ·) 0 := by
  constructor
  · intro initial t
    exact c.foldingOf_raw initial t
  · intro d first last hle hlast
    have hend : last ≤ d.lastLine := Nat.le_sub_one_of_lt hlast
    have hlines : d.lines ≠ [] := List.ne_nil_of_length_pos (Nat.zero_lt_of_lt hlast)
    have hslice : d.slice (.lines first last) =
        Text.unlines ((d.lines.drop first).take (last - first + 1)) := by
      rw [← Document.slice_clamp]
      change d.slice (d.lineRange first last) = _
      rw [Document.lineRange_eq hle hend]
      exact Document.slice_eq_unlines (Document.fits_lines hle hend) rfl rfl hlines
    have hne : (d.lines.drop first).take (last - first + 1) ≠ [] := by
      apply List.ne_nil_of_length_pos
      change last < d.lines.length at hlast
      rw [List.length_take, List.length_drop]
      omega
    have hsum := c.lineFolding_unlines hne
    rw [hslice]
    refine ⟨hsum, fun family => ?_⟩
    change (c.lineFolding _).level family = _
    rw [hsum, Folding.level_sum, List.map_map]
    rfl

/-- Angle brackets and curly ones, with comments that start with a hash. -/
def angled : Classifier where
  tabSize := 4
  comments := [.seq (.one (.single '#')) (.star true (.one .everything))]
  strings := []
  decorators := []
  directives := []
  folding := ⟨[⟨"<>", .one (.single '<'), .one (.single '>'), some 1⟩,
    ⟨"\x7b\x7d", .one (.single '\x7b'), .one (.single '\x7d'), none⟩]⟩
  indentIgnore := none
  complete := none
  incomplete := none
  header := none
  forceFirst := none
  forceLast := none
  separators := []

/-- The opening of an angle bracket is undone on the line on which a curly one opens. -/
theorem foldingOf_raw_additive_two_lines :
    0 ≤ 1 ∧ 1 < (Document.mk ["a < b \x7b".toList, "<< \x7d > # <".toList]).lineCount ∧
      angled.foldingOf .raw angled.folding.closed
          ((Document.mk ["a < b \x7b".toList, "<< \x7d > # <".toList]).slice (.lines 0 1)) =
        Folding.sum 2 [⟨[0, 1]⟩, ⟨[1, -1]⟩] := by
  have hlines : (["a < b \x7b".toList, "<< \x7d > # <".toList].map fun line =>
      (LineFacts.compute angled line).folding) = [⟨[0, 1]⟩, ⟨[1, -1]⟩] := by
    decide +kernel
  have hadd := (foldingOf_raw_additive angled).2
    ⟨["a < b \x7b".toList, "<< \x7d > # <".toList]⟩ 0 1 (by decide) (by decide)
  exact ⟨by decide, by decide, hadd.1.trans (congrArg (Folding.sum 2) hlines)⟩

end Classifier

end BlockOrder
