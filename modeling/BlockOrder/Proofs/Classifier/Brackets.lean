import BlockOrder.Classifier.Basic
import BlockOrder.Proofs.Blocks.Boundaries

/-!
# Brackets of a text

Depths of brackets add up.  Where every closing bracket counts, the depths after a text are those
before it and those of its lines, so that the brackets of whole lines of a document can be counted
line by line and from either end.
-/

namespace BlockOrder

namespace Folding

theorem addLevels_nil (as : List Int) : addLevels as [] = as := by
  cases as <;> rfl

theorem addLevels_comm (as bs : List Int) : addLevels as bs = addLevels bs as := by
  induction as generalizing bs with
  | nil => rw [addLevels_nil, addLevels]
  | cons a as ih =>
      cases bs with
      | nil => rfl
      | cons b bs => rw [addLevels, addLevels, ih, Int.add_comm]

theorem addLevels_assoc (as bs cs : List Int) :
    addLevels (addLevels as bs) cs = addLevels as (addLevels bs cs) := by
  induction as generalizing bs cs with
  | nil => rfl
  | cons a as ih =>
      cases bs with
      | nil => rfl
      | cons b bs =>
          cases cs with
          | nil => rfl
          | cons c cs => simp only [addLevels, ih, Int.add_assoc]

theorem replicate_addLevels {as : List Int} {n : Nat} (h : n ≤ as.length) :
    addLevels (.replicate n 0) as = as := by
  induction as generalizing n with
  | nil =>
      obtain rfl := Nat.le_zero.mp h
      rfl
  | cons a as ih =>
      cases n with
      | zero => rfl
      | succ n =>
          rw [List.replicate_succ, addLevels, ih (Nat.le_of_succ_le_succ h), Int.zero_add]

theorem length_addLevels (as bs : List Int) :
    (addLevels as bs).length = max as.length bs.length := by
  induction as generalizing bs with
  | nil => exact (Nat.zero_max _).symm
  | cons a as ih =>
      cases bs with
      | nil => exact (Nat.max_zero _).symm
      | cons b bs =>
          rw [addLevels, List.length_cons, List.length_cons, List.length_cons, ih]
          omega

theorem merge_comm (f g : Folding) : f.merge g = g.merge f :=
  congrArg mk (addLevels_comm _ _)

theorem merge_assoc (f g h : Folding) : (f.merge g).merge h = f.merge (g.merge h) :=
  congrArg mk (addLevels_assoc _ _ _)

theorem closed_merge {f : Folding} {families : Nat} (h : families ≤ f.levels.length) :
    (closed families).merge f = f := congrArg mk (replicate_addLevels h)

theorem foldl_add_eq (start : Int) (levels : List Int) :
    levels.foldl (· + ·) start = start + total ⟨levels⟩ := by
  induction levels generalizing start with
  | nil => exact (Int.add_zero start).symm
  | cons x levels ih => rw [total, List.foldl_cons, List.foldl_cons, ih, ih (0 + x), Int.zero_add,
      Int.add_assoc]

theorem total_cons (x : Int) (levels : List Int) : total ⟨x :: levels⟩ = x + total ⟨levels⟩ := by
  rw [total, List.foldl_cons, foldl_add_eq, Int.zero_add]

/-- Properties that zero lacks can be looked for among the depths. -/
theorem any_levels_eq_false_iff (f : Folding) {p : Int → Bool} (hp : p 0 = false) :
    f.levels.any p = false ↔ ∀ i, p (f.level i) = false := by
  rw [List.any_eq_false]
  constructor
  · intro h i
    rw [level]
    cases hi : f.levels[i]? with
    | none => exact hp
    | some x => simpa using h x (List.mem_of_getElem? hi)
  · intro h x hx
    obtain ⟨i, hi⟩ := List.getElem?_of_mem hx
    have hx := h i
    rw [level, hi, Option.getD_some] at hx
    rw [hx]
    exact Bool.false_ne_true

theorem hasPositive_eq_false_iff (f : Folding) : f.hasPositive = false ↔ ∀ i, f.level i ≤ 0 := by
  rw [hasPositive, any_levels_eq_false_iff f rfl]
  simp

theorem hasNegative_eq_false_iff (f : Folding) : f.hasNegative = false ↔ ∀ i, 0 ≤ f.level i := by
  rw [hasNegative, any_levels_eq_false_iff f rfl]
  simp

theorem level_zero_cons (x : Int) (xs : List Int) : level ⟨x :: xs⟩ 0 = x := rfl

theorem level_succ_cons (x : Int) (xs : List Int) (i : Nat) :
    level ⟨x :: xs⟩ (i + 1) = level ⟨xs⟩ i := rfl

theorem total_nonneg {f : Folding} (h : ∀ i, 0 ≤ f.level i) : 0 ≤ f.total := by
  obtain ⟨levels⟩ := f
  induction levels with
  | nil => exact Int.le_refl 0
  | cons x levels ih =>
      rw [total_cons]
      exact Int.add_nonneg (h 0) (ih fun i => h (i + 1))

/-- Depths that do not cancel out are zero if their total is. -/
theorem level_eq_zero_of_total {f : Folding} (hsign : ∀ i, 0 ≤ f.level i) (htotal : f.total = 0) :
    ∀ i, f.level i = 0 := by
  obtain ⟨levels⟩ := f
  induction levels with
  | nil => exact fun i => rfl
  | cons x levels ih =>
      have hx : 0 ≤ x := hsign 0
      have hrest : 0 ≤ total ⟨levels⟩ := total_nonneg fun i => hsign (i + 1)
      rw [total_cons] at htotal
      intro i
      cases i with
      | zero => exact (by omega : x = 0)
      | succ i => exact ih (fun i => hsign (i + 1)) (by omega) i

/-- If there is only one pair of brackets, its depth is the total. -/
theorem total_eq_level {f : Folding} {family : Nat} (h : ∀ i, i ≠ family → f.level i = 0) :
    f.total = f.level family := by
  obtain ⟨levels⟩ := f
  induction levels generalizing family with
  | nil => rfl
  | cons x levels ih =>
      rw [total_cons]
      cases family with
      | zero =>
          -- No pair of brackets is left, so any index past the last depth is the one to take.
          have hrest : ∀ i, i ≠ levels.length → level ⟨levels⟩ i = 0 :=
            fun i _ => h (i + 1) (by omega)
          have hnone : level ⟨levels⟩ levels.length = 0 := by simp [level]
          rw [ih hrest, hnone, level_zero_cons, Int.add_zero]
      | succ family =>
          have hx : x = 0 := h 0 (by omega)
          have hrest : total ⟨levels⟩ = level ⟨levels⟩ family :=
            ih fun i hi => h (i + 1) (by omega)
          rw [hrest, level_succ_cons, hx, Int.zero_add]

end Folding

/-! ## Counting -/

namespace FoldTable

variable {t : FoldTable}

theorem levelAfter_raw (aborted : Bool) (m : FoldMatches) (before : Int) :
    levelAfter .raw aborted m before = before + levelAfter .raw aborted m 0 := by
  simp only [levelAfter]
  split
  · next h =>
      simp only [Bool.and_eq_true, decide_eq_true_eq] at h
      rw [if_pos (by simp only [Bool.and_eq_true, decide_eq_true_eq]; exact ⟨h.1, by omega⟩)]
      exact (Int.add_zero _).symm
  · next h =>
      simp only [Bool.and_eq_true, decide_eq_true_eq] at h
      rw [if_neg (by
        simp only [Bool.and_eq_true, decide_eq_true_eq]
        exact fun h' => h ⟨h'.1, by omega⟩)]
      omega

theorem levelsAfter_raw (all : List FoldMatches) (pairs : List (FoldFamily × FoldMatches))
    {levels : List Int} (h : pairs.length ≤ levels.length) :
    levelsAfter .raw all pairs levels =
      Folding.addLevels levels (levelsAfter .raw all pairs (.replicate pairs.length 0)) := by
  induction pairs generalizing levels with
  | nil => exact (Folding.addLevels_nil levels).symm
  | cons pair pairs ih =>
      obtain ⟨f, m⟩ := pair
      cases levels with
      | nil => cases h
      | cons level levels =>
          have hrest := ih (Nat.le_of_succ_le_succ h)
          simp only [List.length_cons, List.replicate_succ, levelsAfter, Folding.addLevels]
          rw [levelAfter_raw, hrest]

theorem length_levelsAfter (mode : FoldMode) (all : List FoldMatches)
    (pairs : List (FoldFamily × FoldMatches)) {levels : List Int}
    (h : pairs.length ≤ levels.length) :
    (levelsAfter mode all pairs levels).length = levels.length := by
  induction pairs generalizing levels with
  | nil => rfl
  | cons pair pairs ih =>
      obtain ⟨f, m⟩ := pair
      cases levels with
      | nil => cases h
      | cons level levels =>
          simp only [levelsAfter, List.length_cons, ih (Nat.le_of_succ_le_succ h)]

theorem length_zip_matchesIn (t : FoldTable) (text : Text) :
    (t.families.zip (t.matchesIn text)).length = t.size := by
  rw [List.length_zip, matchesIn, List.length_map, Nat.min_self, size]

theorem closed_merge_eq {initial : Folding} (h : t.size ≤ initial.levels.length) :
    t.closed.merge initial = initial := Folding.closed_merge h

theorem length_closed (t : FoldTable) : t.closed.levels.length = t.size := List.length_replicate

theorem length_closed_merge (t : FoldTable) (initial : Folding) :
    (t.closed.merge initial).levels.length = max t.size initial.levels.length := by
  rw [Folding.merge, Folding.length_addLevels, length_closed]

theorem length_count (mode : FoldMode) (initial : Folding) (text : Text) :
    (t.count mode initial text).levels.length = max t.size initial.levels.length := by
  have hmerge := t.length_closed_merge initial
  have hle : (t.families.zip (t.matchesIn text)).length ≤
      (t.closed.merge initial).levels.length := by
    rw [length_zip_matchesIn, hmerge]
    exact Nat.le_max_left _ _
  exact (length_levelsAfter mode _ _ hle).trans hmerge

/-- The depths after a text are those before it and those of the text. -/
theorem count_raw (initial : Folding) (text : Text) :
    t.count .raw initial text = initial.merge (t.count .raw t.closed text) := by
  have hpairs := t.length_zip_matchesIn text
  have hle : (t.families.zip (t.matchesIn text)).length ≤
      (t.closed.merge initial).levels.length := by
    rw [hpairs, t.length_closed_merge]
    exact Nat.le_max_left _ _
  have hcount : t.count .raw initial text =
      (t.closed.merge initial).merge (t.count .raw t.closed text) := by
    rw [count, count, closed_merge_eq (Nat.le_of_eq t.length_closed.symm),
      levelsAfter_raw _ _ hle, hpairs]
    rfl
  rw [hcount, Folding.merge_comm t.closed, Folding.merge_assoc, closed_merge_eq]
  rw [length_count]
  exact Nat.le_max_left _ _

end FoldTable

namespace Classifier

variable {c : Classifier}

theorem length_foldingOf (mode : FoldMode) {initial : Folding}
    (h : initial.levels.length = c.folding.size) (t : Text) :
    (c.foldingOf mode initial t).levels.length = c.folding.size := by
  unfold foldingOf
  induction t.lines generalizing initial with
  | nil => exact h
  | cons line rest ih => exact ih (by rw [FoldTable.length_count, h, Nat.max_self])

theorem length_lineFolding (c : Classifier) (t : Text) :
    (c.lineFolding t).levels.length = c.folding.size :=
  length_foldingOf .raw c.folding.length_closed t

theorem foldl_count_raw (lines : List Text) {initial : Folding}
    (h : c.folding.size ≤ initial.levels.length) :
    lines.foldl (fun f line => c.folding.count .raw f (c.stripCommentsAndStrings line)) initial =
      initial.merge (lines.foldl
        (fun f line => c.folding.count .raw f (c.stripCommentsAndStrings line))
          c.folding.closed) := by
  induction lines generalizing initial with
  | nil =>
      rw [List.foldl_nil, List.foldl_nil, Folding.merge_comm]
      exact (FoldTable.closed_merge_eq h).symm
  | cons line rest ih =>
      have hwide : ∀ f : Folding, c.folding.size ≤
          (c.folding.count .raw f (c.stripCommentsAndStrings line)).levels.length := by
        intro f
        rw [FoldTable.length_count]
        exact Nat.le_max_left _ _
      rw [List.foldl_cons, List.foldl_cons, ih (hwide initial), FoldTable.count_raw initial,
        ih (hwide c.folding.closed), Folding.merge_assoc]

/-- The brackets of texts on lines of their own add up. -/
theorem lineFolding_append_newline (c : Classifier) (x y : Text) :
    c.lineFolding (x ++ '\n' :: y) = (c.lineFolding x).merge (c.lineFolding y) := by
  unfold lineFolding foldingOf
  rw [Text.lines_append_newline, List.foldl_append]
  exact foldl_count_raw y.lines (Nat.le_of_eq (length_lineFolding c x).symm)

end Classifier

/-! ## Documents -/

namespace Document

variable {d : Document} {k : Classifier}

/-- The brackets of the text from line `first` to line `last`. -/
def brackets (d : Document) (k : Classifier) (first last : Nat) : Folding :=
  k.foldingOf .raw k.folding.closed (d.slice (d.lineRange first last))

theorem brackets_self {n : Nat} (hn : n < d.lineCount) :
    d.brackets k n n = (d.lineFacts k n).folding := by
  have hlast : n ≤ d.lastLine := Nat.le_sub_one_of_lt hn
  have hfits := fits_lines (Nat.le_refl n) hlast
  have hslice : d.slice (d.lineRange n n) = d.lineText n := by
    rw [lineRange_eq (Nat.le_refl n) hlast]
    refine (slice_of_line_eq hfits).trans ?_
    rw [lineLength_eq, List.take_length, List.drop_zero]
  rw [brackets, hslice]
  rfl

theorem brackets_parted {first mid last : Nat} (hfirst : first ≤ mid) (hmid : mid < last)
    (hlast : last < d.lineCount) :
    d.brackets k first last = (d.brackets k first mid).merge (d.brackets k (mid + 1) last) := by
  have hle : last ≤ d.lastLine := Nat.le_sub_one_of_lt hlast
  have hfits := fits_lines (Nat.le_trans hfirst (Nat.le_of_lt hmid)) hle
  have hslice := slice_eq_parted hfits mid hfirst hmid
  unfold brackets
  rw [lineRange_eq (Nat.le_trans hfirst (Nat.le_of_lt hmid)) hle,
    lineRange_eq hfirst (Nat.le_trans (Nat.le_of_lt hmid) hle), lineRange_eq hmid hle, hslice]
  exact k.lineFolding_append_newline _ _

/-- One more line below. -/
theorem brackets_succ {first last : Nat} (hle : first ≤ last) (hlast : last + 1 < d.lineCount) :
    d.brackets k first (last + 1) =
      (d.brackets k first last).merge (d.lineFacts k (last + 1)).folding := by
  rw [brackets_parted hle (Nat.lt_succ_self last) hlast, brackets_self hlast]

/-- One more line above. -/
theorem brackets_pred {first last : Nat} (hfirst : 0 < first) (hle : first ≤ last)
    (hlast : last < d.lineCount) :
    d.brackets k (first - 1) last =
      (d.brackets k first last).merge (d.lineFacts k (first - 1)).folding := by
  have hparted := brackets_parted (k := k) (Nat.le_refl (first - 1))
    (Nat.lt_of_lt_of_le (Nat.sub_one_lt_of_lt hfirst) hle) hlast
  rw [brackets_self (by omega), Nat.sub_add_cancel hfirst] at hparted
  rw [hparted, Folding.merge_comm]

theorem level_brackets {first last : Nat} (hle : first ≤ last) (hlast : last < d.lineCount)
    (family : Nat) :
    (d.brackets k first last).level family =
      Blocks.depth (d.lineFacts k) family first (last + 1) := by
  induction hle with
  | refl =>
      rw [brackets_self hlast, Blocks.depth_succ (Nat.le_refl first), Blocks.depth_self,
        Int.zero_add]
  | step hle ih =>
      rw [brackets_succ hle hlast, Folding.level_merge, ih (Nat.lt_of_succ_lt hlast),
        Blocks.depth_succ (Nat.le_succ_of_le hle)]

end Document

end BlockOrder
