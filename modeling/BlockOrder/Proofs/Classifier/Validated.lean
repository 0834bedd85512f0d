import BlockOrder.Proofs.Classifier.Additive

/-!
# Counting with and without stray brackets

Validated counting walks the brackets of a pair in the order of the text and passes over a
closing one that closes nothing.  So its depths stay nonnegative, they are never below those of
raw counting, and both agree on texts in which every closing bracket meets an open one.  Undone
openings change none of this: a line on which they are undone leaves both depths where they were,
or lets both go down.
-/

namespace BlockOrder

/-- A bracket of a pair. -/
inductive Bracket where
  | opening
  | closing
deriving DecidableEq

namespace Bracket

/-- The depth after a bracket, where a closing one counts only if something is open. -/
def step (level : Int) : Bracket → Int
  | opening => level + 1
  | closing => FoldTable.closeOne level

/-- No closing bracket is met at depth zero on the way through a list of brackets. -/
def NoStray : (level : Int) → List Bracket → Prop
  | _, [] => True
  | level, opening :: rest => NoStray (level + 1) rest
  | level, closing :: rest => level ≠ 0 ∧ NoStray (level - 1) rest

theorem le_foldl_step {floor level : Int} (hfloor : floor ≤ 0) (h : floor ≤ level)
    (bs : List Bracket) : floor ≤ bs.foldl step level := by
  induction bs generalizing level with
  | nil => exact h
  | cons b bs ih =>
      apply ih
      cases b with
      | opening => exact Int.le_add_one h
      | closing =>
          simp only [step, FoldTable.closeOne]
          split <;> omega

theorem add_sub_le_foldl_step {raw level : Int} (h : raw ≤ level) (bs : List Bracket) :
    raw + bs.count opening - bs.count closing ≤ bs.foldl step level := by
  induction bs generalizing raw level with
  | nil => simpa using h
  | cons b bs ih =>
      cases b with
      | opening =>
          have hrest := ih (Int.add_le_add_right h 1)
          simp only [List.count_cons_self, List.count_cons_of_ne (by decide : opening ≠ closing)]
          exact Int.le_trans (by omega) hrest
      | closing =>
          have hstep : raw - 1 ≤ step level closing := by
            simp only [step, FoldTable.closeOne]
            split <;> omega
          have hrest := ih hstep
          simp only [List.count_cons_self, List.count_cons_of_ne (by decide : closing ≠ opening)]
          exact Int.le_trans (by omega) hrest

theorem NoStray.foldl_step_eq {level : Int} {bs : List Bracket} (h : NoStray level bs)
    (hlevel : 0 ≤ level) :
    bs.foldl step level = level + bs.count opening - bs.count closing := by
  induction bs generalizing level with
  | nil => simp
  | cons b bs ih =>
      cases b with
      | opening =>
          have hrest := ih h (Int.le_add_one hlevel)
          simp only [List.count_cons_self, List.count_cons_of_ne (by decide : opening ≠ closing)]
          exact hrest.trans (by omega)
      | closing =>
          have hpos : 0 < level := by have := h.1; omega
          have hrest := ih h.2 (Int.le_sub_one_of_lt hpos)
          simp only [List.count_cons_self, List.count_cons_of_ne (by decide : closing ≠ opening),
            List.foldl_cons, step, FoldTable.closeOne, if_pos hpos]
          exact hrest.trans (by omega)

end Bracket

namespace FoldMatches

/-- The brackets in the order of their offsets, an opening one first where both are at one
offset. -/
def inOrder (m : FoldMatches) : List Bracket :=
  ((m.opens.map (·, Bracket.opening)).merge (m.closes.map (·, Bracket.closing))
    fun a b => a.1 ≤ b.1).map (·.2)

theorem inOrder_perm (m : FoldMatches) : m.inOrder.Perm
    (.replicate m.opens.length .opening ++ .replicate m.closes.length .closing) := by
  refine ((List.merge_perm_append _).map _).trans (List.Perm.of_eq ?_)
  simp [Function.comp_def]

theorem count_opening (m : FoldMatches) : m.inOrder.count .opening = m.opens.length := by
  simp [m.inOrder_perm.count_eq, List.count_replicate]

theorem count_closing (m : FoldMatches) : m.inOrder.count .closing = m.closes.length := by
  simp [m.inOrder_perm.count_eq, List.count_replicate]

end FoldMatches

namespace Folding

theorem ext_level {f g : Folding} (hlength : f.levels.length = g.levels.length)
    (h : ∀ i, f.level i = g.level i) : f = g := by
  obtain ⟨as⟩ := f
  obtain ⟨bs⟩ := g
  refine congrArg mk (List.ext_getElem hlength ?_)
  intro i hf hg
  simpa [level, hf, hg] using h i

end Folding

namespace FoldTable

theorem foldl_closeOne (level : Int) (closes : List Nat) :
    closes.foldl (fun l _ => closeOne l) level =
      ((FoldMatches.mk [] closes).inOrder).foldl Bracket.step level := by
  simp [FoldMatches.inOrder, List.foldl_map, Bracket.step]

/-- Taking the closings before each opening in turn is walking through all brackets in order. -/
theorem validatedLevel_eq (level : Int) (opens closes : List Nat) :
    validatedLevel level opens closes =
      (FoldMatches.mk opens closes).inOrder.foldl Bracket.step level := by
  induction opens generalizing level closes with
  | nil => exact foldl_closeOne level closes
  | cons o opens ihOpens =>
      induction closes generalizing level with
      | nil =>
          have ih := ihOpens (level + 1) []
          simpa [validatedLevel, FoldMatches.inOrder, Bracket.step] using ih
      | cons c closes ihCloses =>
          by_cases hlt : c < o
          · have hrest := ihCloses (closeOne level)
            simpa [validatedLevel, FoldMatches.inOrder, Bracket.step, hlt, Nat.not_le.mpr hlt]
              using hrest
          · have hrest := ihOpens (level + 1) (c :: closes)
            simpa [validatedLevel, FoldMatches.inOrder, Bracket.step, hlt, Nat.not_lt.mp hlt]
              using hrest

theorem validatedLevel_matches (level : Int) (m : FoldMatches) :
    validatedLevel level m.opens m.closes = m.inOrder.foldl Bracket.step level :=
  validatedLevel_eq level m.opens m.closes

section Level

variable (aborted : Bool) (m : FoldMatches)

theorem le_levelAfter_validated {floor before : Int} (hfloor : floor ≤ 0) (h : floor ≤ before) :
    floor ≤ levelAfter .validated aborted m before := by
  have hwalk := Bracket.le_foldl_step hfloor h m.inOrder
  simp only [levelAfter, validatedLevel_matches]
  split
  · exact h
  · exact hwalk

theorem levelAfter_raw_le_validated {raw before : Int} (h : raw ≤ before) :
    levelAfter .raw aborted m raw ≤ levelAfter .validated aborted m before := by
  have hwalk := Bracket.add_sub_le_foldl_step h m.inOrder
  rw [m.count_opening, m.count_closing] at hwalk
  simp only [levelAfter, validatedLevel_matches]
  cases aborted with
  | false => exact hwalk
  | true =>
      -- Both depths are the lesser of before and after.
      simp only [Bool.true_and, decide_eq_true_eq]
      split <;> split <;> omega

theorem levelAfter_validated_eq_raw {before : Int} (h : Bracket.NoStray before m.inOrder)
    (hbefore : 0 ≤ before) :
    levelAfter .validated aborted m before = levelAfter .raw aborted m before := by
  simp only [levelAfter, validatedLevel_matches, h.foldl_step_eq hbefore, m.count_opening,
    m.count_closing]

end Level

/-! ## Lines -/

/-- Whether the openings of a pair are undone on a line with the given brackets. -/
def isUndone (all : List FoldMatches) (f : FoldFamily) : Bool :=
  f.abortOn.any fun place => all[place]?.any fun target => !target.opens.isEmpty

theorem level_levelsAfter (mode : FoldMode) (all : List FoldMatches)
    (pairs : List (FoldFamily × FoldMatches)) {levels : List Int}
    (h : pairs.length ≤ levels.length) (i : Nat) :
    Folding.level ⟨levelsAfter mode all pairs levels⟩ i =
      pairs[i]?.elim (Folding.level ⟨levels⟩ i) fun pair =>
        levelAfter mode (isUndone all pair.1) pair.2 (Folding.level ⟨levels⟩ i) := by
  induction pairs generalizing levels i with
  | nil => rfl
  | cons pair pairs ih =>
      obtain ⟨f, m⟩ := pair
      cases levels with
      | nil => cases h
      | cons level levels =>
          cases i with
          | zero => rfl
          | succ i => exact ih (Nat.le_of_succ_le_succ h) i

variable (t : FoldTable)

/-- What counting a line does to the depth of one pair. -/
theorem level_count (mode : FoldMode) (initial : Folding) (text : Text) (i : Nat) :
    (t.count mode initial text).level i =
      (t.families.zip (t.matchesIn text))[i]?.elim (initial.level i) fun pair =>
        levelAfter mode (isUndone (t.matchesIn text) pair.1) pair.2 (initial.level i) := by
  have hlength : (t.families.zip (t.matchesIn text)).length ≤
      (t.closed.merge initial).levels.length := by
    rw [length_zip_matchesIn, length_closed_merge]
    exact Nat.le_max_left _ _
  have hlevel : (t.closed.merge initial).level i = initial.level i := by
    rw [Folding.level_merge, closed, Folding.level_closed, Int.zero_add]
  rw [count, level_levelsAfter mode _ _ hlength, hlevel]

theorem le_level_count_validated {initial : Folding} {floor : Int} (hfloor : floor ≤ 0)
    {i : Nat} (h : floor ≤ initial.level i) (text : Text) :
    floor ≤ (t.count .validated initial text).level i := by
  rw [level_count]
  cases (t.families.zip (t.matchesIn text))[i]? with
  | none => exact h
  | some pair => exact le_levelAfter_validated _ _ hfloor h

theorem level_count_raw_le_validated {raw validated : Folding} {i : Nat}
    (h : raw.level i ≤ validated.level i) (text : Text) :
    (t.count .raw raw text).level i ≤ (t.count .validated validated text).level i := by
  rw [level_count, level_count]
  cases (t.families.zip (t.matchesIn text))[i]? with
  | none => exact h
  | some pair => exact levelAfter_raw_le_validated _ _ h

/-- The brackets of one pair in a text without strings and comments. -/
def bracketsIn (text : Text) (family : Nat) : List Bracket :=
  (t.matchesIn text)[family]?.elim [] FoldMatches.inOrder

theorem count_validated_eq_raw {initial : Folding} (hinitial : ∀ i, 0 ≤ initial.level i)
    {text : Text}
    (h : ∀ family < t.size, Bracket.NoStray (initial.level family) (t.bracketsIn text family)) :
    t.count .validated initial text = t.count .raw initial text := by
  apply Folding.ext_level
  · rw [length_count, length_count]
  · intro i
    rw [level_count, level_count]
    cases hpair : (t.families.zip (t.matchesIn text))[i]? with
    | none => rfl
    | some pair =>
        obtain ⟨f, m⟩ := pair
        have hmatches := (List.getElem?_zip_eq_some.mp hpair).2
        have hsize : i < t.size := by
          rw [← t.length_zip_matchesIn text]
          exact (List.getElem?_eq_some_iff.mp hpair).1
        have hstray := h i hsize
        rw [bracketsIn, hmatches] at hstray
        exact levelAfter_validated_eq_raw _ m hstray (hinitial i)

end FoldTable

namespace Classifier

variable (c : Classifier)

/-- The depths after lines that follow each other. -/
def foldingAfter (mode : FoldMode) (initial : Folding) (lines : List Text) : Folding :=
  lines.foldl (fun f line => c.folding.count mode f (c.stripCommentsAndStrings line)) initial

/-- On no line is a closing bracket met at depth zero, where every line starts with the depths
that the lines before it leave. -/
def NoStray (mode : FoldMode) (initial : Folding) (lines : List Text) : Prop :=
  ∀ n < lines.length, ∀ family < c.folding.size,
    Bracket.NoStray ((c.foldingAfter mode initial (lines.take n)).level family)
      (c.folding.bracketsIn (c.stripCommentsAndStrings (lines.getD n [])) family)

variable {c}

theorem NoStray.head {mode : FoldMode} {initial : Folding} {line : Text} {lines : List Text}
    (h : c.NoStray mode initial (line :: lines)) : ∀ family < c.folding.size,
      Bracket.NoStray (initial.level family)
        (c.folding.bracketsIn (c.stripCommentsAndStrings line) family) :=
  h 0 (Nat.zero_lt_succ _)

theorem NoStray.tail {mode : FoldMode} {initial : Folding} {line : Text} {lines : List Text}
    (h : c.NoStray mode initial (line :: lines)) :
    c.NoStray mode (c.folding.count mode initial (c.stripCommentsAndStrings line)) lines :=
  fun n hn => h (n + 1) (Nat.succ_lt_succ hn)

theorem le_level_foldingAfter {initial : Folding} {floor : Int} (hfloor : floor ≤ 0) {i : Nat}
    (h : floor ≤ initial.level i) (lines : List Text) :
    floor ≤ (c.foldingAfter .validated initial lines).level i := by
  induction lines generalizing initial with
  | nil => exact h
  | cons line lines ih => exact ih (c.folding.le_level_count_validated hfloor h _)

theorem level_foldingAfter_raw_le {raw validated : Folding} {i : Nat}
    (h : raw.level i ≤ validated.level i) (lines : List Text) :
    (c.foldingAfter .raw raw lines).level i ≤
      (c.foldingAfter .validated validated lines).level i := by
  induction lines generalizing raw validated with
  | nil => exact h
  | cons line lines ih => exact ih (c.folding.level_count_raw_le_validated h _)

theorem NoStray.foldingAfter_eq {mode : FoldMode} {initial : Folding} {lines : List Text}
    (h : c.NoStray mode initial lines) (hinitial : ∀ i, 0 ≤ initial.level i) :
    c.foldingAfter .validated initial lines = c.foldingAfter .raw initial lines := by
  induction lines generalizing initial with
  | nil => rfl
  | cons line lines ih =>
      have hcount := c.folding.count_validated_eq_raw hinitial h.head
      -- Both ways of counting leave the first line alike, so the rest starts from either.
      have hmode : c.folding.count mode initial (c.stripCommentsAndStrings line) =
          c.folding.count .validated initial (c.stripCommentsAndStrings line) := by
        cases mode with
        | raw => exact hcount.symm
        | validated => rfl
      have htail := h.tail
      rw [hmode] at htail
      have hrest := ih htail fun i =>
        c.folding.le_level_count_validated (Int.le_refl 0) (hinitial i) _
      exact hrest.trans (by rw [hcount]; rfl)

theorem length_foldingAfter_congr (mode mode' : FoldMode) {f g : Folding}
    (h : f.levels.length = g.levels.length) (lines : List Text) :
    (c.foldingAfter mode f lines).levels.length =
      (c.foldingAfter mode' g lines).levels.length := by
  induction lines generalizing f g with
  | nil => exact h
  | cons line lines ih => exact ih (by rw [FoldTable.length_count, FoldTable.length_count, h])

variable (c)

/-- From nonnegative depths on, validated counting gives nonnegative depths that raw counting does
not exceed, the same ones if no closing bracket is stray.  From any depths on, it goes no lower
than zero or where it started. -/
theorem foldingOf_validated (initial : Folding) (t : Text) :
    ((∀ i, 0 ≤ initial.level i) →
      (c.foldingOf .validated initial t).levels.length =
          (c.foldingOf .raw initial t).levels.length ∧
        (∀ i, 0 ≤ (c.foldingOf .validated initial t).level i ∧
          (c.foldingOf .raw initial t).level i ≤ (c.foldingOf .validated initial t).level i) ∧
        ∀ mode, c.NoStray mode initial t.lines →
          c.foldingOf .validated initial t = c.foldingOf .raw initial t) ∧
    ∀ i, min 0 (initial.level i) ≤ (c.foldingOf .validated initial t).level i := by
  constructor
  · intro hinitial
    refine ⟨length_foldingAfter_congr _ _ rfl t.lines, ?_, ?_⟩
    · intro i
      exact ⟨le_level_foldingAfter (Int.le_refl 0) (hinitial i) t.lines,
        level_foldingAfter_raw_le (Int.le_refl _) t.lines⟩
    · intro mode hstray
      exact hstray.foldingAfter_eq hinitial
  · intro i
    exact le_level_foldingAfter (Int.min_le_left _ _) (Int.min_le_right _ _) t.lines

/-- Three lines in braces: an angle bracket that is undone, two of which one is closed again and
another one closed in a comment only, and what is left to close. -/
def enclosedLines : Text := "a < b \x7b\n<< \x7d > # >\n> \x7d".toList

theorem foldingOf_validated_enclosedLines :
    (∀ i, 0 ≤ (Folding.mk [0, 1]).level i) ∧ angled.NoStray .raw ⟨[0, 1]⟩ enclosedLines.lines ∧
      angled.foldingOf .validated ⟨[0, 1]⟩ enclosedLines =
        angled.foldingOf .raw ⟨[0, 1]⟩ enclosedLines := by
  have hinitial : ∀ i, 0 ≤ (Folding.mk [0, 1]).level i :=
    (Folding.hasNegative_eq_false_iff _).mp rfl
  have hwalks : Bracket.NoStray 0 (FoldMatches.mk [2] []).inOrder ∧
      Bracket.NoStray 1 (FoldMatches.mk [6] []).inOrder ∧
      Bracket.NoStray 0 (FoldMatches.mk [0, 1] [5]).inOrder ∧
      Bracket.NoStray 2 (FoldMatches.mk [] [3]).inOrder ∧
      Bracket.NoStray 1 (FoldMatches.mk [] [0]).inOrder ∧
      Bracket.NoStray 1 (FoldMatches.mk [] [2]).inOrder := by
    simp [FoldMatches.inOrder, Bracket.NoStray]
  have hstray : angled.NoStray .raw ⟨[0, 1]⟩ enclosedLines.lines := by
    obtain ⟨hangle₀, hcurly₀, hangle₁, hcurly₁, hangle₂, hcurly₂⟩ := hwalks
    intro n hn family hfamily
    match n, hn, family, hfamily with
    | 0, _, 0, _ => exact hangle₀
    | 0, _, 1, _ => exact hcurly₀
    | 1, _, 0, _ => exact hangle₁
    | 1, _, 1, _ => exact hcurly₁
    | 2, _, 0, _ => exact hangle₂
    | 2, _, 1, _ => exact hcurly₂
  exact ⟨hinitial, hstray, ((foldingOf_validated angled _ _).1 hinitial).2.2 .raw hstray⟩

end Classifier

end BlockOrder
