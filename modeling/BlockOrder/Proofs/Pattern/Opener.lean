import BlockOrder.Proofs.Pattern.Forward

/-!
# Patterns that open with a text

Comments and strings open with a fixed text and match wherever it stands: what is not closed runs
to the end.  Such a pattern is that text followed by a tail that matches at every place.
-/

namespace BlockOrder

open List (Forall₂)

/-- The text that a pattern opens with. -/
structure Opener where
  text : Text
  /-- Whether a match runs to the end of its line. -/
  toLineEnd : Bool
deriving DecidableEq

namespace Matcher

/-- The pattern looks ahead only and matches where the opening text stands and nowhere else. -/
structure Opens (o : Opener) (p : Matcher) : Prop where
  ne_nil : o.text ≠ []
  isForward : p.isForward = true
  reach?_isSome : ∀ t, (p.reach? t).isSome = o.text.isPrefixOf t
  length_le : ∀ t n, p.reach? t = some n → o.text.length ≤ n
  newline : o.toLineEnd = true → ∀ t n, p.reach? t = some n → ∀ x ∈ (t.drop n).head?, x = '\n'

/-- Some match is found at every place. -/
def IsTotal (p : Matcher) : Prop :=
  ∀ origin c, c.records = {} → p.outcomes origin c ≠ []

/-! ## An opening text -/

def opened (opening : Text) (tail : Matcher) : Matcher :=
  .atomic (opening.foldr (fun c p => .seq (.one (.single c)) p) tail)

theorem isForward_opened {tail : Matcher} (h : tail.isForward = true) (opening : Text) :
    (opened opening tail).isForward = true := by
  rw [opened, isForward]
  induction opening with
  | nil => exact h
  | cons x opening ih =>
      rw [List.foldr_cons, isForward, ih]
      rfl

theorem contains_single (x y : Char) : (CharSet.single x).contains y = (x == y) := by
  rw [CharSet.single, CharSet.contains, Bool.eq_iff_iff, Bool.and_eq_true, decide_eq_true_eq,
    decide_eq_true_eq, beq_iff_eq]
  constructor
  · rintro ⟨hxy, hyx⟩
    exact Char.le_antisymm hxy hyx
  · rintro rfl
    exact ⟨Char.le_refl x, Char.le_refl x⟩

/-- What follows the opening text is left to the tail. -/
theorem outcomes_foldr_seq (origin : Option Nat) (tail : Matcher) (opening : Text) (pos : Nat)
    (before rest : Text) (records : Records) :
    (opening.foldr (fun c p => .seq (.one (.single c)) p) tail).outcomes origin
        ⟨pos, before, rest, records⟩ =
      if opening.isPrefixOf rest then tail.outcomes origin ⟨pos + opening.length,
        opening.reverse ++ before, rest.drop opening.length, records⟩
      else [] := by
  induction opening generalizing pos before rest with
  | nil => rfl
  | cons x opening ih =>
      rw [List.foldr_cons, outcomes, outcomes]
      cases rest with
      | nil => rfl
      | cons y rest =>
          dsimp only
          rw [List.isPrefixOf_cons_cons, contains_single]
          by_cases hxy : x = y
          · subst hxy
            simp only [beq_self_eq_true, if_true, Bool.true_and]
            rw [ih, List.length_cons, List.reverse_cons, List.append_assoc, List.drop_succ_cons,
              Nat.add_assoc, Nat.add_comm 1]
            rfl
          · have hne : (x == y) = false := beq_eq_false_iff_ne.mpr hxy
            simp [hne]

theorem reach?_opened {tail : Matcher} (hforward : tail.isForward = true) (opening t : Text) :
    (opened opening tail).reach? t =
      if opening.isPrefixOf t then
        (tail.reach? (t.drop opening.length)).map (opening.length + ·)
      else none := by
  rw [reach?, opened, outcomes, outcomes_foldr_seq, List.head?_take, if_neg Nat.one_ne_zero]
  split
  · have hmatch := matchAt?_of_isForward hforward none (0 + opening.length)
      (opening.reverse ++ []) (t.drop opening.length)
    rw [matchAt?] at hmatch
    have hstops := congrArg (Option.map Span.stop) hmatch
    rw [Option.map_map, Option.map_map, Nat.zero_add] at hstops
    rw [Nat.zero_add]
    exact hstops
  · rfl

theorem exists_of_reach?_opened {tail : Matcher} (hforward : tail.isForward = true)
    {opening t : Text} {n : Nat} (h : (opened opening tail).reach? t = some n) :
    ∃ m, tail.reach? (t.drop opening.length) = some m ∧ n = opening.length + m := by
  rw [reach?_opened hforward] at h
  split at h
  · obtain ⟨m, hm, rfl⟩ := Option.map_eq_some_iff.mp h
    exact ⟨m, hm, rfl⟩
  · cases h

/-- An opening text before a tail that always matches is where the pattern matches. -/
theorem opens_opened {o : Opener} {tail : Matcher} (hne : o.text ≠ [])
    (hforward : tail.isForward = true) (htotal : tail.IsTotal)
    (hline : o.toLineEnd = true → ∀ t n, tail.reach? t = some n →
      ∀ x ∈ (t.drop n).head?, x = '\n') :
    Opens o (opened o.text tail) := by
  refine ⟨hne, isForward_opened hforward o.text, ?_, ?_, ?_⟩
  · intro t
    rw [reach?_opened hforward]
    cases o.text.isPrefixOf t with
    | false => rfl
    | true =>
        rw [if_pos rfl, Option.isSome_map, reach?, Option.isSome_map, List.isSome_head?]
        exact htotal none _ rfl
  · intro t n hn
    obtain ⟨m, -, rfl⟩ := exists_of_reach?_opened hforward hn
    exact Nat.le_add_right _ _
  · intro hend t n hn
    obtain ⟨m, hm, rfl⟩ := exists_of_reach?_opened hforward hn
    rw [← List.drop_drop]
    exact hline hend _ m hm

/-! ## Tails to the end of the line -/

def lineTail : Matcher := .star true (.one .exceptNewline)

theorem runOf_ne_nil (s : CharSet) (records : Records) (pos : Nat) (before rest : Text) :
    runOf s records pos before rest ≠ [] := by
  cases rest with
  | nil => exact List.cons_ne_nil _ _
  | cons x rest => exact List.cons_ne_nil _ _

/-- A run stops at a character outside the set. -/
theorem contains_of_getLast?_runOf {s : CharSet} {records : Records} {pos : Nat}
    {before rest : Text} {e : Cursor} (h : (runOf s records pos before rest).getLast? = some e) :
    ∀ x ∈ e.rest.head?, s.contains x = false := by
  induction rest generalizing pos before with
  | nil =>
      obtain rfl := Option.some.inj h
      intro x hx
      cases hx
  | cons x rest ih =>
      rw [runOf] at h
      split at h
      · have hlast := List.getLast?_eq_some_getLast
          (runOf_ne_nil s records (pos + 1) (x :: before) rest)
        rw [List.getLast?_cons, hlast] at h
        exact ih (hlast.trans h)
      · rename_i hx
        obtain rfl := Option.some.inj h
        rintro y hy
        obtain rfl := Option.some.inj hy
        exact Bool.eq_false_iff.mpr hx

theorem isTotal_lineTail : lineTail.IsTotal := by
  intro origin c _
  exact mt List.reverse_eq_nil_iff.mp (runOf_ne_nil _ _ _ _ _)

theorem newline_of_lineTail {t : Text} {n : Nat} (h : lineTail.reach? t = some n) :
    ∀ x ∈ (t.drop n).head?, x = '\n' := by
  obtain ⟨-, e, he, hrest⟩ := exists_of_reach? rfl h
  change (runOf CharSet.exceptNewline {} 0 [] t).reverse.head? = some e at he
  rw [List.head?_reverse] at he
  intro x hx
  have hout := contains_of_getLast?_runOf he x (hrest ▸ hx)
  rw [CharSet.exceptNewline, CharSet.contains, contains_single, Bool.not_eq_false',
    beq_iff_eq] at hout
  exact hout.symm

/-! ## Tails to a closing text or the end -/

/-- From every place the end of the text is among the places that are reached. -/
def ReachesEnd (p : Matcher) : Prop :=
  ∀ origin c, c.records = {} → ∃ e ∈ p.outcomes origin c, e.rest = []

theorem has_empty (c : Cursor) : Visited.has {} c.pos c = false := by
  rw [Visited.has]
  split
  · exact Nat.zero_testBit _
  · rfl

theorem distinct_ne_nil {cs : List Cursor} (h : cs ≠ []) : distinct cs ≠ [] := by
  obtain ⟨c, more, rfl⟩ := List.exists_cons_of_ne_nil h
  cases more with
  | nil => exact List.cons_ne_nil c []
  | cons next more =>
      change distinctFrom {} (c :: next :: more) ≠ []
      rw [distinctFrom, has_empty]
      exact List.cons_ne_nil _ _

theorem isTotal_closing {p : Matcher} (hp : p.ReachesEnd) (stop : Matcher) :
    IsTotal (.seq p (.alt stop (.check .textEnd))) := by
  intro origin c hc
  obtain ⟨e, he, hrest⟩ := hp origin c hc
  have hend : (Matcher.alt stop (.check .textEnd)).outcomes origin e ≠ [] := by
    apply distinct_ne_nil
    rw [outcomes, hrest]
    simp [Assertion.holds]
  rw [outcomes]
  generalize p.outcomes origin c = ms at he
  rcases ms with _ | ⟨m, _ | ⟨next, more⟩⟩
  · cases he
  · obtain rfl := List.mem_singleton.mp he
    exact hend
  · apply distinct_ne_nil
    intro hnil
    exact hend (List.flatMap_eq_nil_iff.mp hnil e he)

/-- Every character. -/
def anyChar : CharSet := .union (.union .nothing .blanks) (.compl .blanks)

theorem contains_anyChar (x : Char) : anyChar.contains x = true := by
  simp [anyChar, CharSet.contains]

/-! ## Repetitions that get to the end -/

/-- Before the end of the text there is a way on, and every way on takes a character. -/
def Advances (p : Matcher) : Prop :=
  ∀ origin c, c.records = {} → c.rest ≠ [] →
    p.outcomes origin c ≠ [] ∧ ∀ e ∈ p.outcomes origin c, c.pos < e.pos

theorem exists_end_runOf {s : CharSet} (hs : ∀ x, s.contains x = true) {records : Records}
    (pos : Nat) (before rest : Text) :
    ∃ e ∈ runOf s records pos before rest, e.rest = [] := by
  induction rest generalizing pos before with
  | nil => exact ⟨_, List.mem_singleton_self _, rfl⟩
  | cons x rest ih =>
      obtain ⟨e, he, hrest⟩ := ih (pos + 1) (x :: before)
      rw [runOf, if_pos (hs x)]
      exact ⟨e, List.mem_cons_of_mem _ he, hrest⟩

section

variable {step : Cursor → List Cursor} {fuel : Nat} {c : Cursor} {a b : Trail}

/-- The rounds of a lazy repetition that follow one cursor. -/
def lazyRounds (step : Cursor → List Cursor) (fuel : Nat) (c : Cursor) (cs : List Cursor)
    (b : Trail) : Trail :=
  cs.foldl (fun b next => if next.pos = c.pos then b else explore false step fuel next b) b

theorem explore_lazy (h : a.begun.has c.pos c = false) :
    explore false step (fuel + 1) c a = lazyRounds step fuel c (step c)
      (Trail.emit { a with begun := a.begun.add c.pos c } c) := by
  rw [explore, h]
  rfl

theorem subset_lazyRounds (h : ∀ next b, b.found ⊆ (explore false step fuel next b).found)
    (cs : List Cursor) (b : Trail) : b.found ⊆ (lazyRounds step fuel c cs b).found := by
  induction cs generalizing b with
  | nil => exact List.Subset.refl _
  | cons next cs ih =>
      refine List.Subset.trans ?_ (ih _)
      dsimp only
      split
      · exact List.Subset.refl _
      · exact h next b

theorem subset_explore (c : Cursor) (a : Trail) :
    a.found ⊆ (explore false step fuel c a).found := by
  induction fuel generalizing c a with
  | zero => exact List.subset_cons_self _ _
  | succ fuel ih =>
      by_cases h : a.begun.has c.pos c = true
      · rw [explore, if_pos h]
        exact List.Subset.refl _
      · rw [explore_lazy (Bool.eq_false_iff.mpr h)]
        intro e he
        exact subset_lazyRounds ih (step c) _ (List.mem_cons_of_mem c he)

/-- The first way on from every cursor leads to the end, since nothing behind a cursor has been
met when it is come to. -/
theorem exists_end_explore (hstep : ∀ c, c.records = {} → c.rest ≠ [] → ∃ e cs,
      step c = e :: cs ∧ c.pos < e.pos ∧ e.records = {} ∧ e.rest.length < c.rest.length)
    (hc : c.records = {}) (hfuel : c.rest.length < fuel)
    (hbegun : ∀ n, c.pos ≤ n → a.begun.bits.testBit n = false) :
    ∃ e ∈ (explore false step fuel c a).found, e.rest = [] := by
  induction fuel generalizing c a with
  | zero => exact absurd hfuel (Nat.not_lt_zero _)
  | succ fuel ih =>
      have hnew : a.begun.has c.pos c = false := by
        rw [Visited.has_of_records hc]
        exact hbegun c.pos (Nat.le_refl _)
      rw [explore_lazy hnew]
      by_cases hrest : c.rest = []
      · exact ⟨c, subset_lazyRounds subset_explore _ _ List.mem_cons_self, hrest⟩
      · obtain ⟨next, cs, hnext, hpos, hrecords, hlength⟩ := hstep c hc hrest
        have hlater : ∀ n, next.pos ≤ n → (a.begun.add c.pos c).bits.testBit n = false := by
          intro n hn
          rw [Visited.testBit_add hc, hbegun n (by omega), decide_eq_false (by omega)]
          rfl
        obtain ⟨e, he, hend⟩ := ih (a := Trail.emit { a with begun := a.begun.add c.pos c } c)
          hrecords (by omega) hlater
        refine ⟨e, ?_, hend⟩
        rw [hnext, lazyRounds, List.foldl_cons, if_neg (Nat.ne_of_gt hpos)]
        exact subset_lazyRounds subset_explore cs _ he

end

theorem exists_mem_distinctFrom {v : Visited} {cs : List Cursor} (hcs : ∀ e ∈ cs, e.records = {})
    {e : Cursor} (he : e ∈ cs) (hv : v.bits.testBit e.pos = false) :
    ∃ e' ∈ distinctFrom v cs, e'.pos = e.pos := by
  induction cs generalizing v with
  | nil => cases he
  | cons c cs ih =>
      have hc : c.records = {} := hcs c List.mem_cons_self
      rw [distinctFrom]
      by_cases hpos : c.pos = e.pos
      · rw [Visited.has_of_records hc, hpos, hv]
        exact ⟨c, List.mem_cons_self, hpos⟩
      · have hmem : e ∈ cs := (List.mem_cons.mp he).resolve_left fun heq => hpos (heq ▸ rfl)
        have hmore : ∀ e ∈ cs, e.records = {} := fun e he => hcs e (List.mem_cons_of_mem c he)
        split
        · exact ih hmore hmem hv
        · have hadd : (v.add c.pos c).bits.testBit e.pos = false := by
            rw [Visited.testBit_add hc, hv, decide_eq_false (Ne.symm hpos)]
            rfl
          obtain ⟨e', he', hsame⟩ := ih hmore hmem hadd
          exact ⟨e', List.mem_cons_of_mem c he', hsame⟩

theorem exists_mem_distinct {cs : List Cursor} (hcs : ∀ e ∈ cs, e.records = {}) {e : Cursor}
    (he : e ∈ cs) : ∃ e' ∈ distinct cs, e'.pos = e.pos := by
  rcases cs with _ | ⟨c, _ | ⟨next, more⟩⟩
  · cases he
  · exact ⟨e, he, rfl⟩
  · exact exists_mem_distinctFrom hcs he (Nat.zero_testBit _)

/-- What follows gets shorter with every round. -/
theorem Advances.step {p : Matcher} (hp : p.Advances) (hforward : p.isForward = true)
    (origin : Option Nat) (c : Cursor) (hc : c.records = {}) (hrest : c.rest ≠ []) :
    ∃ e cs, p.outcomes origin c = e :: cs ∧ c.pos < e.pos ∧ e.records = {} ∧
      e.rest.length < c.rest.length := by
  obtain ⟨hne, hpos⟩ := hp origin c hc hrest
  obtain ⟨e, cs, hcs⟩ := List.exists_cons_of_ne_nil hne
  have hlt : c.pos < e.pos := hpos e (hcs ▸ List.mem_cons_self)
  obtain ⟨pos, before, rest, records⟩ := c
  obtain rfl : records = {} := hc
  obtain ⟨e', he⟩ := Cursor.Moved.of_mem
    (outcomes_moved hforward origin none (.refl pos before rest)) (hcs ▸ List.mem_cons_self)
  refine ⟨e, cs, hcs, hlt, he.records, ?_⟩
  have hlength : 0 < rest.length := List.length_pos_iff.mpr hrest
  rw [he.pos] at hlt
  rw [he.rest, List.length_drop]
  change pos < pos + e'.pos at hlt
  change rest.length - e'.pos < rest.length
  omega

theorem exists_end_distinct {p : Matcher} (hforward : p.isForward = true) (hp : p.Advances)
    (origin : Option Nat) (pos : Nat) (before rest : Text) :
    ∃ e ∈ distinct (explore false (p.outcomes origin) (rest.length + 1)
      ⟨pos, before, rest, {}⟩ ⟨{}, []⟩).found.reverse, e.rest = [] := by
  have hempty : Trail.Moved pos rest ⟨{}, []⟩ ⟨{}, []⟩ := ⟨Visited.moved_empty, .nil⟩
  have hfound := (explore_moved (fun c c' hc => outcomes_moved hforward origin none hc) false
    (rest.length + 1) (.refl pos before rest) hempty).found
  have hreverse := List.rel_reverse hfound
  obtain ⟨e, he, hend⟩ := exists_end_explore (c := ⟨pos, before, rest, {}⟩) (a := ⟨{}, []⟩)
    (hp.step hforward origin) rfl (Nat.lt_succ_self rest.length) (fun n _ => Nat.zero_testBit n)
  rw [← List.mem_reverse] at he
  have hrecords : ∀ e ∈ (explore false (p.outcomes origin) (rest.length + 1)
      ⟨pos, before, rest, {}⟩ ⟨{}, []⟩).found.reverse, e.records = {} := by
    intro e he
    obtain ⟨e', hmoved⟩ := Cursor.Moved.of_mem hreverse he
    exact hmoved.records
  obtain ⟨last, hlast, hpos⟩ := exists_mem_distinct hrecords he
  refine ⟨last, hlast, ?_⟩
  -- cursors with one offset stand before one and the same text
  obtain ⟨e', hmoved⟩ := Cursor.Moved.of_mem hreverse he
  obtain ⟨last', hkept⟩ := Cursor.Moved.of_mem (distinct_moved hreverse) hlast
  have hplace : last'.pos = e'.pos := by
    have hlastpos := hkept.pos
    rw [hpos, hmoved.pos] at hlastpos
    exact (Nat.add_left_cancel hlastpos).symm
  rw [hkept.rest, hplace, ← hmoved.rest, hend]

theorem reachesEnd_star {p : Matcher} (hforward : p.isForward = true) (hp : p.Advances) :
    ReachesEnd (.star false p) := by
  rintro origin ⟨pos, before, rest, records⟩ hrecords
  obtain rfl : records = {} := hrecords
  have hexplored := exists_end_distinct hforward hp origin pos before rest
  cases p with
  | one s =>
      have hs : ∀ x, s.contains x = true := by
        intro x
        have hone := (hp origin ⟨0, [], [x], {}⟩ rfl (List.cons_ne_nil x [])).1
        rw [outcomes] at hone
        exact Decidable.byContradiction fun hx => hone (if_neg hx)
      exact exists_end_runOf hs pos before rest
  | _ => exact hexplored

theorem pos_of_mem_outcomes_one {s : CharSet} {origin : Option Nat} {c e : Cursor}
    (h : e ∈ (Matcher.one s).outcomes origin c) : e.pos = c.pos + 1 := by
  rw [outcomes] at h
  split at h
  · cases h
  · split at h
    · obtain rfl := List.mem_singleton.mp h
      rfl
    · cases h

theorem advances_anyChar : Advances (.one anyChar) := by
  intro origin c _ hrest
  constructor
  · obtain ⟨x, rest, hcons⟩ := List.exists_cons_of_ne_nil hrest
    rw [outcomes, hcons]
    simp [contains_anyChar]
  · intro e he
    rw [pos_of_mem_outcomes_one he]
    exact Nat.lt_succ_self _

/-- A character, or two if the first one is the escape. -/
def escapedChar (escape : Char) : Matcher :=
  .alt (.seq (.one (.single escape)) (.one anyChar)) (.one anyChar)

theorem mem_of_mem_distinctFrom {v : Visited} {cs : List Cursor} {e : Cursor}
    (h : e ∈ distinctFrom v cs) : e ∈ cs := by
  induction cs generalizing v with
  | nil => exact h
  | cons c cs ih =>
      rw [distinctFrom] at h
      split at h
      · exact List.mem_cons_of_mem c (ih h)
      · obtain rfl | h := List.mem_cons.mp h
        · exact List.mem_cons_self
        · exact List.mem_cons_of_mem c (ih h)

theorem mem_of_mem_distinct {cs : List Cursor} {e : Cursor} (h : e ∈ distinct cs) : e ∈ cs := by
  rcases cs with _ | ⟨c, _ | ⟨next, more⟩⟩
  · cases h
  · exact h
  · exact mem_of_mem_distinctFrom h

theorem exists_of_mem_outcomes_seq {p q : Matcher} {origin : Option Nat} {c e : Cursor}
    (h : e ∈ (Matcher.seq p q).outcomes origin c) :
    ∃ m ∈ p.outcomes origin c, e ∈ q.outcomes origin m := by
  rw [outcomes] at h
  generalize p.outcomes origin c = ms at h
  rcases ms with _ | ⟨m, _ | ⟨next, more⟩⟩
  · cases h
  · exact ⟨m, List.mem_singleton_self m, h⟩
  · exact List.mem_flatMap.mp (mem_of_mem_distinct h)

theorem advances_escapedChar (escape : Char) : Advances (escapedChar escape) := by
  intro origin c hc hrest
  obtain ⟨hone, hpos⟩ := advances_anyChar origin c hc hrest
  constructor
  · apply distinct_ne_nil
    exact List.append_ne_nil_of_right_ne_nil _ hone
  · intro e he
    obtain he | he := List.mem_append.mp (mem_of_mem_distinct he)
    · obtain ⟨m, hm, he⟩ := exists_of_mem_outcomes_seq he
      rw [pos_of_mem_outcomes_one he, pos_of_mem_outcomes_one hm]
      omega
    · exact hpos e he

/-! ## Comments and strings -/

def literal : Text → Matcher
  | [] => .empty
  | [x] => .one (.single x)
  | x :: rest => .seq (.one (.single x)) (literal rest)

theorem isForward_literal (t : Text) : (literal t).isForward = true := by
  fun_induction literal t with
  | case1 => rfl
  | case2 x => rfl
  | case3 x rest _ ih =>
      rw [isForward, ih]
      rfl

/-- What runs to a closing text, or else to the end. -/
def closingTail (body : Matcher) (stop : Text) : Matcher :=
  .seq (.star false body) (.alt (literal stop) (.check .textEnd))

theorem opens_line {opening : Text} (h : opening ≠ []) :
    Opens ⟨opening, true⟩ (opened opening lineTail) :=
  opens_opened h rfl isTotal_lineTail fun _ _ _ hn => newline_of_lineTail hn

theorem opens_closing {body : Matcher} (hforward : body.isForward = true)
    (hbody : body.Advances) {opening : Text} (h : opening ≠ []) (stop : Text) :
    Opens ⟨opening, false⟩ (opened opening (closingTail body stop)) := by
  apply opens_opened h
  · simp only [closingTail, isForward, hforward, isForward_literal]
    rfl
  · exact isTotal_closing (reachesEnd_star hforward hbody) (literal stop)
  · intro hend
    exact absurd hend Bool.false_ne_true

end Matcher

end BlockOrder
