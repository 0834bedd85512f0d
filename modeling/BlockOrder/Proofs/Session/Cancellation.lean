import BlockOrder.Proofs.Session.Transparency

/-!
# Cancelled calls

A call that is cancelled before it starts computes nothing: it answers as if there were nothing to
answer, and the lines that count as computed stay the same.  There are two exceptions.  Facts about
lines are handed out if all of them have been computed before, and the cache forgets the lines that
the document does not have.
-/

namespace BlockOrder

/-! ## The cache of a cancelled call -/

namespace LineCache

variable {d : Document} {c c' c'' : LineCache}

theorem computed_resize (c : LineCache) (n : Nat) : (c.resize n).computed = c.computed := rfl

theorem resize_resize (c : LineCache) (n : Nat) : (c.resize n).resize n = c.resize n := by
  have hlength := length_resize c n
  conv_lhs => rw [resize, List.take_of_length_le (Nat.le_of_eq hlength), hlength]
  simp

theorem get?_resize_of_lt {n m : Nat} (h : n < m) : (c.resize m).get? n = c.get? n := by
  unfold get? resize
  by_cases hn : n < c.lines.length
  · rw [List.getElem?_append_left (by rw [List.length_take]; omega), List.getElem?_take_of_lt h]
  · rw [List.getElem?_append_right (by rw [List.length_take]; omega),
      List.getElem?_eq_none (Nat.not_lt.mp hn), List.getElem?_replicate]
    split <;> rfl

/-- The cache `c'` is `c`, at most fitted to the number of lines. -/
def Kept (d : Document) (c c' : LineCache) : Prop := c' = c ∨ c' = c.resize d.lineCount

theorem Kept.trans (h : Kept d c c') (h' : Kept d c' c'') : Kept d c c'' := by
  rcases h with rfl | rfl
  · exact h'
  · right
    rcases h' with rfl | rfl
    · rfl
    · exact resize_resize c _

theorem Kept.computed_eq (h : Kept d c c') : c'.computed = c.computed := by
  rcases h with rfl | rfl <;> rfl

theorem Kept.get?_of_lt (h : Kept d c c') {n : Nat} (hn : n < d.lineCount) :
    c'.get? n = c.get? n := by
  rcases h with rfl | rfl
  · rfl
  · exact get?_resize_of_lt hn

theorem Kept.get?_of_le (h : Kept d c c') {n : Nat} (hn : d.lineCount ≤ n) :
    c'.get? n = c.get? n ∨ c'.get? n = none := by
  rcases h with rfl | rfl
  · exact .inl rfl
  · exact .inr (LineCache.get?_of_le (by rwa [length_resize]))

theorem Kept.get?_of_faithful (h : Kept d c c') {k : Classifier} (hc : Faithful k d c) (n : Nat) :
    c'.get? n = c.get? n := by
  rcases h with rfl | rfl
  · rfl
  · exact get?_resize hc.size

/-- Whether the cache has all facts about the lines of a range, or there are no lines. -/
def serves (c : LineCache) (d : Document) (r : Range) : Bool :=
  d.lineCount = 0 ||
    c.computed.contains (clampSpan d (d.clamp r).start.line (d.clamp r).stop.line)

theorem serves_congr (h : c'.computed = c.computed) : c'.serves d = c.serves d := by
  funext r
  rw [serves, h, serves]

end LineCache

/-! ## Work that is cancelled -/

namespace Workspace

variable {α β : Type} {w : Workspace}

/-- From every cache the work keeps the cache, and if it has a result, this has the property. -/
def Idles (w : Workspace) (x : Work α) (P : α → Prop) : Prop :=
  ∀ c, LineCache.Kept w.document c (final (x c)) ∧ ∀ a c', x c = .ok a c' → P a

theorem Idles.pure {P : α → Prop} {a : α} (h : P a) : w.Idles (Pure.pure a) P := by
  intro c
  refine ⟨.inl rfl, ?_⟩
  rintro _ _ ⟨⟩
  exact h

theorem Idles.mono {x : Work α} {P Q : α → Prop} (hx : w.Idles x P) (h : ∀ a, P a → Q a) :
    w.Idles x Q :=
  fun c => ⟨(hx c).1, fun a c' hok => h a ((hx c).2 a c' hok)⟩

theorem Idles.bind {x : Work α} {f : α → Work β} {P : α → Prop} {Q : β → Prop}
    (hx : w.Idles x P) (hf : ∀ a, P a → w.Idles (f a) Q) : w.Idles (x >>= f) Q := by
  intro c
  obtain ⟨hkept, hresult⟩ := hx c
  cases h : x c with
  | ok a c' =>
      rw [h] at hkept
      rw [bind_of_ok h]
      obtain ⟨hkept', hresult'⟩ := hf a (hresult a c' h) c'
      exact ⟨hkept.trans hkept', hresult'⟩
  | error e c' =>
      rw [h] at hkept
      rw [bind_of_error h]
      refine ⟨hkept, ?_⟩
      rintro _ _ ⟨⟩

/-- What follows on work without a result does not happen. -/
theorem Idles.bind_false {x : Work α} {f : α → Work β} {Q : β → Prop}
    (hx : w.Idles x fun _ => False) : w.Idles (x >>= f) Q :=
  hx.bind fun _ h => h.elim

theorem Idles.run_lift_bind_false {x : Work α} {f : α → SortWork β}
    {Q : Except Inconsistent β → Prop} (hx : w.Idles x fun _ => False) :
    w.Idles (liftM x >>= f).run Q := by
  rw [run_lift_bind]
  exact hx.bind_false

theorem Idles.get_bind {f : LineCache → Work β} {Q : β → Prop} (hf : ∀ c, w.Idles (f c) Q) :
    w.Idles (get >>= f) Q := fun c => hf c c

variable (hw : w.cancelled = true)
include hw

theorem idles_check : w.Idles w.check fun _ => False := by
  intro c
  rw [check, hw]
  refine ⟨.inl rfl, ?_⟩
  rintro _ _ ⟨⟩

theorem idles_ensure (first last : Nat) :
    w.Idles (w.ensure first last) fun _ => True := by
  intro c
  refine ⟨?_, fun _ _ _ => trivial⟩
  rw [ensure, LineCache.ensure_eq, hw]
  split
  · exact .inl rfl
  split <;> exact .inr rfl

theorem idles_lines (first last : Nat) : w.Idles (w.lines first last) fun _ => True :=
  (idles_ensure hw first last).bind fun _ _ => .get_bind fun _ => .pure trivial

theorem idles_blocks (r : Range) : w.Idles (w.blocks r) fun _ => False :=
  (idles_check hw).bind_false

theorem idles_innerBlocks (block : Range) :
    w.Idles (w.innerBlocks block) fun inner => inner = [] := by
  apply (idles_lines hw _ _).bind
  intro lines _
  dsimp only
  split
  · exact .pure rfl
  · exact (idles_check hw).bind_false

theorem idles_selectLines (first last : Nat) :
    w.Idles (w.selectLines first last) fun _ => False :=
  (idles_lines hw first last).bind fun _ _ => (idles_check hw).bind_false

theorem idles_expand (r : Range) (e : Expansion) : w.Idles (w.expand r e) fun _ => False :=
  (idles_selectLines hw _ _).bind_false

theorem idles_select (r : Range) (e : Expansion) : w.Idles (w.select r e) fun _ => False :=
  (idles_expand hw r e).bind_false

theorem idles_sortEdit (o : SortOptions) (selection : Range) (pending : Pending) :
    w.Idles (w.sortEdit o selection pending).run fun _ => False :=
  (idles_select hw selection _).run_lift_bind_false

theorem idles_markers (r : Option Range) : w.Idles (w.markers r) fun _ => False :=
  (idles_check hw).bind_false

theorem idles_formatEdits (r : Option Range) : w.Idles (w.formatEdits r).run fun _ => False :=
  (idles_markers hw none).run_lift_bind_false

theorem idles_factsOf (ranges : List Range) :
    w.Idles (Session.factsOf w ranges) fun _ => True := by
  induction ranges with
  | nil => exact .pure trivial
  | cons r rest ih => exact (idles_lines hw _ _).bind fun _ _ => ih.bind fun _ _ => .pure trivial

theorem checkSorting_error (s : SortState) : w.checkSorting s = .error {} s := by
  rw [checkSorting, SortStep.ofWork, check, hw]
  rfl

/-- Without blocks there is nothing to sort; otherwise it is noticed at the first block that the
call is cancelled. -/
theorem sortLevel_cancelled (o : SortOptions) (blocks : List Range) (s : SortState) :
    (w.sortLevel o blocks).run s = .ok (.ok []) s ∨
      (w.sortLevel o blocks).run s = .error {} s := by
  have herror : ∀ f : Unit → Sorting (List Text),
      (liftM w.checkSorting >>= f).run s = .error {} s := by
    intro f
    rw [run_lift_bind]
    exact bind_of_error (checkSorting_error hw s)
  cases blocks with
  | nil =>
      change (w.arrangeLevel o.order ⟨o.depth, o.skipParents⟩ []).run s = _ ∨
        (w.arrangeLevel o.order ⟨o.depth, o.skipParents⟩ []).run s = _
      unfold arrangeLevel
      split
      · exact .inl rfl
      · exact .inr (herror _)
  | cons b rest =>
      right
      rw [sortLevel, run_bind]
      exact bind_of_error (herror _)

theorem idles_sortBlocks (o : SortOptions) (blocks : List Range) (pending : Pending) :
    w.Idles (w.sortBlocks o blocks pending).run fun result => result = .ok ([], pending) := by
  intro c
  change LineCache.Kept w.document c (final (w.sortBlocks o blocks pending c)) ∧
    ∀ a c', w.sortBlocks o blocks pending c = .ok a c' → _
  unfold sortBlocks
  rcases sortLevel_cancelled hw o blocks ⟨c, pending, o.seed.map Keystream.ofSeed⟩ with h | h
  · change w.sortLevel o blocks _ = _ at h
    rw [h]
    refine ⟨.inl rfl, ?_⟩
    rintro _ _ ⟨⟩
    rfl
  · change w.sortLevel o blocks _ = _ at h
    rw [h]
    refine ⟨.inl rfl, ?_⟩
    rintro _ _ ⟨⟩

end Workspace

/-! ## Facts that have been computed before -/

namespace Session

variable {s : Session} {d : Document} {c : LineCache} {r : Range}

theorem lines_of_serves (h : c.serves d r = true) : ∃ lines c', c'.computed = c.computed ∧
    ∀ cancelled, (s.workspace d cancelled).lines (d.clamp r).start.line (d.clamp r).stop.line c =
      .ok lines c' := by
  have hensure : ∃ c', c'.computed = c.computed ∧ ∀ cancelled, LineCache.ensure s.classifier d
      cancelled (d.clamp r).start.line (d.clamp r).stop.line c = .ok () c' := by
    simp only [LineCache.ensure_eq]
    by_cases hzero : d.lineCount = 0
    · exact ⟨c, rfl, fun _ => if_pos hzero⟩
    · have hcontains : c.computed.contains (LineCache.clampSpan d (d.clamp r).start.line
          (d.clamp r).stop.line) = true := by
        simpa [LineCache.serves, hzero] using h
      -- lines that are there are found before it is asked whether the call is cancelled
      refine ⟨c.resize d.lineCount, rfl, fun _ => ?_⟩
      rw [if_neg hzero, LineCache.computed_resize, if_pos hcontains]
  obtain ⟨c', hcomputed, hok⟩ := hensure
  exact ⟨_, c', hcomputed, fun cancelled => (bind_of_ok (hok cancelled)).trans rfl⟩

theorem lines_of_not_serves (h : c.serves d r = false) :
    (s.workspace d true).lines (d.clamp r).start.line (d.clamp r).stop.line c =
      .error {} (c.resize d.lineCount) := by
  rw [LineCache.serves, Bool.or_eq_false_iff, decide_eq_false_iff_not] at h
  obtain ⟨hzero, hcontains⟩ := h
  apply bind_of_error
  change LineCache.ensure s.classifier d true _ _ c = _
  rw [LineCache.ensure_eq, if_neg hzero, LineCache.computed_resize, hcontains]
  rfl

theorem factsOf_of_serves {ranges : List Range} (h : ranges.all (c.serves d) = true) :
    factsOf (s.workspace d true) ranges c = factsOf (s.workspace d false) ranges c := by
  induction ranges generalizing c with
  | nil => rfl
  | cons r rest ih =>
      rw [List.all_cons, Bool.and_eq_true] at h
      obtain ⟨lines, c', hcomputed, hlines⟩ := lines_of_serves (s := s) h.1
      -- the cache that is left counts the same lines as computed
      have hrest := ih ((LineCache.serves_congr hcomputed).symm ▸ h.2)
      refine (bind_of_ok (hlines true)).trans (Eq.trans ?_ (bind_of_ok (hlines false)).symm)
      simp only [bind, EStateM.bind, hrest]

theorem factsOf_of_not_serves {ranges : List Range} (h : ranges.all (c.serves d) = false) :
    ∃ c', factsOf (s.workspace d true) ranges c = .error {} c' := by
  induction ranges generalizing c with
  | nil => cases h
  | cons r rest ih =>
      cases hr : c.serves d r with
      | false => exact ⟨_, bind_of_error (lines_of_not_serves hr)⟩
      | true =>
          rw [List.all_cons, hr, Bool.true_and] at h
          obtain ⟨lines, c', hcomputed, hlines⟩ := lines_of_serves (s := s) hr
          obtain ⟨c'', hrest⟩ := ih ((LineCache.serves_congr hcomputed).symm ▸ h)
          exact ⟨c'', (bind_of_ok (hlines true)).trans (bind_of_error hrest)⟩

end Session

/-! ## Cancelled queries -/

namespace Query

/-- Work on a query comes to nothing if the call is cancelled, unless facts about lines are asked
for. -/
theorem idles_work {w : Workspace} (hw : w.cancelled = true) (q : Query) :
    w.Idles (q.work w) fun result => (∃ ranges, q = .lineFacts ranges) ∨
      q.answer w.document (some result) = q.answer w.document none := by
  cases q with
  | lineFacts ranges => exact (w.idles_factsOf hw _).mono fun _ _ => .inl ⟨ranges, rfl⟩
  | blocks r => exact (w.idles_blocks hw r).mono fun _ h => h.elim
  | innerBlocks r => exact (w.idles_innerBlocks hw r).mono fun _ h => .inr h
  | expand r e => exact (w.idles_expand hw r e).mono fun _ h => h.elim
  | expandSelection r => exact (w.idles_select hw r _).mono fun _ h => h.elim
  | sortBlocks o ranges pending =>
      exact (w.idles_sortBlocks hw o ranges pending).mono fun _ h => .inr h
  | sortEdit o selection pending =>
      exact (w.idles_sortEdit hw o selection pending).mono fun _ h => h.elim
  | markers r => exact (w.idles_markers hw r).mono fun _ h => h.elim
  | formatEdits r => exact (w.idles_formatEdits hw r).mono fun _ h => h.elim

/-- What a cancelled call answers.  Facts about lines are what they are without cancellation if
the cache has them all. -/
def idle (s : Session) (d : Document) : (q : Query) → q.Answer
  | lineFacts ranges =>
      if (ranges.getD [d.whole]).all (s.cache.serves d) then (s.lineFacts d ranges false).1
      else ([] : List LineFacts)
  | blocks _ | innerBlocks _ => ([] : List Range)
  | expand r _ | expandSelection r => d.clamp r
  | sortBlocks _ _ pending => (.ok ([], pending) : Except Inconsistent (List Text × Pending))
  | sortEdit _ _ pending => (.ok (none, pending) : Except Inconsistent (Option Edit × Pending))
  | markers _ => ([] : List Marker)
  | formatEdits _ => (.ok [] : Except Inconsistent (List Edit))

end Query

namespace Session

variable {s : Session} {d : Document}

theorem run_fst_of_error {α : Type} {x : Work α} {e : Cancelled} {c : LineCache}
    (h : x s.cache = .error e c) : (s.run x).1 = none := by
  rw [run, h]

theorem ask_cancelled_eq_none {q : Query} (hq : ∀ ranges, q ≠ .lineFacts ranges) :
    (s.ask d true q).1 = q.answer d none := by
  rw [ask_eq]
  cases hwork : q.work (s.workspace d true) s.cache with
  | ok result c =>
      rw [run_of_ok hwork]
      refine ((q.idles_work rfl s.cache).2 result c hwork).resolve_left ?_
      rintro ⟨ranges, rfl⟩
      exact hq ranges rfl
  | error e c => rw [run_fst_of_error hwork]

theorem lineFacts_cancelled (ranges : Option (List Range)) :
    (s.lineFacts d ranges true).1 =
      if (ranges.getD [d.whole]).all (s.cache.serves d) then (s.lineFacts d ranges false).1
      else [] := by
  split
  · next h =>
      unfold lineFacts run
      rw [factsOf_of_serves h]
  · next h =>
      obtain ⟨c, hc⟩ := factsOf_of_not_serves (s := s) (Bool.eq_false_iff.mpr h)
      change (s.run (factsOf (s.workspace d true) (ranges.getD [d.whole]))).1.getD [] = []
      rw [run_fst_of_error hc]
      rfl

theorem ask_cancelled_fst (s : Session) (d : Document) (q : Query) :
    (s.ask d true q).1 = q.idle s d := by
  cases q with
  | lineFacts ranges => exact lineFacts_cancelled ranges
  | _ => exact ask_cancelled_eq_none nofun

theorem kept_ask_cancelled (s : Session) (d : Document) (q : Query) :
    ∃ c, (s.ask d true q).2 = { s with cache := c } ∧ LineCache.Kept d s.cache c := by
  rw [ask_eq, run_snd]
  exact ⟨_, rfl, (q.idles_work rfl s.cache).1⟩

/-- A cancelled call has no answer, or its input for an answer, except that facts about lines are
answered if the cache has them all.  It adds nothing to the cache and changes nothing in it, but
may drop lines that the document does not have; of the document that the session has been told of
it drops nothing. -/
theorem ask_cancelled (s : Session) (d : Document) (q : Query) :
    (s.ask d true q).1 = q.idle s d ∧
      ∃ c, (s.ask d true q).2 = { s with cache := c } ∧ c.computed = s.cache.computed ∧
        (∀ n, n < d.lineCount → c.get? n = s.cache.get? n) ∧
        (∀ n, d.lineCount ≤ n → c.get? n = s.cache.get? n ∨ c.get? n = none) ∧
        ∀ (config : Config) (language : String) (opened b : Buffer),
          Reachable config language opened s b → b.document = d →
            ∀ n, c.get? n = s.cache.get? n := by
  obtain ⟨c, hc, hkept⟩ := kept_ask_cancelled s d q
  refine ⟨ask_cancelled_fst s d q, c, hc, hkept.computed_eq, fun n hn => hkept.get?_of_lt hn,
    fun n hn => hkept.get?_of_le hn, ?_⟩
  rintro config language opened b hreachable rfl n
  obtain ⟨c', rfl, hfaithful⟩ := hreachable.stands
  exact hkept.get?_of_faithful hfaithful n

/-- A session that has been asked for blocks and has seen a line become two lines. -/
def afterSplit : Session :=
  ((start {} "text").ask twoLines.document false (.blocks (.lines 0 1))).2.noteEdit splitLine

/-- A cancelled call is to expand a selection that reaches beyond the document. -/
theorem ask_cancelled_after_split :
    Reachable {} "text" twoLines afterSplit (twoLines.edit splitLine) ∧
      (afterSplit.ask (twoLines.edit splitLine).document true (.expand (.lines 1 7) .full)).1 =
        (twoLines.edit splitLine).document.clamp (.lines 1 7) ∧
      ∀ n, (afterSplit.ask (twoLines.edit splitLine).document true
        (.expand (.lines 1 7) .full)).2.cache.get? n = afterSplit.cache.get? n := by
  have hreachable : Reachable {} "text" twoLines afterSplit (twoLines.edit splitLine) :=
    .edit ⟨by decide, by decide, by decide, by decide, by decide, by decide⟩ (.ask false _ .start)
  obtain ⟨hanswer, c, hc, -, -, -, hkept⟩ :=
    ask_cancelled afterSplit (twoLines.edit splitLine).document (.expand (.lines 1 7) .full)
  refine ⟨hreachable, hanswer, fun n => ?_⟩
  rw [hc]
  exact hkept {} "text" twoLines _ hreachable rfl n

/-- Once the facts about a line have been asked for, a cancelled call answers them; and a cancelled
call on a document without the second line makes the cache forget what it knew about that line. -/
theorem lineFacts_cancelled_ne_nil :
    (((start {} "plaintext").lineFacts ⟨[['a']]⟩ none false).2.lineFacts ⟨[['a']]⟩ none true).1 ≠
        [] ∧
      (((start {} "plaintext").lineFacts ⟨[['a'], ['b']]⟩ none false).2.cache.get? 1).isSome =
        true ∧
      (((start {} "plaintext").lineFacts ⟨[['a'], ['b']]⟩ none false).2.expand ⟨[['a']]⟩
        (.lines 0 0) .full true).2.cache.get? 1 = none := by
  have hempty : ∀ config language, (start config language).cache = .empty := fun _ _ => rfl
  replace hempty := hempty {} "plaintext"
  generalize start {} "plaintext" = s at hempty
  obtain ⟨config, language, k, errors, c⟩ := s
  obtain rfl : c = .empty := hempty
  refine ⟨?_, ?_, ?_⟩
  · nofun
  · rfl
  · rfl

end Session

end BlockOrder
