import BlockOrder.Proofs.Blocks.Tiling
import BlockOrder.Proofs.Sort.Arrangement
import BlockOrder.Sort.Blocks

/-!
# Blocks within blocks

A block that is cut into head, inner blocks and tail has the texts of these, one after the other.
Sorting copies some stretches of the document and arranges the texts of inner blocks; a property
of texts that holds of copies and survives an arrangement of inner texts holds of every block
text that sorting produces.
-/

namespace BlockOrder

/-! ## Computations that end -/

/-- The computation is not cancelled.  If comparisons are consistent it has a result, and whatever
result it has is in the relation with the state it leaves. -/
def Ends {ε σ α : Type} (consistent : Prop) (x : ExceptT Inconsistent (EStateM ε σ) α) (s : σ)
    (P : α → σ → Prop) : Prop :=
  ∃ r s', x.run s = .ok r s' ∧ Sound consistent (P · s') r

namespace Ends

variable {ε σ α β : Type} {consistent : Prop} {x : ExceptT Inconsistent (EStateM ε σ) α}
  {f : α → ExceptT Inconsistent (EStateM ε σ) β} {s : σ} {P P' : α → σ → Prop} {Q : β → σ → Prop}

theorem pure {a : α} (ha : P a s) :
    Ends consistent (Pure.pure a : ExceptT Inconsistent (EStateM ε σ) α) s P :=
  ⟨_, s, rfl, .pure ha⟩

theorem lift {x : EStateM ε σ α} {a : α} {s' : σ} (hx : x s = .ok a s') (ha : P a s') :
    Ends consistent (liftM x : ExceptT Inconsistent (EStateM ε σ) α) s P :=
  ⟨.ok a, s', bind_of_ok hx, ha⟩

theorem bind (hx : Ends consistent x s P) (hf : ∀ a s', P a s' → Ends consistent (f a) s' Q) :
    Ends consistent (x >>= f) s Q := by
  obtain ⟨r, s', hr, hP⟩ := hx
  cases r with
  | ok a =>
      obtain ⟨r', s'', hr', hQ⟩ := hf a s' hP
      exact ⟨r', s'', by rw [run_bind_of_ok hr, hr'], hQ⟩
  | error e => exact ⟨.error e, s', run_bind_of_error hr, hP⟩

theorem lift_bind {x : EStateM ε σ α} {a : α} {s' : σ} (hx : x s = .ok a s')
    (hf : Ends consistent (f a) s' Q) : Ends consistent (liftM x >>= f) s Q := by
  obtain ⟨r, s'', hr, hQ⟩ := hf
  exact ⟨r, s'', by rw [run_lift_bind, bind_of_ok hx, hr], hQ⟩

theorem mono (hx : Ends consistent x s P) (h : ∀ a s', P a s' → P' a s') :
    Ends consistent x s P' := by
  obtain ⟨r, s', hr, hP⟩ := hx
  exact ⟨r, s', hr, hP.mono fun a => h a s'⟩

theorem of_imp {consistent' : Prop} (hx : Ends consistent x s P) (h : consistent' → consistent) :
    Ends consistent' x s P := by
  obtain ⟨r, s', hr, hP⟩ := hx
  exact ⟨r, s', hr, hP.of_imp h⟩

/-- Two descriptions of one run. -/
theorem and (hx : Ends consistent x s P) (hx' : Ends consistent x s P') :
    Ends consistent x s fun a s' => P a s' ∧ P' a s' := by
  obtain ⟨r, s', hr, hP⟩ := hx
  obtain ⟨r', s'', hr', hP'⟩ := hx'
  obtain ⟨rfl, rfl⟩ := EStateM.Result.ok.inj (hr.symm.trans hr')
  exact ⟨r, s', hr, hP.and hP'⟩

end Ends

/-! ## Blocks and their parts -/

namespace Document

variable {d : Document}

theorem fits_later {p q b : Position} (h : d.Fits ⟨p, q⟩) (hb : d.Inside b) (hbq : b ≤ q) :
    d.Fits ⟨p.later b, q⟩ := by
  unfold Position.later
  split
  · exact ⟨hb, h.stop, hbq⟩
  · exact h

theorem fits_earlier {p q b : Position} (h : d.Fits ⟨p, q⟩) (hb : d.Inside b) (hpb : p ≤ b) :
    d.Fits ⟨p, q.earlier b⟩ := by
  unfold Position.earlier
  split
  · exact h
  · exact ⟨h.start, hb, hpb⟩

theorem le_later (p b : Position) : b ≤ p.later b := by
  unfold Position.later
  split
  · exact Position.le_refl b
  · next h => exact (Position.le_total p b).resolve_left h

theorem earlier_le (q b : Position) : q.earlier b ≤ b := by
  unfold Position.earlier
  split
  · next h => exact h
  · exact Position.le_refl b

namespace Runs

variable {p q b : Position} {ranges : List Range}

/-- The first range may start later, but not after its first line. -/
theorem changeFirst (h : Runs d q p ranges) (hb : d.Inside b) (hbq : b ≤ q)
    (hline : b.line ≤ p.line) :
    Runs d q (p.later b)
      (Split.changeFirst (fun r => { r with start := r.start.later b }) ranges) := by
  cases h with
  | one fits => exact .one (fits_later fits hb hbq)
  | cons fits next runs =>
      have hstop := hb.le_lineStop (Nat.le_trans hline fits.line_le)
      exact .cons (fits_later fits hb hstop) next runs

/-- The last range may end earlier, but not before its last line. -/
theorem changeLast (h : Runs d q p ranges) (hb : d.Inside b) (hpb : p ≤ b)
    (hline : q.line ≤ b.line) :
    Runs d (q.earlier b) p
      (Split.changeLast (fun r => { r with stop := r.stop.earlier b }) ranges) := by
  induction h with
  | one fits => exact .one (fits_earlier fits hb hpb)
  | cons fits next runs ih =>
      obtain ⟨r, rest, rfl⟩ := List.exists_cons_of_ne_nil runs.ne_nil
      exact .cons fits next (ih (hb.lineStart_le (Nat.le_trans runs.fits.line_le hline)))

theorem head_start (h : Runs d q p ranges) : ∃ r, ranges.head? = some r ∧ r.start = p := by
  cases h with
  | one fits => exact ⟨_, rfl, rfl⟩
  | cons fits next runs => exact ⟨_, rfl, rfl⟩

theorem last_stop (h : Runs d q p ranges) : ∃ r, ranges.getLast? = some r ∧ r.stop = q := by
  induction h with
  | one fits => exact ⟨_, rfl, rfl⟩
  | cons fits next runs ih =>
      obtain ⟨r, hr, hstop⟩ := ih
      obtain ⟨s, rest, rfl⟩ := List.exists_cons_of_ne_nil runs.ne_nil
      exact ⟨r, hr, hstop⟩

end Runs

/-- A block cut into what comes before its inner blocks, these, and what comes after them. -/
structure Cuts (d : Document) (block : Range) (split : Split) : Prop where
  head : d.Fits split.head
  tail : d.Fits split.tail
  head_start : split.head.start = block.start
  tail_stop : split.tail.stop = block.stop
  runs : d.Runs split.tail.start split.head.stop split.inner
  /-- Inside a block of whole lines there are whole lines. -/
  lineStart : block.start.column = .char 0 → split.head.stop.column = .char 0
  lineStop : block.stop = d.lineStop block.stop.line →
    split.tail.start = d.lineStop split.tail.start.line

/-- The text of a block is that of its parts. -/
theorem Cuts.slice_eq {block : Range} {split : Split} (h : d.Cuts block split) :
    d.slice split.head ++ Text.unlines (split.inner.map d.slice) ++ d.slice split.tail =
      d.slice block := by
  obtain ⟨⟨p, a⟩, inner, ⟨b, q⟩⟩ := split
  obtain ⟨hhead, htail, rfl, rfl, hruns, -, -⟩ := h
  have hfits := hruns.fits
  rw [hruns.unlines_slices, slice_append_slice hhead hfits,
    slice_append_slice (Fits.trans hhead hfits) htail]

theorem cuts_of_runsWithin {block : Range} {ranges : List Range} (hblock : d.Fits block)
    (h : d.RunsWithin block ranges) :
    ∃ split, Split.of? block ranges = some split ∧ d.Cuts block split := by
  obtain ⟨first, last, hfirst, hlast, hruns⟩ := h
  have hopened := hruns.changeFirst hblock.start
    (hblock.start.le_lineStop (Nat.le_trans hfirst hruns.fits.line_le)) hfirst
  have hstart : (Position.ofOffset first 0).later block.start ≤ block.stop := by
    unfold Position.later
    split
    · exact hblock.le
    · exact hblock.stop.lineStart_le (Nat.le_trans hruns.fits.line_le hlast)
  have hclipped := hopened.changeLast hblock.stop hstart hlast
  obtain ⟨r, hr, hrstart⟩ := hclipped.head_start
  obtain ⟨s, hs, hsstop⟩ := hclipped.last_stop
  have hle := le_later (.ofOffset first 0) block.start
  have hge := earlier_le (d.lineStop last) block.stop
  have hsplit : Split.of? block ranges = some ⟨.between block.start r.start,
      Split.changeLast (fun r => { r with stop := r.stop.earlier block.stop })
        (Split.changeFirst (fun r => { r with start := r.start.later block.start }) ranges),
      .between s.stop block.stop⟩ := by
    simp only [Split.of?, hr, hs]
  rw [hrstart, hsstop, between_of_le hle, between_of_le hge] at hsplit
  refine ⟨_, hsplit, ⟨hblock.start, hclipped.fits.start, hle⟩,
    ⟨hclipped.fits.stop, hblock.stop, hge⟩, rfl, rfl, hclipped, ?_, ?_⟩
  · intro hcolumn
    change (Position.later _ _).column = _
    unfold Position.later
    split
    · exact hcolumn
    · rfl
  · intro hstop
    change Position.earlier _ _ = d.lineStop (Position.earlier _ _).line
    unfold Position.earlier
    split
    · rfl
    · exact hstop

end Document

/-- One step after the other: each of them takes an input and the state that the one before it
left. -/
inductive Threaded {α β σ : Type} (P : α → σ → β → σ → Prop) : List α → σ → List β → σ → Prop
  | nil (s : σ) : Threaded P [] s [] s
  | cons {a : α} {as : List α} {b : β} {bs : List β} {s s' s'' : σ} (step : P a s b s')
      (rest : Threaded P as s' bs s'') : Threaded P (a :: as) s (b :: bs) s''

theorem Threaded.length_eq {α β σ : Type} {P : α → σ → β → σ → Prop} {as : List α} {bs : List β}
    {s s' : σ} (h : Threaded P as s bs s') : bs.length = as.length := by
  induction h with
  | nil => rfl
  | cons _ _ ih => rw [List.length_cons, List.length_cons, ih]

theorem Threaded.imp {α β σ : Type} {P Q : α → σ → β → σ → Prop} {as : List α} {bs : List β}
    {s s' : σ} (h : Threaded P as s bs s') (hPQ : ∀ a s b s', P a s b s' → Q a s b s') :
    Threaded Q as s bs s' := by
  induction h with
  | nil s => exact .nil s
  | cons step _ ih => exact .cons (hPQ _ _ _ _ step) ih

namespace Workspace

variable {w : Workspace}

/-- A relation between a block, the edits pending before it, its text, and the edits pending
after it.  It holds of copied blocks, and of a block that is put together from copies and
arranged inner blocks if it holds of these. -/
structure Nests (w : Workspace) (P : Range → Pending → Text → Pending → Prop) : Prop where
  copied : ∀ r p, P r p (p.editedText w.document (w.document.clamp r)).1
    (p.editedText w.document (w.document.clamp r)).2
  nested : ∀ r split p texts p' sorted, w.document.Cuts (w.document.clamp r) split →
    Threaded P split.inner (p.editedText w.document split.head).2 texts p' →
    Arrange.Rearranged w.classifier texts sorted →
    P r p ((p.editedText w.document split.head).1 ++ Text.unlines sorted ++
      (p'.editedText w.document split.tail).1) (p'.editedText w.document split.tail).2

theorem checkSorting_of_not_cancelled (hw : w.cancelled = false) : w.checkSorting = pure () := by
  rw [checkSorting, check_of_not_cancelled hw]
  rfl

theorem editedText_ok (hw : w.cancelled = false) (r : Range) (s : SortState) :
    w.editedText r s = .ok (s.pending.editedText w.document r).1
      { s with pending := (s.pending.editedText w.document r).2 } := by
  unfold editedText
  rw [checkSorting_of_not_cancelled hw, pure_bind]
  rfl

theorem editedText_yields {I : SortState → Prop} (hw : w.cancelled = false)
    (hI : ∀ s, I s → s.pending = .none) (r : Range) :
    Yields I (w.editedText r) (w.document.slice r) I := by
  rintro ⟨cache, pending, draws⟩ hs
  obtain rfl : pending = .none := hI _ hs
  exact ⟨_, editedText_ok hw r _, hs⟩

theorem arrangeLevel_eq_bind (k : KeyOrder) {l : Level} (hl : l.skipParents = 0)
    (texts : List Text) :
    (w.arrangeLevel k l texts).run = w.checkSorting >>= fun _ s =>
      match Arrange.arrangeAll w.classifier w.config.sortHeaders w.config.keepNewlines k texts
        s.draws with
      | .ok (sorted, draws) => .ok (.ok sorted) { s with draws }
      | .error e => .ok (.error e) s := by
  unfold arrangeLevel
  rw [if_neg (by simp [hl]), run_lift_bind]
  congr 1
  funext _ s
  have hget : (get : Sorting SortState).run s = .ok (.ok s) s := rfl
  have hlift : (liftM (Arrange.arrangeAll w.classifier w.config.sortHeaders w.config.keepNewlines k
      texts s.draws) : Sorting (List Text × Draws)).run s =
        .ok (Arrange.arrangeAll w.classifier w.config.sortHeaders w.config.keepNewlines k texts
          s.draws) s := rfl
  rw [run_bind_of_ok hget]
  cases h : Arrange.arrangeAll w.classifier w.config.sortHeaders w.config.keepNewlines k texts
      s.draws with
  | ok sorted =>
      rw [h] at hlift
      rw [run_bind_of_ok hlift]
      rfl
  | error e =>
      rw [h] at hlift
      exact run_bind_of_error hlift

theorem arrangeLevel_run (hw : w.cancelled = false) (k : KeyOrder) {l : Level}
    (hl : l.skipParents = 0) (texts : List Text) (s : SortState) :
    (w.arrangeLevel k l texts).run s =
      match Arrange.arrangeAll w.classifier w.config.sortHeaders w.config.keepNewlines k texts
        s.draws with
      | .ok (sorted, draws) => .ok (.ok sorted) { s with draws }
      | .error e => .ok (.error e) s := by
  rw [arrangeLevel_eq_bind k hl, checkSorting_of_not_cancelled hw]
  rfl

theorem arrangeLevel_run_of_ok (hw : w.cancelled = false) {k : KeyOrder} {l : Level}
    (hl : l.skipParents = 0) {texts sorted : List Text} {s : SortState} {draws : Draws}
    (h : Arrange.arrangeAll w.classifier w.config.sortHeaders w.config.keepNewlines k texts
      s.draws = .ok (sorted, draws)) :
    (w.arrangeLevel k l texts).run s = .ok (.ok sorted) { s with draws } := by
  rw [arrangeLevel_run hw k hl, h]

/-- Arranging a level leaves the cache and the pending edits alone. -/
theorem arrangeLevel_ends_of_sound (hw : w.cancelled = false) {k : KeyOrder} {l : Level}
    (hl : l.skipParents = 0) {texts : List Text} {s : SortState} {consistent : Prop}
    {P : List Text × Draws → Prop}
    (h : Sound consistent P (Arrange.arrangeAll w.classifier w.config.sortHeaders
      w.config.keepNewlines k texts s.draws)) :
    Ends consistent (w.arrangeLevel k l texts) s fun sorted s' =>
      s' = { s with draws := s'.draws } ∧ P (sorted, s'.draws) := by
  have hrun := arrangeLevel_run hw k hl texts s
  cases harranged : Arrange.arrangeAll w.classifier w.config.sortHeaders w.config.keepNewlines k
      texts s.draws with
  | ok sorted =>
      rw [harranged] at hrun h
      exact ⟨_, _, hrun, rfl, h⟩
  | error e =>
      rw [harranged] at hrun h
      exact ⟨_, _, hrun, h⟩

theorem arrangeLevel_ends (hw : w.cancelled = false) (k : KeyOrder) (l : Level)
    (texts : List Text) (s : SortState) :
    Ends (Std.TransCmp k.compare) (w.arrangeLevel k l texts) s fun sorted s' =>
      s'.pending = s.pending ∧ Arrange.Rearranged w.classifier texts sorted := by
  rcases Nat.eq_zero_or_pos l.skipParents with hl | hl
  · refine (arrangeLevel_ends_of_sound hw hl (Arrange.rearranged_arrangeAll _ _ _ k texts _)).mono
      fun sorted s' hsorted => ?_
    rw [hsorted.1]
    exact ⟨rfl, hsorted.2⟩
  · unfold arrangeLevel
    rw [if_pos hl]
    exact .pure ⟨rfl, Arrange.rearranged_refl _ _⟩

theorem blockTexts_ends (hw : w.cancelled = false) {consistent : Prop}
    {text : Range → Sorting Text} {P : Range → Pending → Text → Pending → Prop}
    (htext : ∀ r s, Ends consistent (text r) s fun t s' => P r s.pending t s'.pending)
    (blocks : List Range) (s : SortState) :
    Ends consistent (w.blockTexts text blocks) s fun texts s' =>
      Threaded P blocks s.pending texts s'.pending := by
  induction blocks generalizing s with
  | nil => exact .pure (.nil _)
  | cons r rest ih =>
      unfold blockTexts
      rw [checkSorting_of_not_cancelled hw]
      refine .lift_bind rfl ((htext r s).bind fun t s' ht => ?_)
      exact (ih s').bind fun texts s'' hrest => .pure (.cons ht hrest)

theorem blockTexts_yields {I : SortState → Prop} (hw : w.cancelled = false)
    {text : Range → Sorting Text} {f : Range → Text} {blocks : List Range}
    (h : ∀ r ∈ blocks, Yields I (text r).run (.ok (f r)) I) :
    Yields I (w.blockTexts text blocks).run (.ok (blocks.map f)) I := by
  induction blocks with
  | nil => exact .pure _
  | cons r rest ih =>
      unfold blockTexts
      rw [checkSorting_of_not_cancelled hw]
      refine .run_lift_bind (.pure ()) ((h r List.mem_cons_self).run_bind ?_)
      exact (ih fun r' hr' => h r' (List.mem_cons_of_mem r hr')).run_bind (.pure _)

/-- The inner blocks of a block cut it, or there are none. -/
theorem split_ok (hw : w.cancelled = false) {block : Range} (hblock : w.document.Fits block)
    (s : SortState) :
    ∃ ranges cache, w.innerRanges block s = .ok ranges { s with cache } ∧
      (Split.of? block ranges = none ∨
        ∃ split, Split.of? block ranges = some split ∧ w.document.Cuts block split) := by
  obtain ⟨ranges, cache, hranges, hruns⟩ := innerBlocks_ok hw hblock s.cache
  refine ⟨ranges, cache, by simp only [innerRanges, SortStep.ofWork, hranges], ?_⟩
  rcases hruns with rfl | hruns
  · exact .inl rfl
  · exact .inr (Document.cuts_of_runsWithin hblock hruns)

/-- What nests holds of the text of every block that is sorted. -/
theorem blockText_ends (hw : w.cancelled = false) {P : Range → Pending → Text → Pending → Prop}
    (hP : w.Nests P) (k : KeyOrder) (room : Nat) (l : Level) (r : Range) (s : SortState) :
    Ends (Std.TransCmp k.compare) (w.blockText k room l r) s fun t s' =>
      P r s.pending t s'.pending := by
  have hcopied : ∀ r (s : SortState), Ends (Std.TransCmp k.compare)
      (liftM (w.editedText (w.document.clamp r)) : Sorting Text) s fun t s' =>
        P r s.pending t s'.pending :=
    fun r s => .lift (editedText_ok hw _ s) (hP.copied r s.pending)
  induction room generalizing l r s with
  | zero => exact hcopied r s
  | succ room ih =>
      unfold blockText
      simp only
      split
      · exact hcopied r s
      obtain ⟨ranges, cache, hranges, hsplit⟩ := split_ok hw (w.document.fits_clamp r) s
      apply Ends.lift_bind hranges
      rcases hsplit with hnone | ⟨split, hsome, hcuts⟩
      · rw [hnone]
        exact hcopied r _
      · simp only [hsome]
        apply Ends.lift_bind (editedText_ok hw split.head _)
        refine (blockTexts_ends hw (ih l.inner) split.inner _).bind fun texts s₁ hinner => ?_
        refine (arrangeLevel_ends hw k l.inner texts s₁).bind fun sorted s₂ hsorted => ?_
        obtain ⟨hpending, harranged⟩ := hsorted
        refine .lift_bind (editedText_ok hw split.tail s₂) (.pure ?_)
        rw [hpending]
        exact hP.nested r split s.pending texts s₁.pending sorted hcuts hinner harranged

theorem sortBlocks_run {o : SortOptions} {blocks : List Range} {p : Pending} {c : LineCache}
    {r : Except Inconsistent (List Text)} {s : SortState}
    (h : (w.sortLevel o blocks).run ⟨c, p, o.seed.map Keystream.ofSeed⟩ = .ok r s) :
    (w.sortBlocks o blocks p).run c = .ok (r.map (·, s.pending)) s.cache := by
  change w.sortLevel o blocks _ = _ at h
  change w.sortBlocks o blocks p c = _
  rw [sortBlocks, h]

/-- What nests holds of the texts of blocks, and when blocks are sorted these are arranged. -/
theorem sortBlocks_ends (hw : w.cancelled = false) {P : Range → Pending → Text → Pending → Prop}
    (hP : w.Nests P) (o : SortOptions) (blocks : List Range) (p : Pending) (c : LineCache) :
    Ends (Std.TransCmp o.order.compare) (w.sortBlocks o blocks p) c fun result _ =>
      ∃ texts, Threaded P blocks p texts result.2 ∧
        Arrange.Rearranged w.classifier texts result.1 := by
  have hlevel : Ends (Std.TransCmp o.order.compare) (w.sortLevel o blocks)
      ⟨c, p, o.seed.map Keystream.ofSeed⟩ fun sorted s' =>
        ∃ texts, Threaded P blocks p texts s'.pending ∧
          Arrange.Rearranged w.classifier texts sorted := by
    refine (blockTexts_ends hw (blockText_ends hw hP o.order _ _) blocks _).bind
      fun texts s' hthreaded => ?_
    refine (arrangeLevel_ends hw o.order _ texts s').mono fun sorted s'' hsorted => ?_
    obtain ⟨hpending, harranged⟩ := hsorted
    exact ⟨texts, hpending ▸ hthreaded, harranged⟩
  obtain ⟨r, s', hr, hsound⟩ := hlevel
  exact ⟨_, _, sortBlocks_run hr, hsound.map fun _ h => h⟩

end Workspace

end BlockOrder
