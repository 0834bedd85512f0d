import BlockOrder.Proofs.Lines.Work

/-!
# Faithful caches

A cache is faithful to a document if it has room for its lines, or none at all, and if what it
counts as computed are the facts about lines of the document.  Making sure that facts are there
keeps a cache faithful, and so does the report of an edit, for the document after it.
-/

namespace BlockOrder

/-! ## Lines in spans -/

namespace LineSpan

/-- The span starts before it ends. -/
def Ordered (s : LineSpan) : Prop := s.first ≤ s.last

/-- The line lies in the span. -/
def Holds (s : LineSpan) (n : Nat) : Prop := s.first ≤ n ∧ n ≤ s.last

theorem ordered_between (a b : Nat) : (between a b).Ordered := by
  unfold between Ordered
  split <;> simp only <;> omega

theorem between_of_le {a b : Nat} (h : a ≤ b) : between a b = ⟨a, b⟩ := by
  simp [between, h]

theorem ordered_hull {s t : LineSpan} (hs : s.Ordered) : (s.hull t).Ordered := by
  unfold Ordered hull at *
  simp only
  omega

/-- The hull of spans that touch has no lines of its own. -/
theorem holds_of_hull {s t : LineSpan} (h : s.touches t = true) {n : Nat}
    (hn : (s.hull t).Holds n) : s.Holds n ∨ t.Holds n := by
  simp only [touches, Bool.and_eq_true, decide_eq_true_eq] at h
  unfold Holds hull at *
  simp only at hn
  omega

theorem holds_of_contains {s t : LineSpan} (h : s.contains t = true) {n : Nat} (hn : t.Holds n) :
    s.Holds n := by
  simp only [contains, Bool.and_eq_true, decide_eq_true_eq] at h
  exact ⟨Nat.le_trans h.1 hn.1, Nat.le_trans hn.2 h.2⟩

end LineSpan

namespace LineSet

/-- Every span of the set starts before it ends. -/
def Ordered (s : LineSet) : Prop := ∀ t ∈ s.spans, t.Ordered

/-- The line lies in a span of the set. -/
def Covers (s : LineSet) (n : Nat) : Prop := ∃ t ∈ s.spans, t.Holds n

theorem mem_of_mem_apart {placed t : LineSpan} {spans : List LineSpan}
    (h : t ∈ apart placed spans) : t ∈ spans := by
  induction spans generalizing placed with
  | nil => exact h
  | cons s rest ih =>
      simp only [apart] at h
      split at h
      · exact List.mem_cons_of_mem s (ih h)
      · rcases List.mem_cons.mp h with rfl | h
        · exact List.mem_cons_self
        · exact List.mem_cons_of_mem s (ih h)

/-- Putting a span among others adds no lines but its own. -/
theorem insertSpan_spec {new : LineSpan} {spans : List LineSpan} (hnew : new.Ordered)
    (hspans : ∀ s ∈ spans, s.Ordered) :
    ∀ t ∈ insertSpan new spans, t.Ordered ∧
      ∀ n, t.Holds n → new.Holds n ∨ ∃ s ∈ spans, s.Holds n := by
  induction spans generalizing new with
  | nil =>
      intro t ht
      obtain rfl := List.mem_singleton.mp ht
      exact ⟨hnew, fun n hn => .inl hn⟩
  | cons s rest ih =>
      have hs : s.Ordered := hspans s (by simp)
      have hrest : ∀ t ∈ rest, t.Ordered := fun t ht => hspans t (by simp [ht])
      have hold : ∀ t ∈ s :: rest, t.Ordered ∧
          ∀ n, t.Holds n → new.Holds n ∨ ∃ s' ∈ s :: rest, s'.Holds n :=
        fun t ht => ⟨hspans t ht, fun n hn => .inr ⟨t, ht, hn⟩⟩
      intro t ht
      simp only [insertSpan] at ht
      split at ht
      · next htouch =>
          obtain ⟨hordered, hlines⟩ := ih (LineSpan.ordered_hull hs) hrest t ht
          refine ⟨hordered, fun n hn => ?_⟩
          rcases hlines n hn with hhull | ⟨s', hs', hn'⟩
          · rcases LineSpan.holds_of_hull htouch hhull with h | h
            · exact .inr ⟨s, by simp, h⟩
            · exact .inl h
          · exact .inr ⟨s', by simp [hs'], hn'⟩
      split at ht
      · rcases List.mem_cons.mp ht with rfl | ht
        · exact hold t (by simp)
        · obtain ⟨hordered, hlines⟩ := ih hnew hrest t ht
          refine ⟨hordered, fun n hn => (hlines n hn).imp_right ?_⟩
          rintro ⟨s', hs', hn'⟩
          exact ⟨s', by simp [hs'], hn'⟩
      · rcases List.mem_cons.mp ht with rfl | ht
        · exact ⟨hnew, fun n hn => .inl hn⟩
        · rcases List.mem_cons.mp ht with rfl | ht
          · exact hold t (by simp)
          · exact hold t (by simp [mem_of_mem_apart ht])

theorem Ordered.add {s : LineSet} (h : s.Ordered) {new : LineSpan} (hnew : new.Ordered) :
    (s.add new).Ordered := fun t ht => (insertSpan_spec hnew h t ht).1

theorem Covers.of_add {s : LineSet} (h : s.Ordered) {new : LineSpan} (hnew : new.Ordered) {n : Nat}
    (hn : (s.add new).Covers n) : new.Holds n ∨ s.Covers n := by
  obtain ⟨t, ht, hn⟩ := hn
  exact (insertSpan_spec hnew h t ht).2 n hn

theorem covers_of_contains {s : LineSet} {t : LineSpan} (h : s.contains t = true) {n : Nat}
    (hn : t.Holds n) : s.Covers n := by
  obtain ⟨s', hs', hcontains⟩ := List.any_eq_true.mp h
  exact ⟨s', hs', LineSpan.holds_of_contains hcontains hn⟩

/-- Where a line of the set comes from when the lines from `first` to `last` have been replaced
by `count` lines. -/
def Origin (first last count n n' : Nat) : Prop :=
  (n < first ∧ n' = n) ∨ (last < n ∧ n' + (last + 1) = n + (first + count))

theorem moved_eq {first last count n : Nat} (hle : first ≤ last) (hn : last < n)
    (hroom : n + (first + count) ≤ lastLineNumber + (last + 1)) :
    moved (count - (last - first + 1 : Nat)) n = n + (first + count) - (last + 1) := by
  unfold moved
  omega

/-- What is left of a span are its lines outside the replaced ones, in their new places. -/
theorem pieces_spec {first last count : Nat} (hle : first ≤ last) {s : LineSpan} (hs : s.Ordered)
    (hroom : last < s.last → s.last + (first + count) ≤ lastLineNumber + (last + 1)) :
    ∀ t ∈ pieces first last (count - (last - first + 1 : Nat)) s, t.Ordered ∧
      ∀ n', t.Holds n' → ∃ n, s.Holds n ∧ Origin first last count n n' := by
  unfold LineSpan.Ordered at hs
  unfold pieces
  split
  · intro t ht
    obtain rfl := List.mem_singleton.mp ht
    refine ⟨hs, fun n' hn' => ⟨n', hn', .inl ⟨?_, rfl⟩⟩⟩
    exact Nat.lt_of_le_of_lt hn'.2 ‹_›
  have hlater : ∀ low, last < low → s.first ≤ low → low ≤ s.last →
      ∀ n', (LineSpan.between (moved (count - (last - first + 1 : Nat)) low)
        (moved (count - (last - first + 1 : Nat)) s.last)).Holds n' →
        ∃ n, s.Holds n ∧ Origin first last count n n' := by
    intro low hlow hfirst hlast n' hn'
    have hroom := hroom (by omega)
    rw [moved_eq hle hlow (by omega), moved_eq hle (by omega) hroom,
      LineSpan.between_of_le (by omega)] at hn'
    unfold LineSpan.Holds at hn'
    simp only at hn'
    refine ⟨n' + (last + 1) - (first + count), ⟨?_, ?_⟩, .inr ⟨?_, ?_⟩⟩ <;> omega
  split
  · next hafter =>
      intro t ht
      obtain rfl := List.mem_singleton.mp ht
      exact ⟨LineSpan.ordered_between _ _, hlater s.first hafter (Nat.le_refl _) hs⟩
  · intro t ht
    rcases List.mem_append.mp ht with ht | ht
    · split at ht
      · next hbefore =>
          obtain rfl := List.mem_singleton.mp ht
          refine ⟨LineSpan.ordered_between _ _, fun n' hn' => ?_⟩
          rw [LineSpan.between_of_le (by omega)] at hn'
          unfold LineSpan.Holds at hn'
          simp only at hn'
          exact ⟨n', ⟨hn'.1, by omega⟩, .inl ⟨by omega, rfl⟩⟩
      · simp at ht
    · split at ht
      · next hrest =>
          obtain rfl := List.mem_singleton.mp ht
          exact ⟨LineSpan.ordered_between _ _,
            hlater (last + 1) (Nat.lt_succ_self last) (by omega) hrest⟩
      · simp at ht

end LineSet

/-! ## Caches -/

namespace Document

variable (k : Classifier) (d : Document)

/-- The facts about a line, if the document has it. -/
def facts? (n : Nat) : Option LineFacts := (d.line? n).map (LineFacts.compute k)

/-- The facts about the lines from `first` to `last`. -/
def factsOf (first last : Nat) : List (Option LineFacts) :=
  (List.range' first (last + 1 - first)).map (d.facts? k)

theorem facts?_isSome {n : Nat} : (d.facts? k n).isSome = true ↔ n < d.lineCount := by
  simp [facts?, line?, lineCount]

theorem facts?_of_le {n : Nat} (h : d.lineCount ≤ n) : d.facts? k n = none := by
  simpa [facts?, line?, lineCount] using h

theorem compute_getD {n : Nat} (h : n < d.lineCount) :
    some (LineFacts.compute k ((d.line? n).getD [])) = d.facts? k n := by
  unfold lineCount at h
  simp [facts?, line?, h]

end Document

namespace LineCache

variable {k : Classifier} {d : Document} {c : LineCache}

/-- What the cache counts as computed are the facts about lines of the document. -/
structure Faithful (k : Classifier) (d : Document) (c : LineCache) : Prop where
  size : c.lines = [] ∨ c.lines.length = d.lineCount
  ordered : c.computed.Ordered
  facts : ∀ n, c.computed.Covers n → n < d.lineCount ∧ c.get? n = d.facts? k n

theorem faithful_empty (k : Classifier) (d : Document) : Faithful k d .empty :=
  ⟨.inl rfl, by simp [LineSet.Ordered, empty, LineSet.empty],
    by simp [LineSet.Covers, empty, LineSet.empty]⟩

theorem get?_of_le {n : Nat} (h : c.lines.length ≤ n) : c.get? n = none := by
  rw [get?, List.getElem?_eq_none h]
  rfl

/-- The cache knows the facts about a line, or that there are none. -/
def Knows (k : Classifier) (d : Document) (c : LineCache) (n : Nat) : Prop :=
  c.get? n = d.facts? k n

theorem Faithful.knows_of_le (h : Faithful k d c) {n : Nat} (hn : d.lineCount ≤ n) :
    c.Knows k d n := by
  rw [Knows, d.facts?_of_le k hn]
  apply get?_of_le
  rcases h.size with hnil | hlength
  · simp [hnil]
  · omega

theorem get?_resize {n : Nat} (hsize : c.lines = [] ∨ c.lines.length = d.lineCount) :
    (c.resize d.lineCount).get? n = c.get? n := by
  rcases hsize with hnil | hlength
  · simp only [resize, get?, hnil, List.take_nil, List.nil_append, List.getElem?_replicate,
      List.getElem?_nil]
    split <;> rfl
  · rw [← hlength]
    simp [resize, get?]

theorem length_resize (c : LineCache) (n : Nat) : (c.resize n).lines.length = n := by
  simp only [resize, List.length_append, List.length_take, List.length_replicate]
  omega

theorem Faithful.resize (h : Faithful k d c) : Faithful k d (c.resize d.lineCount) where
  size := .inr (length_resize c _)
  ordered := h.ordered
  facts n hn := by
    rw [get?_resize h.size]
    exact h.facts n hn

/-- Computing facts leaves what is known as it is, and all lines of the span are known after
it. -/
theorem Faithful.knows_refresh (h : Faithful k d c) (hlength : c.lines.length = d.lineCount)
    {span : LineSpan} {n : Nat} (hn : c.Knows k d n ∨ span.Holds n) :
    (refresh k d span c).Knows k d n := by
  by_cases hcount : d.lineCount ≤ n
  · rw [Knows, d.facts?_of_le k hcount]
    apply get?_of_le
    simpa [refresh, hlength] using hcount
  have hlt : n < d.lineCount := Nat.lt_of_not_le hcount
  have hget : (refresh k d span c).get? n =
      if span.first ≤ n && n ≤ span.last && !c.holds n then
        some (LineFacts.compute k ((d.line? n).getD [])) else c.get? n := by
    have hlt' : n < c.lines.length := by omega
    simp only [refresh, get?, List.getElem?_mapIdx, List.getElem?_eq_getElem hlt']
    simp only [Option.map_some, Option.join_some]
  rw [Knows, hget]
  split
  · exact d.compute_getD k hlt
  · next hcond =>
      rcases hn with hknows | hspan
      · exact hknows
      · simp only [Bool.and_eq_true, decide_eq_true_eq, Bool.not_eq_true', not_and,
          Bool.not_eq_false] at hcond
        have hholds := hcond hspan
        simp only [holds, Bool.and_eq_true, isComputed] at hholds
        refine (h.facts n (LineSet.covers_of_contains hholds.2 ?_)).2
        rw [LineSpan.between_of_le (Nat.le_refl n)]
        exact ⟨Nat.le_refl n, Nat.le_refl n⟩

theorem Faithful.refresh (h : Faithful k d c) (hlength : c.lines.length = d.lineCount)
    {span : LineSpan} (hspan : span.Ordered) (hlast : span.last < d.lineCount) :
    Faithful k d (LineCache.refresh k d span c) where
  size := .inr (by simpa [LineCache.refresh] using hlength)
  ordered := h.ordered.add hspan
  facts n hn := by
    rcases LineSet.Covers.of_add h.ordered hspan hn with hholds | hcovers
    · exact ⟨Nat.lt_of_le_of_lt hholds.2 hlast, h.knows_refresh hlength (.inr hholds)⟩
    · obtain ⟨hlt, hfacts⟩ := h.facts n hcovers
      exact ⟨hlt, h.knows_refresh hlength (.inl hfacts)⟩

theorem ordered_clampSpan (d : Document) (first last : Nat) : (clampSpan d first last).Ordered :=
  Nat.min_le_right _ _

theorem holds_clampSpan {first last n : Nat} (hfirst : first ≤ n) (hlast : n ≤ last)
    (hn : n < d.lineCount) : (clampSpan d first last).Holds n := by
  simp only [clampSpan, LineSpan.Holds, Document.lastLine]
  omega

/-- A cache that has been asked for some lines: it is faithful, it knows those lines, and still
knows what it knew before. -/
theorem Faithful.ensure_ok (h : Faithful k d c) (first last : Nat) :
    ∃ c', ensure k d false first last c = .ok () c' ∧ Faithful k d c' ∧
      ∀ n, c.Knows k d n ∨ (first ≤ n ∧ n ≤ last) → c'.Knows k d n := by
  rw [ensure_eq]
  split
  · next hzero =>
      exact ⟨c, rfl, h, fun n _ => h.knows_of_le (by omega)⟩
  have hsize : (clampSpan d first last).last < d.lineCount := by
    simp only [clampSpan, Document.lastLine]
    omega
  have hresized : ∀ n, c.Knows k d n → (c.resize d.lineCount).Knows k d n := by
    intro n hn
    rw [Knows, get?_resize h.size]
    exact hn
  split
  · next hcontains =>
      refine ⟨_, rfl, h.resize, fun n hn => ?_⟩
      rcases hn with hknows | ⟨hfirst, hlast⟩
      · exact hresized n hknows
      · by_cases hcount : d.lineCount ≤ n
        · exact h.resize.knows_of_le hcount
        · have hholds := holds_clampSpan hfirst hlast (Nat.lt_of_not_le hcount)
          exact (h.resize.facts n (LineSet.covers_of_contains hcontains hholds)).2
  · have hfaithful := h.resize.refresh (length_resize c _) (ordered_clampSpan d first last) hsize
    refine ⟨_, rfl, hfaithful, fun n hn => ?_⟩
    rcases hn with hknows | ⟨hfirst, hlast⟩
    · exact h.resize.knows_refresh (length_resize c _) (.inl (hresized n hknows))
    · by_cases hcount : d.lineCount ≤ n
      · exact hfaithful.knows_of_le hcount
      · have hholds := holds_clampSpan hfirst hlast (Nat.lt_of_not_le hcount)
        exact h.resize.knows_refresh (length_resize c _) (.inr hholds)

/-- Being asked for lines keeps a cache faithful, even if it is told too late. -/
theorem Faithful.ensure_final (h : Faithful k d c) (cancelled : Bool) (first last : Nat) :
    Faithful k d (final (ensure k d cancelled first last c)) := by
  cases cancelled with
  | false =>
      obtain ⟨c', hc', hfaithful, -⟩ := h.ensure_ok first last
      rw [hc']
      exact hfaithful
  | true =>
      rw [ensure_eq]
      split
      · exact h
      split <;> exact h.resize

/-! ## Edits -/

theorem getElem?_splice {α : Type} {l new : List α} {first last n n' : Nat} (hle : first ≤ last)
    (hlast : last < l.length) (h : LineSet.Origin first last new.length n n') :
    (l.take first ++ new ++ l.drop (last + 1))[n']? = l[n]? := by
  have hfirst : (l.take first).length = first := List.length_take_of_le (by omega)
  rcases h with ⟨hlt, rfl⟩ | ⟨hlt, heq⟩
  · rw [List.append_assoc, List.getElem?_append_left (by omega), List.getElem?_take_of_lt hlt]
  · rw [List.getElem?_append_right (by rw [List.length_append]; omega), List.getElem?_drop,
      List.length_append, hfirst]
    congr 1
    omega

/-- The report of an edit makes the cache faithful to the document after the edit, in which the
lines from `first` to `last` have been replaced by `new`. -/
theorem Faithful.invalidate (h : Faithful k d c) {d' : Document} {first last : Nat}
    {new : List Text} (hle : first ≤ last) (hlast : last < d.lineCount)
    (hd' : d'.lines = d.lines.take first ++ new ++ d.lines.drop (last + 1))
    (hroom : d'.lineCount ≤ LineSet.lastLineNumber + 1) :
    Faithful k d' (c.invalidate first last new.length) := by
  unfold Document.lineCount at hlast hroom
  have hcount : d'.lines.length = first + new.length + (d.lines.length - (last + 1)) := by
    rw [hd']
    simp only [List.length_append, List.length_take, List.length_drop]
    omega
  have hpieces : ∀ t ∈ (c.invalidate first last new.length).computed.spans, t.Ordered ∧
      ∀ n', t.Holds n' →
        ∃ n, c.computed.Covers n ∧ LineSet.Origin first last new.length n n' := by
    intro t ht
    simp only [LineCache.invalidate, Nat.min_eq_left hle, Nat.max_eq_right hle,
      LineSet.removeAndShift] at ht
    obtain ⟨s, hs, ht⟩ := List.mem_flatMap.mp ht
    have hordered : s.Ordered := h.ordered s hs
    have hs' : s.last < d.lines.length :=
      (h.facts s.last ⟨s, hs, hordered, Nat.le_refl _⟩).1
    obtain ⟨ht', hn⟩ := LineSet.pieces_spec hle hordered (fun _ => by omega) t ht
    refine ⟨ht', fun n' hn' => ?_⟩
    obtain ⟨n, hholds, horigin⟩ := hn n' hn'
    exact ⟨n, ⟨s, hs, hholds⟩, horigin⟩
  refine ⟨?_, fun t ht => (hpieces t ht).1, ?_⟩
  · rcases h.size with hnil | hlength
    · exact .inl (by simp [LineCache.invalidate, hnil])
    · right
      unfold Document.lineCount at hlength ⊢
      simp only [LineCache.invalidate, Nat.min_eq_left hle, Nat.max_eq_right hle,
        if_pos (show first < c.lines.length by omega), List.length_append, List.length_take,
        List.length_replicate, List.length_drop]
      omega
  · rintro n' ⟨t, ht, hn'⟩
    obtain ⟨n, hcovers, horigin⟩ := (hpieces t ht).2 n' hn'
    obtain ⟨hlt, hfacts⟩ := h.facts n hcovers
    have hsome : (c.get? n).isSome = true := by
      rw [hfacts]
      exact (d.facts?_isSome k).mpr hlt
    have hlength : c.lines.length = d.lines.length := by
      refine h.size.resolve_left fun hnil => ?_
      simp [get?, hnil] at hsome
    have hline : d'.line? n' = d.line? n := by
      rw [Document.line?, hd']
      exact getElem?_splice hle hlast horigin
    have hget : (c.invalidate first last new.length).get? n' = c.get? n := by
      simp only [LineCache.invalidate, Nat.min_eq_left hle, Nat.max_eq_right hle,
        if_pos (show first < c.lines.length by omega), get?]
      rw [getElem?_splice hle (by omega) (by simpa using horigin)]
    constructor
    · change n' < d'.lines.length
      change n < d.lines.length at hlt
      rcases horigin with ⟨_, rfl⟩ | ⟨_, heq⟩ <;> omega
    · rw [hget, hfacts, Document.facts?, Document.facts?, hline]

end LineCache

end BlockOrder
