import BlockOrder.Proofs.Blocks.Boundaries
import BlockOrder.Proofs.Edit.Rearranging
import Mathlib.Data.List.Chain

/-!
# Texts that are blocks

Texts are the blocks of the lines they have together if no line inside one of them starts a block
and the first line of each starts one after the text before it.  Only neighbours matter: brackets
are balanced wherever a block starts, and the flags start anew there.
-/

namespace BlockOrder

namespace Blocks

variable {indent line : Nat} {g g' : Gathered} {folding folding' : Folding}

/-! ## What decides where blocks start -/

/-- The flags say the same, as far as they are looked at. -/
structure Alike (g g' : Gathered) : Prop where
  valid : g.valid = g'.valid
  hasContent : g.hasContent = g'.hasContent
  ends : g.hasContent = true → g.complete = g'.complete ∧ g.incomplete = g'.incomplete

theorem Alike.add (h : Alike g g') (f : LineFacts) : Alike (g.add f) (g'.add f) := by
  unfold Gathered.add
  split
  · exact ⟨by rw [h.valid], rfl, fun _ => ⟨rfl, rfl⟩⟩
  · exact ⟨by rw [h.valid], h.hasContent, h.ends⟩

theorem alike_first (f : LineFacts) : Alike (Gathered.first f) (Gathered.nothing.add f) := by
  unfold Gathered.first Gathered.add Gathered.nothing
  cases hcontent : f.hasContent with
  | true => exact ⟨rfl, rfl, fun _ => ⟨rfl, rfl⟩⟩
  | false => exact ⟨rfl, rfl, fun h => by cases h⟩

theorem Alike.isFollowedBy_eq (h : Alike g g') (hlevel : ∀ i, folding.level i = folding'.level i)
    (f : LineFacts) : g.isFollowedBy indent folding f = g'.isFollowedBy indent folding' f := by
  have hopen : folding.hasOpen = folding'.hasOpen := by
    rw [Bool.eq_iff_iff, ← not_iff_not, Bool.not_eq_true, Bool.not_eq_true,
      Folding.hasOpen_eq_false_iff, Folding.hasOpen_eq_false_iff]
    exact forall_congr' fun i => by rw [hlevel]
  unfold Gathered.isFollowedBy
  rw [← h.valid, ← h.hasContent, hopen]
  cases hcontent : g.hasContent with
  | true =>
      obtain ⟨hcomplete, hincomplete⟩ := h.ends hcontent
      rw [hcomplete, hincomplete]
  | false => simp

theorem starts_congr (h : Alike g g') (hlevel : ∀ i, folding.level i = folding'.level i)
    (ls : List (Option LineFacts)) :
    starts indent g folding line ls = starts indent g' folding' line ls := by
  induction ls generalizing g g' folding folding' line with
  | nil => rfl
  | cons l ls ih =>
      cases l with
      | none => rfl
      | some f =>
          have hmerged : ∀ i, (folding.merge f.folding).level i =
              (folding'.merge f.folding).level i := by
            intro i
            rw [Folding.level_merge, Folding.level_merge, hlevel]
          rw [starts, starts, h.isFollowedBy_eq hlevel]
          split
          · rw [ih ⟨rfl, rfl, fun _ => ⟨rfl, rfl⟩⟩ hmerged]
          · exact ih (h.add f) hmerged

theorem starts_shift (n : Nat) (ls : List (Option LineFacts)) :
    starts indent g folding (line + n) ls = (starts indent g folding line ls).map (· + n) := by
  induction ls generalizing g folding line with
  | nil => rfl
  | cons l ls ih =>
      cases l with
      | none => rfl
      | some f =>
          rw [starts, starts, Nat.add_right_comm line n 1, ih, ih]
          split <;> rfl

theorem starts_append {fs : List LineFacts} (rest : List (Option LineFacts))
    (h : starts indent g folding line (fs.map some) = []) :
    starts indent g folding line (fs.map some ++ rest) =
      starts indent (fs.foldl Gathered.add g) (fs.foldl (fun φ f => φ.merge f.folding) folding)
        (line + fs.length) rest := by
  induction fs generalizing g folding line with
  | nil => rfl
  | cons f fs ih =>
      rw [List.map_cons, starts] at h
      split at h
      · cases h
      · next hnot =>
          rw [List.map_cons, List.cons_append, starts, if_neg hnot, ih h, List.length_cons,
            Nat.add_right_comm line 1, ← Nat.add_assoc]
          rfl

theorem exists_of_mem_starts {n : Nat} {ls : List (Option LineFacts)}
    (h : n ∈ starts indent g folding line ls) :
    ∃ f, ls[n - line]? = some (some f) ∧ f.isBlank = false := by
  induction ls generalizing g folding line with
  | nil => cases h
  | cons l ls ih =>
      cases l with
      | none => cases h
      | some f =>
          have hlater : ∀ {g : Gathered} {folding : Folding},
              n ∈ starts indent g folding (line + 1) ls →
                ∃ f', (some f :: ls)[n - line]? = some (some f') ∧ f'.isBlank = false := by
            intro g folding hn
            obtain ⟨f', hf', hblank⟩ := ih hn
            have hle := (mem_starts hn).1
            refine ⟨f', ?_, hblank⟩
            rw [show n - line = n - (line + 1) + 1 by omega, List.getElem?_cons_succ, hf']
          rw [starts] at h
          split at h
          · next hstarts =>
              rcases List.mem_cons.mp h with rfl | h
              · refine ⟨f, by simp, ?_⟩
                simp only [Gathered.isFollowedBy, Bool.and_eq_true, Bool.not_eq_true'] at hstarts
                exact hstarts.1.1.1.1.2
              · exact hlater h
          · exact hlater h

/-! ## Lines that are one block each -/

def gatheredOf (fs : List LineFacts) : Gathered := fs.foldl Gathered.add .nothing

def foldingOf (fs : List LineFacts) : Folding :=
  fs.foldl (fun φ f => φ.merge f.folding) (.closed 0)

/-- No line but the first starts a block. -/
def Undivided (indent : Nat) (fs : List LineFacts) : Prop :=
  starts indent .nothing (.closed 0) 0 (fs.map some) = []

theorem Undivided.starts_append {fs : List LineFacts} (h : Undivided indent fs) (line : Nat)
    (rest : List (Option LineFacts)) :
    starts indent .nothing (.closed 0) line (fs.map some ++ rest) =
      starts indent (gatheredOf fs) (foldingOf fs) (line + fs.length) rest := by
  apply Blocks.starts_append
  have hshift : starts indent .nothing (.closed 0) (0 + line) (fs.map some) = _ :=
    starts_shift line (fs.map some)
  rwa [Nat.zero_add, h, List.map_nil] at hshift

/-- The first of some lines starts a block after other lines. -/
def Follows (indent : Nat) (fs gs : List LineFacts) : Prop :=
  gs.head?.any ((gatheredOf fs).isFollowedBy indent (foldingOf fs)) = true

/-- Lists of lines that are one block each. -/
structure Separate (indent : Nat) (blocks : List (List LineFacts)) : Prop where
  undivided : ∀ fs ∈ blocks, Undivided indent fs
  follows : blocks.IsChain (Follows indent)

instance (indent : Nat) (fs : List LineFacts) : Decidable (Undivided indent fs) :=
  inferInstanceAs (Decidable (_ = _))

instance (indent : Nat) (fs gs : List LineFacts) : Decidable (Follows indent fs gs) :=
  inferInstanceAs (Decidable (_ = _))

instance (indent : Nat) (blocks : List (List LineFacts)) : Decidable (Separate indent blocks) :=
  decidable_of_iff ((∀ fs ∈ blocks, Undivided indent fs) ∧ blocks.IsChain (Follows indent))
    ⟨fun h => ⟨h.1, h.2⟩, fun h => ⟨h.undivided, h.follows⟩⟩

/-- The numbers of the first lines. -/
def startsAt : (line : Nat) → List (List LineFacts) → List Nat
  | _, [] => []
  | line, fs :: rest => line :: startsAt (line + fs.length) rest

theorem starts_nothing_cons (f : LineFacts) (ls : List (Option LineFacts)) :
    starts indent .nothing (.closed 0) line (some f :: ls) =
      starts indent (Gathered.nothing.add f) f.folding (line + 1) ls := by
  rw [starts]
  rfl

theorem starts_flatten {fs : List LineFacts} {rest : List (List LineFacts)}
    (h : Separate indent (fs :: rest)) (line : Nat) :
    starts indent .nothing (.closed 0) line ((fs :: rest).flatten.map some) =
      startsAt (line + fs.length) rest := by
  have hundivided := h.undivided fs List.mem_cons_self
  rw [List.flatten_cons, List.map_append, hundivided.starts_append]
  induction rest generalizing fs line with
  | nil => rfl
  | cons gs rest ih =>
      obtain ⟨hfollows, hchain⟩ := List.isChain_cons_cons.mp h.follows
      have hrest : Separate indent (gs :: rest) :=
        ⟨fun fs' hfs' => h.undivided fs' (List.mem_cons_of_mem fs hfs'), hchain⟩
      have hgs := hrest.undivided gs List.mem_cons_self
      rw [startsAt, ← ih hrest (line + fs.length) hgs, ← hgs.starts_append, List.flatten_cons,
        List.map_append]
      cases gs with
      | nil => cases hfollows
      | cons f gs =>
          change (gatheredOf fs).isFollowedBy indent (foldingOf fs) f = true at hfollows
          rw [List.map_cons, List.cons_append, starts, if_pos hfollows, starts_nothing_cons]
          congr 1
          apply starts_congr ⟨rfl, rfl, fun _ => ⟨rfl, rfl⟩⟩
          -- where a block starts no bracket is open
          intro i
          simp only [Gathered.isFollowedBy, Bool.and_eq_true, Bool.not_eq_true'] at hfollows
          have hclosed := (Folding.hasOpen_eq_false_iff _).mp hfollows.2 i
          rw [Folding.level_merge, hclosed, Int.zero_add]

/-- Lines that are one block each are the blocks of all of them. -/
theorem tile_flatten {f : LineFacts} {fs : List LineFacts} {rest : List (List LineFacts)}
    (h : Separate f.indent ((f :: fs) :: rest)) (hblank : f.isBlank = false) (first last : Nat) :
    tile first last (((f :: fs) :: rest).flatten.map some) =
      spansFrom last first (startsAt (first + (f :: fs).length) rest) := by
  have hstarts := starts_flatten h first
  rw [List.flatten_cons, List.cons_append, List.map_cons] at hstarts ⊢
  rw [tile]
  have hfirst : starts f.indent (Gathered.first f) f.folding (first + 1)
      ((fs ++ rest.flatten).map some) = startsAt (first + (f :: fs).length) rest := by
    rw [← hstarts, starts_nothing_cons]
    exact starts_congr (alike_first f) (fun _ => rfl) _
  simp only [hfirst]
  apply spans_eq_spansFrom
  intro t ht
  have hnot : ∃ f', (some f :: (fs ++ rest.flatten).map some)[t - first]? = some (some f') ∧
      f'.isBlank = false := by
    rcases List.mem_cons.mp ht with rfl | ht
    · exact ⟨f, by simp, hblank⟩
    · rw [← hstarts] at ht
      exact exists_of_mem_starts ht
  obtain ⟨f', hf', hblank'⟩ := hnot
  rw [Bool.eq_false_iff, Ne, List.all_eq_true]
  intro hall
  have hmem : some f' ∈ (some f :: (fs ++ rest.flatten).map some).drop (t - first) := by
    apply List.mem_of_getElem? (i := 0)
    rw [List.getElem?_drop, Nat.add_zero, hf']
  have hcontra := hall _ hmem
  rw [Option.all_some, hblank'] at hcontra
  cases hcontra

/-! ## Texts that are one block each -/

variable {c : Classifier}

def factsOf (c : Classifier) (t : Text) : List LineFacts := t.lines.map (LineFacts.compute c)

def linesOf (texts : List Text) : List Text := texts.flatMap Text.lines

/-- Texts that are one block each, without blank lines at either end of all. -/
structure Standing (c : Classifier) (texts : List Text) : Prop where
  head : ∀ line ∈ (linesOf texts).head?, line.isBlank = false
  last : ∀ line ∈ (linesOf texts).getLast?, line.isBlank = false
  separate : Separate ((linesOf texts).headD []).leadingBlanks (texts.map (factsOf c))

instance (c : Classifier) (texts : List Text) : Decidable (Standing c texts) :=
  decidable_of_iff
    ((∀ line ∈ (linesOf texts).head?, line.isBlank = false) ∧
      (∀ line ∈ (linesOf texts).getLast?, line.isBlank = false) ∧
        Separate ((linesOf texts).headD []).leadingBlanks (texts.map (factsOf c)))
    ⟨fun h => ⟨h.1, h.2.1, h.2.2⟩, fun h => ⟨h.head, h.last, h.separate⟩⟩

def spansAt : (line : Nat) → List Text → List LineSpan
  | _, [] => []
  | line, t :: rest => ⟨line, line + t.lines.length - 1⟩ :: spansAt (line + t.lines.length) rest

theorem linesOf_cons (t : Text) (texts : List Text) :
    linesOf (t :: texts) = t.lines ++ linesOf texts := List.flatMap_cons

theorem linesOf_ne_nil {texts : List Text} (h : texts ≠ []) : linesOf texts ≠ [] := by
  obtain ⟨t, rest, rfl⟩ := List.exists_cons_of_ne_nil h
  rw [linesOf_cons]
  intro hnil
  exact t.lines_ne_nil (List.append_eq_nil_iff.mp hnil).1

theorem lines_unlines_eq_linesOf {texts : List Text} (h : texts ≠ []) :
    (Text.unlines texts).lines = linesOf texts := by
  obtain ⟨t, rest, rfl⟩ := List.exists_cons_of_ne_nil h
  induction rest generalizing t with
  | nil => simp [Text.unlines, linesOf]
  | cons u rest ih =>
      rw [Text.unlines_cons_of_ne_nil t (by simp), Text.lines_append_newline, ih u (by simp),
        linesOf_cons t]

theorem spansFrom_startsAt (t : Text) (rest : List Text) (line : Nat) :
    spansFrom (line + (linesOf (t :: rest)).length - 1) line
        (startsAt (line + t.lines.length) (rest.map (factsOf c))) =
      spansAt line (t :: rest) := by
  induction rest generalizing t line with
  | nil => simp [startsAt, spansFrom, spansAt, linesOf]
  | cons u rest ih =>
      have hnext := ih u (line + t.lines.length)
      rw [List.map_cons, startsAt, spansFrom, spansAt, ← hnext, linesOf_cons t, List.length_append,
        ← Nat.add_assoc]
      simp only [factsOf, List.length_map]

theorem tile_linesOf {texts : List Text} (h : Standing c texts) (hne : texts ≠ []) (first : Nat) :
    tile first (first + (linesOf texts).length - 1)
        ((linesOf texts).map fun line => some (LineFacts.compute c line)) =
      spansAt first texts := by
  obtain ⟨t, rest, rfl⟩ := List.exists_cons_of_ne_nil hne
  obtain ⟨line, more, hlines⟩ := List.exists_cons_of_ne_nil t.lines_ne_nil
  have hhead := h.head
  have hseparate := h.separate
  rw [linesOf_cons, hlines, List.cons_append] at hhead hseparate
  have hfacts : factsOf c t = LineFacts.compute c line :: more.map (LineFacts.compute c) := by
    rw [factsOf, hlines, List.map_cons]
  rw [List.map_cons, hfacts] at hseparate
  have htile := tile_flatten (f := LineFacts.compute c line) hseparate (hhead line rfl) first
    (first + (linesOf (t :: rest)).length - 1)
  rw [← hfacts] at htile
  have hflatten : ((factsOf c t) :: rest.map (factsOf c)).flatten.map some =
      (linesOf (t :: rest)).map fun line => some (LineFacts.compute c line) := by
    rw [← List.map_cons (f := factsOf c), linesOf, List.flatMap, List.map_flatten,
      List.map_flatten, List.map_map, List.map_map]
    congr 2
    funext u
    exact List.map_map
  have hlength : (factsOf c t).length = t.lines.length := List.length_map _
  rw [hflatten, hlength] at htile
  rw [htile, spansFrom_startsAt]

/-! ## The blocks of some lines -/

/-- The lines of a span. -/
def linesAt (ls : List Text) (s : LineSpan) : List Text :=
  (ls.drop s.first).take (s.last + 1 - s.first)

def spansOf (c : Classifier) (ls : List Text) : List LineSpan :=
  tile 0 (ls.length - 1) (ls.map fun line => some (LineFacts.compute c line))

def textsOf (c : Classifier) (ls : List Text) : List Text :=
  (spansOf c ls).map fun s => Text.unlines (linesAt ls s)

theorem linesAt_spansAt (pre post texts : List Text) :
    ((spansAt pre.length texts).map fun s =>
      Text.unlines (linesAt (pre ++ linesOf texts ++ post) s)) = texts := by
  induction texts generalizing pre with
  | nil => rfl
  | cons t rest ih =>
      have hrest := ih (pre ++ t.lines)
      have hlength : 0 < t.lines.length := List.length_pos_iff.mpr t.lines_ne_nil
      have hcount : pre.length + t.lines.length - 1 + 1 - pre.length = t.lines.length := by omega
      rw [List.length_append, List.append_assoc pre, ← linesOf_cons] at hrest
      rw [spansAt, List.map_cons, hrest, linesAt]
      simp only [hcount, List.append_assoc, List.drop_left, linesOf_cons, List.take_left,
        Text.unlines_lines]

/-- Texts that are one block each are the blocks of their lines. -/
theorem textsOf_linesOf {texts : List Text} (h : Standing c texts) (hne : texts ≠ []) :
    textsOf c (linesOf texts) = texts := by
  have htile := tile_linesOf h hne 0
  have hcut := linesAt_spansAt [] [] texts
  rw [Nat.zero_add] at htile
  rw [List.nil_append, List.append_nil] at hcut
  rw [textsOf, spansOf, htile]
  exact hcut

/-- The same span so many lines further down. -/
def shift (n : Nat) (s : LineSpan) : LineSpan := ⟨s.first + n, s.last + n⟩

theorem spans_shift {isBlankFrom isBlankFrom' : Nat → Bool} {last n s : Nat} {ss : List Nat}
    (hblank : ∀ t, isBlankFrom' (t + n) = isBlankFrom t) (hss : ∀ t ∈ ss, 0 < t) :
    spans isBlankFrom' (last + n) ((s :: ss).map (· + n)) =
      (spans isBlankFrom last (s :: ss)).map (shift n) := by
  induction ss generalizing s with
  | nil =>
      simp only [List.map_cons, List.map_nil, spans, hblank]
      split <;> rfl
  | cons t ss ih =>
      have ht : t + n - 1 = t - 1 + n := by
        have := hss t List.mem_cons_self
        omega
      cases ss with
      | nil =>
          simp only [List.map_cons, List.map_nil, spans, hblank, ht]
          split <;> rfl
      | cons u ss =>
          have hrest := ih (s := t) fun t' ht' => hss t' (List.mem_cons_of_mem t ht')
          simp only [List.map_cons] at hrest ⊢
          change ⟨s + n, t + n - 1⟩ :: spans isBlankFrom' (last + n) _ = _
          rw [hrest, ht]
          rfl

theorem tile_shift (n first last : Nat) (ls : List (Option LineFacts)) :
    tile (first + n) (last + n) ls = (tile first last ls).map (shift n) := by
  unfold tile
  split
  · next f rest =>
      have hstarts : starts f.indent (Gathered.first f) f.folding (first + 1 + n) rest =
          (starts f.indent (Gathered.first f) f.folding (first + 1) rest).map (· + n) :=
        starts_shift n rest
      have hpositive : ∀ t ∈ starts f.indent (Gathered.first f) f.folding (first + 1) rest,
          0 < t := fun t ht => Nat.lt_of_lt_of_le (Nat.succ_pos first) (mem_starts ht).1
      rw [Nat.add_right_comm first n 1, hstarts, ← List.map_cons (f := (· + n))]
      exact spans_shift (fun t => by simp only [Nat.add_sub_add_right]) hpositive
  · rfl

end Blocks

theorem Tiles.bounds {first last : Nat} {spans : List LineSpan} (h : Tiles last first spans)
    {s : LineSpan} (hs : s ∈ spans) : first ≤ s.first ∧ s.first ≤ s.last ∧ s.last ≤ last := by
  induction h with
  | one le =>
      obtain rfl := List.mem_singleton.mp hs
      exact ⟨Nat.le_refl _, le, Nat.le_refl _⟩
  | cons le tiles ih =>
      have hlast := tiles.le
      rcases List.mem_cons.mp hs with rfl | hs
      · exact ⟨Nat.le_refl _, le, Nat.le_of_succ_le hlast⟩
      · have := ih hs
        omega

theorem Blocks.bounds_of_mem_spansOf {c : Classifier} {ls : List Text} (hne : ls ≠ [])
    {s : LineSpan} (hs : s ∈ spansOf c ls) : s.first ≤ s.last ∧ s.last < ls.length := by
  have hpositive : 0 < ls.length := List.length_pos_iff.mpr hne
  have hlength : (ls.map fun line => some (LineFacts.compute c line)).length =
      ls.length - 1 + 1 - 0 := by
    rw [List.length_map]
    omega
  rcases tile_eq_nil_or_tiles (Nat.zero_le (ls.length - 1)) hlength with hnil | htiles
  · rw [spansOf, hnil] at hs
    cases hs
  · have hbounds := htiles.bounds hs
    omega

/-! ## Lines of a document -/

namespace Document

variable {d : Document} {n : Nat} {ls : List Text}

theorem lines_of_isPrefix (h : ls <+: d.lines.drop n) (hne : ls ≠ []) :
    n ≤ n + ls.length - 1 ∧ n + ls.length - 1 ≤ d.lastLine ∧
      n + ls.length - 1 < d.lineCount := by
  have hpositive : 0 < ls.length := List.length_pos_iff.mpr hne
  have hlength := h.length_le
  rw [List.length_drop] at hlength
  rw [lastLine, lineCount]
  omega

theorem slice_of_isPrefix (h : ls <+: d.lines.drop n) (hne : ls ≠ []) :
    d.slice (d.lineRange n (n + ls.length - 1)) = Text.unlines ls := by
  obtain ⟨hle, hlast, hcount⟩ := lines_of_isPrefix h hne
  have hlines : d.lines ≠ [] := List.length_pos_iff.mp (Nat.lt_of_le_of_lt (Nat.zero_le _) hcount)
  have hpositive : 0 < ls.length := List.length_pos_iff.mpr hne
  have hlength : n + ls.length - 1 - n + 1 = ls.length := by omega
  rw [lineRange_eq hle hlast, slice_eq_unlines (fits_lines hle hlast) rfl rfl hlines]
  simp only [linesIn, Range.lineCount, lineStop_line, Position.ofOffset_line, hlength]
  rw [← List.prefix_iff_eq_take.mp h]

theorem factsOf_of_isPrefix (c : Classifier) (h : ls <+: d.lines.drop n) (hne : ls ≠ []) :
    d.factsOf c n (n + ls.length - 1) = ls.map fun line => some (LineFacts.compute c line) := by
  have hpositive : 0 < ls.length := List.length_pos_iff.mpr hne
  have hlength : n + ls.length - 1 + 1 - n = ls.length := by omega
  rw [factsOf, hlength]
  apply List.ext_getElem (by simp)
  intro i hi hi'
  have hi : i < ls.length := by simpa using hi'
  have hline : d.line? (n + i) = some ls[i] := by
    rw [line?, ← List.getElem?_drop, ← List.prefix_iff_getElem?.mp h i hi]
  simp [facts?, hline]

/-- Some of the lines are lines of the document, further down. -/
theorem linesAt_of_isPrefix (h : ls <+: d.lines.drop n) {s : LineSpan}
    (hs : s.first ≤ s.last ∧ s.last < ls.length) :
    Blocks.linesAt ls s ≠ [] ∧ Blocks.linesAt ls s <+: d.lines.drop (n + s.first) ∧
      n + s.last = n + s.first + (Blocks.linesAt ls s).length - 1 := by
  have hlength : (Blocks.linesAt ls s).length = s.last + 1 - s.first := by
    rw [Blocks.linesAt, List.length_take, List.length_drop]
    omega
  have hdrop := h.drop s.first
  rw [List.drop_drop] at hdrop
  refine ⟨?_, (List.take_prefix _ _).trans hdrop, by omega⟩
  rw [← List.length_pos_iff]
  omega

/-- The blocks of the lines from `first` to `last`. -/
def blocksIn (d : Document) (c : Classifier) (first last : Nat) : List Range :=
  (Blocks.tile first last (d.factsOf c first last)).map fun s => d.lineRange s.first s.last

theorem blocksIn_of_isPrefix (c : Classifier) (h : ls <+: d.lines.drop n) (hne : ls ≠ []) :
    d.blocksIn c n (n + ls.length - 1) =
      (Blocks.spansOf c ls).map fun s => d.lineRange (n + s.first) (n + s.last) := by
  have hpositive : 0 < ls.length := List.length_pos_iff.mpr hne
  have hshift := Blocks.tile_shift n 0 (ls.length - 1)
    (ls.map fun line => some (LineFacts.compute c line))
  rw [Nat.zero_add, show ls.length - 1 + n = n + ls.length - 1 by omega] at hshift
  rw [blocksIn, factsOf_of_isPrefix c h hne, hshift, List.map_map]
  apply List.map_congr_left
  intro s _
  rw [Function.comp_apply, Blocks.shift, Nat.add_comm n, Nat.add_comm n]

/-- The blocks of some lines of a document have the texts of the blocks of these lines. -/
theorem slices_blocksIn (c : Classifier) (h : ls <+: d.lines.drop n) (hne : ls ≠ []) :
    (d.blocksIn c n (n + ls.length - 1)).map d.slice = Blocks.textsOf c ls := by
  rw [blocksIn_of_isPrefix c h hne, Blocks.textsOf, List.map_map]
  apply List.map_congr_left
  intro s hs
  obtain ⟨hms, hprefix, hlast⟩ := linesAt_of_isPrefix h (Blocks.bounds_of_mem_spansOf hne hs)
  rw [Function.comp_apply, hlast, slice_of_isPrefix hprefix hms]

end Document

end BlockOrder
