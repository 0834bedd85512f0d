import BlockOrder.Proofs.Sort.Parts
import BlockOrder.Proofs.Sort.Steady

/-!
# Levels that settle

A level is in order once it is sorted if its blocks are blocks at whatever place they come to
stand, and the places end as before.  A level with inner blocks takes more: these have to be found
again, and they have to settle themselves.
-/

namespace BlockOrder

namespace Arrange

variable {c : Classifier} {k : KeyOrder} {room : Nat} {depth : Depth} {texts : List Text}

/-! ## One level -/

/-- The blocks of a level, each with its labels in order. -/
def labelled (c : Classifier) (k : KeyOrder) (texts : List Text) : List Text :=
  texts.map (sortedHeaders c k)

/-- A level in order. -/
def arranged (c : Classifier) (k : KeyOrder) (texts : List Text) : List Text :=
  placed c k (labelled c k texts)

theorem arrangeAll_eq (hk : k.direction ≠ .rand) (hcompare : Std.TransCmp k.compare)
    (texts : List Text) (draws : Draws) :
    arrangeAll c true true k texts draws = .ok (arranged c k texts, draws) := by
  change (sortAllHeaders c k texts draws >>= fun sorted => arrange c true k sorted.1 sorted.2) = _
  rw [sortAllHeaders_eq hk hcompare]
  exact arrange_eq hk hcompare _ draws

theorem rearranged_arranged (hk : k.direction ≠ .rand) (hcompare : Std.TransCmp k.compare)
    (texts : List Text) : Rearranged c texts (arranged c k texts) := by
  have hrearranged := rearranged_arrangeAll c true true k texts none
  rwa [arrangeAll_eq hk hcompare] at hrearranged

theorem length_arranged (c : Classifier) (k : KeyOrder) (texts : List Text) :
    (arranged c k texts).length = texts.length := by
  rw [arranged, placed, List.length_zipWith, (sortedTexts_perm c k _).length_eq, length_cores,
    length_ends, Nat.min_self, labelled, List.length_map]

theorem return_notMem_labelled (hk : k.direction ≠ .rand) (hcompare : Std.TransCmp k.compare)
    (h : ∀ t ∈ texts, '\r' ∉ t) : ∀ t ∈ labelled c k texts, '\r' ∉ t := by
  have hlines := sortAllHeaders_forall₂ c k texts none
  rw [sortAllHeaders_eq hk hcompare] at hlines
  change List.Forall₂ _ texts (texts.map (sortedHeaders c k)) at hlines
  rw [List.forall₂_map_right_iff, List.forall₂_same] at hlines
  intro t ht hmem
  obtain ⟨u, hu, rfl⟩ := List.mem_map.mp ht
  exact h u hu ((perm_of_lines_perm (hlines u hu)).mem_iff.mp hmem)

def indentOf (texts : List Text) : Nat := ((Blocks.linesOf texts).headD []).leadingBlanks

/-- The blocks of a level are blocks in whatever order they are put, and their places end as
before. -/
structure Settled (c : Classifier) (texts : List Text) : Prop extends Steady c texts where
  bodies : ∀ x ∈ cores c texts, ∀ e ∈ ends c texts, HasBody c (x ++ e)
  starts : ∀ x ∈ cores c texts, ∀ e ∈ ends c texts, ∀ line ∈ (x ++ e).lines.head?,
    line.isBlank = false ∧ line.leadingBlanks = indentOf texts
  stops : ∀ x ∈ cores c texts, ∀ e ∈ (ends c texts).getLast?, ∀ line ∈ (x ++ e).lines.getLast?,
    line.isBlank = false
  undivided : ∀ x ∈ cores c texts, ∀ e ∈ ends c texts,
    Blocks.Undivided (indentOf texts) (Blocks.factsOf c (x ++ e))
  follows : ∀ x ∈ cores c texts, ∀ e ∈ (ends c texts).dropLast, ∀ y ∈ cores c texts,
    ∀ e' ∈ ends c texts,
      Blocks.Follows (indentOf texts) (Blocks.factsOf c (x ++ e)) (Blocks.factsOf c (y ++ e'))

theorem isChain_zipWith {α β γ : Type} {R : γ → γ → Prop} {f : α → β → γ} {xs : List α}
    {ys : List β} (h : ∀ x ∈ xs, ∀ y ∈ ys.dropLast, ∀ x' ∈ xs, ∀ y' ∈ ys, R (f x y) (f x' y')) :
    (List.zipWith f xs ys).IsChain R := by
  induction xs generalizing ys with
  | nil => simp
  | cons x xs ih =>
      cases ys with
      | nil => simp
      | cons y ys =>
          cases xs with
          | nil => simp
          | cons x' xs =>
              cases ys with
              | nil => simp
              | cons y' ys =>
                  have hrest : (List.zipWith f (x' :: xs) (y' :: ys)).IsChain R := by
                    refine ih fun u hu v hv u' hu' v' hv' => ?_
                    exact h u (List.mem_cons_of_mem _ hu) v (List.mem_cons_of_mem _ hv) u'
                      (List.mem_cons_of_mem _ hu') v' (List.mem_cons_of_mem _ hv')
                  exact List.isChain_cons_cons.mpr
                    ⟨h x (by simp) y (by simp) x' (by simp) y' (by simp), hrest⟩

theorem getLast?_linesOf_concat (texts : List Text) (t : Text) :
    (Blocks.linesOf (texts ++ [t])).getLast? = t.lines.getLast? := by
  have hlines : Blocks.linesOf (texts ++ [t]) = Blocks.linesOf texts ++ t.lines := by
    simp [Blocks.linesOf]
  rw [hlines, List.getLast?_append_of_ne_nil _ t.lines_ne_nil]

section Standing

variable {xs : List Text} (h : Settled c texts) (hxs : ∀ x ∈ xs, x ∈ cores c texts)
include h hxs

theorem Settled.first_line :
    ∀ line ∈ (Blocks.linesOf (List.zipWith (· ++ ·) xs (ends c texts))).head?,
      line.isBlank = false ∧ line.leadingBlanks = indentOf texts := by
  have hstarts := h.starts
  generalize ends c texts = es at hstarts ⊢
  intro line hline
  cases xs with
  | nil => cases hline
  | cons x xs =>
      cases es with
      | nil => cases hline
      | cons e es =>
          rw [List.zipWith_cons_cons, Blocks.linesOf_cons,
            List.head?_append_of_ne_nil _ (Text.lines_ne_nil _)] at hline
          exact hstarts x (hxs x (by simp)) e (by simp) line hline

theorem Settled.last_line (hlength : xs.length = (ends c texts).length) :
    ∀ line ∈ (Blocks.linesOf (List.zipWith (· ++ ·) xs (ends c texts))).getLast?,
      line.isBlank = false := by
  have hstops := h.stops
  generalize ends c texts = es at hlength hstops ⊢
  intro line hline
  rcases List.eq_nil_or_concat' xs with rfl | ⟨xs, x, rfl⟩
  · cases hline
  rcases List.eq_nil_or_concat' es with rfl | ⟨es, e, rfl⟩
  · simp at hlength
  rw [List.zipWith_append (by simpa using hlength), List.zipWith_cons_cons,
    List.zipWith_nil_left, getLast?_linesOf_concat] at hline
  exact hstops x (hxs x (by simp)) e (by simp) line hline

end Standing

theorem Settled.standing (h : Settled c texts) {xs : List Text} (hperm : xs.Perm (cores c texts)) :
    Blocks.Standing c (List.zipWith (· ++ ·) xs (ends c texts)) := by
  have hlength : xs.length = (ends c texts).length := by
    rw [hperm.length_eq, length_cores, length_ends]
  have hxs : ∀ x ∈ xs, x ∈ cores c texts := fun x hx => hperm.mem_iff.mp hx
  have hfirst := h.first_line hxs
  refine ⟨fun line hline => (hfirst line hline).1, h.last_line hxs hlength, ?_⟩
  by_cases hnil : List.zipWith (· ++ ·) xs (ends c texts) = []
  · rw [hnil]
    exact ⟨by simp, .nil⟩
  obtain ⟨line, more, hlines⟩ := List.exists_cons_of_ne_nil (Blocks.linesOf_ne_nil hnil)
  have hindent := (hfirst line (by rw [hlines]; rfl)).2
  rw [hlines, List.headD_cons, hindent]
  constructor
  · intro fs hfs
    obtain ⟨t, ht, rfl⟩ := List.mem_map.mp hfs
    rw [← List.map_uncurry_zip_eq_zipWith] at ht
    obtain ⟨⟨x, e⟩, hzip, rfl⟩ := List.mem_map.mp ht
    obtain ⟨hx, he⟩ := List.of_mem_zip hzip
    exact h.undivided x (hxs x hx) e he
  · rw [List.map_zipWith]
    apply isChain_zipWith
    intro x hx e he y hy e' he'
    exact h.follows x (hxs x hx) e he y (hxs y hy) e' he'

/-- A level that settles is in order once it is sorted. -/
theorem Settled.arranged_arranged (hk : k.direction ≠ .rand) (hcompare : Std.TransCmp k.compare)
    (hseparators : ∀ x, c.isSeparator x = true → x ≠ '\n' ∧ x ≠ '\r')
    (hreturn : ∀ t ∈ texts, '\r' ∉ t) (h : Settled c (labelled c k texts)) :
    arranged c k (arranged c k texts) = arranged c k texts := by
  have hlabels : ∀ t ∈ labelled c k texts, LabelsInOrder c k t := by
    intro t ht
    obtain ⟨u, -, rfl⟩ := List.mem_map.mp ht
    exact labelsInOrder_sortedHeaders hcompare u
  have hsame : labelled c k (arranged c k texts) = arranged c k texts := by
    conv_rhs => rw [← List.map_id (arranged c k texts)]
    apply List.map_congr_left
    intro t ht
    obtain ⟨x, hx, e, he, rfl⟩ := exists_of_mem_placed ht
    exact sortedHeaders_eq_self
      (labelsInOrder_append hseparators hlabels hx he (h.bodies x hx e he))
  rw [arranged, hsame, arranged]
  exact placed_placed hcompare hseparators (return_notMem_labelled hk hcompare hreturn) h.toSteady

/-! ## Levels within levels -/

/-- A block with its inner blocks in order. -/
def sortedBlock (c : Classifier) (k : KeyOrder) : (room : Nat) → Depth → Text → Text
  | 0, _, t => t
  | room + 1, depth, t =>
      if depth.isZero then t
      else
        match Blocks.parts? c t.lines with
        | none => t
        | some p =>
            let inner := (Blocks.textsOf c p.inner).map (sortedBlock c k room depth.pred)
            Text.ended p.head ++ Text.unlines (arranged c k inner) ++ Text.begun p.tail

/-- A level with the levels inside it in order. -/
def sortedLevel (c : Classifier) (k : KeyOrder) (room : Nat) (depth : Depth)
    (texts : List Text) : List Text :=
  arranged c k (texts.map (sortedBlock c k room depth))

/-- The lines of the inner blocks of a block, if it has any. -/
def innerLines? (c : Classifier) (t : Text) : Option (List Text) :=
  (Blocks.parts? c t.lines).map Blocks.Parts.inner

/-- The lines of the inner blocks of a block, these in order. -/
def sortedLines? (c : Classifier) (k : KeyOrder) (room : Nat) (depth : Depth) (t : Text) :
    Option (List Text) :=
  (innerLines? c t).map fun ls =>
    Blocks.linesOf (sortedLevel c k room depth (Blocks.textsOf c ls))

/-- What it takes for a level to be in order once it is sorted.  Wherever its blocks come to stand,
their inner blocks have to be found again as they have been put in order. -/
def Settles (c : Classifier) (k : KeyOrder) : (room : Nat) → Depth → List Text → Prop
  | 0, _, texts => Settled c (labelled c k texts)
  | room + 1, depth, texts =>
      let blocks := labelled c k (texts.map (sortedBlock c k (room + 1) depth))
      Settled c blocks ∧ (depth.isZero = false →
        (∀ t ∈ texts, ∀ ls ∈ innerLines? c t,
          Settles c k room depth.pred (Blocks.textsOf c ls)) ∧
        ∀ x ∈ cores c blocks, ∀ e ∈ ends c blocks,
          innerLines? c (x ++ e) ∈ texts.map (sortedLines? c k room depth.pred))

instance (c : Classifier) (texts : List Text) : Decidable (Settled c texts) :=
  decidable_of_iff
    (Steady c texts ∧ (∀ x ∈ cores c texts, ∀ e ∈ ends c texts, HasBody c (x ++ e)) ∧
      (∀ x ∈ cores c texts, ∀ e ∈ ends c texts, ∀ line ∈ (x ++ e).lines.head?,
        line.isBlank = false ∧ line.leadingBlanks = indentOf texts) ∧
      (∀ x ∈ cores c texts, ∀ e ∈ (ends c texts).getLast?, ∀ line ∈ (x ++ e).lines.getLast?,
        line.isBlank = false) ∧
      (∀ x ∈ cores c texts, ∀ e ∈ ends c texts,
        Blocks.Undivided (indentOf texts) (Blocks.factsOf c (x ++ e))) ∧
      ∀ x ∈ cores c texts, ∀ e ∈ (ends c texts).dropLast, ∀ y ∈ cores c texts,
        ∀ e' ∈ ends c texts,
          Blocks.Follows (indentOf texts) (Blocks.factsOf c (x ++ e)) (Blocks.factsOf c (y ++ e')))
    ⟨fun h => ⟨h.1, h.2.1, h.2.2.1, h.2.2.2.1, h.2.2.2.2.1, h.2.2.2.2.2⟩,
      fun h => ⟨h.toSteady, h.bodies, h.starts, h.stops, h.undivided, h.follows⟩⟩

instance decidableSettles (c : Classifier) (k : KeyOrder) :
    (room : Nat) → (depth : Depth) → (texts : List Text) → Decidable (Settles c k room depth texts)
  | 0, _, texts => inferInstanceAs (Decidable (Settled c (labelled c k texts)))
  | room + 1, depth, texts =>
      have (ls : List Text) : Decidable (Settles c k room depth.pred ls) :=
        decidableSettles c k room depth.pred ls
      inferInstanceAs (Decidable (_ ∧ (depth.isZero = false → (∀ t ∈ texts, ∀ ls ∈ _, _) ∧ _)))

theorem sortedBlock_zero (c : Classifier) (k : KeyOrder) (depth : Depth) :
    sortedBlock c k 0 depth = id := rfl

theorem Settles.settled (h : Settles c k room depth texts) :
    Settled c (labelled c k (texts.map (sortedBlock c k room depth))) := by
  cases room with
  | zero =>
      rw [sortedBlock_zero, List.map_id]
      exact h
  | succ room => exact h.1

theorem length_sortedLevel (c : Classifier) (k : KeyOrder) (room : Nat) (depth : Depth)
    (texts : List Text) : (sortedLevel c k room depth texts).length = texts.length := by
  rw [sortedLevel, length_arranged, List.length_map]

theorem Settles.standing (h : Settles c k room depth texts) :
    Blocks.Standing c (sortedLevel c k room depth texts) :=
  h.settled.standing (sortedTexts_perm c k _)

theorem return_notMem_of_mem_lines {t line : Text} (h : '\r' ∉ t) (hline : line ∈ t.lines) :
    '\r' ∉ line := by
  rw [← Text.unlines_lines t, Text.mem_unlines (by decide)] at h
  exact fun hmem => h ⟨line, hline, hmem⟩

theorem return_notMem_textsOf {ls : List Text} (h : ∀ line ∈ ls, '\r' ∉ line) :
    ∀ t ∈ Blocks.textsOf c ls, '\r' ∉ t := by
  intro t ht hmem
  obtain ⟨s, -, rfl⟩ := List.mem_map.mp ht
  rw [Text.mem_unlines (by decide)] at hmem
  obtain ⟨line, hline, hmem⟩ := hmem
  exact h line (List.mem_of_mem_drop (List.mem_of_mem_take hline)) hmem

theorem return_notMem_arranged (hk : k.direction ≠ .rand) (hcompare : Std.TransCmp k.compare)
    (h : ∀ t ∈ texts, '\r' ∉ t) : ∀ t ∈ arranged c k texts, '\r' ∉ t := by
  have hperm := (rearranged_arranged (c := c) hk hcompare texts).flatten_perm
  intro t ht hmem
  have hflatten := hperm.mem_iff.mp (List.mem_flatten.mpr ⟨t, ht, hmem⟩)
  obtain ⟨u, hu, hmem⟩ := List.mem_flatten.mp hflatten
  exact h u hu hmem

theorem return_notMem_sortedBlock (hk : k.direction ≠ .rand) (hcompare : Std.TransCmp k.compare)
    {t : Text} (h : '\r' ∉ t) : '\r' ∉ sortedBlock c k room depth t := by
  induction room generalizing depth t with
  | zero => exact h
  | succ room ih =>
      rw [sortedBlock]
      split
      · exact h
      split
      · exact h
      · next p hp =>
          have hlines : ∀ line ∈ p.head ++ p.inner ++ p.tail, '\r' ∉ line := by
            rw [(Blocks.append_of_parts? hp).1]
            exact fun line => return_notMem_of_mem_lines h
          have hinner : ∀ u ∈ (Blocks.textsOf c p.inner).map (sortedBlock c k room depth.pred),
              '\r' ∉ u := by
            intro u hu
            obtain ⟨v, hv, rfl⟩ := List.mem_map.mp hu
            exact ih (return_notMem_textsOf (fun line hline => hlines line (by simp [hline])) v hv)
          have harranged := return_notMem_arranged (c := c) hk hcompare hinner
          intro hmem
          rw [List.mem_append, List.mem_append, Text.mem_unlines (by decide), Text.ended,
            Text.begun, List.mem_flatMap, List.mem_flatMap] at hmem
          rcases hmem with (⟨line, hline, hmem⟩ | ⟨u, hu, hmem⟩) | ⟨line, hline, hmem⟩
          · exact hlines line (by simp [hline]) (by simpa using hmem)
          · exact harranged u hu hmem
          · exact hlines line (by simp [hline]) (by simpa using hmem)

/-- A block stays as it is if its inner blocks are blocks again and in order. -/
theorem sortedBlock_eq_self {t : Text}
    (h : ∀ ls ∈ innerLines? c t, ∃ texts, ls = Blocks.linesOf texts ∧ Blocks.Standing c texts ∧
      sortedLevel c k room depth.pred texts = texts) :
    sortedBlock c k (room + 1) depth t = t := by
  rw [sortedBlock]
  split
  · rfl
  split
  · rfl
  · next p hp =>
      obtain ⟨texts, hinner, hstanding, hsorted⟩ := h p.inner (by rw [innerLines?, hp]; rfl)
      obtain ⟨hlines, hne⟩ := Blocks.append_of_parts? hp
      have htexts : texts ≠ [] := by
        rintro rfl
        exact hne hinner
      have harranged : arranged c k ((Blocks.textsOf c p.inner).map
          (sortedBlock c k room depth.pred)) = texts := by
        rw [hinner, Blocks.textsOf_linesOf hstanding htexts]
        exact hsorted
      have hunlines : Text.unlines texts = Text.unlines p.inner := by
        rw [hinner, ← Blocks.lines_unlines_eq_linesOf htexts, Text.unlines_lines]
      dsimp only
      rw [harranged, hunlines, ← Text.unlines_append_append p.head hne, hlines, Text.unlines_lines]

theorem Settles.arranged_sortedLevel (hk : k.direction ≠ .rand)
    (hcompare : Std.TransCmp k.compare)
    (hseparators : ∀ x, c.isSeparator x = true → x ≠ '\n' ∧ x ≠ '\r')
    (hreturn : ∀ t ∈ texts, '\r' ∉ t) (h : Settles c k room depth texts) :
    arranged c k (sortedLevel c k room depth texts) = sortedLevel c k room depth texts := by
  refine h.settled.arranged_arranged hk hcompare hseparators fun t ht => ?_
  obtain ⟨u, hu, rfl⟩ := List.mem_map.mp ht
  exact return_notMem_sortedBlock hk hcompare (hreturn u hu)

/-- A level that settles is in order once it is sorted, with the levels inside it. -/
theorem Settles.sortedLevel_sortedLevel (hk : k.direction ≠ .rand)
    (hcompare : Std.TransCmp k.compare)
    (hseparators : ∀ x, c.isSeparator x = true → x ≠ '\n' ∧ x ≠ '\r')
    (hreturn : ∀ t ∈ texts, '\r' ∉ t) (h : Settles c k room depth texts) :
    sortedLevel c k room depth (sortedLevel c k room depth texts) =
      sortedLevel c k room depth texts := by
  have harranged := h.arranged_sortedLevel hk hcompare hseparators hreturn
  induction room generalizing depth texts with
  | zero =>
      rw [sortedLevel, sortedBlock_zero, List.map_id]
      exact harranged
  | succ room ih =>
      have hsame : (sortedLevel c k (room + 1) depth texts).map
          (sortedBlock c k (room + 1) depth) = sortedLevel c k (room + 1) depth texts := by
        conv_rhs => rw [← List.map_id (sortedLevel c k (room + 1) depth texts)]
        apply List.map_congr_left
        intro t ht
        cases hzero : depth.isZero with
        | true => rw [sortedBlock, if_pos hzero, id_eq]
        | false =>
            -- a block that has come to stand somewhere has inner blocks that were put in order
            obtain ⟨hinner, hfound⟩ := h.2 hzero
            obtain ⟨x, hx, e, he, rfl⟩ := exists_of_mem_placed ht
            apply sortedBlock_eq_self
            intro ls hls
            obtain ⟨u, hu, hlines⟩ := List.mem_map.mp (hfound x hx e he)
            rw [hls, sortedLines?, Option.map_eq_some_iff] at hlines
            obtain ⟨ls', hls', rfl⟩ := hlines
            have hsettles := hinner u hu ls' hls'
            have hreturn' : ∀ t ∈ Blocks.textsOf c ls', '\r' ∉ t := by
              obtain ⟨p, hp, rfl⟩ := Option.map_eq_some_iff.mp hls'
              refine return_notMem_textsOf fun line hline => ?_
              apply return_notMem_of_mem_lines (hreturn u hu)
              rw [← (Blocks.append_of_parts? hp).1]
              simp [hline]
            exact ⟨_, rfl, hsettles.standing, ih hreturn' hsettles
              (hsettles.arranged_sortedLevel hk hcompare hseparators hreturn')⟩
      rw [sortedLevel, hsame, harranged]

end Arrange

end BlockOrder
