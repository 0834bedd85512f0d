import BlockOrder.Proofs.Sort.Separators
import BlockOrder.Proofs.StableSort

/-!
# Arranging a second time

What is in order stays as it is: labels within a block, and the blocks of a level if their places
end the second time as they ended the first time.  That they do is not a matter of course.
Separators are looked for again, and whether one is found that belongs to the places depends on
which block has come last.
-/

namespace BlockOrder

namespace Arrange

variable {c : Classifier} {k : KeyOrder} {draws : Draws}

/-! ## Texts in order -/

/-- Texts sorted by their keys, which are taken to compare as a total preorder. -/
def sortedTexts (c : Classifier) (k : KeyOrder) (texts : List Text) : List Text :=
  (sortBy (fun a b => !SortEntry.less k b a) (texts.map (SortEntry.ofText c))).map SortEntry.text

theorem sortTexts_eq (hk : k.direction ≠ .rand) (hcompare : Std.TransCmp k.compare)
    (texts : List Text) (draws : Draws) :
    sortTexts c k texts draws = .ok (sortedTexts c k texts, draws) := by
  rw [sortTexts_eq_map, mixed_eq hk,
    RunSort.sort_eq_sortBy (SortEntry.weakOrder_less hcompare)]
  rfl

theorem sortedTexts_perm (c : Classifier) (k : KeyOrder) (texts : List Text) :
    (sortedTexts c k texts).Perm texts := by
  have hperm := (sortBy_perm (fun a b => !SortEntry.less k b a)
    (texts.map (SortEntry.ofText c))).map SortEntry.text
  have htexts : (texts.map (SortEntry.ofText c)).map SortEntry.text = texts := by
    rw [List.map_map]
    exact List.map_id texts
  rwa [htexts] at hperm

def TextsInOrder (c : Classifier) (k : KeyOrder) (texts : List Text) : Prop :=
  InOrder (fun a b => !SortEntry.less k b a) (texts.map (SortEntry.ofText c))

theorem sortedTexts_eq_self {texts : List Text} (h : TextsInOrder c k texts) :
    sortedTexts c k texts = texts := by
  rw [sortedTexts, sortBy_eq_self h, List.map_map]
  exact List.map_id texts

theorem textsInOrder_sortedTexts (hcompare : Std.TransCmp k.compare) (texts : List Text) :
    TextsInOrder c k (sortedTexts c k texts) := by
  unfold sortedTexts
  generalize hsorted : sortBy (fun a b => !SortEntry.less k b a)
    (texts.map (SortEntry.ofText c)) = sorted
  -- the entries are made of their texts, so sorting the texts again starts from the same entries
  have hentries : (sorted.map SortEntry.text).map (SortEntry.ofText c) = sorted := by
    conv_rhs => rw [← List.map_id sorted]
    rw [List.map_map]
    apply List.map_congr_left
    intro e he
    rw [← hsorted, (sortBy_perm _ _).mem_iff] at he
    obtain ⟨t, -, rfl⟩ := List.mem_map.mp he
    rfl
  unfold TextsInOrder
  rw [hentries, ← hsorted]
  apply inOrder_sortBy
  intro a b
  simp only [Bool.not_eq_true']
  cases hab : SortEntry.less k b a with
  | false => exact .inl rfl
  | true => exact .inr ((SortEntry.weakOrder_less hcompare).asymm hab)

/-! ## Labels in order -/

def isLabel (c : Classifier) (line : Text) : Bool := !line.isEmpty && c.isHeader line

def labels (c : Classifier) (t : Text) : List Text := t.lines.takeWhile (isLabel c)

/-- A block with its labels in order. -/
def sortedHeaders (c : Classifier) (k : KeyOrder) (t : Text) : Text :=
  if (labels c t).length < 2 then t
  else Text.unlines (sortedTexts c k (labels c t) ++ t.lines.drop (labels c t).length)

theorem sortHeaders_eq (hk : k.direction ≠ .rand) (hcompare : Std.TransCmp k.compare) (t : Text)
    (draws : Draws) : sortHeaders c k t draws = .ok (sortedHeaders c k t, draws) := by
  change (if (labels c t).length < 2 then _ else _) = _
  rw [sortedHeaders, sortTexts_eq hk hcompare]
  split <;> rfl

theorem sortAllHeaders_eq (hk : k.direction ≠ .rand) (hcompare : Std.TransCmp k.compare)
    (texts : List Text) (draws : Draws) :
    sortAllHeaders c k texts draws = .ok (texts.map (sortedHeaders c k), draws) := by
  induction texts with
  | nil => rfl
  | cons t texts ih =>
      rw [sortAllHeaders, sortHeaders_eq hk hcompare]
      change (sortAllHeaders c k texts draws >>= _) = _
      rw [ih]
      rfl

def LabelsInOrder (c : Classifier) (k : KeyOrder) (t : Text) : Prop :=
  (labels c t).length < 2 ∨ TextsInOrder c k (labels c t)

theorem lines_eq_labels_append (c : Classifier) (t : Text) :
    labels c t ++ t.lines.drop (labels c t).length = t.lines := by
  obtain ⟨rest, hrest⟩ := List.takeWhile_prefix (l := t.lines) (isLabel c)
  change labels c t ++ rest = t.lines at hrest
  rw [← hrest, List.drop_left]

theorem sortedHeaders_eq_self {t : Text} (h : LabelsInOrder c k t) :
    sortedHeaders c k t = t := by
  rw [sortedHeaders]
  split
  · rfl
  · next hmany =>
      have hinOrder := h.resolve_left hmany
      rw [sortedTexts_eq_self hinOrder, lines_eq_labels_append, Text.unlines_lines]

theorem takeWhile_drop_labels (c : Classifier) (t : Text) :
    (t.lines.drop (labels c t).length).takeWhile (isLabel c) = [] := by
  have hsplit := List.takeWhile_append_dropWhile (p := isLabel c) (l := t.lines)
  rw [← List.append_cancel_left (hsplit.trans (lines_eq_labels_append c t).symm)]
  cases hdrop : t.lines.dropWhile (isLabel c) with
  | nil => rfl
  | cons line rest =>
      have hline := List.head?_dropWhile_not (isLabel c) t.lines
      rw [hdrop] at hline
      simp only [List.head?_cons] at hline
      simp [hline]

theorem labels_unlines_of_perm {t : Text} {sorted : List Text} (hperm : sorted.Perm (labels c t))
    (hne : labels c t ≠ []) :
    labels c (Text.unlines (sorted ++ t.lines.drop (labels c t).length)) = sorted := by
  have hsorted : sorted ≠ [] := by
    rintro rfl
    exact hne hperm.nil_eq.symm
  have hplain : ∀ line ∈ sorted ++ t.lines.drop (labels c t).length, '\n' ∉ line := by
    intro line hline
    apply Text.newline_notMem_of_mem_lines (t := t)
    rw [← lines_eq_labels_append c t]
    exact (hperm.append_right _).mem_iff.mp hline
  have hall : ∀ line ∈ sorted, isLabel c line = true := by
    intro line hline
    exact List.mem_takeWhile_imp (hperm.mem_iff.mp hline)
  rw [labels, Text.lines_unlines (by simp [hsorted]) hplain, List.takeWhile_append_of_pos hall,
    takeWhile_drop_labels, List.append_nil]

theorem labelsInOrder_sortedHeaders (hcompare : Std.TransCmp k.compare) (t : Text) :
    LabelsInOrder c k (sortedHeaders c k t) := by
  rw [sortedHeaders]
  split
  · next hfew => exact .inl hfew
  · next hmany =>
      right
      have hne : labels c t ≠ [] := by
        intro hnil
        rw [hnil] at hmany
        exact hmany (by decide)
      rw [labels_unlines_of_perm (sortedTexts_perm c k _) hne]
      exact textsInOrder_sortedTexts hcompare _

/-! ## Places -/

theorem splitSuffix_eq_self {t : Text} (h : t.getLast? ≠ some '\n') :
    LineEnding.splitSuffix t = (t, []) := by
  unfold LineEnding.splitSuffix
  rw [List.getLast?_eq_head?_reverse] at h
  split
  · next hreverse => simp [hreverse] at h
  · next hreverse => simp [hreverse] at h
  · rfl

theorem splitSuffix_append_newline {t : Text} (h : t.getLast? ≠ some '\r') :
    LineEnding.splitSuffix (t ++ ['\n']) = (t, ['\n']) := by
  unfold LineEnding.splitSuffix
  rw [List.getLast?_eq_head?_reverse] at h
  rw [List.reverse_append]
  cases hreverse : t.reverse with
  | nil => simp [List.reverse_eq_nil_iff.mp hreverse]
  | cons x rest =>
      have ht : t = (x :: rest).reverse := by rw [← hreverse, List.reverse_reverse]
      have hx : x ≠ '\r' := by simpa [hreverse] using h
      split
      · next heq =>
          simp only [List.reverse_singleton, List.singleton_append, List.cons.injEq] at heq
          exact absurd heq.2.1 hx
      · next heq =>
          simp only [List.reverse_singleton, List.singleton_append, List.cons.injEq,
            true_and] at heq
          rw [ht, heq]
      · next _ hnot => exact absurd rfl (hnot (x :: rest))

/-- The blocks of a level without what belongs to their places. -/
def cores (c : Classifier) (texts : List Text) : List Text :=
  List.zipWith core (bodies true texts) (placeClosers c (bodies true texts))

/-- What the places of a level have at their ends. -/
def ends (c : Classifier) (texts : List Text) : List Text :=
  List.zipWith (· ++ ·) (placeClosers c (bodies true texts)) (suffixes true texts)

/-- The blocks of a level in the order of their keys, each with the end of its place. -/
def placed (c : Classifier) (k : KeyOrder) (texts : List Text) : List Text :=
  List.zipWith (· ++ ·) (sortedTexts c k (cores c texts)) (ends c texts)

theorem arrange_eq (hk : k.direction ≠ .rand) (hcompare : Std.TransCmp k.compare)
    (texts : List Text) (draws : Draws) :
    arrange c true k texts draws = .ok (placed c k texts, draws) := by
  rw [arrange_eq_map, sortTexts_eq hk hcompare]
  rfl

theorem length_cores (c : Classifier) (texts : List Text) :
    (cores c texts).length = texts.length := by
  have hclosers := (closes_closers c (bodies true texts)).length_eq
  rw [cores, List.length_zipWith, placeClosers, ← hclosers, Nat.min_self]
  simp [bodies]

theorem length_ends (c : Classifier) (texts : List Text) :
    (ends c texts).length = texts.length := by
  have hclosers := (closes_closers c (bodies true texts)).length_eq
  rw [ends, List.length_zipWith, placeClosers, ← hclosers]
  simp [bodies, suffixes]

theorem zipWith_cores_ends (c : Classifier) (texts : List Text) :
    List.zipWith (· ++ ·) (cores c texts) (ends c texts) = texts := by
  rw [cores, ends, zipWith_append_assoc, placeClosers, zipWith_core_append (closes_closers c _),
    zipWith_bodies_suffixes]

theorem placeEnd_of_mem_ends {texts : List Text} {e : Text} (he : e ∈ ends c texts) :
    PlaceEnd c e :=
  placeEnd_of_mem (closes_closers c _) (fun _ => mem_suffixes) e he

theorem exists_of_mem_placed {texts : List Text} {t : Text} (ht : t ∈ placed c k texts) :
    ∃ x ∈ cores c texts, ∃ e ∈ ends c texts, t = x ++ e := by
  rw [placed, ← List.map_uncurry_zip_eq_zipWith] at ht
  obtain ⟨⟨x, e⟩, hzip, rfl⟩ := List.mem_map.mp ht
  obtain ⟨hx, he⟩ := List.of_mem_zip hzip
  exact ⟨x, (sortedTexts_perm c k _).mem_iff.mp hx, e, he, rfl⟩

/-- How many texts end with a character. -/
def endingWith (x : Char) (texts : List Text) : Nat := texts.countP (·.getLast? == some x)

/-- Whatever order the blocks of a level are put in, their places end as before.  Where separators
belong to the blocks, none of them ends all blocks but one; where they belong to the places and
the last place has none, no block has one more. -/
structure Steady (c : Classifier) (texts : List Text) : Prop where
  newline : ∀ t ∈ cores c texts, t.getLast? ≠ some '\n'
  loose : (separators c (bodies true texts)).1 = none → ∀ x ∈ c.separators,
    endingWith x (bodies true texts) = 0 ∨
      endingWith x (bodies true texts) + 1 ≠ (bodies true texts).length
  unclosed : (separators c (bodies true texts)).1 ≠ none →
    (separators c (bodies true texts)).2 = none →
      ∀ t ∈ cores c texts, c.trailingSeparator? t = none

instance (c : Classifier) (texts : List Text) : Decidable (Steady c texts) :=
  let bodies := bodies true texts
  -- the characters to look at are few, the characters there are many
  have : Decidable (∀ x ∈ c.separators,
      endingWith x bodies = 0 ∨ endingWith x bodies + 1 ≠ bodies.length) :=
    List.decidableBAll _ _
  decidable_of_iff
    ((∀ t ∈ cores c texts, t.getLast? ≠ some '\n') ∧
      ((separators c bodies).1 = none → ∀ x ∈ c.separators,
        endingWith x bodies = 0 ∨ endingWith x bodies + 1 ≠ bodies.length) ∧
      ((separators c bodies).1 ≠ none → (separators c bodies).2 = none →
        ∀ t ∈ cores c texts, c.trailingSeparator? t = none))
    ⟨fun h => ⟨h.1, h.2.1, h.2.2⟩, fun h => ⟨h.newline, h.loose, h.unclosed⟩⟩

theorem Parted.endingWith_eq {s : Char} {init : List Text} {last : Text}
    (h : Parted c s init last) : endingWith s (init ++ [last]) = init.length := by
  have hinit : init.countP (·.getLast? == some s) = init.length := by
    rw [List.countP_eq_length]
    intro t ht
    rw [(trailingSeparator?_eq_some.mp (h.init t ht)).1]
    exact beq_self_eq_true _
  rw [endingWith, List.countP_append, hinit]
  simp [h.last]

theorem separators_eq_none {bodies : List Text}
    (h : ∀ x ∈ c.separators, endingWith x bodies = 0 ∨ endingWith x bodies + 1 ≠ bodies.length) :
    separators c bodies = (none, none) := by
  rcases separators_cases c bodies with hnone | ⟨s, init, last, rfl, hparted⟩
  · exact hnone
  · exfalso
    have hlength : 0 < init.length := List.length_pos_iff.mpr hparted.ne_nil
    have hends := h s (List.contains_iff_mem.mp hparted.isSeparator)
    rw [hparted.endingWith_eq, List.length_append, List.length_singleton] at hends
    omega

theorem zipWith_replicate {α β γ : Type} (f : α → β → γ) (xs : List α) (y : β) :
    List.zipWith f xs (List.replicate xs.length y) = xs.map (f · y) := by
  induction xs with
  | nil => rfl
  | cons x xs ih => rw [List.length_cons, List.replicate_succ, List.zipWith_cons_cons, ih]; rfl

theorem core_nil (t : Text) : core t [] = t := by simp [core]

theorem core_append_self (t closer : Text) : core (t ++ closer) closer = t := by simp [core]

theorem zipWith_core {xs closers : List Text} (h : xs.length = closers.length) :
    List.zipWith core (List.zipWith (· ++ ·) xs closers) closers = xs := by
  induction xs generalizing closers with
  | nil => simp
  | cons x xs ih =>
      cases closers with
      | nil => cases h
      | cons y closers => simp [core_append_self, ih (Nat.succ.inj h)]

theorem placeClosers_of_perm {texts xs : List Text} (h : Steady c texts)
    (hperm : xs.Perm (cores c texts)) :
    placeClosers c (List.zipWith (· ++ ·) xs (placeClosers c (bodies true texts))) =
      placeClosers c (bodies true texts) := by
  have hloose := h.loose
  have hunclosed := h.unclosed
  unfold cores at hperm hunclosed
  generalize bodies true texts = bodies at hperm hloose hunclosed ⊢
  rcases separators_cases c bodies with hnone | ⟨s, init, last, rfl, hparted⟩
  · -- separators belong to the blocks, and the blocks are permuted
    rw [placeClosers_none hnone] at hperm ⊢
    have hcores : bodies.map (core · []) = bodies := by simp [core_nil]
    rw [zipWith_replicate, hcores] at hperm
    have hxs : xs.map (· ++ []) = xs := by simp
    have hends : ∀ x, endingWith x xs = endingWith x bodies := fun x => hperm.countP_eq _
    rw [← hperm.length_eq, zipWith_replicate, hxs]
    apply placeClosers_none
    apply separators_eq_none
    intro x hx
    rw [hends, hperm.length_eq]
    exact hloose (by rw [hnone]) x hx
  · -- separators belong to the places, and the last place is told from the others as before
    have hs := hparted.isSeparator
    rw [hparted.separators_eq] at hunclosed
    have hbare := hunclosed (by simp)
    have hlength := hperm.length_eq
    rw [hparted.placeClosers_eq] at hperm hlength hbare ⊢
    rcases List.eq_nil_or_concat' xs with rfl | ⟨xinit, xlast, rfl⟩
    · simp at hlength
    have hxinit : xinit.length = init.length := by simpa using hlength
    have hxlast : xlast ∈ _ := hperm.mem_iff.mp (List.mem_append_right xinit List.mem_cons_self)
    rw [← hxinit, List.zipWith_append (by simp), zipWith_replicate, List.zipWith_cons_cons,
      List.zipWith_nil_left]
    have hfloated : c.trailingSeparator? (xlast ++ (c.trailingSeparator? last).toList) =
        c.trailingSeparator? last := by
      cases hlast : c.trailingSeparator? last with
      | none =>
          rw [Option.toList_none, List.append_nil]
          exact hbare hlast xlast hxlast
      | some f =>
          rw [trailingSeparator?_eq_some]
          exact ⟨by simp, (trailingSeparator?_eq_some.mp hlast).2⟩
    have hparted' : Parted c s (xinit.map (· ++ [s]))
        (xlast ++ (c.trailingSeparator? last).toList) := by
      refine ⟨?_, ?_, ?_⟩
      · have := hparted.ne_nil
        rw [← List.length_pos_iff] at this ⊢
        rw [List.length_map]
        omega
      · intro t ht
        obtain ⟨x, -, rfl⟩ := List.mem_map.mp ht
        rw [trailingSeparator?_eq_some]
        exact ⟨by simp, hs⟩
      · intro hends
        have hsome := trailingSeparator?_eq_some.mpr ⟨hends, hs⟩
        rw [hfloated] at hsome
        exact hparted.last (trailingSeparator?_eq_some.mp hsome).1
    rw [hparted'.placeClosers_eq, hfloated, List.length_map]

theorem cut_placed {x closer suffix : Text} (hx : (x ++ closer).getLast? ≠ some '\n')
    (hreturn : '\r' ∉ x ++ closer) (hsuffix : suffix = [] ∨ suffix = ['\n']) :
    cut true (x ++ (closer ++ suffix)) = (x ++ closer, suffix) := by
  change LineEnding.splitSuffix _ = _
  rw [← List.append_assoc]
  rcases hsuffix with rfl | rfl
  · rw [List.append_nil]
    exact splitSuffix_eq_self hx
  · apply splitSuffix_append_newline
    intro hlast
    exact hreturn (List.mem_of_getLast? hlast)

theorem map_cut_zipWith {xs closers suffixes : List Text} (hclosers : xs.length = closers.length)
    (hsuffixes : xs.length = suffixes.length)
    (h : ∀ x ∈ xs, ∀ closer ∈ closers, ∀ suffix ∈ suffixes,
      cut true (x ++ (closer ++ suffix)) = (x ++ closer, suffix)) :
    bodies true (List.zipWith (· ++ ·) xs (List.zipWith (· ++ ·) closers suffixes)) =
        List.zipWith (· ++ ·) xs closers ∧
      Arrange.suffixes true (List.zipWith (· ++ ·) xs (List.zipWith (· ++ ·) closers suffixes)) =
        suffixes := by
  unfold bodies Arrange.suffixes
  induction xs generalizing closers suffixes with
  | nil =>
      obtain rfl := List.length_eq_zero_iff.mp hsuffixes.symm
      exact ⟨rfl, rfl⟩
  | cons x xs ih =>
      cases closers with
      | nil => cases hclosers
      | cons y closers =>
          cases suffixes with
          | nil => cases hsuffixes
          | cons z suffixes =>
              have hcut := h x (by simp) y (by simp) z (by simp)
              have hrest := ih (Nat.succ.inj hclosers) (Nat.succ.inj hsuffixes)
                fun x hx y hy z hz => h x (by simp [hx]) y (by simp [hy]) z (by simp [hz])
              simp only [List.zipWith_cons_cons, List.map_cons, hcut, hrest.1, hrest.2, and_self]

theorem return_notMem_cores {texts : List Text} (hreturn : ∀ t ∈ texts, '\r' ∉ t) :
    ∀ x ∈ cores c texts, '\r' ∉ x := by
  intro x hx hmem
  rw [cores, ← List.map_uncurry_zip_eq_zipWith] at hx
  obtain ⟨⟨body, closer⟩, hzip, rfl⟩ := List.mem_map.mp hx
  obtain ⟨_, hcut, rfl⟩ := List.mem_map.mp (List.of_mem_zip hzip).1
  obtain ⟨t, ht, rfl⟩ := List.mem_map.mp hcut
  apply hreturn t ht
  rw [← cut_append true t]
  exact List.mem_append_left _ (List.mem_of_mem_take hmem)

theorem suffix_eq_of_mem {texts : List Text} (hreturn : ∀ t ∈ texts, '\r' ∉ t) {suffix : Text}
    (h : suffix ∈ suffixes true texts) : suffix = [] ∨ suffix = ['\n'] := by
  rcases mem_suffixes h with hnil | hnewline | hcrlf
  · exact .inl hnil
  · exact .inr hnewline
  · exfalso
    obtain ⟨_, hcut, rfl⟩ := List.mem_map.mp h
    obtain ⟨t, ht, rfl⟩ := List.mem_map.mp hcut
    apply hreturn t ht
    rw [← cut_append true t, hcrlf]
    simp

/-- Arranging twice is arranging once, if the places end as before. -/
theorem placed_placed (hcompare : Std.TransCmp k.compare) {texts : List Text}
    (hseparators : ∀ x, c.isSeparator x = true → x ≠ '\n' ∧ x ≠ '\r')
    (hreturn : ∀ t ∈ texts, '\r' ∉ t) (h : Steady c texts) :
    placed c k (placed c k texts) = placed c k texts := by
  have hperm := sortedTexts_perm c k (cores c texts)
  have hinOrder := textsInOrder_sortedTexts (c := c) hcompare (cores c texts)
  unfold placed ends at *
  generalize sortedTexts c k (cores c texts) = xs at hperm hinOrder ⊢
  have hcloses : List.Forall₂ (Closes c) (bodies true texts)
      (placeClosers c (bodies true texts)) := closes_closers c _
  have hclosers : xs.length = (placeClosers c (bodies true texts)).length := by
    rw [hperm.length_eq, cores, List.length_zipWith, hcloses.length_eq, Nat.min_self]
  have hsuffixes : xs.length = (suffixes true texts).length := by
    rw [hclosers, ← hcloses.length_eq]
    simp [bodies, suffixes]
  have hplaced : ∀ x ∈ xs, ∀ closer ∈ placeClosers c (bodies true texts),
      ∀ suffix ∈ suffixes true texts,
        cut true (x ++ (closer ++ suffix)) = (x ++ closer, suffix) := by
    intro x hx closer hcloser suffix hsuffix
    have hx' := hperm.mem_iff.mp hx
    have hcloser' := isSeparator_of_mem_closers hcloses closer hcloser
    apply cut_placed
    · intro hlast
      rw [List.getLast?_append] at hlast
      cases hends : closer.getLast? with
      | none =>
          rw [hends, Option.none_or] at hlast
          exact h.newline x hx' hlast
      | some y =>
          rw [hends, Option.some_or, Option.some.injEq] at hlast
          exact (hseparators y (hcloser' y (List.mem_of_getLast? hends))).1 hlast
    · intro hmem
      rcases List.mem_append.mp hmem with hmem | hmem
      · exact return_notMem_cores hreturn x hx' hmem
      · exact (hseparators _ (hcloser' _ hmem)).2 rfl
    · exact suffix_eq_of_mem hreturn hsuffix
  obtain ⟨hbodies, hsuffixes'⟩ := map_cut_zipWith hclosers hsuffixes hplaced
  rw [cores, hbodies, hsuffixes', placeClosers_of_perm h hperm, zipWith_core hclosers,
    sortedTexts_eq_self hinOrder]

/-! ## Labels of arranged blocks -/

/-- The block does not consist of several labels and nothing else. -/
def HasBody (c : Classifier) (t : Text) : Prop :=
  (labels c t).length < 2 ∨ ∃ line ∈ t.lines, line ≠ [] ∧ isLabel c line = false

instance (c : Classifier) (t : Text) : Decidable (HasBody c t) :=
  inferInstanceAs (Decidable (_ ∨ ∃ line ∈ t.lines, _))

theorem PlaceEnd.exists_lines {e : Text} (he : PlaceEnd c e)
    (hseparators : ∀ x, c.isSeparator x = true → x ≠ '\n' ∧ x ≠ '\r') :
    ∃ first more, e.lines = first :: more ∧ ∀ line ∈ more, line = [] := by
  obtain ⟨closer, suffix, rfl, hcloser, hsuffix⟩ := he
  have hplain : '\n' ∉ closer := fun hmem => (hseparators _ (hcloser _ hmem)).1 rfl
  rcases hsuffix with rfl | rfl | rfl
  · refine ⟨closer, [], ?_, by simp⟩
    rw [List.append_nil, Text.lines_eq_singleton hplain]
  · refine ⟨closer, [[]], ?_, by simp⟩
    rw [Text.lines_append_newline, Text.lines_eq_singleton hplain]
    rfl
  · refine ⟨closer ++ ['\r'], [[]], ?_, by simp⟩
    have hplain' : '\n' ∉ closer ++ ['\r'] := by simp [hplain]
    rw [show closer ++ ['\r', '\n'] = (closer ++ ['\r']) ++ ['\n'] by simp,
      Text.lines_append_newline, Text.lines_eq_singleton hplain']
    rfl

theorem PlaceEnd.exists_lines_append {e : Text} (he : PlaceEnd c e)
    (hseparators : ∀ x, c.isSeparator x = true → x ≠ '\n' ∧ x ≠ '\r') (t : Text) :
    ∃ last more, (t ++ e).lines = t.lines.dropLast ++ last :: more ∧
      ∀ line ∈ more, line = [] := by
  obtain ⟨first, more, hlines, hmore⟩ := he.exists_lines hseparators
  have hlast := (List.dropLast_append_getLast t.lines_ne_nil).symm
  exact ⟨_, more, Text.lines_append hlast hlines, hmore⟩

theorem exists_append_mem_of_mem {cores ends : List Text} (hlength : cores.length = ends.length)
    {t : Text} (ht : t ∈ cores) :
    ∃ e ∈ ends, t ++ e ∈ List.zipWith (· ++ ·) cores ends := by
  induction cores generalizing ends with
  | nil => cases ht
  | cons u cores ih =>
      cases ends with
      | nil => cases hlength
      | cons e ends =>
          rcases List.mem_cons.mp ht with rfl | ht
          · exact ⟨e, by simp, by simp⟩
          · obtain ⟨e', he', hmem⟩ := ih (Nat.succ.inj hlength) ht
            exact ⟨e', by simp [he'], by simp [hmem]⟩

/-- Labels in order stay in order whatever place their block comes to. -/
theorem labelsInOrder_append {texts : List Text} {x e : Text}
    (hseparators : ∀ x, c.isSeparator x = true → x ≠ '\n' ∧ x ≠ '\r')
    (h : ∀ t ∈ texts, LabelsInOrder c k t) (hx : x ∈ cores c texts) (he : e ∈ ends c texts)
    (hbody : HasBody c (x ++ e)) : LabelsInOrder c k (x ++ e) := by
  rcases hbody with hfew | ⟨line, hline, hne, hnot⟩
  · exact .inl hfew
  obtain ⟨e', he', hmem⟩ := exists_append_mem_of_mem
    ((length_cores c texts).trans (length_ends c texts).symm) hx
  rw [zipWith_cores_ends] at hmem
  obtain ⟨last, more, hlines, -⟩ :=
    (placeEnd_of_mem_ends he').exists_lines_append hseparators x
  obtain ⟨last', more', hlines', hmore'⟩ :=
    (placeEnd_of_mem_ends he).exists_lines_append hseparators x
  -- the labels stand in front of the last line of the block, which the end of a place changes
  have hlabels : labels c (x ++ e) = x.lines.dropLast.takeWhile (isLabel c) := by
    rw [labels, hlines', List.takeWhile_append]
    split
    · next hall =>
        have hinit := (List.takeWhile_prefix (isLabel c)).eq_of_length hall
        rw [hlines'] at hline
        have hlast' : isLabel c last' = false := by
          rcases List.mem_append.mp hline with hmem | hmem
          · rw [← hinit] at hmem
            rw [List.mem_takeWhile_imp hmem] at hnot
            cases hnot
          · rcases List.mem_cons.mp hmem with rfl | hmem
            · exact hnot
            · exact absurd (hmore' line hmem) hne
        rw [List.takeWhile_cons_of_neg (by simp [hlast']), List.append_nil, hinit]
    · rfl
  have hpre : labels c (x ++ e) <+: labels c (x ++ e') := by
    rw [hlabels, labels, hlines, List.takeWhile_append]
    split
    · exact (List.takeWhile_prefix _).trans (List.prefix_append _ _)
    · exact List.prefix_rfl
  rcases h _ hmem with hfew | hinOrder
  · exact .inl (Nat.lt_of_le_of_lt hpre.length_le hfew)
  · right
    exact List.IsChain.prefix hinOrder (hpre.map _)

end Arrange

end BlockOrder
