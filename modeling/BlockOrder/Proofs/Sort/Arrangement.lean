import BlockOrder.Proofs.Order.Entries
import BlockOrder.Proofs.Text.Lines
import Mathlib.Data.List.DropRight
import Mathlib.Data.List.Perm.Basic

/-!
# Arranging keeps what it arranges

Sorting and shuffling permute.  Sorting labels permutes the lines of a block, and arranging a
level permutes what is left of its blocks when separators and line endings, which belong to the
places, are taken off.
-/

namespace BlockOrder

/-! ## Permutations -/

/-- A permutation of images is made of a permutation of what they are images of. -/
theorem exists_perm_of_perm_map {α β : Type} {f : α → β} {l : List α} {images : List β}
    (h : images.Perm (l.map f)) : ∃ l' : List α, l'.Perm l ∧ images = l'.map f := by
  have hcomp : Relation.Comp (fun u v => u = List.map f v) List.Perm images l := by
    rw [List.eq_map_comp_perm]
    exact h
  obtain ⟨l', hmap, hperm⟩ := hcomp
  exact ⟨l', hperm, hmap⟩

section Shuffle

variable {α : Type}

theorem pick?_perm {place : Nat} {l rest : List α} {x : α} (h : pick? place l = some (x, rest)) :
    (x :: rest).Perm l := by
  unfold pick? at h
  split at h
  · next y last hplace hlast =>
      obtain ⟨rfl, rfl⟩ : y = x ∧ (l.set place last).dropLast = rest := by simpa using h
      obtain ⟨init, rfl⟩ := List.getLast?_eq_some_iff.mp hlast
      obtain ⟨hlt, hget⟩ := List.getElem?_eq_some_iff.mp hplace
      have hback : (last :: init).Perm (init ++ [last]) :=
        (List.perm_append_singleton last init).symm
      rw [List.length_append, List.length_singleton] at hlt
      rcases Nat.lt_or_eq_of_le (Nat.le_of_lt_succ hlt) with hinit | rfl
      · rw [List.set_append_left _ _ hinit, List.dropLast_concat]
        rw [List.getElem_append_left hinit] at hget
        subst hget
        refine (((List.set_perm_cons_eraseIdx hinit last).cons _).trans (.swap _ _ _)).trans ?_
        exact ((List.getElem_cons_eraseIdx_perm hinit).cons last).trans hback
      · have hsame : (init ++ [last]).set init.length last = init ++ [last] := by simp
        obtain rfl : last = y := by simpa using hget
        rw [hsame, List.dropLast_concat]
        exact hback
  · simp at h

theorem shuffleFrom_perm (size : Nat) (left drawn : List α) (k : Keystream) :
    (shuffleFrom size left drawn k).1.Perm (left ++ drawn) := by
  fun_induction shuffleFrom size left drawn k with
  | case1 => exact .refl _
  | case2 => exact .refl _
  | case3 size left drawn k _ place k' _ x rest hpick ih =>
      have hx : (x :: rest ++ drawn).Perm (left ++ drawn) := (pick?_perm hpick).append_right drawn
      exact ih.trans (List.perm_middle.trans hx)
  | case4 => exact .refl _

theorem shuffle_perm (l : List α) (k : Keystream) : (shuffle l k).1.Perm l := by
  simpa [shuffle] using shuffleFrom_perm l.length l [] k

end Shuffle

namespace Arrange

variable {α : Type} (c : Classifier) (k : KeyOrder)

theorem mixed_perm (l : List α) (draws : Draws) : (mixed k l draws).1.Perm l := by
  unfold mixed
  split
  · next stream _ => exact shuffle_perm l stream
  · exact .refl _

theorem mixed_eq {k : KeyOrder} (hk : k.direction ≠ .rand) (l : List α) (draws : Draws) :
    mixed k l draws = (l, draws) := by
  unfold mixed
  cases hdirection : k.direction with
  | asc => rfl
  | desc => rfl
  | rand => exact absurd hdirection hk

theorem sortTexts_eq_map (texts : List Text) (draws : Draws) :
    sortTexts c k texts draws =
      (RunSort.sort (SortEntry.less k) SortEntry.mostAside
        (mixed k (texts.map (SortEntry.ofText c)) draws).1).map fun entries =>
          (entries.map (·.text), (mixed k (texts.map (SortEntry.ofText c)) draws).2) := by
  cases h : RunSort.sort (SortEntry.less k) SortEntry.mostAside
      (mixed k (texts.map (SortEntry.ofText c)) draws).1 <;>
    simp only [sortTexts, h] <;> rfl

theorem sortTexts_perm (texts : List Text) (draws : Draws) :
    Sound (Std.TransCmp k.compare) (fun sorted => sorted.1.Perm texts)
      (sortTexts c k texts draws) := by
  rw [sortTexts_eq_map]
  refine ((RunSort.sound_sort _ _ _).of_imp SortEntry.weakOrder_less).map fun entries hsorts => ?_
  have hentries :=
    hsorts.rearranges.perm.trans (mixed_perm k (texts.map (SortEntry.ofText c)) draws)
  have hperm := hentries.map SortEntry.text
  have htexts : (texts.map (SortEntry.ofText c)).map SortEntry.text = texts := by
    rw [List.map_map]
    exact List.map_id texts
  rwa [htexts] at hperm

/-! ## Labels -/

theorem lines_sortHeaders_perm (t : Text) (draws : Draws) :
    Sound (Std.TransCmp k.compare) (fun sorted => sorted.1.lines.Perm t.lines)
      (sortHeaders c k t draws) := by
  unfold sortHeaders
  simp only
  split
  · exact .pure (.refl _)
  · generalize hheaders : t.lines.takeWhile _ = headers
    obtain ⟨rest, hrest⟩ := hheaders ▸ List.takeWhile_prefix (l := t.lines) _
    refine (sortTexts_perm c k headers draws).bind fun sorted hperm => .pure ?_
    have hdrop : t.lines.drop headers.length = rest := by rw [← hrest, List.drop_left]
    have hlines : (sorted.1 ++ rest).Perm t.lines := hrest ▸ hperm.append_right rest
    have hne : sorted.1 ++ rest ≠ [] := fun hnil =>
      Text.lines_ne_nil t (hnil ▸ hlines).nil_eq.symm
    rw [hdrop, Text.lines_unlines hne]
    · exact hlines
    · intro line hline
      exact Text.newline_notMem_of_mem_lines (hlines.mem_iff.mp hline)

theorem sortAllHeaders_forall₂ (texts : List Text) (draws : Draws) :
    Sound (Std.TransCmp k.compare)
      (fun sorted => List.Forall₂ (fun t t' => t'.lines.Perm t.lines) texts sorted.1)
      (sortAllHeaders c k texts draws) := by
  induction texts generalizing draws with
  | nil => exact .pure .nil
  | cons t texts ih =>
      exact (lines_sortHeaders_perm c k t draws).bind fun _ ht =>
        (ih _).bind fun _ hrest => .pure (.cons ht hrest)

/-! ## Places -/

/-- What a place has at its end: separators, and after them possibly a line ending. -/
def PlaceEnd (c : Classifier) (t : Text) : Prop :=
  ∃ closer suffix, t = closer ++ suffix ∧ (∀ x ∈ closer, c.isSeparator x = true) ∧
    (suffix = [] ∨ suffix = ['\n'] ∨ suffix = ['\r', '\n'])

/-- The texts are permuted, except for what belongs to their places. -/
def KeepsPlaces (c : Classifier) (texts texts' : List Text) : Prop :=
  ∃ cores cores' ends : List Text, cores.length = ends.length ∧ cores'.Perm cores ∧
    texts = List.zipWith (· ++ ·) cores ends ∧ texts' = List.zipWith (· ++ ·) cores' ends ∧
      ∀ e ∈ ends, PlaceEnd c e

variable {c}

theorem splitSuffix_append (t : Text) :
    (LineEnding.splitSuffix t).1 ++ (LineEnding.splitSuffix t).2 = t := by
  unfold LineEnding.splitSuffix
  split
  · next body h => simpa using (congrArg List.reverse h).symm
  · next body _ h => simpa using (congrArg List.reverse h).symm
  · exact List.append_nil t

theorem splitSuffix_snd (t : Text) :
    (LineEnding.splitSuffix t).2 = [] ∨ (LineEnding.splitSuffix t).2 = ['\n'] ∨
      (LineEnding.splitSuffix t).2 = ['\r', '\n'] := by
  unfold LineEnding.splitSuffix
  split <;> simp

theorem closers_succ (separator floated : Option Char) (n : Nat) :
    closers separator floated (n + 1) =
      List.replicate n separator.toList ++ [floated.toList] := by
  induction n with
  | zero => rfl
  | succ n ih => rw [closers, ih, List.replicate_succ, List.cons_append]; simp

theorem core_append {body closer : Text} (h : closer <:+ body) :
    core body closer ++ closer = body := by
  obtain ⟨init, rfl⟩ := h
  simp [core]

/-- A separator that a body ends with. -/
def Closes (c : Classifier) (body closer : Text) : Prop :=
  closer <:+ body ∧ ∀ x ∈ closer, c.isSeparator x = true

theorem closes_nil (c : Classifier) (body : Text) : Closes c body [] :=
  ⟨List.nil_suffix, by simp⟩

theorem closes_trailingSeparator (c : Classifier) (body : Text) :
    Closes c body (c.trailingSeparator? body).toList := by
  cases h : c.trailingSeparator? body with
  | none => exact closes_nil c body
  | some x =>
      obtain ⟨hlast, hx⟩ := Option.filter_eq_some_iff.mp h
      obtain ⟨init, rfl⟩ := List.getLast?_eq_some_iff.mp hlast
      exact ⟨List.suffix_append init [x], by simpa using hx⟩

theorem trailingSeparator_of_common {bodies : List Text} {s : Char}
    (h : c.commonSeparator? bodies = some s) {body : Text} (hbody : body ∈ bodies) :
    c.trailingSeparator? body = some s := by
  cases bodies with
  | nil => simp at hbody
  | cons first rest =>
      obtain ⟨hfirst, hrest⟩ := Option.filter_eq_some_iff.mp h
      rcases List.mem_cons.mp hbody with rfl | hbody
      · exact hfirst
      · simpa using List.all_eq_true.mp hrest body hbody

theorem closes_closers (c : Classifier) (bodies : List Text) :
    List.Forall₂ (Closes c) bodies
      (closers (separators c bodies).1 (separators c bodies).2 bodies.length) := by
  rcases List.eq_nil_or_concat' bodies with rfl | ⟨init, last, rfl⟩
  · exact .nil
  have hdrop : (init ++ [last]).dropLast = init := List.dropLast_concat
  have hlast : (init ++ [last]).getLastD [] = last := by simp
  rw [List.length_append, List.length_singleton, closers_succ]
  have hsplit : ∀ closer closer' : Text, (∀ body ∈ init, Closes c body closer) →
      Closes c last closer' →
      List.Forall₂ (Closes c) (init ++ [last])
        (List.replicate init.length closer ++ [closer']) := by
    intro closer closer' hinit hlast'
    refine List.rel_append ?_ (.cons hlast' .nil)
    rw [List.forall₂_iff_get]
    refine ⟨by simp, fun i hi hi' => ?_⟩
    simpa using hinit _ (List.getElem_mem hi)
  unfold separators
  rw [hdrop, hlast]
  split
  · exact hsplit [] [] (fun body _ => closes_nil c body) (closes_nil c last)
  · next s hs =>
      simp only
      split
      · exact hsplit [] [] (fun body _ => closes_nil c body) (closes_nil c last)
      · refine hsplit [s] _ (fun body hbody => ?_) (closes_trailingSeparator c last)
        simpa [trailingSeparator_of_common hs hbody] using closes_trailingSeparator c body

theorem zipWith_core_append {bodies closers : List Text}
    (h : List.Forall₂ (Closes c) bodies closers) :
    List.zipWith (· ++ ·) (List.zipWith core bodies closers) closers = bodies := by
  induction h with
  | nil => rfl
  | cons hcloses _ ih => simp [core_append hcloses.1, ih]

theorem zipWith_append_assoc (xs ys zs : List Text) :
    List.zipWith (· ++ ·) xs (List.zipWith (· ++ ·) ys zs) =
      List.zipWith (· ++ ·) (List.zipWith (· ++ ·) xs ys) zs := by
  induction xs generalizing ys zs with
  | nil => rfl
  | cons x xs ih =>
      cases ys with
      | nil => rfl
      | cons y ys =>
          cases zs with
          | nil => rfl
          | cons z zs => simp [ih]

theorem isSeparator_of_mem_closers {bodies closers : List Text}
    (h : List.Forall₂ (Closes c) bodies closers) :
    ∀ closer ∈ closers, ∀ x ∈ closer, c.isSeparator x = true := by
  induction h with
  | nil => simp
  | cons hcloses _ ih =>
      intro closer hcloser
      rcases List.mem_cons.mp hcloser with rfl | hcloser
      · exact hcloses.2
      · exact ih closer hcloser

theorem placeEnd_of_mem {bodies closers suffixes : List Text}
    (hclosers : List.Forall₂ (Closes c) bodies closers)
    (hsuffixes : ∀ s ∈ suffixes, s = [] ∨ s = ['\n'] ∨ s = ['\r', '\n']) :
    ∀ e ∈ List.zipWith (· ++ ·) closers suffixes, PlaceEnd c e := by
  intro e he
  rw [← List.map_uncurry_zip_eq_zipWith] at he
  obtain ⟨⟨closer, suffix⟩, hmem, rfl⟩ := List.mem_map.mp he
  obtain ⟨hcloser, hsuffix⟩ := List.of_mem_zip hmem
  exact ⟨closer, suffix, rfl, isSeparator_of_mem_closers hclosers closer hcloser,
    hsuffixes suffix hsuffix⟩

/-- A text as a body and the line ending that stays in its place. -/
def cut (keepNewlines : Bool) (t : Text) : Text × Text :=
  if keepNewlines then LineEnding.splitSuffix t else (t, [])

theorem cut_append (keepNewlines : Bool) (t : Text) :
    (cut keepNewlines t).1 ++ (cut keepNewlines t).2 = t := by
  cases keepNewlines with
  | true => exact splitSuffix_append t
  | false => exact List.append_nil t

theorem cut_snd (keepNewlines : Bool) (t : Text) :
    (cut keepNewlines t).2 = [] ∨ (cut keepNewlines t).2 = ['\n'] ∨
      (cut keepNewlines t).2 = ['\r', '\n'] := by
  cases keepNewlines with
  | true => exact splitSuffix_snd t
  | false => exact .inl rfl

/-- The blocks of a level without their line endings. -/
def bodies (keepNewlines : Bool) (texts : List Text) : List Text :=
  (texts.map (cut keepNewlines)).map (·.1)

/-- The line endings of a level. -/
def suffixes (keepNewlines : Bool) (texts : List Text) : List Text :=
  (texts.map (cut keepNewlines)).map (·.2)

/-- What the places of a level have at their ends, in front of line endings. -/
def placeClosers (c : Classifier) (bodies : List Text) : List Text :=
  closers (separators c bodies).1 (separators c bodies).2 bodies.length

theorem zipWith_bodies_suffixes (keepNewlines : Bool) (texts : List Text) :
    List.zipWith (· ++ ·) (bodies keepNewlines texts) (suffixes keepNewlines texts) = texts := by
  simp [bodies, suffixes, cut_append]

theorem mem_suffixes {keepNewlines : Bool} {texts : List Text} {s : Text}
    (h : s ∈ suffixes keepNewlines texts) : s = [] ∨ s = ['\n'] ∨ s = ['\r', '\n'] := by
  obtain ⟨_, hcut, rfl⟩ := List.mem_map.mp h
  obtain ⟨t, -, rfl⟩ := List.mem_map.mp hcut
  exact cut_snd keepNewlines t

theorem arrange_eq_map (c : Classifier) (keepNewlines : Bool) (k : KeyOrder) (texts : List Text)
    (draws : Draws) :
    arrange c keepNewlines k texts draws =
      (sortTexts c k (List.zipWith core (bodies keepNewlines texts)
        (placeClosers c (bodies keepNewlines texts))) draws).map fun sorted =>
          (List.zipWith (· ++ ·) sorted.1 (List.zipWith (· ++ ·)
            (placeClosers c (bodies keepNewlines texts)) (suffixes keepNewlines texts)),
            sorted.2) := rfl

/-- Arranging a level permutes its blocks, except for what belongs to the places. -/
theorem keepsPlaces_arrange (c : Classifier) (keepNewlines : Bool) (k : KeyOrder)
    (texts : List Text) (draws : Draws) :
    Sound (Std.TransCmp k.compare) (fun sorted => KeepsPlaces c texts sorted.1)
      (arrange c keepNewlines k texts draws) := by
  have hcloses : List.Forall₂ (Closes c) (bodies keepNewlines texts)
      (placeClosers c (bodies keepNewlines texts)) := closes_closers c _
  have hlength := hcloses.length_eq
  rw [arrange_eq_map]
  refine (sortTexts_perm c k _ draws).map fun sorted hperm => ?_
  refine ⟨_, _, _, ?_, hperm, ?_, rfl, placeEnd_of_mem hcloses fun s => mem_suffixes⟩
  · have hsuffixes : (suffixes keepNewlines texts).length =
        (bodies keepNewlines texts).length := by simp [suffixes, bodies]
    simp only [List.length_zipWith]
    omega
  · rw [zipWith_append_assoc, zipWith_core_append hcloses, zipWith_bodies_suffixes]

/-! ## What an arrangement preserves -/

/-- The blocks of a level with their labels sorted, and then arranged. -/
def Rearranged (c : Classifier) (texts texts' : List Text) : Prop :=
  ∃ labelled, List.Forall₂ (fun t t' => t'.lines.Perm t.lines) texts labelled ∧
    KeepsPlaces c labelled texts'

theorem forall₂_lines_refl (texts : List Text) :
    List.Forall₂ (fun t t' : Text => t'.lines.Perm t.lines) texts texts :=
  List.forall₂_same.mpr fun t _ => .refl t.lines

theorem rearranged_refl (c : Classifier) (texts : List Text) : Rearranged c texts texts := by
  have hnil : List.zipWith (· ++ ·) texts (texts.map fun _ => ([] : Text)) = texts := by
    induction texts with
    | nil => rfl
    | cons t texts ih => simpa using ih
  refine ⟨texts, forall₂_lines_refl texts, texts, texts, texts.map fun _ => [], by simp, .refl _,
    hnil.symm, hnil.symm, ?_⟩
  intro e he
  obtain ⟨_, -, rfl⟩ := List.mem_map.mp he
  exact ⟨[], [], rfl, by simp, .inl rfl⟩

theorem rearranged_arrangeAll (c : Classifier) (headers keepNewlines : Bool) (k : KeyOrder)
    (texts : List Text) (draws : Draws) :
    Sound (Std.TransCmp k.compare) (fun sorted => Rearranged c texts sorted.1)
      (arrangeAll c headers keepNewlines k texts draws) := by
  have harrange : ∀ labelled : List Text × Draws,
      List.Forall₂ (fun t t' => t'.lines.Perm t.lines) texts labelled.1 →
        Sound (Std.TransCmp k.compare) (fun sorted => Rearranged c texts sorted.1)
          (arrange c keepNewlines k labelled.1 labelled.2) :=
    fun labelled hlines => (keepsPlaces_arrange c keepNewlines k labelled.1 labelled.2).mono
      fun _ hplaces => ⟨labelled.1, hlines, hplaces⟩
  cases headers with
  | true => exact (sortAllHeaders_forall₂ c k texts draws).bind harrange
  | false => exact harrange (texts, draws) (forall₂_lines_refl texts)

theorem Rearranged.length_eq {texts texts' : List Text} (h : Rearranged c texts texts') :
    texts'.length = texts.length := by
  obtain ⟨labelled, hlabels, cores, cores', ends, hlength, hperm, rfl, rfl, -⟩ := h
  rw [hlabels.length_eq, List.length_zipWith, List.length_zipWith, hperm.length_eq]

theorem zipWith_flatMap_perm {β : Type} {μ ν : Text → List β} {cores ends : List Text}
    (hlength : cores.length = ends.length)
    (hends : ∀ e ∈ ends, ∀ core, (μ (core ++ e)).Perm (μ core ++ ν e)) :
    ((List.zipWith (· ++ ·) cores ends).flatMap μ).Perm (cores.flatMap μ ++ ends.flatMap ν) := by
  induction cores generalizing ends with
  | nil =>
      obtain rfl : ends = [] := List.length_eq_zero_iff.mp hlength.symm
      exact .refl _
  | cons core cores ih =>
      cases ends with
      | nil => simp at hlength
      | cons e ends =>
          have hrest := ih (Nat.succ.inj hlength) fun e' he' => hends e' (by simp [he'])
          have hfirst := (hends e (by simp) core).append hrest
          simp only [List.zipWith_cons_cons, List.flatMap_cons, List.append_assoc] at hfirst ⊢
          refine hfirst.trans (.append_left _ ?_)
          rw [← List.append_assoc, ← List.append_assoc]
          exact List.perm_append_comm.append_right _

theorem exists_suffix_of_mem_ends {cores ends : List Text} (hlength : cores.length = ends.length)
    {e : Text} (he : e ∈ ends) : ∃ t ∈ List.zipWith (· ++ ·) cores ends, e <:+ t := by
  obtain ⟨i, hi, rfl⟩ := List.getElem_of_mem he
  have hcore : i < cores.length := hlength ▸ hi
  refine ⟨cores[i] ++ ends[i], ?_, List.suffix_append _ _⟩
  have hzip : i < (List.zipWith (· ++ ·) cores ends).length := by
    rw [List.length_zipWith]
    omega
  rw [← List.getElem_zipWith (f := (· ++ ·)) (h := hzip)]
  exact List.getElem_mem hzip

/-- A measure of texts that adds up over the ends of places is the same of blocks and of arranged
blocks. -/
theorem KeepsPlaces.flatMap_perm {β : Type} {texts texts' : List Text}
    (h : KeepsPlaces c texts texts') {μ : Text → List β} (ν : Text → List β)
    (hends : ∀ e, PlaceEnd c e → (∃ t ∈ texts, e <:+ t) →
      ∀ core, (μ (core ++ e)).Perm (μ core ++ ν e)) :
    (texts'.flatMap μ).Perm (texts.flatMap μ) := by
  obtain ⟨cores, cores', ends, hlength, hperm, rfl, rfl, hplace⟩ := h
  have hadd : ∀ e ∈ ends, ∀ core, (μ (core ++ e)).Perm (μ core ++ ν e) := fun e he =>
    hends e (hplace e he) (exists_suffix_of_mem_ends hlength he)
  refine (zipWith_flatMap_perm (hperm.length_eq.trans hlength) hadd).trans ?_
  exact ((hperm.flatMap_right μ).append_right _).trans (zipWith_flatMap_perm hlength hadd).symm

theorem perm_of_lines_perm {t t' : Text} (h : t'.lines.Perm t.lines) : t'.Perm t := by
  have hjoined := Text.unlines_perm h.length_eq h.flatten
  rwa [Text.unlines_lines, Text.unlines_lines] at hjoined

theorem Rearranged.flatten_perm {texts texts' : List Text} (h : Rearranged c texts texts') :
    texts'.flatten.Perm texts.flatten := by
  obtain ⟨labelled, hlabels, hplaces⟩ := h
  have harranged : (texts'.flatMap id).Perm (labelled.flatMap id) :=
    hplaces.flatMap_perm id fun e _ _ core => .refl _
  have hlabelled : labelled.flatten.Perm texts.flatten := by
    clear hplaces harranged
    induction hlabels with
    | nil => exact .refl _
    | cons hlines _ ih => exact (perm_of_lines_perm hlines).append ih
  rw [List.flatMap_id, List.flatMap_id] at harranged
  exact harranged.trans hlabelled

end Arrange

/-! ## Lines up to separators -/

namespace Classifier

variable {c : Classifier}

/-- A line without the separators that it ends with. -/
def withoutSeparators (c : Classifier) (line : Text) : Text := line.rdropWhile c.isSeparator

/-- The lines of a text, each without the separators that it ends with. -/
def strippedLines (c : Classifier) (t : Text) : List Text := t.lines.map c.withoutSeparators

theorem withoutSeparators_append {closer : Text} (h : ∀ x ∈ closer, c.isSeparator x = true)
    (line : Text) : c.withoutSeparators (line ++ closer) = c.withoutSeparators line := by
  have hclosed : closer.reverse.dropWhile c.isSeparator = [] := by
    rw [List.dropWhile_eq_nil_iff]
    intro x hx
    exact h x (List.mem_reverse.mp hx)
  rw [withoutSeparators, withoutSeparators, List.rdropWhile, List.rdropWhile, List.reverse_append,
    List.dropWhile_append, hclosed]
  simp

theorem strippedLines_append {closer : Text} (h : ∀ x ∈ closer, c.isSeparator x = true)
    (hnewline : '\n' ∉ closer) (t : Text) :
    c.strippedLines (t ++ closer) = c.strippedLines t := by
  obtain ⟨init, last, hlines⟩ := (List.eq_nil_or_concat' t.lines).resolve_left t.lines_ne_nil
  have hcloser : closer.lines = [closer] := Text.lines_eq_singleton hnewline
  rw [strippedLines, strippedLines, Text.lines_append hlines hcloser, hlines]
  simp [withoutSeparators_append h]

theorem strippedLines_append_newline (t u : Text) :
    c.strippedLines (t ++ '\n' :: u) = c.strippedLines t ++ c.strippedLines u := by
  simp [strippedLines, Text.lines_append_newline]

end Classifier

namespace Arrange

variable {c : Classifier}

/-- Arranged blocks have the lines of the blocks, up to separators. -/
theorem Rearranged.strippedLines_perm {texts texts' : List Text} (h : Rearranged c texts texts')
    (hnewline : c.isSeparator '\n' = false) (hreturn : ∀ t ∈ texts, '\r' ∉ t) :
    (texts'.flatMap c.strippedLines).Perm (texts.flatMap c.strippedLines) := by
  obtain ⟨labelled, hlabels, hplaces⟩ := h
  have hlabelled : (labelled.flatMap c.strippedLines).Perm (texts.flatMap c.strippedLines) ∧
      ∀ t ∈ labelled, '\r' ∉ t := by
    clear hplaces
    induction hlabels with
    | nil => simp
    | @cons t t' texts labelled hlines _ ih =>
        obtain ⟨hperm, hmem⟩ := ih fun u hu => hreturn u (by simp [hu])
        refine ⟨(hlines.map _).append hperm, ?_⟩
        intro u hu
        rcases List.mem_cons.mp hu with rfl | hu
        · rw [(perm_of_lines_perm hlines).mem_iff]
          exact hreturn t (by simp)
        · exact hmem u hu
  refine (hplaces.flatMap_perm (fun e => (c.strippedLines e).tail) ?_).trans hlabelled.1
  rintro _ ⟨closer, suffix, rfl, hcloser, hsuffix⟩ ⟨t, ht, hend⟩ core
  have hcloser' : '\n' ∉ closer := fun hmem => by simp [hcloser _ hmem] at hnewline
  rw [← List.append_assoc]
  rcases hsuffix with rfl | rfl | rfl
  · -- a place without a line ending
    have hone := Text.lines_eq_singleton hcloser'
    rw [List.append_nil, List.append_nil, Classifier.strippedLines_append hcloser hcloser']
    simp [Classifier.strippedLines, hone]
  · -- the newline of a place adds an empty line
    rw [Classifier.strippedLines_append_newline, Classifier.strippedLines_append hcloser hcloser',
      Classifier.strippedLines_append_newline]
    simp [Classifier.strippedLines, Text.lines_eq_singleton hcloser']
  · exact absurd (hend.subset (by simp)) (hlabelled.2 t ht)

end Arrange

end BlockOrder
