import BlockOrder.Proofs.Sort.Conservation

/-!
# Pending edits are taken at most once

Sorting splits the pending edits in two: those that become part of the texts, each of them once
and from inside a block, and those that stay pending.  An edit that lies inside no block is not
even moved.
-/

namespace BlockOrder

namespace Edit

variable {d : Document}

/-- The edit lies inside one of the ranges, once both are clamped. -/
def liesIn (d : Document) (ranges : List Range) (e : Edit) : Bool :=
  ranges.any fun r => (d.clamp r).contains (d.clamp e.range)

theorem Within.contains {block : Range} {e : Edit} (h : Within d block e) :
    block.contains e.range = true := by
  rw [Range.contains, Bool.and_eq_true, decide_eq_true_eq, decide_eq_true_eq]
  exact ⟨h.before.le, h.after.le⟩

/-- A merge only rejects what it was given. -/
theorem mem_of_mem_rejected {start : Position} {base : Text} {edits : List Edit} {m : Merging}
    {e : Edit} (h : e ∈ (edits.foldl (Merging.step start base) m).rejected) :
    e ∈ m.rejected ∨ e ∈ edits := by
  induction edits generalizing m with
  | nil => exact .inl h
  | cons x edits ih =>
      rcases ih h with hstep | hmem
      · simp only [Merging.step] at hstep
        split at hstep
        · rcases List.mem_append.mp hstep with hm | hx
          · exact .inl hm
          · exact .inr (by simp [List.mem_singleton.mp hx])
        · exact .inl hstep
      · exact .inr (List.mem_cons_of_mem x hmem)

end Edit

namespace Document

variable {d : Document}

/-- An edit inside a part of a block is inside the block. -/
theorem Cuts.contains {block : Range} {split : Split} (h : d.Cuts block split) {r : Range}
    (hr : r ∈ [split.head] ++ split.inner ++ [split.tail]) {e : Edit}
    (he : (d.clamp r).contains (d.clamp e.range) = true) :
    block.contains (d.clamp e.range) = true := by
  have hwithin := h.within hr (Pending.within_of_contains he)
  exact hwithin.contains

end Document

/-! ## Edits that stay -/

namespace Pending

variable {d : Document}

/-- The edits of a kind that does not occur inside a range stay where they are when the range
is copied. -/
theorem filter_editedText (p : Pending) (r : Range) {keep : Edit → Bool}
    (hkeep : ∀ e, (d.clamp r).contains (d.clamp e.range) = true → keep e = false) :
    (p.editedText d r).2.edits.filter keep = p.edits.filter keep := by
  unfold editedText takeWithin restore
  simp only [List.filter_append, List.filter_filter]
  have hleft : (p.edits.filter fun e =>
      keep e && !(d.clamp r).contains (d.clamp e.range)) = p.edits.filter keep := by
    apply List.filter_congr
    intro e _
    cases hin : (d.clamp r).contains (d.clamp e.range) with
    | true => rw [hkeep e hin]; rfl
    | false => simp
  rw [hleft, List.append_right_eq_self, List.filter_eq_nil_iff]
  intro e he
  -- what is rejected was taken from inside the range, and clamping it again changes nothing
  rcases Edit.mem_of_mem_rejected he with hnil | htaken
  · exact absurd hnil (List.not_mem_nil)
  · obtain ⟨e₀, he₀, rfl⟩ := List.mem_map.mp ((sortBy_perm _ _).mem_iff.mp htaken)
    have hin := (List.mem_filter.mp he₀).2
    rw [hkeep (e₀.clamp d) (by simpa [Edit.clamp] using hin)]
    exact Bool.false_ne_true

end Pending

namespace Workspace

variable {w : Workspace}

/-- Edits of a kind that does not occur inside the range stay pending as they are. -/
def Spares (w : Workspace) (r : Range) (p : Pending) (_ : Text) (p' : Pending) : Prop :=
  ∀ keep : Edit → Bool,
    (∀ e, (w.document.clamp r).contains (w.document.clamp e.range) = true → keep e = false) →
      p'.edits.filter keep = p.edits.filter keep

theorem filter_of_threaded {ranges : List Range} {texts : List Text} {p p' : Pending}
    (h : Threaded w.Spares ranges p texts p') {keep : Edit → Bool}
    (hkeep : ∀ r ∈ ranges, ∀ e,
      (w.document.clamp r).contains (w.document.clamp e.range) = true → keep e = false) :
    p'.edits.filter keep = p.edits.filter keep := by
  induction h with
  | nil p => rfl
  | cons step rest ih =>
      have hrest := ih fun r hr => hkeep r (List.mem_cons_of_mem _ hr)
      exact hrest.trans (step keep (hkeep _ List.mem_cons_self))

theorem nests_spares (w : Workspace) : w.Nests w.Spares where
  copied r p keep hkeep := by
    apply Pending.filter_editedText
    intro e he
    exact hkeep e (by simpa using he)
  nested r split p texts p' sorted hcuts hinner _ keep hkeep := by
    have hparts : ∀ s ∈ [split.head] ++ split.inner ++ [split.tail], ∀ e,
        (w.document.clamp s).contains (w.document.clamp e.range) = true → keep e = false :=
      fun s hs e he => hkeep e (hcuts.contains hs he)
    have hhead := Pending.filter_editedText p split.head (hparts split.head (by simp))
    have hmid := filter_of_threaded hinner fun s hs => hparts s (by simp [hs])
    have htail := Pending.filter_editedText p' split.tail (hparts split.tail (by simp))
    rw [htail, hmid, hhead]

end Workspace

/-! ## Edits that are taken -/

/-- A list whose images fall into two parts falls into two parts itself. -/
theorem exists_append_of_map_perm {α β : Type} {f : α → β} {l : List α} {a b : List β}
    (h : (l.map f).Perm (a ++ b)) :
    ∃ x y, l.Perm (x ++ y) ∧ x.map f = a ∧ y.map f = b := by
  obtain ⟨l', hperm, hmap⟩ := exists_perm_of_perm_map h.symm
  obtain ⟨x, y, rfl, hx, hy⟩ := List.map_eq_append_iff.mp hmap.symm
  exact ⟨x, y, hperm.symm, hx, hy⟩

namespace Session

/-- Sorting blocks of a plain document, if it has a result, splits the pending edits into those it
takes and those that are left, up to clamping.  The edits that are taken lie inside blocks, and
their texts replace the texts of their ranges once; edits that lie inside no block stay as they
are.  There is a result if keys compare as a total preorder. -/
theorem sortBlocks_takes_once (s : Session) {d : Document} (hd : d.Plain) (o : SortOptions)
    (blocks : List Range) (p : Pending) :
    ∃ result s', s.sortBlocks d o blocks p false = (result, s') ∧
      Sound (Std.TransCmp o.order.compare) (fun (texts, p') => ∃ taken left,
        p.edits.Perm (taken ++ left) ∧
        (p'.edits.map (Edit.clamp d)).Perm (left.map (Edit.clamp d)) ∧
        (∀ e ∈ taken, e.liesIn d blocks = true) ∧
        (texts.flatten ++ taken.flatMap fun e => d.slice e.range).Perm
          (blocks.flatMap d.slice ++ taken.flatMap Edit.text) ∧
        p'.edits.filter (fun e => !e.liesIn d blocks) =
          p.edits.filter fun e => !e.liesIn d blocks) result := by
  obtain ⟨result, s', hsorted, hkeeps⟩ :=
    s.exists_sortBlocks d o blocks p (Workspace.nests_keeps _)
  obtain ⟨result', s'', hsorted', hspares⟩ :=
    s.exists_sortBlocks d o blocks p (Workspace.nests_spares _)
  -- both descriptions are of the same run
  obtain ⟨rfl, -⟩ := Prod.mk.inj (hsorted.symm.trans hsorted')
  refine ⟨result, s', hsorted, (hkeeps.and hspares).mono ?_⟩
  rintro ⟨sorted, p'⟩ ⟨⟨texts, hthreaded, harranged⟩, texts', hthreaded', -⟩
  obtain ⟨clamped, haccounts⟩ := Workspace.accounts_of_threaded hthreaded (.inr hd)
  obtain ⟨left, taken, hsplit, hleft, htaken⟩ := exists_append_of_map_perm haccounts.pending
  subst htaken
  refine ⟨taken, left, ?_, ?_, ?_, ?_, ?_⟩
  · exact hsplit.trans List.perm_append_comm
  · exact .of_eq hleft.symm
  · intro e he
    obtain ⟨r, hr, hwithin⟩ := haccounts.inside _ (List.mem_map_of_mem he)
    exact List.any_eq_true.mpr ⟨r, hr, hwithin.contains⟩
  · have hchars := haccounts.chars
    simp only [List.flatMap_map, Edit.clamp, Document.slice_clamp] at hchars
    exact (harranged.flatten_perm.append_right _).trans hchars
  · apply Workspace.filter_of_threaded hthreaded'
    intro r hr e he
    rw [Bool.not_eq_false', Edit.liesIn, List.any_eq_true]
    exact ⟨r, hr, he⟩

/-- In a list of three entries an edit of one entry may be taken, and an edit that reaches from
one entry into the next stays pending. -/
theorem takes_once_spanning_edit :
    (⟨["b,".toList, "a,".toList, "c".toList]⟩ : Document).Plain ∧
      ∃ texts p' s', (start {} "typescript").sortBlocks
          ⟨["b,".toList, "a,".toList, "c".toList]⟩ { order := .ofOptions {} .asc }
          [.lines 0 0, .lines 1 1, .lines 2 2]
          ⟨[⟨.lines 1 1, "aa,".toList⟩, ⟨⟨.ofOffset 0 1, .ofOffset 1 1⟩, "X".toList⟩]⟩ false =
            (.ok (texts, p'), s') ∧
        ⟨⟨.ofOffset 0 1, .ofOffset 1 1⟩, "X".toList⟩ ∈ p'.edits := by
  have hplain : (⟨["b,".toList, "a,".toList, "c".toList]⟩ : Document).Plain := by decide
  obtain ⟨result, s', hsorted, hsound⟩ :=
    sortBlocks_takes_once (start {} "typescript") hplain { order := .ofOptions {} .asc }
      [.lines 0 0, .lines 1 1, .lines 2 2]
      ⟨[⟨.lines 1 1, "aa,".toList⟩, ⟨⟨.ofOffset 0 1, .ofOffset 1 1⟩, "X".toList⟩]⟩
  obtain ⟨⟨texts, p'⟩, rfl, -, -, -, -, -, -, hstays⟩ :=
    hsound.exists_ok (KeyOrder.transCmp_ofOptions (.inl rfl) (.inl rfl) .asc)
  refine ⟨hplain, texts, p', s', hsorted, ?_⟩
  have hmem : ⟨⟨.ofOffset 0 1, .ofOffset 1 1⟩, "X".toList⟩ ∈
      p'.edits.filter fun e => !e.liesIn ⟨["b,".toList, "a,".toList, "c".toList]⟩
        [.lines 0 0, .lines 1 1, .lines 2 2] := by
    rw [hstays]
    decide
  exact (List.mem_filter.mp hmem).1

end Session

end BlockOrder
