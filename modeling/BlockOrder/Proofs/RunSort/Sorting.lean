import BlockOrder.Proofs.RunSort.Runs
import BlockOrder.StableSort

/-!
# The sort sorts

Whatever the comparison, a list that comes out is the list that went in, rearranged and in order;
and a list comes out if the comparison makes sense.
-/

namespace BlockOrder.RunSort

variable {α : Type} {less : α → α → Bool} {l : List α}

/-! ## Partitions -/

theorem take_append_get_drop (l : List α) (i : Fin l.length) :
    l.take i ++ l.get i :: l.drop (i + 1) = l := by
  rw [List.get_eq_getElem, List.getElem_cons_drop, List.take_append_drop]

section PartitionAt

variable {p : α → Bool} {i : Fin l.length} {yes no : List α}

theorem partitionAt_eq_filter (h : p (l.get i) = false) :
    partitionAt p l i = (l.filter p, l.filter (!p ·)) := by
  conv_rhs => rw [← take_append_get_drop l i]
  simp only [partitionAt, List.filter_append, List.filter_cons, h]
  rfl

variable (h : partitionAt p l i = (yes, no))
include h

theorem perm_of_partitionAt : (yes ++ no).Perm l := by
  cases h
  have hfilter := List.filter_append_perm p (l.take i ++ l.drop (i + 1))
  rw [List.filter_append (p := (!p ·))] at hfilter
  conv_rhs => rw [← take_append_get_drop l i]
  rw [← List.append_assoc]
  refine List.perm_middle.trans (.trans ?_ List.perm_middle.symm)
  rw [List.append_assoc]
  exact hfilter.cons (l.get i)

theorem of_mem_yes {x : α} (hx : x ∈ yes) : p x = true := by
  cases h
  exact (List.mem_filter.mp hx).2

theorem of_mem_no {x : α} (hx : x ∈ no) : x = l.get i ∨ p x = false := by
  cases h
  rcases List.mem_append.mp hx with hx | hx
  · exact .inr (by simpa using (List.mem_filter.mp hx).2)
  rcases List.mem_cons.mp hx with rfl | hx
  · exact .inl rfl
  · exact .inr (by simpa using (List.mem_filter.mp hx).2)

/-- A property that the element in the middle does not have on the wrong side finds the elements of
a partition in their order. -/
theorem filter_of_partitionAt {q : α → Bool} (hq : q (l.get i) = true → p (l.get i) = false) :
    yes.filter q = (l.filter p).filter q ∧ no.filter q = (l.filter (!p ·)).filter q := by
  cases hqi : q (l.get i) with
  | true =>
      rw [partitionAt_eq_filter (hq hqi)] at h
      cases h
      exact ⟨rfl, rfl⟩
  | false =>
      cases h
      have hothers : ∀ p' : α → Bool,
          ((l.take i ++ l.drop (i + 1)).filter p').filter q = (l.filter p').filter q := by
        intro p'
        have hnone : [l.get i].filter (fun x => q x && p' x) = [] := by
          rw [List.filter_singleton, hqi]
          rfl
        conv_rhs => rw [← take_append_get_drop l i, ← List.singleton_append]
        rw [List.filter_filter, List.filter_filter, List.filter_append, List.filter_append,
          List.filter_append, hnone, List.nil_append]
      refine ⟨hothers p, ?_⟩
      rw [← hothers, List.filter_append, List.filter_append, List.filter_append,
        List.filter_cons_of_neg (Bool.eq_false_iff.mp hqi)]

/-- The elements with a property may come first if they have to. -/
theorem rearranges_of_partitionAt (hpivot : p (l.get i) = true → less (l.get i) (l.get i) = true)
    (hp : ∀ strict weak, Decides less strict weak → ∀ a b, p a = true → p b = false → strict a b) :
    Rearranges less l (yes ++ no) := by
  refine ⟨perm_of_partitionAt h, fun strict weak hdecides q hq => ?_⟩
  have hqi : q (l.get i) = true → p (l.get i) = false := fun hqi => by
    by_contra hne
    exact hq _ _ hqi hqi (hdecides.of_less (hpivot (Bool.eq_true_of_not_eq_false hne)))
  obtain ⟨hyes, hno⟩ := filter_of_partitionAt h hqi
  rw [List.filter_append, hyes, hno, ← List.filter_append]
  exact (Rearranges.partition hp l).stable strict weak hdecides q hq

/-- The elements with a property may come last if they have to. -/
theorem rearranges_of_partitionAt_swap
    (hpivot : p (l.get i) = true → less (l.get i) (l.get i) = true)
    (hp : ∀ strict weak, Decides less strict weak → ∀ a b, p a = false → p b = true → strict a b) :
    Rearranges less l (no ++ yes) := by
  refine ⟨List.perm_append_comm.trans (perm_of_partitionAt h), fun strict weak hdecides q hq => ?_⟩
  have hqi : q (l.get i) = true → p (l.get i) = false := fun hqi => by
    by_contra hne
    exact hq _ _ hqi hqi (hdecides.of_less (hpivot (Bool.eq_true_of_not_eq_false hne)))
  obtain ⟨hyes, hno⟩ := filter_of_partitionAt h hqi
  have hpartition : Rearranges less l (l.filter (!p ·) ++ l.filter fun x => !(!p x)) := by
    apply Rearranges.partition
    intro strict weak hdecides a b ha hb
    exact hp strict weak hdecides a b (by simpa using ha) (by simpa using hb)
  simp only [Bool.not_not] at hpartition
  rw [List.filter_append, hyes, hno, ← List.filter_append]
  exact hpartition.stable strict weak hdecides q hq

end PartitionAt

/-! ## Sorting by partitions -/

theorem sound_insertAll (less : α → α → Bool) (l : List α) :
    Sound (WeakOrder less) (Sorts less l) (return insertAll less [] l) :=
  .pure (sorts_insertAll (ordered_nil less) l)

theorem Sorts.append {m r l' r' : List α} (h : Rearranges less m (l ++ r)) (hl : Sorts less l l')
    (hr : Sorts less r r')
    (hacross : ∀ strict weak, Decides less strict weak → ∀ a ∈ l, ∀ b ∈ r, weak a b) :
    Sorts less m (l' ++ r') := by
  refine ⟨h.trans (hl.rearranges.append hr.rearranges), fun strict weak hdecides => ?_⟩
  refine List.pairwise_append.mpr ⟨hl.ordered strict weak hdecides, hr.ordered strict weak hdecides,
    fun a ha b hb => ?_⟩
  exact hacross strict weak hdecides a (hl.rearranges.perm.mem_iff.mp ha) b
    (hr.rearranges.perm.mem_iff.mp hb)

section Pivot

variable {i : Fin l.length} {strict weak : α → α → Prop} {lower upper equal greater : List α}

/-- What is not less than the pivot comes after it. -/
theorem weak_of_mem_upper (h : partitionAt (less · (l.get i)) l i = (lower, upper))
    (hdecides : Decides less strict weak) : ∀ x ∈ upper, weak (l.get i) x := by
  intro x hx
  rcases of_mem_no h hx with rfl | hnot
  · exact hdecides.refl _
  · exact hdecides.of_not_less hnot

theorem sorts_of_lower_upper (h : partitionAt (less · (l.get i)) l i = (lower, upper))
    {lower' upper' : List α} (hlower : Sorts less lower lower') (hupper : Sorts less upper upper') :
    Sorts less l (lower' ++ upper') := by
  have hrearranges : Rearranges less l (lower ++ upper) :=
    rearranges_of_partitionAt h id fun strict weak hdecides a b ha hb =>
      hdecides.strict_trans (hdecides.of_less ha) (hdecides.of_not_less hb)
  refine .append hrearranges hlower hupper fun strict weak hdecides a ha b hb => ?_
  have hbelow := hdecides.weaken (hdecides.of_less (of_mem_yes h ha))
  exact hdecides.trans hbelow (weak_of_mem_upper h hdecides b hb)

/-- If nothing comes before the pivot, what is not greater is in order already. -/
theorem sorts_of_equal_greater (h : partitionAt (less (l.get i)) l i = (greater, equal))
    {greater' : List α} (hgreater : Sorts less greater greater')
    (hleast : ∀ strict weak, Decides less strict weak → ∀ x ∈ l, weak (l.get i) x) :
    Sorts less l (equal ++ greater') := by
  have hrearranges : Rearranges less l (equal ++ greater) :=
    rearranges_of_partitionAt_swap h id fun strict weak hdecides a b ha hb =>
      hdecides.trans_strict (hdecides.of_not_less ha) (hdecides.of_less hb)
  have hequal : ∀ strict weak, Decides less strict weak → ∀ x ∈ equal, weak x (l.get i) := by
    intro strict weak hdecides x hx
    rcases of_mem_no h hx with rfl | hnot
    · exact hdecides.refl _
    · exact hdecides.of_not_less hnot
  have hordered : Ordered less equal := by
    intro strict weak hdecides
    apply List.pairwise_of_forall_mem_list
    intro a ha b hb
    have hb' := hrearranges.perm.mem_iff.mp (List.mem_append_left _ hb)
    exact hdecides.trans (hequal strict weak hdecides a ha) (hleast strict weak hdecides b hb')
  refine .append hrearranges ⟨.refl less _, hordered⟩ hgreater
    fun strict weak hdecides a ha b hb => ?_
  have habove := hdecides.weaken (hdecides.of_less (of_mem_yes h hb))
  exact hdecides.trans (hequal strict weak hdecides a ha) habove

end Pivot

theorem sound_quicksort (capacity limit : Nat) {bound : Option α} (l : List α)
    (hbound : ∀ b ∈ bound, ∀ strict weak, Decides less strict weak → ∀ x ∈ l, weak b x) :
    Sound (WeakOrder less) (Sorts less l) (quicksort less capacity limit bound l) := by
  induction limit generalizing bound l with
  | zero =>
      unfold quicksort
      split
      · exact sound_sortShort less l
      · exact sound_drift (sound_insertAll less) capacity true l
  | succ limit ih =>
      unfold quicksort
      split
      · exact sound_sortShort less l
      extract_lets i
      split
      next lower upper hparts =>
      split
      · next hequal =>
          -- nothing is below the pivot, neither where the lower part is empty nor above the bound
          have hleast : ∀ strict weak, Decides less strict weak → ∀ x ∈ l, weak (l.get i) x := by
            intro strict weak hdecides x hx
            rcases Bool.or_eq_true_iff.mp hequal with hany | hempty
            · obtain ⟨b, hb, hnot⟩ := (Option.any_eq_true _ _).mp hany
              have hbelow := hdecides.of_not_less (by simpa using hnot)
              exact hdecides.trans hbelow (hbound b hb strict weak hdecides x hx)
            · have hx' := (perm_of_partitionAt hparts).mem_iff.mpr hx
              rw [List.isEmpty_iff.mp hempty, List.nil_append] at hx'
              exact weak_of_mem_upper hparts hdecides x hx'
          split
          next greater equal hparts' =>
          refine (@ih none greater (by simp)).bind fun greater' hsorts => .pure ?_
          exact sorts_of_equal_greater hparts' hsorts hleast
      · refine (@ih (some (l.get i)) upper ?_).bind fun upper' hupper => ?_
        · intro b hb strict weak hdecides
          obtain rfl := Option.some.inj hb
          exact weak_of_mem_upper hparts hdecides
        refine (@ih bound lower ?_).bind fun lower' hlower => .pure ?_
        · intro b hb strict weak hdecides x hx
          have hx' := (perm_of_partitionAt hparts).mem_iff.mp (List.mem_append_left _ hx)
          exact hbound b hb strict weak hdecides x hx'
        exact sorts_of_lower_upper hparts hlower hupper

theorem sound_sortRun (less : α → α → Bool) (capacity : Nat) (l : List α) :
    Sound (WeakOrder less) (Sorts less l) (sortRun less capacity l) :=
  sound_quicksort capacity _ l nofun

/-- A list that comes out is the list that went in, in order; and one comes out if the comparison
makes sense. -/
theorem sound_sort (less : α → α → Bool) (most : Nat) (l : List α) :
    Sound (WeakOrder less) (Sorts less l) (sort less most l) := by
  unfold sort
  split
  · exact sound_insertAll less l
  · exact sound_drift (sound_sortRun less _) _ _ l

theorem insertBy_eq_insertBack (less : α → α → Bool) (x : α) (l : List α) :
    insertBy (fun a b => !less b a) x l = insertBack (flip less) x l := by
  induction l with
  | nil => rfl
  | cons y ys ih =>
      rw [insertBy, insertBack, ih, flip]
      cases less y x <;> rfl

theorem sorts_sortBy (less : α → α → Bool) (l : List α) :
    Sorts less l (sortBy (fun a b => !less b a) l) := by
  induction l with
  | nil => exact ⟨.refl less [], ordered_nil less⟩
  | cons x xs ih =>
      have hinsert := (sorts_insertBack ih.ordered.reverse x).reverse
      rw [List.reverse_append, List.reverse_reverse, List.reverse_reverse,
        ← insertBy_eq_insertBack] at hinsert
      exact .trans (ih.rearranges.append_left [x]) hinsert

/-- If the comparison makes sense, the sort is the stable one. -/
theorem sort_eq_sortBy (hless : WeakOrder less) (most : Nat) (l : List α) :
    sort less most l = .ok (sortBy (fun a b => !less b a) l) := by
  obtain ⟨l', hsort, hsorts⟩ := (sound_sort less most l).exists_ok hless
  rw [hsort, hsorts.unique hless (sorts_sortBy less l)]

end BlockOrder.RunSort
