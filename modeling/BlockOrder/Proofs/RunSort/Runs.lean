import BlockOrder.Proofs.RunSort.Merging
import Mathlib.Data.List.Chain

/-!
# Runs

A list is the same as its runs, one after the other, once short ones are sorted, and merging them
in any order of neighbours sorts it.  How runs that are not in order are sorted does not matter.
-/

namespace BlockOrder.RunSort

variable {α : Type} {less : α → α → Bool} {l : List α}

/-! ## Natural runs -/

theorem isChain_take_runLength (less : α → α → Bool) (falling : Bool) (l : List α) :
    (l.take (runLength less falling l)).IsChain fun a b => less b a = falling := by
  fun_induction runLength less falling l with
  | case1 x y rest hyx ih =>
      rw [List.take_succ_cons, List.isChain_cons]
      refine ⟨fun z hz => ?_, ih⟩
      have hz' := List.mem_of_mem_head? hz
      cases hlength : runLength less falling (y :: rest) with
      | zero =>
          rw [hlength, List.take_zero] at hz'
          cases hz'
      | succ n =>
          rw [hlength, List.take_succ_cons] at hz
          obtain rfl := Option.some.inj hz
          exact hyx
  | case2 x y rest => exact List.isChain_singleton x
  | case3 l h =>
      rw [List.take_length]
      match l, h with
      | [], _ => exact List.isChain_nil
      | [x], _ => exact List.isChain_singleton x
      | x :: y :: rest, h => exact absurd rfl (h x y rest)

theorem runLength_le (less : α → α → Bool) (falling : Bool) (l : List α) :
    runLength less falling l ≤ l.length := by
  fun_induction runLength less falling l with
  | case1 x y rest _ ih => exact Nat.succ_le_succ ih
  | case2 x y rest => simp
  | case3 l => exact Nat.le_refl _

theorem pairwise_of_isChain {R : α → α → Prop} (htrans : ∀ a b c, R a b → R b c → R a c)
    (h : l.IsChain R) : l.Pairwise R := by
  have : Trans R R R := ⟨htrans _ _ _⟩
  exact h.pairwise

/-- A run is the start of the list, in order. -/
theorem sorts_naturalRun (less : α → α → Bool) (l : List α) :
    Sorts less (l.take (naturalRun less l).length) (naturalRun less l) := by
  unfold naturalRun
  split
  · next x y rest =>
      split
      · have hchain := isChain_take_runLength less true (x :: y :: rest)
        rw [List.length_reverse, List.length_take, Nat.min_eq_left (runLength_le less true _)]
        refine ⟨.turn fun strict weak hdecides => ?_, fun strict weak hdecides => ?_⟩
        · have hstrict := hchain.imp fun a b hba => hdecides.of_less hba
          exact pairwise_of_isChain (fun a b c hba hcb => hdecides.strict_trans hcb
            (hdecides.weaken hba)) hstrict
        · rw [List.pairwise_reverse]
          have hweak := hchain.imp fun a b hba => hdecides.weaken (hdecides.of_less hba)
          exact pairwise_of_isChain (fun a b c hba hcb => hdecides.trans hcb hba) hweak
      · have hchain := isChain_take_runLength less false (x :: y :: rest)
        rw [List.length_take, Nat.min_eq_left (runLength_le less false _)]
        refine ⟨.refl less _, fun strict weak hdecides => ?_⟩
        have hweak := hchain.imp fun a b hba => hdecides.of_not_less hba
        exact pairwise_of_isChain (fun a b c hab hbc => hdecides.trans hab hbc) hweak
  · next h =>
      rw [List.take_length]
      refine ⟨.refl less _, fun _ _ _ => ?_⟩
      match l, h with
      | [], _ => exact .nil
      | [x], _ => exact List.pairwise_singleton _ x
      | x :: y :: rest, h => exact absurd rfl (h x y rest)

/-- A run that is said to be in order is in order. -/
def Run.Valid (less : α → α → Bool) (r : Run α) : Prop := r.sorted = true → Ordered less r.items

/-- The elements of runs. -/
def items (rs : List (Run α)) : List α := rs.flatMap Run.items

theorem sound_firstRun (less : α → α → Bool) (eager : Bool) (good : Nat) (l : List α) :
    Sound (WeakOrder less)
      (fun (run, rest) => Rearranges less l (run.items ++ rest) ∧ run.Valid less)
      (firstRun less eager good l) := by
  unfold firstRun
  dsimp only
  split
  · have hrun := sorts_naturalRun less l
    have hsplit := hrun.rearranges.append_right (l.drop (naturalRun less l).length)
    rw [List.take_append_drop] at hsplit
    exact .pure ⟨hsplit, fun _ => hrun.ordered⟩
  split
  · refine (sound_sortShort less (l.take shortLength)).bind fun sorted hsorted => .pure ?_
    have hsplit := hsorted.rearranges.append_right (l.drop shortLength)
    rw [List.take_append_drop] at hsplit
    exact ⟨hsplit, fun _ => hsorted.ordered⟩
  · refine .pure ⟨?_, nofun⟩
    rw [List.take_append_drop]
    exact .refl less l

theorem sound_runs (less : α → α → Bool) (eager : Bool) (good room : Nat) (l : List α) :
    Sound (WeakOrder less) (fun rs => Rearranges less l (items rs) ∧ ∀ r ∈ rs, r.Valid less)
      (runs less eager good room l) := by
  induction room generalizing l with
  | zero =>
      cases l with
      | nil => exact .pure ⟨.refl less [], by simp⟩
      | cons x l =>
          refine .pure ⟨?_, ?_⟩
          · simpa [items] using .refl less (x :: l)
          · intro r hr
            obtain rfl := List.mem_singleton.mp hr
            nofun
  | succ room ih =>
      cases l with
      | nil => exact .pure ⟨.refl less [], by simp⟩
      | cons x l =>
          refine (sound_firstRun less eager good (x :: l)).bind fun (run, rest) hfirst => ?_
          obtain ⟨hsplit, hrun⟩ := hfirst
          refine (ih rest).bind fun rs hrs => .pure ⟨?_, ?_⟩
          · exact hsplit.trans (hrs.1.append_left run.items)
          · intro r hr
            rcases List.mem_cons.mp hr with rfl | hr
            · exact hrun
            · exact hrs.2 r hr

/-! ## Merging runs -/

section Merging

variable {sortRun : List α → Except Inconsistent (List α)}

/-- The elements of the runs on a stack, the last of which is given first. -/
def stacked (stack : List (Run α × Nat)) : List α := items (stack.reverse.map (·.1))

theorem stacked_cons (run : Run α) (depth : Nat) (stack : List (Run α × Nat)) :
    stacked ((run, depth) :: stack) = stacked stack ++ run.items := by
  simp [stacked, items]

variable (hsort : ∀ l, Sound (WeakOrder less) (Sorts less l) (sortRun l))
include hsort

theorem sound_sortedItems {r : Run α} (hr : r.Valid less) :
    Sound (WeakOrder less) (Sorts less r.items) (r.sortedItems sortRun) := by
  unfold Run.sortedItems
  split
  · next hsorted => exact .pure ⟨.refl less _, hr hsorted⟩
  · exact hsort r.items

theorem sound_mergeRuns (capacity : Nat) {left right : Run α} (hleft : left.Valid less)
    (hright : right.Valid less) :
    Sound (WeakOrder less)
      (fun run => Rearranges less (left.items ++ right.items) run.items ∧ run.Valid less)
      (mergeRuns less sortRun capacity left right) := by
  unfold mergeRuns
  split
  · refine (sound_sortedItems hsort hleft).bind fun l hl => ?_
    refine (sound_sortedItems hsort hright).bind fun r hr => .pure ?_
    have hmerge := sorts_merge hl.ordered hr.ordered
    exact ⟨(hl.rearranges.append hr.rearranges).trans hmerge.rearranges, fun _ => hmerge.ordered⟩
  · exact .pure ⟨.refl less _, nofun⟩

theorem sound_collapse (capacity depth : Nat) {stack : List (Run α × Nat)} {run : Run α}
    (hstack : ∀ r ∈ stack, r.1.Valid less) (hrun : run.Valid less) :
    Sound (WeakOrder less)
      (fun (stack', run') =>
        Rearranges less (stacked stack ++ run.items) (stacked stack' ++ run'.items) ∧
          (∀ r ∈ stack', r.1.Valid less) ∧ run'.Valid less ∧ (depth = 0 → stack' = []))
      (collapse less sortRun capacity depth stack run) := by
  induction stack generalizing run with
  | nil => exact .pure ⟨.refl less _, by simp, hrun, fun _ => rfl⟩
  | cons top stack ih =>
      obtain ⟨before, d⟩ := top
      unfold collapse
      split
      · refine (sound_mergeRuns hsort capacity (hstack _ List.mem_cons_self) hrun).bind
          fun merged hmerged => ?_
        refine (ih (fun r hr => hstack r (List.mem_cons_of_mem _ hr)) hmerged.2).mono
          fun (stack', run') hrest => ⟨?_, hrest.2⟩
        have hsplit := hmerged.1.append_left (stacked stack)
        rw [← List.append_assoc, ← stacked_cons before d] at hsplit
        exact hsplit.trans hrest.1
      · next hdepth =>
          refine .pure ⟨.refl less _, hstack, hrun, ?_⟩
          rintro rfl
          exact absurd (Nat.zero_le d) hdepth

theorem sound_mergeTree (capacity scale : Nat) {stack : List (Run α × Nat)} {run : Run α}
    (place : Nat) {rest : List (Run α)} (hstack : ∀ r ∈ stack, r.1.Valid less)
    (hrun : run.Valid less) (hrest : ∀ r ∈ rest, r.Valid less) :
    Sound (WeakOrder less)
      (fun merged => Rearranges less (stacked stack ++ run.items ++ items rest) merged.items ∧
        merged.Valid less)
      (mergeTree less sortRun capacity scale stack run place rest) := by
  induction rest generalizing stack run place with
  | nil =>
      refine (sound_collapse hsort capacity 0 hstack hrun).bind fun (stack', run') hrest => .pure ?_
      obtain ⟨hsplit, -, hrun', hempty⟩ := hrest
      obtain rfl := hempty rfl
      exact ⟨by simpa [items, stacked] using hsplit, hrun'⟩
  | cons next rest ih =>
      refine (sound_collapse hsort capacity _ hstack hrun).bind fun (stack', merged) hmerged => ?_
      obtain ⟨hsplit, hstack', hvalid, -⟩ := hmerged
      refine (ih _ ?_ (hrest next List.mem_cons_self)
        fun r hr => hrest r (List.mem_cons_of_mem _ hr)).mono fun result hresult => ⟨?_, hresult.2⟩
      · intro r hr
        rcases List.mem_cons.mp hr with rfl | hr
        · exact hvalid
        · exact hstack' r hr
      · have hnext := hsplit.append_right (items (next :: rest))
        have hrest := hresult.1
        rw [stacked_cons, List.append_assoc] at hrest
        exact hnext.trans hrest

/-- Sorting by runs sorts, if the way in which runs are sorted does. -/
theorem sound_drift (capacity : Nat) (eager : Bool) (l : List α) :
    Sound (WeakOrder less) (Sorts less l) (drift less sortRun capacity eager l) := by
  refine (sound_runs less eager _ _ l).bind fun rs hrs => ?_
  obtain ⟨hsplit, hvalid⟩ := hrs
  cases rs with
  | nil => exact .pure ⟨hsplit, ordered_nil less⟩
  | cons run rest =>
      refine (sound_mergeTree hsort capacity _ _ (by simp) (hvalid run List.mem_cons_self)
        fun r hr => hvalid r (List.mem_cons_of_mem _ hr)).bind fun merged hmerged => ?_
      refine (sound_sortedItems hsort hmerged.2).mono fun sorted hsorted => ?_
      exact .trans (hsplit.trans (by simpa [stacked, items] using hmerged.1)) hsorted

end Merging

end BlockOrder.RunSort
