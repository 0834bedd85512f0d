import BlockOrder.Proofs.RunSort.Rearranging
import Mathlib.Order.Lattice.Nat

/-!
# Insertion and merging

Insertion sorts whatever the comparison is.  So does a merge from one end.  A merge from both ends
sorts if the two halves of it meet, which they do if the comparison makes sense: an element that
the merge from the front takes before another one is not taken before it by the merge from the
back.
-/

namespace BlockOrder.RunSort

variable {α : Type} {less : α → α → Bool} {l r : List α}

/-! ## Insertion -/

theorem exists_insertBack (less : α → α → Bool) (x : α) (l : List α) :
    ∃ passed rest, l = passed ++ rest ∧ insertBack less x l = passed ++ x :: rest ∧
      (∀ y ∈ passed, less x y = true) ∧ ∀ y ∈ rest.head?, less x y = false := by
  induction l with
  | nil => exact ⟨[], [], rfl, rfl, by simp, by simp⟩
  | cons y ys ih =>
      rw [insertBack]
      split
      · next hxy =>
          obtain ⟨passed, rest, rfl, hinsert, hpassed, hrest⟩ := ih
          exact ⟨y :: passed, rest, rfl, congrArg (y :: ·) hinsert, by simpa [hxy] using hpassed,
            hrest⟩
      · next hxy => exact ⟨[], y :: ys, rfl, rfl, by simp, by simpa using hxy⟩

theorem sorts_insertBack (hl : Ordered less l) (x : α) :
    Sorts less (l ++ [x]) (insertBack less x l.reverse).reverse := by
  obtain ⟨passed, rest, hsplit, hinsert, hpassed, hrest⟩ := exists_insertBack less x l.reverse
  obtain rfl : l = rest.reverse ++ passed.reverse := by
    rw [← List.reverse_append, ← hsplit, List.reverse_reverse]
  have hresult : (passed ++ x :: rest).reverse = rest.reverse ++ x :: passed.reverse := by simp
  rw [hinsert, hresult]
  constructor
  · rw [List.append_assoc]
    exact Rearranges.append_left _ (.to_front fun _ _ hdecides y hy =>
      hdecides.of_less (hpassed y (List.mem_reverse.mp hy)))
  · intro strict weak hdecides
    have hweak := hl strict weak hdecides
    rw [List.pairwise_append] at hweak ⊢
    obtain ⟨hbefore, hbehind, hacross⟩ := hweak
    refine ⟨hbefore, List.pairwise_cons.mpr ⟨fun y hy => ?_, hbehind⟩, fun y hy z hz => ?_⟩
    · exact hdecides.weaken (hdecides.of_less (hpassed y (List.mem_reverse.mp hy)))
    · rcases List.mem_cons.mp hz with rfl | hz
      · -- the element is not less than the first one it does not pass, and the others are before
        cases rest with
        | nil => cases hy
        | cons first rest =>
            have hfirst := hdecides.of_not_less (hrest first rfl)
            rw [List.reverse_cons, List.mem_append, List.mem_singleton] at hy
            rcases hy with hy | rfl
            · rw [List.reverse_cons, List.pairwise_append] at hbefore
              exact hdecides.trans (hbefore.2.2 y hy first (by simp)) hfirst
            · exact hfirst
      · exact hacross y hy z hz

theorem sorts_insertAll (hl : Ordered less l) (more : List α) :
    Sorts less (l ++ more) (insertAll less l more) := by
  induction more generalizing l with
  | nil =>
      rw [insertAll, List.foldl_nil, List.reverse_reverse, List.append_nil]
      exact ⟨.refl less l, hl⟩
  | cons x more ih =>
      have hx := sorts_insertBack hl x
      have hmore := ih hx.ordered
      rw [insertAll, List.reverse_reverse] at hmore
      have hrearranges := hx.rearranges.append_right more
      rw [List.append_assoc] at hrearranges
      exact hmore.trans hrearranges

theorem sorts_sortTwo (less : α → α → Bool) (a b : α) :
    Sorts less [a, b] [(sortTwo less a b).1, (sortTwo less a b).2] := by
  unfold sortTwo
  split
  · next hba =>
      refine ⟨.to_back (l := [b]) fun _ _ hdecides y hy => ?_, fun _ _ hdecides => ?_⟩
      · obtain rfl := List.mem_singleton.mp hy
        exact hdecides.of_less hba
      · exact List.pairwise_pair.mpr (hdecides.weaken (hdecides.of_less hba))
  · next hba =>
      refine ⟨.refl less _, fun _ _ hdecides => ?_⟩
      exact List.pairwise_pair.mpr (hdecides.of_not_less (Bool.eq_false_iff.mpr hba))

/-- Four elements are in order once those in the middle are. -/
theorem sorts_middle {first x y last : α} (hl : Rearranges less l [first, x, y, last])
    (h : ∀ strict weak, Decides less strict weak →
      weak first x ∧ weak first y ∧ weak x last ∧ weak y last) :
    Sorts less l [first, (sortTwo less x y).1, (sortTwo less x y).2, last] := by
  have hmiddle := sorts_sortTwo less x y
  refine ⟨hl.trans ((hmiddle.rearranges.append_left [first]).append_right [last]), ?_⟩
  intro strict weak hdecides
  obtain ⟨hfx, hfy, hxl, hyl⟩ := h strict weak hdecides
  have hends : ∀ z ∈ [(sortTwo less x y).1, (sortTwo less x y).2], weak first z ∧ weak z last := by
    intro z hz
    rw [hmiddle.rearranges.perm.mem_iff, List.mem_pair] at hz
    rcases hz with rfl | rfl
    · exact ⟨hfx, hxl⟩
    · exact ⟨hfy, hyl⟩
  obtain ⟨h₁, h₁'⟩ := hends _ List.mem_cons_self
  obtain ⟨h₂, h₂'⟩ := hends _ (List.mem_cons_of_mem _ List.mem_cons_self)
  have h₁₂ := List.pairwise_pair.mp (hmiddle.ordered strict weak hdecides)
  simp [h₁, h₂, h₁', h₂', h₁₂, hdecides.trans h₁ h₁']

theorem sorts_sortFour (less : α → α → Bool) (a b c d : α) :
    Sorts less [a, b, c, d] (sortFour less a b c d) := by
  have hab := sorts_sortTwo less a b
  have hcd := sorts_sortTwo less c d
  have hpairs := hab.rearranges.append hcd.rearranges
  unfold sortFour
  generalize sortTwo less a b = ab at hab hpairs ⊢
  generalize sortTwo less c d = cd at hcd hpairs ⊢
  obtain ⟨a, b⟩ := ab
  obtain ⟨c, d⟩ := cd
  replace hab : ∀ strict weak, Decides less strict weak → weak a b := fun strict weak hdecides =>
    List.pairwise_pair.mp (hab.ordered strict weak hdecides)
  replace hcd : ∀ strict weak, Decides less strict weak → weak c d := fun strict weak hdecides =>
    List.pairwise_pair.mp (hcd.ordered strict weak hdecides)
  refine .trans hpairs ?_
  -- an element passes another one if it is less, and then it is less than those behind as well
  have hpass : less c a = true → Rearranges less [a, b, c] [c, a, b] := by
    intro hca
    refine .to_front (l := [a, b]) fun strict weak hdecides x hx => ?_
    have hca' := hdecides.of_less hca
    rcases List.mem_pair.mp hx with rfl | rfl
    · exact hca'
    · exact hdecides.strict_trans hca' (hab _ _ hdecides)
  have hpass' : less d b = true → Rearranges less [b, c, d] [c, d, b] := by
    intro hdb
    refine .to_back (l := [c, d]) fun strict weak hdecides y hy => ?_
    have hdb' := hdecides.of_less hdb
    rcases List.mem_pair.mp hy with rfl | rfl
    · exact hdecides.trans_strict (hcd _ _ hdecides) hdb'
    · exact hdb'
  dsimp only
  cases hca : less c a <;> cases hdb : less d b
  case false.false =>
    refine sorts_middle (.refl less _) fun strict weak hdecides => ?_
    exact ⟨hab _ _ hdecides, hdecides.of_not_less hca, hdecides.of_not_less hdb, hcd _ _ hdecides⟩
  case false.true =>
    refine sorts_middle ((hpass' hdb).append_left [a]) fun strict weak hdecides => ?_
    have hac := hdecides.of_not_less hca
    have hdb' := hdecides.weaken (hdecides.of_less hdb)
    exact ⟨hac, hdecides.trans hac (hcd _ _ hdecides), hdecides.trans (hcd _ _ hdecides) hdb',
      hdb'⟩
  case true.false =>
    refine sorts_middle ((hpass hca).append_right [d]) fun strict weak hdecides => ?_
    have hca' := hdecides.weaken (hdecides.of_less hca)
    have hbd := hdecides.of_not_less hdb
    exact ⟨hca', hdecides.trans hca' (hab _ _ hdecides), hdecides.trans (hab _ _ hdecides) hbd,
      hbd⟩
  case true.true =>
    have hswap : Rearranges less [b, d] [d, b] := by
      refine .to_back (l := [d]) fun _ _ hdecides y hy => ?_
      obtain rfl := List.mem_singleton.mp hy
      exact hdecides.of_less hdb
    have hpassed := ((hpass hca).append_right [d]).trans (hswap.append_left [c, a])
    refine sorts_middle hpassed fun strict weak hdecides => ?_
    have hca' := hdecides.weaken (hdecides.of_less hca)
    have hdb' := hdecides.weaken (hdecides.of_less hdb)
    exact ⟨hca', hcd _ _ hdecides, hab _ _ hdecides, hdb'⟩

theorem sorts_sortHalf (less : α → α → Bool) (long : Bool) (half : List α) :
    Sorts less half (sortHalf less long half) := by
  unfold sortHalf
  split
  · next a b c d rest =>
      have hfour := sorts_sortFour less a b c d
      exact .trans (hfour.rearranges.append_right rest) (sorts_insertAll hfour.ordered rest)
  · exact sorts_insertAll (ordered_nil less) half

/-! ## Merging from one end -/

/-- What a merge of two lists in order takes, from the start of both, and what it leaves. -/
structure Cut (less : α → α → Bool) (l r taken l₀ l₁ r₀ r₁ : List α) : Prop where
  left : l = l₀ ++ l₁
  right : r = r₀ ++ r₁
  takes : Sorts less (l₀ ++ r₀) taken
  /-- What is taken from one list precedes what is left of the other. -/
  apart : ∀ strict weak, Decides less strict weak →
    (∀ x ∈ l₀, ∀ y ∈ r₁, weak x y) ∧ ∀ y ∈ r₀, ∀ x ∈ l₁, strict y x

namespace Cut

variable {taken l₀ l₁ r₀ r₁ : List α}

theorem nil (less : α → α → Bool) (l r : List α) : Cut less l r [] [] l [] r where
  left := rfl
  right := rfl
  takes := ⟨.refl less [], ordered_nil less⟩
  apart := by simp

/-- An element of the right list that is less than the first one of the left list precedes all
that are left. -/
theorem cons_right {x y : α} (hl : Ordered less (x :: l)) (hr : Ordered less (y :: r))
    (hyx : less y x = true) (h : Cut less (x :: l) r taken l₀ l₁ r₀ r₁) :
    Cut less (x :: l) (y :: r) (y :: taken) l₀ l₁ (y :: r₀) r₁ := by
  have hpasses : ∀ strict weak, Decides less strict weak → ∀ z ∈ x :: l, strict y z := by
    intro strict weak hdecides z hz
    rcases List.mem_cons.mp hz with rfl | hz
    · exact hdecides.of_less hyx
    · have hxz := List.rel_of_pairwise_cons (hl strict weak hdecides) hz
      exact hdecides.strict_trans (hdecides.of_less hyx) hxz
  have hl₀ : ∀ z ∈ l₀, z ∈ x :: l := fun z hz => h.left ▸ List.mem_append_left _ hz
  have hl₁ : ∀ z ∈ l₁, z ∈ x :: l := fun z hz => h.left ▸ List.mem_append_right _ hz
  refine ⟨h.left, congrArg (y :: ·) h.right, ⟨?_, ?_⟩, ?_⟩
  · have hfront : Rearranges less (l₀ ++ [y]) (y :: l₀) :=
      .to_front fun strict weak hdecides z hz => hpasses strict weak hdecides z (hl₀ z hz)
    have hmoved := hfront.append_right r₀
    rw [List.append_assoc] at hmoved
    exact hmoved.trans (h.takes.rearranges.append_left [y])
  · intro strict weak hdecides
    refine List.pairwise_cons.mpr ⟨fun z hz => ?_, h.takes.ordered strict weak hdecides⟩
    rcases List.mem_append.mp (h.takes.rearranges.perm.mem_iff.mp hz) with hz | hz
    · exact hdecides.weaken (hpasses strict weak hdecides z (hl₀ z hz))
    · refine List.rel_of_pairwise_cons (hr strict weak hdecides) ?_
      rw [h.right]
      exact List.mem_append_left _ hz
  · intro strict weak hdecides
    obtain ⟨hbefore, hafter⟩ := h.apart strict weak hdecides
    refine ⟨hbefore, fun z hz x' hx' => ?_⟩
    rcases List.mem_cons.mp hz with rfl | hz
    · exact hpasses strict weak hdecides x' (hl₁ x' hx')
    · exact hafter z hz x' hx'

theorem cons_left {x y : α} (hl : Ordered less (x :: l)) (hr : Ordered less (y :: r))
    (hyx : less y x = false) (h : Cut less l (y :: r) taken l₀ l₁ r₀ r₁) :
    Cut less (x :: l) (y :: r) (x :: taken) (x :: l₀) l₁ r₀ r₁ := by
  have hpasses : ∀ strict weak, Decides less strict weak → ∀ z ∈ y :: r, weak x z := by
    intro strict weak hdecides z hz
    have hxy := hdecides.of_not_less hyx
    rcases List.mem_cons.mp hz with rfl | hz
    · exact hxy
    · exact hdecides.trans hxy (List.rel_of_pairwise_cons (hr strict weak hdecides) hz)
  have hr₀ : ∀ z ∈ r₀, z ∈ y :: r := fun z hz => h.right ▸ List.mem_append_left _ hz
  have hr₁ : ∀ z ∈ r₁, z ∈ y :: r := fun z hz => h.right ▸ List.mem_append_right _ hz
  refine ⟨congrArg (x :: ·) h.left, h.right, ⟨h.takes.rearranges.append_left [x], ?_⟩, ?_⟩
  · intro strict weak hdecides
    refine List.pairwise_cons.mpr ⟨fun z hz => ?_, h.takes.ordered strict weak hdecides⟩
    rcases List.mem_append.mp (h.takes.rearranges.perm.mem_iff.mp hz) with hz | hz
    · refine List.rel_of_pairwise_cons (hl strict weak hdecides) ?_
      rw [h.left]
      exact List.mem_append_left _ hz
    · exact hpasses strict weak hdecides z (hr₀ z hz)
  · intro strict weak hdecides
    obtain ⟨hbefore, hafter⟩ := h.apart strict weak hdecides
    refine ⟨fun z hz y' hy' => ?_, hafter⟩
    rcases List.mem_cons.mp hz with rfl | hz
    · exact hpasses strict weak hdecides y' (hr₁ y' hy')
    · exact hbefore z hz y' hy'

variable (h : Cut less l r taken l₀ l₁ r₀ r₁)
include h

theorem length_taken : taken.length = l₀.length + r₀.length := by
  rw [h.takes.rearranges.perm.length_eq, List.length_append]

theorem rearranges : Rearranges less (l ++ r) (taken ++ (l₁ ++ r₁)) := by
  have hswap : Rearranges less (l₁ ++ r₀) (r₀ ++ l₁) :=
    .swap fun strict weak hdecides x hx y hy => (h.apart strict weak hdecides).2 y hy x hx
  have hswapped := (hswap.append_left l₀).append_right r₁
  have htaken := h.takes.rearranges.append_right (l₁ ++ r₁)
  simp only [List.append_assoc] at hswapped htaken
  rw [h.left, h.right, List.append_assoc]
  exact hswapped.trans htaken

/-- What is taken precedes everything that is left. -/
theorem before (hl : Ordered less l) (hr : Ordered less r) {strict weak : α → α → Prop}
    (hdecides : Decides less strict weak) : ∀ x ∈ taken, ∀ y ∈ l₁ ++ r₁, weak x y := by
  have hleft := hl strict weak hdecides
  have hright := hr strict weak hdecides
  rw [h.left, List.pairwise_append] at hleft
  rw [h.right, List.pairwise_append] at hright
  obtain ⟨hbefore, hafter⟩ := h.apart strict weak hdecides
  intro x hx y hy
  rcases List.mem_append.mp (h.takes.rearranges.perm.mem_iff.mp hx) with hx | hx <;>
    rcases List.mem_append.mp hy with hy | hy
  · exact hleft.2.2 x hx y hy
  · exact hbefore x hx y hy
  · exact hdecides.weaken (hafter x hx y hy)
  · exact hright.2.2 x hx y hy

end Cut

theorem exists_cut (hl : Ordered less l) (hr : Ordered less r) (n : Nat) :
    ∃ l₀ r₀, Cut less l r (mergeFront less n l r).1 l₀ (mergeFront less n l r).2.1 r₀
        (mergeFront less n l r).2.2 ∧
      (mergeFront less n l r).1.length ≤ n ∧
      (n ≤ (mergeFront less n l r).1.length ∨ (mergeFront less n l r).2.1 = [] ∨
        (mergeFront less n l r).2.2 = []) := by
  fun_induction mergeFront less n l r with
  | case1 n x l y r hyx taken rest hrest ih =>
      obtain ⟨l₀, r₀, hcut, hmost, hdone⟩ := ih hl (hr.sublist (List.sublist_cons_self y r))
      rw [hrest] at hcut hmost hdone
      exact ⟨l₀, y :: r₀, hcut.cons_right hl hr hyx, Nat.succ_le_succ hmost,
        hdone.imp_left Nat.succ_le_succ⟩
  | case2 n x l y r hyx taken rest hrest ih =>
      obtain ⟨l₀, r₀, hcut, hmost, hdone⟩ := ih (hl.sublist (List.sublist_cons_self x l)) hr
      rw [hrest] at hcut hmost hdone
      exact ⟨x :: l₀, r₀, hcut.cons_left hl hr (Bool.eq_false_iff.mpr hyx),
        Nat.succ_le_succ hmost, hdone.imp_left Nat.succ_le_succ⟩
  | case3 n l r h =>
      refine ⟨[], [], .nil less l r, Nat.zero_le _, ?_⟩
      cases n with
      | zero => exact .inl (Nat.le_refl _)
      | succ n =>
          cases l with
          | nil => exact .inr (.inl rfl)
          | cons x l =>
              cases r with
              | nil => exact .inr (.inr rfl)
              | cons y r => exact absurd rfl (h n x l y r rfl rfl)

/-- A merge that takes as much as it can leaves one list at the most. -/
theorem sorts_mergeFront (hl : Ordered less l) (hr : Ordered less r) :
    Sorts less (l ++ r) ((mergeFront less (l.length + r.length) l r).1 ++
      (mergeFront less (l.length + r.length) l r).2.1 ++
      (mergeFront less (l.length + r.length) l r).2.2) := by
  obtain ⟨l₀, r₀, hcut, -, hdone⟩ := exists_cut hl hr (l.length + r.length)
  generalize mergeFront less (l.length + r.length) l r = front at hcut hdone ⊢
  obtain ⟨taken, l₁, r₁⟩ := front
  dsimp only at hcut hdone ⊢
  have hend : l₁ = [] ∨ r₁ = [] := by
    rcases hdone with hall | hend
    · have htaken := hcut.length_taken
      rw [hcut.left, hcut.right] at hall
      simp only [List.length_append] at hall
      exact .inl (List.length_eq_zero_iff.mp (by omega))
    · exact hend
  have hl₁ := hl.sublist (hcut.left ▸ List.sublist_append_right l₀ l₁)
  have hr₁ := hr.sublist (hcut.right ▸ List.sublist_append_right r₀ r₁)
  rw [List.append_assoc]
  refine ⟨hcut.rearranges, fun strict weak hdecides => ?_⟩
  refine List.pairwise_append.mpr ⟨hcut.takes.ordered strict weak hdecides, ?_,
    hcut.before hl hr hdecides⟩
  rcases hend with rfl | rfl
  · exact hr₁ strict weak hdecides
  · rw [List.append_nil]
    exact hl₁ strict weak hdecides

theorem sorts_merge (hl : Ordered less l) (hr : Ordered less r) :
    Sorts less (l ++ r) (merge less l r) := by
  unfold merge
  split
  · exact sorts_mergeFront hl hr
  · have hback := (sorts_mergeFront hr.reverse hl.reverse).reverse
    rw [List.reverse_append, List.reverse_reverse, List.reverse_reverse, List.length_reverse,
      List.length_reverse, Nat.add_comm] at hback
    exact hback

/-! ## Merging from both ends -/

/-- What a merge takes from the end of two lists in order, and what it leaves. -/
structure BackCut (less : α → α → Bool) (l r taken l₀ l₁ r₀ r₁ : List α) : Prop where
  left : l = l₀ ++ l₁
  right : r = r₀ ++ r₁
  takes : Sorts less (l₁ ++ r₁) taken
  apart : ∀ strict weak, Decides less strict weak →
    (∀ x ∈ l₀, ∀ y ∈ r₁, weak x y) ∧ ∀ y ∈ r₀, ∀ x ∈ l₁, strict y x

theorem Cut.back {taken l₀ l₁ r₀ r₁ : List α}
    (h : Cut (flip less) r.reverse l.reverse taken r₁ r₀ l₁ l₀) :
    BackCut less l r taken.reverse l₀.reverse l₁.reverse r₀.reverse r₁.reverse where
  left := by rw [← List.reverse_append, ← h.right, List.reverse_reverse]
  right := by rw [← List.reverse_append, ← h.left, List.reverse_reverse]
  takes := by
    rw [← List.reverse_append]
    exact h.takes.reverse
  apart strict weak hdecides := by
    obtain ⟨hbefore, hafter⟩ := h.apart _ _ hdecides.flip
    simp only [List.mem_reverse]
    exact ⟨fun x hx y hy => hbefore y hy x hx, fun y hy x hx => hafter x hx y hy⟩

section Meeting

variable {front back l₀ m b r₀ k d : List α}

/-- A merge from the front and one from the back meet if `m` or `k`, which neither of them takes,
is empty. -/
theorem sorts_of_meeting (hl : Ordered less l) (hr : Ordered less r)
    (hfront : Cut less l r front l₀ (m ++ b) r₀ (k ++ d))
    (hback : BackCut less l r back (l₀ ++ m) b (r₀ ++ k) d) (hend : m = [] ∨ k = []) :
    Sorts less (l ++ r) (front ++ (m ++ k) ++ back) := by
  have hswap : Rearranges less (b ++ k) (k ++ b) := by
    refine .swap fun strict weak hdecides x hx y hy => ?_
    exact (hback.apart strict weak hdecides).2 y (List.mem_append_right _ hy) x hx
  constructor
  · have hswapped := (hswap.append_left (front ++ m)).append_right d
    have hrest := hback.takes.rearranges.append_left (front ++ m ++ k)
    have hrearranges := hfront.rearranges
    simp only [List.append_assoc] at hswapped hrest hrearranges ⊢
    exact (hrearranges.trans hswapped).trans hrest
  · intro strict weak hdecides
    have hleft := hl strict weak hdecides
    have hright := hr strict weak hdecides
    rw [hback.left, List.append_assoc, List.pairwise_append, List.pairwise_append] at hleft
    rw [hback.right, List.append_assoc, List.pairwise_append, List.pairwise_append] at hright
    obtain ⟨-, ⟨hm, -, hmb⟩, -⟩ := hleft
    obtain ⟨-, ⟨hk, -, hkd⟩, -⟩ := hright
    obtain ⟨hbefore, hafter⟩ := hback.apart strict weak hdecides
    have hmiddle : (m ++ k).Pairwise weak := by
      rcases hend with rfl | rfl
      · exact hk
      · rwa [List.append_nil]
    rw [List.append_assoc]
    refine List.pairwise_append.mpr ⟨hfront.takes.ordered strict weak hdecides,
      List.pairwise_append.mpr ⟨hmiddle, hback.takes.ordered strict weak hdecides, ?_⟩, ?_⟩
    · intro x hx y hy
      rcases List.mem_append.mp hx with hx | hx <;>
        rcases List.mem_append.mp (hback.takes.rearranges.perm.mem_iff.mp hy) with hy | hy
      · exact hmb x hx y hy
      · exact hbefore x (List.mem_append_right _ hx) y hy
      · exact hdecides.weaken (hafter x (List.mem_append_right _ hx) y hy)
      · exact hkd x hx y hy
    · intro x hx y hy
      apply hfront.before hl hr hdecides x hx
      rcases List.mem_append.mp hy with hy | hy
      · rcases List.mem_append.mp hy with hy | hy
        · exact List.mem_append_left _ (List.mem_append_left _ hy)
        · exact List.mem_append_right _ (List.mem_append_left _ hy)
      · rcases List.mem_append.mp (hback.takes.rearranges.perm.mem_iff.mp hy) with hy | hy
        · exact List.mem_append_left _ (List.mem_append_right _ hy)
        · exact List.mem_append_right _ (List.mem_append_right _ hy)

end Meeting

section Ends

variable {front back l₀ l₁ l₂ l₃ r₀ r₁ r₂ r₃ : List α}

/-- The merges meet if the comparison makes sense: if an element that one of them takes first were
taken last by the other, it would be less than a certain element and not less than it. -/
theorem length_of_ends (hless : WeakOrder less) (hfront : Cut less l r front l₀ l₁ r₀ r₁)
    (hback : BackCut less l r back l₂ l₃ r₂ r₃) (hlength : l.length ≤ r.length)
    (hfirst : l₀.length + r₀.length = l.length) (hlast : l₃.length + r₃.length = l.length) :
    l₀.length ≤ l₂.length ∧ l₂.length ≤ l₀.length + (r.length - l.length) := by
  obtain ⟨hbefore, hafter⟩ := hfront.apart _ _ hless.decides
  obtain ⟨hbefore', hafter'⟩ := hback.apart _ _ hless.decides
  have hleft := hfront.left.symm.trans hback.left
  have hright := hfront.right.symm.trans hback.right
  have hl := congrArg List.length hback.left
  have hr := congrArg List.length hback.right
  rw [List.length_append] at hl hr
  have hnone : ∀ {m k : List α}, (∀ x ∈ m, ∀ y ∈ k, False) → m.length = 0 ∨ k.length = 0 := by
    intro m k hmk
    cases m with
    | nil => exact .inl rfl
    | cons x m =>
        cases k with
        | nil => exact .inr rfl
        | cons y k => exact (hmk x List.mem_cons_self y List.mem_cons_self).elim
  rcases List.append_eq_append_iff.mp hleft with ⟨m, rfl, rfl⟩ | ⟨m, rfl, rfl⟩ <;>
    rcases List.append_eq_append_iff.mp hright with ⟨k, rfl, rfl⟩ | ⟨k, rfl, rfl⟩ <;>
    simp only [List.length_append] at *
  · omega
  · have hempty : m.length = 0 ∨ k.length = 0 := by
      apply hnone
      intro x hx y hy
      have hyx := hafter y (List.mem_append_right _ hy) x (List.mem_append_left _ hx)
      rw [hbefore' x (List.mem_append_right _ hx) y (List.mem_append_left _ hy)] at hyx
      cases hyx
    omega
  · have hempty : m.length = 0 ∨ k.length = 0 := by
      apply hnone
      intro x hx y hy
      have hyx := hafter' y (List.mem_append_right _ hy) x (List.mem_append_left _ hx)
      rw [hbefore x (List.mem_append_right _ hx) y (List.mem_append_left _ hy)] at hyx
      cases hyx
    omega
  · omega

/-- Of two ways to cut a list the later one cuts the rest of the earlier one. -/
theorem eq_append_take_of_append_eq {n : Nat} (h : l₀ ++ l₁ = l₂ ++ l₃)
    (hn : l₀.length + n = l₂.length) : l₂ = l₀ ++ l₁.take n ∧ l₃ = l₁.drop n := by
  have hlength := congrArg List.length h
  rw [← List.take_append_drop n l₁, ← List.append_assoc] at h
  refine (List.append_inj h ?_).imp Eq.symm Eq.symm
  simp only [List.length_append, List.length_take] at hlength ⊢
  omega

/-- Where the merges meet is seen from how much they leave. -/
theorem sorts_of_lengths (hl : Ordered less l) (hr : Ordered less r)
    (hfront : Cut less l r front l₀ l₁ r₀ r₁) (hback : BackCut less l r back l₂ l₃ r₂ r₃)
    {i j : Nat} (hi : l₀.length + i = l₂.length) (hj : r₀.length + j = r₂.length)
    (hend : i = 0 ∨ j = 0) :
    Sorts less (l ++ r) (front ++ (l₁.take i ++ r₁.take j) ++ back) := by
  obtain ⟨rfl, rfl⟩ := eq_append_take_of_append_eq (hfront.left.symm.trans hback.left) hi
  obtain ⟨rfl, rfl⟩ := eq_append_take_of_append_eq (hfront.right.symm.trans hback.right) hj
  rw [← List.take_append_drop i l₁, ← List.take_append_drop j r₁] at hfront
  refine sorts_of_meeting hl hr hfront hback (hend.imp ?_ ?_)
  · rintro rfl
    exact List.take_zero
  · rintro rfl
    exact List.take_zero

end Ends

theorem sound_mergeBothEnds (hl : Ordered less l) (hr : Ordered less r)
    (hlength : l.length ≤ r.length) (hgap : r.length ≤ l.length + 1) :
    Sound (WeakOrder less) (Sorts less (l ++ r)) (mergeBothEnds less l r) := by
  obtain ⟨l₀, r₀, hfront, hmost, hdone⟩ := exists_cut hl hr l.length
  obtain ⟨r₃, l₃, hback, hmost', hdone'⟩ := exists_cut hr.reverse hl.reverse l.length
  unfold mergeBothEnds
  generalize mergeFront less l.length l r = forward at hfront hmost hdone ⊢
  generalize mergeFront (flip less) l.length r.reverse l.reverse = backward at hback hmost' hdone' ⊢
  obtain ⟨front, l₁, r₁⟩ := forward
  obtain ⟨back, r₂, l₂⟩ := backward
  dsimp only at hfront hmost hdone hback hmost' hdone' ⊢
  have hlengths := hfront.length_taken
  have hlengths' := hback.length_taken
  have hback := hback.back
  have hl₀ := congrArg List.length hfront.left
  have hr₀ := congrArg List.length hfront.right
  have hl₂ := congrArg List.length hback.left
  have hr₂ := congrArg List.length hback.right
  simp only [List.length_append, List.length_reverse] at hl₀ hr₀ hl₂ hr₂
  have hfirst : l₀.length + r₀.length = l.length := by
    rcases hdone with hall | rfl | rfl
    · omega
    · rw [List.length_nil] at hl₀
      omega
    · rw [List.length_nil] at hr₀
      omega
  have hlast : l₃.length + r₃.length = l.length := by
    rcases hdone' with hall | rfl | rfl
    · omega
    · rw [List.length_nil] at hr₂
      omega
    · rw [List.length_nil] at hl₂
      omega
  split
  · next hused =>
      have hmeeting := sorts_of_lengths hl hr hfront hback (i := 0) (j := r.length - l.length)
        (by simp only [List.length_reverse]; omega) (by simp only [List.length_reverse]; omega)
        (.inl rfl)
      exact .pure hmeeting
  split
  · next hused =>
      have hmeeting := sorts_of_lengths hl hr hfront hback (i := r.length - l.length) (j := 0)
        (by simp only [List.length_reverse]; omega) (by simp only [List.length_reverse]; omega)
        (.inr rfl)
      rw [List.take_zero, List.append_nil] at hmeeting
      exact .pure hmeeting
  · next hused hused' =>
      intro hless
      have hends := length_of_ends hless hfront hback hlength hfirst
        (by simp only [List.length_reverse]; omega)
      rw [List.length_reverse] at hends
      omega

theorem sound_sortShort (less : α → α → Bool) (l : List α) :
    Sound (WeakOrder less) (Sorts less l) (sortShort less l) := by
  have hfirst := sorts_sortHalf less (8 ≤ l.length) (l.take (l.length / 2))
  have hsecond := sorts_sortHalf less (8 ≤ l.length) (l.drop (l.length / 2))
  have hlength := hfirst.rearranges.perm.length_eq
  have hlength' := hsecond.rearranges.perm.length_eq
  rw [List.length_take] at hlength
  rw [List.length_drop] at hlength'
  have hhalves := hfirst.rearranges.append hsecond.rearranges
  rw [List.take_append_drop] at hhalves
  refine (sound_mergeBothEnds hfirst.ordered hsecond.ordered ?_ ?_).mono fun _ => .trans hhalves
  · omega
  · omega

end BlockOrder.RunSort
