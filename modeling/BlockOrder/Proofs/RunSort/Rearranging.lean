import BlockOrder.RunSort
import Mathlib.Data.List.Basic

/-!
# Rearranging by comparisons

What a sort has to achieve: the elements are permuted, whatever is decided by single comparisons
holds between those that come earlier and those that come later, and elements that compare equal
keep their order, provided that equality and order make sense.
-/

namespace BlockOrder

/-! ## Results that may be missing -/

/-- The result has a property, and there is one if comparisons are `consistent`. -/
def Sound {α : Type} (consistent : Prop) (P : α → Prop) : Except Inconsistent α → Prop
  | .ok a => P a
  | .error _ => ¬ consistent

namespace Sound

variable {α β : Type} {consistent consistent' : Prop} {P : α → Prop} {Q : β → Prop}
  {x : Except Inconsistent α} {f : α → Except Inconsistent β}

theorem pure {a : α} (ha : P a) : Sound consistent P (Pure.pure a) := ha

theorem bind (hx : Sound consistent P x) (hf : ∀ a, P a → Sound consistent Q (f a)) :
    Sound consistent Q (x >>= f) := by
  cases x with
  | ok a => exact hf a hx
  | error _ => exact hx

theorem map {g : α → β} (hx : Sound consistent P x) (h : ∀ a, P a → Q (g a)) :
    Sound consistent Q (x.map g) := by
  cases x with
  | ok a => exact h a hx
  | error _ => exact hx

theorem and {P' : α → Prop} (hx : Sound consistent P x) (hx' : Sound consistent P' x) :
    Sound consistent (fun a => P a ∧ P' a) x := by
  cases x with
  | ok _ => exact ⟨hx, hx'⟩
  | error _ => exact hx

theorem mono {P' : α → Prop} (hx : Sound consistent P x) (h : ∀ a, P a → P' a) :
    Sound consistent P' x := by
  cases x with
  | ok a => exact h a hx
  | error _ => exact hx

theorem of_imp (hx : Sound consistent P x) (h : consistent' → consistent) :
    Sound consistent' P x := by
  cases x with
  | ok _ => exact hx
  | error _ => exact fun h' => hx (h h')

theorem exists_ok (hx : Sound consistent P x) (h : consistent) : ∃ a, x = .ok a ∧ P a := by
  cases x with
  | ok a => exact ⟨a, rfl, hx⟩
  | error _ => exact absurd h hx

end Sound

namespace RunSort

variable {α : Type} {less : α → α → Bool}

/-! ## Orders -/

/-- A comparison makes sense if it is a strict order and being incomparable is transitive. -/
structure WeakOrder (less : α → α → Bool) : Prop where
  asymm : ∀ {a b}, less a b = true → less b a = false
  trans : ∀ {a b c}, less b a = false → less c b = false → less c a = false

/-- Every comparison of two elements decides how they are related: one way strictly, the other way
weakly. -/
structure Decides (less : α → α → Bool) (strict weak : α → α → Prop) : Prop where
  of_less : ∀ {a b}, less a b = true → strict a b
  of_not_less : ∀ {a b}, less a b = false → weak b a
  weaken : ∀ {a b}, strict a b → weak a b
  trans : ∀ {a b c}, weak a b → weak b c → weak a c
  strict_trans : ∀ {a b c}, strict a b → weak b c → strict a c
  trans_strict : ∀ {a b c}, weak a b → strict b c → strict a c

theorem WeakOrder.decides (h : WeakOrder less) :
    Decides less (fun a b => less a b = true) fun a b => less b a = false where
  of_less hab := hab
  of_not_less hab := hab
  weaken := h.asymm
  trans := h.trans
  strict_trans {a b c} hab hbc := by
    by_contra hac
    rw [h.trans hbc (Bool.eq_false_iff.mpr hac)] at hab
    cases hab
  trans_strict {a b c} hab hbc := by
    by_contra hac
    rw [h.trans (Bool.eq_false_iff.mpr hac) hab] at hbc
    cases hbc

section Decides

variable {strict weak : α → α → Prop} (h : Decides less strict weak)
include h

theorem Decides.flip : Decides (flip less) (flip strict) (flip weak) where
  of_less := h.of_less
  of_not_less := h.of_not_less
  weaken := h.weaken
  trans hab hbc := h.trans hbc hab
  strict_trans hab hbc := h.trans_strict hbc hab
  trans_strict hab hbc := h.strict_trans hbc hab

theorem Decides.refl (a : α) : weak a a := by
  cases haa : less a a with
  | false => exact h.of_not_less haa
  | true => exact h.weaken (h.of_less haa)

end Decides

theorem WeakOrder.irrefl (h : WeakOrder less) (a : α) : less a a = false := by
  cases haa : less a a with
  | false => rfl
  | true => exact haa ▸ h.asymm haa

/-- Whatever comparisons decide holds between earlier and later elements. -/
def Ordered (less : α → α → Bool) (l : List α) : Prop :=
  ∀ strict weak, Decides less strict weak → l.Pairwise weak

theorem Ordered.reverse {l : List α} (h : Ordered less l) : Ordered (flip less) l.reverse := by
  intro strict weak hdecides
  rw [List.pairwise_reverse]
  exact h _ _ hdecides.flip

theorem Ordered.sublist {l l' : List α} (h : Ordered less l) (hl : l'.Sublist l) :
    Ordered less l' := fun strict weak hdecides => (h strict weak hdecides).sublist hl

theorem ordered_nil (less : α → α → Bool) : Ordered less [] := fun _ _ _ => .nil

/-! ## Rearrangements -/

/-- The second list is a permutation of the first one, in which elements keep their order if none of
them has to come before another. -/
structure Rearranges (less : α → α → Bool) (l l' : List α) : Prop where
  perm : l'.Perm l
  stable : ∀ strict weak, Decides less strict weak → ∀ q : α → Bool,
    (∀ a b, q a = true → q b = true → ¬ strict a b) → l'.filter q = l.filter q

namespace Rearranges

variable {l l' l'' r r' : List α}

theorem refl (less : α → α → Bool) (l : List α) : Rearranges less l l :=
  ⟨.refl l, fun _ _ _ _ _ => rfl⟩

theorem trans (h : Rearranges less l l') (h' : Rearranges less l' l'') : Rearranges less l l'' where
  perm := h'.perm.trans h.perm
  stable strict weak hdecides q hq :=
    (h'.stable strict weak hdecides q hq).trans (h.stable strict weak hdecides q hq)

theorem append (h : Rearranges less l l') (h' : Rearranges less r r') :
    Rearranges less (l ++ r) (l' ++ r') := by
  refine ⟨h.perm.append h'.perm, fun strict weak hdecides q hq => ?_⟩
  rw [List.filter_append, List.filter_append, h.stable strict weak hdecides q hq,
    h'.stable strict weak hdecides q hq]

theorem append_left (l : List α) (h : Rearranges less r r') :
    Rearranges less (l ++ r) (l ++ r') := (refl less l).append h

theorem append_right (h : Rearranges less l l') (r : List α) :
    Rearranges less (l ++ r) (l' ++ r) := h.append (refl less r)

theorem reverse (h : Rearranges less l l') : Rearranges (flip less) l.reverse l'.reverse := by
  refine ⟨?_, fun strict weak hdecides q hq => ?_⟩
  · exact ((List.reverse_perm l').trans h.perm).trans (List.reverse_perm l).symm
  · rw [List.filter_reverse, List.filter_reverse,
      h.stable _ _ hdecides.flip q fun a b ha hb => hq b a hb ha]

/-- Two stretches may change places if every element of the second has to come before every element
of the first. -/
theorem swap (h : ∀ strict weak, Decides less strict weak → ∀ a ∈ l, ∀ b ∈ r, strict b a) :
    Rearranges less (l ++ r) (r ++ l) := by
  refine ⟨List.perm_append_comm, fun strict weak hdecides q hq => ?_⟩
  rw [List.filter_append, List.filter_append]
  have hnone : l.filter q = [] ∨ r.filter q = [] := by
    by_contra hboth
    obtain ⟨hl, hr⟩ := not_or.mp hboth
    obtain ⟨a, ha⟩ := List.exists_mem_of_ne_nil _ hl
    obtain ⟨b, hb⟩ := List.exists_mem_of_ne_nil _ hr
    rw [List.mem_filter] at ha hb
    exact hq b a hb.2 ha.2 (h strict weak hdecides a ha.1 b hb.1)
  rcases hnone with hnil | hnil
  · rw [hnil, List.nil_append, List.append_nil]
  · rw [hnil, List.nil_append, List.append_nil]

theorem to_front {b : α} (h : ∀ strict weak, Decides less strict weak → ∀ a ∈ l, strict b a) :
    Rearranges less (l ++ [b]) (b :: l) :=
  swap fun strict weak hdecides a ha b' hb => by
    obtain rfl := List.mem_singleton.mp hb
    exact h strict weak hdecides a ha

theorem to_back {a : α} (h : ∀ strict weak, Decides less strict weak → ∀ b ∈ l, strict b a) :
    Rearranges less (a :: l) (l ++ [a]) :=
  swap (l := [a]) fun strict weak hdecides a' ha b hb => by
    obtain rfl := List.mem_singleton.mp ha
    exact h strict weak hdecides b hb

/-- A stretch in which every element has to come before all that are before it may be turned
round. -/
theorem turn (h : ∀ strict weak, Decides less strict weak → l.Pairwise fun a b => strict b a) :
    Rearranges less l l.reverse := by
  induction l with
  | nil => exact refl less []
  | cons x l ih =>
      have hrest : Rearranges less l l.reverse :=
        ih fun strict weak hdecides => (h strict weak hdecides).of_cons
      rw [List.reverse_cons]
      refine (hrest.append_left [x]).trans (to_back fun strict weak hdecides b hb => ?_)
      exact List.rel_of_pairwise_cons (h strict weak hdecides) (List.mem_reverse.mp hb)

/-- The elements with a property may come before the others if they have to. -/
theorem partition {p : α → Bool} (h : ∀ strict weak, Decides less strict weak →
      ∀ a b, p a = true → p b = false → strict a b) (l : List α) :
    Rearranges less l (l.filter p ++ l.filter (!p ·)) := by
  induction l with
  | nil => exact refl less []
  | cons x l ih =>
      cases hx : p x with
      | true =>
          rw [List.filter_cons_of_pos hx, List.filter_cons_of_neg (by simp [hx])]
          exact ih.append_left [x]
      | false =>
          rw [List.filter_cons_of_neg (by simp [hx]), List.filter_cons_of_pos (by simp [hx])]
          have hback : Rearranges less (x :: l.filter p) (l.filter p ++ [x]) :=
            to_back fun strict weak hdecides b hb =>
              h strict weak hdecides b x (List.mem_filter.mp hb).2 hx
          have hmoved := (ih.append_left [x]).trans (hback.append_right (l.filter (!p ·)))
          rwa [List.append_assoc] at hmoved

end Rearranges

/-- The second list is the first one in order. -/
structure Sorts (less : α → α → Bool) (l l' : List α) : Prop where
  rearranges : Rearranges less l l'
  ordered : Ordered less l'

theorem Sorts.trans {l l' l'' : List α} (h : Rearranges less l l') (h' : Sorts less l' l'') :
    Sorts less l l'' := ⟨h.trans h'.rearranges, h'.ordered⟩

theorem Sorts.reverse {l l' : List α} (h : Sorts less l l') :
    Sorts (flip less) l.reverse l'.reverse := ⟨h.rearranges.reverse, h.ordered.reverse⟩

/-- Neither element is less than the other. -/
def tied (less : α → α → Bool) (a b : α) : Bool := !less a b && !less b a

theorem WeakOrder.not_less_of_tied (h : WeakOrder less) {a b c : α} (hb : tied less a b = true)
    (hc : tied less a c = true) : ¬ less b c = true := by
  simp only [tied, Bool.and_eq_true, Bool.not_eq_true'] at hb hc
  rw [h.trans hc.1 hb.2]
  exact Bool.false_ne_true

section Unique

variable {r r' : List α} (hless : WeakOrder less)
include hless

theorem tied_self (a : α) : tied less a a = true := by simp [tied, hless.irrefl]

theorem mem_of_filter_tied (hfilter : ∀ a, r.filter (tied less a) = r'.filter (tied less a)) {a : α}
    (ha : a ∈ r) : a ∈ r' := by
  have ha' := List.mem_filter.mpr ⟨ha, tied_self hless a⟩
  rw [hfilter] at ha'
  exact (List.mem_filter.mp ha').1

/-- Lists in order are the same if they have the same elements of every kind in the same order. -/
theorem eq_of_filter_tied (hr : r.Pairwise fun a b => less b a = false)
    (hr' : r'.Pairwise fun a b => less b a = false)
    (hfilter : ∀ a, r.filter (tied less a) = r'.filter (tied less a)) : r = r' := by
  induction r generalizing r' with
  | nil =>
      cases r' with
      | nil => rfl
      | cons y r' => cases mem_of_filter_tied hless (fun a => (hfilter a).symm) List.mem_cons_self
  | cons x r ih =>
      cases r' with
      | nil => cases mem_of_filter_tied hless hfilter List.mem_cons_self
      | cons y r' =>
          obtain ⟨hx, htail⟩ := List.pairwise_cons.mp hr
          obtain ⟨hy, htail'⟩ := List.pairwise_cons.mp hr'
          -- each head is in the other list, so neither is less than the other
          have hyx : less y x = false := by
            rcases List.mem_cons.mp (mem_of_filter_tied hless (fun a => (hfilter a).symm)
              List.mem_cons_self) with rfl | hyr
            · exact hless.irrefl y
            · exact hx y hyr
          have hxy : less x y = false := by
            rcases List.mem_cons.mp (mem_of_filter_tied hless hfilter List.mem_cons_self) with
              rfl | hxr
            · exact hless.irrefl x
            · exact hy x hxr
          have htied : tied less x y = true := by simp [tied, hxy, hyx]
          have hheads := hfilter x
          rw [List.filter_cons_of_pos (tied_self hless x), List.filter_cons_of_pos htied] at hheads
          obtain rfl := (List.cons.inj hheads).1
          have htails : ∀ a, r.filter (tied less a) = r'.filter (tied less a) := by
            intro a
            have ha := hfilter a
            simp only [List.filter_cons] at ha
            split at ha
            · exact (List.cons.inj ha).2
            · exact ha
          rw [ih htail htail' htails]

/-- There is only one list in order in which elements that compare equal have the order they
had. -/
theorem Sorts.unique {l : List α} (h : Sorts less l r) (h' : Sorts less l r') : r = r' := by
  refine eq_of_filter_tied hless (h.ordered _ _ hless.decides) (h'.ordered _ _ hless.decides)
    fun a => ?_
  have htied : ∀ b c, tied less a b = true → tied less a c = true → ¬ less b c = true :=
    fun b c => hless.not_less_of_tied
  exact (h.rearranges.stable _ _ hless.decides _ htied).trans
    (h'.rearranges.stable _ _ hless.decides _ htied).symm

end Unique

end RunSort

end BlockOrder
