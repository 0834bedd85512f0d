import Mathlib.Data.List.Pairwise
import Mathlib.Order.Interval.Set.UnorderedInterval
import Mathlib.Order.Lattice.Nat
import BlockOrder.Proofs.Lines.Faithful

/-!
# Sets of lines are kept in canonical form

Lines are added to a set, and lines of it are replaced by others, which moves the lines behind
them.  Whatever is done to it, the spans of the set ascend with lines between them.  So the lines of
a span that is in the set are all in one span of it, and asking a single span is enough.
-/

namespace BlockOrder

namespace LineSpan

variable {s t u : LineSpan} {n : Nat}

/-- The second span starts after the first one, with a line between them at least. -/
def Before (s t : LineSpan) : Prop := s.last + 1 < t.first

theorem Before.trans (hst : s.Before t) (ht : t.Ordered) (htu : t.Before u) : s.Before u := by
  unfold Before LineSpan.Ordered at *
  omega

theorem touches_iff : s.touches t = true ↔ ¬ s.Before t ∧ ¬ t.Before s := by
  simp only [touches, Bool.and_eq_true, decide_eq_true_eq, Before, Nat.not_lt]
  exact and_comm

theorem holds_between {a b : Nat} : (between a b).Holds n ↔ n ∈ Set.uIcc a b := by
  rw [Set.mem_uIcc]
  unfold between Holds
  split <;> simp only <;> omega

theorem holds_hull (h : s.touches t = true) : (s.hull t).Holds n ↔ s.Holds n ∨ t.Holds n := by
  refine ⟨holds_of_hull h, ?_⟩
  unfold Holds hull
  simp only
  omega

end LineSpan

namespace LineSet

open LineSpan

variable {spans : List LineSpan} {new s : LineSpan} {n : Nat}

theorem covers_cons : Covers ⟨s :: spans⟩ n ↔ s.Holds n ∨ Covers ⟨spans⟩ n := by
  simp [Covers]

/-- The spans ascend, none of them is empty, and there are lines between them. -/
structure Canonical (spans : List LineSpan) : Prop where
  ordered : ∀ s ∈ spans, s.Ordered
  before : spans.Pairwise Before

theorem canonical_nil : Canonical [] := ⟨nofun, .nil⟩

theorem canonical_cons :
    Canonical (s :: spans) ↔ s.Ordered ∧ (∀ t ∈ spans, s.Before t) ∧ Canonical spans := by
  constructor
  · intro h
    obtain ⟨hs, hordered⟩ := List.forall_mem_cons.mp h.ordered
    obtain ⟨hbefore, hrest⟩ := List.pairwise_cons.mp h.before
    exact ⟨hs, hbefore, hordered, hrest⟩
  · rintro ⟨hs, hbefore, hordered, hrest⟩
    exact ⟨List.forall_mem_cons.mpr ⟨hs, hordered⟩, List.pairwise_cons.mpr ⟨hbefore, hrest⟩⟩

theorem Canonical.trichotomy (h : Canonical spans) {s t : LineSpan} (hs : s ∈ spans)
    (ht : t ∈ spans) : s = t ∨ s.Before t ∨ t.Before s := by
  by_cases hst : s = t
  · exact .inl hst
  · have : Std.Symm fun a b : LineSpan => a.Before b ∨ b.Before a := ⟨fun _ _ => Or.symm⟩
    have hpairs : spans.Pairwise fun a b => a.Before b ∨ b.Before a := h.before.imp .inl
    exact .inr (hpairs.forall hs ht hst)

/-! ## Adding lines -/

theorem apart_eq_self (hbefore : ∀ t ∈ spans, new.Before t) : apart new spans = spans := by
  induction spans with
  | nil => rfl
  | cons s spans ih =>
      obtain ⟨hfirst, hmore⟩ := List.forall_mem_cons.mp hbefore
      have htouches : ¬ s.touches new = true := fun h => (touches_iff.mp h).2 hfirst
      rw [apart, if_neg htouches, ih hmore]

theorem before_of_mem_insertSpan (hnew : new.Ordered) (hspans : ∀ t ∈ spans, t.Ordered)
    (hbefore : ∀ t ∈ new :: spans, s.Before t) : ∀ t ∈ insertSpan new spans, s.Before t := by
  intro t ht
  obtain ⟨hordered, hlines⟩ := insertSpan_spec hnew hspans t ht
  obtain ⟨hfirst, hmore⟩ := List.forall_mem_cons.mp hbefore
  rcases hlines t.first ⟨Nat.le_refl _, hordered⟩ with hholds | ⟨u, hu, hholds⟩
  · exact Nat.lt_of_lt_of_le hfirst hholds.1
  · exact Nat.lt_of_lt_of_le (hmore u hu) hholds.1

/-- A span takes its place among others.  What it touches becomes part of it, and as soon as it
comes before a span it comes before all that follow. -/
theorem insertSpan_canonical (hnew : new.Ordered) (h : Canonical spans) :
    Canonical (insertSpan new spans) ∧
      ∀ n, Covers ⟨insertSpan new spans⟩ n ↔ new.Holds n ∨ Covers ⟨spans⟩ n := by
  induction spans generalizing new with
  | nil => exact ⟨canonical_cons.mpr ⟨hnew, nofun, canonical_nil⟩, fun n => covers_cons⟩
  | cons s spans ih =>
      obtain ⟨hs, hbefore, hrest⟩ := canonical_cons.mp h
      rw [insertSpan]
      by_cases htouches : s.touches new = true
      · rw [if_pos htouches]
        obtain ⟨hcanonical, hlines⟩ := ih (ordered_hull hs) hrest
        refine ⟨hcanonical, fun n => ?_⟩
        rw [hlines, holds_hull htouches, covers_cons, or_assoc, or_left_comm]
      rw [if_neg htouches]
      rw [touches_iff, ← not_or, not_not] at htouches
      by_cases hlast : s.last < new.first
      · rw [if_pos hlast]
        have hnext : s.Before new := by
          unfold Before LineSpan.Ordered at *
          omega
        obtain ⟨hcanonical, hlines⟩ := ih hnew hrest
        have hall := before_of_mem_insertSpan hnew hrest.ordered
          (List.forall_mem_cons.mpr ⟨hnext, hbefore⟩)
        refine ⟨canonical_cons.mpr ⟨hs, hall, hcanonical⟩, fun n => ?_⟩
        rw [covers_cons, hlines, covers_cons, or_left_comm]
      · rw [if_neg hlast]
        have hnext : new.Before s := by
          unfold Before at *
          omega
        have hmore : ∀ t ∈ spans, new.Before t := fun t ht => hnext.trans hs (hbefore t ht)
        rw [apart_eq_self hmore]
        exact ⟨canonical_cons.mpr ⟨hnew, List.forall_mem_cons.mpr ⟨hnext, hmore⟩, h⟩,
          fun n => covers_cons⟩

/-! ## Replacing lines -/

section Replacing

variable {first last count : Nat}

/-- Lines that are not neighbours do not become neighbours, as long as lines are not replaced by
none. -/
theorem Origin.gap (hle : first ≤ last) (hcount : 1 ≤ count) {m m' n n' : Nat}
    (hm : Origin first last count m m') (hn : Origin first last count n n') (h : m + 1 < n) :
    m' + 1 < n' := by
  unfold Origin at hm hn
  omega

theorem exists_holds_pieces (hle : first ≤ last)
    (hroom : last < s.last → s.last + (first + count) ≤ lastLineNumber + (last + 1)) {n' : Nat}
    (hn : s.Holds n) (horigin : Origin first last count n n') :
    ∃ t ∈ pieces first last (count - (last - first + 1 : Nat)) s, t.Holds n' := by
  unfold Holds at hn
  -- the lines from `low` on, where the line before `low` is replaced or not in the span
  have hlater : ∀ low, last < low → low ≤ n → n' + (last + 1) = n + (first + count) →
      (between (moved (count - (last - first + 1 : Nat)) low)
        (moved (count - (last - first + 1 : Nat)) s.last)).Holds n' := by
    intro low hlow hle' heq
    have hroom := hroom (by omega)
    rw [moved_eq hle hlow (by omega), moved_eq hle (by omega) hroom, holds_between, Set.mem_uIcc]
    omega
  unfold Origin at horigin
  unfold pieces
  split
  · exact ⟨s, List.mem_singleton_self s, by unfold Holds; omega⟩
  split
  · exact ⟨_, List.mem_singleton_self _, hlater s.first ‹_› hn.1 (by omega)⟩
  rcases horigin with ⟨hlt, rfl⟩ | ⟨hlt, heq⟩
  · refine ⟨between s.first (first - 1), List.mem_append_left _ ?_, ?_⟩
    · rw [if_pos (by omega)]
      exact List.mem_singleton_self _
    · rw [holds_between, Set.mem_uIcc]
      omega
  · refine ⟨_, List.mem_append_right _ ?_, hlater (last + 1) (Nat.lt_succ_self last) hlt heq⟩
    rw [if_pos (by omega)]
    exact List.mem_singleton_self _

theorem pairwise_pieces (hle : first ≤ last) (hcount : 1 ≤ count)
    (hroom : last < s.last → s.last + (first + count) ≤ lastLineNumber + (last + 1)) :
    (pieces first last (count - (last - first + 1 : Nat)) s).Pairwise Before := by
  unfold pieces
  split
  · exact List.pairwise_singleton _ _
  split
  · exact List.pairwise_singleton _ _
  refine List.pairwise_append.mpr ⟨?_, ?_, ?_⟩
  · split <;> simp
  · split <;> simp
  · -- one piece on each side of the replaced lines
    intro x hx y hy
    split at hx
    · split at hy
      · next hfirst hlast =>
          obtain rfl := List.mem_singleton.mp hx
          obtain rfl := List.mem_singleton.mp hy
          have hroom := hroom hlast
          rw [moved_eq hle (Nat.lt_succ_self last) (by omega), moved_eq hle hlast hroom,
            between_of_le (by omega), between_of_le (by omega)]
          unfold Before
          simp only
          omega
      · cases hy
    · cases hx

theorem flatMap_pieces_canonical (hle : first ≤ last) (hcount : 1 ≤ count) (h : Canonical spans)
    (hroom : ∀ s ∈ spans, last < s.last →
      s.last + (first + count) ≤ lastLineNumber + (last + 1)) :
    Canonical (spans.flatMap (pieces first last (count - (last - first + 1 : Nat)))) ∧
      ∀ n', Covers ⟨spans.flatMap (pieces first last (count - (last - first + 1 : Nat)))⟩ n' ↔
        ∃ n, Covers ⟨spans⟩ n ∧ Origin first last count n n' := by
  have hpieces := fun s (hs : s ∈ spans) => pieces_spec hle (h.ordered s hs) (hroom s hs)
  refine ⟨⟨?_, ?_⟩, ?_⟩
  · intro t ht
    obtain ⟨s, hs, ht⟩ := List.mem_flatMap.mp ht
    exact (hpieces s hs t ht).1
  · refine List.pairwise_flatMap.mpr ⟨fun s hs => pairwise_pieces hle hcount (hroom s hs), ?_⟩
    refine h.before.imp_of_mem fun {s t} hs ht hbefore x hx y hy => ?_
    obtain ⟨hxordered, hxlines⟩ := hpieces s hs x hx
    obtain ⟨hyordered, hylines⟩ := hpieces t ht y hy
    obtain ⟨m, hm, hmorigin⟩ := hxlines x.last ⟨hxordered, Nat.le_refl _⟩
    obtain ⟨n, hn, hnorigin⟩ := hylines y.first ⟨Nat.le_refl _, hyordered⟩
    refine hmorigin.gap hle hcount hnorigin ?_
    exact Nat.lt_of_le_of_lt (Nat.succ_le_succ hm.2) (Nat.lt_of_lt_of_le hbefore hn.1)
  · intro n'
    constructor
    · rintro ⟨t, ht, hn'⟩
      obtain ⟨s, hs, ht⟩ := List.mem_flatMap.mp ht
      obtain ⟨n, hn, horigin⟩ := (hpieces s hs t ht).2 n' hn'
      exact ⟨n, ⟨s, hs, hn⟩, horigin⟩
    · rintro ⟨n, ⟨s, hs, hn⟩, horigin⟩
      obtain ⟨t, ht, hn'⟩ := exists_holds_pieces hle (hroom s hs) hn horigin
      exact ⟨t, List.mem_flatMap.mpr ⟨s, hs, ht⟩, hn'⟩

end Replacing

/-! ## Asking for lines -/

def lines (s : LineSet) : Set Nat := { n | s.Covers n }

theorem Canonical.contains_iff {s : LineSet} (h : Canonical s.spans) (x y : Nat) :
    s.contains (between x y) = true ↔ Set.uIcc x y ⊆ s.lines := by
  constructor
  · intro hcontains n hn
    exact covers_of_contains hcontains (holds_between.mpr hn)
  · intro hsubset
    have hcovers : ∀ n, (between x y).Holds n → s.Covers n :=
      fun n hn => hsubset (holds_between.mp hn)
    obtain ⟨t, ht, hfirst⟩ := hcovers (between x y).first ⟨Nat.le_refl _, ordered_between x y⟩
    have hordered := h.ordered t ht
    have hlast : (between x y).last ≤ t.last := by
      rw [← Nat.not_lt]
      intro hlt
      -- the line after `t` would be in a span that is not `t`, not before it and not after it
      obtain ⟨u, hu, hnext⟩ := hcovers (t.last + 1)
        ⟨Nat.le_succ_of_le hfirst.2, hlt⟩
      rcases h.trichotomy ht hu with rfl | hbefore | hbefore
      · exact Nat.not_succ_le_self _ hnext.2
      · exact Nat.not_lt.mpr hnext.1 hbefore
      · unfold Holds Before LineSpan.Ordered at *
        omega
    refine List.any_eq_true.mpr ⟨t, ht, ?_⟩
    simp only [LineSpan.contains, Bool.and_eq_true, decide_eq_true_eq]
    exact ⟨hfirst.1, hlast⟩

/-! ## Any operations -/

/-- What is done to a set of lines. -/
inductive Operation where
  /-- The lines between two given ones are added. -/
  | add (a b : Nat)
  /-- The lines from `first` to `last` are replaced by `count` lines that are not in the set. -/
  | replace (first last count : Nat)
  | clear

namespace Operation

def apply : Operation → LineSet → LineSet
  | add a b, s => s.add (between a b)
  | replace first last count, s => s.removeAndShift first last (count - (last - first + 1 : Nat))
  | clear, _ => .empty

/-- The operation on lines as such. -/
def act : Operation → Set Nat → Set Nat
  | add a b, lines => lines ∪ Set.uIcc a b
  | replace first last count, lines =>
      { n | n ∈ lines ∧ n < first } ∪
        { n | ∃ m ∈ lines, last < m ∧ (n : Int) = m + (count - (last - first + 1 : Nat)) }
  | clear, _ => ∅

/-- Lines are replaced by one line at least, and none is moved beyond the last line number. -/
def Fits : Operation → Set Nat → Prop
  | replace first last count, lines => first ≤ last ∧ 1 ≤ count ∧
      ∀ n ∈ lines, last < n → (n + (count - (last - first + 1 : Nat)) : Int) ≤ lastLineNumber
  | _, _ => True

theorem apply_canonical (op : Operation) {s : LineSet} (h : Canonical s.spans)
    (hfits : op.Fits s.lines) :
    Canonical (op.apply s).spans ∧ (op.apply s).lines = op.act s.lines := by
  cases op with
  | add a b =>
      obtain ⟨hcanonical, hlines⟩ := insertSpan_canonical (ordered_between a b) h
      refine ⟨hcanonical, Set.ext fun n => (hlines n).trans ?_⟩
      rw [holds_between, or_comm]
      rfl
  | replace first last count =>
      obtain ⟨hle, hcount, hmoved⟩ := hfits
      have hroom : ∀ t ∈ s.spans, last < t.last →
          t.last + (first + count) ≤ lastLineNumber + (last + 1) := by
        intro t ht hlast
        have hbound := hmoved t.last ⟨t, ht, h.ordered t ht, Nat.le_refl _⟩ hlast
        omega
      obtain ⟨hcanonical, hlines⟩ := flatMap_pieces_canonical hle hcount h hroom
      refine ⟨hcanonical, Set.ext fun n' => (hlines n').trans ?_⟩
      constructor
      · rintro ⟨n, hn, ⟨hlt, rfl⟩ | ⟨hlt, heq⟩⟩
        · exact .inl ⟨hn, hlt⟩
        · exact .inr ⟨n, hn, hlt, by omega⟩
      · rintro (⟨hn, hlt⟩ | ⟨n, hn, hlt, heq⟩)
        · exact ⟨n', hn, .inl ⟨hlt, rfl⟩⟩
        · exact ⟨n, hn, .inr ⟨hlt, by omega⟩⟩
  | clear => exact ⟨canonical_nil, Set.eq_empty_of_forall_notMem fun n ⟨t, ht, _⟩ => nomatch ht⟩

end Operation

/-- A set of lines after operations on the empty set, and the lines that these leave. -/
inductive Reaches : LineSet → Set Nat → Prop
  | empty : Reaches .empty ∅
  | step {s : LineSet} {lines : Set Nat} (op : Operation) (reaches : Reaches s lines)
      (fits : op.Fits lines) : Reaches (op.apply s) (op.act lines)

theorem Reaches.canonical {s : LineSet} {lines : Set Nat} (h : Reaches s lines) :
    Canonical s.spans ∧ s.lines = lines := by
  induction h with
  | empty => exact Operation.clear.apply_canonical (s := .empty) canonical_nil trivial
  | step op _ fits ih =>
      obtain ⟨hcanonical, rfl⟩ := ih
      exact op.apply_canonical hcanonical fits

/-- After any operations the spans of a set are in canonical form, they have the lines that the
operations leave, the next operation does to these lines what it should, and lines are in the set
if and only if one span has them all. -/
theorem Reaches.canonical_contains {s : LineSet} {lines : Set Nat} (h : Reaches s lines) :
    Canonical s.spans ∧ s.lines = lines ∧
      (∀ op : Operation, op.Fits s.lines → (op.apply s).lines = op.act s.lines) ∧
      ∀ x y, s.contains (between x y) = true ↔ Set.uIcc x y ⊆ s.lines := by
  obtain ⟨hcanonical, hlines⟩ := h.canonical
  refine ⟨hcanonical, hlines, ?_, hcanonical.contains_iff⟩
  intro op hfits
  exact (op.apply_canonical hcanonical hfits).2

/-- Two lines in the middle of a span are replaced by four. -/
theorem canonical_contains_of_split :
    let s := (Operation.replace 4 5 4).apply
      ((Operation.add 25 20).apply ((Operation.add 0 9).apply .empty))
    Reaches s ((Operation.replace 4 5 4).act
        ((Operation.add 25 20).act ((Operation.add 0 9).act ∅))) ∧
      s.spans = [⟨0, 3⟩, ⟨8, 11⟩, ⟨22, 27⟩] ∧
      Set.uIcc 8 11 ⊆ s.lines ∧ ¬ Set.uIcc 3 8 ⊆ s.lines := by
  intro s
  have hreaches : Reaches s ((Operation.replace 4 5 4).act
      ((Operation.add 25 20).act ((Operation.add 0 9).act ∅))) := by
    refine .step (.replace 4 5 4) (.step (.add 25 20) (.step (.add 0 9) .empty trivial) trivial) ?_
    refine ⟨by decide, by decide, ?_⟩
    intro n hn _
    simp only [Operation.act, Set.empty_union, Set.mem_union, Set.mem_uIcc] at hn
    simp only [lastLineNumber]
    omega
  have hcontains := hreaches.canonical_contains.2.2.2
  refine ⟨hreaches, by decide, (hcontains 8 11).mp (by decide), ?_⟩
  rw [← hcontains 3 8]
  decide

end LineSet

end BlockOrder
