import BlockOrder.Classifier.Basic
import BlockOrder.Proofs.Pattern.Extent
import BlockOrder.Proofs.Pattern.OnePass

/-!
# Stripping ends, and ends for good

Stripping takes out one match after the other until no pattern has a nonempty first match.  Every
match takes characters with it, so this ends after as many removals as the text has characters, if
not earlier, whatever the patterns are.  What is left is stripped already.
-/

namespace BlockOrder

namespace Span

variable {t : Text} {m : Span}

theorem cut_sublist (h : m.start ≤ m.stop) : (m.cut t).Sublist t := by
  have hrest : (t.take m.start ++ t.drop m.stop).Sublist (t.take m.start ++ t.drop m.start) :=
    (List.drop_sublist_drop_left t h).append_left _
  rwa [List.take_append_drop] at hrest

theorem length_cut_lt (h : m.start < m.stop) (hstop : m.stop ≤ t.length) :
    (m.cut t).length < t.length := by
  rw [cut, List.length_append, List.length_take, List.length_drop]
  omega

end Span

namespace Matcher

variable {patterns : List Matcher} {t : Text} {m : Span}

/-! ## The match that goes first -/

section

variable {f : Matcher → Option Span} {best : Option Span}

theorem foldl_earlier_eq_none :
    patterns.foldl (fun best p => Span.earlier best (f p)) best = none ↔
      best = none ∧ ∀ p ∈ patterns, f p = none := by
  induction patterns generalizing best with
  | nil => simp
  | cons p patterns ih =>
      have hfirst : Span.earlier best (f p) = none ↔ best = none ∧ f p = none := by
        cases best <;> cases f p <;> simp [Span.earlier, apply_ite (· = none)]
      rw [List.foldl_cons, ih, hfirst, List.forall_mem_cons, and_assoc]

theorem exists_of_foldl_earlier
    (h : patterns.foldl (fun best p => Span.earlier best (f p)) best = some m) :
    best = some m ∨ ∃ p ∈ patterns, f p = some m := by
  induction patterns generalizing best with
  | nil => exact .inl h
  | cons p patterns ih =>
      have hfirst : Span.earlier best (f p) = f p ∨ Span.earlier best (f p) = best := by
        cases best with
        | none => exact .inl rfl
        | some b =>
            cases f p with
            | none => exact .inr rfl
            | some m => exact ite_eq_or_eq _ _ _
      rcases ih h with hbest | ⟨q, hq, hm⟩
      · rcases hfirst with hfirst | hfirst
        · exact .inr ⟨p, List.mem_cons_self, hfirst.symm.trans hbest⟩
        · exact .inl (hfirst.symm.trans hbest)
      · exact .inr ⟨q, List.mem_cons_of_mem p hq, hm⟩

end

theorem earliest?_eq_foldl (patterns : List Matcher) (t : Text) :
    earliest? patterns t =
      patterns.foldl (fun best p => Span.earlier best ((p.find? t).filter (!·.isEmpty))) none :=
  earliest?_eq_earliestFrom? patterns t

theorem earliest?_eq_none_iff : earliest? patterns t = none ↔
    ∀ p ∈ patterns, ∀ m, p.find? t = some m → m.isEmpty = true := by
  rw [earliest?_eq_foldl, foldl_earlier_eq_none]
  simp [Option.filter_eq_none_iff]

theorem extent_of_earliest? (h : earliest? patterns t = some m) :
    m.start < m.stop ∧ m.stop ≤ t.length := by
  rw [earliest?_eq_foldl] at h
  obtain hnone | ⟨p, -, hm⟩ := exists_of_foldl_earlier h
  · cases hnone
  · obtain ⟨hfind, hempty⟩ := Option.filter_eq_some_iff.mp hm
    obtain ⟨hle, hlength⟩ := find?_extent hfind
    have hne : m.start ≠ m.stop := by simpa [Span.isEmpty] using hempty
    exact ⟨Nat.lt_of_le_of_ne hle hne, hlength⟩

theorem length_cut_of_earliest? (h : earliest? patterns t = some m) :
    (m.cut t).length < t.length := by
  obtain ⟨hlt, hstop⟩ := extent_of_earliest? h
  exact Span.length_cut_lt hlt hstop

/-! ## Removals one after the other -/

/-- Removals until there is nothing to remove: how many there are, the text they start from and the
text they leave. -/
inductive Strips (patterns : List Matcher) : (removals : Nat) → (t left : Text) → Prop
  | done {t : Text} (none : earliest? patterns t = none) : Strips patterns 0 t t
  | remove {n : Nat} {t left : Text} {m : Span} (first : earliest? patterns t = some m)
      (more : Strips patterns n (m.cut t) left) : Strips patterns (n + 1) t left

namespace Strips

variable {n k : Nat} {left left' : Text}

theorem unique (h : Strips patterns n t left) (h' : Strips patterns k t left') :
    k = n ∧ left' = left := by
  induction h generalizing k left' with
  | done hnone =>
      cases h' with
      | done => exact ⟨rfl, rfl⟩
      | remove hfirst _ => rw [hnone] at hfirst; cases hfirst
  | remove hfirst _ ih =>
      cases h' with
      | done hnone => rw [hnone] at hfirst; cases hfirst
      | remove hfirst' hmore =>
          obtain rfl := Option.some.inj (hfirst.symm.trans hfirst')
          obtain ⟨rfl, rfl⟩ := ih hmore
          exact ⟨rfl, rfl⟩

theorem length_le (h : Strips patterns n t left) : n + left.length ≤ t.length := by
  induction h with
  | done => exact Nat.le_of_eq (Nat.zero_add _)
  | remove hfirst _ ih =>
      have hcut := length_cut_of_earliest? hfirst
      omega

theorem sublist (h : Strips patterns n t left) : left.Sublist t := by
  induction h with
  | done => exact List.Sublist.refl _
  | remove hfirst _ ih =>
      exact ih.trans (Span.cut_sublist (Nat.le_of_lt (extent_of_earliest? hfirst).1))

theorem earliest?_eq_none (h : Strips patterns n t left) : earliest? patterns left = none := by
  induction h with
  | done hnone => exact hnone
  | remove _ _ ih => exact ih

end Strips

/-- There is enough fuel as long as there is some for every character. -/
theorem exists_strips_stripWithin {fuel : Nat} (h : t.length ≤ fuel) :
    ∃ n, Strips patterns n t (stripWithin patterns fuel t) := by
  induction fuel generalizing t with
  | zero =>
      refine ⟨0, .done (Option.eq_none_iff_forall_ne_some.mpr fun m hm => ?_)⟩
      have hcut := length_cut_of_earliest? hm
      omega
  | succ fuel ih =>
      rw [stripWithin]
      split
      · next hnone => exact ⟨0, .done hnone⟩
      · next m hfirst =>
          have hcut := length_cut_of_earliest? hfirst
          obtain ⟨n, hmore⟩ := ih (t := m.cut t) (by omega)
          exact ⟨n + 1, .remove hfirst hmore⟩

theorem exists_strips (patterns : List Matcher) (t : Text) :
    ∃ n, Strips patterns n t (strip patterns t) :=
  exists_strips_stripWithin (Nat.le_refl _)

theorem strip_strip (patterns : List Matcher) (t : Text) :
    strip patterns (strip patterns t) = strip patterns t := by
  obtain ⟨n, hstrips⟩ := exists_strips patterns t
  obtain ⟨k, hagain⟩ := exists_strips patterns (strip patterns t)
  exact ((Strips.done hstrips.earliest?_eq_none).unique hagain).2

/-- Stripping comes to an end after no more removals than the text has characters, in one way only.
It leaves a part of the text in which no pattern has a nonempty first match, and leaves that as it
is.  So comments, strings and both of them are removed once and for all. -/
theorem strip_fixpoint (patterns : List Matcher) (t : Text) :
    (∃ n ≤ t.length, ∀ k left, Strips patterns k t left ↔ k = n ∧ left = strip patterns t) ∧
      (strip patterns t).Sublist t ∧
      (∀ p ∈ patterns, ∀ m, p.find? (strip patterns t) = some m → m.isEmpty = true) ∧
      strip patterns (strip patterns t) = strip patterns t ∧
      ∀ c : Classifier, c.stripComments (c.stripComments t) = c.stripComments t ∧
        c.stripStrings (c.stripStrings t) = c.stripStrings t ∧
        c.stripCommentsAndStrings (c.stripCommentsAndStrings t) =
          c.stripCommentsAndStrings t := by
  obtain ⟨n, hstrips⟩ := exists_strips patterns t
  refine ⟨⟨n, ?_, ?_⟩, hstrips.sublist, earliest?_eq_none_iff.mp hstrips.earliest?_eq_none,
    strip_strip patterns t, ?_⟩
  · exact Nat.le_trans (Nat.le_add_right _ _) hstrips.length_le
  · intro k left
    constructor
    · intro h
      exact hstrips.unique h
    · rintro ⟨rfl, rfl⟩
      exact hstrips
  · intro c
    exact ⟨strip_strip _ t, strip_strip _ t, strip_strip _ t⟩

/-- A pattern that also matches the empty text, and one that matches again where it was removed. -/
def starAndPair : List Matcher :=
  [.star true (.one (.single 'x')), .seq (.one (.single '<')) (.one (.single '>'))]

theorem strip_fixpoint_of_pairs :
    strip starAndPair "a<<>>x".toList = "ax".toList ∧
      Matcher.star true (.one (.single 'x')) ∈ starAndPair ∧
      find? (.star true (.one (.single 'x'))) "ax".toList = some ⟨0, 0⟩ ∧
      (⟨0, 0⟩ : Span).isEmpty = true := by
  have hstrip : strip starAndPair "a<<>>x".toList = "ax".toList := by decide +kernel
  have hmem : Matcher.star true (.one (.single 'x')) ∈ starAndPair := List.mem_cons_self
  have hfind : find? (.star true (.one (.single 'x'))) "ax".toList = some ⟨0, 0⟩ := by
    decide +kernel
  have hempty := (strip_fixpoint starAndPair "a<<>>x".toList).2.2.1 _ hmem ⟨0, 0⟩ (hstrip ▸ hfind)
  exact ⟨hstrip, hmem, hfind, hempty⟩

end Matcher

end BlockOrder
