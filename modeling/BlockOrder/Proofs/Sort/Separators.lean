import BlockOrder.Proofs.Sort.Arrangement

/-!
# Separators of a level

A separator belongs to the places of a level if all blocks but the last end with it and the last
one does not.  Then the last place has the separator that the last block ends with, if any.
-/

namespace BlockOrder

namespace Arrange

variable {c : Classifier}

theorem trailingSeparator?_eq_some {t : Text} {s : Char} :
    c.trailingSeparator? t = some s ↔ t.getLast? = some s ∧ c.isSeparator s = true := by
  rw [Classifier.trailingSeparator?, Option.filter_eq_some_iff]

theorem commonSeparator?_eq_some {texts : List Text} {s : Char} :
    c.commonSeparator? texts = some s ↔
      texts ≠ [] ∧ ∀ t ∈ texts, c.trailingSeparator? t = some s := by
  constructor
  · intro h
    refine ⟨?_, fun t ht => trailingSeparator_of_common h ht⟩
    rintro rfl
    cases h
  · rintro ⟨hne, hall⟩
    cases texts with
    | nil => exact absurd rfl hne
    | cons t rest =>
        rw [Classifier.commonSeparator?, Option.filter_eq_some_iff, List.all_eq_true]
        refine ⟨hall t List.mem_cons_self, fun u hu => ?_⟩
        rw [hall u (List.mem_cons_of_mem t hu)]
        exact beq_self_eq_true _

/-- All texts but the last end with a separator, and the last one does not end with it. -/
structure Parted (c : Classifier) (s : Char) (init : List Text) (last : Text) : Prop where
  ne_nil : init ≠ []
  init : ∀ t ∈ init, c.trailingSeparator? t = some s
  last : last.getLast? ≠ some s

theorem Parted.isSeparator {s : Char} {init : List Text} {last : Text}
    (h : Parted c s init last) : c.isSeparator s = true := by
  obtain ⟨t, ht⟩ := List.exists_mem_of_ne_nil init h.ne_nil
  exact (trailingSeparator?_eq_some.mp (h.init t ht)).2

theorem Parted.separators_eq {s : Char} {init : List Text} {last : Text}
    (h : Parted c s init last) :
    separators c (init ++ [last]) = (some s, c.trailingSeparator? last) := by
  have hcommon := commonSeparator?_eq_some.mpr ⟨h.ne_nil, h.init⟩
  simp [separators, hcommon, h.last]

theorem separators_cases (c : Classifier) (bodies : List Text) :
    separators c bodies = (none, none) ∨
      ∃ s init last, bodies = init ++ [last] ∧ Parted c s init last := by
  rcases List.eq_nil_or_concat' bodies with rfl | ⟨init, last, rfl⟩
  · exact .inl rfl
  · unfold separators
    rw [List.dropLast_concat, List.getLastD_concat]
    cases hcommon : c.commonSeparator? init with
    | none => exact .inl rfl
    | some s =>
        obtain ⟨hne, hall⟩ := commonSeparator?_eq_some.mp hcommon
        by_cases hlast : last.getLast? = some s
        · exact .inl (if_pos hlast)
        · exact .inr ⟨s, init, last, rfl, hne, hall, hlast⟩

theorem placeClosers_none {bodies : List Text} (h : separators c bodies = (none, none)) :
    placeClosers c bodies = List.replicate bodies.length [] := by
  unfold placeClosers
  rw [h]
  cases hlength : bodies.length with
  | zero => rfl
  | succ n =>
      rw [closers_succ, List.replicate_succ']
      rfl

theorem Parted.placeClosers_eq {s : Char} {init : List Text} {last : Text}
    (h : Parted c s init last) :
    placeClosers c (init ++ [last]) =
      List.replicate init.length [s] ++ [(c.trailingSeparator? last).toList] := by
  unfold placeClosers
  rw [h.separators_eq, List.length_append, List.length_singleton, closers_succ]
  rfl

end Arrange

end BlockOrder
