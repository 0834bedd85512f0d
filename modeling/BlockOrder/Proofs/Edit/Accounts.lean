import BlockOrder.Proofs.Edit.Merge

/-!
# Accounts of pending edits

When ranges become texts, some pending edits become part of the texts and the others stay
pending.  The texts have the characters of the ranges, except that those of the edits that were
taken are replaced.
-/

namespace BlockOrder

variable {d : Document}

/-- The ranges have become the texts, the pending edits `p` have become `p'`, and the edits
`taken` have become part of the texts. -/
structure Accounts (d : Document) (ranges : List Range) (p : Pending) (texts : List Text)
    (p' : Pending) (taken : List Edit) : Prop where
  pending : (p.edits.map (Edit.clamp d)).Perm (p'.edits.map (Edit.clamp d) ++ taken)
  kept : ∀ e ∈ p'.edits, ∃ e₀ ∈ p.edits, e = e₀ ∨ e = e₀.clamp d
  inside : ∀ e ∈ taken, ∃ r ∈ ranges, Edit.Within d (d.clamp r) e
  chars : (texts.flatten ++ taken.flatMap fun e => d.slice e.range).Perm
    (ranges.flatMap d.slice ++ taken.flatMap Edit.text)

namespace Accounts

variable {ranges ranges' : List Range} {p p' p'' : Pending} {texts texts' : List Text}
  {taken taken' : List Edit}

theorem nil (d : Document) (p : Pending) : Accounts d [] p [] p [] :=
  ⟨by simp, fun e he => ⟨e, he, .inl rfl⟩, by simp, .refl _⟩

theorem append (h : Accounts d ranges p texts p' taken)
    (h' : Accounts d ranges' p' texts' p'' taken') :
    Accounts d (ranges ++ ranges') p (texts ++ texts') p'' (taken' ++ taken) := by
  refine ⟨?_, ?_, ?_, ?_⟩
  · rw [← List.append_assoc]
    exact h.pending.trans (h'.pending.append_right taken)
  · intro e he
    obtain ⟨e', he', heq'⟩ := h'.kept e he
    obtain ⟨e₀, he₀, heq₀⟩ := h.kept e' he'
    refine ⟨e₀, he₀, ?_⟩
    rcases heq' with rfl | rfl
    · exact heq₀
    · rcases heq₀ with rfl | rfl
      · exact .inr rfl
      · exact .inr (by simp [Edit.clamp])
  · intro e he
    rcases List.mem_append.mp he with he | he
    · obtain ⟨r, hr, hwithin⟩ := h'.inside e he
      exact ⟨r, List.mem_append_right _ hr, hwithin⟩
    · obtain ⟨r, hr, hwithin⟩ := h.inside e he
      exact ⟨r, List.mem_append_left _ hr, hwithin⟩
  · rw [List.perm_iff_count]
    intro x
    have hx := h.chars.count_eq x
    have hx' := h'.chars.count_eq x
    simp only [List.flatten_append, List.flatMap_append, List.count_append] at hx hx' ⊢
    omega

/-- Texts may be put together, if the ranges are put together the same way. -/
theorem regroup (h : Accounts d ranges p texts p' taken) (extra : Text)
    (hinside : ∀ r ∈ ranges, ∀ e, Edit.Within d (d.clamp r) e →
      ∃ r' ∈ ranges', Edit.Within d (d.clamp r') e)
    (htexts : texts'.flatten.Perm (texts.flatten ++ extra))
    (hranges : (ranges'.flatMap d.slice).Perm (ranges.flatMap d.slice ++ extra)) :
    Accounts d ranges' p texts' p' taken := by
  refine ⟨h.pending, h.kept, ?_, ?_⟩
  · intro e he
    obtain ⟨r, hr, hwithin⟩ := h.inside e he
    exact hinside r hr e hwithin
  · rw [List.perm_iff_count]
    intro x
    have hx := h.chars.count_eq x
    have htexts' := htexts.count_eq x
    have hranges' := hranges.count_eq x
    simp only [List.count_append] at hx htexts' hranges' ⊢
    omega

theorem of_none (h : Accounts d ranges .none texts p' taken) : p' = .none ∧ taken = [] := by
  have hnil := h.pending.nil_eq
  rw [List.nil_eq, List.append_eq_nil_iff, List.map_eq_nil_iff] at hnil
  obtain ⟨edits⟩ := p'
  exact ⟨congrArg Pending.mk hnil.1, hnil.2⟩

/-- The texts have the characters of the ranges if every edit has those of its range. -/
theorem flatten_perm (h : Accounts d ranges p texts p' taken)
    (hp : ∀ e ∈ p.edits, e.text.Perm (d.slice e.range)) :
    texts.flatten.Perm (ranges.flatMap d.slice) := by
  have htaken : ∀ e ∈ taken, e.text.Perm (d.slice e.range) := by
    intro e he
    have hmem := h.pending.mem_iff.mpr (List.mem_append_right _ he)
    obtain ⟨e₀, he₀, rfl⟩ := List.mem_map.mp hmem
    simpa [Edit.clamp] using hp e₀ he₀
  have hsame : (taken.flatMap Edit.text).Perm (taken.flatMap fun e => d.slice e.range) :=
    List.Perm.flatMap_left taken htaken
  exact (List.perm_append_right_iff _).mp (h.chars.trans (hsame.append_left _))

end Accounts

/-! ## Edits inside a copied range -/

namespace Pending

theorem editedText_none (d : Document) (r : Range) :
    Pending.none.editedText d r = (d.slice r, .none) := rfl

theorem within_of_contains {r : Range} {e : Edit}
    (h : (d.clamp r).contains (d.clamp e.range) = true) :
    Edit.Within d (d.clamp r) (e.clamp d) := by
  have hr := d.fits_clamp r
  have he := d.fits_clamp e.range
  simp only [Range.contains, Bool.and_eq_true, decide_eq_true_eq] at h
  exact ⟨⟨hr.start, he.start, h.1⟩, he, ⟨he.stop, hr.stop, h.2⟩⟩

theorem accounts_editedText {p : Pending} (hp : p = .none ∨ d.Plain) (r : Range) :
    ∃ taken, Accounts d [r] p [(p.editedText d r).1] (p.editedText d r).2 taken := by
  rcases hp with rfl | hd
  · rw [editedText_none]
    exact ⟨[], by simp, by simp [Pending.none], by simp, by simp⟩
  unfold editedText takeWithin
  simp only
  generalize hinside : (fun e : Edit => (d.clamp r).contains (d.clamp e.range)) = inside
  have hleft : (p.edits.filter fun e => !(d.clamp r).contains (d.clamp e.range)) =
      p.edits.filter fun e => !inside e := by rw [← hinside]
  rw [hleft]
  generalize hsorted : sortBy _ ((p.edits.filter inside).map (Edit.clamp d)) = sorted
  have htaken : sorted.Perm ((p.edits.filter inside).map (Edit.clamp d)) :=
    hsorted ▸ sortBy_perm _ _
  have horigin : ∀ e ∈ sorted, ∃ e₀ ∈ p.edits, inside e₀ = true ∧ e = e₀.clamp d := by
    intro e he
    obtain ⟨e₀, he₀, rfl⟩ := List.mem_map.mp (htaken.mem_iff.mp he)
    obtain ⟨hmem, hin⟩ := List.mem_filter.mp he₀
    exact ⟨e₀, hmem, hin, rfl⟩
  have hwithin : ∀ e ∈ sorted, Edit.Within d (d.clamp r) e := by
    intro e he
    obtain ⟨e₀, -, hin, rfl⟩ := horigin e he
    exact within_of_contains (by rw [← hin, ← hinside])
  obtain ⟨applied, hperm, hchars⟩ := Edit.merge_accounted hd hwithin
  rw [Document.slice_clamp] at hperm hchars
  generalize Edit.merge (d.clamp r).start (d.slice r) sorted = merged at hperm hchars
  have hrejected : ∀ e ∈ merged.2, e.clamp d = e := by
    intro e he
    obtain ⟨e₀, -, -, rfl⟩ := horigin e (hperm.mem_iff.mpr (List.mem_append_right _ he))
    simp [Edit.clamp]
  refine ⟨applied, ?_, ?_, ?_, by simpa using hchars⟩
  · have hsplit := (List.filter_append_perm inside p.edits).map (Edit.clamp d)
    have hback : merged.2.map (Edit.clamp d) = merged.2 :=
      (List.map_congr_left hrejected).trans (List.map_id _)
    rw [List.map_append] at hsplit
    simp only [restore, List.map_append, hback]
    refine hsplit.symm.trans ((htaken.symm.trans hperm).append_right _ |>.trans ?_)
    rw [List.perm_iff_count]
    intro e
    simp only [List.count_append]
    omega
  · intro e he
    rcases List.mem_append.mp he with he | he
    · exact ⟨e, (List.mem_filter.mp he).1, .inl rfl⟩
    · obtain ⟨e₀, he₀, -, heq⟩ := horigin e (hperm.mem_iff.mpr (List.mem_append_right _ he))
      exact ⟨e₀, he₀, .inr heq⟩
  · intro e he
    exact ⟨r, List.mem_singleton_self r, hwithin e (hperm.mem_iff.mpr (List.mem_append_left _ he))⟩

end Pending

end BlockOrder
