import BlockOrder.Directive.Format
import BlockOrder.Proofs.Sort.Edits
import BlockOrder.Proofs.StableSort

/-!
# Formatting keeps edits apart

A directive is about a line that is not blank, so the edit it asks for starts with a line that is
not blank.  Two such edits either overlap or have no line in common.  The edits that the
directives of a document ask for rearrange whole lines, and no two of them touch the same line.
-/

namespace BlockOrder

/-! ## Lines that are not blank -/

namespace Document

variable {d : Document}

theorem exists_line_of_not_blank {n : Nat} (h : d.isBlankLine n = false) :
    ∃ t, d.lines[n]? = some t ∧ t.isBlank = false := by
  unfold isBlankLine line? at h
  cases hline : d.lines[n]? with
  | none => simp [hline] at h
  | some t => exact ⟨t, rfl, by simpa [hline] using h⟩

theorem lt_lineCount_of_not_blank {n : Nat} (h : d.isBlankLine n = false) : n < d.lineCount := by
  obtain ⟨t, ht, -⟩ := exists_line_of_not_blank h
  exact (List.getElem?_eq_some_iff.mp ht).1

theorem lineLength_pos_of_not_blank {n : Nat} (h : d.isBlankLine n = false) :
    0 < d.lineLength n := by
  obtain ⟨t, ht, hblank⟩ := exists_line_of_not_blank h
  have hlength : d.lineLength n = t.length := by simp [lineLength, line?, ht]
  rw [hlength, List.length_pos_iff]
  rintro rfl
  cases hblank

theorem not_blank_of_deeperFrom? {indent line : Nat} {ls : List Text} {p : Position}
    (h : deeperFrom? indent line ls = some p) :
    ∃ i t, ls[i]? = some t ∧ p.line = line + i ∧ t.isBlank = false := by
  induction ls generalizing line with
  | nil => cases h
  | cons t ls ih =>
      unfold deeperFrom? at h
      split at h
      · next hdeeper =>
          simp only [Bool.and_eq_true, Bool.not_eq_true'] at hdeeper
          obtain rfl := Option.some.inj h
          exact ⟨0, t, rfl, rfl, hdeeper.1⟩
      · obtain ⟨i, u, hu, hline, hblank⟩ := ih h
        exact ⟨i + 1, u, hu, by omega, hblank⟩

/-- A directive is about a line that is not blank. -/
theorem not_blank_of_target? {line : Nat} {t : Text} {p : Position}
    (h : d.target? line t = some p) : d.isBlankLine p.line = false := by
  obtain ⟨i, u, hu, hline, hblank⟩ := not_blank_of_deeperFrom? h
  rw [List.getElem?_drop] at hu
  simp [isBlankLine, line?, hline, hu, hblank]

end Document

/-! ## Edits that start with a line that is not blank -/

/-- The edit rearranges whole lines, the first of which is not blank. -/
structure Edit.Opens (d : Document) (e : Edit) : Prop where
  rearranges : e.Rearranges d
  not_blank : d.isBlankLine e.range.start.line = false

namespace Edit

variable {d : Document} {e e' : Edit}

theorem Opens.line_lt (h : e.Rearranges d) (h' : e'.Opens d) (hle : e.range.stop ≤ e'.range.start) :
    e.range.stop.line < e'.range.start.line := by
  have hpos := Document.lineLength_pos_of_not_blank h'.not_blank
  rw [h.stop, h'.rearranges.start, Document.lineStop, Position.ofOffset_le_ofOffset] at hle
  rcases hle with hlt | ⟨heq, hzero⟩
  · exact hlt
  · -- ranges that only touch would share a line, but that line is not empty
    rw [heq] at hzero
    omega

/-- Edits that start with lines that are not blank overlap or have no line in common. -/
theorem Opens.apart (h : e.Opens d) (h' : e'.Opens d)
    (hoverlaps : e.range.overlaps e'.range = false) : e.range.Apart e'.range := by
  simp only [Range.overlaps, Bool.and_eq_false_iff, decide_eq_false_iff_not] at hoverlaps
  rcases hoverlaps with hnot | hnot
  · exact .inr (Opens.line_lt h'.rearranges h (Decidable.not_not.mp hnot))
  · exact .inl (Opens.line_lt h.rearranges h' (Decidable.not_not.mp hnot))

end Edit

namespace Workspace

variable {w : Workspace}

/-- Of edits that start with lines that are not blank, those that are kept have no line in
common. -/
theorem keepApart_apart (kept : List Edit) {candidates : List Edit}
    (hkept : ∀ e ∈ kept, e.Opens w.document)
    (hcandidates : ∀ e ∈ candidates, e.Opens w.document)
    (hapart : kept.Pairwise fun e e' => e.range.Apart e'.range) :
    (∀ e ∈ keepApart kept candidates, e.Opens w.document) ∧
      (keepApart kept candidates).Pairwise fun e e' => e.range.Apart e'.range := by
  induction candidates generalizing kept with
  | nil => exact ⟨hkept, hapart⟩
  | cons e rest ih =>
      have he := hcandidates e (by simp)
      have hrest : ∀ e ∈ rest, e.Opens w.document := fun e he => hcandidates e (by simp [he])
      unfold keepApart
      split
      · exact ih kept hkept hrest hapart
      · next hany =>
          simp only [List.any_eq_true, not_exists, not_and, Bool.not_eq_true] at hany
          refine ih (kept ++ [e]) ?_ hrest ?_
          · intro x hx
            rcases List.mem_append.mp hx with hx | hx
            · exact hkept x hx
            · exact List.mem_singleton.mp hx ▸ he
          · rw [List.pairwise_append]
            refine ⟨hapart, List.pairwise_singleton _ _, fun x hx y hy => ?_⟩
            obtain rfl := List.mem_singleton.mp hy
            exact (hkept x hx).apart he (hany x hx)

/-! ## Following directives -/

theorem not_blank_of_mem_markersFrom {line : Nat} {ls : List Text} {m : Marker}
    (hm : m ∈ w.markersFrom line ls) {p : Position} (hp : m.target = some p) :
    w.document.isBlankLine p.line = false := by
  induction ls generalizing line with
  | nil => cases hm
  | cons t ls ih =>
      rcases List.mem_append.mp hm with hm | hm
      · rw [Option.mem_toList] at hm
        unfold markerOn? at hm
        split at hm
        · split at hm
          · obtain rfl := Option.some.inj hm
            exact Document.not_blank_of_target? hp
          · cases hm
        · cases hm
      · exact ih hm

theorem markers_returns (hw : w.cancelled = false) (r : Option Range) :
    Returns (w.markers r) fun markers =>
      ∀ m ∈ markers, ∀ p, m.target = some p → w.document.isBlankLine p.line = false := by
  unfold markers
  rw [check_of_not_cancelled hw, pure_bind]
  exact .pure fun m hm p hp => not_blank_of_mem_markersFrom hm hp

/-- The target of a directive is on a line that is not blank, and is sorted by the configured
order. -/
def Target.Proper (w : Workspace) (t : Target) : Prop :=
  w.document.isBlankLine t.position.line = false ∧
    ∃ direction, t.options.order = .ofOptions w.config.collation direction

theorem targets_returns (hw : w.cancelled = false) (r : Option Range) {markers : List Marker}
    (hmarkers : ∀ m ∈ markers, ∀ p, m.target = some p → w.document.isBlankLine p.line = false) :
    Returns (w.targets r markers) fun targets => ∀ t ∈ targets, t.Proper w := by
  induction markers with
  | nil => exact .pure (by simp)
  | cons m rest ih =>
      have hrest := ih fun m hm => hmarkers m (by simp [hm])
      unfold targets
      cases htarget : m.target with
      | none => exact hrest
      | some position =>
          have hposition := hmarkers m (by simp) position htarget
          simp only
          split
          · refine (select_returns hw _ _).bind fun range _ => ?_
            refine hrest.bind fun ts hts => .pure ?_
            intro t ht
            rcases List.mem_cons.mp ht with rfl | ht
            · exact ⟨hposition, m.directive.direction, rfl⟩
            · exact hts t ht
          · exact hrest

/-- Every edit that following directives leaves pending starts with a line that is not blank. -/
theorem followTargets_ends (hw : w.cancelled = false) (hplain : w.document.Plain)
    {targets : List Target} (htargets : ∀ t ∈ targets, t.Proper w)
    {p : Pending} (hp : ∀ e ∈ p.edits, e.Opens w.document) (c : LineCache) :
    Ends w.config.collation.Consistent (w.followTargets targets p) c fun p' _ =>
      ∀ e ∈ p'.edits, e.Opens w.document := by
  induction targets generalizing p c with
  | nil => exact .pure hp
  | cons t rest ih =>
      obtain ⟨hposition, direction, horder⟩ := htargets t (by simp)
      have hline := Document.clampPosition_line (Document.lt_lineCount_of_not_blank hposition)
      have hsort := sortEdit_ends hw hplain t.options (.caret t.position)
        (fun e he => (hp e he).rearranges) c
      rw [horder] at hsort
      unfold followTargets
      refine (hsort.of_imp fun hconsistent => hconsistent direction).bind
        fun result c' hresult => ?_
      obtain ⟨hedit, hpending, hblank⟩ := hresult
      rw [Document.clamp_caret] at hblank
      refine ih (fun t ht => htargets t (by simp [ht])) (fun e he => ?_) c'
      rcases List.mem_append.mp he with he | he
      · exact hp e (hpending e he)
      · rw [List.mem_singleton.mp he]
        exact ⟨hedit, hblank t.position.line hline.le hline.ge hposition⟩

/-- The edits that directives ask for come in the order of the text, rearrange whole lines and have
no line in common. -/
theorem formatEdits_ends (hw : w.cancelled = false) (hplain : w.document.Plain)
    (r : Option Range) (c : LineCache) :
    Ends w.config.collation.Consistent (w.formatEdits r) c fun edits _ =>
      (∀ e ∈ edits, e.Rearranges w.document) ∧
        (edits.Pairwise fun e e' => e.range.Apart e'.range) ∧
          InOrder (fun a b : Edit => decide (a.range.start ≤ b.range.start)) edits := by
  obtain ⟨markers, c₁, hmarkersOk, hmarkers⟩ := markers_returns hw none c
  obtain ⟨targets, c₂, htargetsOk, htargets⟩ :=
    targets_returns hw (r.map w.document.clamp) hmarkers c₁
  have hsorted := sortBy_perm Target.precedes targets
  unfold formatEdits
  refine .lift_bind hmarkersOk (.lift_bind htargetsOk ?_)
  refine (followTargets_ends hw hplain (fun t ht => htargets t (hsorted.mem_iff.mp ht))
    (p := .none) (by simp [Pending.none]) c₂).bind fun pending c₃ hpending => .pure ?_
  have hcandidates := sortBy_perm
    (fun a b : Edit => decide (b.range.lineCount ≤ a.range.lineCount)) pending.edits
  have hkept := keepApart_apart [] (by simp)
    (fun e he => hpending e (hcandidates.mem_iff.mp he)) .nil
  generalize keepApart [] _ = kept at hkept ⊢
  have hfinal := sortBy_perm (fun a b : Edit => decide (a.range.start ≤ b.range.start)) kept
  refine ⟨fun e he => (hkept.1 e (hfinal.mem_iff.mp he)).rearranges, ?_, ?_⟩
  · exact (hfinal.pairwise_iff fun h => h.symm).mpr hkept.2
  · apply inOrder_sortBy
    intro a b
    rw [decide_eq_true_eq, decide_eq_true_eq]
    exact Position.le_total _ _

end Workspace

end BlockOrder
