import BlockOrder.Proofs.Blocks.Growth
import BlockOrder.Proofs.Edit.Rearranging
import BlockOrder.Proofs.Sort.Conservation

/-!
# Sorting rearranges whole lines

The edit that sorts the blocks around a selection replaces whole lines by a text with the same
characters.  Pending edits of this kind may become part of it; the others stay as they are.
-/

namespace BlockOrder

namespace Workspace

variable {w : Workspace}

/-- The texts of the blocks in whole lines, sorted and joined, have the characters of the
lines. -/
theorem sortBlocks_ends_runs (hw : w.cancelled = false) (hplain : w.document.Plain)
    (o : SortOptions) {blocks : List Range} {first last : Position}
    (hblocks : w.document.Runs last first blocks) {p : Pending}
    (hp : ∀ e ∈ p.edits, e.Rearranges w.document) (c : LineCache) :
    Ends (Std.TransCmp o.order.compare) (w.sortBlocks o blocks p) c fun result _ =>
      (Text.unlines result.1).Perm (w.document.slice ⟨first, last⟩) ∧
        ∀ e ∈ result.2.edits, e ∈ p.edits := by
  refine (sortBlocks_ends hw w.nests_keeps o blocks p c).mono fun result _ hresult => ?_
  obtain ⟨texts, hthreaded, harranged⟩ := hresult
  obtain ⟨taken, haccounts⟩ := accounts_of_threaded hthreaded (.inr hplain)
  constructor
  · have hflatten := haccounts.flatten_perm fun e he => (hp e he).text
    rw [← hblocks.unlines_slices]
    refine Text.unlines_perm ?_ ?_
    · rw [harranged.length_eq, hthreaded.length_eq, List.length_map]
    · exact harranged.flatten_perm.trans hflatten
  · intro e he
    obtain ⟨e₀, he₀, heq⟩ := haccounts.kept e he
    have hclamp := (hp e₀ he₀).clamp_eq
    rcases heq with rfl | rfl
    · exact he₀
    · rwa [hclamp]

/-- Sorting around a selection rearranges whole lines.  The first of them is not blank if the
selection touches a line that is not blank. -/
theorem sortEdit_ends (hw : w.cancelled = false) (hplain : w.document.Plain) (o : SortOptions)
    (r : Range) {p : Pending} (hp : ∀ e ∈ p.edits, e.Rearranges w.document) (c : LineCache) :
    Ends (Std.TransCmp o.order.compare) (w.sortEdit o r p) c fun result _ =>
      result.1.Rearranges w.document ∧ (∀ e ∈ result.2.edits, e ∈ p.edits) ∧
        ∀ n, (w.document.clamp r).start.line ≤ n → n ≤ (w.document.clamp r).stop.line →
          w.document.isBlankLine n = false →
            w.document.isBlankLine result.1.range.start.line = false := by
  obtain ⟨range, c₁, hselect, hrange⟩ := select_returns hw r o.expansion c
  obtain ⟨a, b, hab, hb, rfl, hblank⟩ := hrange
  have hlines := Document.lineRange_eq hab hb
  have hstart : (w.document.lineRange a b).start.line = a := by rw [hlines]; rfl
  have hstop : (w.document.lineRange a b).stop.line = b := by rw [hlines]; rfl
  have hfits : w.document.Fits (w.document.lineRange a b) := by
    rw [hlines]
    exact Document.fits_lines hab hb
  obtain ⟨blocks, c₂, hblocks, hruns⟩ := blocks_ok hw hfits c₁
  rw [hstart, hstop] at hruns
  unfold sortEdit
  refine .lift_bind hselect (.lift_bind hblocks ?_)
  split
  · refine .pure ⟨Edit.rearranges_lineRange hab hb (.refl _), fun e he => he, ?_⟩
    rwa [hstart]
  · next hne =>
      have hruns' := hruns.resolve_left fun hnil => hne (by rw [hnil]; rfl)
      refine (sortBlocks_ends_runs hw hplain o hruns' hp c₂).bind fun result _ hresult => ?_
      obtain ⟨hperm, hkept⟩ := hresult
      rw [← hlines] at hperm
      refine .pure ⟨Edit.rearranges_lineRange hab hb hperm, hkept, ?_⟩
      rwa [hstart]

end Workspace

end BlockOrder
