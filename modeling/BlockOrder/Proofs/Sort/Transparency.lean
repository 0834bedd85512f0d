import BlockOrder.Proofs.Blocks.Transparency
import BlockOrder.Proofs.Sort.Nesting

/-!
# Sorting that does not depend on the cache

Sorting reads the cache only through blocks.  What it does beyond that depends on the edits that
are pending and on the random numbers that are left, and on nothing else.
-/

namespace BlockOrder.Workspace

variable {w : Workspace} {α β : Type}

/-- In the course of sorting the cache is faithful, and pending edits and random numbers are the
given ones. -/
def SortsWith (w : Workspace) (i : Pending × Draws) (s : SortState) : Prop :=
  w.Faithful s.cache ∧ (s.pending, s.draws) = i

/-- The sorting does not depend on what a faithful cache has computed before. -/
abbrev TransparentSorting (w : Workspace) (x : SortStep α) : Prop :=
  BlockOrder.Transparent w.SortsWith w.cancelled x

theorem transparentSorting_ofWork {x : Work α} (hx : w.Transparent x) :
    w.TransparentSorting (SortStep.ofWork x) := by
  refine ⟨?_, fun hw i => ?_⟩
  · rintro i ⟨c, p, draws⟩ ⟨hc, -⟩
    obtain ⟨-, hfinal⟩ := hx.safe () c hc
    refine ⟨(p, draws), ?_⟩
    unfold SortStep.ofWork
    cases h : x c with
    | ok a c' =>
        rw [h] at hfinal
        exact ⟨hfinal, rfl⟩
    | error e c' =>
        rw [h] at hfinal
        exact ⟨hfinal, rfl⟩
  · obtain ⟨a, -, ha⟩ := hx.steady hw ()
    refine ⟨a, i, ?_⟩
    rintro ⟨c, p, draws⟩ ⟨hc, hi⟩
    obtain ⟨c', hok, hc'⟩ := ha c hc
    refine ⟨⟨c', p, draws⟩, ?_, hc', hi⟩
    unfold SortStep.ofWork
    rw [hok]

/-- A step that reads and changes nothing but pending edits and random numbers. -/
theorem transparentSorting_step {x : SortStep α}
    (hx : ∀ p draws, ∃ a p' draws', ∀ c, x ⟨c, p, draws⟩ = .ok a ⟨c, p', draws'⟩) :
    w.TransparentSorting x := by
  refine ⟨?_, fun _ i => ?_⟩
  · rintro i ⟨c, p, draws⟩ ⟨hc, -⟩
    obtain ⟨a, p', draws', hx⟩ := hx p draws
    refine ⟨(p', draws'), ?_⟩
    rw [hx]
    exact ⟨hc, rfl⟩
  · obtain ⟨a, p', draws', hx⟩ := hx i.1 i.2
    refine ⟨a, (p', draws'), ?_⟩
    rintro ⟨c, p, draws⟩ ⟨hc, rfl⟩
    exact ⟨_, hx c, hc, rfl⟩

theorem transparentSorting_check (w : Workspace) : w.TransparentSorting w.checkSorting :=
  transparentSorting_ofWork (transparent_check w)

theorem transparentSorting_editedText (w : Workspace) (r : Range) :
    w.TransparentSorting (w.editedText r) :=
  (transparentSorting_check w).bind fun _ => transparentSorting_step fun p draws =>
    ⟨(p.editedText w.document r).1, (p.editedText w.document r).2, draws, fun _ => rfl⟩

theorem transparentSorting_arrangeLevel (w : Workspace) (k : KeyOrder) (l : Level)
    (texts : List Text) : w.TransparentSorting (w.arrangeLevel k l texts).run := by
  rcases Nat.eq_zero_or_pos l.skipParents with hl | hl
  · rw [arrangeLevel_eq_bind k hl]
    refine (transparentSorting_check w).bind fun _ => transparentSorting_step fun p draws => ?_
    dsimp only
    cases Arrange.arrangeAll w.classifier w.config.sortHeaders w.config.keepNewlines k texts
      draws with
    | ok arranged => exact ⟨.ok arranged.1, p, arranged.2, fun _ => rfl⟩
    | error e => exact ⟨.error e, p, draws, fun _ => rfl⟩
  · unfold arrangeLevel
    rw [if_pos hl]
    exact .pure _

theorem transparentSorting_blockTexts {text : Range → Sorting Text}
    (htext : ∀ r, w.TransparentSorting (text r).run) (blocks : List Range) :
    w.TransparentSorting (w.blockTexts text blocks).run := by
  induction blocks with
  | nil => exact .pure _
  | cons b rest ih =>
      exact .run_lift_bind (transparentSorting_check w) fun _ => (htext b).run_bind fun _ =>
        ih.run_bind fun _ => .pure _

theorem transparentSorting_blockText (w : Workspace) (k : KeyOrder) (room : Nat) (l : Level)
    (block : Range) : w.TransparentSorting (w.blockText k room l block).run := by
  have hcopied : ∀ r, w.TransparentSorting (liftM (w.editedText r) : Sorting Text).run :=
    fun r => (transparentSorting_editedText w r).bind fun _ => .pure _
  induction room generalizing l block with
  | zero => exact hcopied _
  | succ room ih =>
      unfold blockText
      dsimp only
      split
      · exact hcopied _
      refine .run_lift_bind (transparentSorting_ofWork (transparent_innerBlocks w _))
        fun ranges => ?_
      split
      · exact hcopied _
      · exact .run_lift_bind (transparentSorting_editedText w _) fun _ =>
          (transparentSorting_blockTexts (ih l.inner) _).run_bind fun _ =>
            (transparentSorting_arrangeLevel w k l.inner _).run_bind fun _ =>
              .run_lift_bind (transparentSorting_editedText w _) fun _ => .pure _

theorem transparent_sortBlocks (w : Workspace) (o : SortOptions) (blocks : List Range)
    (pending : Pending) : w.Transparent (w.sortBlocks o blocks pending).run := by
  have hlevel : w.TransparentSorting (w.sortLevel o blocks).run :=
    (transparentSorting_blockTexts (transparentSorting_blockText w o.order _ _) blocks).run_bind
      fun _ => transparentSorting_arrangeLevel w o.order _ _
  refine ⟨fun _ c hc => ⟨(), ?_⟩, fun hw _ => ?_⟩
  · obtain ⟨i, hfinal, -⟩ := hlevel.safe (pending, o.seed.map Keystream.ofSeed)
      ⟨c, pending, o.seed.map Keystream.ofSeed⟩ ⟨hc, rfl⟩
    change w.Faithful (final (w.sortBlocks o blocks pending c))
    change w.Faithful (final (w.sortLevel o blocks _)).cache at hfinal
    unfold sortBlocks
    cases h : w.sortLevel o blocks ⟨c, pending, o.seed.map Keystream.ofSeed⟩ with
    | ok texts s =>
        rw [h] at hfinal
        exact hfinal
    | error e s =>
        rw [h] at hfinal
        exact hfinal
  · obtain ⟨r, i, hr⟩ := hlevel.steady hw (pending, o.seed.map Keystream.ofSeed)
    refine ⟨r.map (·, i.1), (), fun c hc => ?_⟩
    obtain ⟨s, hok, hs, rfl⟩ := hr ⟨c, pending, o.seed.map Keystream.ofSeed⟩ ⟨hc, rfl⟩
    exact ⟨s.cache, sortBlocks_run hok, hs⟩

theorem transparent_sortEdit (w : Workspace) (o : SortOptions) (selection : Range)
    (pending : Pending) : w.Transparent (w.sortEdit o selection pending).run := by
  refine .run_lift_bind (transparent_select w _ _) fun range =>
    .run_lift_bind (transparent_blocks w range) fun blocks => ?_
  split
  · exact .pure _
  · exact (transparent_sortBlocks w o blocks pending).run_bind fun _ => .pure _

end BlockOrder.Workspace
