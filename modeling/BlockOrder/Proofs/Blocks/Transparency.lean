import BlockOrder.Blocks.Selection
import BlockOrder.Proofs.Blocks.Tiling
import BlockOrder.Proofs.Lines.Faithful

/-!
# Work that does not depend on the cache

Whatever a faithful cache has computed before, the lines that are asked for have the facts of the
document.  Hence blocks and selections are the same for all faithful caches, and caches stay
faithful, also in calls that are cancelled.
-/

namespace BlockOrder.Workspace

variable {w : Workspace} {α β : Type}

/-- The cache is faithful to the document of the workspace. -/
abbrev Faithful (w : Workspace) (c : LineCache) : Prop :=
  LineCache.Faithful w.classifier w.document c

/-- The work does not depend on what a faithful cache has computed before. -/
abbrev Transparent (w : Workspace) (x : Work α) : Prop :=
  BlockOrder.Transparent (fun _ : Unit => w.Faithful) w.cancelled x

/-- The cache is faithful and knows the lines from `first` to `last`. -/
def Informed (w : Workspace) (first last : Nat) (c : LineCache) : Prop :=
  w.Faithful c ∧ ∀ n, first ≤ n → n ≤ last → c.Knows w.classifier w.document n

theorem Informed.slice_eq {first last : Nat} {c : LineCache} (h : w.Informed first last c) :
    c.slice first last = w.document.factsOf w.classifier first last := by
  refine List.map_congr_left fun n hn => ?_
  rw [List.mem_range'_1] at hn
  exact h.2 n hn.1 (by omega)

/-! ## Lines -/

theorem transparent_check (w : Workspace) : w.Transparent w.check := by
  refine ⟨fun _ c hc => ⟨(), ?_⟩, fun hw _ => ⟨(), (), ?_⟩⟩
  · unfold check
    split <;> exact hc
  · rw [check, hw]
    exact .pure ()

theorem Informed.of_faithful {c : LineCache} (h : w.Faithful c) : w.Informed 1 0 c :=
  ⟨h, fun n hn hn' => by omega⟩

/-- Lines that have been asked for are known, and so are those that were known before. -/
theorem ensure_yields (hw : w.cancelled = false) {first last a b low high : Nat}
    (h : ∀ n, low ≤ n → n ≤ high → (a ≤ n ∧ n ≤ b) ∨ (first ≤ n ∧ n ≤ last)) :
    Yields (w.Informed a b) (w.ensure first last) () (w.Informed low high) := by
  intro c hc
  obtain ⟨c', hok, hfaithful, hknows⟩ := hc.1.ensure_ok first last
  refine ⟨c', by rw [ensure, hw, hok], hfaithful, fun n hn hn' => hknows n ?_⟩
  exact (h n hn hn').imp_left fun hab => hc.2 n hab.1 hab.2

theorem lines_yields (hw : w.cancelled = false) (first last : Nat) :
    Yields w.Faithful (w.lines first last) (w.document.factsOf w.classifier first last)
      (w.Informed first last) := by
  have hensure : Yields (w.Informed 1 0) (w.ensure first last) () (w.Informed first last) :=
    ensure_yields hw fun n hn hn' => .inr ⟨hn, hn'⟩
  refine (hensure.mono (fun c => .of_faithful) fun c hc => hc).bind ?_
  exact .get_bind (fun c hc => by rw [hc.slice_eq]) (.pure _)

theorem line_yields (hw : w.cancelled = false) {a b n low high : Nat} (hn : low ≤ n ∧ n ≤ high)
    (h : ∀ m, low ≤ m → m ≤ high → (a ≤ m ∧ m ≤ b) ∨ m = n) :
    Yields (w.Informed a b) (w.line n) (w.document.facts? w.classifier n)
      (w.Informed low high) := by
  have hensure : Yields (w.Informed a b) (w.ensure n n) () (w.Informed low high) :=
    ensure_yields hw fun m hm hm' => (h m hm hm').imp_right fun heq => by omega
  refine hensure.bind (.get_bind (fun c hc => ?_) (.pure _))
  rw [show c.get? n = _ from hc.2 n hn.1 hn.2]

theorem safe_ensure (w : Workspace) (first last : Nat) :
    Safe (fun _ : Unit => w.Faithful) (w.ensure first last) :=
  fun _ _ hc => ⟨(), hc.ensure_final w.cancelled first last⟩

theorem safe_get_bind {f : LineCache → Work β}
    (hf : ∀ c, Safe (fun _ : Unit => w.Faithful) (f c)) :
    Safe (fun _ : Unit => w.Faithful) (get >>= f) := fun _ c hc => hf c () c hc

theorem transparent_lines (w : Workspace) (first last : Nat) :
    w.Transparent (w.lines first last) := by
  refine ⟨?_, fun hw _ => ⟨_, (), (lines_yields hw first last).mono (fun _ hc => hc)
    fun _ hc => hc.1⟩⟩
  exact (safe_ensure w first last).bind fun _ => safe_get_bind fun _ => .pure _

theorem transparent_line (w : Workspace) (n : Nat) : w.Transparent (w.line n) := by
  refine ⟨?_, fun hw _ => ⟨w.document.facts? w.classifier n, (), ?_⟩⟩
  · exact (safe_ensure w n n).bind fun _ => safe_get_bind fun _ => .pure _
  · have hline : Yields (w.Informed 1 0) (w.line n) _ (w.Informed n n) :=
      line_yields hw ⟨Nat.le_refl n, Nat.le_refl n⟩ fun m hm hm' => .inr (by omega)
    exact hline.mono (fun _ => .of_faithful) fun _ hc => hc.1

/-! ## Blocks -/

theorem transparent_blocks (w : Workspace) (r : Range) : w.Transparent (w.blocks r) :=
  (transparent_check w).bind fun _ => (transparent_lines w _ _).bind fun _ => .pure _

/-- The blocks are those of the facts about the document. -/
theorem blocks_yields (hw : w.cancelled = false) (r : Range) :
    Yields w.Faithful (w.blocks r)
      ((Blocks.tile (w.document.clamp r).start.line (w.document.clamp r).stop.line
        (w.document.factsOf w.classifier (w.document.clamp r).start.line
          (w.document.clamp r).stop.line)).map fun b => w.document.lineRange b.first b.last)
      w.Faithful := by
  rw [blocks, check_of_not_cancelled hw, pure_bind]
  exact (lines_yields hw _ _).bind (.mono (.pure _) (fun _ hc => hc) fun _ hc => hc.1)

theorem transparent_innerBlocks (w : Workspace) (block : Range) :
    w.Transparent (w.innerBlocks block) := by
  refine (transparent_lines w _ _).bind fun lines => ?_
  dsimp only
  split
  · exact .pure _
  · refine (transparent_check w).bind fun _ => ?_
    split
    · exact .pure _
    · exact transparent_blocks w _

/-! ## Selections -/

theorem transparent_mergeLine (w : Workspace) (folding : Folding) (line : Nat) :
    w.Transparent (w.mergeLine folding line) := by
  refine (transparent_line w line).bind fun f => ?_
  split <;> exact .pure _

theorem transparent_balance (w : Workspace) (fuel : Nat) (s : Selection) :
    w.Transparent (w.balance fuel s) := by
  induction fuel generalizing s with
  | zero => exact .pure s
  | succ fuel ih =>
      refine (transparent_check w).bind fun _ => ?_
      split
      · exact (transparent_mergeLine w _ _).bind fun _ => ih _
      split
      · exact (transparent_mergeLine w _ _).bind fun _ => ih _
      · exact .pure s

theorem transparent_advance (w : Workspace) (g : Growth) (least : Nat) (side : Side) (fuel : Nat)
    (a : Advance) : w.Transparent (w.advance g least side fuel a) := by
  induction fuel generalizing a with
  | zero => exact .pure a
  | succ fuel ih =>
      unfold advance
      split
      · exact .pure a
      refine (transparent_check w).bind fun _ => (transparent_line w _).bind fun f => ?_
      split
      · exact .pure a
      split
      · exact ih _
      · exact .pure a

theorem transparent_growTowards (w : Workspace) (g : Growth) (least : Nat) (side : Side)
    (s : Selection) : w.Transparent (w.growTowards g least side s) :=
  (transparent_line w _).bind fun _ => (transparent_advance w g least side _ _).bind fun _ =>
    .pure _

theorem transparent_selectLines (w : Workspace) (first last : Nat) :
    w.Transparent (w.selectLines first last) :=
  (transparent_lines w first last).bind fun _ => (transparent_check w).bind fun _ => .pure _

theorem selectLines_yields (hw : w.cancelled = false) (first last : Nat) :
    ∃ folding, Yields w.Faithful (w.selectLines first last) ⟨first, last, folding⟩
      (w.Informed first last) := by
  refine ⟨((w.document.factsOf w.classifier first last).filterMap id).foldl
    (fun f l => f.merge l.folding) w.classifier.folding.closed, ?_⟩
  refine (lines_yields hw first last).bind ?_
  rw [check_of_not_cancelled hw, pure_bind]
  exact .pure _

/-- The lines that a selection takes in to balance its brackets become known. -/
theorem balance_yields (hw : w.cancelled = false) (fuel : Nat) (s : Selection)
    (hs : s.first ≤ s.last) :
    ∃ s', Yields (w.Informed s.first s.last) (w.balance fuel s) s'
      (w.Informed s'.first s'.last) := by
  induction fuel generalizing s with
  | zero => exact ⟨s, .pure s⟩
  | succ fuel ih =>
      have hmerge : ∀ line low high, low ≤ line ∧ line ≤ high →
          (∀ m, low ≤ m → m ≤ high → (s.first ≤ m ∧ m ≤ s.last) ∨ m = line) →
          ∃ folding, Yields (w.Informed s.first s.last) (w.mergeLine s.folding line) folding
            (w.Informed low high) := by
        intro line low high hline hnew
        have hyields := line_yields hw hline hnew
        cases hf : w.document.facts? w.classifier line with
        | none =>
            rw [hf] at hyields
            exact ⟨_, hyields.bind (.pure _)⟩
        | some f =>
            rw [hf] at hyields
            exact ⟨_, hyields.bind (.pure _)⟩
      unfold balance
      rw [check_of_not_cancelled hw]
      simp only [pure_bind]
      split
      · obtain ⟨folding, hfolding⟩ := hmerge (s.last + 1) s.first (s.last + 1)
          ⟨by omega, Nat.le_refl _⟩ (by omega)
        obtain ⟨s', hs'⟩ := ih { s with last := s.last + 1, folding } (Nat.le_succ_of_le hs)
        exact ⟨s', hfolding.bind hs'⟩
      split
      · obtain ⟨folding, hfolding⟩ := hmerge (s.first - 1) (s.first - 1) s.last
          ⟨Nat.le_refl _, by omega⟩ (by omega)
        obtain ⟨s', hs'⟩ := ih { s with first := s.first - 1, folding }
          (Nat.le_trans (Nat.sub_le _ _) hs)
        exact ⟨s', hfolding.bind hs'⟩
      · exact ⟨s, .pure s⟩

theorem transparent_expand (w : Workspace) (r : Range) (e : Expansion) :
    w.Transparent (w.expand r e) := by
  have hgrow : ∀ g least one other s, w.Transparent (do
      let s ← w.growTowards g least one s
      let s ← w.growTowards g least other s
      return w.document.lineRange s.first s.last) := fun g least one other s =>
    (transparent_growTowards w g least one s).bind fun s =>
      (transparent_growTowards w g least other s).bind fun _ => .pure _
  refine ⟨?_, fun hw _ => ?_⟩
  · refine (transparent_selectLines w _ _).safe.bind fun s =>
      (transparent_balance w _ s).safe.bind fun s => ?_
    split
    · exact .pure _
    · exact safe_get_bind fun c => (hgrow _ _ _ _ s).safe
  · obtain ⟨folding, hselected⟩ :=
      selectLines_yields hw (w.document.clamp r).start.line (w.document.clamp r).stop.line
    obtain ⟨s, hbalanced⟩ := balance_yields hw (w.document.lineCount + 1) ⟨_, _, folding⟩
      (w.document.fits_clamp r).line_le
    unfold expand
    cases hgrowth : e.growth? with
    | none =>
        exact ⟨w.document.lineRange s.first s.last, (), hselected.bind
          (hbalanced.bind (.mono (.pure _) (fun _ hc => hc) fun _ hc => hc.1))⟩
    | some g =>
        obtain ⟨a, -, ha⟩ := (hgrow g (((IndentRange.ofLines? true
          ((w.document.factsOf w.classifier s.first s.last).filterMap id)).map (·.least)).getD 0)
          (if 0 < s.folding.total then (Side.down, Side.up) else (Side.up, Side.down)).1
          (if 0 < s.folding.total then (Side.down, Side.up) else (Side.up, Side.down)).2
          s).steady hw ()
        refine ⟨a, (), hselected.bind (hbalanced.bind (.get_bind (fun c hc => ?_)
          (ha.mono (fun _ hc => hc.1) fun _ hc => hc)))⟩
        -- all lines of the balanced selection are known, so the cache agrees with the document
        rw [hc.slice_eq]

theorem transparent_select (w : Workspace) (r : Range) (e : Expansion) :
    w.Transparent (w.select r e) :=
  (transparent_expand w r e).bind fun _ => .pure _

end BlockOrder.Workspace
