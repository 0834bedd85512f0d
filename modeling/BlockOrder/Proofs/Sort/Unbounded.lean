import BlockOrder.Proofs.Blocks.Inner
import BlockOrder.Proofs.Sort.Nesting
import BlockOrder.Session

/-!
# Sorting without bound

Sorting goes down into inner blocks no more often than the document has lines.  This bound is
never reached: the least indented line of a block lies outside its inner blocks, so these have
fewer lines than the block.  Hence the texts of blocks obey an equation that knows of no bound,
they are the only ones that do, and a depth of as many levels as there are lines is as good as
none.
-/

namespace BlockOrder

/-! ## Inner blocks are smaller -/

namespace Blocks

/-- The first deeper run of some lines, whatever they are, leaves one of them out. -/
theorem length_lt_of_deeperRun {first : Nat} {ls : List LineFacts} {indent : IndentRange}
    {run : LineSpan} (hindent : IndentRange.ofLines? true ls = some indent)
    (hrun : deeperRun indent.least first none ls = some run) :
    run.last - run.first + 1 < ls.length := by
  obtain ⟨f, rest, rfl⟩ : ∃ f rest, ls = f :: rest := by
    cases ls with
    | nil => cases hindent
    | cons f rest => exact ⟨f, rest, rfl⟩
  generalize hls : f :: rest = ls at hindent hrun ⊢
  have hpos : 0 < ls.length := by simp [← hls]
  -- numbered from `first` on, the lines are the values of a function
  let F : Nat → LineFacts := fun n => ls.getD (n - first) f
  have hF : (List.range' first (first + (ls.length - 1) + 1 - first)).map F = ls := by
    apply List.ext_getElem
    · simp
      omega
    · intro i hi hi'
      simp [F, hi']
  have hle : first ≤ first + (ls.length - 1) := Nat.le_add_right _ _
  have hm : LeastIndent F first (first + (ls.length - 1)) indent.least :=
    leastIndent_of_ofLines? hle (by rw [hF, hindent])
  rcases deeperRun_cases (found_none F first indent.least) (Nat.le_refl first)
      (Nat.add_sub_cancel' (Nat.le_succ_of_le hle)) with ⟨hno, -⟩ | ⟨run', hsome, hdeeper⟩
  · rw [hF, hrun] at hno
    cases hno
  · rw [hF, hrun] at hsome
    obtain rfl := Option.some.inj hsome
    obtain ⟨n, hn, hn', hout⟩ := hdeeper.exists_outside hm
    have hle := hdeeper.le
    have hlast := hdeeper.le_last
    have hordered := hdeeper.ordered
    simp only [LineSpan.Holds] at hout
    omega

end Blocks

theorem Position.line_le_later (a b : Position) : a.line ≤ (a.later b).line := by
  unfold Position.later
  split
  · next h => exact Position.line_le h
  · exact Nat.le_refl _

theorem Position.earlier_line_le (a b : Position) : (a.earlier b).line ≤ a.line := by
  unfold Position.earlier
  split
  · exact Nat.le_refl _
  · next h =>
      rw [Position.le_iff, not_or] at h
      exact Nat.le_of_not_lt h.1

namespace Split

theorem mem_changeFirst {α : Type} {f : α → α} {xs : List α} {x : α}
    (h : x ∈ changeFirst f xs) : ∃ y ∈ xs, x = y ∨ x = f y := by
  cases xs with
  | nil => cases h
  | cons y ys =>
      rcases List.mem_cons.mp h with rfl | h
      · exact ⟨y, List.mem_cons_self, .inr rfl⟩
      · exact ⟨x, List.mem_cons_of_mem y h, .inl rfl⟩

theorem mem_changeLast {α : Type} {f : α → α} {xs : List α} {x : α}
    (h : x ∈ changeLast f xs) : ∃ y ∈ xs, x = y ∨ x = f y := by
  fun_induction changeLast f xs with
  | case1 => cases h
  | case2 y =>
      obtain rfl := List.mem_singleton.mp h
      exact ⟨y, List.mem_cons_self, .inr rfl⟩
  | case3 y ys _ ih =>
      rcases List.mem_cons.mp h with rfl | h
      · exact ⟨x, List.mem_cons_self, .inl rfl⟩
      · obtain ⟨z, hz, hx⟩ := ih h
        exact ⟨z, List.mem_cons_of_mem y hz, hx⟩

theorem exists_mem_of_mem_inner {block : Range} {ranges : List Range} {split : Split}
    (h : of? block ranges = some split) {r : Range} (hr : r ∈ split.inner) :
    ∃ r' ∈ ranges, r'.start.line ≤ r.start.line ∧ r.stop.line ≤ r'.stop.line := by
  unfold of? at h
  dsimp only at h
  split at h
  · cases h
    obtain ⟨opened, hopened, hstop⟩ := mem_changeLast hr
    obtain ⟨r', hr', hstart⟩ := mem_changeFirst hopened
    refine ⟨r', hr', ?_⟩
    have hlater := Position.line_le_later r'.start block.start
    have hearlier := Position.earlier_line_le r'.stop block.stop
    rcases hstart with rfl | rfl <;> rcases hstop with rfl | rfl <;> simp_all
  · cases h

end Split

namespace Workspace

variable {w : Workspace} {k : KeyOrder}

theorem not_cancelled_of_check_ok {c c' : LineCache} (h : w.check c = .ok () c') :
    w.cancelled = false := by
  cases hcancelled : w.cancelled with
  | false => rfl
  | true =>
      rw [check, hcancelled] at h
      cases h

/-- Inner blocks run over fewer lines than the block has, if there are any.  Nothing is assumed
about the cache. -/
theorem runs_of_innerBlocks {block : Range} {c c' : LineCache} {ranges : List Range}
    (hblock : w.document.Fits block) (h : w.innerBlocks block c = .ok ranges c') :
    ranges = [] ∨ ∃ run : LineSpan, block.start.line ≤ run.first ∧ run.last ≤ block.stop.line ∧
      run.last - run.first + 1 < block.lineCount ∧
      w.document.Runs (w.document.lineStop run.last) (.ofOffset run.first 0) ranges := by
  unfold innerBlocks at h
  rw [Document.clamp_of_fits hblock] at h
  obtain ⟨ls, c₁, hls, h⟩ := exists_ok_of_bind h
  cases hindent : IndentRange.ofLines? true (ls.filterMap id) with
  | none =>
      simp only [hindent] at h
      cases h
      exact .inl rfl
  | some indent =>
      simp only [hindent] at h
      obtain ⟨⟨⟩, c₂, hcheck, h⟩ := exists_ok_of_bind h
      have hw := not_cancelled_of_check_ok hcheck
      cases hrun : Blocks.deeperRun indent.least block.start.line none (ls.filterMap id) with
      | none =>
          simp only [hrun] at h
          cases h
          exact .inl rfl
      | some run =>
          simp only [hrun] at h
          obtain ⟨ls', c₁', hls', hlength⟩ := lines_ok hw block.start.line block.stop.line c
          rw [hls] at hls'
          cases hls'
          have hfilter := List.length_filterMap_le id ls
          have hshorter := Blocks.length_lt_of_deeperRun hindent hrun
          obtain ⟨hfirst, hle, hlast⟩ := Blocks.deeperRun_within hrun (Nat.le_refl _) (by simp)
          have hline := hblock.line_le
          have hstop : run.last ≤ block.stop.line := by omega
          have hbound := Nat.le_trans hstop hblock.stop.line_le
          obtain ⟨ranges', c'', hblocks, hruns⟩ :=
            blocks_ok hw (Document.fits_lines hle hbound) c₂
          rw [← Document.lineRange_eq hle hbound, Document.lineRange, blocks_clamp, h] at hblocks
          cases hblocks
          refine hruns.imp_right fun hruns => ⟨run, hfirst, hstop, ?_, hruns⟩
          rw [Range.lineCount]
          omega

theorem fits_of_mem_inner {block r : Range} {c c' : LineCache} {ranges : List Range}
    {split : Split} (hblock : w.document.Fits block) (h : w.innerBlocks block c = .ok ranges c')
    (hsplit : Split.of? block ranges = some split) (hr : r ∈ split.inner) :
    w.document.Fits r ∧ r.lineCount < block.lineCount := by
  rcases runs_of_innerBlocks hblock h with rfl | ⟨run, hfirst, hlast, hfewer, hruns⟩
  · cases hsplit
  constructor
  · obtain ⟨split', hsplit', hcuts⟩ :=
      Document.cuts_of_runsWithin hblock ⟨run.first, run.last, hfirst, hlast, hruns⟩
    rw [hsplit] at hsplit'
    cases hsplit'
    exact hcuts.runs.fits_of_mem hr
  · obtain ⟨r', hr', hstart, hstop⟩ := Split.exists_mem_of_mem_inner hsplit hr
    obtain ⟨hbefore, hafter⟩ := hruns.fits_around hr'
    have hlow : run.first ≤ r'.start.line := hbefore.line_le
    have hhigh : r'.stop.line ≤ run.last := hafter.line_le
    rw [Range.lineCount]
    omega

/-! ## The equation of block texts -/

/-- The text of a block, put together from the texts that `text` gives for its inner blocks.  This
is how sorting goes down one level, and no account is kept of how many levels there have been. -/
def nestedText (w : Workspace) (k : KeyOrder) (text : Level → Range → Sorting Text) (l : Level)
    (block : Range) : Sorting Text := do
  let block := w.document.clamp block
  if l.depth.isZero || block.isSingleLine then w.editedText block
  else
    match Split.of? block (← w.innerRanges block) with
    | none => w.editedText block
    | some split =>
        let head ← w.editedText split.head
        let texts ← w.blockTexts (text l.inner) split.inner
        let sorted ← w.arrangeLevel k l.inner texts
        let tail ← w.editedText split.tail
        return head ++ Text.unlines sorted ++ tail

/-- The texts of blocks obey the equation of sorting without bound. -/
def Unbounded (w : Workspace) (k : KeyOrder) (text : Level → Range → Sorting Text) : Prop :=
  ∀ l block, text l block = w.nestedText k text l block

theorem blockText_succ (room : Nat) (l : Level) (block : Range) :
    w.blockText k (room + 1) l block = w.nestedText k (w.blockText k room) l block := rfl

theorem blockTexts_congr {text text' : Range → Sorting Text} {blocks : List Range}
    (h : ∀ r ∈ blocks, text r = text' r) :
    w.blockTexts text blocks = w.blockTexts text' blocks := by
  induction blocks with
  | nil => rfl
  | cons r rest ih =>
      rw [blockTexts, blockTexts, h r List.mem_cons_self,
        ih fun r' hr' => h r' (List.mem_cons_of_mem r hr')]

theorem ofWork_eq_ok {α : Type} {x : Work α} {s s' : SortState} {a : α}
    (h : SortStep.ofWork x s = .ok a s') : x s.cache = .ok a s'.cache := by
  unfold SortStep.ofWork at h
  split at h
  · next hx =>
      cases h
      exact hx
  · cases h

/-- The text of a block depends on the texts of blocks with fewer lines only. -/
theorem nestedText_congr {text text' : Level → Range → Sorting Text} {l : Level} {block : Range}
    (h : ∀ r, w.document.Fits r → r.lineCount < (w.document.clamp block).lineCount →
      text l.inner r = text' l.inner r) :
    w.nestedText k text l block = w.nestedText k text' l block := by
  unfold nestedText
  dsimp only
  split
  · rfl
  apply ExceptT.ext
  rw [run_lift_bind, run_lift_bind]
  funext s
  apply bind_congr_of_ok
  intro ranges s' hranges
  cases hsplit : Split.of? (w.document.clamp block) ranges with
  | none => rfl
  | some split =>
      have hinner : ∀ r ∈ split.inner, text l.inner r = text' l.inner r := by
        intro r hr
        obtain ⟨hfits, hfewer⟩ :=
          fits_of_mem_inner (w.document.fits_clamp block) (ofWork_eq_ok hranges) hsplit hr
        exact h r hfits hfewer
      simp only [blockTexts_congr hinner]

theorem Unbounded.unique {text text' : Level → Range → Sorting Text} (h : w.Unbounded k text)
    (h' : w.Unbounded k text') : text = text' := by
  have hblock : ∀ n l block, (w.document.clamp block).lineCount = n →
      text l block = text' l block := by
    intro n
    induction n using Nat.strong_induction_on with
    | _ n ih =>
        intro l block hn
        rw [h l block, h' l block]
        apply nestedText_congr
        intro r hfits hfewer
        refine ih r.lineCount (hn ▸ hfewer) l.inner r ?_
        rw [Document.clamp_of_fits hfits]
  funext l block
  exact hblock _ l block rfl

/-- A block has no more levels than lines, so with that much room the texts of blocks do not change
if there is more. -/
theorem blockText_succ_eq {room : Nat} {l : Level} {block : Range}
    (h : (w.document.clamp block).lineCount ≤ room + 1) :
    w.blockText k (room + 1) l block = w.blockText k room l block := by
  induction room generalizing l block with
  | zero =>
      have hsingle : (w.document.clamp block).isSingleLine = true := by
        have hle := (w.document.fits_clamp block).line_le
        rw [Range.lineCount] at h
        rw [Range.isSingleLine, beq_iff_eq]
        omega
      rw [blockText_succ, nestedText]
      simp only [hsingle, Bool.or_true, if_true]
      rfl
  | succ room ih =>
      rw [blockText_succ, blockText_succ]
      apply nestedText_congr
      intro r hfits hfewer
      apply ih
      rw [Document.clamp_of_fits hfits]
      omega

theorem unbounded_blockText (w : Workspace) (k : KeyOrder) :
    w.Unbounded k (w.blockText k w.document.lineCount) := by
  intro l block
  rw [← blockText_succ, blockText_succ_eq]
  have hstop := (w.document.fits_clamp block).stop.line_le
  rw [Document.lastLine] at hstop
  rw [Range.lineCount]
  omega

/-! ## Depths -/

theorem blockText_limited {room n : Nat} (h : room ≤ n) (skip : Nat) (block : Range) :
    w.blockText k room ⟨.limited n, skip⟩ block = w.blockText k room ⟨.unbounded, skip⟩ block := by
  induction room generalizing n skip block with
  | zero => rfl
  | succ room ih =>
      have hpos : Depth.isZero (.limited n) = false := by
        simp [Depth.isZero]
        omega
      have hinner : w.blockText k room (Level.inner ⟨.limited n, skip⟩) =
          w.blockText k room (Level.inner ⟨.unbounded, skip⟩) := by
        funext r
        exact ih (by omega) (skip - 1) r
      rw [blockText_succ, blockText_succ, nestedText, nestedText, hinner, hpos]
      rfl

def sortBlocksBy (w : Workspace) (text : Level → Range → Sorting Text) (o : SortOptions)
    (blocks : List Range) (pending : Pending) : SortWork (List Text × Pending) := fun cache =>
  let l : Level := ⟨o.depth, o.skipParents⟩
  let sorted : Sorting (List Text) := do
    let texts ← w.blockTexts (text l) blocks
    w.arrangeLevel o.order l texts
  match sorted ⟨cache, pending, o.seed.map Keystream.ofSeed⟩ with
  | .ok texts s => .ok (texts.map (·, s.pending)) s.cache
  | .error e s => .error e s.cache

theorem sortBlocks_eq_sortBlocksBy (w : Workspace) (o : SortOptions) (blocks : List Range)
    (pending : Pending) : w.sortBlocks o blocks pending =
      w.sortBlocksBy (w.blockText o.order w.document.lineCount) o blocks pending := rfl

theorem sortBlocks_limited (o : SortOptions) {n : Nat} (h : w.document.lineCount ≤ n)
    (blocks : List Range) (pending : Pending) :
    w.sortBlocks { o with depth := .limited n } blocks pending =
      w.sortBlocks { o with depth := .unbounded } blocks pending := by
  have htext : w.blockText o.order w.document.lineCount ⟨.limited n, o.skipParents⟩ =
      w.blockText o.order w.document.lineCount ⟨.unbounded, o.skipParents⟩ :=
    funext fun block => blockText_limited h o.skipParents block
  rw [sortBlocks_eq_sortBlocksBy, sortBlocks_eq_sortBlocksBy]
  unfold sortBlocksBy
  simp only [htext]
  rfl

end Workspace

namespace Session

/-- A depth of at least as many levels as the document has lines sorts as no bound on the depth
does.  There is one way to give texts to blocks that goes down into inner blocks without counting
levels, it sorts as sorting does, and it goes down into blocks with fewer lines only. -/
theorem sortBlocks_unbounded (s : Session) (d : Document) (o : SortOptions)
    (blocks : List Range) (pending : Pending) (cancelled : Bool) {n : Nat}
    (hn : d.lineCount ≤ n) :
    s.sortBlocks d { o with depth := .limited n } blocks pending cancelled =
        s.sortBlocks d { o with depth := .unbounded } blocks pending cancelled ∧
      (∃! text, (s.workspace d cancelled).Unbounded o.order text) ∧
      (∀ text, (s.workspace d cancelled).Unbounded o.order text →
        (s.workspace d cancelled).sortBlocksBy text o blocks pending =
          (s.workspace d cancelled).sortBlocks o blocks pending) ∧
      ∀ block c ranges c' split,
        (s.workspace d cancelled).innerBlocks (d.clamp block) c = .ok ranges c' →
        Split.of? (d.clamp block) ranges = some split →
        ∀ r ∈ split.inner, r.lineCount < (d.clamp block).lineCount := by
  have hsorting := Workspace.unbounded_blockText (s.workspace d cancelled) o.order
  refine ⟨?_, ⟨_, hsorting, fun text htext => htext.unique hsorting⟩, ?_, ?_⟩
  · rw [sortBlocks, sortBlocks, Workspace.sortBlocks_limited o hn]
  · intro text htext
    rw [Workspace.sortBlocks_eq_sortBlocksBy, htext.unique hsorting]
  · intro block c ranges c' split hranges hsplit r hr
    exact (Workspace.fits_of_mem_inner (d.fits_clamp block) hranges hsplit hr).2

/-- Three levels, of which the innermost is reached at depth two. -/
def threeLevels : Document :=
  ⟨["f \x7b".toList, "  b \x7b".toList, "    y".toList, "    x".toList, "  \x7d".toList,
    "  a".toList, "\x7d".toList]⟩

theorem sortBlocks_unbounded_three_levels :
    threeLevels.lineCount ≤ 7 ∧
      (start {} "typescript").sortBlocks threeLevels
          { order := .ofOptions {} .asc, depth := .limited 7 } [threeLevels.whole] .none false =
        (start {} "typescript").sortBlocks threeLevels
          { order := .ofOptions {} .asc, depth := .unbounded } [threeLevels.whole] .none false := by
  have hcount : threeLevels.lineCount ≤ 7 := by decide
  exact ⟨hcount, (sortBlocks_unbounded (start {} "typescript") threeLevels
    { order := .ofOptions {} .asc } [threeLevels.whole] .none false hcount).1⟩

end Session

end BlockOrder
