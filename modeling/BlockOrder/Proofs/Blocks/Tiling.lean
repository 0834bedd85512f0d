import BlockOrder.Blocks.Query
import BlockOrder.Proofs.Document.Runs
import BlockOrder.Proofs.Lines.Work

/-!
# Blocks tile lines

Whatever is known about lines, their blocks are spans that follow each other without gap.  So
the blocks of a range run from its first line to its last, and the blocks inside a block run
from one of its lines to another.  Nothing is assumed about the cache.
-/

namespace BlockOrder

namespace Blocks

theorem mem_starts {indent : Nat} {g : Gathered} {folding : Folding} {line n : Nat}
    {ls : List (Option LineFacts)} (h : n ∈ starts indent g folding line ls) :
    line ≤ n ∧ n < line + ls.length := by
  induction ls generalizing g folding line with
  | nil => simp [starts] at h
  | cons l ls ih =>
      cases l with
      | none => simp [starts] at h
      | some f =>
          simp only [starts] at h
          simp only [List.length_cons]
          split at h
          · rcases List.mem_cons.mp h with rfl | h
            · omega
            · have := ih h
              omega
          · have := ih h
            omega

theorem starts_pairwise (indent : Nat) (g : Gathered) (folding : Folding) (line : Nat)
    (ls : List (Option LineFacts)) : (starts indent g folding line ls).Pairwise (· < ·) := by
  induction ls generalizing g folding line with
  | nil => exact .nil
  | cons l ls ih =>
      cases l with
      | none => exact .nil
      | some f =>
          simp only [starts]
          split
          · refine .cons ?_ (ih _ _ _)
            intro n hn
            exact (mem_starts hn).1
          · exact ih _ _ _

/-- With more than one start there is a block for each of them, but for blank lines at the
end. -/
theorem tiles_spans_of_two (isBlankFrom : Nat → Bool) {last s t : Nat} {rest : List Nat}
    (hsorted : (s :: t :: rest).Pairwise (· < ·)) (hlast : ∀ n ∈ s :: t :: rest, n ≤ last) :
    Tiles last s (spans isBlankFrom last (s :: t :: rest)) := by
  induction rest generalizing s t with
  | nil =>
      have hst : s < t := List.rel_of_pairwise_cons hsorted (by simp)
      have ht : t ≤ last := hlast t (by simp)
      simp only [spans]
      split
      · exact .one (by omega)
      · refine .cons (by omega) ?_
        rw [Nat.sub_add_cancel (by omega)]
        exact .one ht
  | cons u rest ih =>
      have hst : s < t := List.rel_of_pairwise_cons hsorted (by simp)
      have htiles := ih hsorted.of_cons fun n hn => hlast n (List.mem_cons_of_mem s hn)
      rw [spans]
      · refine .cons (by omega) ?_
        rw [Nat.sub_add_cancel (by omega)]
        exact htiles
      · simp

theorem tile_eq_nil_or_tiles {first last : Nat} {ls : List (Option LineFacts)}
    (hle : first ≤ last) (hlength : ls.length = last + 1 - first) :
    tile first last ls = [] ∨ Tiles last first (tile first last ls) := by
  unfold tile
  split
  · next f rest =>
      simp only [List.length_cons] at hlength
      generalize hstarts : starts f.indent (Gathered.first f) f.folding (first + 1) rest = ss
      cases ss with
      | nil =>
          simp only [spans]
          split
          · exact .inl rfl
          · exact .inr (.one hle)
      | cons t ss =>
          have hmem : ∀ n ∈ t :: ss, first < n ∧ n ≤ last := by
            intro n hn
            have := mem_starts (hstarts ▸ hn)
            omega
          have hsorted := starts_pairwise f.indent (Gathered.first f) f.folding (first + 1) rest
          rw [hstarts] at hsorted
          refine .inr (tiles_spans_of_two _ (.cons (fun n hn => (hmem n hn).1) hsorted) ?_)
          intro n hn
          rcases List.mem_cons.mp hn with rfl | hn
          · exact hle
          · exact (hmem n hn).2
  · exact .inl rfl

/-- A deeper run lies among the lines it was looked for in.  `r` is what has been found of it
before line `line`, starting from line `low`. -/
theorem deeperRun_within {indent low line : Nat} {run : Option LineSpan} {ls : List LineFacts}
    {r : LineSpan} (h : deeperRun indent line run ls = some r) (hline : low ≤ line)
    (hrun : ∀ s ∈ run, low ≤ s.first ∧ s.first ≤ s.last ∧ s.last < line) :
    low ≤ r.first ∧ r.first ≤ r.last ∧ r.last < line + ls.length := by
  induction ls generalizing line run with
  | nil =>
      simp only [deeperRun] at h
      exact hrun r h
  | cons f ls ih =>
      have hstep : ∀ s ∈ run, low ≤ s.first ∧ s.first ≤ s.last ∧ s.last < line + 1 := by
        intro s hs
        have := hrun s hs
        omega
      simp only [deeperRun] at h
      simp only [List.length_cons]
      split at h
      · have := ih h (by omega) hstep
        omega
      split at h
      · cases run with
        | none =>
            have := ih h (by omega) (by simp)
            omega
        | some s =>
            obtain rfl : s = r := by simpa using h
            have := hrun s rfl
            omega
      · refine (ih h (by omega) ?_).imp_right (.imp_right (by omega))
        intro s hs
        obtain rfl := Option.some.inj hs
        cases run with
        | none =>
            simp only [Option.map_none, Option.getD_none]
            omega
        | some s =>
            have := hrun s rfl
            simp only [Option.map_some, Option.getD_some]
            omega

theorem tile_map_eq_nil_or_runs {d : Document} {first last : Nat} {ls : List (Option LineFacts)}
    (hle : first ≤ last) (hlast : last ≤ d.lastLine) (hlength : ls.length = last + 1 - first) :
    ((tile first last ls).map fun s => d.lineRange s.first s.last) = [] ∨
      d.Runs (d.lineStop last) (.ofOffset first 0)
        ((tile first last ls).map fun s => d.lineRange s.first s.last) := by
  rcases tile_eq_nil_or_tiles hle hlength with hnil | htiles
  · exact .inl (by rw [hnil, List.map_nil])
  · exact .inr (Document.runs_of_tiles htiles hlast)

end Blocks

namespace Document

/-- The ranges run within a block from the start of one of its lines to the end of another. -/
def RunsWithin (d : Document) (block : Range) (ranges : List Range) : Prop :=
  ∃ first last, block.start.line ≤ first ∧ last ≤ block.stop.line ∧
    d.Runs (d.lineStop last) (.ofOffset first 0) ranges

end Document

namespace Workspace

variable {w : Workspace}

theorem check_of_not_cancelled (hw : w.cancelled = false) : w.check = pure () := by
  simp [check, hw]

theorem ensure_ok (hw : w.cancelled = false) (a b : Nat) (c : LineCache) :
    ∃ c', w.ensure a b c = .ok () c' := by
  rw [ensure, LineCache.ensure_eq, hw]
  split
  · exact ⟨_, rfl⟩
  split <;> exact ⟨_, rfl⟩

theorem lines_ok (hw : w.cancelled = false) (a b : Nat) (c : LineCache) :
    ∃ ls c', w.lines a b c = .ok ls c' ∧ ls.length = b + 1 - a := by
  obtain ⟨c', hc⟩ := ensure_ok hw a b c
  refine ⟨c'.slice a b, c', ?_, by simp [LineCache.slice]⟩
  unfold lines
  rw [bind_of_ok hc]
  rfl

theorem blocks_clamp (w : Workspace) (r : Range) : w.blocks (w.document.clamp r) = w.blocks r := by
  simp only [blocks, Document.clamp_clamp]

/-- The blocks in a range run over its lines, if there are any. -/
theorem blocks_ok (hw : w.cancelled = false) {r : Range} (hr : w.document.Fits r)
    (c : LineCache) :
    ∃ ranges c', w.blocks r c = .ok ranges c' ∧
      (ranges = [] ∨ w.document.Runs (w.document.lineStop r.stop.line)
        (.ofOffset r.start.line 0) ranges) := by
  obtain ⟨ls, c', hls, hlength⟩ := lines_ok hw r.start.line r.stop.line c
  refine ⟨_, c', ?_, Blocks.tile_map_eq_nil_or_runs hr.line_le hr.stop.line_le hlength⟩
  unfold blocks
  rw [check_of_not_cancelled hw, pure_bind, Document.clamp_of_fits hr, bind_of_ok hls]
  rfl

/-- The blocks inside a block run over some of its lines, if there are any. -/
theorem innerBlocks_ok (hw : w.cancelled = false) {block : Range} (hblock : w.document.Fits block)
    (c : LineCache) :
    ∃ ranges c', w.innerBlocks block c = .ok ranges c' ∧
      (ranges = [] ∨ w.document.RunsWithin block ranges) := by
  obtain ⟨ls, c', hls, hlength⟩ := lines_ok hw block.start.line block.stop.line c
  have hcount : (ls.filterMap id).length ≤ block.stop.line + 1 - block.start.line :=
    hlength ▸ List.length_filterMap_le id ls
  unfold innerBlocks
  rw [Document.clamp_of_fits hblock, bind_of_ok hls]
  cases IndentRange.ofLines? true (ls.filterMap id) with
  | none => exact ⟨_, c', rfl, .inl rfl⟩
  | some indent =>
      simp only [check_of_not_cancelled hw, pure_bind]
      cases hrun : Blocks.deeperRun indent.least block.start.line none (ls.filterMap id) with
      | none => exact ⟨_, c', rfl, .inl rfl⟩
      | some run =>
          obtain ⟨hfirst, hle, hlast⟩ := Blocks.deeperRun_within hrun (Nat.le_refl _) (by simp)
          have hline := hblock.line_le
          have hstop : run.last ≤ block.stop.line := by omega
          have hbound := Nat.le_trans hstop hblock.stop.line_le
          obtain ⟨ranges, c'', hblocks, hruns⟩ :=
            blocks_ok hw (Document.fits_lines hle hbound) c'
          rw [← Document.lineRange_eq hle hbound, Document.lineRange, blocks_clamp] at hblocks
          exact ⟨ranges, c'', hblocks, hruns.imp_right fun h => ⟨_, _, hfirst, hstop, h⟩⟩

end Workspace

end BlockOrder
