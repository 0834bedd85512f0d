import BlockOrder.Proofs.Blocks.Boundaries

/-!
# Blocks of some of the blocks

The lines of several blocks that follow each other have these blocks and no others.  Which line
starts a block depends on the lines of the block before it and on the indentation of the first
line of all, and every line that starts a block is indented like the first one.  So it does not
matter with which of the blocks the lines begin, and what comes after them has no say.
-/

namespace BlockOrder

namespace Blocks

variable {F : Nat → LineFacts} {first first' last s : Nat} {spans : List LineSpan}

/-- The spans divide the lines from `s` to `last`: a span ends where the next line starts a block
after it, and no line in it does. -/
inductive Divides (F : Nat → LineFacts) (first last : Nat) : (s : Nat) → List LineSpan → Prop
  | one {s : Nat} (le : s ≤ last) (inside : ∀ i, s < i → i ≤ last → ¬ StartsBlock F first s i) :
      Divides F first last s [⟨s, last⟩]
  | cons {s mid : Nat} {rest : List LineSpan} (le : s ≤ mid)
      (inside : ∀ i, s < i → i ≤ mid → ¬ StartsBlock F first s i)
      (starts : StartsBlock F first s (mid + 1)) (next : Divides F first last (mid + 1) rest) :
      Divides F first last s (⟨s, mid⟩ :: rest)

theorem Starts.divides {line : Nat} {ss : List Nat} (h : Starts F first (last + 1) s line ss)
    (hs : s < line) (hinside : ∀ i, s < i → i < line → ¬ StartsBlock F first s i) :
    Divides F first last s (spansFrom last s ss) := by
  induction h with
  | done => exact .one (Nat.le_of_lt_succ hs) fun i hi hi' => hinside i hi (Nat.lt_succ_of_le hi')
  | @here s line rest lt starts next ih =>
      have hline : line - 1 + 1 = line := by omega
      refine .cons (by omega) (fun i hi hi' => hinside i hi (by omega)) (hline ▸ starts) ?_
      rw [hline]
      exact ih (Nat.lt_succ_self line) fun i hi hi' => absurd hi' (by omega)
  | @skip s line rest lt not next ih =>
      refine ih (Nat.lt_succ_of_lt hs) fun i hi hi' => ?_
      rcases Nat.lt_or_eq_of_le (Nat.le_of_lt_succ hi') with hlt | rfl
      · exact hinside i hi hlt
      · exact not

theorem tile_divides (hle : first ≤ last)
    (hsome : ∃ n, first ≤ n ∧ n ≤ last ∧ (F n).isBlank = false) :
    Divides F first last first (tile first last (known F first last)) := by
  obtain ⟨ss, hstarts, htile⟩ := tile_eq_spansFrom hle hsome
  rw [htile]
  exact hstarts.divides (Nat.lt_succ_self first) fun i hi hi' => absurd hi' (by omega)

theorem StartsBlock.of_indent_eq {i : Nat} (h : StartsBlock F first s i)
    (hindent : (F first).indent = (F first').indent) : StartsBlock F first' s i :=
  { h with indent := h.indent.trans hindent }

namespace Divides

theorem le (h : Divides F first last s spans) : s ≤ last := by
  induction h with
  | one le _ => exact le
  | cons le _ _ _ ih => omega

theorem ne_nil (h : Divides F first last s spans) : spans ≠ [] := by
  cases h <;> exact List.cons_ne_nil _ _

theorem bounds (h : Divides F first last s spans) {b : LineSpan} (hb : b ∈ spans) :
    s ≤ b.first ∧ b.first ≤ b.last ∧ b.last ≤ last := by
  induction h with
  | one le _ =>
      obtain rfl := List.mem_singleton.mp hb
      exact ⟨Nat.le_refl _, le, Nat.le_refl _⟩
  | cons le _ _ next ih =>
      rcases List.mem_cons.mp hb with rfl | hb
      · exact ⟨Nat.le_refl _, le, Nat.le_of_succ_le next.le⟩
      · have hrest := ih hb
        exact ⟨by omega, hrest.2⟩

theorem of_indent_eq (h : Divides F first last s spans)
    (hindent : (F first).indent = (F first').indent) : Divides F first' last s spans := by
  induction h with
  | one le inside =>
      exact .one le fun i hi hi' hstarts => inside i hi hi' (hstarts.of_indent_eq hindent.symm)
  | cons le inside starts _ ih =>
      exact .cons le (fun i hi hi' hstarts => inside i hi hi' (hstarts.of_indent_eq hindent.symm))
        (starts.of_indent_eq hindent) ih

theorem unique {spans' : List LineSpan} (h : Divides F first last s spans)
    (h' : Divides F first last s spans') : spans = spans' := by
  induction h generalizing spans' with
  | one le inside =>
      cases h' with
      | one _ _ => rfl
      | cons le' _ starts next => exact absurd starts (inside _ (by omega) next.le)
  | @cons s mid rest le inside starts next ih =>
      cases h' with
      | one _ inside' => exact absurd starts (inside' _ (by omega) next.le)
      | @cons _ mid' rest' le' inside' starts' next' =>
          have hmid : mid = mid' := by
            rcases Nat.lt_trichotomy mid mid' with hlt | heq | hlt
            · exact absurd starts (inside' _ (by omega) hlt)
            · exact heq
            · exact absurd starts' (inside _ (by omega) hlt)
          subst hmid
          rw [ih next']

/-- The spans from one of them on divide what is left of the lines.  Their first line is indented
like the first line of all, and not all of their lines are blank. -/
theorem drop (h : Divides F first last s spans) (hindent : (F s).indent = (F first).indent)
    (hsome : ∃ n, s ≤ n ∧ n ≤ last ∧ (F n).isBlank = false) {i : Nat} (hi : i < spans.length) :
    Divides F first last spans[i].first (spans.drop i) ∧
      (F spans[i].first).indent = (F first).indent ∧
      ∃ n, spans[i].first ≤ n ∧ n ≤ last ∧ (F n).isBlank = false := by
  induction i generalizing s spans with
  | zero => cases h <;> exact ⟨by constructor <;> assumption, hindent, hsome⟩
  | succ i ih =>
      cases h with
      | one _ _ => simp at hi
      | @cons _ mid rest le inside starts next =>
          exact ih next starts.indent ⟨_, Nat.le_refl _, next.le, starts.notBlank⟩
            (Nat.lt_of_succ_lt_succ hi)

/-- The spans up to one of them divide the lines up to its last one, and not all of these are
blank. -/
theorem take (h : Divides F first last s spans)
    (hvalid : ∀ n, (F n).valid = true → (F n).isBlank = false)
    (hsome : ∃ n, s ≤ n ∧ n ≤ last ∧ (F n).isBlank = false) {j : Nat} (hj : j < spans.length) :
    Divides F first spans[j].last s (spans.take (j + 1)) ∧
      ∃ n, s ≤ n ∧ n ≤ spans[j].last ∧ (F n).isBlank = false := by
  induction j generalizing s spans with
  | zero =>
      cases h with
      | one le inside => exact ⟨.one le inside, hsome⟩
      | cons le inside starts next =>
          obtain ⟨n, hn, hn', hv⟩ := starts.valid
          exact ⟨.one le inside, n, hn, Nat.le_of_lt_succ hn', hvalid n hv⟩
  | succ j ih =>
      cases h with
      | one _ _ => simp at hj
      | @cons _ mid rest le inside starts next =>
          obtain ⟨hrest, n, hn, hn', hblank⟩ :=
            ih next ⟨_, Nat.le_refl _, next.le, starts.notBlank⟩ (Nat.lt_of_succ_lt_succ hj)
          exact ⟨.cons le inside starts hrest, n, by omega, hn', hblank⟩

end Divides

/-- Divided again, the lines from one span to another give the spans from the one to the other. -/
theorem tile_restrict (hvalid : ∀ n, (F n).valid = true → (F n).isBlank = false)
    (h : Divides F first last first spans)
    (hsome : ∃ n, first ≤ n ∧ n ≤ last ∧ (F n).isBlank = false) {i j : Nat} (hij : i ≤ j)
    (hj : j < spans.length) :
    spans[i].first ≤ spans[j].last ∧
      tile spans[i].first spans[j].last (known F spans[i].first spans[j].last) =
        (spans.drop i).take (j + 1 - i) := by
  obtain ⟨hdrop, hindent, hleft⟩ := h.drop rfl hsome (Nat.lt_of_le_of_lt hij hj)
  obtain ⟨htake, hmiddle⟩ := hdrop.take hvalid hleft (j := j - i) (by
    rw [List.length_drop]
    omega)
  have hindex : i + (j - i) = j := Nat.add_sub_cancel' hij
  simp only [List.getElem_drop, hindex] at htake hmiddle
  rw [show j + 1 - i = j - i + 1 by omega]
  exact ⟨htake.le, (tile_divides htake.le hmiddle).unique (htake.of_indent_eq hindent.symm)⟩

end Blocks

theorem LineFacts.isBlank_of_valid (k : Classifier) {t : Text}
    (h : (LineFacts.compute k t).valid = true) : (LineFacts.compute k t).isBlank = false := by
  change k.isValidLine t = true at h
  change t.isBlank = false
  rw [Bool.eq_false_iff]
  intro hblank
  rw [← Text.trim_eq_nil_iff] at hblank
  simp [Classifier.isValidLine, hblank] at h

namespace Session

variable {fresh s : Session} {d : Document}

/-- The lines of a range are all blank and have no blocks, or its blocks divide them. -/
theorem Stands.blocks_cases (h : Stands fresh d s) (r : Range) :
    ((s.blocks d r false).1 = [] ∧ ∀ n, (d.clamp r).start.line ≤ n →
      n ≤ (d.clamp r).stop.line → (d.lineFacts fresh.classifier n).isBlank = true) ∨
    (d.clamp r).stop.line < d.lineCount ∧
      ∃ spans, (s.blocks d r false).1 = (spans.map fun b => d.lineRange b.first b.last) ∧
        Blocks.Divides (d.lineFacts fresh.classifier) (d.clamp r).start.line
          (d.clamp r).stop.line (d.clamp r).start.line spans ∧
        ∃ n, (d.clamp r).start.line ≤ n ∧ n ≤ (d.clamp r).stop.line ∧
          (d.lineFacts fresh.classifier n).isBlank = false := by
  have hfits := d.fits_clamp r
  have hle := hfits.line_le
  rw [h.blocks_eq r]
  rcases Nat.eq_zero_or_pos d.lineCount with hcount | hcount
  · left
    constructor
    · rw [Document.factsOf, Nat.succ_sub hle, List.range'_succ, List.map_cons,
        d.facts?_of_le _ (by omega)]
      rfl
    · intro n _ _
      exact Document.isBlank_lineFacts_of_le _ (by omega)
  · have hlast : (d.clamp r).stop.line < d.lineCount :=
      Document.lt_lineCount_of_le hfits.stop.line_le (List.length_pos_iff.mp hcount)
    rw [Document.factsOf_eq_known _ hlast]
    rcases Blocks.tile_known (F := d.lineFacts fresh.classifier) hle with
      ⟨hnil, hblank⟩ | ⟨-, hsome⟩
    · left
      rw [hnil]
      exact ⟨rfl, hblank⟩
    · exact .inr ⟨hlast, _, rfl, Blocks.tile_divides hle hsome, hsome⟩

theorem Stands.blocks_lines (h : Stands fresh d s) {a b : Nat} (hab : a ≤ b)
    (hb : b < d.lineCount) :
    (s.blocks d ⟨.ofOffset a 0, d.lineStop b⟩ false).1 =
      (Blocks.tile a b (Blocks.known (d.lineFacts fresh.classifier) a b)).map
        fun b => d.lineRange b.first b.last := by
  have hclamp := Document.clamp_of_fits (Document.fits_lines hab (Nat.le_sub_one_of_lt hb))
  rw [h.blocks_eq, hclamp]
  simp only [Position.ofOffset_line, Document.lineStop_line]
  rw [Document.factsOf_eq_known _ hb]

theorem Stands.blocks_restrict {s' : Session} (h : Stands fresh d s) (h' : Stands fresh d s')
    {r : Range} {blocks : List Range} (hblocks : (s.blocks d r false).1 = blocks) {i j : Nat}
    (hij : i ≤ j) (hj : j < blocks.length) :
    (s'.blocks d ⟨blocks[i].start, blocks[j].stop⟩ false).1 =
      (blocks.drop i).take (j + 1 - i) := by
  subst hblocks
  rcases h.blocks_cases r with ⟨hnil, -⟩ | ⟨hlast, spans, hspans, hdivides, hsome⟩
  · simp [hnil] at hj
  simp only [hspans, List.length_map] at hj ⊢
  have hvalid : ∀ n, (d.lineFacts fresh.classifier n).valid = true →
      (d.lineFacts fresh.classifier n).isBlank = false := fun _ => LineFacts.isBlank_of_valid _
  have hrange : ∀ b ∈ spans, d.lineRange b.first b.last =
      ⟨.ofOffset b.first 0, d.lineStop b.last⟩ := by
    intro b hb
    obtain ⟨-, hle, hstop⟩ := hdivides.bounds hb
    exact Document.lineRange_eq hle (Nat.le_sub_one_of_lt (Nat.lt_of_le_of_lt hstop hlast))
  have hi : i < spans.length := Nat.lt_of_le_of_lt hij hj
  obtain ⟨hle, htile⟩ := Blocks.tile_restrict hvalid hdivides hsome hij hj
  have hstop : spans[j].last < d.lineCount :=
    Nat.lt_of_le_of_lt (hdivides.bounds (List.getElem_mem hj)).2.2 hlast
  rw [List.getElem_map, List.getElem_map, hrange _ (List.getElem_mem hi),
    hrange _ (List.getElem_mem hj), h'.blocks_lines hle hstop, htile, List.map_take,
    List.map_drop]

/-- The blocks of the lines from one block to another are the blocks from the one to the other,
and a block is the only block of its lines, whatever the session has been asked before. -/
theorem blocks_of_blocks (config : Config) (language : String) (d : Document) (r : Range)
    (earlier later : List (Bool × Query)) {blocks : List Range}
    (hblocks : (((start config language).askAll d earlier).blocks d r false).1 = blocks) :
    (∀ i j (_ : i ≤ j) (_ : j < blocks.length),
      (((start config language).askAll d later).blocks d ⟨blocks[i].start, blocks[j].stop⟩
        false).1 = (blocks.drop i).take (j + 1 - i)) ∧
    ∀ b ∈ blocks, (((start config language).askAll d later).blocks d b false).1 = [b] := by
  have hearlier := (stands_start config language d).askAll earlier
  have hlater := (stands_start config language d).askAll later
  constructor
  · intro i j hij hj
    exact hearlier.blocks_restrict hlater hblocks hij hj
  · intro b hb
    obtain ⟨i, hi, rfl⟩ := List.getElem_of_mem hb
    have hone := hearlier.blocks_restrict hlater hblocks (Nat.le_refl i) hi
    rw [Nat.add_sub_cancel_left, List.drop_eq_getElem_cons hi] at hone
    exact hone

/-- Two lines that are not blank have at least one block, and a session that has been asked by a
call that was cancelled finds each of their blocks again. -/
theorem blocks_of_blocks_two_lines :
    ∃ blocks, blocks ≠ [] ∧
      (((start {} "text").askAll ⟨["b".toList, "a".toList]⟩ []).blocks
        ⟨["b".toList, "a".toList]⟩ (.lines 0 1) false).1 = blocks ∧
      ∀ b ∈ blocks, (((start {} "text").askAll ⟨["b".toList, "a".toList]⟩
        [(true, .formatEdits none)]).blocks ⟨["b".toList, "a".toList]⟩ b false).1 = [b] := by
  generalize hblocks : (((start {} "text").askAll ⟨["b".toList, "a".toList]⟩ []).blocks
    ⟨["b".toList, "a".toList]⟩ (.lines 0 1) false).1 = blocks
  refine ⟨blocks, ?_, rfl, (blocks_of_blocks {} "text" _ _ [] _ hblocks).2⟩
  rintro rfl
  rcases ((stands_start {} "text" ⟨["b".toList, "a".toList]⟩).askAll []).blocks_cases
    (.lines 0 1) with ⟨-, hblank⟩ | ⟨-, spans, hspans, hdivides, -⟩
  · have hfirst := hblank 0 (Nat.zero_le _) (Nat.zero_le _)
    rw [Document.isBlank_lineFacts _ (by decide)] at hfirst
    exact absurd hfirst (by decide)
  · rw [hblocks, eq_comm, List.map_eq_nil_iff] at hspans
    exact hdivides.ne_nil hspans

end Session

end BlockOrder
