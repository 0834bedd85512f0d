import BlockOrder.Proofs.Session.Transparency

/-!
# Where blocks start

Which line starts a block is decided by the lines of the block before it and by the first line of
all.  Deciding it takes four flags, which say enough about the lines of the current block, and
the brackets of all lines so far, which are those of the current block because brackets are
balanced wherever a block starts.
-/

namespace BlockOrder

/-! ## Brackets -/

namespace Folding

theorem level_merge (f g : Folding) (i : Nat) : (f.merge g).level i = f.level i + g.level i := by
  obtain ⟨as⟩ := f
  obtain ⟨bs⟩ := g
  simp only [merge, level]
  induction as generalizing bs i with
  | nil => simp [addLevels]
  | cons a as ih =>
      cases bs with
      | nil => simp [addLevels]
      | cons b bs =>
          cases i with
          | zero => simp [addLevels]
          | succ i => simpa [addLevels] using ih i bs

theorem hasOpen_eq_false_iff (f : Folding) : f.hasOpen = false ↔ ∀ i, f.level i = 0 := by
  simp only [hasOpen, List.any_eq_false, bne_iff_ne, ne_eq, Decidable.not_not, level]
  constructor
  · intro h i
    cases hi : f.levels[i]? with
    | none => rfl
    | some x => exact h x (List.mem_of_getElem? hi)
  · intro h x hx
    obtain ⟨i, hi⟩ := List.getElem?_of_mem hx
    simpa [hi] using h i

end Folding

namespace Blocks

variable {F : Nat → LineFacts} {first s line : Nat}

/-- How deep the lines from `s` to the one before `stop` nest the brackets of a pair. -/
def depth (F : Nat → LineFacts) (family s stop : Nat) : Int :=
  (List.range' s (stop - s)).foldl (fun depth n => depth + (F n).folding.level family) 0

theorem depth_self (F : Nat → LineFacts) (family s : Nat) : depth F family s s = 0 := by
  simp [depth]

theorem depth_succ {family stop : Nat} (h : s ≤ stop) :
    depth F family s (stop + 1) = depth F family s stop + (F stop).folding.level family := by
  have hrange : List.range' s (stop + 1 - s) = List.range' s (stop - s) ++ [stop] := by
    rw [Nat.succ_sub h, List.range'_concat]
    congr 2
    omega
  rw [depth, hrange, List.foldl_append]
  rfl

theorem depth_add {family t stop : Nat} (hst : s ≤ t) (ht : t ≤ stop) :
    depth F family s stop = depth F family s t + depth F family t stop := by
  induction ht with
  | refl => rw [depth_self, Int.add_zero]
  | step ht ih => rw [depth_succ (Nat.le_trans hst ht), depth_succ ht, ih, Int.add_assoc]

/-! ## Boundaries -/

/-- The last line with content from `s` to the one before `stop`. -/
structure LastContent (F : Nat → LineFacts) (s stop n : Nat) : Prop where
  le : s ≤ n
  lt : n < stop
  hasContent : (F n).hasContent = true
  last : ∀ m, n < m → m < stop → (F m).hasContent = false

/-- Line `i` starts a block after the block that starts with line `s`.  `first` is the first line
of all. -/
structure StartsBlock (F : Nat → LineFacts) (first s i : Nat) : Prop where
  valid : ∃ n, s ≤ n ∧ n < i ∧ (F n).valid = true
  notBlank : (F i).isBlank = false
  content : ∃ n, LastContent F s i n ∧ (F n).incomplete = false ∧
    ((F i).ignoresIndent = false ∨ (F n).complete = true)
  indent : (F i).indent = (F first).indent
  balanced : ∀ family, depth F family s i = 0

theorem LastContent.unique {stop n m : Nat} (hn : LastContent F s stop n)
    (hm : LastContent F s stop m) : n = m := by
  rcases Nat.lt_trichotomy n m with h | h | h
  · have := hn.last m h hm.lt
    rw [hm.hasContent] at this
    cases this
  · exact h
  · have := hm.last n h hn.lt
    rw [hn.hasContent] at this
    cases this

/-- What the flags say about the lines from `s` to the one before `line`. -/
structure Summary (F : Nat → LineFacts) (s line : Nat) (g : Gathered) : Prop where
  valid : g.valid = true ↔ ∃ n, s ≤ n ∧ n < line ∧ (F n).valid = true
  noContent : g.hasContent = false → ∀ n, s ≤ n → n < line → (F n).hasContent = false
  content : g.hasContent = true → ∃ n, LastContent F s line n ∧ g.complete = (F n).complete ∧
    g.incomplete = (F n).incomplete

theorem Summary.add {g : Gathered} (h : Summary F s line g) (hle : s ≤ line) :
    Summary F s (line + 1) (g.add (F line)) := by
  have hvalid : (g.valid || (F line).valid) = true ↔
      ∃ n, s ≤ n ∧ n < line + 1 ∧ (F n).valid = true := by
    rw [Bool.or_eq_true, h.valid]
    constructor
    · rintro (⟨n, hs, hn, hv⟩ | hv)
      · exact ⟨n, hs, by omega, hv⟩
      · exact ⟨line, hle, Nat.lt_succ_self line, hv⟩
    · rintro ⟨n, hs, hn, hv⟩
      rcases Nat.lt_or_eq_of_le (Nat.le_of_lt_succ hn) with hlt | rfl
      · exact .inl ⟨n, hs, hlt, hv⟩
      · exact .inr hv
  unfold Gathered.add
  split
  · next hcontent =>
      refine ⟨hvalid, by simp, fun _ =>
        ⟨line, ⟨hle, Nat.lt_succ_self line, hcontent, ?_⟩, rfl, rfl⟩⟩
      intro m hm hm'
      omega
  · next hcontent =>
      rw [Bool.not_eq_true] at hcontent
      refine ⟨hvalid, fun hno n hs hn => ?_, fun hyes => ?_⟩
      · rcases Nat.lt_or_eq_of_le (Nat.le_of_lt_succ hn) with hlt | rfl
        · exact h.noContent hno n hs hlt
        · exact hcontent
      · obtain ⟨n, hn, hrest⟩ := h.content hyes
        refine ⟨n, ⟨hn.le, Nat.lt_succ_of_lt hn.lt, hn.hasContent, fun m hm hm' => ?_⟩, hrest⟩
        rcases Nat.lt_or_eq_of_le (Nat.le_of_lt_succ hm') with hlt | rfl
        · exact hn.last m hm hlt
        · exact hcontent

theorem summary_nothing (F : Nat → LineFacts) (s : Nat) : Summary F s s .nothing :=
  ⟨by simp only [Gathered.nothing, Bool.false_eq_true, false_iff]; rintro ⟨n, hs, hn, -⟩; omega,
    fun _ n hs hn => by omega, by simp [Gathered.nothing]⟩

/-- The flags of the first line of all say as much as if they had been reset before it. -/
theorem summary_first (F : Nat → LineFacts) (s : Nat) :
    Summary F s (s + 1) (Gathered.first (F s)) := by
  have hadd := (summary_nothing F s).add (Nat.le_refl s)
  cases hcontent : (F s).hasContent with
  | true =>
      have heq : Gathered.nothing.add (F s) = Gathered.first (F s) := by
        simp [Gathered.add, Gathered.nothing, Gathered.first, hcontent]
      exact heq ▸ hadd
  | false =>
      refine ⟨?_, fun _ n hs hn => ?_, fun hyes => ?_⟩
      · have hvalid := hadd.valid
        simp only [Gathered.add, hcontent, Gathered.nothing, Bool.false_eq_true, if_false,
          Bool.false_or] at hvalid
        exact hvalid
      · obtain rfl : n = s := by omega
        exact hcontent
      · simp [Gathered.first, hcontent] at hyes

/-- The flags and the brackets decide whether a line starts a block. -/
theorem isFollowedBy_iff {g : Gathered} {folding : Folding} (h : Summary F s line g)
    (hfirst : first ≤ s) (hs : s ≤ line)
    (hfolding : ∀ family, folding.level family = depth F family first line)
    (hbalanced : ∀ family, depth F family first s = 0) :
    g.isFollowedBy (F first).indent folding (F line) = true ↔ StartsBlock F first s line := by
  have hdepth : folding.hasOpen = false ↔ ∀ family, depth F family s line = 0 := by
    rw [Folding.hasOpen_eq_false_iff]
    refine forall_congr' fun family => ?_
    rw [hfolding, depth_add hfirst hs, hbalanced, Int.zero_add]
  simp only [Gathered.isFollowedBy, Bool.and_eq_true, Bool.not_eq_true', Bool.or_eq_true,
    beq_iff_eq, hdepth]
  constructor
  · rintro ⟨⟨⟨⟨⟨⟨hvalid, hcontent⟩, hblank⟩, hincomplete⟩, hignores⟩, hindent⟩, hzero⟩
    obtain ⟨n, hn, hcomplete, hincomplete'⟩ := h.content hcontent
    exact ⟨h.valid.mp hvalid, hblank, ⟨n, hn, hincomplete' ▸ hincomplete, hcomplete ▸ hignores⟩,
      hindent, hzero⟩
  · rintro ⟨hvalid, hblank, ⟨n, hn, hincomplete, hignores⟩, hindent, hzero⟩
    have hcontent : g.hasContent = true := by
      cases hno : g.hasContent with
      | true => rfl
      | false =>
          have := h.noContent hno n hn.le hn.lt
          rw [hn.hasContent] at this
          exact this.symm
    obtain ⟨m, hm, hcomplete', hincomplete'⟩ := h.content hcontent
    obtain rfl := hn.unique hm
    exact ⟨⟨⟨⟨⟨⟨h.valid.mpr hvalid, hcontent⟩, hblank⟩, hincomplete' ▸ hincomplete⟩,
      hcomplete' ▸ hignores⟩, hindent⟩, hzero⟩

/-- The lines from `line` to the one before `stop` that start a block, if the block before them
starts with line `s`. -/
inductive Starts (F : Nat → LineFacts) (first stop : Nat) : (s line : Nat) → List Nat → Prop
  | done {s : Nat} : Starts F first stop s stop []
  | here {s line : Nat} {rest : List Nat} (lt : line < stop) (starts : StartsBlock F first s line)
      (next : Starts F first stop line (line + 1) rest) :
      Starts F first stop s line (line :: rest)
  | skip {s line : Nat} {rest : List Nat} (lt : line < stop)
      (not : ¬ StartsBlock F first s line) (next : Starts F first stop s (line + 1) rest) :
      Starts F first stop s line rest

/-- The lines that start a block according to the flags are those that do. -/
theorem starts_starts {room : Nat} {g : Gathered} {folding : Folding} (h : Summary F s line g)
    (hfirst : first ≤ s) (hs : s < line)
    (hfolding : ∀ family, folding.level family = depth F family first line)
    (hbalanced : ∀ family, depth F family first s = 0) :
    Starts F first (line + room) s line
      (starts (F first).indent g folding line
        ((List.range' line room).map fun n => some (F n))) := by
  induction room generalizing s line g folding with
  | zero => exact .done
  | succ room ih =>
      have hiff := isFollowedBy_iff h hfirst (Nat.le_of_lt hs) hfolding hbalanced
      have hmerged : ∀ family, (folding.merge (F line).folding).level family =
          depth F family first (line + 1) := by
        intro family
        rw [Folding.level_merge, hfolding, depth_succ (by omega)]
      rw [List.range'_succ, List.map_cons, starts]
      rw [show line + (room + 1) = line + 1 + room by omega]
      split
      · next hyes =>
          have hstarts := hiff.mp hyes
          refine .here (by omega) hstarts (ih ?_ (by omega) (Nat.lt_succ_self line) hmerged ?_)
          · exact (summary_nothing F line).add (Nat.le_refl line)
          · intro family
            rw [depth_add hfirst (Nat.le_of_lt hs), hbalanced, hstarts.balanced, Int.add_zero]
      · next hno =>
          refine .skip (by omega) (hiff.not.mp hno) (ih ?_ hfirst (by omega) hmerged hbalanced)
          exact h.add (Nat.le_of_lt hs)

theorem Starts.mem {stop : Nat} {ss : List Nat} (h : Starts F first stop s line ss) {t : Nat}
    (ht : t ∈ ss) : line ≤ t ∧ t < stop ∧ (F t).isBlank = false := by
  induction h with
  | done => cases ht
  | here lt starts next ih =>
      rcases List.mem_cons.mp ht with rfl | ht
      · exact ⟨Nat.le_refl t, lt, starts.notBlank⟩
      · have := ih ht
        exact ⟨by omega, this.2⟩
  | skip _ _ _ ih =>
      have := ih ht
      exact ⟨by omega, this.2⟩

/-! ## Blocks between boundaries -/

/-- The spans from one start to the line before the next. -/
def spansFrom (last : Nat) : Nat → List Nat → List LineSpan
  | s, [] => [⟨s, last⟩]
  | s, t :: rest => ⟨s, t - 1⟩ :: spansFrom last t rest

/-- No start opens a blank rest, so every start has a block of its own. -/
theorem spans_eq_spansFrom {isBlankFrom : Nat → Bool} {last : Nat} {ss : List Nat}
    (h : ∀ t ∈ s :: ss, isBlankFrom t = false) :
    spans isBlankFrom last (s :: ss) = spansFrom last s ss := by
  induction ss generalizing s with
  | nil => simp [spans, spansFrom, h s (by simp)]
  | cons t rest ih =>
      have hrest := ih fun u hu => h u (List.mem_cons_of_mem s hu)
      cases rest with
      | nil => simp [spans, spansFrom, h t (by simp)]
      | cons u rest =>
          rw [spans, hrest]
          · rfl
          · simp

theorem mem_first_of_mem_spansFrom {last : Nat} {ss : List Nat} {b : LineSpan}
    (h : b ∈ spansFrom last s ss) : b.first = s ∨ b.first ∈ ss := by
  induction ss generalizing s with
  | nil =>
      obtain rfl := List.mem_singleton.mp h
      exact .inl rfl
  | cons t rest ih =>
      rcases List.mem_cons.mp h with rfl | h
      · exact .inl rfl
      · exact .inr (List.mem_cons.mpr (ih h))

theorem exists_mem_spansFrom {last t : Nat} {ss : List Nat} (h : t ∈ ss) :
    ∃ b ∈ spansFrom last s ss, b.first = t := by
  induction ss generalizing s with
  | nil => cases h
  | cons u rest ih =>
      rcases List.mem_cons.mp h with rfl | h
      · cases rest with
        | nil => exact ⟨⟨t, last⟩, by simp [spansFrom], rfl⟩
        | cons v rest => exact ⟨⟨t, v - 1⟩, by simp [spansFrom], rfl⟩
      · obtain ⟨b, hb, hfirst⟩ := ih (s := u) h
        exact ⟨b, List.mem_cons_of_mem _ hb, hfirst⟩

/-- A line starts a block if and only if it does so after the block that holds the line before
it. -/
theorem Starts.exists_first_iff {last : Nat} {ss : List Nat}
    (h : Starts F first (last + 1) s line ss) (hs : s < line) {b : LineSpan}
    (hb : b ∈ spansFrom last s ss) {i : Nat} (hi : line ≤ i) (hlast : i ≤ last)
    (hholds : b.Holds (i - 1)) :
    (∃ b' ∈ spansFrom last s ss, b'.first = i) ↔ StartsBlock F first b.first i := by
  induction h with
  | done => omega
  | @here s line rest lt starts next ih =>
      rcases Nat.lt_or_eq_of_le hi with hlt | rfl
      · have hb' : b ∈ spansFrom last line rest := by
          rcases List.mem_cons.mp hb with rfl | hb
          · have := hholds.2
            simp only at this
            omega
          · exact hb
        rw [← ih (Nat.lt_succ_self line) hb' hlt]
        constructor
        · rintro ⟨b', hmem, hfirst⟩
          rcases List.mem_cons.mp hmem with rfl | hmem
          · simp only at hfirst
            omega
          · exact ⟨b', hmem, hfirst⟩
        · rintro ⟨b', hmem, hfirst⟩
          exact ⟨b', List.mem_cons_of_mem _ hmem, hfirst⟩
      · have hfirst : b.first = s := by
          rcases mem_first_of_mem_spansFrom hb with heq | hmem
          · exact heq
          · have hle : line ≤ b.first := by
              rcases List.mem_cons.mp hmem with heq | hmem
              · omega
              · have := (next.mem hmem).1
                omega
            have := hholds.1
            omega
        rw [hfirst]
        exact ⟨fun _ => starts, fun _ => exists_mem_spansFrom (by simp)⟩
  | @skip s line rest lt not next ih =>
      rcases Nat.lt_or_eq_of_le hi with hlt | rfl
      · exact ih (by omega) hb hlt
      · have hlater : ∀ t ∈ rest, line < t := fun t ht => (next.mem ht).1
        have hfirst : b.first = s := by
          rcases mem_first_of_mem_spansFrom hb with heq | hmem
          · exact heq
          · have := hlater _ hmem
            have := hholds.1
            omega
        rw [hfirst]
        refine ⟨?_, fun hstarts => absurd hstarts not⟩
        rintro ⟨b', hmem, rfl⟩
        rcases mem_first_of_mem_spansFrom hmem with heq | hmem
        · omega
        · exact absurd (hlater _ hmem) (Nat.lt_irrefl _)

/-- Brackets are balanced in every block that another one follows. -/
theorem Starts.depth_eq_zero {last : Nat} {ss : List Nat}
    (h : Starts F first (last + 1) s line ss) (hs : s < line) {b : LineSpan}
    (hb : b ∈ (spansFrom last s ss).dropLast) (family : Nat) :
    depth F family b.first (b.last + 1) = 0 := by
  induction h with
  | done => simp [spansFrom] at hb
  | @here s line rest lt starts next ih =>
      have hne : spansFrom last line rest ≠ [] := by cases rest <;> simp [spansFrom]
      rw [spansFrom, List.dropLast_cons_of_ne_nil hne] at hb
      rcases List.mem_cons.mp hb with rfl | hb
      · have hline : line - 1 + 1 = line := by omega
        rw [hline]
        exact starts.balanced family
      · exact ih (Nat.lt_succ_self line) hb
  | skip _ _ next ih => exact ih (by omega) hb

/-- The blocks of the lines from `first` to `last`: the spans tile the lines, they start where a
line starts a block after the block that holds the line before it, and in all of them but the
last one brackets are balanced. -/
structure Segmentation (F : Nat → LineFacts) (first last : Nat) (spans : List LineSpan) :
    Prop where
  tiles : Tiles last first spans
  starts : ∀ b ∈ spans, ∀ i, first < i → i ≤ last → b.Holds (i - 1) →
    ((∃ b' ∈ spans, b'.first = i) ↔ StartsBlock F first b.first i)
  balanced : ∀ b ∈ spans.dropLast, ∀ family, depth F family b.first (b.last + 1) = 0

/-- The facts about the lines from `first` to `last`, all of them known. -/
def known (F : Nat → LineFacts) (first last : Nat) : List (Option LineFacts) :=
  (List.range' first (last + 1 - first)).map fun n => some (F n)

theorem all_isBlank_drop_iff {last t : Nat} (ht : first ≤ t) :
    (((known F first last).drop (t - first)).all fun l => l.all LineFacts.isBlank) = true ↔
      ∀ n, t ≤ n → n ≤ last → (F n).isBlank = true := by
  rw [known, ← List.map_drop, List.drop_range', List.all_map, List.all_eq_true]
  simp only [List.mem_range'_1, Function.comp, Option.all_some]
  exact ⟨fun h n hn hn' => h n (by omega), fun h n hn => h n (by omega) (by omega)⟩

theorem exists_starts_tile {last : Nat} (hle : first ≤ last) :
    ∃ ss, Starts F first (last + 1) first (first + 1) ss ∧ tile first last (known F first last) =
      spans (fun t => ((known F first last).drop (t - first)).all fun l => l.all LineFacts.isBlank)
        last (first :: ss) := by
  have hknown : known F first last =
      some (F first) :: (List.range' (first + 1) (last - first)).map fun n => some (F n) := by
    rw [known, show last + 1 - first = last - first + 1 by omega, List.range'_succ, List.map_cons]
  have hstarts : Starts F first (first + 1 + (last - first)) first (first + 1)
      (starts (F first).indent (Gathered.first (F first)) (F first).folding (first + 1)
        ((List.range' (first + 1) (last - first)).map fun n => some (F n))) := by
    refine starts_starts (summary_first F first) (Nat.le_refl first) (Nat.lt_succ_self first)
      (fun family => ?_) fun family => depth_self F family first
    rw [depth_succ (Nat.le_refl first), depth_self, Int.zero_add]
  rw [show first + 1 + (last - first) = last + 1 by omega] at hstarts
  refine ⟨_, hstarts, ?_⟩
  rw [hknown]
  rfl

/-- Unless all lines are blank, every line that starts a block has a block of its own. -/
theorem tile_eq_spansFrom {last : Nat} (hle : first ≤ last)
    (hsome : ∃ n, first ≤ n ∧ n ≤ last ∧ (F n).isBlank = false) :
    ∃ ss, Starts F first (last + 1) first (first + 1) ss ∧
      tile first last (known F first last) = spansFrom last first ss := by
  obtain ⟨ss, hstarts, htile⟩ := exists_starts_tile (F := F) hle
  refine ⟨ss, hstarts, htile.trans (spans_eq_spansFrom ?_)⟩
  have hnot : ∀ t n, first ≤ t → t ≤ n → n ≤ last → (F n).isBlank = false →
      (((known F first last).drop (t - first)).all fun l => l.all LineFacts.isBlank) = false := by
    intro t n ht hn hn' hblank
    rw [Bool.eq_false_iff, Ne, all_isBlank_drop_iff ht]
    intro hall
    rw [hall n hn hn'] at hblank
    cases hblank
  intro t ht
  rcases List.mem_cons.mp ht with rfl | ht
  · obtain ⟨n, hn, hn', hblank⟩ := hsome
    exact hnot t n (Nat.le_refl t) hn hn' hblank
  · obtain ⟨hline, hstop, hblank⟩ := hstarts.mem ht
    exact hnot t t (by omega) (Nat.le_refl t) (by omega) hblank

/-- Lines that are all blank have no blocks, and all others have. -/
theorem tile_known {last : Nat} (hle : first ≤ last) :
    (tile first last (known F first last) = [] ∧
      ∀ n, first ≤ n → n ≤ last → (F n).isBlank = true) ∨
    (Segmentation F first last (tile first last (known F first last)) ∧
      ∃ n, first ≤ n ∧ n ≤ last ∧ (F n).isBlank = false) := by
  by_cases hblank : ∀ n, first ≤ n → n ≤ last → (F n).isBlank = true
  · left
    obtain ⟨ss, hstarts, htile⟩ := exists_starts_tile (F := F) hle
    have hnil : ss = [] := by
      refine List.eq_nil_iff_forall_not_mem.mpr fun t ht => ?_
      obtain ⟨hline, hstop, hnot⟩ := hstarts.mem ht
      rw [hblank t (by omega) (by omega)] at hnot
      cases hnot
    refine ⟨?_, hblank⟩
    rw [htile, hnil, spans, if_pos]
    exact (all_isBlank_drop_iff (Nat.le_refl first)).mpr hblank
  · right
    have hsome : ∃ n, first ≤ n ∧ n ≤ last ∧ (F n).isBlank = false := by
      simpa only [not_forall, exists_prop, Bool.not_eq_true] using hblank
    obtain ⟨ss, hstarts, hspans⟩ := tile_eq_spansFrom hle hsome
    have htiles : Tiles last first (spansFrom last first ss) := by
      refine hspans ▸ (tile_eq_nil_or_tiles hle (by simp [known])).resolve_left fun hnil => ?_
      rw [hspans] at hnil
      cases ss <;> cases hnil
    refine ⟨hspans ▸ ⟨htiles, fun b hb i hi hlast hholds => ?_, fun b hb family => ?_⟩, hsome⟩
    · exact hstarts.exists_first_iff (Nat.lt_succ_self first) hb hi hlast hholds
    · exact hstarts.depth_eq_zero (Nat.lt_succ_self first) hb family

end Blocks

/-! ## Calls -/

namespace Document

variable {d : Document}

/-- The facts about a line; beyond the document lines are empty. -/
def lineFacts (d : Document) (k : Classifier) (n : Nat) : LineFacts :=
  LineFacts.compute k (d.lineText n)

theorem facts?_eq (k : Classifier) {n : Nat} (h : n < d.lineCount) :
    d.facts? k n = some (d.lineFacts k n) := (d.compute_getD k h).symm

theorem factsOf_eq_known (k : Classifier) {first last : Nat} (h : last < d.lineCount) :
    d.factsOf k first last = Blocks.known (d.lineFacts k) first last := by
  refine List.map_congr_left fun n hn => ?_
  rw [List.mem_range'_1] at hn
  exact facts?_eq k (by omega)

theorem filterMap_factsOf (k : Classifier) {first last : Nat} (h : last < d.lineCount) :
    (d.factsOf k first last).filterMap id =
      (List.range' first (last + 1 - first)).map (d.lineFacts k) := by
  rw [factsOf_eq_known k h, Blocks.known, List.filterMap_map, ← List.filterMap_eq_map]
  rfl

theorem isBlank_lineFacts_of_le (k : Classifier) {n : Nat} (h : d.lineCount ≤ n) :
    (d.lineFacts k n).isBlank = true := by
  have hline : d.line? n = none := List.getElem?_eq_none h
  rw [lineFacts, lineText, hline]
  rfl

theorem isBlank_lineFacts (k : Classifier) {n : Nat} (h : n < d.lineCount) :
    (d.lineFacts k n).isBlank = d.isBlankLine n := by
  unfold lineCount at h
  simp [lineFacts, LineFacts.isBlank, LineFacts.compute, lineText, isBlankLine, line?, h]

end Document

namespace Session

/-- The session after queries about a document, some of them cancelled. -/
def askAll (s : Session) (d : Document) (queries : List (Bool × Query)) : Session :=
  queries.foldl (fun s q => (s.ask d q.1 q.2).2) s

theorem Stands.askAll {fresh s : Session} {d : Document} (h : Stands fresh d s)
    (queries : List (Bool × Query)) : Stands fresh d (s.askAll d queries) := by
  induction queries generalizing s with
  | nil => exact h
  | cons q rest ih => exact ih (h.ask q.1 q.2)

theorem Stands.blocks_eq {fresh s : Session} {d : Document} (h : Stands fresh d s) (r : Range) :
    (s.blocks d r false).1 = (Blocks.tile (d.clamp r).start.line (d.clamp r).stop.line
      (d.factsOf fresh.classifier (d.clamp r).start.line (d.clamp r).stop.line)).map
        fun b => d.lineRange b.first b.last := by
  obtain ⟨c, rfl, hc⟩ := h
  obtain ⟨c', hblocks, -⟩ := Workspace.blocks_yields (w := fresh.workspace d false) rfl r c hc
  exact congrArg (fun ran => ran.1.getD []) (run_of_ok (s := { fresh with cache := c }) hblocks)

/-- The blocks in a range, whatever the session has been asked before.  There are none if all lines
of the range are blank.  Otherwise they are whole lines that tile the lines of the range, and they
start and end where the facts about lines say so. -/
theorem blocks_segmentation (config : Config) (language : String) (d : Document) (r : Range)
    (earlier : List (Bool × Query)) :
    ((((start config language).askAll d earlier).blocks d r false).1 = [] ↔
      d.lineCount = 0 ∨
        ∀ n, (d.clamp r).start.line ≤ n → n ≤ (d.clamp r).stop.line → d.isBlankLine n = true) ∧
    ((((start config language).askAll d earlier).blocks d r false).1 ≠ [] →
      ∃ spans, (((start config language).askAll d earlier).blocks d r false).1 =
          (spans.map fun b => d.lineRange b.first b.last) ∧
        Blocks.Segmentation (d.lineFacts (start config language).classifier)
          (d.clamp r).start.line (d.clamp r).stop.line spans) := by
  rw [((stands_start config language d).askAll earlier).blocks_eq r]
  generalize (start config language).classifier = k
  have hfits := d.fits_clamp r
  by_cases hcount : d.lineCount = 0
  · have hnil : Blocks.tile (d.clamp r).start.line (d.clamp r).stop.line
        (d.factsOf k (d.clamp r).start.line (d.clamp r).stop.line) = [] := by
      rw [Document.factsOf, Nat.succ_sub hfits.line_le, List.range'_succ, List.map_cons,
        d.facts?_of_le k (by omega)]
      rfl
    rw [hnil]
    exact ⟨⟨fun _ => .inl hcount, fun _ => rfl⟩, fun hne => absurd rfl hne⟩
  · have hlast : (d.clamp r).stop.line < d.lineCount := by
      have := hfits.stop.line_le
      simp only [Document.lastLine] at this
      omega
    have hblankLine : ∀ n, n ≤ (d.clamp r).stop.line →
        (d.lineFacts k n).isBlank = d.isBlankLine n := fun n hn =>
      Document.isBlank_lineFacts k (Nat.lt_of_le_of_lt hn hlast)
    rw [Document.factsOf_eq_known k hlast]
    rcases Blocks.tile_known (F := d.lineFacts k) hfits.line_le with
      ⟨hnil, hblank⟩ | ⟨hseg, n, hfirst, hstop, hnot⟩
    · rw [hnil]
      refine ⟨⟨fun _ => .inr fun n hn hn' => ?_, fun _ => rfl⟩, fun hne => absurd rfl hne⟩
      rw [← hblankLine n hn']
      exact hblank n hn hn'
    · refine ⟨⟨fun hnil => ?_, fun hblank => ?_⟩, fun _ => ⟨_, rfl, hseg⟩⟩
      · exact absurd (List.map_eq_nil_iff.mp hnil) hseg.tiles.ne_nil
      · have hblankn := hblank.resolve_left hcount n hfirst hstop
        rw [← hblankLine n hstop, hnot] at hblankn
        cases hblankn

/-- Two lines that are not blank have blocks, also if a session has been asked for them before. -/
theorem blocks_segmentation_two_lines :
    (((start {} "text").askAll ⟨["b".toList, "a".toList]⟩ [(false, .blocks (.lines 0 1))]).blocks
        ⟨["b".toList, "a".toList]⟩ (.lines 0 1) false).1 ≠ [] ∧
      ∃ spans, (((start {} "text").askAll ⟨["b".toList, "a".toList]⟩
          [(false, .blocks (.lines 0 1))]).blocks
            ⟨["b".toList, "a".toList]⟩ (.lines 0 1) false).1 =
          (spans.map fun b => Document.lineRange ⟨["b".toList, "a".toList]⟩ b.first b.last) ∧
        Blocks.Segmentation (Document.lineFacts ⟨["b".toList, "a".toList]⟩
          (start {} "text").classifier) 0 1 spans := by
  obtain ⟨hnil, hsegmentation⟩ := blocks_segmentation {} "text" ⟨["b".toList, "a".toList]⟩
    (.lines 0 1) [(false, .blocks (.lines 0 1))]
  have hne : (((start {} "text").askAll ⟨["b".toList, "a".toList]⟩
      [(false, .blocks (.lines 0 1))]).blocks
        ⟨["b".toList, "a".toList]⟩ (.lines 0 1) false).1 ≠ [] := by
    intro h
    rcases hnil.mp h with hcount | hblank
    · exact absurd hcount (by decide)
    · exact absurd (hblank 0 (by decide) (by decide)) (by decide)
  exact ⟨hne, hsegmentation hne⟩

end Session

end BlockOrder
