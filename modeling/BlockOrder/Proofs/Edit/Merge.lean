import BlockOrder.Edit.Pending
import BlockOrder.Proofs.Document.Runs
import BlockOrder.Proofs.Edit.Piecewise

/-!
# What becomes of pending edits

In a document without stray break characters an edit inside a block is found in the text of the
block where it is in the document.  Hence a merge replaces the text of every edit that it applies
and nothing else: edits are taken or stay pending, and characters are accounted for.
-/

namespace BlockOrder

/-! ## Plain documents -/

namespace Document

variable {d : Document}

/-- No line of the document has a break character in it. -/
def Plain (d : Document) : Prop := ∀ line ∈ d.lines, ∀ x ∈ line, isBreakChar x = false

instance (d : Document) : Decidable d.Plain :=
  @List.decidableBAll _ (fun line => ∀ x ∈ line, isBreakChar x = false)
    (fun line => List.decidableBAll (fun x => isBreakChar x = false) line) d.lines

theorem Plain.lineText (h : d.Plain) (n : Nat) : ∀ x ∈ d.lineText n, isBreakChar x = false := by
  unfold Document.lineText line?
  cases hline : d.lines[n]? with
  | none => simp
  | some line => exact h line (List.mem_of_getElem? hline)

theorem Plain.newline_notMem (h : d.Plain) (n : Nat) : '\n' ∉ d.lineText n := fun hmem =>
  absurd (h.lineText n _ hmem) (by decide)

theorem Plain.before (h : d.Plain) (p : Position) : Text.Plain (d.before p) := by
  intro x hx hbreak
  rcases mem_before hx with hnewline | ⟨line, hline, hmem⟩
  · exact hnewline
  · rw [h line hline x hmem] at hbreak
    cases hbreak

/-- Every line before a position has its newline before it. -/
theorem Plain.count_before (h : d.Plain) {p : Position} (hp : d.Inside p) :
    (d.before p).count '\n' = p.line := by
  have hended : ∀ ls : List Text, (∀ line ∈ ls, '\n' ∉ line) →
      (Text.ended ls).count '\n' = ls.length := by
    intro ls hls
    induction ls with
    | nil => rfl
    | cons line ls ih =>
        have hline := List.count_eq_zero.mpr (hls line (by simp))
        rw [Text.ended_cons, List.count_append, List.count_cons_self, hline,
          ih fun x hx => hls x (by simp [hx]), List.length_cons, Nat.zero_add]
  have hcolumn : '\n' ∉ (d.lineText p.line).take (p.column.within (d.lineLength p.line)) :=
    fun hmem => h.newline_notMem p.line (List.mem_of_mem_take hmem)
  have hlines : ∀ line ∈ d.lines.take p.line, '\n' ∉ line := fun line hline hmem =>
    absurd (h line (List.mem_of_mem_take hline) _ hmem) (by decide)
  have hline := hp.line_le
  rw [Document.before, List.count_append, hended _ hlines, List.count_eq_zero.mpr hcolumn,
    List.length_take]
  simp only [lastLine, lineCount] at hline
  omega

theorem Plain.slice (h : d.Plain) (r : Range) : Text.Plain (d.slice r) := by
  have hbefore := h.before (d.clamp r).stop
  rw [← before_append_slice (fits_clamp d r), Text.plain_append] at hbefore
  rw [← slice_clamp]
  exact hbefore.2

theorem Plain.count_slice (h : d.Plain) {r : Range} (hr : d.Fits r) :
    (d.slice r).count '\n' = r.stop.line - r.start.line := by
  have hcount := congrArg (List.count '\n') (before_append_slice hr)
  rw [List.count_append, h.count_before hr.start, h.count_before hr.stop] at hcount
  omega

theorem slice_of_line_eq {line x y : Nat} (h : d.Fits ⟨.ofOffset line x, .ofOffset line y⟩) :
    d.slice ⟨.ofOffset line x, .ofOffset line y⟩ = ((d.lineText line).take y).drop x := by
  obtain ⟨⟨_, _, hp, -, hx⟩, ⟨_, _, hq, -, hy⟩, hle⟩ := id h
  obtain ⟨rfl, rfl⟩ := Position.ofOffset_inj.mp hp
  obtain ⟨rfl, rfl⟩ := Position.ofOffset_inj.mp hq
  have hxy : x ≤ y := by simpa using hle
  have hbefore := before_append_slice h
  simp only [Document.before, Position.ofOffset_line, Position.ofOffset_column, Column.within,
    Nat.min_eq_left hx, Nat.min_eq_left hy, List.append_assoc, List.append_cancel_left_eq]
    at hbefore
  have hlength : ((d.lineText line).take x).length = x := by
    rw [lineLength_eq] at hx
    exact List.length_take_of_le hx
  rw [← hbefore, List.drop_left' hlength]

/-- The lines of the text of a range: as many as the range has, and the last one as long as the
last column says. -/
theorem Plain.exists_lines_slice (h : d.Plain) {r : Range} (hr : d.Fits r) :
    ∃ init last, (d.slice r).lines = init ++ [last] ∧
      init.length = r.stop.line - r.start.line ∧
      (r.start.line = r.stop.line → r.stop.column.since r.start.column = .char last.length) ∧
      (r.start.line < r.stop.line → r.stop.column = .char last.length) := by
  obtain ⟨p, q⟩ := r
  obtain ⟨⟨a, x, rfl, ha, hx⟩, ⟨b, y, rfl, hb, hy⟩, hle⟩ := id hr
  simp only [Position.ofOffset_le_ofOffset, Position.ofOffset_line,
    Position.ofOffset_column] at hle ⊢
  have hshort : ((d.lineText b).take y).length = y := by
    rw [lineLength_eq] at hy
    exact List.length_take_of_le hy
  rcases hle with hlt | ⟨rfl, hxy⟩
  · have hstop : d.Inside (d.lineStop (b - 1)) := inside_lineStop (by omega)
    have hfirst : d.Fits ⟨.ofOffset a x, d.lineStop (b - 1)⟩ :=
      ⟨hr.start, hstop, hr.start.le_lineStop (by simp only [Position.ofOffset_line]; omega)⟩
    have hlast : d.Fits ⟨.ofOffset b 0, .ofOffset b y⟩ :=
      ⟨inside_ofOffset hb (Nat.zero_le _), hr.stop, by simp⟩
    have hcount := h.count_slice hfirst
    have hz : '\n' ∉ (d.lineText b).take y := fun hmem =>
      h.newline_notMem b (List.mem_of_mem_take hmem)
    refine ⟨(d.slice ⟨.ofOffset a x, d.lineStop (b - 1)⟩).lines, (d.lineText b).take y, ?_, ?_,
      fun heq => absurd heq (Nat.ne_of_lt hlt), fun _ => by rw [hshort]⟩
    · rw [slice_eq_parted hr (b - 1) (by simp only [Position.ofOffset_line]; omega)
        (by simp only [Position.ofOffset_line]; omega), Text.lines_append_newline,
        Nat.sub_add_cancel (by omega), slice_of_line_eq hlast, List.drop_zero,
        Text.lines_eq_singleton hz]
    · rw [Text.length_lines, hcount]
      simp only [Position.ofOffset_line, lineStop_line]
      omega
  · have hz : '\n' ∉ ((d.lineText a).take y).drop x := fun hmem =>
      h.newline_notMem a (List.mem_of_mem_take (List.mem_of_mem_drop hmem))
    refine ⟨[], ((d.lineText a).take y).drop x, ?_, by simp, ?_,
      fun hlt => absurd hlt (Nat.lt_irrefl a)⟩
    · rw [slice_of_line_eq hr, Text.lines_eq_singleton hz, List.nil_append]
    · intro _
      rw [List.length_drop, hshort]
      rfl

end Document

/-! ## Merging -/

namespace Edit

variable {d : Document}

/-- A position in a block is found in the text of the block behind the text in front of it. -/
theorem offsetIn_eq (hd : d.Plain) {s p q : Position} (hsp : d.Fits ⟨s, p⟩)
    (hpq : d.Fits ⟨p, q⟩) : offsetIn s (d.slice ⟨s, q⟩) p = (d.slice ⟨s, p⟩).length := by
  obtain ⟨init, last, hlines, hlength, hsame, hlater⟩ := hd.exists_lines_slice hsp
  obtain ⟨first, rest, hrest⟩ := List.exists_cons_of_ne_nil (d.slice ⟨p, q⟩).lines_ne_nil
  have hplain := hd.slice ⟨s, q⟩
  have hall : (d.slice ⟨s, q⟩).lines = init ++ (last ++ first) :: rest := by
    rw [← Document.slice_append_slice hsp hpq]
    exact Text.lines_append hlines hrest
  have hfront : d.slice ⟨s, p⟩ = Text.ended init ++ last := by
    rw [← Text.unlines_lines (d.slice ⟨s, p⟩), hlines, Text.unlines_append_cons, Text.begun_nil,
      List.append_nil]
  have hget : ((d.slice ⟨s, q⟩).brokenLines.map Text.withoutNewline)[init.length]? =
      some (last ++ first) := by
    rw [Text.map_withoutNewline_brokenLines hplain, hall]
    simp
  rw [List.getElem?_map, Option.map_eq_some_iff] at hget
  obtain ⟨line, hline, hbare⟩ := hget
  have hstart : (d.slice ⟨s, q⟩).lineStart init.length = (Text.ended init).length := by
    rw [Text.lineStart_eq hplain (by rw [hall]; simp), hall, List.take_left]
  have hcolumn : (if init.length = 0 then p.column.since s.column else p.column) =
      .char last.length := by
    have hle : s.line ≤ p.line := hsp.line_le
    change init.length = p.line - s.line at hlength
    split
    · exact hsame (by change s.line = p.line; omega)
    · exact hlater (by change s.line < p.line; omega)
  have hdiff : p.line - s.line = init.length := hlength.symm
  simp only [offsetIn, hdiff, hline, hstart, hcolumn, hbare, hfront, Column.within,
    List.length_append]
  omega

/-- What a merge has come to after some edits: some of them were applied and the others rejected.
Up to `appliedEnd` the text of the block has been replaced by `done`, the rest is as it was, and
`done` differs from what it replaces by the edits that were applied. -/
def Accounted (d : Document) (base : Text) (seen : List Edit) (m : Merging) : Prop :=
  ∃ applied done, seen.Perm (applied ++ m.rejected) ∧ m.text = done ++ base.drop m.appliedEnd ∧
    m.appliedEnd ≤ base.length ∧ (done.length : Int) = m.appliedEnd + m.shift ∧
    (done ++ applied.flatMap fun e => d.slice e.range).Perm
      (base.take m.appliedEnd ++ applied.flatMap Edit.text)

/-- An edit inside a block. -/
structure Within (d : Document) (block : Range) (e : Edit) : Prop where
  before : d.Fits ⟨block.start, e.range.start⟩
  fits : d.Fits e.range
  after : d.Fits ⟨e.range.stop, block.stop⟩

/-- The text of a block around an edit inside it. -/
theorem Within.slice_eq {block : Range} {e : Edit} (h : Within d block e) :
    d.slice block = d.slice ⟨block.start, e.range.start⟩ ++ d.slice e.range ++
      d.slice ⟨e.range.stop, block.stop⟩ := by
  rw [Document.slice_append_slice h.before h.fits,
    Document.slice_append_slice (h.before.trans h.fits) h.after]

theorem Within.offsetIn_start (hd : d.Plain) {block : Range} {e : Edit} (h : Within d block e) :
    offsetIn block.start (d.slice block) e.range.start =
      (d.slice ⟨block.start, e.range.start⟩).length :=
  offsetIn_eq hd h.before (.trans h.fits h.after)

theorem Within.offsetIn_stop (hd : d.Plain) {block : Range} {e : Edit} (h : Within d block e) :
    offsetIn block.start (d.slice block) e.range.stop =
      (d.slice ⟨block.start, e.range.start⟩).length + (d.slice e.range).length := by
  rw [← List.length_append, Document.slice_append_slice h.before h.fits]
  exact offsetIn_eq hd (h.before.trans h.fits) h.after

/-- An edit inside a block is found in the text of the block with the text that it is about. -/
theorem Within.slice_range (hd : d.Plain) {block : Range} {e : Edit} (h : Within d block e) :
    ((d.slice block).drop (firstIn block.start (d.slice block) e)).take
      (lastIn block.start (d.slice block) e - firstIn block.start (d.slice block) e) =
        d.slice e.range := by
  have hfirst : firstIn block.start (d.slice block) e =
      (d.slice ⟨block.start, e.range.start⟩).length := h.offsetIn_start hd
  have hlast : lastIn block.start (d.slice block) e =
      (d.slice ⟨block.start, e.range.start⟩).length + (d.slice e.range).length := by
    rw [lastIn, hfirst, h.offsetIn_stop hd, Nat.max_eq_right (Nat.le_add_right _ _)]
  rw [hlast, hfirst, Nat.add_sub_cancel_left, h.slice_eq, List.append_assoc, List.drop_left,
    List.take_left]

theorem Accounted.accept {start : Position} {base : Text} {m : Merging} {seen : List Edit}
    {e : Edit} (hm : Accounted d base seen m) (hfirst : m.appliedEnd ≤ firstIn start base e)
    (hslice : (base.drop (firstIn start base e)).take
      (lastIn start base e - firstIn start base e) = d.slice e.range) :
    Accounted d base (seen ++ [e]) (m.step start base e) := by
  obtain ⟨applied, done, hseen, htext, hend, hlength, hperm⟩ := hm
  have hreached : Reached base done m := ⟨htext, hend, hlength⟩
  obtain ⟨-, hlast, hrejected, hstep⟩ := hreached.accept hfirst
  refine ⟨applied ++ [e], _, ?_, hstep.text, hstep.within, hstep.shift, ?_⟩
  · rw [hrejected, List.append_assoc]
    refine (hseen.append_right [e]).trans ?_
    rw [List.append_assoc]
    exact .append_left applied List.perm_append_comm
  · have htaken : base.take (lastIn start base e) = base.take m.appliedEnd ++
        (base.drop m.appliedEnd).take (firstIn start base e - m.appliedEnd) ++
          d.slice e.range := by
      rw [← hslice, ← List.take_add, Nat.add_sub_cancel' hfirst, ← List.take_add,
        Nat.add_sub_cancel' (firstIn_le_lastIn start base e)]
    rw [hlast, htaken, List.perm_iff_count]
    intro x
    have hcount := hperm.count_eq x
    simp only [List.flatMap_append, List.flatMap_singleton, List.count_append] at hcount ⊢
    omega

theorem Accounted.step (hd : d.Plain) {block : Range} {m : Merging} {seen : List Edit} {e : Edit}
    (hm : Accounted d (d.slice block) seen m) (he : Within d block e) :
    Accounted d (d.slice block) (seen ++ [e]) (m.step block.start (d.slice block) e) := by
  by_cases hfirst : firstIn block.start (d.slice block) e < m.appliedEnd
  · obtain ⟨applied, done, hseen, hrest⟩ := hm
    rw [Merging.step_of_lt hfirst]
    refine ⟨applied, done, ?_, hrest⟩
    rw [← List.append_assoc]
    exact hseen.append_right [e]
  · exact hm.accept (Nat.le_of_not_lt hfirst) (he.slice_range hd)

theorem Accounted.foldl (hd : d.Plain) {block : Range} {edits : List Edit} {m : Merging}
    {seen : List Edit} (hm : Accounted d (d.slice block) seen m)
    (hedits : ∀ e ∈ edits, Within d block e) :
    Accounted d (d.slice block) (seen ++ edits)
      (edits.foldl (Merging.step block.start (d.slice block)) m) := by
  induction edits generalizing m seen with
  | nil => simpa using hm
  | cons e edits ih =>
      have hrest := ih (hm.step hd (hedits e (by simp))) fun e' he' => hedits e' (by simp [he'])
      simpa using hrest

/-- A merge replaces the texts of the edits that it applies, and rejects the others. -/
theorem merge_accounted (hd : d.Plain) {block : Range} {edits : List Edit}
    (hedits : ∀ e ∈ edits, Within d block e) :
    ∃ applied, edits.Perm (applied ++ (merge block.start (d.slice block) edits).2) ∧
      ((merge block.start (d.slice block) edits).1 ++
        applied.flatMap fun e => d.slice e.range).Perm
          (d.slice block ++ applied.flatMap Edit.text) := by
  have hstart : Accounted d (d.slice block) [] ⟨d.slice block, [], 0, 0⟩ :=
    ⟨[], [], .refl _, rfl, Nat.zero_le _, rfl, .refl _⟩
  obtain ⟨applied, done, hseen, htext, -, -, hperm⟩ := hstart.foldl hd hedits
  refine ⟨applied, hseen, ?_⟩
  unfold merge
  simp only [htext]
  rw [List.perm_iff_count]
  intro x
  have hcount := hperm.count_eq x
  have hbase := congrArg (List.count x) (List.take_append_drop
    (edits.foldl (Merging.step block.start (d.slice block)) ⟨d.slice block, [], 0, 0⟩).appliedEnd
    (d.slice block))
  simp only [List.count_append] at hcount hbase ⊢
  omega

end Edit

end BlockOrder
