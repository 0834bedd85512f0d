import BlockOrder.Proofs.Edit.Accounts
import BlockOrder.Proofs.Order.Preorder
import BlockOrder.Proofs.Sort.Nesting
import BlockOrder.Session

/-!
# Sorting loses and invents nothing

The texts that sorting returns have the characters of the blocks, whatever the depth, the order
and the settings.  If blocks are whole lines, they have the lines of the blocks, up to the
separators that lines end with.
-/

namespace BlockOrder

/-! ## Characters -/

namespace Document

variable {d : Document}

/-- What lies inside a part of a block lies inside the block. -/
theorem Cuts.within {block : Range} {split : Split} (h : d.Cuts block split) {r : Range}
    (hr : r ∈ [split.head] ++ split.inner ++ [split.tail]) {e : Edit}
    (he : Edit.Within d (d.clamp r) e) : Edit.Within d block e := by
  have hinner := h.runs.fits
  have haround : d.Fits r ∧ d.Fits ⟨block.start, r.start⟩ ∧ d.Fits ⟨r.stop, block.stop⟩ := by
    rw [← h.head_start, ← h.tail_stop]
    rw [List.mem_append, List.mem_append, List.mem_singleton, List.mem_singleton] at hr
    rcases hr with (rfl | hr) | rfl
    · exact ⟨h.head, h.head.start.fits_refl, hinner.trans h.tail⟩
    · obtain ⟨hbefore, hafter⟩ := h.runs.fits_around hr
      exact ⟨h.runs.fits_of_mem hr, Fits.trans h.head hbefore, hafter.trans h.tail⟩
    · exact ⟨h.tail, Fits.trans h.head hinner, h.tail.stop.fits_refl⟩
  obtain ⟨hfits, hbefore, hafter⟩ := haround
  rw [clamp_of_fits hfits] at he
  exact ⟨hbefore.trans he.before, he.fits, Fits.trans he.after hafter⟩

end Document

namespace Workspace

/-- Characters are accounted for, unless edits are pending in a document with stray break
characters. -/
def Keeps (w : Workspace) (r : Range) (p : Pending) (t : Text) (p' : Pending) : Prop :=
  p = .none ∨ w.document.Plain → ∃ taken, Accounts w.document [r] p [t] p' taken

variable {w : Workspace}

theorem pending_none_or_plain {ranges : List Range} {texts : List Text} {p p' : Pending}
    {taken : List Edit} (h : Accounts w.document ranges p texts p' taken)
    (hp : p = .none ∨ w.document.Plain) : p' = .none ∨ w.document.Plain := by
  rcases hp with rfl | hplain
  · exact .inl h.of_none.1
  · exact .inr hplain

theorem accounts_of_threaded {ranges : List Range} {texts : List Text} {p p' : Pending}
    (h : Threaded w.Keeps ranges p texts p') (hp : p = .none ∨ w.document.Plain) :
    ∃ taken, Accounts w.document ranges p texts p' taken := by
  induction h with
  | nil p => exact ⟨[], .nil w.document p⟩
  | cons step rest ih =>
      obtain ⟨taken, hstep⟩ := step hp
      obtain ⟨taken', hrest⟩ := ih (pending_none_or_plain hstep hp)
      exact ⟨taken' ++ taken, hstep.append hrest⟩

/-- Arranged inner blocks between a head and a tail have the characters of the parts, and
newlines between inner blocks. -/
theorem joined_perm {texts sorted : List Text} (h : Arrange.Rearranged w.classifier texts sorted)
    (hne : texts ≠ []) (head tail : Text) :
    (head ++ Text.unlines sorted ++ tail).Perm
      (([head] ++ texts ++ [tail]).flatten ++ List.replicate (texts.length - 1) '\n') := by
  have hlength := h.length_eq
  have hne' : sorted ≠ [] := fun hnil => by
    rw [hnil] at hlength
    exact hne (List.length_eq_zero_iff.mp hlength.symm)
  have hjoined := Text.unlines_perm_append hne'
  rw [List.perm_iff_count]
  intro x
  have hx := hjoined.count_eq x
  have hx' := h.flatten_perm.count_eq x
  simp only [List.flatten_append, List.flatten_cons, List.flatten_nil, List.count_append,
    List.append_nil, hlength] at hx hx' ⊢
  omega

theorem nests_keeps (w : Workspace) : w.Nests w.Keeps where
  copied r p hp := by
    obtain ⟨taken, h⟩ := Pending.accounts_editedText hp (w.document.clamp r)
    refine ⟨taken, h.regroup [] ?_ (by simp) (by simp)⟩
    intro s hs e he
    obtain rfl := List.mem_singleton.mp hs
    exact ⟨r, by simp, by simpa using he⟩
  nested r split p texts p' sorted hcuts hinner hsorted hp := by
    obtain ⟨taken₁, hhead⟩ := Pending.accounts_editedText hp split.head
    have hp₁ := pending_none_or_plain hhead hp
    obtain ⟨taken₂, hmid⟩ := accounts_of_threaded hinner hp₁
    obtain ⟨taken₃, htail⟩ :=
      Pending.accounts_editedText (pending_none_or_plain hmid hp₁) split.tail
    have hlength := hinner.length_eq
    have hne : texts ≠ [] := fun hnil => by
      rw [hnil] at hlength
      exact hcuts.runs.ne_nil (List.length_eq_zero_iff.mp hlength.symm)
    refine ⟨_, ((hhead.append hmid).append htail).regroup
      (List.replicate (texts.length - 1) '\n') ?_ ?_ ?_⟩
    · intro s hs e he
      exact ⟨r, by simp, hcuts.within hs he⟩
    · simpa using joined_perm hsorted hne _ _
    · have hparts := joined_perm
        (Arrange.rearranged_refl w.classifier (split.inner.map w.document.slice))
        (List.map_eq_nil_iff.not.mpr hcuts.runs.ne_nil) (w.document.slice split.head)
        (w.document.slice split.tail)
      rw [hcuts.slice_eq, Document.slice_clamp] at hparts
      simpa [hlength, List.flatMap_def] using hparts

end Workspace

/-! ## Lines -/

namespace Document

variable {d : Document}

/-- The range starts at the start of a line and ends at the end of one. -/
def CoversLines (d : Document) (r : Range) : Prop :=
  (d.clamp r).start.column = .char 0 ∧ (d.clamp r).stop = d.lineStop (d.clamp r).stop.line

theorem Runs.coversLines {p q : Position} {ranges : List Range} (h : Runs d q p ranges)
    (hp : p.column = .char 0) (hq : q = d.lineStop q.line) : ∀ r ∈ ranges, d.CoversLines r := by
  induction h with
  | one fits =>
      intro r hr
      obtain rfl := List.mem_singleton.mp hr
      rw [CoversLines, clamp_of_fits fits]
      exact ⟨hp, hq⟩
  | cons fits _ _ ih =>
      intro r hr
      rcases List.mem_cons.mp hr with rfl | hr
      · rw [CoversLines, clamp_of_fits fits]
        exact ⟨hp, rfl⟩
      · exact ih rfl r hr

/-- What comes before a line within whole lines ends with a newline. -/
theorem slice_lineStart {r : Range} (h : d.Fits r) (hstart : r.start.column = .char 0)
    (hstop : r.stop.column = .char 0) : d.slice r = [] ∨ ∃ t, d.slice r = t ++ ['\n'] := by
  obtain ⟨⟨a, x⟩, ⟨b, y⟩⟩ := r
  obtain rfl : x = .char 0 := hstart
  obtain rfl : y = .char 0 := hstop
  rcases Nat.lt_or_eq_of_le h.line_le with hlt | heq
  · change a < b at hlt
    have hparted := slice_eq_parted h (b - 1) (Nat.le_sub_one_of_lt hlt) (Nat.sub_one_lt_of_lt hlt)
    rw [Nat.sub_add_cancel (Nat.one_le_of_lt hlt)] at hparted
    exact .inr ⟨_, hparted.trans (by rw [Position.ofOffset, slice_refl h.stop])⟩
  · change a = b at heq
    subst heq
    exact .inl (slice_refl h.start)

/-- What comes after a line within whole lines starts with a newline. -/
theorem slice_lineStop {r : Range} (h : d.Fits r) (hstart : r.start = d.lineStop r.start.line)
    (hstop : r.stop = d.lineStop r.stop.line) :
    d.slice r = [] ∨ ∃ t, d.slice r = '\n' :: t := by
  obtain ⟨p, q⟩ := r
  rcases Nat.lt_or_eq_of_le h.line_le with hlt | heq
  · have hparted := slice_eq_parted h p.line (Nat.le_refl _) hlt
    have hempty : d.slice ⟨p, d.lineStop p.line⟩ = [] := by
      rw [← hstart]
      exact slice_refl h.start
    rw [hempty] at hparted
    exact .inr ⟨_, hparted⟩
  · obtain rfl : p = q := hstart.trans ((congrArg d.lineStop heq).trans hstop.symm)
    exact .inl (slice_refl h.start)

end Document

namespace Classifier

variable (c : Classifier)

theorem strippedLines_unlines {texts : List Text} (h : texts ≠ []) :
    c.strippedLines (Text.unlines texts) = texts.flatMap c.strippedLines := by
  induction texts with
  | nil => exact absurd rfl h
  | cons t rest ih =>
      cases rest with
      | nil => simp [Text.unlines]
      | cons u rest =>
          rw [Text.unlines_cons_of_ne_nil t (by simp), strippedLines_append_newline, ih (by simp)]
          rfl

theorem exists_strippedLines_head {head : Text} (h : head = [] ∨ ∃ t, head = t ++ ['\n']) :
    ∃ above, ∀ t, c.strippedLines (head ++ t) = above ++ c.strippedLines t := by
  rcases h with rfl | ⟨u, rfl⟩
  · exact ⟨[], fun t => rfl⟩
  · refine ⟨c.strippedLines u, fun t => ?_⟩
    rw [List.append_assoc, List.singleton_append, strippedLines_append_newline]

theorem exists_strippedLines_tail {tail : Text} (h : tail = [] ∨ ∃ t, tail = '\n' :: t) :
    ∃ below, ∀ t, c.strippedLines (t ++ tail) = c.strippedLines t ++ below := by
  rcases h with rfl | ⟨u, rfl⟩
  · exact ⟨[], fun t => by rw [List.append_nil, List.append_nil]⟩
  · exact ⟨c.strippedLines u, fun t => strippedLines_append_newline t u⟩

end Classifier

namespace Workspace

variable {w : Workspace}

/-- Characters are accounted for and, in a block of whole lines without pending edits, so are
lines up to separators. -/
def KeepsLines (w : Workspace) (r : Range) (p : Pending) (t : Text) (p' : Pending) : Prop :=
  w.Keeps r p t p' ∧ (p = .none → w.document.CoversLines r →
    (w.classifier.strippedLines t).Perm (w.classifier.strippedLines (w.document.slice r)))

theorem strippedLines_of_threaded {ranges : List Range} {texts : List Text} {p p' : Pending}
    (h : Threaded w.KeepsLines ranges p texts p') (hp : p = .none)
    (hranges : ∀ r ∈ ranges, w.document.CoversLines r) :
    (texts.flatMap w.classifier.strippedLines).Perm
      ((ranges.map w.document.slice).flatMap w.classifier.strippedLines) := by
  induction h with
  | nil => exact .refl _
  | cons step rest ih =>
      subst hp
      obtain ⟨taken, haccounts⟩ := step.1 (.inl rfl)
      have hrest := ih haccounts.of_none.1 fun r hr => hranges r (by simp [hr])
      exact (step.2 rfl (hranges _ (by simp))).append hrest

/-- Texts made from a plain document without pending edits have no carriage return. -/
theorem return_notMem_of_threaded (hplain : w.document.Plain) {ranges : List Range}
    {texts : List Text} {p' : Pending} (h : Threaded w.Keeps ranges .none texts p') :
    ∀ t ∈ texts, '\r' ∉ t := by
  obtain ⟨taken, haccounts⟩ := accounts_of_threaded h (.inl rfl)
  have hperm := haccounts.flatten_perm (by simp [Pending.none])
  intro t ht hmem
  have hslice := hperm.mem_iff.mp (List.mem_flatten_of_mem ht hmem)
  obtain ⟨r, -, hr⟩ := List.mem_flatMap.mp hslice
  exact (hplain.slice r).return_notMem hr

/-- In a plain document sorting keeps lines at every depth. -/
theorem nests_keepsLines (hplain : w.document.Plain)
    (hnewline : w.classifier.isSeparator '\n' = false) : w.Nests w.KeepsLines where
  copied r p := by
    refine ⟨w.nests_keeps.copied r p, fun hp _ => ?_⟩
    subst hp
    rw [Pending.editedText_none, Document.slice_clamp]
  nested r split p texts p' sorted hcuts hinner hsorted := by
    have hkeeps := hinner.imp fun _ _ _ _ h => h.1
    refine ⟨w.nests_keeps.nested r split p texts p' sorted hcuts hkeeps hsorted, fun hp hr => ?_⟩
    subst hp
    rw [Pending.editedText_none] at hinner hkeeps ⊢
    obtain ⟨taken, haccounts⟩ := accounts_of_threaded hkeeps (.inl rfl)
    rw [haccounts.of_none.1, Pending.editedText_none]
    have hstart := hcuts.lineStart hr.1
    have hstop := hcuts.lineStop hr.2
    have hlines := strippedLines_of_threaded hinner rfl (hcuts.runs.coversLines hstart hstop)
    have harranged := hsorted.strippedLines_perm hnewline
      (return_notMem_of_threaded hplain hkeeps)
    obtain ⟨above, habove⟩ := w.classifier.exists_strippedLines_head
      (Document.slice_lineStart hcuts.head (hcuts.head_start ▸ hr.1) hstart)
    obtain ⟨below, hbelow⟩ := w.classifier.exists_strippedLines_tail
      (Document.slice_lineStop hcuts.tail hstop (hcuts.tail_stop ▸ hr.2))
    have hmap : split.inner.map w.document.slice ≠ [] :=
      List.map_eq_nil_iff.not.mpr hcuts.runs.ne_nil
    have hne : sorted ≠ [] := by
      have hlength := hsorted.length_eq.trans hinner.length_eq
      rintro rfl
      exact hcuts.runs.ne_nil (List.length_eq_zero_iff.mp hlength.symm)
    rw [← Document.slice_clamp w.document r, ← hcuts.slice_eq, hbelow, habove, hbelow, habove,
      Classifier.strippedLines_unlines _ hne, Classifier.strippedLines_unlines _ hmap]
    exact ((harranged.trans hlines).append_left above).append_right below

end Workspace

/-! ## Calls -/

namespace Report

variable {α β : Type}

/-- Whatever has been reported before, the result has a property. -/
def Always (P : α → Prop) (x : Report α) : Prop := ∀ s, P (x.run s).1

theorem always_bind {P : β → Prop} {x : Report α} {f : α → Report β}
    (h : ∀ a, Always P (f a)) : Always P (x >>= f) := fun _ => h _ _

end Report

theorem Classifier.compile_separators (config : Config) (language : String) :
    (compile config language).1.separators = config.separatorChars := by
  have hreport : Report.Always (fun c => c.separators = config.separatorChars)
      (compileReporting config language) := by
    unfold compileReporting
    iterate 8
      refine Report.always_bind fun _ => ?_
    cases config.forceFirstPattern? with
    | none => exact Report.always_bind fun _ _ => rfl
    | some source => exact Report.always_bind fun _ => Report.always_bind fun _ _ => rfl
  exact hreport []

namespace Session

theorem start_config (config : Config) (language : String) :
    (start config language).config = config := rfl

theorem start_separators (config : Config) (language : String) :
    (start config language).classifier.separators = config.separatorChars :=
  Classifier.compile_separators config language

/-- What nests holds of the texts of the blocks that a session sorts. -/
theorem exists_sortBlocks (s : Session) (d : Document) (o : SortOptions) (blocks : List Range)
    (p : Pending) {P : Range → Pending → Text → Pending → Prop}
    (hP : (s.workspace d false).Nests P) :
    ∃ result s', s.sortBlocks d o blocks p false = (result, s') ∧
      Sound (Std.TransCmp o.order.compare) (fun result => ∃ texts,
        Threaded P blocks p texts result.2 ∧ Arrange.Rearranged s.classifier texts result.1)
        result := by
  obtain ⟨result, c, hrun, hsound⟩ :=
    Workspace.sortBlocks_ends (w := s.workspace d false) rfl hP o blocks p s.cache
  refine ⟨result, { s with cache := c }, ?_, hsound⟩
  rw [sortBlocks, run]
  change (s.workspace d false).sortBlocks o blocks p s.cache = _ at hrun
  rw [hrun]
  rfl

/-- Sorting blocks without pending edits returns a text for every block, whatever the options, if
it returns texts at all; and it does if keys compare as a total preorder.  The texts have the
characters of the blocks, and if blocks are whole lines of a plain document and the newline is no
separator, they have the lines of the blocks up to the separators that lines end with. -/
theorem sortBlocks_conserves (s : Session) (d : Document) (o : SortOptions)
    (blocks : List Range) :
    ∃ result s', s.sortBlocks d o blocks .none false = (result, s') ∧
      Sound (Std.TransCmp o.order.compare) (fun (texts, pending) =>
        pending = .none ∧ texts.length = blocks.length ∧
        texts.flatten.Perm (blocks.flatMap d.slice) ∧
        ((∀ r ∈ blocks, d.CoversLines r) → d.Plain → s.classifier.isSeparator '\n' = false →
          (texts.flatMap s.classifier.strippedLines).Perm
            (blocks.flatMap fun r => s.classifier.strippedLines (d.slice r)))) result := by
  obtain ⟨result, s', hsorted, hkeeps⟩ :=
    s.exists_sortBlocks d o blocks .none (Workspace.nests_keeps _)
  refine ⟨result, s', hsorted, ?_⟩
  cases result with
  | error e => exact hkeeps
  | ok result =>
      obtain ⟨sorted, p'⟩ := result
      obtain ⟨texts, hthreaded, harranged⟩ := hkeeps
      obtain ⟨taken, haccounts⟩ := Workspace.accounts_of_threaded hthreaded (.inl rfl)
      refine ⟨haccounts.of_none.1, ?_, ?_, ?_⟩
      · rw [harranged.length_eq, hthreaded.length_eq]
      · exact harranged.flatten_perm.trans (haccounts.flatten_perm (by simp [Pending.none]))
      · intro hlines hplain hnewline
        obtain ⟨result', s'', hsorted', hlinesKept⟩ := s.exists_sortBlocks d o blocks .none
          (Workspace.nests_keepsLines hplain hnewline)
        -- both descriptions are of the same run
        obtain ⟨rfl, -⟩ := Prod.mk.inj (hsorted.symm.trans hsorted')
        obtain ⟨texts', hthreaded', harranged'⟩ := hlinesKept
        have hreturn := Workspace.return_notMem_of_threaded hplain
          (hthreaded'.imp fun _ _ _ _ h => h.1)
        have hkept := Workspace.strippedLines_of_threaded hthreaded' rfl hlines
        rw [List.flatMap_map] at hkept
        exact (harranged'.strippedLines_perm hnewline hreturn).trans hkept

/-- The conditions on blocks are met by the entries of a list, with the default settings. -/
theorem sortBlocks_conserves_entries :
    (∀ r ∈ [Range.lines 0 0, .lines 1 1], (⟨["b,".toList, "a".toList]⟩ : Document).CoversLines r) ∧
      (⟨["b,".toList, "a".toList]⟩ : Document).Plain ∧
      (start {} "json").classifier.isSeparator '\n' = false ∧
      Std.TransCmp (KeyOrder.ofOptions {} .asc).compare ∧
      ∃ texts s', (start {} "json").sortBlocks ⟨["b,".toList, "a".toList]⟩
          { order := .ofOptions {} .asc } [.lines 0 0, .lines 1 1] .none false =
            (.ok (texts, .none), s') ∧
        (texts.flatMap (start {} "json").classifier.strippedLines).Perm
          ([Range.lines 0 0, .lines 1 1].flatMap fun r =>
            (start {} "json").classifier.strippedLines
              (Document.slice ⟨["b,".toList, "a".toList]⟩ r)) := by
  have hlines : ∀ r ∈ [Range.lines 0 0, .lines 1 1],
      (⟨["b,".toList, "a".toList]⟩ : Document).CoversLines r := by
    intro r hr
    rcases List.mem_cons.mp hr with rfl | hr
    · exact ⟨rfl, rfl⟩
    · obtain rfl := List.mem_singleton.mp hr
      exact ⟨rfl, rfl⟩
  have hplain : (⟨["b,".toList, "a".toList]⟩ : Document).Plain := by decide
  have hnewline : (start {} "json").classifier.isSeparator '\n' = false := by
    rw [Classifier.isSeparator, start_separators]
    decide
  have hcompare : Std.TransCmp (KeyOrder.ofOptions {} .asc).compare :=
    KeyOrder.transCmp_ofOptions (.inl rfl) (.inl rfl) .asc
  obtain ⟨result, s', hsorted, hsound⟩ := sortBlocks_conserves (start {} "json")
    ⟨["b,".toList, "a".toList]⟩ { order := .ofOptions {} .asc } [.lines 0 0, .lines 1 1]
  obtain ⟨⟨texts, pending⟩, rfl, rfl, -, -, hkept⟩ := hsound.exists_ok hcompare
  exact ⟨hlines, hplain, hnewline, hcompare, texts, s', hsorted, hkept hlines hplain hnewline⟩

/-- Letters of which `z` and `x` have an order of their own.  With `y` they compare in a circle. -/
def circling : Document :=
  ⟨"xzxyxyyyzyxxyxyyzxzyy".toList.map fun letter => [letter]⟩

/-- Each of the letters is a block, and there is no result: the two ends of a merge do not meet. -/
theorem sortBlocks_circling :
    (((start {} "plaintext").sortBlocks circling
      { order := .ofOptions { customOrder := some "zx" } .asc }
      ((List.range 21).map fun n => .lines n n) .none false).1 = .error {}) := by
  have herror : ((start {} "plaintext").sortBlocks circling
      { order := .ofOptions { customOrder := some "zx" } .asc }
      ((List.range 21).map fun n => .lines n n) .none false).1.toBool = false := by
    decide +kernel
  cases h : ((start {} "plaintext").sortBlocks circling
      { order := .ofOptions { customOrder := some "zx" } .asc }
      ((List.range 21).map fun n => .lines n n) .none false).1 with
  | ok _ =>
      rw [h] at herror
      cases herror
  | error _ => rfl

end Session

end BlockOrder
