import BlockOrder.Proofs.Buffer.Edits
import BlockOrder.Proofs.Directive.Apart
import BlockOrder.Session

/-!
# Formatting edits a text in one go

The edits that directives ask for come in the order of the text, each of them on lines of its own.
Made from the last to the first, none of them moves what another one is about, so that together
they replace all their ranges in the text as it was.
-/

namespace BlockOrder

/-! ## Replacing ranges at once -/

/-- Documents that agree up to the line of a position agree before the position. -/
theorem Document.before_congr {d d' : Document} {p : Position}
    (h : ∀ n ≤ p.line, d'.lines[n]? = d.lines[n]?) : d'.before p = d.before p := by
  have htake : d'.lines.take p.line = d.lines.take p.line := by
    apply List.ext_getElem?
    intro n
    rw [List.getElem?_take, List.getElem?_take]
    split
    · next hn => exact h n (Nat.le_of_lt hn)
    · rfl
  have hline := h p.line (Nat.le_refl _)
  simp only [Document.before, htake, Document.lineText, Document.lineLength, Document.line?, hline]

namespace Buffer

variable {b : Buffer}

/-- The text from an offset on, in which the ranges of edits have been replaced.  Where the ranges
are is read off the buffer as it stands, for all edits alike. -/
def replacedFrom (b : Buffer) (place : Nat) : List Edit → Text
  | [] => b.text.drop place
  | e :: rest =>
      (b.text.drop place).take (b.offset e.range.start - place) ++ e.text ++
        b.replacedFrom (b.offset e.range.stop) rest

theorem take_offset (hb : b.text.Plain) {p : Position} (hp : b.document.Inside p) :
    b.text.take (b.offset p) = b.document.before p := by
  rw [offset_eq hb, Document.clampPosition_of_inside hp]
  conv_lhs => rw [text_eq hb (line_lt hp)]
  exact List.take_left

/-- An edit that comes before edits already made finds the lines it is about as they were. -/
theorem edit_text_of_agrees {b' : Buffer} {e : Edit} {later : Text} (hb : b.text.Plain)
    (hb' : b'.text.Plain) (he : e.Rearranges b.document)
    (hcount : b'.document.lineCount = b.document.lineCount)
    (hsame : ∀ n ≤ e.range.stop.line, b'.document.lines[n]? = b.document.lines[n]?)
    (htext : b'.text = b.text.take (b.offset e.range.stop) ++ later) :
    (b'.edit e).text = b.text.take (b.offset e.range.start) ++ e.text ++ later := by
  have he' : e.Rearranges b'.document :=
    he.of_lines_eq (lines_ne_nil b) hcount fun n hn => hsame n hn.2
  have hstart : b'.document.before e.range.start = b.document.before e.range.start :=
    Document.before_congr fun n hn => hsame n (Nat.le_trans hn he.fits.line_le)
  have hstop : b'.document.before e.range.stop = b.document.before e.range.stop :=
    Document.before_congr hsame
  have hafter : b'.document.after e.range.stop = later := by
    rw [text_eq hb' (line_lt he'.fits.stop), hstop, take_offset hb he.fits.stop] at htext
    exact List.append_cancel_left htext
  rw [edit_text_of_rearranges hb' he', hafter, hstart, take_offset hb he.fits.start]

/-- Edits in the order of the text, made from the last to the first, replace their ranges at
once. -/
theorem foldl_reverse_edit (hb : b.text.Plain) {edits : List Edit}
    (hedits : ∀ e ∈ edits, e.Rearranges b.document)
    (habove : edits.Pairwise fun e e' => e.range.stop.line < e'.range.start.line)
    {place : Nat} (hplace : ∀ e ∈ edits, place ≤ b.offset e.range.start) :
    (edits.reverse.foldl edit b).text = b.text.take place ++ b.replacedFrom place edits := by
  induction edits generalizing place with
  | nil => exact (List.take_append_drop place b.text).symm
  | cons e rest ih =>
      obtain ⟨hfirst, hrest⟩ := List.pairwise_cons.mp habove
      have he := hedits e List.mem_cons_self
      have hedits' : ∀ e' ∈ rest, e'.Rearranges b.document :=
        fun e' he' => hedits e' (List.mem_cons_of_mem e he')
      have hgap : ∀ e' ∈ rest, b.offset e.range.stop ≤ b.offset e'.range.start := by
        intro e' he'
        have hle := Position.le_iff.mpr (.inl (hfirst e' he'))
        exact offset_mono hle
      have hlater := ih hedits' hrest hgap
      -- the edits behind `e` leave the lines up to the last one of `e` alone
      have hapart : rest.reverse.Pairwise fun e e' => e.range.Apart e'.range :=
        List.pairwise_reverse.mpr (hrest.imp fun h => .inr h)
      obtain ⟨hplain, -, hframe⟩ := rearrangedIn_foldl_edit hb
        (fun e' he' => hedits' e' (List.mem_reverse.mp he')) hapart
      have hsame : ∀ n ≤ e.range.stop.line,
          (rest.reverse.foldl edit b).document.lines[n]? = b.document.lines[n]? := by
        intro n hn
        apply hframe.outside
        intro r hr htouches
        obtain ⟨e', he', rfl⟩ := List.mem_map.mp hr
        have hlt := hfirst e' (List.mem_reverse.mp he')
        exact Nat.lt_irrefl _ (Nat.lt_of_lt_of_le hlt (Nat.le_trans htouches.1 hn))
      have htext := edit_text_of_agrees hb hplain he hframe.lineCount hsame hlater
      have htake : b.text.take (b.offset e.range.start) =
          b.text.take place ++ (b.text.drop place).take (b.offset e.range.start - place) := by
        rw [← List.take_add, Nat.add_sub_cancel' (hplace e List.mem_cons_self)]
      rw [List.reverse_cons, List.foldl_append, List.foldl_cons, List.foldl_nil, htext, htake,
        replacedFrom]
      simp only [List.append_assoc]

end Buffer

/-! ## Edits of directives -/

/-- Edits in the order of their starts that have no line in common follow one another. -/
theorem pairwise_line_lt {d : Document} {edits : List Edit}
    (hedits : ∀ e ∈ edits, e.Rearranges d)
    (horder : InOrder (fun a b : Edit => decide (a.range.start ≤ b.range.start)) edits)
    (hapart : edits.Pairwise fun e e' => e.range.Apart e'.range) :
    edits.Pairwise fun e e' => e.range.stop.line < e'.range.start.line := by
  let before : Edit → Edit → Prop := fun a b => a.range.start ≤ b.range.start
  have : Trans before before before := ⟨fun hab hbc => Position.le_trans hab hbc⟩
  have hstarts : edits.Pairwise before :=
    (List.IsChain.imp (fun _ _ h => of_decide_eq_true h) horder).pairwise
  refine (hstarts.and hapart).imp_of_mem fun {e e'} he he' ⟨hle, hapart⟩ => ?_
  rcases hapart with hlt | hlt
  · exact hlt
  · -- the other way round the later edit would start first
    have hstart := Position.line_le hle
    have hline := (hedits e' he').fits.line_le
    omega

namespace Session

/-- The edits that directives ask for in a plain text replace whole lines by as many lines with
the same characters.  They come in the order of the text, each ends above the next one, and made
from the last to the first they replace their ranges in the text at once.  There is a result if
keys compare as a total preorder. -/
theorem formatEdits_replace_at_once (s : Session) {b : Buffer} (hb : b.text.Plain)
    (r : Option Range) :
    ∃ result s', s.formatEdits b.document r false = (result, s') ∧
      Sound s.config.collation.Consistent (fun edits =>
        (∀ e ∈ edits, e.Rearranges b.document ∧ e.text.lines.length = e.range.lineCount) ∧
        (edits.Pairwise fun e e' => e.range.start < e'.range.start ∧
          e.range.stop.line < e'.range.start.line) ∧
        (edits.reverse.foldl Buffer.edit b).text = b.replacedFrom 0 edits) result := by
  obtain ⟨result, c', hrun, hsound⟩ :=
    Workspace.formatEdits_ends (w := s.workspace b.document false) rfl
      (Buffer.plain_document hb) r s.cache
  refine ⟨result, { s with cache := c' }, ?_, hsound.mono ?_⟩
  · change (s.workspace b.document false).formatEdits r s.cache = _ at hrun
    rw [formatEdits, run, hrun]
    rfl
  rintro edits ⟨hedits, hapart, horder⟩
  have habove := pairwise_line_lt hedits horder hapart
  refine ⟨?_, ?_, ?_⟩
  · intro e he
    exact ⟨hedits e he, Buffer.length_lines_of_rearranges hb (hedits e he)⟩
  · refine habove.imp_of_mem fun {e e'} he he' hlt => ⟨fun hle => ?_, hlt⟩
    have hstart := Position.line_le hle
    have hline := (hedits e he).fits.line_le
    omega
  · exact Buffer.foldl_reverse_edit hb hedits habove fun e _ => Nat.zero_le _

/-- The text may come with any line endings, and directives may stand inside what other
directives are about. -/
theorem formatEdits_replace_at_once_nested :
    ∃ b, b = Buffer.load
        "// @blocksort\r\n[\r\n  // @blocksort desc\r\n  [\r\n    a,\r\n    b\r\n  ]\r\n]".toList
        "typescript" ∧
      b.text.Plain ∧
      ∃ edits s', (start {} "typescript").formatEdits b.document none false = (.ok edits, s') ∧
        (∀ e ∈ edits, e.Rearranges b.document) ∧
        (edits.reverse.foldl Buffer.edit b).text = b.replacedFrom 0 edits := by
  have hplain : (Buffer.load
      "// @blocksort\r\n[\r\n  // @blocksort desc\r\n  [\r\n    a,\r\n    b\r\n  ]\r\n]".toList
      "typescript").text.Plain := by decide
  obtain ⟨result, s', hrun, hsound⟩ :=
    formatEdits_replace_at_once (start {} "typescript") hplain none
  have hconsistent : (start {} "typescript").config.collation.Consistent := by
    rw [start_config]
    exact KeyOrder.transCmp_ofOptions (.inl rfl) (.inl rfl)
  obtain ⟨edits, rfl, hedits, -, htext⟩ := hsound.exists_ok hconsistent
  exact ⟨_, rfl, hplain, edits, s', hrun, fun e he => (hedits e he).1, htext⟩

end Session

end BlockOrder
