import BlockOrder.Proofs.Document.Runs
import BlockOrder.Blocks.Selection
import Mathlib.Data.List.DropRight

/-!
# Blank lines at the ends

A whole document is sorted without the blank lines at its ends.  Where some line is not blank,
these are the lines before the first and after the last such line.
-/

namespace BlockOrder

namespace Document

variable {d : Document}

theorem skipBlankLines_eq {room line stop : Nat}
    (hblank : ∀ n, line ≤ n → n < stop → d.isBlankLine n = true)
    (hstop : d.isBlankLine stop = false) (hle : line ≤ stop) (hroom : stop ≤ line + room) :
    d.skipBlankLines room line = stop := by
  induction room generalizing line with
  | zero =>
      rw [skipBlankLines]
      omega
  | succ room ih =>
      rw [skipBlankLines]
      by_cases heq : line = stop
      · rw [heq, hstop]
        rfl
      · rw [if_pos (hblank line (Nat.le_refl line) (by omega))]
        apply ih
        · intro n hn hn'
          exact hblank n (by omega) hn'
        · omega
        · omega

theorem skipBlankLinesBack_eq {room line stop : Nat}
    (hblank : ∀ n, stop < n → n ≤ line → d.isBlankLine n = true)
    (hstop : d.isBlankLine stop = false) (hle : stop ≤ line) (hroom : line ≤ stop + room) :
    d.skipBlankLinesBack room line = stop := by
  induction room generalizing line with
  | zero =>
      rw [skipBlankLinesBack]
      omega
  | succ room ih =>
      rw [skipBlankLinesBack]
      by_cases heq : line = stop
      · rw [heq, hstop]
        rfl
      · rw [if_pos (hblank line (by omega) (Nat.le_refl line))]
        apply ih
        · intro n hn hn'
          exact hblank n hn (by omega)
        · omega
        · omega

/-- The lines of a document with the blank lines at either end apart. -/
structure Margins (d : Document) (pre mid post : List Text) : Prop where
  lines : d.lines = pre ++ mid ++ post
  above : ∀ line ∈ pre, line.isBlank = true
  below : ∀ line ∈ post, line.isBlank = true
  ne_nil : mid ≠ []
  head : ∀ line ∈ mid.head?, line.isBlank = false
  last : ∀ line ∈ mid.getLast?, line.isBlank = false

theorem exists_margins (h : ∃ line ∈ d.lines, line.isBlank = false) :
    ∃ pre mid post, d.Margins pre mid post := by
  obtain ⟨line, hline, hnot⟩ := h
  have hsplit := List.takeWhile_append_dropWhile (p := Text.isBlank) (l := d.lines)
  have hhead := List.head?_dropWhile_not Text.isBlank d.lines
  generalize d.lines.dropWhile Text.isBlank = rest at hsplit hhead
  have hmem : line ∈ rest := by
    rw [← hsplit] at hline
    rcases List.mem_append.mp hline with hmem | hmem
    · rw [List.mem_takeWhile_imp hmem] at hnot
      cases hnot
    · exact hmem
  have hmid : rest.rdropWhile Text.isBlank ≠ [] := by
    intro hnil
    rw [List.rdropWhile_eq_nil_iff.mp hnil line hmem] at hnot
    cases hnot
  refine ⟨d.lines.takeWhile Text.isBlank, rest.rdropWhile Text.isBlank,
    rest.rtakeWhile Text.isBlank, ?_, ?_, ?_, hmid, ?_, ?_⟩
  · rw [List.append_assoc, List.rdropWhile_append_rtakeWhile, hsplit]
  · intro x hx
    exact List.mem_takeWhile_imp hx
  · intro x hx
    exact List.mem_rtakeWhile_imp hx
  · intro x hx
    obtain ⟨more, hmore⟩ := List.rdropWhile_prefix (p := Text.isBlank) (l := rest)
    have hx' : rest.head? = some x := by
      rw [← hmore, List.head?_append, hx]
      rfl
    rw [hx'] at hhead
    simpa using hhead
  · intro x hx
    have hlast := List.rdropWhile_last_not Text.isBlank rest hmid
    rw [List.getLast?_eq_some_getLast hmid, Option.mem_some_iff] at hx
    rw [hx] at hlast
    simpa using hlast

theorem trimRange_clamp (d : Document) (r : Range) : d.trimRange (d.clamp r) = d.trimRange r := by
  simp only [trimRange, clamp_clamp]

theorem isBlankLine_eq {n : Nat} {line : Text} (h : d.lines[n]? = some line) :
    d.isBlankLine n = line.isBlank := by
  rw [isBlankLine, line?, h]
  rfl

namespace Margins

variable {pre mid post : List Text}

theorem lineCount_eq (h : d.Margins pre mid post) :
    d.lineCount = pre.length + mid.length + post.length := by
  rw [lineCount, h.lines, List.length_append, List.length_append]

theorem isBlankLine_above (h : d.Margins pre mid post) {n : Nat} (hn : n < pre.length) :
    d.isBlankLine n = true := by
  have hget : d.lines[n]? = some pre[n] := by
    rw [h.lines, List.append_assoc, List.getElem?_append_left hn, List.getElem?_eq_getElem hn]
  rw [isBlankLine_eq hget]
  exact h.above _ (List.getElem_mem hn)

theorem isBlankLine_head (h : d.Margins pre mid post) : d.isBlankLine pre.length = false := by
  obtain ⟨line, more, rfl⟩ := List.exists_cons_of_ne_nil h.ne_nil
  have hget : d.lines[pre.length]? = some line := by
    rw [h.lines, List.append_assoc, List.getElem?_append_right (Nat.le_refl _), Nat.sub_self]
    rfl
  rw [isBlankLine_eq hget]
  exact h.head line rfl

theorem isBlankLine_last (h : d.Margins pre mid post) :
    d.isBlankLine (pre.length + mid.length - 1) = false := by
  have hlength : 0 < mid.length := List.length_pos_iff.mpr h.ne_nil
  have hget : d.lines[pre.length + mid.length - 1]? = some (mid.getLast h.ne_nil) := by
    rw [h.lines, List.getElem?_append_left (by rw [List.length_append]; omega),
      List.getElem?_append_right (by omega), List.getLast_eq_getElem,
      show pre.length + mid.length - 1 - pre.length = mid.length - 1 by omega,
      List.getElem?_eq_getElem]
  rw [isBlankLine_eq hget]
  exact h.last _ (List.getLast?_eq_some_getLast h.ne_nil)

theorem isBlankLine_below (h : d.Margins pre mid post) {n : Nat}
    (hn : pre.length + mid.length ≤ n) (hlast : n < d.lineCount) : d.isBlankLine n = true := by
  rw [h.lineCount_eq] at hlast
  have hpost : n - (pre ++ mid).length < post.length := by
    rw [List.length_append]
    omega
  have hget : d.lines[n]? = some post[n - (pre ++ mid).length] := by
    rw [h.lines, List.getElem?_append_right (by rw [List.length_append]; omega),
      List.getElem?_eq_getElem hpost]
  rw [isBlankLine_eq hget]
  exact h.below _ (List.getElem_mem hpost)

theorem trimRange_whole (h : d.Margins pre mid post) :
    d.trimRange d.whole = d.lineRange pre.length (pre.length + mid.length - 1) := by
  have hlength : 0 < mid.length := List.length_pos_iff.mpr h.ne_nil
  have hcount := h.lineCount_eq
  have hlastLine : d.lastLine = pre.length + mid.length + post.length - 1 := by
    rw [lastLine, hcount]
  have hzero : 0 ≤ d.lastLine := Nat.zero_le _
  have hfirst : d.skipBlankLines d.lastLine 0 = pre.length := by
    apply skipBlankLines_eq
    · intro n _ hn
      exact h.isBlankLine_above hn
    · exact h.isBlankLine_head
    · exact Nat.zero_le _
    · omega
  have hlast : d.skipBlankLinesBack (d.lastLine - pre.length) d.lastLine =
      pre.length + mid.length - 1 := by
    apply skipBlankLinesBack_eq
    · intro n hn hn'
      exact h.isBlankLine_below (by omega) (by omega)
    · exact h.isBlankLine_last
    · omega
    · omega
  rw [← trimRange_clamp, whole, ← lineRange, lineRange_eq hzero (Nat.le_refl _), trimRange,
    clamp_of_fits (fits_lines hzero (Nat.le_refl _))]
  simp only [Position.ofOffset_line, lineStop_line, Nat.sub_zero, hfirst, hlast]

end Margins

end Document

end BlockOrder
