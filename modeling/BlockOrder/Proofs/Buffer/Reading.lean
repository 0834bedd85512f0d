import BlockOrder.Proofs.Buffer.Edits

/-!
# Reading a range of a buffer

The text of a range is put together from lines with newlines between them, and an edit replaces
what lies between two offsets.  A line loses the newline that ends it and keeps any other break.
So the text of a range has a newline too many after every other break between its lines, and it is
the text between the offsets of its ends if and only if newlines end all its lines but the last.
-/

namespace BlockOrder

namespace LineEnding

theorem return_notMem_normalize (t : Text) : '\r' ∉ normalize t := by
  fun_induction normalize t with
  | case1 rest ih => simpa using ih
  | case2 rest _ ih => simpa using ih
  | case3 c rest _ hne ih => simpa [Ne.symm (show c ≠ '\r' from hne)] using ih
  | case4 => simp

end LineEnding

namespace Text

variable {ls : List Text}

theorem withoutNewline_append_newline {line : Text} (h : line.getLast? = some '\n') :
    line.withoutNewline ++ ['\n'] = line := by
  rw [withoutNewline, if_pos h]
  exact List.dropLast_append_getLast? _ h

theorem length_le_succ_withoutNewline (line : Text) :
    line.length ≤ line.withoutNewline.length + 1 := by
  unfold withoutNewline
  split
  · rw [List.length_dropLast]
    omega
  · exact Nat.le_succ _

theorem length_flatten_le (ls : List Text) :
    ls.flatten.length ≤ (ended (ls.map withoutNewline)).length := by
  induction ls with
  | nil => exact Nat.le_refl _
  | cons line ls ih =>
      have hline := line.length_le_succ_withoutNewline
      rw [List.flatten_cons, List.map_cons, ended_cons, List.length_append, List.length_append,
        List.length_cons]
      omega

theorem ended_map_withoutNewline_eq_iff :
    ended (ls.map withoutNewline) = ls.flatten ↔ ∀ line ∈ ls, line.getLast? = some '\n' := by
  induction ls with
  | nil => simp
  | cons line ls ih =>
      rw [List.forall_mem_cons, ← ih, List.map_cons, ended_cons, List.flatten_cons]
      by_cases hline : line.getLast? = some '\n'
      · have hjoin : line.withoutNewline ++ '\n' :: ended (ls.map withoutNewline) =
            line ++ ended (ls.map withoutNewline) := by
          conv_rhs => rw [← withoutNewline_append_newline hline]
          simp
        rw [hjoin, List.append_cancel_left_eq]
        exact (and_iff_right hline).symm
      · -- what is left of the line is all of it, so the newline after it is one too many
        have hsame : line.withoutNewline = line := if_neg hline
        have hlength := length_flatten_le ls
        constructor
        · intro heq
          rw [hsame, List.append_cancel_left_eq] at heq
          have := congrArg List.length heq
          rw [List.length_cons] at this
          omega
        · rintro ⟨hnewline, -⟩
          exact absurd hnewline hline

end Text

namespace Buffer

variable {b : Buffer} {r : Range} {p q : Position}

/-- The lines of a range but the last one, each with the break that ends it. -/
def linesBroken (b : Buffer) (r : Range) : List Text :=
  (b.text.brokenLines.drop r.start.line).take (r.stop.line - r.start.line)

/-- Newlines end all lines of a range but the last one. -/
def EndsInNewlines (b : Buffer) (r : Range) : Prop :=
  ∀ line ∈ b.linesBroken (b.document.clamp r), line.getLast? = some '\n'

instance (b : Buffer) (r : Range) : Decidable (b.EndsInNewlines r) :=
  inferInstanceAs (Decidable (∀ line ∈ _, _))

def stretch (b : Buffer) (r : Range) : Text :=
  (b.text.drop (b.offset r.start)).take (b.offset r.stop - b.offset r.start)

theorem take_append_stretch (h : r.start ≤ r.stop) :
    b.text.take (b.offset r.start) ++ b.stretch r = b.text.take (b.offset r.stop) := by
  rw [stretch, ← List.take_add, Nat.add_sub_cancel' (offset_mono h)]

/-- What the text of a range and the text between its offsets have in common: the start of the
first line in front of them and that of the last line at their end. -/
theorem exists_slice_stretch (hr : b.document.Fits r) : ∃ head tail,
    head ++ b.document.slice r =
        Text.ended ((b.linesBroken r).map Text.withoutNewline) ++ tail ∧
      head ++ b.stretch r = (b.linesBroken r).flatten ++ tail := by
  have hlines : b.text.brokenLines.take r.stop.line =
      b.text.brokenLines.take r.start.line ++ b.linesBroken r := by
    rw [linesBroken, ← List.take_add, Nat.add_sub_cancel' hr.line_le]
  have hbefore := Document.before_append_slice hr
  have htext := take_append_stretch (b := b) hr.le
  rw [take_offset_of_inside hr.start, take_offset_of_inside hr.stop, hlines, List.flatten_append,
    List.append_assoc, List.append_assoc, List.append_cancel_left_eq] at htext
  rw [Document.before, Document.before, document, ← List.map_take, ← List.map_take, hlines,
    List.map_append, Text.ended_append, List.append_assoc, List.append_assoc,
    List.append_cancel_left_eq, ← document] at hbefore
  exact ⟨_, _, hbefore, htext⟩

theorem slice_eq_stretch_iff (h : r.start ≤ r.stop) :
    b.document.slice r = b.stretch r ↔ b.EndsInNewlines r := by
  have hstretch : b.stretch (b.document.clamp r) = b.stretch r := by
    rw [Document.clamp_of_le _ h, stretch, stretch, offset_clampPosition, offset_clampPosition]
  obtain ⟨head, tail, hslice, hbroken⟩ := exists_slice_stretch (b.document.fits_clamp r)
  rw [← Document.slice_clamp, ← hstretch, ← List.append_cancel_left_eq head, hslice, hbroken,
    List.append_cancel_right_eq]
  exact Text.ended_map_withoutNewline_eq_iff

theorem mem_text {line : Text} (hline : line ∈ b.document.lines) {x : Char} (hx : x ∈ line) :
    x ∈ b.text := by
  obtain ⟨broken, hbroken, rfl⟩ := List.mem_map.mp hline
  rw [← b.text.flatten_brokenLines]
  refine List.mem_flatten_of_mem hbroken ?_
  unfold Text.withoutNewline at hx
  split at hx
  · exact (List.dropLast_sublist _).subset hx
  · exact hx

theorem return_notMem_slice (hb : '\r' ∉ b.text) (r : Range) : '\r' ∉ b.document.slice r := by
  intro hmem
  have hbefore := Document.before_append_slice (b.document.fits_clamp r)
  rw [Document.slice_clamp] at hbefore
  rcases Document.mem_before (hbefore ▸ List.mem_append_right _ hmem) with hnewline | ⟨line, h, hx⟩
  · exact absurd hnewline (by decide)
  · exact hb (mem_text h hx)

/-- Replacing a range by a text without carriage returns changes nothing if and only if the text
is what lies between the offsets already. -/
theorem edit_text_eq_iff {t : Text} (ht : '\r' ∉ t) (h : r.start ≤ r.stop) :
    (b.edit ⟨r, t⟩).text = b.text ↔ t = b.stretch r := by
  have htext : b.text.take (b.offset r.start) ++ b.stretch r ++ b.text.drop (b.offset r.stop) =
      b.text := by
    rw [take_append_stretch h, List.take_append_drop]
  have hedit : (b.edit ⟨r, t⟩).text =
      b.text.take (b.offset r.start) ++ t ++ b.text.drop (b.offset r.stop) := by
    simp only [edit, LineEnding.normalize_of_notMem ht, Nat.max_eq_right (offset_mono h)]
  rw [hedit]
  constructor
  · intro heq
    have hsame := heq.trans htext.symm
    rwa [List.append_cancel_right_eq, List.append_cancel_left_eq] at hsame
  · rintro rfl
    exact htext

theorem return_notMem_foldl_edit (edits : List Edit) (hb : '\r' ∉ b.text) :
    '\r' ∉ (edits.foldl edit b).text := by
  induction edits generalizing b with
  | nil => exact hb
  | cons e rest ih =>
      apply ih
      simp only [edit, List.mem_append, not_or]
      exact ⟨⟨fun h => hb (List.mem_of_mem_take h), LineEnding.return_notMem_normalize _⟩,
        fun h => hb (List.mem_of_mem_drop h)⟩

theorem endsInNewlines_of_plain (hb : b.text.Plain) (r : Range) : b.EndsInNewlines r := by
  obtain ⟨init, last, -, hbroken⟩ := Text.exists_brokenLines_apply .lf hb
  change b.text.brokenLines = init.map (· ++ ['\n']) ++ [last] at hbroken
  have hcount : b.document.lineCount = init.length + 1 := by
    simp [Document.lineCount, document, hbroken]
  have hfits := b.document.fits_clamp r
  have hle := hfits.line_le
  have hlast := line_lt hfits.stop
  intro line hline
  rw [linesBroken, hbroken, List.drop_append_of_le_length (by rw [List.length_map]; omega),
    List.take_append_of_le_length (by rw [List.length_drop, List.length_map]; omega)] at hline
  obtain ⟨bare, -, rfl⟩ :=
    List.mem_map.mp (List.mem_of_mem_drop (List.mem_of_mem_take hline))
  exact List.getLast?_concat

/-- The text of a range is the text between the offsets of its ends, and putting it there changes
nothing, if and only if newlines end all lines of the range but the last one.  They do where no
other line breaks are around. -/
theorem slice_eq_stretch_iff_endsInNewlines (t : Text) (language : String) (edits : List Edit)
    (p q : Position) :
    let b := edits.foldl edit (load t language)
    let r := Range.between p q
    (b.document.slice r = b.stretch r ↔ b.EndsInNewlines r) ∧
      ((b.edit ⟨r, b.document.slice r⟩).text = b.text ↔ b.EndsInNewlines r) ∧
      (b.text.Plain → b.EndsInNewlines r) := by
  intro b r
  have hle : r.start ≤ r.stop := Range.between_start_le_stop p q
  have hb : '\r' ∉ b.text :=
    return_notMem_foldl_edit edits (LineEnding.return_notMem_normalize t)
  have hread := slice_eq_stretch_iff (b := b) hle
  exact ⟨hread, (edit_text_eq_iff (return_notMem_slice hb r) hle).trans hread,
    fun hplain => endsInNewlines_of_plain hplain r⟩

/-- A vertical tab ends a line and stays in it, so the text that is read has a newline that the
buffer does not have. -/
theorem slice_ne_stretch_of_vertical_tab :
    (load "a\x0bb".toList "plaintext").document.slice (.lines 0 1) = "a\x0b\nb".toList ∧
      (load "a\x0bb".toList "plaintext").stretch (.lines 0 1) = "a\x0bb".toList ∧
      ((load "a\x0bb".toList "plaintext").edit ⟨.lines 0 1,
        (load "a\x0bb".toList "plaintext").document.slice (.lines 0 1)⟩).text ≠
          (load "a\x0bb".toList "plaintext").text := by
  decide

end Buffer

end BlockOrder
