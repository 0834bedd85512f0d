import BlockOrder.Proofs.Buffer.Edits
import BlockOrder.Proofs.Order.Preorder
import BlockOrder.Proofs.Sort.Conservation
import BlockOrder.Proofs.Sort.Edits
import BlockOrder.Proofs.Sort.Levels

/-!
# Sorting a document twice

Sorting a second time reads everything off the sorted text again: where blocks start, which
separators belong to the places, what the keys are.  It changes nothing if the blocks stay blocks
where they have come to stand and the places end as before.  A separator that comes to stand at
the end of all blocks but the last is taken for one of the places, and then the keys are others
than before.
-/

namespace BlockOrder

namespace Document

variable {d : Document} {c : Classifier} {pre post : List Text}

theorem exists_not_blank (hne : d.lines ≠ []) (h : d.texts c ≠ []) :
    ∃ line ∈ d.lines, line.isBlank = false := by
  obtain ⟨n, ls, hls, hprefix, htrim⟩ := exists_trimRange_whole hne
  obtain ⟨hle, hlast, hcount⟩ := lines_of_isPrefix hprefix hls
  rw [texts, blocks_of_isPrefix c hprefix hls htrim, blocksIn, factsOf_eq_known c hcount] at h
  rcases Blocks.tile_known (F := d.lineFacts c) hle with ⟨hnil, -⟩ | ⟨-, m, -, hm, hblank⟩
  · rw [hnil] at h
    exact absurd rfl h
  · have hlt : m < d.lines.length := Nat.lt_of_le_of_lt hm hcount
    rw [isBlank_lineFacts c hlt, isBlankLine_eq (List.getElem?_eq_getElem hlt)] at hblank
    exact ⟨_, List.getElem_mem hlt, hblank⟩

namespace Margins

variable {mid : List Text}

theorem isPrefix (h : d.Margins pre mid post) : mid <+: d.lines.drop pre.length := by
  rw [h.lines, List.append_assoc, List.drop_left]
  exact List.prefix_append mid post

/-- The texts that stand as blocks in a document are its blocks. -/
theorem texts_eq {texts : List Text} (hne : texts ≠ []) (h : Blocks.Standing c texts)
    (hmargins : d.Margins pre (Blocks.linesOf texts) post) : d.texts c = texts := by
  rw [texts_of_isPrefix c hmargins.isPrefix hmargins.ne_nil hmargins.trimRange_whole,
    Blocks.textsOf_linesOf h hne]

/-- Where the blocks are in order, sorting gives the text back. -/
theorem sortedText_eq {texts : List Text} {k : KeyOrder} {depth : Depth} (hne : texts ≠ [])
    (h : Blocks.Standing c texts) (hmargins : d.Margins pre (Blocks.linesOf texts) post)
    (hsorted : Arrange.sortedLevel c k d.lineCount depth texts = texts) :
    d.sortedText c k depth = d.slice (d.trimRange d.whole) := by
  rw [sortedText, hmargins.texts_eq hne h, if_neg (by simpa using hne), hsorted,
    hmargins.trimRange_whole, slice_of_isPrefix hmargins.isPrefix hmargins.ne_nil,
    ← Blocks.lines_unlines_eq_linesOf hne, Text.unlines_lines]

end Margins

end Document

namespace Buffer

variable {b : Buffer} {c : Classifier} {k : KeyOrder} {depth : Depth} {e : Edit}

/-- Replacing whole lines by themselves changes nothing. -/
theorem edit_eq_self (hb : b.text.Plain) (he : e.Rearranges b.document)
    (hsame : e.text = b.document.slice e.range) : b.edit e = b := by
  have htext := edit_text_of_rearranges hb he
  rw [hsame, Document.before_append_slice he.fits, ← text_eq hb (line_lt he.fits.stop)] at htext
  exact congrArg (fun t => { b with text := t }) htext

/-- The blocks of a document that has been sorted, between the blank lines at its ends. -/
theorem margins_edit (hb : b.text.Plain) (hne : b.document.texts c ≠ [])
    {texts : List Text} (htexts : texts ≠ []) (hstanding : Blocks.Standing c texts)
    (he : e.Rearranges b.document) (hrange : e.range = b.document.trimRange b.document.whole)
    (htext : e.text = Text.unlines texts) :
    ∃ pre post, (b.edit e).document.Margins pre (Blocks.linesOf texts) post := by
  obtain ⟨pre, mid, post, hmargins⟩ :=
    Document.exists_margins (Document.exists_not_blank (lines_ne_nil b) hne)
  have hlines := edit_lines_of_rearranges hb he
  obtain ⟨hle, hlast, -⟩ := Document.lines_of_isPrefix hmargins.isPrefix hmargins.ne_nil
  have hlength : 0 < mid.length := List.length_pos_iff.mpr hmargins.ne_nil
  have hstop : pre.length + mid.length - 1 + 1 = (pre ++ mid).length := by
    rw [List.length_append]
    omega
  rw [hrange, hmargins.trimRange_whole, Document.lineRange_eq hle hlast, htext,
    Blocks.lines_unlines_eq_linesOf htexts, Position.ofOffset_line, Document.lineStop_line,
    hstop, hmargins.lines, List.drop_left, List.append_assoc pre mid post, List.take_left] at hlines
  exact ⟨pre, post, hlines, hmargins.above, hmargins.below, Blocks.linesOf_ne_nil htexts,
    hstanding.head, hstanding.last⟩

/-- A document whose blocks settle is in order once it is sorted. -/
theorem sortedText_edit (hb : b.text.Plain) (hk : k.direction ≠ .rand)
    (hcompare : Std.TransCmp k.compare)
    (hseparators : ∀ x, c.isSeparator x = true → x ≠ '\n' ∧ x ≠ '\r')
    (h : Arrange.Settles c k b.document.lineCount depth (b.document.texts c))
    (he : e.Rearranges b.document) (hrange : e.range = b.document.trimRange b.document.whole)
    (htext : e.text = b.document.sortedText c k depth) :
    (b.edit e).document.sortedText c k depth =
      (b.edit e).document.slice ((b.edit e).document.trimRange (b.edit e).document.whole) := by
  by_cases hne : b.document.texts c = []
  · -- nothing but blank lines: they are replaced by themselves
    have hsame : b.document.sortedText c k depth =
        b.document.slice (b.document.trimRange b.document.whole) := by
      rw [Document.sortedText, hne]
      rfl
    rw [Buffer.edit_eq_self hb he (by rw [htext, hsame, hrange])]
    exact hsame
  · have hsorted :
        Arrange.sortedLevel c k b.document.lineCount depth (b.document.texts c) ≠ [] := by
      rw [← List.length_pos_iff, Arrange.length_sortedLevel, List.length_pos_iff]
      exact hne
    have hreturn : ∀ t ∈ b.document.texts c, '\r' ∉ t := by
      intro t ht
      obtain ⟨r, -, rfl⟩ := List.mem_map.mp ht
      exact ((plain_document hb).slice r).return_notMem
    have hcount := (rearrangedIn_edit hb he).lineCount
    rw [Document.sortedText, if_neg (by simpa using hne)] at htext
    obtain ⟨pre, post, hmargins⟩ := margins_edit hb hne hsorted h.standing he hrange htext
    apply hmargins.sortedText_eq hsorted h.standing
    rw [hcount]
    exact h.sortedLevel_sortedLevel hk hcompare hseparators hreturn

end Buffer

namespace Session

/-- The texts of the blocks of a document. -/
def texts (s : Session) (d : Document) : List Text :=
  (s.blocks d (d.trimRange d.whole) false).1.map d.slice

theorem texts_start (config : Config) (language : String) {d : Document} (hne : d.lines ≠ []) :
    (start config language).texts d = d.texts (start config language).classifier := by
  obtain ⟨n, ls, hls, hprefix, htrim⟩ := Document.exists_trimRange_whole hne
  rw [texts, (stands_start config language d).blocks_eq, htrim,
    Document.clamp_of_isPrefix hprefix hls, ← htrim]
  rfl

/-- The options for sorting a document as it is. -/
def documentOptions (s : Session) (direction : Direction) (depth : Depth) : SortOptions :=
  { s.sortOptions direction with depth, expansion := .disabled }

theorem start_cache (config : Config) (language : String) :
    (start config language).cache = .empty := rfl

variable {s : Session} {b : Buffer} {direction : Direction} {depth : Depth}

theorem exists_sortEdit (hconfig : s.config = {}) (hcache : s.cache = .empty) (hb : b.text.Plain)
    (hdirection : direction ≠ .rand) (depth : Depth) :
    ∃ e s', s.sortEdit b.document (s.documentOptions direction depth) b.document.whole .none
        false = (.ok (some e, .none), s') ∧
      e.Rearranges b.document ∧ e.range = b.document.trimRange b.document.whole ∧
        e.text = b.document.sortedText s.classifier (.ofOptions {} direction) depth := by
  have horder : (s.documentOptions direction depth).order = .ofOptions {} direction := by
    rw [documentOptions, sortOptions, hconfig]
  have hordinary : (s.workspace b.document false).Ordinary
      (s.documentOptions direction depth).order := by
    refine ⟨rfl, ?_, ?_, Buffer.plain_document hb, ?_, ?_⟩
    · rw [workspace, hconfig]
    · rw [workspace, hconfig]
    · rw [horder]
      exact hdirection
    · rw [horder]
      exact KeyOrder.transCmp_ofOptions (.inl rfl) (.inl rfl) direction
  -- one lemma says what the edit is and the other that it rearranges lines; the run is the same
  obtain ⟨c, hok, -⟩ := hordinary.sortEdit_yields (Buffer.lines_ne_nil b) rfl rfl .empty
    (LineCache.faithful_empty _ _)
  obtain ⟨result, c', hok', hrearranges⟩ := Workspace.sortEdit_ends
    (w := s.workspace b.document false) rfl (Buffer.plain_document hb)
    (s.documentOptions direction depth) b.document.whole (p := .none) (by simp [Pending.none])
    .empty
  obtain ⟨rfl, rfl⟩ := EStateM.Result.ok.inj (hok.symm.trans hok')
  refine ⟨_, { s with cache := c }, ?_, hrearranges.1, rfl, ?_⟩
  · change (s.workspace b.document false).sortEdit _ b.document.whole .none .empty = _ at hok
    rw [← hcache] at hok
    rw [sortEdit, run, hok]
    rfl
  · rw [horder]
    rfl

theorem isSeparator_start (language : String) (x : Char)
    (h : (start {} language).classifier.isSeparator x = true) : x ≠ '\n' ∧ x ≠ '\r' := by
  have hchars : ({} : Config).separatorChars = [',', ';'] := by decide
  rw [Classifier.isSeparator, start_separators, List.contains_iff_mem, hchars, List.mem_pair] at h
  rcases h with rfl | rfl
  · exact ⟨by decide, by decide⟩
  · exact ⟨by decide, by decide⟩

/-- Sorting a document a second time leaves it alone, if its blocks settle. -/
theorem sortEdit_again (language : String) {b : Buffer} (hb : b.text.Plain)
    {direction : Direction} (hdirection : direction ≠ .rand) (depth : Depth)
    (h : Arrange.Settles (start {} language).classifier (.ofOptions {} direction)
      b.document.lineCount depth ((start {} language).texts b.document)) :
    ∃ e s₁ e' s₂,
      (start {} language).sortEdit b.document
          ((start {} language).documentOptions direction depth) b.document.whole .none false =
        (.ok (some e, .none), s₁) ∧
      ((start {} language).texts b.document ≠ [] →
        e.text = Text.unlines (Arrange.sortedLevel (start {} language).classifier
          (.ofOptions {} direction) b.document.lineCount depth
          ((start {} language).texts b.document))) ∧
      (start {} language).sortEdit (b.edit e).document
          ((start {} language).documentOptions direction depth) (b.edit e).document.whole .none
          false =
        (.ok (some e', .none), s₂) ∧
      ((b.edit e).edit e').text = (b.edit e).text := by
  rw [texts_start {} language (Buffer.lines_ne_nil b)] at h ⊢
  have hconfig := start_config {} language
  have hcache := start_cache {} language
  have hseparators := isSeparator_start language
  generalize start {} language = s at h hconfig hcache hseparators ⊢
  obtain ⟨e, s₁, hsort, hrearranges, hrange, htext⟩ :=
    exists_sortEdit hconfig hcache hb hdirection depth
  have hsorted := Buffer.sortedText_edit hb hdirection
    (KeyOrder.transCmp_ofOptions (.inl rfl) (.inl rfl) direction) hseparators h hrearranges hrange
    htext
  have hb' := Buffer.plain_edit hb (Buffer.plain_of_rearranges hb hrearranges)
  obtain ⟨e', s₂, hsort', hrearranges', hrange', htext'⟩ :=
    exists_sortEdit hconfig hcache hb' hdirection depth
  refine ⟨e, s₁, e', s₂, hsort, ?_, hsort', ?_⟩
  · intro hne
    rw [htext, Document.sortedText, if_neg (by simpa using hne)]
  · rw [Buffer.edit_eq_self hb' hrearranges' (by rw [htext', hsorted, hrange'])]

/-- Declarations that end with a semicolon, one of them with properties inside, and a function
that does not. -/
def declarations : Buffer where
  text := ("const b = \x7b\n  y: 2,\n  x: 1\n\x7d;\nconst a = 1;\n" ++
    "function c() \x7b\n  return 3;\n\x7d").toList
  ending := .lf
  language := "typescript"

/-- The comma belongs to the first place inside, and no semicolon comes to stand after the
function. -/
theorem sortEdit_again_of_declarations :
    declarations.text.Plain ∧
      Arrange.Settles (start {} "typescript").classifier (.ofOptions {} .asc)
        declarations.document.lineCount .unbounded
        ((start {} "typescript").texts declarations.document) ∧
      ∃ e s₁ e' s₂,
        (start {} "typescript").sortEdit declarations.document
            ((start {} "typescript").documentOptions .asc .unbounded) declarations.document.whole
            .none false =
          (.ok (some e, .none), s₁) ∧
        (start {} "typescript").sortEdit (declarations.edit e).document
            ((start {} "typescript").documentOptions .asc .unbounded)
            (declarations.edit e).document.whole .none false =
          (.ok (some e', .none), s₂) ∧
        ((declarations.edit e).edit e').text = (declarations.edit e).text := by
  have hplain : declarations.text.Plain := by decide
  have hsettles : Arrange.Settles (start {} "typescript").classifier (.ofOptions {} .asc)
      declarations.document.lineCount .unbounded
      ((start {} "typescript").texts declarations.document) := by
    decide +kernel
  obtain ⟨e, s₁, e', s₂, hsort, -, hsort', hsame⟩ :=
    sortEdit_again "typescript" hplain (by decide) .unbounded hsettles
  exact ⟨hplain, hsettles, e, s₁, e', s₂, hsort, hsort', hsame⟩

/-- The text of a buffer after its document has been sorted. -/
def sorted? (s : Session) (b : Buffer) (direction : Direction) (depth : Depth) : Option Text :=
  match (s.sortEdit b.document (s.documentOptions direction depth) b.document.whole .none
    false).1 with
  | .ok (edit, _) => edit.map fun e => (b.edit e).text
  | .error _ => none

theorem sorted?_of_sortEdit {e : Edit} {s' : Session}
    (h : s.sortEdit b.document (s.documentOptions direction depth) b.document.whole .none false =
      (.ok (some e, .none), s')) : s.sorted? b direction depth = some (b.edit e).text := by
  rw [sorted?, h]
  rfl

theorem sorted?_comma :
    (start {} "plaintext").sorted? ⟨"a b\na,".toList, .lf, "plaintext"⟩ .desc .default =
        some "a,\na b".toList ∧
      (start {} "plaintext").sorted? ⟨"a,\na b".toList, .lf, "plaintext"⟩ .desc .default =
        some "a b,\na".toList := by
  decide +kernel

/-- The comma of the last block comes to stand at the end of the first.  There it is taken for a
separator of the places, and without it the keys of the blocks compare the other way round. -/
theorem sortEdit_moves_again :
    ∃ b : Buffer, b = ⟨"a b\na,".toList, .lf, "plaintext"⟩ ∧ ∃ e s₁ e' s₂,
      (start {} "plaintext").sortEdit b.document
          ((start {} "plaintext").documentOptions .desc .default) b.document.whole .none false =
        (.ok (some e, .none), s₁) ∧
      (start {} "plaintext").sortEdit (b.edit e).document
          ((start {} "plaintext").documentOptions .desc .default) (b.edit e).document.whole .none
          false =
        (.ok (some e', .none), s₂) ∧
      (b.edit e).text = "a,\na b".toList ∧ ((b.edit e).edit e').text = "a b,\na".toList := by
  refine ⟨_, rfl, ?_⟩
  have hconfig := start_config {} "plaintext"
  have hcache := start_cache {} "plaintext"
  obtain ⟨hfirst, hsecond⟩ := sorted?_comma
  obtain ⟨e, s₁, hsort, -⟩ := exists_sortEdit hconfig hcache
    (b := ⟨"a b\na,".toList, .lf, "plaintext"⟩) (by decide) (show Direction.desc ≠ .rand by decide)
    .default
  have htext := Option.some.inj ((sorted?_of_sortEdit hsort).symm.trans hfirst)
  have hbuffer : (⟨"a b\na,".toList, .lf, "plaintext"⟩ : Buffer).edit e =
      ⟨"a,\na b".toList, .lf, "plaintext"⟩ := congrArg (Buffer.mk · .lf "plaintext") htext
  obtain ⟨e', s₂, hsort', -⟩ := exists_sortEdit hconfig hcache
    (b := ⟨"a,\na b".toList, .lf, "plaintext"⟩) (by decide) (show Direction.desc ≠ .rand by decide)
    .default
  have htext' := Option.some.inj ((sorted?_of_sortEdit hsort').symm.trans hsecond)
  refine ⟨e, s₁, e', s₂, hsort, ?_, htext, ?_⟩
  · rw [hbuffer]
    exact hsort'
  · rw [hbuffer]
    exact htext'

end Session

end BlockOrder
