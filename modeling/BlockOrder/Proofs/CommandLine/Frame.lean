import BlockOrder.CommandLine.Run
import BlockOrder.Proofs.Buffer.Edits
import BlockOrder.Proofs.Directive.Apart

/-!
# Commands leave other lines alone

Whatever a command asks for, its edits rearrange whole lines and have no line in common.  What it
prints or writes has the characters and the number of lines of the file; lines that no edit
touches are where they were, with the line endings they had.
-/

namespace BlockOrder

/-! ## Saved texts -/

/-- The saved texts differ on the lines of the ranges only, and there in the order of the
characters.  Lines are taken with their endings. -/
structure Text.RearrangedIn (ranges : List Range) (t u : Text) : Prop where
  chars : u.Perm t
  lineCount : u.brokenLines.length = t.brokenLines.length
  inside : ∀ r ∈ ranges, ((u.brokenLines.drop r.start.line).take r.lineCount).flatten.Perm
    ((t.brokenLines.drop r.start.line).take r.lineCount).flatten
  outside : ∀ n, (∀ r ∈ ranges, ¬ r.Touches n) → u.brokenLines[n]? = t.brokenLines[n]?

namespace Buffer

variable {b b' : Buffer}

theorem rearrangedIn_apply (e : LineEnding) (hb : b.text.Plain) (hb' : b'.text.Plain)
    {ranges : List Range} (hfits : ∀ r ∈ ranges, b.document.Fits r)
    (h : Document.RearrangedIn ranges b.document b'.document) :
    Text.RearrangedIn ranges (e.apply b.text) (e.apply b'.text) := by
  have hlines := document_lines hb
  have hlines' := document_lines hb'
  have hcount : b'.text.lines.length = b.text.lines.length := by
    rw [← hlines, ← hlines']
    exact h.lineCount
  refine ⟨?_, ?_, ?_, ?_⟩
  · have hchars := h.chars
    rw [unlines_document_lines hb, unlines_document_lines hb'] at hchars
    exact e.apply_perm hchars
  · rw [Text.length_brokenLines_apply e hb, Text.length_brokenLines_apply e hb', hcount]
  · intro r hr
    have hle := (hfits r hr).line_le
    have hlast := line_lt (hfits r hr).stop
    rw [Document.lineCount, hlines] at hlast
    have hend : r.start.line + r.lineCount ≤ b.text.lines.length := by
      rw [Range.lineCount]
      omega
    have hinside := h.inside r hr
    rw [Document.linesIn, Document.linesIn, hlines, hlines'] at hinside
    have hpos : 0 < r.lineCount := Nat.succ_pos _
    rw [Text.flatten_brokenLines_apply e hb hpos hend,
      Text.flatten_brokenLines_apply e hb' hpos (hcount ▸ hend), hcount]
    exact e.apply_perm (hinside.append_right _)
  · intro n hn
    have houtside := h.outside n hn
    rw [hlines, hlines'] at houtside
    rw [Text.getElem?_brokenLines_apply e hb, Text.getElem?_brokenLines_apply e hb', houtside,
      hcount]

end Buffer

/-! ## Edits of a command -/

namespace CommandLine

variable {a : Arguments} {d : Document} {s : Session} {es : List Edit}

theorem order_sortOptions (a : Arguments) (s : Session) (expansion : Expansion) :
    (sortOptions a s expansion).order = .ofOptions s.config.collation a.direction := by
  unfold sortOptions
  cases a.depth <;> rfl

/-- A selection is sorted by one edit, which rearranges whole lines. -/
theorem exists_edit_of_selection (hd : d.Plain) (hformat : a.format = false) {range : Range}
    {expansion : Expansion} (hselection : selection a s.config d = .ok (range, expansion)) :
    ∃ result : Except Inconsistent Edit,
      edits a s d = (result.map ([·])).mapError .inconsistent ∧
        Sound (Std.TransCmp (KeyOrder.ofOptions s.config.collation a.direction).compare)
          (·.Rearranges d) result := by
  obtain ⟨result, c, hrun, hsound⟩ :=
    Workspace.sortEdit_ends (w := s.workspace d false) (p := .none) rfl hd
      (sortOptions a s expansion) range (by simp [Pending.none]) s.cache
  have hresult : (s.sortEdit d (sortOptions a s expansion) range .none false).1 =
      result.map (Prod.map some id) := by
    change (s.workspace d false).sortEdit _ range .none s.cache = _ at hrun
    rw [Session.sortEdit, Session.run, hrun]
    rfl
  rw [order_sortOptions] at hsound
  have hedit : Sound (Std.TransCmp (KeyOrder.ofOptions s.config.collation a.direction).compare)
      (Edit.Rearranges d) (result.map Prod.fst) := hsound.map fun _ h => h.1
  refine ⟨_, ?_, hedit⟩
  simp only [edits, hformat, hselection, bind, Except.bind, hresult]
  cases result <;> rfl

/-- The edits of a command rearrange whole lines and have no line in common. -/
theorem rearranges_of_edits (hd : d.Plain) (h : edits a s d = .ok es) :
    (∀ e ∈ es, e.Rearranges d) ∧ es.Pairwise fun e e' => e.range.Apart e'.range := by
  cases hformat : a.format with
  | true =>
      obtain ⟨result, c, hrun, hsound⟩ :=
        Workspace.formatEdits_ends (w := s.workspace d false) rfl hd none s.cache
      have hresult : (s.formatEdits d none false).1 = result := by
        change (s.workspace d false).formatEdits none s.cache = _ at hrun
        rw [Session.formatEdits, Session.run, hrun]
        rfl
      rw [edits, hformat, if_pos rfl, hresult] at h
      cases result with
      | error e => cases h
      | ok es' =>
          obtain rfl := Except.ok.inj h
          exact ⟨hsound.1, hsound.2.1⟩
  | false =>
      cases hselection : selection a s.config d with
      | error e =>
          simp only [edits, hformat, hselection, bind, Except.bind] at h
          cases h
      | ok selected =>
          obtain ⟨result, hedits, hsound⟩ := exists_edit_of_selection hd hformat hselection
          rw [hedits] at h
          cases result with
          | error e => cases h
          | ok e =>
              obtain rfl := Except.ok.inj h
              refine ⟨fun e' he' => ?_, List.pairwise_singleton _ _⟩
              obtain rfl := List.mem_singleton.mp he'
              exact hsound

/-- Edits that rearrange whole lines and have no line in common are made in any order. -/
theorem rearrangedIn_applyEdits {b : Buffer} (hb : b.text.Plain)
    (hedits : ∀ e ∈ es, e.Rearranges b.document)
    (hapart : es.Pairwise fun e e' => e.range.Apart e'.range) :
    (applyEdits b es).text.Plain ∧ (applyEdits b es).ending = b.ending ∧
      Document.RearrangedIn (es.map Edit.range) b.document (applyEdits b es).document := by
  have hperm := sortBy_perm (fun x y : Edit => decide (y.range.start ≤ x.range.start)) es
  obtain ⟨hplain, hending, hrun⟩ := Buffer.rearrangedIn_foldl_edit hb
    (fun e he => hedits e (hperm.mem_iff.mp he)) ((hperm.pairwise_iff fun h => h.symm).mpr hapart)
  exact ⟨hplain, hending, hrun.perm (hperm.map Edit.range)⟩

/-- What is saved after edits that rearrange a loaded text. -/
theorem rearrangedIn_saved {t : Text} (ht : t.Uniform) {language : String}
    (h : edits a s (Buffer.load t language).document = .ok es) :
    (∀ e ∈ es, e.Rearranges (Buffer.load t language).document) ∧
      es.Pairwise (fun e e' => e.range.Apart e'.range) ∧
      Text.RearrangedIn (es.map Edit.range) t (applyEdits (Buffer.load t language) es).saved := by
  obtain ⟨e, x, hx, rfl⟩ := ht
  have hreturn := hx.return_notMem
  have htext : (Buffer.load (e.apply x) language).text = x := e.normalize_apply hreturn
  have hdetect : (Buffer.load (e.apply x) language).ending = .detect (e.apply x) := rfl
  generalize Buffer.load (e.apply x) language = b at h htext hdetect ⊢
  have hb : b.text.Plain := htext ▸ hx
  obtain ⟨hedits, hapart⟩ := rearranges_of_edits (Buffer.plain_document hb) h
  obtain ⟨hplain, hending, hrun⟩ := rearrangedIn_applyEdits hb hedits hapart
  have hperm : (applyEdits b es).text.Perm x := by
    have hchars := hrun.chars
    rwa [Buffer.unlines_document_lines hb, Buffer.unlines_document_lines hplain, htext] at hchars
  have hsaved : (applyEdits b es).saved = e.apply (applyEdits b es).text := by
    rw [Buffer.saved, hending, hdetect]
    exact e.apply_detect_apply hreturn hperm
  refine ⟨hedits, hapart, ?_⟩
  have hfits : ∀ r ∈ es.map Edit.range, b.document.Fits r := by
    intro r hr
    obtain ⟨e', he', rfl⟩ := List.mem_map.mp hr
    exact (hedits e' he').fits
  rw [hsaved, ← htext]
  exact Buffer.rearrangedIn_apply e hb hplain hfits hrun

/-! ## Runs -/

/-- The configuration that a command uses. -/
def configuration (read? : String → Option Text) (a : Arguments) : Except RunError Config :=
  match a.config with
  | some path => loadConfig read? path
  | none => .ok {}

/-- The language that a command takes a file to be in. -/
def language (a : Arguments) : String := a.language.getD (languageOf a.file)

/-- A file that can be read is loaded, edited and saved. -/
theorem sorted_eq {read? : String → Option Text} {t : Text} (ht : read? a.file = some t) :
    sorted read? a = (do
      let config ← configuration read? a
      let es ← edits a (Session.start config (language a)) (Buffer.load t (language a)).document
      return (applyEdits (Buffer.load t (language a)) es).saved) := by
  rw [sorted, ht, configuration]
  cases a.config <;> rfl

theorem exists_edits_of_sorted {read? : String → Option Text} {t u : Text}
    (ht : read? a.file = some t) (h : sorted read? a = .ok u) :
    ∃ config es, configuration read? a = .ok config ∧
      edits a (Session.start config (language a))
        (Buffer.load t (language a)).document = .ok es := by
  rw [sorted_eq ht] at h
  cases hconfig : configuration read? a with
  | error e =>
      rw [hconfig] at h
      cases h
  | ok config =>
      cases hedits : edits a (Session.start config (language a))
          (Buffer.load t (language a)).document with
      | error e =>
          simp only [hconfig, bind, Except.bind, hedits] at h
          cases h
      | ok es => exact ⟨config, es, rfl, hedits⟩

theorem run_eq {read? : String → Option Text} {arguments : List String} {t : Text} {config : Config}
    (ha : parseArguments arguments = .ok a) (ht : read? a.file = some t)
    (hconfig : configuration read? a = .ok config)
    (hedits : edits a (Session.start config (language a))
      (Buffer.load t (language a)).document = .ok es) :
    run read? arguments =
      if a.inPlace then
        { exitCode := 0,
          written := some (a.file, (applyEdits (Buffer.load t (language a)) es).saved) }
      else { exitCode := 0, output := (applyEdits (Buffer.load t (language a)) es).saved } := by
  have hsorted : sorted read? a = .ok (applyEdits (Buffer.load t (language a)) es).saved := by
    rw [sorted_eq ht, hconfig]
    simp only [bind, Except.bind, hedits]
    rfl
  simp only [run, ha, hsorted]

/-- A command that succeeds prints or writes the file with the text of some lines rearranged:
those that its edits touch.  No line is touched by two edits. -/
theorem run_rearranges {read? : String → Option Text} {arguments : List String} {a : Arguments}
    {t : Text} (ha : parseArguments arguments = .ok a) (ht : read? a.file = some t)
    (hbreaks : t.Uniform) (hrun : (run read? arguments).exitCode = 0) :
    ∃ config es u, configuration read? a = .ok config ∧
      edits a (Session.start config (language a)) (Buffer.load t (language a)).document = .ok es ∧
      run read? arguments =
        (if a.inPlace then { exitCode := 0, written := some (a.file, u) }
          else { exitCode := 0, output := u }) ∧
      (∀ e ∈ es, e.Rearranges (Buffer.load t (language a)).document) ∧
      es.Pairwise (fun e e' => e.range.Apart e'.range) ∧
      Text.RearrangedIn (es.map Edit.range) t u := by
  cases hsorted : sorted read? a with
  | error e =>
      simp only [run, ha, hsorted] at hrun
      cases e <;> cases hrun
  | ok u =>
      obtain ⟨config, es, hconfig, hedits⟩ := exists_edits_of_sorted ht hsorted
      exact ⟨config, es, _, hconfig, hedits, run_eq ha ht hconfig hedits,
        rearrangedIn_saved hbreaks hedits⟩

theorem run_rearranges_whole_file :
    ∃ (e : Edit) (u : Text),
      run (fun _ => some "b\r\na\r\n".toList) ["list.txt"] = { exitCode := 0, output := u } ∧
      e.Rearranges ⟨["b".toList, "a".toList, []]⟩ ∧
      Text.RearrangedIn [e.range] "b\r\na\r\n".toList u := by
  have hplain : Text.Plain "b\na\n".toList := by decide
  have hdocument : (Buffer.load "b\r\na\r\n".toList (language { file := "list.txt" })).document =
      ⟨["b".toList, "a".toList, []]⟩ := rfl
  have hd : (Buffer.load "b\r\na\r\n".toList (language { file := "list.txt" })).document.Plain :=
    Buffer.plain_document hplain
  obtain ⟨result, hedit, hsound⟩ := exists_edit_of_selection (a := { file := "list.txt" })
    (s := Session.start {} (language { file := "list.txt" })) hd rfl rfl
  rw [Session.start_config] at hsound
  obtain ⟨e, rfl, -⟩ := hsound.exists_ok (KeyOrder.transCmp_ofOptions (.inl rfl) (.inl rfl) .asc)
  have hrun : (run (fun _ => some "b\r\na\r\n".toList) ["list.txt"]).exitCode = 0 := by
    rw [run_eq (a := { file := "list.txt" }) rfl rfl rfl hedit]
    rfl
  obtain ⟨config, es, u, hconfig, hedits, houtput, hes, -, hrearranged⟩ :=
    run_rearranges (a := { file := "list.txt" }) rfl rfl ⟨.crlf, _, hplain, rfl⟩ hrun
  obtain rfl := Except.ok.inj hconfig
  obtain rfl := Except.ok.inj (hedit.symm.trans hedits)
  exact ⟨e, u, houtput, hdocument ▸ hes e (List.mem_singleton_self e), hrearranged⟩

end CommandLine

end BlockOrder
