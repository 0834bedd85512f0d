import BlockOrder.Proofs.Pattern.OnePass
import BlockOrder.Proofs.Sort.Conservation

/-!
# Comments and strings in a single pass

Comments and strings are meant to be removed in one pass from left to right.  For the languages
whose comments open with a single character that is so.  For the others there is a line on which
what stands around a string or a comment makes up the start of a comment when that is removed, and
the pass would leave it.  Ruby apart, nothing else goes wrong: a removal that never reaches over a
gap is a single pass.
-/

namespace BlockOrder

open List (Forall₂)

/-! ## The patterns of a classifier -/

namespace Report

variable {α β : Type} {P : α → Prop} {Q : β → Prop}

theorem always_pure {a : α} (h : P a) : Always P (pure a) := fun _ => h

theorem Always.bind {x : Report α} {f : α → Report β} (hx : Always P x)
    (hf : ∀ a, P a → Always Q (f a)) : Always Q (x >>= f) := fun s => hf _ (hx s) _

end Report

namespace Classifier

open Report (Always always_bind always_pure)

theorem always_compileRule (rule : String) (source : Text) :
    Always (· = Matcher.ofSource? source) (compileRule rule source none) := by
  unfold compileRule
  cases Matcher.ofSource? source with
  | some p => exact always_pure rfl
  | none => exact always_bind fun _ => always_pure rfl

theorem always_compileComment (rules : CommentRules) (d : Delimiters) :
    Always (fun r => r.comments =
        rules.comments ++ (Matcher.ofSource? (commentSource d)).toList)
      (compileComment rules d) := by
  refine (always_compileRule _ _).bind fun p hp => ?_
  rw [← hp]
  cases p with
  | none => exact always_pure (List.append_nil _).symm
  | some p => exact always_bind fun _ => always_pure rfl

theorem always_foldlM_compileComment (ds : List Delimiters) (rules : CommentRules) :
    Always (fun r => r.comments =
        rules.comments ++ ds.filterMap fun d => Matcher.ofSource? (commentSource d))
      (ds.foldlM compileComment rules) := by
  induction ds generalizing rules with
  | nil => exact always_pure (List.append_nil _).symm
  | cons d ds ih =>
      rw [List.foldlM_cons]
      refine (always_compileComment rules d).bind fun rules' hrules => ?_
      have hcons : rules.comments ++
          (d :: ds).filterMap (fun d => Matcher.ofSource? (commentSource d)) =
          rules'.comments ++ ds.filterMap fun d => Matcher.ofSource? (commentSource d) := by
        rw [hrules, List.filterMap_cons, List.append_assoc]
        cases Matcher.ofSource? (commentSource d) <;> rfl
      rw [hcons]
      exact ih rules'

theorem always_filterMapM (rule : String) (source : Delimiters → Text) (ds : List Delimiters) :
    Always (· = ds.filterMap fun d => Matcher.ofSource? (source d))
      (ds.filterMapM fun d => compileRule rule (source d) none) := by
  induction ds with
  | nil => exact always_pure rfl
  | cons d ds ih =>
      rw [List.filterMapM_cons]
      refine (always_compileRule _ _).bind fun p hp => ?_
      rw [List.filterMap_cons, ← hp]
      cases p with
      | none => exact ih
      | some p => exact ih.bind fun ps hps => always_pure (congrArg _ hps)

theorem compile_patterns (config : Config) (language : String) :
    (compile config language).1.comments = (config.markersOf language).comments.filterMap
        (fun d => Matcher.ofSource? (commentSource d)) ∧
      (compile config language).1.strings = (config.markersOf language).strings.filterMap
        (fun d => Matcher.ofSource? (stringSource d)) := by
  have hreport : Always (fun c => c.comments = (config.markersOf language).comments.filterMap
        (fun d => Matcher.ofSource? (commentSource d)) ∧
      c.strings = (config.markersOf language).strings.filterMap
        (fun d => Matcher.ofSource? (stringSource d))) (compileReporting config language) := by
    unfold compileReporting
    refine always_bind fun _ => ?_
    refine (always_foldlM_compileComment _ {}).bind fun rules hrules => ?_
    refine (always_filterMapM _ _ _).bind fun strings hstrings => ?_
    iterate 5
      refine always_bind fun _ => ?_
    cases config.forceFirstPattern? with
    | none => exact always_bind fun _ _ => ⟨hrules, hstrings⟩
    | some source => exact always_bind fun _ => always_bind fun _ _ => ⟨hrules, hstrings⟩
  exact hreport []

end Classifier

/-! ## Delimiters that are plain texts -/

namespace Delimiters

/-- A pattern without the backslashes that quote its characters. -/
def unquoted : Text → Text
  | '\\' :: x :: rest => x :: unquoted rest
  | x :: rest => x :: unquoted rest
  | [] => []

def opener (d : Delimiters) : Opener := ⟨unquoted d.start.toList, d.endsWithLine⟩

/-- The matcher of a stretch between plain texts, where `body` is taken in one step. -/
def matcher (body : Matcher) (d : Delimiters) : Matcher :=
  match d.stop? with
  | none => .opened d.opener.text .lineTail
  | some stop => .opened d.opener.text (.closingTail body (unquoted stop.toList))

def commentMatcher (d : Delimiters) : Matcher := d.matcher (.one Matcher.anyChar)

def stringMatcher (d : Delimiters) : Matcher :=
  d.matcher (.escapedChar (d.escape.getD '\\'))

theorem opens_matcher {d : Delimiters} {body : Matcher} (hforward : body.isForward = true)
    (hbody : body.Advances) (h : d.opener.text ≠ []) :
    Matcher.Opens d.opener (d.matcher body) := by
  unfold matcher
  cases hstop : d.stop? with
  | none =>
      have hline : d.opener = ⟨d.opener.text, true⟩ := by
        simp only [opener, endsWithLine, hstop, Option.isNone_none]
      rw [hline]
      exact Matcher.opens_line h
  | some stop =>
      have hclosed : d.opener = ⟨d.opener.text, false⟩ := by
        simp only [opener, endsWithLine, hstop, Option.isNone_some]
      rw [hclosed]
      exact Matcher.opens_closing hforward hbody h _

end Delimiters

namespace Language

open Classifier (commentSource stringSource)

/-- The delimiters of comments that are plain texts, which are all but those of one language. -/
def plainComments : List Delimiters := [
  .toLineEnd "//", .enclosed "/\\*" "\\*/", .enclosed "###" "###", .toLineEnd "#",
  .enclosed "<#" "#>", .toLineEnd ";", .enclosed "<!--" "-->", .toLineEnd "--",
  .enclosed "--\\[\\[" "\\]\\]", .enclosed "\\\x7b-" "-\\\x7d", .toLineEnd "%",
  .toLineEnd "'"]

def plainStrings : List Delimiters :=
  [.quoted "\"", .quoted "'", .quoted "`", .quoted "\"\"\"", .quoted "'''"]

/-- The patterns of comments and strings with given delimiters. -/
def patterns (comments strings : List Delimiters) : List Matcher :=
  comments.filterMap (fun d => Matcher.ofSource? (commentSource d)) ++
    strings.filterMap fun d => Matcher.ofSource? (stringSource d)

def plainPatterns (comments strings : List Delimiters) : List Matcher :=
  comments.map Delimiters.commentMatcher ++ strings.map Delimiters.stringMatcher

section

variable {comments strings : List Delimiters}

set_option maxRecDepth 10000 in
theorem ofSource?_commentSource : ∀ d ∈ plainComments,
    Matcher.ofSource? (commentSource d) = some d.commentMatcher := by
  rw [← List.map_inj_left]
  rfl

set_option maxRecDepth 10000 in
theorem ofSource?_stringSource : ∀ d ∈ plainStrings,
    Matcher.ofSource? (stringSource d) = some d.stringMatcher := by
  rw [← List.map_inj_left]
  rfl

theorem patterns_eq (hcomments : comments ⊆ plainComments) (hstrings : strings ⊆ plainStrings) :
    patterns comments strings = plainPatterns comments strings := by
  rw [patterns, plainPatterns,
    List.filterMap_congr fun d hd => ofSource?_commentSource d (hcomments hd),
    List.filterMap_congr fun d hd => ofSource?_stringSource d (hstrings hd)]
  simp only [← Function.comp_def some, List.filterMap_eq_map]

theorem opener_ne_nil : ∀ d ∈ plainComments ++ plainStrings, d.opener.text ≠ [] := by
  decide

theorem opens_plainPatterns (hcomments : comments ⊆ plainComments)
    (hstrings : strings ⊆ plainStrings) :
    Forall₂ Matcher.Opens ((comments ++ strings).map Delimiters.opener)
      (plainPatterns comments strings) := by
  rw [List.map_append]
  apply List.rel_append
  · rw [List.forall₂_map_left_iff, List.forall₂_map_right_iff, List.forall₂_same]
    intro d hd
    exact Delimiters.opens_matcher rfl Matcher.advances_anyChar
      (opener_ne_nil d (List.mem_append_left _ (hcomments hd)))
  · rw [List.forall₂_map_left_iff, List.forall₂_map_right_iff, List.forall₂_same]
    intro d hd
    exact Delimiters.opens_matcher rfl (Matcher.advances_escapedChar _)
      (opener_ne_nil d (List.mem_append_right _ (hstrings hd)))

end

/-! ## The languages -/

/-- The languages whose comments and strings are removed in a single pass. -/
def inOnePass : List String :=
  ["clojure", "coffeescript", "dockerfile", "elixir", "erlang", "ini", "latex", "lisp",
    "makefile", "matlab", "nim", "perl", "plaintext", "python", "r", "scheme", "shellscript",
    "tex", "toml", "vb", "yaml"]

def quotes : List Delimiters := [.quoted "\"", .quoted "'", .quoted "`"]

/-- Delimiters of comments and of strings with a text that is more than a single pass removes. -/
def seamed : List ((List Delimiters × List Delimiters) × String) := [
  ((slashComments, quotes), "/\"\"/"),
  ((slashComments, [.quoted "\"", .quoted "'"]), "/\"\"/"),
  ((slashComments, [.quoted "\""]), "/\"\"/"),
  ((slashComments ++ [.toLineEnd "#"], quotes), "/\"\"/"),
  (([.enclosed "/\\*" "\\*/"], quotes), "/\"\"*"),
  (([.enclosed "<#" "#>", .toLineEnd "#"], quotes), "<\"\"#"),
  (([.enclosed "<!--" "-->"], quotes), "<\"\"!--"),
  (([.enclosed "<!--" "-->"], [.quoted "\"", .quoted "'"]), "<\"\"!--"),
  (([.enclosed "<!--" "-->"], []), "<!-<!---->-"),
  (([.toLineEnd "--", .enclosed "/\\*" "\\*/"], [.quoted "\"", .quoted "'"]), "-\"\"-"),
  (([.enclosed "--\\[\\[" "\\]\\]", .toLineEnd "--"], quotes), "-\"\"-"),
  (([.enclosed "\\\x7b-" "-\\\x7d", .toLineEnd "--"], quotes), "-\"\"-")]

theorem mem_seamed (language : String) : language ∈ inOnePass ∨ language = "ruby" ∨
    (comments language, strings language) ∈ seamed.map Prod.fst := by
  by_cases hplain : language = "plaintext"
  · left
    simp [hplain, inOnePass]
  · unfold comments
    -- one goal for every language with comments of its own, and one for the others
    split
    all_goals simp [inOnePass, strings, seamed, quotes, slashComments, Delimiters.enclosed,
      Delimiters.toLineEnd, Delimiters.quoted]

theorem subset_plain :
    (∀ l ∈ inOnePass, comments l ⊆ plainComments ∧ strings l ⊆ plainStrings) ∧
      ∀ e ∈ seamed, e.1.1 ⊆ plainComments ∧ e.1.2 ⊆ plainStrings := by
  decide +kernel

theorem comments_subset {language : String} (h : language ≠ "ruby") :
    comments language ⊆ plainComments ∧ strings language ⊆ plainStrings := by
  obtain hmem | rfl | hmem := mem_seamed language
  · exact subset_plain.1 language hmem
  · exact absurd rfl h
  · obtain ⟨e, he, htables⟩ := List.mem_map.mp hmem
    have hplain := subset_plain.2 e he
    rw [htables] at hplain
    exact hplain

theorem seamless_of_mem : ∀ l ∈ inOnePass,
    Matcher.Seamless ((comments l ++ strings l).map Delimiters.opener) := by
  decide +kernel

theorem strip_ne_onePass_of_seamed : ∀ e ∈ seamed, '\n' ∉ e.2.toList ∧
    Matcher.strip (plainPatterns e.1.1 e.1.2) e.2.toList ≠
      Matcher.onePass (plainPatterns e.1.1 e.1.2) e.2.toList := by
  decide +kernel

/-- What a string leaves at the start of a line may open a comment there. -/
theorem strip_ne_onePass_of_ruby :
    Matcher.strip (patterns (comments "ruby") (strings "ruby")) "\"\"=begin".toList ≠
      Matcher.onePass (patterns (comments "ruby") (strings "ruby")) "\"\"=begin".toList := by
  decide +kernel

theorem exists_strip_ne_onePass {language : String} (h : language ∉ inOnePass) :
    ∃ t, '\n' ∉ t ∧ Matcher.strip (patterns (comments language) (strings language)) t ≠
      Matcher.onePass (patterns (comments language) (strings language)) t := by
  obtain hmem | rfl | hmem := mem_seamed language
  · exact absurd hmem h
  · exact ⟨_, by decide, strip_ne_onePass_of_ruby⟩
  · obtain ⟨e, he, htables⟩ := List.mem_map.mp hmem
    obtain ⟨hcomments, hstrings⟩ := subset_plain.2 e he
    obtain ⟨hline, hne⟩ := strip_ne_onePass_of_seamed e he
    rw [← patterns_eq hcomments hstrings, htables] at hne
    exact ⟨_, hline, hne⟩

end Language

namespace Classifier

/-- The text without comments and strings as a single pass would leave it. -/
def onePass (c : Classifier) (t : Text) : Text := Matcher.onePass (c.comments ++ c.strings) t

/-- Whether a comment or string is removed that reaches over a gap. -/
def straddles (c : Classifier) (t : Text) : Bool := Matcher.straddles (c.comments ++ c.strings) t

theorem compile_eq_patterns (language : String) :
    (compile {} language).1.comments ++ (compile {} language).1.strings =
      Language.patterns (Language.comments language) (Language.strings language) := by
  obtain ⟨hcomments, hstrings⟩ := compile_patterns {} language
  rw [hcomments, hstrings]
  rfl

/-- Comments and strings are removed in a single pass, in which nothing reaches over a gap, for
the languages of a list and for no other.  For the others but one it is a single pass on every text
on which nothing reaches over a gap. -/
theorem stripCommentsAndStrings_onePass (language : String) :
    let c := (compile {} language).1
    (language ∈ Language.inOnePass → ∀ t, c.straddles t = false ∧
        c.stripCommentsAndStrings t = c.onePass t) ∧
      (language ∉ Language.inOnePass → ∃ t, '\n' ∉ t ∧
        c.stripCommentsAndStrings t ≠ c.onePass t) ∧
      (language ≠ "ruby" → ∀ t, c.straddles t = false →
        c.stripCommentsAndStrings t = c.onePass t) := by
  have hpatterns := compile_eq_patterns language
  generalize (compile {} language).1 = c at hpatterns ⊢
  refine ⟨?_, ?_, ?_⟩
  · intro hmem t
    obtain ⟨hcomments, hstrings⟩ := Language.subset_plain.1 language hmem
    rw [straddles, stripCommentsAndStrings, onePass, hpatterns,
      Language.patterns_eq hcomments hstrings]
    exact (Language.seamless_of_mem language hmem).strip_eq_onePass
      (Language.opens_plainPatterns hcomments hstrings) t
  · intro hmem
    unfold stripCommentsAndStrings onePass
    rw [hpatterns]
    exact Language.exists_strip_ne_onePass hmem
  · intro hruby t
    obtain ⟨hcomments, hstrings⟩ := Language.comments_subset hruby
    rw [straddles, stripCommentsAndStrings, onePass, hpatterns,
      Language.patterns_eq hcomments hstrings]
    exact Matcher.strip_eq_onePass (Language.opens_plainPatterns hcomments hstrings)

/-- Python has single characters only; what is removed in the other line leaves no start of a
comment. -/
theorem stripCommentsAndStrings_onePass_of_lines :
    "python" ∈ Language.inOnePass ∧
      (compile {} "python").1.stripCommentsAndStrings "f('a#b', \"\"\"c\"\"\") # d".toList =
        (compile {} "python").1.onePass "f('a#b', \"\"\"c\"\"\") # d".toList ∧
      (compile {} "typescript").1.straddles "f(\"http://x\") /* c */ // d".toList = false ∧
      (compile {} "typescript").1.stripCommentsAndStrings
          "f(\"http://x\") /* c */ // d".toList =
        (compile {} "typescript").1.onePass "f(\"http://x\") /* c */ // d".toList := by
  have hmem : "python" ∈ Language.inOnePass := by
    decide
  have hstraddles :
      (compile {} "typescript").1.straddles "f(\"http://x\") /* c */ // d".toList = false := by
    rw [straddles, compile_eq_patterns]
    decide +kernel
  refine ⟨hmem, ?_, hstraddles, ?_⟩
  · exact ((stripCommentsAndStrings_onePass "python").1 hmem _).2
  · exact (stripCommentsAndStrings_onePass "typescript").2.2 (by decide) _ hstraddles

/-- The slashes around an empty string open a comment when it has been removed. -/
theorem stripCommentsAndStrings_of_slashes :
    (compile {} "typescript").1.stripCommentsAndStrings "/\"\"/".toList = [] ∧
      (compile {} "typescript").1.onePass "/\"\"/".toList = "//".toList ∧
      (compile {} "typescript").1.straddles "/\"\"/".toList = true := by
  rw [stripCommentsAndStrings, onePass, straddles, compile_eq_patterns]
  decide +kernel

end Classifier

end BlockOrder
