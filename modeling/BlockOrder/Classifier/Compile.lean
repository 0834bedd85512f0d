import BlockOrder.Classifier.Basic

/-!
# Compiling a configuration

The classifier of a configuration and a language.  A text that is no pattern is reported and
replaced by the default for its setting, or left out if there is none.
-/

namespace BlockOrder

namespace Classifier

def keyword : String := "@blocksort"

/-- The pattern of a setting, or that of its default. -/
def compileRule (rule : String) (source : Text) (fallback : Option Text) :
    Report (Option Matcher) :=
  match Matcher.ofSource? source with
  | some p => pure (some p)
  | none => do
      Report.add (.invalidPattern rule source)
      pure (fallback.bind Matcher.ofSource?)

def grouped (source : Text) : Text := "(?:".toList ++ source ++ [')']

def anyNumber (source : Text) : Text := grouped source ++ ['*']

def oneOf (sources : List Text) : Text := List.intercalate ['|'] sources

/-- The pattern from a start to the end of its line. -/
def toLineEnd (start : Text) : Text := grouped start ++ ['.', '*']

/-- The pattern of a comment that is removed; one that is not closed runs to the end. -/
def commentSource (d : Delimiters) : Text :=
  match d.stop? with
  | none => toLineEnd d.start.toList
  | some stop =>
      grouped d.start.toList ++ "[\\s\\S]*?".toList ++ grouped (oneOf [grouped stop.toList, ['$']])

/-- The pattern of a comment that is closed. -/
def closedCommentSource (d : Delimiters) : Text :=
  match d.stop? with
  | none => toLineEnd d.start.toList
  | some stop => grouped d.start.toList ++ "[\\s\\S]*?".toList ++ grouped stop.toList

/-- The pattern of a string; one that is not closed runs to the end, and an escaped character
does not close it. -/
def stringSource (d : Delimiters) : Text :=
  match d.stop? with
  | none => toLineEnd d.start.toList
  | some stop =>
      let any := "[\\s\\S]".toList
      let escaped := Pattern.quote [d.escape.getD '\\'] ++ any
      grouped d.start.toList ++ anyNumber (oneOf [escaped, any]) ++ ['?'] ++
        grouped (oneOf [grouped stop.toList, ['$']])

/-- The pattern of a comment that starts with a directive. -/
def directiveSource (d : Delimiters) : Text :=
  '^' :: grouped d.start.toList ++ ' ' :: keyword.toList

/-- Comments with the patterns of their directives.  A comment with an invalid pattern is left
out, with its directive. -/
structure CommentRules where
  comments : List Matcher := []
  sources : List Text := []
  directives : List Matcher := []

/-- Adds the rules for one kind of comment. -/
def compileComment (rules : CommentRules) (d : Delimiters) : Report CommentRules := do
  match ← compileRule "languages.comments" (commentSource d) none with
  | none => pure rules
  | some p =>
      let directive ← compileRule "languages.comments" (directiveSource d) none
      pure {
        comments := rules.comments ++ [p]
        sources := rules.sources ++ [closedCommentSource d]
        directives := rules.directives ++ directive.toList }

/-- How the end of a pattern reaches over what does not count. -/
inductive Reach where
  /-- To the end of the text. -/
  | text
  /-- To the end of the first line. -/
  | firstLine

/-- A pattern that is anchored at the start or the end of the text, changed so that comments and
white space may stand there.  `filler` is the pattern for those. -/
def extendAnchors (filler : Text) (reach : Reach) (source : Text) : Text :=
  let opened :=
    match source with
    | '^' :: rest => '^' :: filler ++ rest
    | _ => source
  match opened.reverse with
  | '$' :: '\\' :: _ => opened
  | '$' :: body =>
      let tail := match reach with
        | .text => ['$']
        | .firstLine => "(?:\\r?\\n|$)".toList
      body.reverse ++ filler ++ tail
  | _ => opened

def compileAnchored (rule : String) (filler : Text) (reach : Reach) (source : String)
    (fallback : Option String) : Report (Option Matcher) :=
  let extended := fun s : String => extendAnchors filler reach s.toList
  compileRule rule (extended source) (fallback.map extended)

/-- The pattern that a list of markers makes, or that of the default markers. -/
def compileMarkers (rule : String) (build : Text → Text) (markers defaults : List String) :
    Report (Option Matcher) :=
  let built := fun l : List String => build (oneOf (l.map String.toList))
  compileRule rule (built markers) (some (built defaults))

/-- The columns of an indentation level; zero is reported and replaced. -/
def compileTabSize (size : UInt64) : Report Nat :=
  if size = 0 then do
    Report.add (.invalidTabSize 0)
    pure Defaults.tabSize.toNat
  else pure size.toNat

/-- The classifier, with reports of what cannot be used. -/
def compileReporting (c : Config) (language : String) : Report Classifier := do
  let markers := c.markersOf language
  let tabSize ← compileTabSize c.tabSize
  let rules ← markers.comments.foldlM compileComment {}
  let strings ← markers.strings.filterMapM fun d =>
    compileRule "languages.strings" (stringSource d) none
  let decorators ← markers.decorators.filterMapM fun source =>
    compileRule "languages.decorators" ("(?m)".toList ++ source.toList) none
  let folding ← FoldTable.compile c.allFoldMarkers
  let filler := anyNumber (oneOf (rules.sources ++ ["\\s".toList]))
  let indentIgnore ← compileMarkers "indentIgnoreMarkers"
    (fun markers => "^\\s*".toList ++ grouped markers ++ filler ++ ['$'])
    c.allIndentIgnoreMarkers Defaults.indentIgnoreMarkers
  let complete ← compileMarkers "completeBlockMarkers"
    (fun markers => grouped markers ++ "[,;]?".toList ++ filler ++ "[,;]?$".toList)
    c.allCompleteBlockMarkers Defaults.completeBlockMarkers
  let incomplete ← compileAnchored "incompleteBlockRegex" filler .text
    c.incompletePattern (some Defaults.incompleteBlock)
  let header ← compileAnchored "multiBlockHeaderRegex" filler .text
    c.headerPattern (some Defaults.multiBlockHeader)
  let forceFirst ←
    match c.forceFirstPattern? with
    | none => pure none
    | some source =>
        compileAnchored "forceBlockHeaderFirstRegex" filler .firstLine source none
  let forceLast ← compileAnchored "forceBlockHeaderLastRegex" filler .firstLine
    c.forceLastPattern (some Defaults.forceLast)
  return {
    tabSize, strings, decorators, folding, indentIgnore, complete, incomplete, header,
    forceFirst, forceLast
    comments := rules.comments
    directives := rules.directives
    separators := c.separatorChars }

/-- The classifier of a configuration and a language, and what cannot be used of the
configuration. -/
def compile (c : Config) (language : String) : Classifier × List ConfigError :=
  (compileReporting c language).run []

end Classifier

end BlockOrder
