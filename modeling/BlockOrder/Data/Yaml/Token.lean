import BlockOrder.Data.Yaml.Scalar

/-!
# Tokens of configuration files

A file as a list of tokens.  Indentation becomes explicit: where a line is indented deeper, a
sequence or a mapping starts, and it ends where a line is indented less.  Whether a scalar is a
key shows only when a colon comes after it, so a place among the tokens is kept for the mark of
the key.
-/

namespace BlockOrder.Data.Yaml

/-- A token. -/
inductive Token where
  | directive
  | documentStart
  | documentEnd
  /-- A sequence by indentation starts. -/
  | sequenceStart
  /-- A mapping by indentation starts. -/
  | mappingStart
  /-- A sequence or mapping by indentation ends. -/
  | blockEnd
  /-- A sequence in brackets starts. -/
  | listOpen
  | listClose
  /-- A mapping in braces starts. -/
  | recordOpen
  | recordClose
  /-- The hyphen before an entry of a sequence. -/
  | entry
  | comma
  | key
  | value
  | alias (name : Text)
  | anchor (name : Text)
  | tag
  | scalar (isPlain : Bool) (text : Text)
deriving DecidableEq

/-- A token that may turn out to be a key: its number among the tokens, where it starts, and
whether it has to be one. -/
structure KeyCandidate where
  number : Nat
  required : Bool
  line : Nat
  index : Nat
  column : Nat

/-- What has been read of a file: the tokens, the indentation of the current part and of those
around it, whether a key may start here, and the candidates for keys, one for each bracket that
is open and one outside all brackets. -/
structure Layout where
  place : Place
  tokens : Array Token := #[]
  indent : Int := -1
  outer : List Int := []
  keyAllowed : Bool := true
  candidates : List (Option KeyCandidate) := [none]

namespace Layout

def inFlow (s : Layout) : Bool := 1 < s.candidates.length

def emit (s : Layout) (t : Token) : Layout := { s with tokens := s.tokens.push t }

/-- Adds a token among those that have been read. -/
def insert (s : Layout) (number : Nat) (t : Token) : Layout :=
  { s with tokens := s.tokens.insertIdxIfInBounds number t }

def goTo (s : Layout) (p : Place) : Layout := { s with place := p }

/-- Says whether a key may start at the next token. -/
def allowKey (s : Layout) (allowed : Bool) : Layout := { s with keyAllowed := allowed }

/-- Drops the current candidate for a key; `none` if that had to be a key. -/
def dropCandidate? (s : Layout) : Option Layout :=
  match s.candidates with
  | some k :: rest => if k.required then none else some { s with candidates := none :: rest }
  | _ => some s

/-- Takes the next token for a candidate, if a key may start here.  It has to be a key if it
stands where the keys of the current part stand. -/
def addCandidate? (s : Layout) : Option Layout :=
  if !s.keyAllowed then some s
  else do
    let p := s.place
    let required := !s.inFlow && s.indent == p.column
    let s ← s.dropCandidate?
    return { s with
      candidates := some ⟨s.tokens.size, required, p.line, p.index, p.column⟩ ::
        s.candidates.drop 1 }

/-- Forgets a candidate that lies on an earlier line or too far back; `none` if it had to be a
key. -/
def refresh? (p : Place) : Option KeyCandidate → Option (Option KeyCandidate)
  | none => some none
  | some k =>
      if k.line < p.line || k.index + 1024 < p.index then
        if k.required then none else some none
      else some (some k)

/-- Forgets the candidates that cannot be keys any more. -/
def refreshCandidates? (s : Layout) : Option Layout := do
  return { s with candidates := ← s.candidates.mapM (refresh? s.place) }

/-- Ends the parts of the file that are indented deeper than a column. -/
def unindent (column : Int) (s : Layout) : Layout :=
  if s.inFlow then s
  else
    let (deeper, rest) := (s.indent :: s.outer).span (column < ·)
    let tokens := deeper.foldl (fun tokens _ => tokens.push Token.blockEnd) s.tokens
    match rest with
    | indent :: outer => { s with tokens, indent, outer }
    | [] => { s with tokens, indent := -1, outer := [] }

/-- Starts a part of the file if a column is deeper than the current one.  Its token goes to a
given place among the tokens. -/
def indentTo (column : Nat) (number : Nat) (t : Token) (s : Layout) : Layout :=
  if s.inFlow || (column : Int) ≤ s.indent then s
  else { s with indent := column, outer := s.indent :: s.outer }.insert number t

/-- Passes over white space, comments and line ends.  A tab may not stand where a key may start,
and a byte order mark may open a line.  After a line end outside brackets a key may start. -/
def skipBlanks : (fuel : Nat) → Layout → Layout
  | 0, s => s
  | fuel + 1, s =>
      let p := s.place
      let p := if p.column == 0 && p.next? == some (Char.ofNat 0xFEFF) then p.step else p
      let tabs := s.inFlow || !s.keyAllowed
      let p := p.skipWhile fun c => c == ' ' || (tabs && c == '\t')
      let p := if p.next? == some '#' then p.skipWhile (!isLineEnd ·) else p
      match p.lineEnd? with
      | some (_, p) => skipBlanks fuel ((s.goTo p).allowKey (s.keyAllowed || !s.inFlow))
      | none => s.goTo p

/-- Takes the name of an anchor or of an alias, after its indicator. -/
def name? (p : Place) : Option (Text × Place) :=
  let isPart := fun c : Char => isAsciiDigit c || ('a' ≤ c && c ≤ 'z') || ('A' ≤ c && c ≤ 'Z') ||
    c == '_' || c == '-'
  let name := p.rest.takeWhile isPart
  let after := p.steps name.length
  let ended := opensBlank after.rest || after.next?.any ("?:,]\x7d%@`".toList.contains ·)
  if name.isEmpty || !ended then none else some (name, after)

/-- The place after a tag, which white space or a comma inside brackets has to follow. -/
def afterTag? (inFlow : Bool) (p : Place) : Option Place :=
  let isPart := fun c : Char => 0x20 < c.toNat && c.toNat < 0x7F &&
    !(inFlow && ",[]\x7b\x7d".toList.contains c)
  let after := p.skipWhile isPart
  if opensBlank after.rest || (inFlow && after.next? == some ',') then some after else none

/-- The place after a directive, which has to name a version of the language or a prefix for
tags. -/
def afterDirective? (p : Place) : Option Place :=
  let line := p.rest.takeWhile (!isLineEnd ·)
  let words := (line.splitBy fun a b => isSpacing a == isSpacing b).filter fun w =>
    !w.all isSpacing
  let known := match words with
    | name :: arguments =>
        (name = "%YAML".toList &&
          (arguments.head?.any fun v => v = "1.1".toList || v = "1.2".toList)) ||
        (name = "%TAG".toList && 2 ≤ arguments.length)
    | [] => false
  if known then some (p.steps line.length) else none

/-- Takes a token that can stand in front of a colon. -/
def takeNode? (s : Layout) (read : Layout → Option Layout) : Option Layout := do
  let s ← s.addCandidate?
  read (s.allowKey false)

/-- Takes the mark of an entry of a sequence. -/
def takeEntry? (s : Layout) : Option Layout := do
  if !s.inFlow && !s.keyAllowed then none
  let s := s.indentTo s.place.column s.tokens.size .sequenceStart
  let s ← s.dropCandidate?
  return ((s.allowKey true).emit .entry).goTo s.place.step

def takeKey? (s : Layout) : Option Layout := do
  if !s.inFlow && !s.keyAllowed then none
  let s := s.indentTo s.place.column s.tokens.size .mappingStart
  let s ← s.dropCandidate?
  return ((s.allowKey (!s.inFlow)).emit .key).goTo s.place.step

/-- Takes the mark of a value.  The candidate becomes a key; without one the value has no key. -/
def takeValue? (s : Layout) : Option Layout := do
  let marked ←
    match s.candidates with
    | some k :: rest =>
        let s := (s.insert k.number .key).indentTo k.column k.number .mappingStart
        some ({ s with candidates := none :: rest }.allowKey false)
    | _ =>
        if !s.inFlow && !s.keyAllowed then none
        else
          let s := s.indentTo s.place.column s.tokens.size .mappingStart
          some (s.allowKey (!s.inFlow))
  return (marked.emit .value).goTo s.place.step

def takeOpening? (s : Layout) (t : Token) : Option Layout := do
  let s ← s.addCandidate?
  return ({ s with candidates := none :: s.candidates }.allowKey true |>.emit t).goTo s.place.step

def takeClosing? (s : Layout) (t : Token) : Option Layout := do
  let s ← s.dropCandidate?
  let candidates := if s.inFlow then s.candidates.drop 1 else s.candidates
  return ({ s with candidates }.allowKey false |>.emit t).goTo s.place.step

def takeBlock? (s : Layout) (literal : Bool) : Option Layout := do
  let s ← s.dropCandidate?
  let (t, p) ← block? literal s.indent s.place
  return ((s.allowKey true).emit (.scalar false t)).goTo p

def takeQuoted? (s : Layout) (single : Bool) : Option Layout :=
  s.takeNode? fun s => do
    let (t, p) ← quoted? single s.place
    return (s.emit (.scalar false t)).goTo p

/-- Takes a plain scalar.  A key may start after it if its line has ended. -/
def takePlain? (s : Layout) : Option Layout :=
  s.takeNode? fun s => do
    let (t, broken, p) ← plain? s.inFlow (s.indent + 1) s.place
    return ((s.allowKey broken).emit (.scalar true t)).goTo p

/-- Whether a plain scalar can start with the next characters. -/
def startsPlain (inFlow : Bool) : Text → Bool
  | [] => false
  | '-' :: rest => !rest.head?.any isSpacing
  | c :: rest =>
      if c == '?' || c == ':' then !inFlow && !opensBlank rest
      else !(isSpacing c || isLineEnd c || ",[]\x7b\x7d#&*!|>'\"%@`".toList.contains c)

/-- Takes the mark of a document, which ends all parts of the file. -/
def takeDocument? (s : Layout) (t : Token) (after : Place) : Option Layout := do
  let s ← (s.unindent (-1)).dropCandidate?
  return ((s.allowKey false).emit t).goTo after

def take? (s : Layout) : Option Layout :=
  let p := s.place
  if p.column == 0 && p.next? == some '%' then do
    s.takeDocument? .directive (← afterDirective? p)
  else if p.hasMark "---" then s.takeDocument? .documentStart (p.steps 3)
  else if p.hasMark "..." then s.takeDocument? .documentEnd (p.steps 3)
  else
    match p.rest with
    | '[' :: _ => s.takeOpening? .listOpen
    | '\x7b' :: _ => s.takeOpening? .recordOpen
    | ']' :: _ => s.takeClosing? .listClose
    | '\x7d' :: _ => s.takeClosing? .recordClose
    | ',' :: _ => do
        let s ← s.dropCandidate?
        return ((s.allowKey true).emit .comma).goTo p.step
    | '*' :: _ => s.takeNode? fun s => do
        let (name, p) ← name? p.step
        return (s.emit (.alias name)).goTo p
    | '&' :: _ => s.takeNode? fun s => do
        let (name, p) ← name? p.step
        return (s.emit (.anchor name)).goTo p
    | '!' :: _ => s.takeNode? fun s => do
        return (s.emit .tag).goTo (← afterTag? s.inFlow p)
    | '\'' :: _ => s.takeQuoted? true
    | '"' :: _ => s.takeQuoted? false
    | c :: rest =>
        if c == '-' && opensBlank rest then s.takeEntry?
        else if c == '?' && (s.inFlow || opensBlank rest) then s.takeKey?
        else if c == ':' && (s.inFlow || opensBlank rest) then s.takeValue?
        else if c == '|' && !s.inFlow then s.takeBlock? true
        else if c == '>' && !s.inFlow then s.takeBlock? false
        else if startsPlain s.inFlow (c :: rest) then s.takePlain?
        else none
    | [] => none

/-- Reads all tokens.  Every token takes at least one character, so the length of the file is fuel
enough. -/
def readAll? : (fuel : Nat) → Layout → Option (Array Token)
  | 0, _ => none
  | fuel + 1, s => do
      let s := s.skipBlanks (s.place.rest.length + 1)
      if s.place.rest.isEmpty then
        return (← (s.unindent (-1)).dropCandidate?).tokens
      else
        let s ← s.refreshCandidates?
        let s := s.unindent s.place.column
        readAll? fuel (← s.take?)

end Layout

/-- The tokens of a file, in which no control characters may stand. -/
def tokens? (t : Text) : Option (List Token) :=
  if t.all isAllowed then
    (Layout.readAll? (t.length + 1) { place := { rest := t } }).map Array.toList
  else none

end BlockOrder.Data.Yaml
