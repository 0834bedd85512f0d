import BlockOrder.Data.Yaml.Place
import BlockOrder.Text.Numeral

/-!
# Scalars

The texts of scalars: plain words, quoted texts, and blocks of lines.  A scalar can go on over
several lines; where a line ends, a space stands, unless empty lines follow, which stand for
themselves.
-/

namespace BlockOrder.Data.Yaml

/-- What stands between two parts of a scalar: white space on the line and, if the line ends,
the characters for that line end and for those after it. -/
structure Gap where
  spaces : Text := []
  lineEnd : Text := []
  more : Text := []
  broken : Bool := false

namespace Gap

def folded (g : Gap) : Text :=
  if !g.broken then g.spaces
  else if g.lineEnd = ['\n'] then (if g.more.isEmpty then [' '] else g.more)
  else g.lineEnd ++ g.more

/-- Reads white space and line ends.  A tab in front of column `indent` is refused on lines after
the first. -/
def read? (indent : Int) : (fuel : Nat) → Gap → Place → Option (Gap × Place)
  | 0, _, _ => none
  | fuel + 1, g, p =>
      match p.lineEnd?, p.next? with
      | some (c, p), _ =>
          if g.broken then read? indent fuel { g with more := g.more ++ [c] } p
          else read? indent fuel { g with spaces := [], lineEnd := [c], broken := true } p
      | none, some c =>
          if !isSpacing c then some (g, p)
          else if g.broken then
            if c == '\t' && p.column < indent then none else read? indent fuel g p.step
          else read? indent fuel { g with spaces := g.spaces ++ [c] } p.step
      | none, none => some (g, p)

end Gap

/-- Whether a plain scalar ends before the next characters. -/
def endsPlain (inFlow : Bool) : Text → Bool
  | [] => true
  | ':' :: rest => opensBlank rest
  | c :: _ => inFlow && ",[]\x7b\x7d".toList.contains c

/-- Whether a colon in a plain scalar inside brackets is attached to something that cannot
follow it. -/
def strayColon : Text → Bool
  | ':' :: c :: _ => ",?[]\x7b\x7d".toList.contains c
  | _ => false

/-- Reads a plain scalar, from its characters so far (last first), the gap after them, and whether
that gap has just been read.  Gives the gap after the scalar too. -/
def plainFrom? (inFlow : Bool) (indent : Int) :
    (fuel : Nat) → (fresh : Bool) → Gap → Text → Place → Option (Text × Gap × Place)
  | 0, _, _, _, _ => none
  | fuel + 1, fresh, gap, read, p =>
      let done := some (read.reverse, gap, p)
      if fresh && (p.atDocumentMark || p.next? == some '#') then done
      else
        match p.rest with
        | [] => done
        | c :: rest =>
            if isSpacing c || isLineEnd c then do
              let (gap, p) ← Gap.read? indent (rest.length + 2) {} p
              if !inFlow && p.column < indent then some (read.reverse, gap, p)
              else plainFrom? inFlow indent fuel true gap read p
            else if inFlow && strayColon (c :: rest) then none
            else if endsPlain inFlow (c :: rest) then done
            else
              let read := c :: (gap.folded.reverse ++ read)
              plainFrom? inFlow indent fuel false {} read p.step

/-- Reads a plain scalar and says whether a line end follows it. -/
def plain? (inFlow : Bool) (indent : Int) (p : Place) : Option (Text × Bool × Place) :=
  (plainFrom? inFlow indent (p.rest.length + 1) false {} [] p).map fun (t, gap, p) =>
    (t, gap.broken, p)

/-- The character that an escape letter stands for. -/
def escaped? : Char → Option Char
  | '0' => some '\x00'
  | 'a' => some '\x07'
  | 'b' => some '\x08'
  | 't' | '\t' => some '\t'
  | 'n' => some '\n'
  | 'v' => some '\x0b'
  | 'f' => some '\x0c'
  | 'r' => some '\r'
  | 'e' => some '\x1b'
  | ' ' => some ' '
  | '"' => some '"'
  | '/' => some '/'
  | '\\' => some '\\'
  | 'N' => some (Char.ofNat 0x85)
  | '_' => some (Char.ofNat 0xA0)
  | 'L' => some (Char.ofNat 0x2028)
  | 'P' => some (Char.ofNat 0x2029)
  | _ => none

/-- The number of digits of an escape that gives a code. -/
def codeDigits? : Char → Option Nat
  | 'x' => some 2
  | 'u' => some 4
  | 'U' => some 8
  | _ => none

def escape? (p : Place) : Option (Char × Place) := do
  let c ← p.next?
  match codeDigits? c with
  | some n =>
      let digits := (p.rest.drop 1).take n
      if digits.length < n then none
      else return (← charOfCode? (← hexadecimal? digits), p.steps (n + 1))
  | none => return (← escaped? c, p.step)

/-- Reads a quoted scalar after its opening quote, from its characters so far (last first).  In
single quotes a quote is written twice; in double quotes there are escapes, and an escaped line
end stands for nothing. -/
def quotedFrom? (single : Bool) : (fuel : Nat) → Text → Place → Option (Text × Place)
  | 0, _, _ => none
  | fuel + 1, read, p =>
      if p.atDocumentMark then none
      else
        match p.rest with
        | [] => none
        | '\'' :: '\'' :: _ =>
            if single then quotedFrom? single fuel ('\'' :: read) (p.steps 2)
            else quotedFrom? single fuel ('\'' :: read) p.step
        | c :: rest =>
            if c = (if single then '\'' else '"') then some (read.reverse, p.step)
            else if isSpacing c || isLineEnd c then do
              let (gap, p) ← Gap.read? 0 (rest.length + 2) {} p
              quotedFrom? single fuel (gap.folded.reverse ++ read) p
            else if !single && c = '\\' then
              match p.step.lineEnd? with
              | some (_, p) => do
                  let (gap, p) ← Gap.read? 0 (rest.length + 2) { broken := true } p
                  quotedFrom? single fuel (gap.folded.reverse ++ read) p
              | none => do
                  let (x, p) ← escape? p.step
                  quotedFrom? single fuel (x :: read) p
            else quotedFrom? single fuel (c :: read) p.step

def quoted? (single : Bool) (p : Place) : Option (Text × Place) :=
  quotedFrom? single (p.rest.length + 1) [] p.step

/-- What becomes of the line ends after a block of lines. -/
inductive Chomping where
  /-- The last line end stays. -/
  | clip
  /-- None stays. -/
  | strip
  /-- All stay. -/
  | keep
deriving DecidableEq

/-- Reads the header of a block after its indicator: chomping and indentation, in any order, then
the rest of the line. -/
def blockHeader? (p : Place) : Option (Chomping × Option Nat × Place) :=
  let chomping? := fun c : Option Char =>
    if c == some '+' then some Chomping.keep
    else if c == some '-' then some .strip
    else none
  let digit? := fun c : Option Char => c.bind digitValue?
  let (chomping, p) := match chomping? p.next? with
    | some m => (some m, p.step)
    | none => (none, p)
  let (width, p) := match digit? p.next? with
    | some n => (some n, p.step)
    | none => (none, p)
  let (chomping, p) := match chomping, width, chomping? p.next? with
    | none, some _, some m => (some m, p.step)
    | _, _, _ => (chomping, p)
  if width = some 0 then none
  else
    let p := p.skipWhile isSpacing
    let p := if p.next? == some '#' then p.skipWhile (!isLineEnd ·) else p
    match p.lineEnd?, p.rest with
    | some (_, p), _ => some (chomping.getD .clip, width, p)
    | none, [] => some (chomping.getD .clip, width, p)
    | none, _ => none

/-- Reads the indentation of lines of a block and the line ends of empty ones.  The indentation is
`width` columns, if known; else the widest indentation met is given too. -/
def blockIndent? (width : Option Nat) :
    (fuel : Nat) → (widest : Nat) → (ends : Text) → Place → Option (Nat × Text × Place)
  | 0, _, _, _ => none
  | fuel + 1, widest, ends, p =>
      let spaces := (p.rest.takeWhile (· == ' ')).length
      let p := p.steps (match width with
        | some n => min spaces (n - p.column)
        | none => spaces)
      let widest := max widest p.column
      if p.next? == some '\t' && width.all (p.column < ·) then none
      else
        match p.lineEnd? with
        | some (c, p) => blockIndent? width fuel widest (ends ++ [c]) p
        | none => some (widest, ends, p)

/-- What stands between two lines of a block.  In a folded block a single line end between two
lines that do not start with white space is a space. -/
def blockJoint (folds : Bool) (lineEnd ends : Text) : Text :=
  if folds && lineEnd.head? == some '\n' then (if ends.isEmpty then [' '] else ends)
  else lineEnd ++ ends

/-- Reads the lines of a block that are indented by `width` columns.  `lineEnd` ends the last line
that has been read, `ends` are the line ends after it, and `spaced` says whether that line starts
with white space. -/
def blockLines? (literal : Bool) (chomping : Chomping) (width : Nat) :
    (fuel : Nat) → (spaced : Bool) → (read lineEnd ends : Text) → Place → Option (Text × Place)
  | 0, _, _, _, _, _ => none
  | fuel + 1, spaced, read, lineEnd, ends, p =>
      if p.column = width && !p.rest.isEmpty then do
        let spacedNext := p.next?.any isSpacing
        let folds := !literal && !spaced && !spacedNext
        let line := p.rest.takeWhile (!isLineEnd ·)
        let read := read ++ blockJoint folds lineEnd ends ++ line
        let p := p.steps line.length
        let (lineEnd, p) := match p.lineEnd? with
          | some (c, p) => ([c], p)
          | none => ([], p)
        let (_, ends, p) ← blockIndent? (some width) (p.rest.length + 1) 0 [] p
        blockLines? literal chomping width fuel spacedNext read lineEnd ends p
      else
        let kept := if chomping = .strip then [] else lineEnd
        some (read ++ kept ++ (if chomping = .keep then ends else []), p)

/-- Reads a block of lines, literal or folded, inside a part of the file that is indented by
`indent` columns. -/
def block? (literal : Bool) (indent : Int) (p : Place) : Option (Text × Place) := do
  let (chomping, width, p) ← blockHeader? p.step
  let outer := indent.toNat
  let given := width.map (outer + ·)
  let (widest, ends, p) ← blockIndent? given (p.rest.length + 1) 0 [] p
  let width := given.getD (max (max widest (indent + 1).toNat) 1)
  blockLines? literal chomping width (p.rest.length + 1) false [] [] ends p

end BlockOrder.Data.Yaml
