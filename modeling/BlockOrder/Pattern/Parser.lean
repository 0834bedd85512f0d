import BlockOrder.Pattern.Basic
import BlockOrder.Pattern.Bracket
import BlockOrder.Text.Encoding

/-!
# Reading patterns

The pattern that a text describes.  Groups that are open stand on a stack; a group collects
alternatives, and an alternative collects the pieces that follow each other.  Unbalanced
parentheses, a repetition of nothing and a reference to a group that does not exist make a text
no pattern.
-/

namespace BlockOrder.Pattern

/-- The flags in force at some point of a written pattern. -/
structure Flags where
  ignoreCase : Bool := false
  multiLine : Bool := false
  dotAll : Bool := false
  swapGreed : Bool := false
  verbose : Bool := false

namespace Flags

/-- Sets one flag by its letter.  Unicode is always on. -/
def set? (value : Bool) (f : Flags) : Char → Option Flags
  | 'i' => some { f with ignoreCase := value }
  | 'm' => some { f with multiLine := value }
  | 's' => some { f with dotAll := value }
  | 'U' => some { f with swapGreed := value }
  | 'x' => some { f with verbose := value }
  | 'u' => if value then some f else none
  | _ => none

end Flags

/-- What is being passed over in a written pattern. -/
inductive Ignored where
  | nothing
  | lineComment
  | groupComment

/-- The text without the comments that open it and, if `verbose`, without white space. -/
def skipIgnored? (verbose : Bool) : Ignored → Text → Option Text
  | .groupComment, [] => none
  | _, [] => some []
  | .lineComment, c :: rest =>
      skipIgnored? verbose (if c = '\n' then .nothing else .lineComment) rest
  | .groupComment, '\\' :: _ :: rest => skipIgnored? verbose .groupComment rest
  | .groupComment, c :: rest =>
      skipIgnored? verbose (if c = ')' then .nothing else .groupComment) rest
  | .nothing, '(' :: '?' :: '#' :: rest => skipIgnored? verbose .groupComment rest
  | .nothing, c :: rest =>
      if verbose && (c == ' ' || c == '\t' || c == '\r' || c == '\n') then
        skipIgnored? verbose .nothing rest
      else if verbose && c == '#' then skipIgnored? verbose .lineComment rest
      else some (c :: rest)

/-- What an opening parenthesis opens. -/
inductive Opening where
  /-- A group with a number. -/
  | numbered (index : Nat)
  /-- A group that only groups.  The flags around it are in force again after it. -/
  | plain (outer : Flags)
  /-- A condition on what follows. -/
  | ahead (positive : Bool)
  /-- A condition on what comes before. -/
  | behind (positive : Bool)
  /-- A group that is matched in its first way only. -/
  | atomic
  /-- A test that decides between two patterns. -/
  | test
  /-- The two patterns that a test decides between. -/
  | branches (condition : Pattern)

/-- What came immediately before in the current alternative. -/
inductive Joint where
  /-- Nothing that a repetition mark could belong to. -/
  | start
  /-- Something that cannot be repeated. -/
  | fixed
  /-- A piece that can be repeated. -/
  | piece

/-- A group that is still open: the alternatives that are finished and the pieces of the current
one, last first. -/
structure OpenGroup where
  opening : Opening
  alternatives : List Pattern := []
  pieces : List Pattern := []
  joint : Joint := .start

namespace OpenGroup

def add (g : OpenGroup) (p : Pattern) : OpenGroup :=
  { g with
    pieces := if p = .empty then g.pieces else p :: g.pieces
    joint := if p.isRepeatable then .piece else .fixed }

def current (g : OpenGroup) : Pattern := sequence g.pieces.reverse

def nextAlternative (g : OpenGroup) : OpenGroup :=
  { g with alternatives := g.current :: g.alternatives, pieces := [], joint := .start }

def all (g : OpenGroup) : List Pattern := (g.current :: g.alternatives).reverse

def inside (g : OpenGroup) : Pattern := oneOf g.all

/-- The pattern that a test and its two branches make; without branches the test has to be about
a record. -/
def conditional? (condition : Pattern) (g : OpenGroup) : Option Pattern :=
  match g.all with
  | [empty] =>
      match condition with
      | recorded i => some (recorded i)
      | _ => none
  | [empty, empty] => some condition
  | [p] => some (choose condition p empty)
  | p :: rest => some (choose condition p (oneOf rest))
  | [] => none

end OpenGroup

/-- What has been read so far: the flags in force, the innermost open group, the groups around
it, the number of numbered groups, the names of some of them, and whether a group has been
referred to by its bare number.  Such numbers lie below `limit`. -/
structure Reading where
  limit : Nat
  flags : Flags := {}
  group : OpenGroup := { opening := .plain {} }
  stack : List OpenGroup := []
  count : Nat := 0
  names : List (Text × Nat) := []
  numeric : Bool := false

namespace Reading

def add (r : Reading) (p : Pattern) : Reading := { r with group := r.group.add p }

/-- Adds one character of a set, up to case if that is asked for. -/
def addSet (r : Reading) (s : CharSet) : Reading :=
  r.add (one (if r.flags.ignoreCase then s.ignoringCase else s))

/-- The text without what is passed over at the current place. -/
def skip? (r : Reading) (t : Text) : Option Text := skipIgnored? r.flags.verbose .nothing t

/-- Opens a group, unless too many are open. -/
def openGroup? (r : Reading) (o : Opening) : Option Reading :=
  if 62 < r.stack.length then none
  else some { r with group := { opening := o }, stack := r.group :: r.stack }

def openNumbered? (r : Reading) (names : List (Text × Nat)) : Option Reading :=
  { r with count := r.count + 1, names }.openGroup? (.numbered (r.count + 1))

def openNamed? (r : Reading) (stop : Char) (t : Text) : Option (Reading × Text) := do
  let (name, rest) ← Escape.groupName? stop t
  return (← r.openNumbered? ((name, r.count + 1) :: r.names), rest)

/-- The number of the group that a reference is about. -/
def resolve? (r : Reading) : Reference → Option Nat
  | .number n => some n
  | .name t => (r.names.lookup t).or (decimal? t)
  | .back n => if n ≤ r.count then some (r.count + 1 - n) else none
  | .on n => some (r.count + n)

def addAgain? (r : Reading) (ref : Reference) : Option Reading := do
  let i ← r.resolve? ref
  let numeric := match ref with
    | .number _ => true
    | _ => r.numeric
  return { r with numeric }.add (again i r.flags.ignoreCase)

/-- Reads the flags of a group, which may be switched on or off.  A colon opens the group, a
closing parenthesis leaves the flags in force.  The place counts what has been read. -/
def flagsFrom? (outer : Flags) (off : Bool) (place : Nat) (r : Reading) :
    (fuel : Nat) → Text → Option (Reading × Text)
  | 0, _ => none
  | fuel + 1, t => do
      match ← r.skip? t with
      | [] => none
      | ':' :: rest =>
          if off && place = 1 then none else return (← r.openGroup? (.plain outer), rest)
      | ')' :: rest =>
          if place = 0 || (off && place = 1) then none else return (r.add empty, rest)
      | '-' :: rest => if off then none else flagsFrom? outer true (place + 1) r fuel rest
      | c :: rest =>
          let flags ← r.flags.set? (!off) c
          flagsFrom? outer off (place + 1) { r with flags } fuel rest

/-- Opens a test or, if that is about a record, what it decides between. -/
def openTest? (r : Reading) (t : Text) : Option (Reading × Text) :=
  let about := fun (ref, rest) => do
    let i ← r.resolve? ref
    return (← r.openGroup? (.branches (recorded i)), rest)
  match t with
  | '<' :: rest => do
      match ← Escape.reference? '>' rest with
      | (ref, ')' :: more) => about (ref, more)
      | _ => none
  | '\'' :: rest => do
      match ← Escape.reference? '\'' rest with
      | (ref, ')' :: more) => about (ref, more)
      | _ => none
  | c :: _ =>
      if isAsciiDigit c || c == '+' || c == '-' then do about (← Escape.reference? ')' t)
      else do return (← r.openGroup? .test, t)
  | [] => none

def opening? (r : Reading) (t : Text) : Option (Reading × Text) := do
  match ← r.skip? t with
  | '?' :: '=' :: rest => return (← r.openGroup? (.ahead true), rest)
  | '?' :: '!' :: rest => return (← r.openGroup? (.ahead false), rest)
  | '?' :: '<' :: '=' :: rest => return (← r.openGroup? (.behind true), rest)
  | '?' :: '<' :: '!' :: rest => return (← r.openGroup? (.behind false), rest)
  | '?' :: '<' :: rest => r.openNamed? '>' rest
  | '?' :: '\'' :: rest => r.openNamed? '\'' rest
  | '?' :: 'P' :: '<' :: rest => r.openNamed? '>' rest
  | '?' :: 'P' :: '=' :: rest => do
      let (name, more) ← Escape.groupName? ')' rest
      return (← r.addAgain? (.name name), more)
  | '?' :: '>' :: rest => return (← r.openGroup? .atomic, rest)
  | '?' :: '(' :: rest => r.openTest? rest
  | '?' :: rest => flagsFrom? r.flags false 0 r (rest.length + 1) rest
  | rest => return (← r.openNumbered? r.names, rest)

/-- Closes the innermost group; `none` if no group is open. -/
def close? (r : Reading) : Option Reading :=
  match r.stack with
  | [] => none
  | outer :: stack =>
      let p := r.group.inside
      let closed := { r with group := outer, stack }
      match r.group.opening with
      | .numbered i => some (closed.add (capture i p))
      | .plain flags => some ({ closed with flags }.add p)
      | .ahead positive => some (closed.add (ahead positive p))
      | .behind positive => some (closed.add (behind positive p))
      | .atomic => some (closed.add (atomic p))
      | .test => some { r with group := { opening := .branches p } }
      | .branches condition => (r.group.conditional? condition).map closed.add

/-- The value of a written bound, which may be missing; `none` if it has more than 64 bits. -/
def bound? (digits : Text) : Option (Option Nat) :=
  match decimal? digits with
  | none => some none
  | some n => if n < 0x10000000000000000 then some (some n) else none

/-- Reads the bounds of a counted repetition, after its opening brace. -/
def bounds? (r : Reading) (t : Text) : Option ((Nat × Option Nat) × Text) := do
  let t ← r.skip? t
  let least ← bound? (t.takeWhile isAsciiDigit)
  match ← r.skip? (t.dropWhile isAsciiDigit) with
  | '\x7d' :: rest => do
      let n ← least
      return ((n, some n), rest)
  | ',' :: t => do
      let t ← r.skip? t
      let most ← bound? (t.takeWhile isAsciiDigit)
      match ← r.skip? (t.dropWhile isAsciiDigit) with
      | '\x7d' :: rest => return ((least.getD 0, most), rest)
      | _ => none
  | _ => none

/-- Repeats the last piece, and reads the marks after the repetition: one for few rounds and one
for the first way only.  There has to be a piece that can be repeated. -/
def repeatLast? (r : Reading) (least : Nat) (most : Option Nat) (t : Text) :
    Option (Reading × Text) := do
  let t ← r.skip? t
  let (lazy, t) := match t with
    | '?' :: rest => (true, rest)
    | _ => (false, t)
  let (possessive, t) := match t with
    | '+' :: rest => (true, rest)
    | _ => (false, t)
  match r.group.joint, r.group.pieces with
  | .piece, p :: pieces =>
      if most.any (· < least) then none
      else
        let p := repeated (lazy == r.flags.swapGreed) least most p
        let pieces := (if possessive then atomic p else p) :: pieces
        return ({ r with group := { r.group with pieces, joint := .start } }, t)
  | _, _ => none

def addEscape? (r : Reading) : Escape → Option Reading
  | .char c => some (r.addSet (.single c))
  | .set s => some (r.addSet s)
  | .condition a => some (r.add (check a))
  | .again ref => r.addAgain? ref
  | .lastNewlines =>
      let newlines := repeated true 0 none (one (.single '\n'))
      some (r.add (ahead true (seq newlines (check .textEnd))))
  | .restart => some (r.add restart)
  | .resume => some (r.add resume)

/-- Reads an opening brace: a repetition if bounds follow something, else the character. -/
def brace? (r : Reading) (t : Text) : Option (Reading × Text) :=
  match r.group.joint, r.bounds? t with
  | .start, _ | _, none => some (r.addSet (.single '\x7b'), t)
  | _, some ((least, most), rest) => r.repeatLast? least most rest

/-- Reads the next item of a text that starts with one. -/
def step? (r : Reading) : Text → Option (Reading × Text)
  | [] => some (r, [])
  | '\\' :: rest => do
      let (e, more) ← Escape.read? r.limit rest
      return (← r.addEscape? e, more)
  | '.' :: rest => some (r.add (one (if r.flags.dotAll then .everything else .exceptNewline)), rest)
  | '^' :: rest => some (r.add (check (if r.flags.multiLine then .lineStart else .textStart)), rest)
  | '$' :: rest => some (r.add (check (if r.flags.multiLine then .lineEnd else .textEnd)), rest)
  | '|' :: rest => some ({ r with group := r.group.nextAlternative }, rest)
  | '(' :: rest => r.opening? rest
  | ')' :: rest => do return (← r.close?, rest)
  | '[' :: rest => do
      let (s, more) ← bracketed? rest
      return (r.addSet s, more)
  | '*' :: rest => r.repeatLast? 0 none rest
  | '+' :: rest => r.repeatLast? 1 none rest
  | '?' :: rest => r.repeatLast? 0 (some 1) rest
  | '\x7b' :: rest => r.brace? rest
  | c :: rest => some (r.addSet (.single c), rest)

/-- Reads a text to its end.  Every item takes at least one character, so the length of the text
is fuel enough. -/
def readAll? : (fuel : Nat) → Reading → Text → Option Reading
  | 0, _, _ => none
  | fuel + 1, r, t => do
      match ← r.skip? t with
      | [] => some r
      | item =>
          let (r, rest) ← r.step? item
          readAll? fuel r rest

/-- The pattern that has been read, if no group is left open and all references are to groups.
Bare numbers do not go together with names. -/
def finish? (r : Reading) : Option Pattern :=
  match r.stack with
  | [] =>
      let p := r.group.inside
      let known := p.references.all fun i => 1 ≤ i && i ≤ r.count
      if known && !(r.numeric && !r.names.isEmpty) then some p else none
  | _ :: _ => none

end Reading

def parse? (source : Text) : Option Pattern := do
  let r : Reading := { limit := encodedSize source / 2 }
  (← r.readAll? (source.length + 1) source).finish?

/-- The characters that have a meaning in written patterns. -/
def isSpecialChar (c : Char) : Bool :=
  "\\.+*?()|[]\x7b\x7d^$#&-~".toList.contains c

/-- The written pattern for a given text: special characters are escaped. -/
def quote (t : Text) : Text := t.flatMap fun c => if isSpecialChar c then ['\\', c] else [c]

end BlockOrder.Pattern
