import BlockOrder.Pattern.Automaton
import BlockOrder.Text.Case
import BlockOrder.Text.Encoding

/-!
# Matching

A matcher is a pattern that has been made ready for matching.  `Matcher.outcomes` lists the
cursors with which a match that starts at a given cursor can end, best first.  A cursor that was
listed once is not listed again, so the lists stay as short as the text even where a pattern can
match in very many ways.
-/

namespace BlockOrder

/-- What has been recorded on the way to a place: where recorded parts were entered and left, and
where the match starts if not where it was begun. -/
structure Records where
  entered : List (Nat × Nat) := []
  left : List (Nat × Nat) := []
  start : Option Nat := none
deriving DecidableEq

namespace Records

def isEmpty (r : Records) : Bool := r.entered.isEmpty && r.left.isEmpty && r.start.isNone

/-- Records that a part is entered at an offset. -/
def enter (r : Records) (index pos : Nat) : Records :=
  { r with entered := (index, pos) :: r.entered.filter (·.1 != index) }

/-- Records that a part is left at an offset. -/
def leave (r : Records) (index pos : Nat) : Records :=
  { r with left := (index, pos) :: r.left.filter (·.1 != index) }

def get? (r : Records) (index : Nat) : Option (Nat × Nat) := do
  return (← r.entered.lookup index, ← r.left.lookup index)

end Records

/-- A place in a text: its offset, the characters before it (nearest first), the characters
after it, and what has been recorded on the way there. -/
structure Cursor where
  pos : Nat
  before : Text
  rest : Text
  records : Records := {}

namespace Cursor

/-- The place `n` characters on, or the end of the text. -/
def forward : Nat → Cursor → Cursor
  | 0, c => c
  | n + 1, c =>
      match c.rest with
      | [] => c
      | x :: rest => forward n ⟨c.pos + 1, x :: c.before, rest, c.records⟩

/-- The place `n` characters back, if there are so many. -/
def back? : Nat → Cursor → Option Cursor
  | 0, c => some c
  | n + 1, c =>
      match c.before with
      | [] => none
      | x :: before => back? n ⟨c.pos - 1, before, x :: c.rest, c.records⟩

/-- The places at and before the given one, nearest first. -/
def backwards : (pos : Nat) → (before rest : Text) → Records → List Cursor
  | pos, [], rest, records => [⟨pos, [], rest, records⟩]
  | pos, x :: before, rest, records =>
      ⟨pos, x :: before, rest, records⟩ :: backwards (pos - 1) before (x :: rest) records

def between (c : Cursor) (start stop : Nat) : Text :=
  ((c.before.reverse ++ c.rest).drop start).take (stop - start)

/-- The place after a given text, if that text comes next. -/
def skip? : Text → Cursor → Option Cursor
  | [], c => some c
  | x :: xs, c =>
      match c.rest with
      | y :: rest => if x = y then skip? xs ⟨c.pos + 1, y :: c.before, rest, c.records⟩ else none
      | [] => none

end Cursor

/-- Whether a text occurs in another up to case. -/
def occursAnyCase (t : Text) (within : Text) : Bool :=
  Text.occurs (t.map simpleFold) (within.map simpleFold)

/-- The part of a text at its start that repeats another text up to case.  Both have encodings of
the same size.  Beyond ASCII it is enough that the text occurs in the part. -/
def repeatAnyCase? (t rest : Text) : Option Text := do
  let part ← takeEncoded? (encodedSize t) rest
  let matched :=
    if part.all (·.toNat < 0x80) then part.map asciiLower == t.map asciiLower
    else occursAnyCase t part
  if part == t || matched then some part else none

/-- The cursors that have been met: offsets as bits where nothing was recorded, and the others. -/
structure Visited where
  bits : Nat := 0
  others : List (Nat × Records) := []

namespace Visited

/-- Whether a cursor has been met under a key, which determines its offset. -/
def has (v : Visited) (key : Nat) (c : Cursor) : Bool :=
  if c.records.isEmpty then v.bits.testBit key else v.others.contains (key, c.records)

def add (v : Visited) (key : Nat) (c : Cursor) : Visited :=
  if c.records.isEmpty then { v with bits := v.bits ||| 1 <<< key }
  else { v with others := (key, c.records) :: v.others }

end Visited

/-- The cursors of a list that have not been met, each at its first occurrence. -/
def distinctFrom (seen : Visited) : List Cursor → List Cursor
  | [] => []
  | c :: rest =>
      if seen.has c.pos c then distinctFrom seen rest
      else c :: distinctFrom (seen.add c.pos c) rest

/-- The cursors of a list, each at its first occurrence. -/
def distinct : List Cursor → List Cursor
  | [] => []
  | [c] => [c]
  | cs => distinctFrom {} cs

/-- What a repetition has found so far: the cursors with which rounds were begun and, last first,
the cursors with which it may end. -/
structure Trail where
  begun : Visited
  found : List Cursor

namespace Trail

/-- Adds a cursor with which the repetition may end. -/
def emit (t : Trail) (c : Cursor) : Trail := { t with found := c :: t.found }

end Trail

/-- Repeats `step` from a cursor in all ways, depth first.  A round that takes nothing fails;
every other round moves forward, so `fuel` is enough once it exceeds the number of characters that
follow. -/
def explore (greedy : Bool) (step : Cursor → List Cursor) : (fuel : Nat) → Cursor → Trail → Trail
  | 0, c, t => t.emit c
  | fuel + 1, c, t =>
      if t.begun.has c.pos c then t
      else
        let opened : Trail := { t with begun := t.begun.add c.pos c }
        let early := if greedy then opened else opened.emit c
        let explored := (step c).foldl
          (fun t next => if next.pos = c.pos then t else explore greedy step fuel next t) early
        if greedy then explored.emit c else explored

/-- Repeats `step` up to `n` times from a cursor in all ways, depth first.  Rounds are told apart
by their number and offset, where `size` exceeds every offset. -/
def exploreUpTo (greedy : Bool) (size : Nat) (step : Cursor → List Cursor) :
    (n : Nat) → Cursor → Trail → Trail
  | 0, c, t => t.emit c
  | n + 1, c, t =>
      let key := n * size + c.pos
      if t.begun.has key c then t
      else
        let opened : Trail := { t with begun := t.begun.add key c }
        let early := if greedy then opened else opened.emit c
        let explored := (step c).foldl (fun t next => exploreUpTo greedy size step n next t) early
        if greedy then explored.emit c else explored

def stepTimes (step : Cursor → List Cursor) : (n : Nat) → List Cursor → List Cursor
  | 0, cs => cs
  | _ + 1, [] => []
  | n + 1, cs => stepTimes step n (distinct (cs.flatMap step))

/-- The cursors that are reached by passing over characters of a set one by one, nearest first. -/
def runOf (s : CharSet) (records : Records) : (pos : Nat) → (before rest : Text) → List Cursor
  | pos, before, [] => [⟨pos, before, [], records⟩]
  | pos, before, x :: rest =>
      ⟨pos, before, x :: rest, records⟩ ::
        (if s.contains x then runOf s records (pos + 1) (x :: before) rest else [])

/-- A pattern that is ready for matching. -/
inductive Matcher where
  /-- Matches the empty text. -/
  | empty
  /-- Matches one character of a set. -/
  | one (s : CharSet)
  /-- Matches the empty text where a condition holds. -/
  | check (a : Assertion)
  /-- Matches `p` and then `q`. -/
  | seq (p q : Matcher)
  /-- Matches `p`, or else `q`. -/
  | alt (p q : Matcher)
  /-- Matches `p` a number of times. -/
  | times (n : Nat) (p : Matcher)
  /-- Matches `p` up to a number of times, as often as possible if `greedy`, else as seldom. -/
  | upTo (greedy : Bool) (n : Nat) (p : Matcher)
  /-- Matches `p` any number of times, never the empty text. -/
  | star (greedy : Bool) (p : Matcher)
  /-- Matches `p` and records where. -/
  | record (index : Nat) (p : Matcher)
  /-- Matches again what was recorded. -/
  | again (index : Nat) (anyCase : Bool)
  /-- Matches the empty text if something was recorded. -/
  | recorded (index : Nat)
  /-- Matches the empty text where `p` matches (or not) what follows. -/
  | ahead (positive : Bool) (p : Matcher)
  /-- Matches the empty text where `p` matches (or not) the given number of characters before, or
  any number of them. -/
  | behind (positive : Bool) (width : Option Nat) (p : Matcher)
  /-- Matches `p` in its first way only. -/
  | atomic (p : Matcher)
  /-- Matches as an automaton does, in its first way only. -/
  | automaton (a : Automaton)
  /-- Matches the empty text and lets the whole match start here. -/
  | restart
  /-- Matches the empty text where the search began. -/
  | resume
  /-- Matches `c` in its first way and then `p`, or else `q`. -/
  | choose (c p q : Matcher)

namespace Matcher

/-- The cursors with which a match from the given cursor can end, best first.  `origin` is the
offset where the search began, if that counts. -/
def outcomes (origin : Option Nat) : Matcher → Cursor → List Cursor
  | empty, c => [c]
  | one s, c =>
      match c.rest with
      | [] => []
      | x :: rest => if s.contains x then [⟨c.pos + 1, x :: c.before, rest, c.records⟩] else []
  | check a, c => if a.holds c.before c.rest then [c] else []
  | seq p q, c =>
      match p.outcomes origin c with
      | [] => []
      | [m] => q.outcomes origin m
      | ms => distinct (ms.flatMap (q.outcomes origin))
  | alt p q, c => distinct (p.outcomes origin c ++ q.outcomes origin c)
  | times n p, c => stepTimes (p.outcomes origin) n [c]
  | upTo greedy n p, c =>
      let size := c.pos + c.rest.length + 1
      distinct (exploreUpTo greedy size (p.outcomes origin) n c ⟨{}, []⟩).found.reverse
  | star greedy p, c =>
      match p with
      | one s =>
          let run := runOf s c.records c.pos c.before c.rest
          if greedy then run.reverse else run
      | _ =>
          let fuel := c.rest.length + 1
          distinct (explore greedy (p.outcomes origin) fuel c ⟨{}, []⟩).found.reverse
  | record i p, c =>
      (p.outcomes origin { c with records := c.records.enter i c.pos }).map fun e =>
        { e with records := e.records.leave i e.pos }
  | again i anyCase, c =>
      match c.records.get? i with
      | none => []
      | some (start, stop) =>
          let t := c.between start stop
          let repeated := if anyCase then (repeatAnyCase? t c.rest).getD t else t
          (Cursor.skip? repeated c).toList
  | recorded i, c => if (c.records.get? i).isSome then [c] else []
  | ahead positive p, c =>
      match p.outcomes origin c with
      | [] => if positive then [] else [c]
      | e :: _ => if positive then [{ c with records := e.records }] else []
  | behind positive width p, c =>
      let starts :=
        match width with
        | some n => (Cursor.back? n c).toList
        | none => Cursor.backwards c.pos c.before c.rest c.records
      match starts.flatMap fun s => (p.outcomes origin s).filter (·.pos == c.pos) with
      | [] => if positive then [] else [c]
      | e :: _ => if positive then [{ c with records := e.records }] else []
  | atomic p, c => (p.outcomes origin c).take 1
  | automaton a, c =>
      match a.stop? c.pos c.before c.rest with
      | none => []
      | some stop => [c.forward (stop - c.pos)]
  | restart, c => [{ c with records := { c.records with start := some c.pos } }]
  | resume, c => if origin == some c.pos then [c] else []
  | choose t p q, c =>
      match t.outcomes origin c with
      | [] => q.outcomes origin c
      | e :: _ => p.outcomes origin e

end Matcher

end BlockOrder
