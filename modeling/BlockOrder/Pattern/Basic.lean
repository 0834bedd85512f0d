import BlockOrder.Pattern.Assertion
import BlockOrder.Pattern.CharSet

/-!
# Patterns

The regular patterns with look-around, captures and back references that the marker tables are
written in.  Alternatives and repetitions are ordered: the first way to match that a pattern
lists is the one that counts.
-/

namespace BlockOrder

/-- A pattern. -/
inductive Pattern where
  /-- Matches the empty text. -/
  | empty
  /-- Matches one character of a set. -/
  | one (s : CharSet)
  /-- Matches the empty text where a condition holds. -/
  | check (a : Assertion)
  /-- Matches `p` and then `q`. -/
  | seq (p q : Pattern)
  /-- Matches `p`, or else `q`. -/
  | alt (p q : Pattern)
  /-- Matches `p`, which stands in parentheses. -/
  | unit (p : Pattern)
  /-- Matches `p` at least `least` times and at most `most` times if that is given, as often as
  possible if `greedy`, else as seldom. -/
  | repeated (greedy : Bool) (least : Nat) (most : Option Nat) (p : Pattern)
  /-- Matches `p` and records what it matched under a number. -/
  | capture (index : Nat) (p : Pattern)
  /-- Matches again what was recorded under a number. -/
  | again (index : Nat) (anyCase : Bool)
  /-- Matches the empty text if something was recorded under a number. -/
  | recorded (index : Nat)
  /-- Matches the empty text where `p` matches (or not, as `positive` says) what follows. -/
  | ahead (positive : Bool) (p : Pattern)
  /-- Matches the empty text where `p` matches (or not) what comes immediately before. -/
  | behind (positive : Bool) (p : Pattern)
  /-- Matches `p` in its first way only. -/
  | atomic (p : Pattern)
  /-- Matches the empty text and lets the whole match start here. -/
  | restart
  /-- Matches the empty text where the search began. -/
  | resume
  /-- Matches `c` in its first way and then `p`, or else `q`. -/
  | choose (c p q : Pattern)
deriving DecidableEq

namespace Pattern

/-- The alternatives of a pattern; one in parentheses counts as a single one. -/
def alternatives : Pattern → List Pattern
  | alt p q => p :: q.alternatives
  | p => [p]

/-- A pattern for the last place of a sequence or of alternatives: in parentheses if it is
one of these itself. -/
def last : Pattern → Pattern
  | seq p q => unit (seq p q)
  | alt p q => unit (alt p q)
  | p => p

def sequence : List Pattern → Pattern
  | [] => empty
  | [p] => p
  | [p, q] => seq p q.last
  | p :: rest => seq p (sequence rest)

/-- Matches one of several patterns, the first of them by preference. -/
def oneOf : List Pattern → Pattern
  | [] => empty
  | [p] => p
  | [p, q] => alt p q.last
  | p :: rest => alt p (oneOf rest)

/-- Whether a repetition mark may follow the pattern. -/
def isRepeatable : Pattern → Bool
  | empty | ahead _ _ | behind _ _ => false
  | _ => true

/-- The numbers of the records that the pattern refers to. -/
def references : Pattern → List Nat
  | again i _ | recorded i => [i]
  | seq p q | alt p q => p.references ++ q.references
  | unit p | repeated _ _ _ p | capture _ p | ahead _ p | behind _ p | atomic p => p.references
  | choose c p q => c.references ++ p.references ++ q.references
  | empty | one _ | check _ | restart | resume => []

/-- The number of characters in every match, if the shape of the pattern fixes it, where
`widths` holds the numbers for recorded parts. -/
def width? (widths : List (Nat × Nat)) : Pattern → Option Nat
  | one _ => some 1
  | seq p q => do return (← p.width? widths) + (← q.width? widths)
  | alt p q => do
      let m ← p.width? widths
      let n ← q.width? widths
      if m = n then some m else none
  | unit p | capture _ p | atomic p => p.width? widths
  | repeated _ least most p => do
      let n ← p.width? widths
      if most = some least then some (least * n) else none
  | again i _ => widths.lookup i
  | choose c p q => do
      let l ← c.width? widths
      let m ← p.width? widths
      let n ← q.width? widths
      if m = n then some (l + m) else none
  | empty | check _ | recorded _ | ahead _ _ | behind _ _ | restart | resume => some 0

/-- The numbers of characters in what is recorded, as far as they are fixed, after those that
are known already. -/
def recordWidths (known : List (Nat × Nat)) : Pattern → List (Nat × Nat)
  | capture i p =>
      let inner := p.recordWidths known
      match p.width? inner with
      | some n => (i, n) :: inner
      | none => inner
  | seq p q | alt p q => q.recordWidths (p.recordWidths known)
  | unit p | repeated _ _ _ p | ahead _ p | behind _ p | atomic p => p.recordWidths known
  | choose c p q => q.recordWidths (p.recordWidths (c.recordWidths known))
  | empty | one _ | check _ | again _ _ | recorded _ | restart | resume => known

/-- The conditions that one of several patterns, or none of them, comes immediately before. -/
def behindEach (positive : Bool) (patterns : List Pattern) : Pattern :=
  if positive then oneOf (patterns.map (behind true))
  else sequence (patterns.map (behind false))

/-- The pattern with conditions on what comes before split into their alternatives, where those
differ in width. -/
def splitBehind (widths : List (Nat × Nat)) : Pattern → Pattern
  | behind positive p =>
      let inner := p.splitBehind widths
      match inner.width? widths with
      | some _ => behind positive inner
      | none => behindEach positive inner.alternatives
  | seq p q => seq (p.splitBehind widths) (q.splitBehind widths)
  | alt p q => alt (p.splitBehind widths) (q.splitBehind widths)
  | unit p => unit (p.splitBehind widths)
  | repeated greedy least most p => repeated greedy least most (p.splitBehind widths)
  | capture i p => capture i (p.splitBehind widths)
  | ahead positive p => ahead positive (p.splitBehind widths)
  | atomic p => atomic (p.splitBehind widths)
  | choose c p q => choose (c.splitBehind widths) (p.splitBehind widths) (q.splitBehind widths)
  | p => p

end Pattern

end BlockOrder
