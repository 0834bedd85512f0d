import BlockOrder.Pattern.Matcher
import BlockOrder.Pattern.Size

/-!
# From patterns to matchers

What is regular in a pattern and need not be entered again for another way to match is matched
in its first way only.  A condition on what comes before needs a fixed width, unless it is
regular.  A regular part may not be too large.
-/

namespace BlockOrder

namespace Regular

/-- The matcher that tries all ways, in order. -/
def matcher : Regular → Matcher
  | empty => .empty
  | one s => .one s
  | check a => .check a
  | seq p q => .seq p.matcher q.matcher
  | alt p q => .alt p.matcher q.matcher
  | unit p | capture _ p => p.matcher
  | repeated greedy least most p =>
      let more :=
        match most with
        | none => Matcher.star greedy p.matcher
        | some m => .upTo greedy (m - least) p.matcher
      if least = 0 then more
      else if most = some least then .times least p.matcher
      else .seq (.times least p.matcher) more

def firstMatcher? (p : Regular) : Option Matcher :=
  p.normal?.map fun p =>
    if p.hasEmptyRounds then .automaton (.ofRegular p) else .atomic p.matcher

/-- The matcher for the first way in which `q` follows. -/
def followedMatcher? (p q : Regular) : Option Matcher := do
  let p ← p.normal?
  let q ← q.normal?
  if p.hasEmptyRounds || q.hasEmptyRounds then return .automaton (.followed p q)
  else return .atomic (.seq p.matcher (.ahead true q.matcher))

end Regular

namespace Pattern

/-- The matcher of a pattern.  All ways to match are kept in order if `full`; else a regular
pattern is matched in its first way only.  The lists hold the records that are referred to and
the widths of recorded parts. -/
def plan (kept : List Nat) (widths : List (Nat × Nat)) : (full : Bool) → Pattern → Option Matcher
  | full, pattern =>
    match full, pattern.regular? kept with
    | false, some r => r.firstMatcher?
    | _, _ =>
      match pattern with
      | empty => some .empty
      | one s => some (.one s)
      | check a => some (.check a)
      | seq p q => do return .seq (← p.plan kept widths true) (← q.plan kept widths full)
      | alt p q => do return .alt (← p.plan kept widths full) (← q.plan kept widths full)
      | unit p => p.plan kept widths full
      | repeated greedy 0 (some 1) p => do return .upTo greedy 1 (← p.plan kept widths full)
      | repeated greedy least most p => do
          let inner ← p.plan kept widths true
          let more :=
            match most with
            | none => Matcher.star greedy inner
            | some m => .upTo greedy (m - least) inner
          return if least = 0 then more else .seq (.times least inner) more
      | capture i p => do
          let inner ← p.plan kept widths full
          return if kept.contains i then .record i inner else inner
      | again i anyCase => some (.again i anyCase)
      | recorded i => some (.recorded i)
      | ahead positive p => do return .ahead positive (← p.plan kept widths false)
      | behind positive p =>
          match p.width? widths, p.regular? kept with
          | some n, _ => do return .behind positive (some n) (← p.plan kept widths false)
          | none, some r => some (.behind positive none r.matcher)
          | none, none => none
      | atomic p => do return .atomic (← p.plan kept widths false)
      | restart => some .restart
      | resume => some .resume
      | choose c p q => do
          return .choose (← c.plan kept widths full) (← p.plan kept widths full)
            (← q.plan kept widths full)

/-- The two parts of a sequence that ends in a condition on what follows, if both are regular. -/
def followed? (kept : List Nat) : Pattern → Option (Regular × Regular)
  | seq p (ahead true q) => do return (← p.regular? kept, ← q.regular? kept)
  | seq p q => do
      let (middle, last) ← q.followed? kept
      return (.seq (← p.regular? kept) middle, last)
  | _ => none

def matcher? (p : Pattern) : Option Matcher :=
  let kept := p.references
  let widths := p.recordWidths []
  match p.followed? kept with
  | some (first, last) => first.followedMatcher? last
  | none => (p.splitBehind widths).plan kept widths false

end Pattern

end BlockOrder
