import BlockOrder.Pattern.Regular

/-!
# Sizes of patterns

A regular pattern is refused if an automaton for it would take too much memory.  Counted
repetitions are written out, so large counts, and counts of counts, are what this is about.
-/

namespace BlockOrder

namespace CharSet

/-- About how many ranges a set consists of. -/
def rangeCount : CharSet → Nat
  | nothing => 0
  | range _ _ => 1
  | blanks => 10
  | digits => decimalDigits.length
  | words => alphabetics.length
  | table ranges => ranges.length
  | anyCase s => 2 * s.rangeCount
  | compl s => s.rangeCount + 1
  | union a b | inter a b => a.rangeCount + b.rangeCount

/-- Whether a set is made of ASCII characters, where that shows in its form. -/
def isAsciiOnly : CharSet → Bool
  | nothing => true
  | range _ hi => hi.toNat < 0x80
  | table ranges => ranges.all (·.2 < 0x80)
  | anyCase s => s.isAsciiOnly && !(['k', 'K', 's', 'S'].any s.contains)
  | union a b => a.isAsciiOnly && b.isAsciiOnly
  | inter a b => a.isAsciiOnly || b.isAsciiOnly
  | blanks | digits | words | compl _ => false

/-- About how many bytes an automaton takes for one character of a set. -/
def size (s : CharSet) : Nat :=
  match s with
  | range lo hi => if lo = hi then 32 * lo.utf8Size else if hi.toNat < 0x80 then 72 else 400
  | _ => if s.isAsciiOnly then 64 + 8 * s.rangeCount else 400 + 40 * s.rangeCount

end CharSet

namespace Regular

def size : Regular → Nat
  | empty | check _ => 32
  | one s => s.size
  | seq p q => p.size + q.size
  | alt p q => p.size + q.size + 40
  | unit p => p.size
  | capture _ p => p.size + 64
  | repeated _ least none p => max least 1 * p.size + 72
  | repeated _ least (some most) p => most * p.size + (most - least) * 40

def sizeLimit : Nat := 0xA00000

/-- Whether all counts of repetitions have at most 32 bits. -/
def hasFittingCounts : Regular → Bool
  | empty | one _ | check _ => true
  | seq p q | alt p q => p.hasFittingCounts && q.hasFittingCounts
  | unit p | capture _ p => p.hasFittingCounts
  | repeated _ least most p =>
      least < 0x100000000 && most.all (· < 0x100000000) && p.hasFittingCounts

/-- The normal form, unless the pattern is too large. -/
def normal? (p : Regular) : Option Regular :=
  let n := p.normal
  if p.hasFittingCounts && n.size ≤ sizeLimit then some n else none

end Regular

end BlockOrder
