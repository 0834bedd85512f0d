/-!
# Runs of code points

Properties of characters are tabulated as runs: the code points from a first to a last one in
steps of one or two.  A mapping of characters is a list of runs, each with the distance from a
member to its image.
-/

namespace BlockOrder

/-- The code points `first`, `first + step`, … up to `last`. -/
structure Run where
  first : Nat
  last : Nat
  step : Nat

namespace Run

/-- Membership of a code point in a run. -/
def contains (r : Run) (n : Nat) : Bool :=
  r.first ≤ n && n ≤ r.last && (n - r.first) % r.step == 0

end Run

/-- A run whose members are all mapped over the same distance. -/
structure ShiftedRun where
  run : Run
  shift : Int

namespace ShiftedRun

/-- The image of a member of the run. -/
def image (r : ShiftedRun) (n : Nat) : Nat := (n + r.shift).toNat

/-- The member of the run with the given image, if there is one. -/
def source? (r : ShiftedRun) (n : Nat) : Option Nat :=
  let m := (n - r.shift).toNat
  if r.run.contains m && r.image m == n then some m else none

end ShiftedRun

/-- The image of a code point under a table of shifted runs; other code points stay. -/
def shiftBy (table : List ShiftedRun) (n : Nat) : Nat :=
  match table.find? (·.run.contains n) with
  | some r => r.image n
  | none => n

/-- Membership of a code point in a table of closed ranges in ascending order. -/
def inRanges : List (Nat × Nat) → Nat → Bool
  | [], _ => false
  | (lo, hi) :: rest, n => if n < lo then false else n ≤ hi || inRanges rest n

end BlockOrder
