import BlockOrder.Order.KeyOrder

/-!
# Sort options

What a call of sorting decides: the order of keys, how many levels of inner blocks are sorted and
how many outer ones are left alone, how far the selection grows, and the seed of a random order.
-/

namespace BlockOrder

/-- How many levels of inner blocks are sorted. -/
inductive Depth where
  | limited (levels : Nat)
  | unbounded
deriving DecidableEq

namespace Depth

/-- The depth that a number stands for: every negative number is unbounded. -/
def ofInt (n : Int) : Depth := if n < 0 then unbounded else limited n.toNat

def isZero (d : Depth) : Bool := d == limited 0

def pred : Depth → Depth
  | limited n => limited (n - 1)
  | unbounded => unbounded

def default : Depth := limited 0

end Depth

/-- How blocks are sorted. -/
structure SortOptions where
  order : KeyOrder
  depth : Depth := .default
  /-- The number of outer levels that stay as they are. -/
  skipParents : Nat := 0
  /-- How far a selection grows before it is sorted. -/
  expansion : Expansion := .full
  /-- The seed for sorting at random. -/
  seed : Option UInt64 := none

end BlockOrder
