/-!
# Sorting by runs

The sort that puts texts in order.  Short lists are sorted by insertion.  Longer ones are cut into
runs: stretches that are in order already, and between them stretches of a fixed length.  Runs are
merged in pairs, and stretches that are not in order are partitioned first.

Elements that compare equal keep their order, if the comparison makes sense.  If it contradicts
itself, elements come out in some order, or the sort notices that the two ends of a merge do not
meet and gives up.
-/

namespace BlockOrder

/-- The sign that a comparison was found to contradict itself. -/
structure Inconsistent where
deriving DecidableEq

namespace Inconsistent

def message (_ : Inconsistent) : String :=
  "user-provided comparison function does not correctly implement a total order"

end Inconsistent

namespace RunSort

variable {α : Type} (less : α → α → Bool)

/-! ## Short lists -/

/-- Puts an element behind the last one that it is not less than.  The list is given from its
end. -/
def insertBack (x : α) : List α → List α
  | [] => [x]
  | y :: ys => if less x y then y :: insertBack x ys else x :: y :: ys

/-- A list in order into which more elements have been put, one after the other. -/
def insertAll (sorted more : List α) : List α :=
  (more.foldl (fun l x => insertBack less x l) sorted.reverse).reverse

def sortTwo (a b : α) : α × α := if less b a then (b, a) else (a, b)

/-- Four elements in order: two pairs, of which the ends are compared, and what is left in the
middle. -/
def sortFour (a b c d : α) : List α :=
  let (a, b) := sortTwo less a b
  let (c, d) := sortTwo less c d
  let (first, last, middle) :=
    match less c a, less d b with
    | false, false => (a, d, sortTwo less b c)
    | false, true => (a, b, sortTwo less c d)
    | true, false => (c, d, sortTwo less a b)
    | true, true => (c, b, sortTwo less a d)
  [first, middle.1, middle.2, last]

/-- One half of a short list in order.  In a `long` list four elements are sorted before the others
are put between them. -/
def sortHalf (long : Bool) (half : List α) : List α :=
  match long, half with
  | true, a :: b :: c :: d :: rest => insertAll less (sortFour less a b c d) rest
  | _, half => insertAll less [] half

/-- The first steps of a merge: what they take, and what they leave of both lists.  A step takes
the first element of the right list if this is less than the first one of the left list. -/
def mergeFront : (steps : Nat) → (left right : List α) → List α × List α × List α
  | n + 1, x :: l, y :: r =>
      if less y x then
        let (taken, rest) := mergeFront n (x :: l) r
        (y :: taken, rest)
      else
        let (taken, rest) := mergeFront n l (y :: r)
        (x :: taken, rest)
  | _, l, r => ([], l, r)

/-- Two lists in order as one, merged from the front and from the back until both merges meet.
The right list is as long as the left one or one longer; in that case one element is left between
the merges. -/
def mergeBothEnds (left right : List α) : Except Inconsistent (List α) :=
  let (front, left₁, right₁) := mergeFront less left.length left right
  let (back, _, left₂) := mergeFront (flip less) left.length right.reverse left.reverse
  let gap := right.length - left.length
  let used := left₁.length + left₂.length
  if used = left.length then return front ++ right₁.take gap ++ back.reverse
  else if used = left.length + gap then return front ++ left₁.take gap ++ back.reverse
  else throw {}

/-- The length up to which a list is sorted in two halves. -/
def shortLength : Nat := 32

def sortShort (l : List α) : Except Inconsistent (List α) :=
  let half := l.length / 2
  let long := 8 ≤ l.length
  mergeBothEnds less (sortHalf less long (l.take half)) (sortHalf less long (l.drop half))

/-! ## Runs -/

/-- Two lists in order as one.  The shorter one is set aside, so it decides at which end the merge
starts. -/
def merge (left right : List α) : List α :=
  if left.length ≤ right.length then
    let (taken, left, right) := mergeFront less (left.length + right.length) left right
    taken ++ left ++ right
  else
    let (taken, right, left) :=
      mergeFront (flip less) (left.length + right.length) right.reverse left.reverse
    (taken ++ right ++ left).reverse

/-- A stretch of a list. -/
structure Run (α : Type) where
  items : List α
  /-- Whether the stretch is in order. -/
  sorted : Bool

/-- How many elements at the start of a list fall, or do not fall, one after the other. -/
def runLength (falling : Bool) : List α → Nat
  | x :: y :: rest => if less y x = falling then runLength falling (y :: rest) + 1 else 1
  | l => l.length

/-- The elements at the start of a list that fall, in reverse, or else those that do not fall. -/
def naturalRun (l : List α) : List α :=
  match l with
  | x :: y :: _ =>
      if less y x then (l.take (runLength less true l)).reverse
      else l.take (runLength less false l)
  | _ => l

/-- The run at the start of a list, and the rest.  A run shorter than `good` is made longer: if the
sort is `eager` a short list is sorted, otherwise this is left for later. -/
def firstRun (eager : Bool) (good : Nat) (l : List α) : Except Inconsistent (Run α × List α) :=
  let run := naturalRun less l
  if good ≤ run.length then return (⟨run, true⟩, l.drop run.length)
  else if eager then
    return (⟨← sortShort less (l.take shortLength), true⟩, l.drop shortLength)
  else return (⟨l.take good, false⟩, l.drop good)

/-- The runs of a list.  No run is empty, so the length of the list is enough `room` for all of
them. -/
def runs (eager : Bool) (good : Nat) : (room : Nat) → List α → Except Inconsistent (List (Run α))
  | _, [] => return []
  | 0, l => return [⟨l, false⟩]
  | room + 1, l => do
      let (run, rest) ← firstRun less eager good l
      return run :: (← runs eager good room rest)

section Merging

variable (sortRun : List α → Except Inconsistent (List α)) (capacity : Nat)

def Run.sortedItems (r : Run α) : Except Inconsistent (List α) :=
  if r.sorted then return r.items else sortRun r.items

/-- Two neighbouring runs as one.  Nothing is done about two runs that are not in order, if they
fit into the space for elements that are set aside. -/
def mergeRuns (left right : Run α) : Except Inconsistent (Run α) :=
  if left.sorted || right.sorted || capacity < left.items.length + right.items.length then do
    let l ← left.sortedItems sortRun
    let r ← right.sortedItems sortRun
    return ⟨merge less l r, true⟩
  else return ⟨left.items ++ right.items, false⟩

/-- Merges a run with the runs before it, the last of which is given first, as long as these lie at
least as deep in the tree of merges as `depth`. -/
def collapse (depth : Nat) :
    List (Run α × Nat) → Run α → Except Inconsistent (List (Run α × Nat) × Run α)
  | [], run => return ([], run)
  | (before, d) :: stack, run =>
      if depth ≤ d then do
        let run ← mergeRuns less sortRun capacity before run
        collapse depth stack run
      else return ((before, d) :: stack, run)

/-- The number of zeros before the first one of 64 binary digits. -/
def leadingZeros (n : Nat) : Nat := if n = 0 then 64 else 63 - n.log2

/-- How deep the merge of two runs lies, from the ends of the runs.  The list that is sorted has
`2 ^ 62 / scale` elements. -/
def mergeDepth (scale start middle stop : Nat) : Nat :=
  leadingZeros ((scale * (start + middle)) ^^^ (scale * (middle + stop)))

/-- Merges runs, those of a lower depth later.  `run` is the last one that was met, and its end is
`place`. -/
def mergeTree (scale : Nat) :
    (stack : List (Run α × Nat)) → (run : Run α) → (place : Nat) → List (Run α) →
      Except Inconsistent (Run α)
  | stack, run, _, [] => do
      let (_, run) ← collapse less sortRun capacity 0 stack run
      return run
  | stack, run, place, next :: rest => do
      let stop := place + next.items.length
      let depth := mergeDepth scale (place - run.items.length) place stop
      let (stack, merged) ← collapse less sortRun capacity depth stack run
      mergeTree scale ((merged, depth) :: stack) next stop rest

/-- About the square root of a number. -/
def sqrtApprox (n : Nat) : Nat :=
  let shift := (1 + (n ||| 1).log2) / 2
  ((1 <<< shift) + (n >>> shift)) / 2

/-- The length from which on a run is left as it is. -/
def goodLength (n : Nat) : Nat := if n ≤ 4096 then min (n - n / 2) 64 else sqrtApprox n

/-- Sorts a list by its runs. -/
def drift (eager : Bool) (l : List α) : Except Inconsistent (List α) := do
  match ← runs less eager (goodLength l.length) l.length l with
  | [] => return []
  | run :: rest =>
      let scale := ((1 <<< 62) + l.length - 1) / l.length
      let run ← mergeTree less sortRun capacity scale [] run run.items.length rest
      run.sortedItems sortRun

end Merging

/-! ## Partitions -/

/-- Of three places that with the middle element. -/
def median (l : List α) (i j k : Fin l.length) : Fin l.length :=
  if less (l.get i) (l.get j) = less (l.get i) (l.get k) then
    if less (l.get j) (l.get k) = less (l.get i) (l.get j) then j else k
  else i

/-- A place between `start` and `start + n`, by medians of three and of medians. -/
def pivot (l : List α) (start n : Nat) (hpos : 0 < n) (hn : start + n ≤ l.length) :
    Fin l.length :=
  if h : n < 8 then ⟨start, by omega⟩
  else
    median less l (pivot l start (n / 8) (by omega) (by omega))
      (pivot l (start + n / 8 * 4) (n / 8) (by omega) (by omega))
      (pivot l (start + n / 8 * 7) (n / 8) (by omega) (by omega))
termination_by n
decreasing_by all_goals omega

/-- The elements with a property, and the others, among which the element at `i` is counted. -/
def partitionAt (p : α → Bool) (l : List α) (i : Fin l.length) : List α × List α :=
  let before := l.take i
  let behind := l.drop (i + 1)
  ((before ++ behind).filter p, before.filter (!p ·) ++ l.get i :: behind.filter (!p ·))

/-- Sorts a list by partitions, or by runs if `limit` partitions have not made it short.  No element
is less than the `bound`; where the pivot is not greater than the bound either, elements that are
not greater than the pivot are all equal. -/
def quicksort (capacity : Nat) :
    (limit : Nat) → (bound : Option α) → List α → Except Inconsistent (List α)
  | 0, _, l =>
      if l.length ≤ shortLength then sortShort less l
      -- an eager sort leaves no run that is not in order
      else drift less (fun run => return insertAll less [] run) capacity true l
  | limit + 1, bound, l =>
      if h : l.length ≤ shortLength then sortShort less l
      else do
        let i := pivot less l 0 l.length (Nat.zero_lt_of_lt (Nat.lt_of_not_le h)) (by simp)
        let (lower, upper) := partitionAt (less · (l.get i)) l i
        if bound.any (!less · (l.get i)) || lower.isEmpty then
          let (greater, equal) := partitionAt (less (l.get i)) l i
          return equal ++ (← quicksort capacity limit none greater)
        else
          let upper ← quicksort capacity limit (some (l.get i)) upper
          return (← quicksort capacity limit bound lower) ++ upper

def sortRun (capacity : Nat) (l : List α) : Except Inconsistent (List α) :=
  quicksort less capacity (2 * (l.length ||| 1).log2) none l

/-- The list in order.  No more than `most` elements are set aside, unless half of the list is
more. -/
def sort (most : Nat) (l : List α) : Except Inconsistent (List α) :=
  if l.length ≤ 20 then return insertAll less [] l
  else
    let capacity := max (max (l.length - l.length / 2) (min l.length most)) 48
    drift less (sortRun less capacity) capacity (l.length ≤ 2 * shortLength) l

end RunSort

end BlockOrder
