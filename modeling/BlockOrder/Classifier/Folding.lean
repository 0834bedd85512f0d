import BlockOrder.Config.Error
import BlockOrder.Language.Markers
import BlockOrder.Pattern.Compile
import BlockOrder.StableSort

/-!
# Folding

How deep the brackets of each pair are nested.  Counting is raw, where every closing bracket
counts, or validated, where one that closes nothing is passed over.
-/

namespace BlockOrder

/-- How closing brackets are counted. -/
inductive FoldMode where
  | raw
  | validated
deriving DecidableEq

/-- The nesting depth of every pair of brackets.  A depth is negative where more is closed than
was opened. -/
structure Folding where
  levels : List Int
deriving DecidableEq

namespace Folding

def closed (families : Nat) : Folding := ⟨List.replicate families 0⟩

/-- The depth of one pair, zero if there is no such pair. -/
def level (f : Folding) (i : Nat) : Int := f.levels[i]?.getD 0

/-- Lists of depths added place by place; the longer one decides the length. -/
def addLevels : List Int → List Int → List Int
  | [], bs => bs
  | as, [] => as
  | a :: as, b :: bs => (a + b) :: addLevels as bs

/-- The depths of two texts, one after the other. -/
def merge (f g : Folding) : Folding := ⟨addLevels f.levels g.levels⟩

def hasOpen (f : Folding) : Bool := f.levels.any (· != 0)

/-- Some pair is opened more often than closed. -/
def hasPositive (f : Folding) : Bool := f.levels.any (· > 0)

/-- Some pair is closed more often than opened. -/
def hasNegative (f : Folding) : Bool := f.levels.any (· < 0)

def total (f : Folding) : Int := f.levels.foldl (· + ·) 0

end Folding

/-- A pair of brackets with its patterns. -/
structure FoldFamily where
  key : String
  start : Matcher
  stop : Matcher
  /-- The place of the pair whose openings undo those of this one. -/
  abortOn : Option Nat

/-- The pairs of brackets that are counted, in the order of the depths. -/
structure FoldTable where
  families : List FoldFamily

/-- Where a pair of brackets opens and closes on a line. -/
structure FoldMatches where
  opens : List Nat
  closes : List Nat

namespace FoldTable

/-- The pattern of a pair of brackets, or a report that there is none. -/
def compilePattern (key : String) (source : Text) : Report (Option Matcher) :=
  match Matcher.ofSource? source with
  | some p => pure (some p)
  | none => do
      Report.add (.invalidPattern ("foldingMarkers." ++ key) source)
      pure none

/-- A pair of brackets, together with the key of the pair that undoes it.  A pair with an invalid
pattern is left out. -/
def compileFamily (key : String) (m : FoldMarker) :
    Report (Option (FoldFamily × Option String)) := do
  let start ← compilePattern key m.start.toList
  let stop ← compilePattern key m.stop.toList
  match start, stop with
  | some start, some stop => pure (some (⟨key, start, stop, none⟩, m.abortOn))
  | _, _ => pure none

def resolveAbort (families : List FoldFamily) (f : FoldFamily) (abortOn : Option String) :
    Report FoldFamily :=
  match abortOn with
  | none => pure f
  | some key =>
      match families.findIdx? (·.key == key) with
      | some place => pure { f with abortOn := some place }
      | none => do
          Report.add (.unknownFamily f.key key)
          pure f

/-- The table for the given pairs, in ascending order of priority and then of keys. -/
def compile (markers : SortedMap FoldMarker) : Report FoldTable := do
  let ordered := sortBy (fun a b => a.2.priority ≤ b.2.priority) markers.entries
  let compiled ← ordered.filterMapM fun (key, m) => compileFamily key m
  let families := compiled.map (·.1)
  return ⟨← compiled.mapM fun (f, abortOn) => resolveAbort families f abortOn⟩

def size (t : FoldTable) : Nat := t.families.length

def keys (t : FoldTable) : List String := t.families.map (·.key)

def closed (t : FoldTable) : Folding := .closed t.size

/-- Where the pairs open and close in a text without strings and comments. -/
def matchesIn (t : FoldTable) (text : Text) : List FoldMatches :=
  t.families.map fun f =>
    ⟨(f.start.findAll text).map (·.start), (f.stop.findAll text).map (·.start)⟩

/-- One closing bracket, which counts only if something is open. -/
def closeOne (level : Int) : Int := if level > 0 then level - 1 else level

/-- The depth after openings and closings in the order of their offsets, an opening first where
both are at one offset. -/
def validatedLevel : (level : Int) → (opens closes : List Nat) → Int
  | level, [], closes => closes.foldl (fun l _ => closeOne l) level
  | level, o :: opens, closes =>
      let level := (closes.takeWhile (· < o)).foldl (fun l _ => closeOne l) level
      validatedLevel (level + 1) opens (closes.dropWhile (· < o))

/-- The depth of one pair after a text.  Where openings are undone the depth does not grow. -/
def levelAfter (mode : FoldMode) (aborted : Bool) (m : FoldMatches) (before : Int) : Int :=
  let after :=
    match mode with
    | .raw => before + m.opens.length - m.closes.length
    | .validated => validatedLevel before m.opens m.closes
  if aborted && after > before then before else after

/-- The depths after a text, pair by pair.  Depths without a pair stay. -/
def levelsAfter (mode : FoldMode) (all : List FoldMatches) :
    List (FoldFamily × FoldMatches) → List Int → List Int
  | [], levels => levels
  | _ :: _, [] => []
  | (f, m) :: rest, level :: levels =>
      let aborted := f.abortOn.any fun place => all[place]?.any fun target => !target.opens.isEmpty
      levelAfter mode aborted m level :: levelsAfter mode all rest levels

/-- The depths after a text without strings and comments. -/
def count (t : FoldTable) (mode : FoldMode) (initial : Folding) (text : Text) : Folding :=
  let all := t.matchesIn text
  ⟨levelsAfter mode all (t.families.zip all) (t.closed.merge initial).levels⟩

end FoldTable

end BlockOrder
