import BlockOrder.Pattern.Plan

/-!
# Searching

The leftmost match of a pattern, all its matches from left to right, and the text that is left
when matches are removed.

A search is carried to its end.  There is no limit on backtracking, so the error that an engine
with such a limit gives for some patterns and texts is not modelled.  Nor is what happens to
repeated matches if `\K` stands inside a look-behind, where a match may be said to start before
the place from which it was sought.
-/

namespace BlockOrder

/-- The stretch of a text between two offsets. -/
structure Span where
  start : Nat
  stop : Nat
deriving DecidableEq

namespace Span

def isEmpty (s : Span) : Bool := s.start == s.stop

def cut (s : Span) (t : Text) : Text := t.take s.start ++ t.drop s.stop

end Span

namespace Matcher

/-- The first match that starts at a given cursor. -/
def matchAt? (p : Matcher) (origin : Option Nat) (c : Cursor) : Option Span :=
  (p.outcomes origin c).head?.map fun e => ⟨min (e.records.start.getD c.pos) e.pos, e.pos⟩

/-- The leftmost match at or after a place. -/
def searchFrom (p : Matcher) (origin : Option Nat) :
    (pos : Nat) → (before rest : Text) → Option Span
  | pos, before, [] => p.matchAt? origin ⟨pos, before, [], {}⟩
  | pos, before, x :: rest =>
      match p.matchAt? origin ⟨pos, before, x :: rest, {}⟩ with
      | some m => some m
      | none => searchFrom p origin (pos + 1) (x :: before) rest

/-- The leftmost match in a text, however long the search for it takes. -/
def find? (p : Matcher) (t : Text) : Option Span := p.searchFrom (some 0) 0 [] t

/-- Whether the pattern matches somewhere in a text. -/
def occursIn (p : Matcher) (t : Text) : Bool := (p.find? t).isSome

/-- The matches from offset `place` on.  The next match is sought where the last one ended, one
character further if that one was empty, and an empty match directly after a match is passed
over.  Matches that `\K` in a look-behind makes start before `place` are not told apart. -/
def findAllFrom (p : Matcher) (t : Text) :
    (fuel : Nat) → (place : Nat) → (origin last : Option Nat) → List Span
  | 0, _, _, _ => []
  | fuel + 1, place, origin, last =>
      if t.length < place then []
      else
        match p.searchFrom origin place (t.take place).reverse (t.drop place) with
        | none => []
        | some m =>
            if m.isEmpty then
              if last = some m.stop then findAllFrom p t fuel (m.stop + 1) none last
              else m :: findAllFrom p t fuel (m.stop + 1) none (some m.stop)
            else m :: findAllFrom p t fuel m.stop (some m.stop) (some m.stop)

/-- All matches in a text, from left to right and without overlap. -/
def findAll (p : Matcher) (t : Text) : List Span := p.findAllFrom t (t.length + 2) 0 (some 0) none

/-- What is left of the text from offset `place` on when the given stretches are left out. -/
def without (t : Text) (place : Nat) : List Span → Text
  | [] => t.drop place
  | m :: rest => (t.drop place).take (m.start - place) ++ without t m.stop rest

/-- The text without any match of the pattern. -/
def removeAll (p : Matcher) (t : Text) : Text := without t 0 (p.findAll t)

/-- The nonempty first match that starts earliest, that of the first such pattern in the list
when several start together. -/
def earliest? (patterns : List Matcher) (t : Text) : Option Span :=
  patterns.foldl (fun best p =>
    match p.find? t with
    | none => best
    | some m =>
        if m.isEmpty then best
        else
          match best with
          | none => some m
          | some b => if m.start < b.start then some m else best) none

/-- Removes earliest matches one at a time, each from the text that the last removal left. -/
def stripWithin (patterns : List Matcher) : (fuel : Nat) → Text → Text
  | 0, t => t
  | fuel + 1, t =>
      match earliest? patterns t with
      | none => t
      | some m => stripWithin patterns fuel (m.cut t)

/-- The text when no pattern of the list has a nonempty first match any more.  Every removal
shortens the text, so there are at most as many as it has characters. -/
def strip (patterns : List Matcher) (t : Text) : Text := stripWithin patterns t.length t

end Matcher

end BlockOrder
