import BlockOrder.Pattern.Basic

/-!
# Regular patterns

The patterns that a finite automaton can match: no records that are referred to, no look-around,
no conditions about words.  They have a normal form in which sequences and alternatives are flat,
repetitions of the empty text are cut short, and what alternatives begin with together stands in
front of them.
-/

namespace BlockOrder

/-- A regular pattern; the constructors mean what those of `Pattern` mean. -/
inductive Regular where
  | empty
  | one (s : CharSet)
  | check (a : Assertion)
  | seq (p q : Regular)
  | alt (p q : Regular)
  | unit (p : Regular)
  | repeated (greedy : Bool) (least : Nat) (most : Option Nat) (p : Regular)
  | capture (index : Nat) (p : Regular)
deriving DecidableEq

/-- The pattern as a regular one, where `kept` lists the records that are referred to. -/
def Pattern.regular? (kept : List Nat) : Pattern → Option Regular
  | empty => some .empty
  | one s => some (.one s)
  | check a => if a.isAboutWords then none else some (.check a)
  | seq p q => do return .seq (← p.regular? kept) (← q.regular? kept)
  | alt p q => do return .alt (← p.regular? kept) (← q.regular? kept)
  | unit p => (p.regular? kept).map .unit
  | repeated greedy least most p => (p.regular? kept).map (.repeated greedy least most)
  | capture i p => if kept.contains i then none else (p.regular? kept).map (.capture i)
  | again _ _ | recorded _ | ahead _ _ | behind _ _ | atomic _ | restart | resume
  | choose _ _ _ => none

namespace Regular

/-- Whether the pattern can match the empty text. -/
def isNullable : Regular → Bool
  | empty | check _ => true
  | one _ => false
  | seq p q => p.isNullable && q.isNullable
  | alt p q => p.isNullable || q.isNullable
  | unit p | capture _ p => p.isNullable
  | repeated _ least _ p => least == 0 || p.isNullable

/-- Whether the pattern can match nothing but the empty text. -/
def isEmptyOnly : Regular → Bool
  | empty | check _ => true
  | one _ => false
  | seq p q | alt p q => p.isEmptyOnly && q.isEmptyOnly
  | unit p | capture _ p | repeated _ _ _ p => p.isEmptyOnly

/-- Whether an unbounded repetition can match the empty text in a round. -/
def hasEmptyRounds : Regular → Bool
  | empty | one _ | check _ => false
  | seq p q | alt p q => p.hasEmptyRounds || q.hasEmptyRounds
  | unit p | capture _ p => p.hasEmptyRounds
  | repeated _ _ most p => (most.isNone && p.isNullable) || p.hasEmptyRounds

/-- The patterns that follow each other in a sequence. -/
def factors : Regular → List Regular
  | seq p q => p :: q.factors
  | p => [p]

def branches : Regular → List Regular
  | alt p q => p :: q.branches
  | p => [p]

/-- One pattern after the other, as a flat sequence. -/
def followedBy : Regular → Regular → Regular
  | empty, q => q
  | seq p p', q => seq p (p'.followedBy q)
  | p, empty => p
  | p, q => seq p q

/-- One pattern after the other, as a flat sequence. -/
def sequence : List Regular → Regular
  | [] => empty
  | p :: rest => p.followedBy (sequence rest)

def oneOf : List Regular → Regular
  | [] => empty
  | [p] => p
  | p :: rest => alt p (oneOf rest)

def commonStart : List Regular → List Regular → List Regular
  | p :: ps, q :: qs => if p = q then p :: commonStart ps qs else []
  | _, _ => []

/-- What all lists begin with together, when the first one begins with `start`. -/
def commonStartOf (start : List Regular) (rest : List (List Regular)) : List Regular :=
  rest.foldl commonStart start

/-- One of several patterns.  If all are sequences and begin with the same patterns, those stand
in front. -/
def choice : List Regular → Regular
  | [] => empty
  | [p] => p
  | p :: rest =>
      let lists := (p :: rest).map factors
      let start := commonStartOf p.factors (rest.map factors)
      if start.isEmpty || lists.any (·.length < 2) then oneOf (p :: rest)
      else
        let ends := lists.flatMap fun l => (sequence (l.drop start.length)).branches
        sequence (start ++ [oneOf ends])

/-- A repetition.  Rounds that match only the empty text are not repeated, no round at all is
the empty text, and exactly one round is the pattern itself. -/
def rounds (greedy : Bool) (least : Nat) (most : Option Nat) (p : Regular) : Regular :=
  let least := if p.isEmptyOnly then min least 1 else least
  let most := if p.isEmptyOnly then some (min (most.getD 1) 1) else most
  if most = some 0 then empty
  else if least = 1 && most = some 1 then p
  else repeated greedy least most p

/-- The alternatives of the normal form, before what they begin with together is moved to the
front. -/
def normalBranches : Regular → List Regular
  | alt p q => (choice p.normalBranches).branches ++ q.normalBranches
  | seq p q => ((choice p.normalBranches).followedBy (choice q.normalBranches)).branches
  | unit p => (choice p.normalBranches).branches
  | repeated greedy least most p => (rounds greedy least most (choice p.normalBranches)).branches
  | capture i p => [capture i (choice p.normalBranches)]
  | empty => [empty]
  | one s => [one s]
  | check a => [check a]

def normal (p : Regular) : Regular := choice p.normalBranches

end Regular

end BlockOrder
