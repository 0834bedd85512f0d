import BlockOrder.Pattern.Regular

/-!
# Automata

A regular pattern as an automaton whose states are tried in order.  All states that can be
reached at a place are entered once, the preferred ones first; that decides which match is the
first one where a repetition could go round without taking a character.
-/

namespace BlockOrder

/-- A state of an automaton.  Other states are given by their numbers. -/
inductive AutomatonState where
  /-- The match is complete. -/
  | accept
  /-- Takes a character of a set and goes on. -/
  | take (s : CharSet) (next : Nat)
  /-- Goes on where a condition holds. -/
  | check (a : Assertion) (next : Nat)
  /-- Goes on in two ways, preferably the first. -/
  | fork (first second : Nat)
  /-- Goes on, and the match ends here. -/
  | mark (next : Nat)

/-- An automaton: its states and the number of the one it starts in. -/
structure Automaton where
  states : Array AutomatonState
  start : Nat

abbrev AutomatonBuilder := StateM (Array AutomatonState)

namespace AutomatonBuilder

def add (s : AutomatonState) : AutomatonBuilder Nat := do
  let states ← get
  set (states.push s)
  return states.size

def replace (i : Nat) (s : AutomatonState) : AutomatonBuilder Unit :=
  modify fun states => states.setIfInBounds i s

/-- Adds a fork between going on with one state and leaving to another. -/
def addFork (greedy : Bool) (body leave : Nat) : AutomatonBuilder Nat :=
  add (if greedy then .fork body leave else .fork leave body)

/-- Adds a loop: after the body, it is entered again or left.  Gives the numbers of the body and
of the fork after it. -/
def addLoop (greedy : Bool) (body : Nat → AutomatonBuilder Nat) (leave : Nat) :
    AutomatonBuilder (Nat × Nat) := do
  let fork ← add .accept
  let first ← body fork
  replace fork (if greedy then .fork first leave else .fork leave first)
  return (first, fork)

/-- Adds a number of copies, one after the other. -/
def addTimes (body : Nat → AutomatonBuilder Nat) : (n : Nat) → (next : Nat) → AutomatonBuilder Nat
  | 0, next => return next
  | n + 1, next => do
      let later ← addTimes body n next
      body later

/-- Adds a number of copies that can be left before each of them. -/
def addUpTo (greedy : Bool) (body : Nat → AutomatonBuilder Nat) (leave : Nat) :
    (n : Nat) → AutomatonBuilder Nat
  | 0 => return leave
  | n + 1 => do
      let later ← addUpTo greedy body leave n
      let first ← body later
      addFork greedy first leave

/-- Adds an unbounded repetition.  Where no round is required and rounds can be empty, the first
round is optional and the rest is a loop after it. -/
def addUnbounded (greedy nullable : Bool) (body : Nat → AutomatonBuilder Nat) (leave : Nat) :
    (least : Nat) → AutomatonBuilder Nat
  | 0 => do
      let (first, fork) ← addLoop greedy body leave
      if nullable then addFork greedy first leave else return fork
  | least + 1 => do
      let (first, _) ← addLoop greedy body leave
      addTimes body least first

end AutomatonBuilder

namespace Regular

open AutomatonBuilder

/-- Adds the states for a pattern, after which the automaton goes on with state `next`.  Gives the
number of the first state. -/
def build : Regular → (next : Nat) → AutomatonBuilder Nat
  | empty, next => return next
  | one s, next => add (.take s next)
  | check a, next => add (.check a next)
  | seq p q, next => do
      let middle ← q.build next
      p.build middle
  | alt p q, next => do
      let first ← p.build next
      let second ← q.build next
      add (.fork first second)
  | unit p, next | capture _ p, next => p.build next
  | repeated greedy least none p, next =>
      addUnbounded greedy p.isNullable p.build next least
  | repeated greedy least (some most) p, next => do
      let later ← addUpTo greedy p.build next (most - least)
      addTimes p.build least later

end Regular

namespace Automaton

def ofRegular (p : Regular) : Automaton :=
  let built : AutomatonBuilder Nat := do
    let accept ← AutomatonBuilder.add .accept
    p.build accept
  let (start, states) := built.run #[]
  ⟨states, start⟩

/-- The automaton that matches `p` where `q` follows. -/
def followed (p q : Regular) : Automaton :=
  let built : AutomatonBuilder Nat := do
    let accept ← AutomatonBuilder.add .accept
    let second ← q.build accept
    let mark ← AutomatonBuilder.add (.mark second)
    p.build mark
  let (start, states) := built.run #[]
  ⟨states, start⟩

/-- A way in which an automaton is being followed: a state, and where the match ends if that is
decided. -/
structure Thread where
  state : Nat
  stop : Option Nat

/-- The threads that wait for a character or are complete, preferred ones first, among those that
can be reached from the threads on the stack without taking a character.  A state in `seen` is not
entered again. -/
def reach (states : Array AutomatonState) (pos : Nat) (before rest : Text) :
    (fuel : Nat) → (stack : List Thread) → (seen : Nat) → List Thread
  | 0, _, _ => []
  | _, [], _ => []
  | fuel + 1, t :: stack, seen =>
      if seen.testBit t.state then reach states pos before rest fuel stack seen
      else
        let seen := seen ||| 1 <<< t.state
        match states[t.state]? with
        | none => reach states pos before rest fuel stack seen
        | some .accept | some (.take _ _) => t :: reach states pos before rest fuel stack seen
        | some (.check a next) =>
            let stack := if a.holds before rest then ⟨next, t.stop⟩ :: stack else stack
            reach states pos before rest fuel stack seen
        | some (.fork first second) =>
            reach states pos before rest fuel (⟨first, t.stop⟩ :: ⟨second, t.stop⟩ :: stack) seen
        | some (.mark next) => reach states pos before rest fuel (⟨next, some pos⟩ :: stack) seen

/-- Every state that is entered puts at most two threads on the stack, so this is fuel enough. -/
def reachable (a : Automaton) (pos : Nat) (before rest : Text) (threads : List Thread) :
    List Thread :=
  reach a.states pos before rest (threads.length + 2 * a.states.size + 1) threads 0

/-- The threads that are preferred to a complete one, and where the match of that one ends. -/
def settle (states : Array AutomatonState) (pos : Nat) :
    List Thread → List Thread × Option Nat
  | [] => ([], none)
  | t :: rest =>
      match states[t.state]? with
      | some .accept => ([], some (t.stop.getD pos))
      | _ =>
          let (alive, stop) := settle states pos rest
          (t :: alive, stop)

/-- The thread after a character, if it takes that. -/
def advance? (states : Array AutomatonState) (c : Char) (t : Thread) : Option Thread :=
  match states[t.state]? with
  | some (.take s next) => if s.contains c then some ⟨next, t.stop⟩ else none
  | _ => none

/-- Where the first match ends, if there is one, when some threads have got to a place and `best`
is the end of a match they are preferred to. -/
def follow (a : Automaton) : (pos : Nat) → (before rest : Text) → List Thread →
    (best : Option Nat) → Option Nat
  | pos, before, [], threads, best =>
      let (_, stop) := settle a.states pos (a.reachable pos before [] threads)
      stop.or best
  | pos, before, c :: rest, threads, best =>
      let (alive, stop) := settle a.states pos (a.reachable pos before (c :: rest) threads)
      let best := stop.or best
      match alive.filterMap (advance? a.states c) with
      | [] => best
      | threads => a.follow (pos + 1) (c :: before) rest threads best

/-- Where the first match that starts at a place ends. -/
def stop? (a : Automaton) (pos : Nat) (before rest : Text) : Option Nat :=
  a.follow pos before rest [⟨a.start, none⟩] none

end Automaton

end BlockOrder
