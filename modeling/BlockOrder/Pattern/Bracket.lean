import BlockOrder.Pattern.Escape

/-!
# Bracketed sets

Sets of characters that are written between brackets: characters, ranges, escapes, named sets,
sets within sets, and the operators between them.
-/

namespace BlockOrder.Pattern

/-- The set with a given name between `[:` and `:]`. -/
def namedSet? (name : String) : Option CharSet :=
  let lower := CharSet.range 'a' 'z'
  let upper := CharSet.range 'A' 'Z'
  let digit := CharSet.range '0' '9'
  match name with
  | "alnum" => some (.union digit (.union upper lower))
  | "alpha" => some (.union upper lower)
  | "ascii" => some (.range '\x00' '\x7f')
  | "blank" => some (.ofList ['\t', ' '])
  | "cntrl" => some (.union (.range '\x00' '\x1f') (.single '\x7f'))
  | "digit" => some digit
  | "graph" => some (.range '!' '~')
  | "lower" => some lower
  | "print" => some (.range ' ' '~')
  | "punct" =>
      some (.union (.union (.range '!' '/') (.range ':' '@'))
        (.union (.range '[' '\x60') (.range '\x7b' '~')))
  | "space" => some (.union (.range '\t' '\r') (.single ' '))
  | "upper" => some upper
  | "word" => some (.union digit (.union upper (.union lower (.single '_'))))
  | "xdigit" => some Escape.hexDigits
  | _ => none

/-- How two parts of a bracketed set are combined. -/
inductive SetOperator where
  | inter
  | diff
  | symmDiff

def SetOperator.apply : SetOperator → CharSet → CharSet → CharSet
  | inter => .inter
  | diff => .diff
  | symmDiff => .symmDiff

/-- A bracketed set that is still open: whether it is negated, the operand on the left of the
last operator, and the items since. -/
structure OpenSet where
  negated : Bool
  left : Option (SetOperator × CharSet)
  items : CharSet

namespace OpenSet

def add (s : OpenSet) (item : CharSet) : OpenSet := { s with items := .union s.items item }

/-- The items so far, combined with the operand on their left. -/
def combined (s : OpenSet) : CharSet :=
  match s.left with
  | none => s.items
  | some (op, left) => op.apply left s.items

def operator (s : OpenSet) (op : SetOperator) : OpenSet :=
  { s with left := some (op, s.combined), items := .nothing }

def close (s : OpenSet) : CharSet := if s.negated then .compl s.combined else s.combined

/-- Opens a bracketed set: a leading `^` negates it, hyphens that come first are literal, and so
is a closing bracket that comes first. -/
def start (t : Text) : OpenSet × Text :=
  let (negated, t) :=
    match t with
    | '^' :: rest => (true, rest)
    | _ => (false, t)
  let hyphens := t.takeWhile (· == '-')
  let first : OpenSet := ⟨negated, none, .ofList hyphens⟩
  match t.dropWhile (· == '-') with
  | ']' :: rest => if hyphens.isEmpty then (first.add (.single ']'), rest) else (first, ']' :: rest)
  | rest => (first, rest)

end OpenSet

/-- One item of a bracketed set: a character (left) or a set (right). -/
def setItem? : Text → Option ((Char ⊕ CharSet) × Text)
  | [] => none
  | '\\' :: rest => do
      match ← Escape.inSet? rest with
      | (.char c, more) => some (.inl c, more)
      | (.set s, more) => some (.inr s, more)
      | _ => none
  | c :: rest => some (.inl c, rest)

/-- A named set such as `[:alpha:]` or `[:^alpha:]`, after its opening bracket. -/
def posixSet? (t : Text) : Option (CharSet × Text) := do
  let (name, rest) ← Escape.until? ':' t
  match rest with
  | ']' :: more =>
      match name with
      | '^' :: letters => return (.compl (← namedSet? (String.ofList letters)), more)
      | _ => return (← namedSet? (String.ofList name), more)
  | _ => none

/-- Reads a bracketed set to its end.  The stack holds the sets that enclose the current one. -/
def setFrom? : (fuel : Nat) → OpenSet → List OpenSet → Text → Option (CharSet × Text)
  | 0, _, _, _ => none
  | _, _, _, [] => none
  | fuel + 1, current, stack, ']' :: rest =>
      match stack with
      | [] => some (current.close, rest)
      | outer :: more => setFrom? fuel (outer.add current.close) more rest
  | fuel + 1, current, stack, '&' :: '&' :: rest =>
      setFrom? fuel (current.operator .inter) stack rest
  | fuel + 1, current, stack, '-' :: '-' :: rest =>
      setFrom? fuel (current.operator .diff) stack rest
  | fuel + 1, current, stack, '~' :: '~' :: rest =>
      setFrom? fuel (current.operator .symmDiff) stack rest
  | fuel + 1, current, stack, '[' :: rest =>
      match rest with
      | ':' :: t =>
          match posixSet? t with
          | some (s, more) => setFrom? fuel (current.add s) stack more
          | none =>
              let (inner, more) := OpenSet.start rest
              setFrom? fuel inner (current :: stack) more
      | _ => let (inner, more) := OpenSet.start rest; setFrom? fuel inner (current :: stack) more
  | fuel + 1, current, stack, t => do
      let (item, rest) ← setItem? t
      match rest with
      | '-' :: next :: more =>
          if next == ']' || next == '-' then
            setFrom? fuel (current.add (item.elim .single id)) stack rest
          else
            let (last, rest) ← setItem? (next :: more)
            match item, last with
            | .inl lo, .inl hi =>
                if lo ≤ hi then setFrom? fuel (current.add (.range lo hi)) stack rest else none
            | _, _ => none
      | _ => setFrom? fuel (current.add (item.elim .single id)) stack rest

/-- The number of characters up to the bracket that closes as many brackets as are open. -/
def bracketsEnd? : (depth : Nat) → Text → Option Nat
  | _, [] => none
  | depth, '\\' :: _ :: rest => (bracketsEnd? depth rest).map (· + 2)
  | depth, '[' :: rest => (bracketsEnd? (depth + 1) rest).map (· + 1)
  | depth, ']' :: rest => if depth ≤ 1 then some 1 else (bracketsEnd? (depth - 1) rest).map (· + 1)
  | depth, _ :: rest => (bracketsEnd? depth rest).map (· + 1)

/-- The number of characters of a bracketed set after its opening bracket.  A closing bracket that
comes first does not count. -/
def setLength? : Text → Option Nat
  | '^' :: ']' :: rest => (bracketsEnd? 1 rest).map (· + 2)
  | ']' :: rest => (bracketsEnd? 1 rest).map (· + 1)
  | t => bracketsEnd? 1 t

/-- The set after an opening bracket.  It has to end where its brackets balance. -/
def bracketed? (t : Text) : Option (CharSet × Text) := do
  let n ← setLength? t
  let (first, more) := OpenSet.start (t.take n)
  match ← setFrom? (n + 1) first [] more with
  | (s, []) => some (s, t.drop n)
  | _ => none

end BlockOrder.Pattern
