import BlockOrder.Data.Basic
import BlockOrder.Data.Yaml.Token

/-!
# Data of configuration files

The data that a list of tokens describes.  An anchor names a piece of data, and an alias stands
for the data that its name was last given to.  Tags do not matter.
-/

namespace BlockOrder.Data.Yaml

/-- What is left to read, and the data that anchors name. -/
structure Remaining where
  tokens : List Token
  anchors : List (Text × Data) := []

namespace Remaining

def skip (r : Remaining) : Remaining := { r with tokens := r.tokens.drop 1 }

def next? (r : Remaining) : Option Token := r.tokens.head?

/-- Whether the next token is one of several, or there is none. -/
def atOneOf (r : Remaining) (tokens : List Token) : Bool :=
  match r.next? with
  | none => true
  | some t => tokens.contains t

end Remaining

def nothing : Data := .plain ""

/-- A mapping as data.  Only scalars name fields. -/
def recordOf (entries : List (Data × Data)) : Data :=
  let named := entries.mapM fun (key, value) =>
    match key with
    | .plain word => some (word, value)
    | .string s => some (s, value)
    | _ => none
  match named with
  | some fields => .record fields
  | none => .unreadable

/-- Passes over the anchor and the tag of a node, in any order, and gives the anchor. -/
def properties (r : Remaining) : Option Text × Bool × Remaining :=
  match r.tokens with
  | .anchor name :: .tag :: rest => (some name, true, { r with tokens := rest })
  | .tag :: .anchor name :: rest => (some name, true, { r with tokens := rest })
  | .anchor name :: rest => (some name, true, { r with tokens := rest })
  | .tag :: rest => (none, true, { r with tokens := rest })
  | _ => (none, false, r)

/-- Passes over what separates the parts of a list or record in brackets, and says whether it is
closed.  A comma may stand after the last part. -/
def separator? (close : Token) (first : Bool) (r : Remaining) : Option (Bool × Remaining) :=
  if r.next? = some close then some (true, r.skip)
  else if first then some (false, r)
  else if r.next? = some .comma then
    if r.skip.next? = some close then some (true, r.skip.skip) else some (false, r.skip)
  else none

/-- Where a node stands: in brackets or by indentation, and whether entries of a sequence may
stand there without being indented. -/
inductive Context where
  | flow
  | block
  | blockOrEntries
deriving DecidableEq

mutual

def node? : (fuel : Nat) → Context → Remaining → Option (Data × Remaining)
  | 0, _, _ => none
  | fuel + 1, context, r => do
      match r.tokens with
      | .alias name :: rest => return (← r.anchors.lookup name, { r with tokens := rest })
      | _ =>
          let (anchor, marked, r) := properties r
          let (d, r) ← content? fuel context marked r
          let anchors := match anchor with
            | some name => (name, d) :: r.anchors
            | none => r.anchors
          return (d, { r with anchors })

/-- Reads the content of a node; a node with an anchor or a tag may be empty. -/
def content? : (fuel : Nat) → Context → (marked : Bool) → Remaining → Option (Data × Remaining)
  | 0, _, _, _ => none
  | fuel + 1, context, marked, r =>
      match r.next?, context with
      | some (.scalar isPlain t), _ =>
          let s := String.ofList t
          some (if isPlain then .plain s else .string s, r.skip)
      | some .listOpen, _ => (flowItems? fuel true r.skip).map fun (l, r) => (.list l, r)
      | some .recordOpen, _ => (flowFields? fuel true r.skip).map fun (l, r) => (recordOf l, r)
      | some .entry, .blockOrEntries =>
          (entries? fuel [.entry, .key, .value, .blockEnd] r).map fun (l, r) => (.list l, r)
      | some .sequenceStart, .block | some .sequenceStart, .blockOrEntries => do
          let (l, r) ← entries? fuel [.entry, .blockEnd] r.skip
          if r.next? = some .blockEnd then some (.list l, r.skip) else none
      | some .mappingStart, .block | some .mappingStart, .blockOrEntries =>
          (blockFields? fuel r.skip).map fun (l, r) => (recordOf l, r)
      | _, _ => if marked then some (nothing, r) else none

/-- Reads a node, or nothing before one of the given tokens. -/
def nodeUnless? : (fuel : Nat) → Context → List Token → Remaining → Option (Data × Remaining)
  | 0, _, _, _ => none
  | fuel + 1, context, stops, r =>
      if r.atOneOf stops then some (nothing, r) else node? fuel context r

/-- Reads the value after a key, which may be missing. -/
def valueUnless? : (fuel : Nat) → Context → List Token → Remaining → Option (Data × Remaining)
  | 0, _, _, _ => none
  | fuel + 1, context, stops, r =>
      if r.next? = some .value then nodeUnless? fuel context stops r.skip else some (nothing, r)

/-- Reads the entries of a sequence by indentation.  An entry before one of the given tokens is
empty. -/
def entries? : (fuel : Nat) → (stops : List Token) → Remaining → Option (List Data × Remaining)
  | 0, _, _ => none
  | fuel + 1, stops, r =>
      if r.next? = some .entry then do
        let (d, r) ← nodeUnless? fuel .block stops r.skip
        let (l, r) ← entries? fuel stops r
        return (d :: l, r)
      else some ([], r)

/-- Reads the fields of a mapping by indentation, to its end. -/
def blockFields? : (fuel : Nat) → Remaining → Option (List (Data × Data) × Remaining)
  | 0, _ => none
  | fuel + 1, r =>
      match r.next? with
      | some .key => do
          let stops := [.key, .value, .blockEnd]
          let (key, r) ← nodeUnless? fuel .blockOrEntries stops r.skip
          let (value, r) ← valueUnless? fuel .blockOrEntries stops r
          let (l, r) ← blockFields? fuel r
          return ((key, value) :: l, r)
      | some .blockEnd => some ([], r.skip)
      | _ => none

/-- Reads the items of a list in brackets, to its end.  An item with a key is a record of its
own. -/
def flowItems? : (fuel : Nat) → (first : Bool) → Remaining → Option (List Data × Remaining)
  | 0, _, _ => none
  | fuel + 1, first, r =>
      match separator? .listClose first r with
      | none => none
      | some (true, r) => some ([], r)
      | some (false, r) => do
          let (d, r) ←
            if r.next? = some .key then do
              let (key, r) ← nodeUnless? fuel .flow [.value, .comma, .listClose] r.skip
              let (value, r) ← valueUnless? fuel .flow [.comma, .listClose] r
              pure (recordOf [(key, value)], r)
            else node? fuel .flow r
          let (l, r) ← flowItems? fuel false r
          return (d :: l, r)

/-- Reads the fields of a record in braces, to its end. -/
def flowFields? : (fuel : Nat) → (first : Bool) → Remaining →
    Option (List (Data × Data) × Remaining)
  | 0, _, _ => none
  | fuel + 1, first, r =>
      match separator? .recordClose first r with
      | none => none
      | some (true, r) => some ([], r)
      | some (false, r) => do
          let (field, r) ←
            if r.next? = some .key then do
              let (key, r) ← nodeUnless? fuel .flow [.value, .comma, .recordClose] r.skip
              let (value, r) ← valueUnless? fuel .flow [.comma, .recordClose] r
              pure ((key, value), r)
            else do
              let (key, r) ← node? fuel .flow r
              pure ((key, nothing), r)
          let (l, r) ← flowFields? fuel false r
          return (field :: l, r)

end

/-- The data of a document and the tokens after it.  A document without content is a value that is
not there. -/
def document? (tokens : List Token) : Option (Data × List Token) :=
  let body := tokens.dropWhile (· = .directive)
  let read := fun tokens => (node? (5 * tokens.length + 5) .block { tokens }).map fun (d, r) =>
    (d, r.tokens)
  match body with
  | .documentStart :: rest =>
      match rest with
      | [] | .directive :: _ | .documentStart :: _ | .documentEnd :: _ => some (nothing, rest)
      | _ => read rest
  | [] => if tokens.isEmpty then some (nothing, []) else none
  | _ => if body.length < tokens.length then none else read body

end BlockOrder.Data.Yaml
