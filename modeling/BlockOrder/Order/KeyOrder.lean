import BlockOrder.Order.Collation

/-!
# The order of sort keys

A comparison of texts, completed by a direction, by characters that do not count, and by an order
of characters that comes before everything else.
-/

namespace BlockOrder

/-- The direction of sorting. -/
inductive Direction where
  | asc
  | desc
  /-- At random. -/
  | rand
deriving DecidableEq

namespace Direction

def toWord : Direction → String
  | asc => "asc"
  | desc => "desc"
  | rand => "rand"

def ofWord? : String → Option Direction
  | "asc" => some asc
  | "desc" => some desc
  | "rand" => some rand
  | _ => none

/-- The direction that a user names, in either case, or the reason why there is none. -/
def parse (s : String) : Except String Direction :=
  match String.ofList (s.toList.map asciiLower) with
  | "asc" => .ok asc
  | "desc" => .ok desc
  | "rand" | "random" => .ok rand
  | other => .error ("unknown sort direction '" ++ other ++ "'")

def apply (d : Direction) (o : Ordering) : Ordering :=
  match d with
  | desc => o.swap
  | _ => o

end Direction

/-- How sort keys are compared. -/
structure KeyOrder where
  collate : Collate
  direction : Direction
  /-- Characters in the order in which they sort. -/
  customOrder : Option (List Char)
  /-- Characters that are left out. -/
  ignored : List Char
  /-- Whether characters are looked up in the custom order in lower case. -/
  ignoreCase : Bool

namespace KeyOrder

/-- A custom order with both cases of every letter, if it matters which comes first. -/
def expandOrder (first : CaseFirst) (order : List Char) : List Char :=
  order.flatMap fun c =>
    let upper := upperFirst c
    let lower := lowerFirst c
    if upper = lower then [c]
    else
      match first with
      | .upper => [upper, lower]
      | .lower => [lower, upper]
      | .either => [c]

/-- The order for given options over a given comparison. -/
def withCollate (collate : Collate) (o : CollationOptions) (direction : Direction) : KeyOrder where
  collate := collate
  direction := direction
  customOrder :=
    (o.customOrder.filter (· ≠ "")).map fun order => expandOrder o.caseFirst order.toList
  ignored := (o.ignored.getD "").toList
  ignoreCase := o.caseFirst = .either

def ofOptions (o : CollationOptions) (direction : Direction) : KeyOrder :=
  withCollate o.collate o direction

/-- The place of a character in a custom order. -/
def place? (k : KeyOrder) (order : List Char) (c : Char) : Option Nat :=
  let c := if k.ignoreCase then lowerFirst c else c
  order.findIdx? (· == c)

/-- The comparison by a custom order.  Characters that are not both in it are collated; `none`
means that it does not decide. -/
def customCompare (k : KeyOrder) (order : List Char) : Text → Text → Option Ordering
  | x :: xs, y :: ys =>
      match k.place? order x, k.place? order y with
      | some i, some j =>
          if i ≠ j then some (compare i j)
          else if xs.isEmpty || ys.isEmpty then some (compare xs.length ys.length)
          else customCompare k order xs ys
      | _, _ =>
          match k.collate [x] [y] with
          | .eq => customCompare k order xs ys
          | o => some o
  | _, _ => none

/-- A key without the characters that do not count. -/
def reduce (k : KeyOrder) (t : Text) : Text := t.filter fun c => !k.ignored.contains c

/-- The comparison of keys.  At random all keys are equal. -/
def compare (k : KeyOrder) (a b : Text) : Ordering :=
  if k.direction = .rand then .eq
  else
    let a := k.reduce a
    let b := k.reduce b
    let custom := k.customOrder.bind fun order => k.customCompare order a b
    k.direction.apply (custom.getD (k.collate a b))

end KeyOrder

end BlockOrder
