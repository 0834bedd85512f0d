import BlockOrder.Data.Basic
import BlockOrder.Text.Basic
import BlockOrder.Text.Numeral

/-!
# Reading structured data

Readers turn data into values of other types; `none` means that the data does not have the form
asked for.  Types are taken strictly: a number is no text and a text is no number.  Only a plain
scalar is whatever it can be read as.
-/

namespace BlockOrder.Data

/-- How data was written down.  In JSON a list can stand for the fields of a record in their
order, and a record with one field for a word.  In a configuration file it cannot, no field may be
given twice, and a value that is not there is an empty record. -/
inductive Form where
  | json
  | file
deriving DecidableEq

abbrev Reader (α : Type) := Form → Data → Option α

namespace Reader

/-- The value of a nonempty numeral in a base up to ten. -/
def numeralIn? (base : Nat) : Text → Option Nat
  | [] => none
  | digits => numeralFrom (fun c => (digitValue? c).filter (· < base)) base 0 digits

/-- The value of a numeral without sign: decimal without leading zeros, or in the base that its
first two characters name. -/
def unsigned? (digits : Text) : Option Nat :=
  match digits with
  | '0' :: 'x' :: rest => hexadecimal? rest
  | '0' :: 'o' :: rest => numeralIn? 8 rest
  | '0' :: 'b' :: rest => numeralIn? 2 rest
  | '0' :: _ :: _ => none
  | _ => decimal? digits

/-- The value of a plain word as an integer: a numeral with an optional sign. -/
def plainInt? (word : String) : Option Int :=
  match word.toList with
  | '-' :: digits => (unsigned? digits).map fun n => -(n : Int)
  | '+' :: digits => (unsigned? digits).map Int.ofNat
  | digits => (unsigned? digits).map Int.ofNat

/-- The value of a plain word as a natural number: a numeral, possibly after a plus sign. -/
def plainNat? (word : String) : Option Nat :=
  match word.toList with
  | '+' :: digits => unsigned? digits
  | digits => unsigned? digits

def bool : Reader Bool
  | _, .bool b => some b
  | _, .plain word =>
      if ["true", "True", "TRUE"].contains word then some true
      else if ["false", "False", "FALSE"].contains word then some false
      else none
  | _, _ => none

def int : Reader Int
  | _, .int n => some n
  | _, .plain word => plainInt? word
  | _, _ => none

def nat : Reader Nat
  | _, .int n => if 0 ≤ n then some n.toNat else none
  | _, .plain word => plainNat? word
  | _, _ => none

/-- An integer from 0 to 2^64 - 1. -/
def word64 : Reader UInt64 := fun form d => do
  let n ← nat form d
  if n < 0x10000000000000000 then some (UInt64.ofNat n) else none

/-- An integer from -2^63 to 2^63 - 1. -/
def int64 : Reader Int64 := fun form d => do
  let n ← int form d
  if -0x8000000000000000 ≤ n ∧ n < 0x8000000000000000 then some (Int64.ofInt n) else none

/-- An integer from -2^31 to 2^31 - 1. -/
def int32 : Reader Int32 := fun form d => do
  let n ← int form d
  if -0x80000000 ≤ n ∧ n < 0x80000000 then some (Int32.ofInt n) else none

def string : Reader String
  | _, .string s => some s
  | _, .plain word => some word
  | _, _ => none

def char : Reader Char := fun form d => do
  match (← string form d).toList with
  | [c] => some c
  | _ => none

def isNull : Data → Bool
  | .null => true
  | .plain word => ["", "~", "null", "Null", "NULL"].contains word
  | _ => false

def optional {α : Type} (read : Reader α) : Reader (Option α) := fun form d =>
  if isNull d then some none else (read form d).map some

def list {α : Type} (read : Reader α) : Reader (List α)
  | form, .list items => items.mapM (read form)
  | _, .plain "" => some []
  | _, _ => none

/-- The fields of a record, all read alike. -/
def fields {α : Type} (read : Reader α) : Reader (List (String × α))
  | form, .record entries => entries.mapM fun e => (read form e.2).map fun v => (e.1, v)
  | _, .plain "" => some []
  | _, _ => none

/-- One of several words.  In JSON a record whose only field has such a name and no value counts
as the word. -/
def word {α : Type} (value? : String → Option α) : Reader α
  | .json, .record [(name, d)] => if isNull d then value? name else none
  | form, d => (string form d).bind value?

/-- Whether a record gives none of the named fields twice. -/
def givesOnce (names : List String) : Data → Bool
  | .record entries => names.all fun name => (entries.filter (·.1 == name)).length ≤ 1
  | _ => true

/-- Whether the data has the form of a record with the given fields. -/
def hasFields (form : Form) (names : List String) (d : Data) : Bool :=
  match form, d with
  | .json, .record _ => true
  | .json, .list items => items.length ≤ names.length
  | .file, .record _ => givesOnce names d
  | .file, .plain word => word.isEmpty
  | _, _ => false

/-- The field with a given place and name. -/
def slot? (place : Nat) (name : String) : Data → Option Data
  | .list items => items[place]?
  | d => d.field? name

def required {α : Type} (form : Form) (d : Data) (place : Nat) (name : String)
    (read : Reader α) : Option α :=
  (slot? place name d).bind (read form)

/-- A field with a value for when it is not there. -/
def fieldOr {α : Type} (fallback : α) (form : Form) (d : Data) (place : Nat) (name : String)
    (read : Reader α) : Option α :=
  match slot? place name d with
  | none => some fallback
  | some v => read form v

end Reader

/-- The data for a value that may be missing. -/
def ofOption {α : Type} (write : α → Data) : Option α → Data
  | none => .null
  | some v => write v

end BlockOrder.Data
