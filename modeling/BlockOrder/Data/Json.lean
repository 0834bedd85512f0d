import BlockOrder.Data.Basic
import BlockOrder.Text.Basic
import BlockOrder.Text.Numeral

/-!
# JSON

Reading and writing structured data as JSON.  A number is an integer only if it is written as
one: `4.0`, `1e2` and `-0` are not.
-/

namespace BlockOrder.Data

namespace Json

def skipBlanks (t : Text) : Text :=
  t.dropWhile fun c => c == ' ' || c == '\n' || c == '\r' || c == '\t'

/-- The code unit that four hexadecimal digits give. -/
def unit? (t : Text) : Option (Nat × Text) :=
  if (t.take 4).length = 4 then (hexadecimal? (t.take 4)).map fun n => (n, t.drop 4) else none

/-- The character of an escape that starts with `\u`: one code unit or a surrogate pair. -/
def unicodeEscape? (t : Text) : Option (Char × Text) := do
  let (high, rest) ← unit? t
  if 0xD800 ≤ high && high < 0xDC00 then
    match rest with
    | '\\' :: 'u' :: more =>
        let (low, more) ← unit? more
        if 0xDC00 ≤ low && low < 0xE000 then
          return (← charOfCode? (0x10000 + (high - 0xD800) * 0x400 + (low - 0xDC00)), more)
        else none
    | _ => none
  else return (← charOfCode? high, rest)

/-- The characters of a string up to its closing quote. -/
def stringBody? : (fuel : Nat) → Text → Option (Text × Text)
  | 0, _ => none
  | _, [] => none
  | _ + 1, '"' :: rest => some ([], rest)
  | fuel + 1, '\\' :: c :: rest =>
      let plain := fun (x : Char) => (stringBody? fuel rest).map fun (t, more) => (x :: t, more)
      match c with
      | '"' => plain '"'
      | '\\' => plain '\\'
      | '/' => plain '/'
      | 'b' => plain '\x08'
      | 'f' => plain '\x0c'
      | 'n' => plain '\n'
      | 'r' => plain '\r'
      | 't' => plain '\t'
      | 'u' => do
          let (x, rest) ← unicodeEscape? rest
          let (t, more) ← stringBody? fuel rest
          return (x :: t, more)
      | _ => none
  | fuel + 1, c :: rest =>
      if c.toNat < 0x20 || c == '\\' then none
      else (stringBody? fuel rest).map fun (t, more) => (c :: t, more)

def number? (t : Text) : Option (Data × Text) :=
  let isPart := fun c : Char =>
    isAsciiDigit c || c == '-' || c == '+' || c == '.' || c == 'e' || c == 'E'
  let word := t.takeWhile isPart
  let rest := t.dropWhile isPart
  let (negative, digits) :=
    match word with
    | '-' :: digits => (true, digits)
    | _ => (false, word)
  let whole := digits.takeWhile isAsciiDigit
  let tail := digits.dropWhile isAsciiDigit
  if whole.isEmpty || (whole.length > 1 && whole.head? == some '0') then none
  else if tail.isEmpty then
    match decimal? whole with
    | none => none
    | some n =>
        if negative && n == 0 then some (.real "-0", rest)
        else some (.int (if negative then -n else n), rest)
  else
    let exponent? := fun e : Text =>
      let e := match e with
        | '+' :: e => e
        | '-' :: e => e
        | e => e
      !e.isEmpty && e.all isAsciiDigit
    let ok :=
      match tail with
      | '.' :: more =>
          let fraction := more.takeWhile isAsciiDigit
          match more.dropWhile isAsciiDigit with
          | [] => !fraction.isEmpty
          | c :: e => !fraction.isEmpty && (c == 'e' || c == 'E') && exponent? e
      | c :: e => (c == 'e' || c == 'E') && exponent? e
      | [] => true
    if ok then some (.real (String.ofList word), rest) else none

/-- The value of a word with a fixed meaning. -/
def word? (t : Text) : Option (Data × Text) :=
  match Text.after? "null".toList t, Text.after? "true".toList t, Text.after? "false".toList t with
  | some rest, _, _ => some (.null, rest)
  | _, some rest, _ => some (.bool true, rest)
  | _, _, some rest => some (.bool false, rest)
  | _, _, _ => none

mutual

def value? : (fuel : Nat) → Text → Option (Data × Text)
  | 0, _ => none
  | fuel + 1, t =>
      match skipBlanks t with
      | [] => none
      | '"' :: rest =>
          (stringBody? (rest.length + 1) rest).map fun (s, more) =>
            (.string (String.ofList s), more)
      | '[' :: rest =>
          match skipBlanks rest with
          | ']' :: more => some (.list [], more)
          | _ => items? fuel [] rest
      | '\x7b' :: rest =>
          match skipBlanks rest with
          | '\x7d' :: more => some (.record [], more)
          | _ => fields? fuel [] rest
      | c :: rest => if c == '-' || isAsciiDigit c then number? (c :: rest) else word? (c :: rest)

/-- The items of a list after those read, last first, up to the closing bracket. -/
def items? : (fuel : Nat) → List Data → Text → Option (Data × Text)
  | 0, _, _ => none
  | fuel + 1, read, t => do
      let (item, rest) ← value? fuel t
      match skipBlanks rest with
      | ',' :: more => items? fuel (item :: read) more
      | ']' :: more => return (.list (item :: read).reverse, more)
      | _ => none

/-- The fields of a record after those read, last first, up to the closing brace. -/
def fields? : (fuel : Nat) → List (String × Data) → Text → Option (Data × Text)
  | 0, _, _ => none
  | fuel + 1, read, t =>
      match skipBlanks t with
      | '"' :: rest => do
          let (name, rest) ← stringBody? (rest.length + 1) rest
          match skipBlanks rest with
          | ':' :: rest =>
              let (value, rest) ← value? fuel rest
              let read := (String.ofList name, value) :: read
              match skipBlanks rest with
              | ',' :: more => fields? fuel read more
              | '\x7d' :: more => return (.record read.reverse, more)
              | _ => none
          | _ => none
      | _ => none

end

/-- The data that a whole text describes.  Every value takes at least one character, so twice
the length of the text is fuel enough. -/
def parse? (t : Text) : Option Data :=
  match value? (2 * t.length + 2) t with
  | some (d, rest) => if (skipBlanks rest).isEmpty then some d else none
  | none => none

def hexDigit (n : Nat) : Char := if n < 10 then Char.ofNat (48 + n) else Char.ofNat (87 + n)

/-- The lowest hexadecimal digits of a number, `width` of them. -/
def hexDigits : (width : Nat) → Nat → Text
  | 0, _ => []
  | width + 1, n => hexDigits width (n / 16) ++ [hexDigit (n % 16)]

def escaped (c : Char) : Text :=
  match c with
  | '"' => ['\\', '"']
  | '\\' => ['\\', '\\']
  | '\x08' => ['\\', 'b']
  | '\x0c' => ['\\', 'f']
  | '\n' => ['\\', 'n']
  | '\r' => ['\\', 'r']
  | '\t' => ['\\', 't']
  | c => if c.toNat < 0x20 then '\\' :: 'u' :: hexDigits 4 c.toNat else [c]

def quoted (s : String) : String := String.ofList ('"' :: s.toList.flatMap escaped ++ ['"'])

mutual

def render : Data → String
  | .null => "null"
  | .bool b => if b then "true" else "false"
  | .int n => toString n
  | .real written => written
  | .string s => quoted s
  | .plain word => quoted word
  | .list items => "[" ++ ",".intercalate (renderItems items) ++ "]"
  | .record fields => "\x7b" ++ ",".intercalate (renderFields fields) ++ "\x7d"
  | .unreadable => "\x7b\x7d"

def renderItems : List Data → List String
  | [] => []
  | d :: rest => render d :: renderItems rest

def renderFields : List (String × Data) → List String
  | [] => []
  | (name, d) :: rest => (quoted name ++ ":" ++ render d) :: renderFields rest

end

end Json

end BlockOrder.Data
