import BlockOrder.Text.Numeral
import BlockOrder.Pattern.Assertion
import BlockOrder.Pattern.Property

/-!
# Escapes

What a backslash and the characters after it stand for in a written pattern.
-/

namespace BlockOrder.Pattern

/-- A reference to a numbered group. -/
inductive Reference where
  /-- The group with a number. -/
  | number (n : Nat)
  /-- The group with a name, or with a number written like a name. -/
  | name (t : Text)
  /-- The group a number of openings back. -/
  | back (n : Nat)
  /-- The group a number of openings on. -/
  | on (n : Nat)

/-- The meaning of an escape. -/
inductive Escape where
  | char (c : Char)
  | set (s : CharSet)
  | condition (a : Assertion)
  | again (r : Reference)
  /-- The rest of the text is newlines. -/
  | lastNewlines
  | restart
  | resume

namespace Escape

/-- The text up to the first occurrence of a character, and what follows that. -/
def until? (stop : Char) : Text → Option (Text × Text)
  | [] => none
  | c :: rest =>
      if c = stop then some ([], rest)
      else (until? stop rest).map fun (t, more) => (c :: t, more)

/-- The character with the code that a hexadecimal escape gives: `size` digits, or up to eight of
them in braces. -/
def hex? (size : Nat) (t : Text) : Option (Char × Text) :=
  let digits := t.take size
  match (if digits.length = size then hexadecimal? digits else none), t with
  | some code, _ => (charOfCode? code).map fun c => (c, t.drop size)
  | none, '\x7b' :: rest => do
      let (inside, more) ← until? '\x7d' rest
      if 8 < inside.length then none
      else return (← charOfCode? (← hexadecimal? inside), more)
  | none, _ => none

/-- The characters that names of groups are made of. -/
def isNameChar (c : Char) : Bool := isAlphanumeric c || c == '_'

/-- A name of a group, which ends before `stop`. -/
def groupName? (stop : Char) (t : Text) : Option (Text × Text) :=
  let name := t.takeWhile isNameChar
  match t.dropWhile isNameChar with
  | c :: rest => if c = stop && !name.isEmpty then some (name, rest) else none
  | [] => none

/-- A reference between delimiters, which ends before `stop`. -/
def reference? (stop : Char) : Text → Option (Reference × Text)
  | '-' :: rest => do
      let (digits, more) ← groupName? stop rest
      return (.back (← decimal? digits), more)
  | '+' :: rest => do
      let (digits, more) ← groupName? stop rest
      return (.on (← decimal? digits), more)
  | t => (groupName? stop t).map fun (name, more) => (.name name, more)

/-- The condition that a name in braces after `\b` stands for. -/
def boundary? (name : String) : Option Assertion :=
  match name with
  | "start" => some .wordStart
  | "end" => some .wordEnd
  | "start-half" => some .noWordBefore
  | "end-half" => some .noWordAfter
  | _ => none

def hexDigits : CharSet := .union (.range '0' '9') (.union (.range 'a' 'f') (.range 'A' 'F'))

/-- The set that an escape letter stands for. -/
def set? : Char → Option CharSet
  | 'd' => some .digits
  | 'D' => some (.compl .digits)
  | 's' => some .blanks
  | 'S' => some (.compl .blanks)
  | 'w' => some .words
  | 'W' => some (.compl .words)
  | 'h' => some hexDigits
  | 'H' => some (.compl hexDigits)
  | _ => none

/-- The set that a property stands for: one letter, or a query in braces. -/
def property? : Text → Option (CharSet × Text)
  | '\x7b' :: rest => do
      let (query, more) ← until? '\x7d' rest
      return (← CharSet.property? query, more)
  | c :: rest => (CharSet.ofName? (CharSet.normalName [c])).map fun s => (s, rest)
  | [] => none

/-- The control character that an escape letter stands for. -/
def control? : Char → Option Char
  | 'n' => some '\n'
  | 'r' => some '\r'
  | 't' => some '\t'
  | 'f' => some '\x0c'
  | 'v' => some '\x0b'
  | 'a' => some '\x07'
  | 'e' => some '\x1b'
  | _ => none

/-- The character or set that an escape stands for everywhere. -/
def common? : Text → Option (Escape × Text)
  | [] => none
  | 'x' :: rest => (hex? 2 rest).map fun (c, more) => (char c, more)
  | 'u' :: rest => (hex? 4 rest).map fun (c, more) => (char c, more)
  | 'U' :: rest => (hex? 8 rest).map fun (c, more) => (char c, more)
  | 'p' :: rest => (property? rest).map fun (s, more) => (set s, more)
  | 'P' :: rest => (property? rest).map fun (s, more) => (set (.compl s), more)
  | c :: rest =>
      match set? c, control? c with
      | some s, _ => some (set s, rest)
      | none, some x => some (char x, rest)
      | none, none => if isAsciiLetter c || isAsciiDigit c then none else some (char c, rest)

/-- The escape in a bracketed set after its backslash. -/
def inSet? : Text → Option (Escape × Text)
  | 'b' :: rest => some (char '\x08', rest)
  | c :: rest =>
      if "kAzBKG".toList.contains c then some (char c, rest) else common? (c :: rest)
  | [] => none

def wordBoundary? : Text → Option (Escape × Text)
  | '\x7b' :: rest => do
      let (name, more) ← until? '\x7d' rest
      return (condition (← boundary? (String.ofList name)), more)
  | rest => some (condition .wordBoundary, rest)

/-- The escape after its backslash.  Numbers of groups lie below `limit`. -/
def read? (limit : Nat) : Text → Option (Escape × Text)
  | [] => none
  | 'b' :: rest => wordBoundary? rest
  | 'B' :: rest => some (condition .noWordBoundary, rest)
  | 'A' :: rest => some (condition .textStart, rest)
  | 'z' :: rest => some (condition .textEnd, rest)
  | 'Z' :: rest => some (lastNewlines, rest)
  | '<' :: rest => some (condition .wordStart, rest)
  | '>' :: rest => some (condition .wordEnd, rest)
  | 'K' :: rest => some (restart, rest)
  | 'G' :: rest => some (resume, rest)
  | 'O' :: rest => some (set .everything, rest)
  | 'k' :: '<' :: rest => (reference? '>' rest).map fun (r, more) => (again r, more)
  | 'k' :: '\'' :: rest => (reference? '\'' rest).map fun (r, more) => (again r, more)
  | c :: rest =>
      if isAsciiDigit c then do
        let n ← decimal? (c :: rest.takeWhile isAsciiDigit)
        if n < limit then some (again (.number n), rest.dropWhile isAsciiDigit) else none
      else common? (c :: rest)

end Escape

end BlockOrder.Pattern
