import BlockOrder.Order.KeyOrder
import BlockOrder.Text.Blank
import BlockOrder.Text.BoundedNumeral

/-!
# Command-line arguments

What a command line asks for, and how it is read.  Arguments are taken from left to right.  A
value that stands in an argument of its own is looked at when the next argument has been
recognized, so an argument that is not known is complained about first.
-/

namespace BlockOrder.CommandLine

/-- What a command line asks for. -/
structure Arguments where
  file : String
  config : Option String := none
  language : Option String := none
  /-- The first and the last line to sort, counted from one. -/
  lines : Option (Nat × Nat) := none
  /-- The line to sort around, counted from one. -/
  line : Option Nat := none
  direction : Direction := .asc
  depth : Option Int := none
  skipParents : Nat := 0
  seed : Option Nat := none
  format : Bool := false
  inPlace : Bool := false
  verbose : Bool := false

/-- The options, with and without values. -/
inductive Switch where
  | config
  | language
  | lines
  | line
  | direction
  | depth
  | skipParents
  | seed
  | format
  | inPlace
  | verbose
  | help
deriving DecidableEq

namespace Switch

def takesValue : Switch → Bool
  | format | inPlace | verbose | help => false
  | _ => true

def ofName? : String → Option Switch
  | "config" => some config
  | "language" => some language
  | "lines" => some lines
  | "line" => some line
  | "direction" => some direction
  | "depth" => some depth
  | "skip-parents" => some skipParents
  | "seed" => some seed
  | "format" => some format
  | "in-place" => some inPlace
  | "verbose" => some verbose
  | "help" => some help
  | _ => none

def ofLetter? : Char → Option Switch
  | 'c' => some config
  | 'l' => some language
  | 'd' => some direction
  | 'i' => some inPlace
  | 'v' => some verbose
  | 'h' => some help
  | _ => none

/-- The option and its value as messages name them. -/
def usage : Switch → String
  | config => "--config <PATH>"
  | language => "--language <LANGUAGE>"
  | lines => "--lines <START:END>"
  | line => "--line <N>"
  | direction => "--direction <DIRECTION>"
  | depth => "--depth <DEPTH>"
  | skipParents => "--skip-parents <SKIP_PARENTS>"
  | seed => "--seed <SEED>"
  | format => "--format"
  | inPlace => "--in-place"
  | verbose => "--verbose"
  | help => "--help"

end Switch

/-- Why a command line cannot be followed. -/
inductive UsageError where
  /-- A value is not of the kind that its option takes. -/
  | invalidValue (value : String) (option : Switch) (reason : String)
  /-- An argument is unknown, superfluous, repeated, missing, or in conflict with another. -/
  | misuse
  /-- Help is asked for. -/
  | helpRequested
deriving DecidableEq

namespace UsageError

def message? : UsageError → Option String
  | invalidValue value option reason =>
      some ("error: invalid value '" ++ value ++ "' for '" ++ option.usage ++ "': " ++ reason)
  | _ => none

def exitCode : UsageError → Nat
  | helpRequested => 0
  | _ => 2

end UsageError

/-- The number of a line, counted from one. -/
def lineNumber (value : Text) : Except String Nat :=
  match BoundedNumeral.nat64 value.trim with
  | .ok 0 => .error "line numbers start at 1"
  | .ok n => .ok n
  | .error e => .error ("invalid line number '" ++ String.ofList value ++ "': " ++ e.message)

/-- The text before the first colon, and the text after it. -/
def splitColon? : Text → Option (Text × Text)
  | [] => none
  | ':' :: rest => some ([], rest)
  | c :: rest => (splitColon? rest).map fun (a, b) => (c :: a, b)

/-- The first and the last line of a range. -/
def lineRange (value : Text) : Except String (Nat × Nat) :=
  match splitColon? value with
  | none => .error ("expected START:END, got '" ++ String.ofList value ++ "'")
  | some (a, b) => do
      let first ← lineNumber a
      let last ← lineNumber b
      if last < first then
        throw ("range start " ++ toString first ++ " is after its end " ++ toString last)
      return (first, last)

/-- What has been read of a command line: the arguments, the options that were given, whether
the file was, and an option whose value is still to be looked at. -/
structure Reading where
  arguments : Arguments
  given : List Switch
  hasFile : Bool
  pending : Option (Switch × Option String)

namespace Reading

def start : Reading := ⟨{ file := "" }, [], false, none⟩

/-- The arguments with the value of an option. -/
def assign (a : Arguments) (o : Switch) (value : String) : Except UsageError Arguments :=
  let t := value.toList
  let invalid := fun reason => UsageError.invalidValue value o reason
  match o with
  | .config => if value = "" then throw .misuse else return { a with config := some value }
  | .language => return { a with language := some value }
  | .lines => return { a with lines := some (← (lineRange t).mapError invalid) }
  | .line => return { a with line := some (← (lineNumber t).mapError invalid) }
  | .direction => return { a with direction := ← (Direction.parse value).mapError invalid }
  | .depth =>
      return { a with depth := some (← (BoundedNumeral.int64 t).mapError (invalid ·.message)) }
  | .skipParents =>
      return { a with skipParents := ← (BoundedNumeral.nat64 t).mapError (invalid ·.message) }
  | .seed =>
      return { a with seed := some (← (BoundedNumeral.nat64 t).mapError (invalid ·.message)) }
  | .format => return { a with format := true }
  | .inPlace => return { a with inPlace := true }
  | .verbose => return { a with verbose := true }
  | .help => throw .helpRequested

/-- Takes an option with its value.  No option may be given twice. -/
def accept (r : Reading) (o : Switch) (value : String) : Except UsageError Reading := do
  if r.given.contains o then throw .misuse
  return { r with arguments := ← assign r.arguments o value, given := o :: r.given }

/-- Looks at the value that is still to be looked at. -/
def settle (r : Reading) : Except UsageError Reading :=
  match r.pending with
  | none => return r
  | some (_, none) => throw .misuse
  | some (o, some value) => { r with pending := none }.accept o value

/-- Takes an option whose value, if it has one, is part of the same argument. -/
def acceptNow (r : Reading) (o : Switch) (value : String) : Except UsageError Reading := do
  if o = .help then throw .helpRequested
  (← r.settle).accept o value

def await (r : Reading) (o : Switch) : Except UsageError Reading := do
  return { ← r.settle with pending := some (o, none) }

def isAwaiting (r : Reading) : Bool :=
  match r.pending with
  | some (_, none) => true
  | _ => false

/-- Takes an argument that is no option: the value that an option waits for, or else the file. -/
def plain (r : Reading) (value : String) : Except UsageError Reading :=
  match r.pending with
  | some (o, none) => return { r with pending := some (o, some value) }
  | _ =>
      if r.hasFile then throw .misuse
      else do
        let r ← r.settle
        if value = "" then throw .misuse
        return { r with arguments := { r.arguments with file := value }, hasFile := true }

def trailing (r : Reading) (value : String) : Except UsageError Reading := do
  if r.hasFile then throw .misuse
  (← r.settle).plain value

/-- The name and the value of an option of the form `name=value`. -/
def splitEquals : Text → Text × Option Text
  | [] => ([], none)
  | '=' :: rest => ([], some rest)
  | c :: rest => let (name, value) := splitEquals rest; (c :: name, value)

def long (r : Reading) (t : Text) : Except UsageError Reading :=
  let (name, value) := splitEquals t
  match Switch.ofName? (String.ofList name), value with
  | none, _ => throw .misuse
  | some o, none => if o.takesValue then r.await o else r.acceptNow o ""
  | some o, some value =>
      if o.takesValue then r.acceptNow o (String.ofList value) else throw .misuse

/-- Takes options given by letters.  What follows a letter whose option has a value is that
value. -/
def letters (r : Reading) : Text → Except UsageError Reading
  | [] => return r
  | c :: rest =>
      match Switch.ofLetter? c with
      | none => throw .misuse
      | some o =>
          if o.takesValue then
            match rest with
            | [] => r.await o
            | '=' :: value => r.acceptNow o (String.ofList value)
            | value => r.acceptNow o (String.ofList value)
          else do
            let r ← r.acceptNow o ""
            r.letters rest

/-- Whether digits, at most one point after the first and at most one exponent mark before the
last make up a text. -/
def isNumber : (place : Nat) → (point exponent : Bool) → Text → Bool
  | _, _, _, [] => true
  | place, point, exponent, c :: rest =>
      if isAsciiDigit c then isNumber (place + 1) point exponent rest
      else if c == '.' && !point && !exponent && place != 0 then
        isNumber (place + 1) true exponent rest
      else c == 'e' && !exponent && place != 0 && !rest.isEmpty &&
        isNumber (place + 1) point true rest

/-- Takes one argument.  A negative number is no option where a value or the file may stand. -/
def step (r : Reading) (argument : String) : Except UsageError Reading :=
  match argument.toList with
  | '-' :: '-' :: c :: rest => r.long (c :: rest)
  | '-' :: c :: rest =>
      if isNumber 0 false false (c :: rest) && (r.isAwaiting || !r.hasFile) then r.plain argument
      else r.letters (c :: rest)
  | _ => r.plain argument

/-- Takes all arguments.  After two dashes there are no options. -/
def all (r : Reading) : List String → Except UsageError Reading
  | [] => return r
  | "--" :: rest => rest.foldlM trailing r
  | argument :: rest => do
      let r ← r.step argument
      r.all rest

/-- The arguments, if the file is among them and no options are in conflict. -/
def finish (r : Reading) : Except UsageError Arguments := do
  let r ← r.settle
  let a := r.arguments
  if a.line.isSome && a.lines.isSome then throw .misuse
  if a.format && (a.line.isSome || a.lines.isSome) then throw .misuse
  if !r.hasFile then throw .misuse
  return a

end Reading

def parseArguments (arguments : List String) : Except UsageError Arguments := do
  let r ← Reading.start.all arguments
  r.finish

end BlockOrder.CommandLine
