import BlockOrder.Buffer
import BlockOrder.CommandLine.Arguments
import BlockOrder.Config.Format
import BlockOrder.Data.Yaml
import BlockOrder.Session

/-!
# Running a command

A command reads a file and possibly a configuration, sorts the file or follows its directives,
and prints the result or writes it back.
-/

namespace BlockOrder.CommandLine

/-- Why a command that can be followed fails. -/
inductive RunError where
  | unreadableFile (path : String)
  | unreadableConfig (path : String)
  | invalidConfig (path : String)
  | lineBeyondEnd (line count : Nat)
  | cancelled
  | inconsistent (e : Inconsistent)
deriving DecidableEq

namespace RunError

def message : RunError → String
  | unreadableFile path => "failed to read " ++ path
  | unreadableConfig path => "failed to read config " ++ path
  | invalidConfig path => "invalid config " ++ path
  | lineBeyondEnd line count =>
      "line " ++ toString line ++ " is past the end of the file (" ++ toString count ++ " lines)"
  | cancelled => "sort was cancelled"
  | inconsistent e => e.message

/-- Keys that compare inconsistently are no error that is reported: the command breaks off. -/
def exitCode : RunError → Nat
  | inconsistent _ => 101
  | _ => 1

def complaint : RunError → String
  | inconsistent e => e.message
  | e => "Error: " ++ e.message

end RunError

/-- What comes of a command: what it prints, the complaint it prints, the file it writes, and its
exit code. -/
structure Outcome where
  exitCode : Nat
  output : Text := []
  complaint : Option String := none
  written : Option (String × Text) := none

def fileName (path : Text) : Text := (path.reverse.takeWhile (· != '/')).reverse

/-- The extension of a path: what follows the last dot of its last component, unless nothing
comes before that dot. -/
def extension? (path : Text) : Option Text :=
  let name := fileName path
  let extension := (name.reverse.takeWhile (· != '.')).reverse
  if name.length ≤ extension.length + 1 || name = "..".toList then none else some extension

def languageOf (path : String) : String :=
  match extension? path.toList with
  | some extension => Language.ofExtension (String.ofList extension)
  | none => "plaintext"

def loadConfig (read? : String → Option Text) (path : String) : Except RunError Config :=
  match read? path with
  | none => throw (.unreadableConfig path)
  | some t =>
      match (Data.Yaml.parse? t).bind (Config.read .file) with
      | some c => return c
      | none => throw (.invalidConfig path)

/-- The selection that the arguments name, and how far it grows. -/
def selection (a : Arguments) (c : Config) (d : Document) : Except RunError (Range × Expansion) :=
  match a.lines, a.line with
  | some (first, last), _ =>
      if d.lastLine < first - 1 then throw (.lineBeyondEnd first (d.lastLine + 1))
      else return (.lines (first - 1) (last - 1), c.expandSelection)
  | none, some line =>
      if d.lastLine < line - 1 then throw (.lineBeyondEnd line (d.lastLine + 1))
      else return (.caret (.ofOffset (line - 1) 0), c.expandCursor)
  | none, none => return (d.whole, .disabled)

/-- The options for the sorting that the arguments ask for. -/
def sortOptions (a : Arguments) (s : Session) (expansion : Expansion) : SortOptions :=
  let base :=
    match a.depth with
    | some depth => { s.sortOptions a.direction with depth := .ofInt depth }
    | none => s.multilevelOptions a.direction
  { base with skipParents := a.skipParents, expansion, seed := a.seed.map UInt64.ofNat }

def edits (a : Arguments) (s : Session) (d : Document) : Except RunError (List Edit) :=
  if a.format then (s.formatEdits d none false).1.mapError .inconsistent
  else do
    let (range, expansion) ← selection a s.config d
    match (s.sortEdit d (sortOptions a s expansion) range .none false).1 with
    | .ok (some edit, _) => return [edit]
    | .ok (none, _) => throw .cancelled
    | .error e => throw (.inconsistent e)

/-- The buffer after edits have been made from the bottom up. -/
def applyEdits (b : Buffer) (edits : List Edit) : Buffer :=
  (sortBy (fun x y => decide (y.range.start ≤ x.range.start)) edits).foldl Buffer.edit b

/-- The text of the file after the command. -/
def sorted (read? : String → Option Text) (a : Arguments) : Except RunError Text := do
  match read? a.file with
  | none => throw (.unreadableFile a.file)
  | some t =>
      let config ←
        match a.config with
        | some path => loadConfig read? path
        | none => pure {}
      let language := a.language.getD (languageOf a.file)
      let buffer := Buffer.load t language
      let edits ← edits a (Session.start config language) buffer.document
      return (applyEdits buffer edits).saved

/-- What comes of a command line.  `read?` gives the text of a file, if there is such a file and
it holds text. -/
def run (read? : String → Option Text) (arguments : List String) : Outcome :=
  match parseArguments arguments with
  | .error e => { exitCode := e.exitCode, complaint := e.message? }
  | .ok a =>
      match sorted read? a with
      | .error e => { exitCode := e.exitCode, complaint := some e.complaint }
      | .ok t =>
          if a.inPlace then { exitCode := 0, written := some (a.file, t) }
          else { exitCode := 0, output := t }

end BlockOrder.CommandLine
