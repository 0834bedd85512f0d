import BlockOrder.Config.Basic
import BlockOrder.Data.Reader

/-!
# Configurations as data

The form in which configurations are written down.  Writing gives every field; in reading every
field may be missing, unless a definition makes no sense without it, and unknown fields do not
matter.
-/

namespace BlockOrder

open Data (Reader ofOption)

namespace Delimiters

def toData (d : Delimiters) : Data := .record [
  ("start", .string d.start),
  ("end", ofOption .string d.stop),
  ("escape", ofOption (fun c => .string (String.singleton c)) d.escape)]

/-- The names of the fields, in their order. -/
def fieldNames : List String := ["start", "end", "escape"]

/-- Reads a definition; only the start must be there. -/
def read : Reader Delimiters := fun form d => do
  if !Reader.hasFields form fieldNames d then none
  let start ← Reader.required form d 0 "start" Reader.string
  let stop ← Reader.fieldOr none form d 1 "end" (Reader.optional Reader.string)
  let escape ← Reader.fieldOr none form d 2 "escape" (Reader.optional Reader.char)
  return { start, stop, escape }

end Delimiters

namespace FoldMarker

def toData (m : FoldMarker) : Data := .record [
  ("start", .string m.start),
  ("end", .string m.stop),
  ("priority", .int m.priority.toInt),
  ("abortOn", ofOption .string m.abortOn)]

/-- The names of the fields, in their order. -/
def fieldNames : List String := ["start", "end", "priority", "abortOn"]

/-- Reads a pair of brackets; start and end must be there. -/
def read : Reader FoldMarker := fun form d => do
  if !Reader.hasFields form fieldNames d then none
  let start ← Reader.required form d 0 "start" Reader.string
  let stop ← Reader.required form d 1 "end" Reader.string
  let priority ← Reader.fieldOr 0 form d 2 "priority" Reader.int32
  let abortOn ← Reader.fieldOr none form d 3 "abortOn" (Reader.optional Reader.string)
  return { start, stop, priority, abortOn }

end FoldMarker

namespace LanguageMarkers

def toData (m : LanguageMarkers) : Data := .record [
  ("comments", .list (m.comments.map Delimiters.toData)),
  ("strings", .list (m.strings.map Delimiters.toData)),
  ("decorators", .list (m.decorators.map .string))]

/-- The names of the fields, in their order. -/
def fieldNames : List String := ["comments", "strings", "decorators"]

def read : Reader LanguageMarkers := fun form d => do
  if !Reader.hasFields form fieldNames d then none
  let comments ← Reader.fieldOr [] form d 0 "comments" (Reader.list Delimiters.read)
  let strings ← Reader.fieldOr [] form d 1 "strings" (Reader.list Delimiters.read)
  let decorators ← Reader.fieldOr [] form d 2 "decorators" (Reader.list Reader.string)
  return { comments, strings, decorators }

end LanguageMarkers

namespace CaseFirst

def toWord : CaseFirst → String
  | upper => "upper"
  | lower => "lower"
  | either => "false"

def ofWord? : String → Option CaseFirst
  | "upper" => some upper
  | "lower" => some lower
  | "false" => some either
  | _ => none

end CaseFirst

namespace Sensitivity

def toWord : Sensitivity → String
  | base => "base"
  | accent => "accent"
  | case => "case"
  | variant => "variant"

def ofWord? : String → Option Sensitivity
  | "base" => some base
  | "accent" => some accent
  | "case" => some case
  | "variant" => some variant
  | _ => none

end Sensitivity

namespace CollationOptions

def toData (o : CollationOptions) : Data := .record [
  ("locales", ofOption .string o.locales),
  ("numeric", .bool o.numeric),
  ("caseFirst", .string o.caseFirst.toWord),
  ("sensitivity", .string o.sensitivity.toWord),
  ("customSortOrder", ofOption .string o.customOrder),
  ("customIgnoreCharacters", ofOption .string o.ignored)]

/-- The names of the fields, in their order. -/
def fieldNames : List String := [
  "locales", "numeric", "caseFirst", "sensitivity", "customSortOrder", "customIgnoreCharacters"]

def read : Reader CollationOptions := fun form d => do
  if !Reader.hasFields form fieldNames d then none
  let text := Reader.optional Reader.string
  let locales ← Reader.fieldOr none form d 0 "locales" text
  let numeric ← Reader.fieldOr true form d 1 "numeric" Reader.bool
  let caseFirst ← Reader.fieldOr .either form d 2 "caseFirst" (Reader.word CaseFirst.ofWord?)
  let sensitivity ← Reader.fieldOr .base form d 3 "sensitivity" (Reader.word Sensitivity.ofWord?)
  let customOrder ← Reader.fieldOr none form d 4 "customSortOrder" text
  let ignored ← Reader.fieldOr none form d 5 "customIgnoreCharacters" text
  return { locales, numeric, caseFirst, sensitivity, customOrder, ignored }

end CollationOptions

namespace Growth

def toData (g : Growth) : Data := .record [
  ("expandLocally", .bool g.locally),
  ("expandOverEmptyLines", .bool g.overEmptyLines),
  ("foldingComplete", .bool g.foldingComplete),
  ("indentationComplete", .bool g.indentationComplete)]

/-- The names of the fields, in their order. -/
def fieldNames : List String := [
  "expandLocally", "expandOverEmptyLines", "foldingComplete", "indentationComplete"]

def read : Reader Growth := fun form d => do
  if !Reader.hasFields form fieldNames d then none
  let locally ← Reader.fieldOr false form d 0 "expandLocally" Reader.bool
  let overEmptyLines ← Reader.fieldOr false form d 1 "expandOverEmptyLines" Reader.bool
  let foldingComplete ← Reader.fieldOr false form d 2 "foldingComplete" Reader.bool
  let indentationComplete ← Reader.fieldOr false form d 3 "indentationComplete" Reader.bool
  return { locally, overEmptyLines, foldingComplete, indentationComplete }

end Growth

namespace Expansion

/-- The choice as data: a truth value, or a record of reasons. -/
def toData : Expansion → Data
  | disabled => .bool false
  | full => .bool true
  | custom g => g.toData

/-- Reads the choice.  The reasons can always be given as a list, and never by a value that is not
there. -/
def read : Reader Expansion := fun form d =>
  match Reader.bool form d with
  | some false => some disabled
  | some true => some full
  | none =>
      if form = .json || Reader.givesOnce Growth.fieldNames d then
        (Growth.read .json d).map custom
      else none

end Expansion

namespace Config

def mapData {α : Type} (write : α → Data) (m : SortedMap α) : Data :=
  .record (m.entries.map fun e => (e.1, write e.2))

/-- Reads a sorted map; of several fields with the same name the last one counts. -/
def readMap {α : Type} (read : Reader α) : Reader (SortedMap α) := fun form d =>
  (Reader.fields read form d).map SortedMap.ofList

def toData (c : Config) : Data := .record [
  ("tabSize", .int c.tabSize.toNat),
  ("indentIgnoreMarkers", .list (c.indentIgnoreMarkers.map .string)),
  ("completeBlockMarkers", .list (c.completeBlockMarkers.map .string)),
  ("foldingMarkers", mapData (ofOption FoldMarker.toData) c.foldMarkers),
  ("incompleteBlockRegex", ofOption .string c.incompleteBlock),
  ("multiBlockHeaderRegex", ofOption .string c.multiBlockHeader),
  ("forceBlockHeaderFirstRegex", ofOption .string c.forceFirst),
  ("forceBlockHeaderLastRegex", ofOption .string c.forceLast),
  ("sortConsecutiveBlockHeaders", .bool c.sortHeaders),
  ("keepAppendedNewlines", .bool c.keepNewlines),
  ("defaultMultilevelDepth", .int c.defaultDepth.toInt),
  ("defaultSkipParents", .int c.skipParents.toNat),
  ("expandCursor", c.expandCursor.toData),
  ("expandSelection", c.expandSelection.toData),
  ("collatorOptions", c.collation.toData),
  ("separatorCharacters", .string c.separators),
  ("languages", mapData LanguageMarkers.toData c.languages)]

/-- The names of the fields, in their order. -/
def fieldNames : List String := [
  "tabSize", "indentIgnoreMarkers", "completeBlockMarkers", "foldingMarkers",
  "incompleteBlockRegex", "multiBlockHeaderRegex", "forceBlockHeaderFirstRegex",
  "forceBlockHeaderLastRegex", "sortConsecutiveBlockHeaders", "keepAppendedNewlines",
  "defaultMultilevelDepth", "defaultSkipParents", "expandCursor", "expandSelection",
  "collatorOptions", "separatorCharacters", "languages"]

def read : Reader Config := fun form d => do
  if !Reader.hasFields form fieldNames d then none
  let base : Config := {}
  let text := Reader.optional Reader.string
  let texts := Reader.list Reader.string
  let tabSize ← Reader.fieldOr base.tabSize form d 0 "tabSize" Reader.word64
  let indentIgnoreMarkers ← Reader.fieldOr [] form d 1 "indentIgnoreMarkers" texts
  let completeBlockMarkers ← Reader.fieldOr [] form d 2 "completeBlockMarkers" texts
  let foldMarkers ←
    Reader.fieldOr .empty form d 3 "foldingMarkers" (readMap (Reader.optional FoldMarker.read))
  let incompleteBlock ← Reader.fieldOr none form d 4 "incompleteBlockRegex" text
  let multiBlockHeader ← Reader.fieldOr none form d 5 "multiBlockHeaderRegex" text
  let forceFirst ← Reader.fieldOr none form d 6 "forceBlockHeaderFirstRegex" text
  let forceLast ← Reader.fieldOr none form d 7 "forceBlockHeaderLastRegex" text
  let sortHeaders ← Reader.fieldOr true form d 8 "sortConsecutiveBlockHeaders" Reader.bool
  let keepNewlines ← Reader.fieldOr true form d 9 "keepAppendedNewlines" Reader.bool
  let defaultDepth ←
    Reader.fieldOr base.defaultDepth form d 10 "defaultMultilevelDepth" Reader.int64
  let skipParents ← Reader.fieldOr 0 form d 11 "defaultSkipParents" Reader.word64
  let expandCursor ← Reader.fieldOr base.expandCursor form d 12 "expandCursor" Expansion.read
  let expandSelection ←
    Reader.fieldOr base.expandSelection form d 13 "expandSelection" Expansion.read
  let collation ← Reader.fieldOr {} form d 14 "collatorOptions" CollationOptions.read
  let separators ← Reader.fieldOr base.separators form d 15 "separatorCharacters" Reader.string
  let languages ← Reader.fieldOr .empty form d 16 "languages" (readMap LanguageMarkers.read)
  return {
    tabSize, indentIgnoreMarkers, completeBlockMarkers, foldMarkers, incompleteBlock,
    multiBlockHeader, forceFirst, forceLast, sortHeaders, keepNewlines, defaultDepth,
    skipParents, expandCursor, expandSelection, collation, separators, languages }

end Config

end BlockOrder
