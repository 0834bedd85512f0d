/-!
# Options

Choices that a configuration offers: how keys are collated, and how far a selection grows before
it is sorted.
-/

namespace BlockOrder

/-- Which case comes first among keys that differ in case only. -/
inductive CaseFirst where
  | upper
  | lower
  /-- Lower case first; a custom order does not look at case. -/
  | either
deriving DecidableEq

/-- Which differences between keys count. -/
inductive Sensitivity where
  | base
  /-- Accents are not taken apart, so this is the same as `base`. -/
  | accent
  | case
  | variant
deriving DecidableEq

/-- How keys are compared. -/
structure CollationOptions where
  /-- Kept, but without effect: keys compare alike in all places. -/
  locales : Option String := none
  /-- Runs of digits compare by value. -/
  numeric : Bool := true
  caseFirst : CaseFirst := .either
  sensitivity : Sensitivity := .base
  /-- Characters in the order in which they sort. -/
  customOrder : Option String := none
  /-- Characters that are left out of keys. -/
  ignored : Option String := none
deriving DecidableEq

/-- Which neighbouring lines a selection takes in; a line is taken in if any enabled reason
applies. -/
structure Growth where
  /-- Lines with content that are indented at least as deep as the selection. -/
  locally : Bool := false
  /-- Lines without content. -/
  overEmptyLines : Bool := false
  /-- Any line, as long as brackets are open. -/
  foldingComplete : Bool := false
  /-- Lines that are indented deeper than the selection. -/
  indentationComplete : Bool := false
deriving DecidableEq

/-- How far a selection grows before it is sorted. -/
inductive Expansion where
  /-- To whole lines with balanced brackets. -/
  | disabled
  /-- For every reason there is. -/
  | full
  /-- For the given reasons. -/
  | custom (g : Growth)
deriving DecidableEq

namespace Expansion

/-- The reasons for which a selection grows beyond balanced brackets. -/
def growth? : Expansion → Option Growth
  | disabled => none
  | full => some ⟨true, true, true, true⟩
  | custom g => some g

end Expansion

end BlockOrder
