import BlockOrder.Text.Basic

/-!
# Configuration errors

What can be wrong with a configuration that can be read.  None of it is fatal: the setting is
passed over or its default is used, and the error is reported.
-/

namespace BlockOrder

/-- A setting that cannot be used. -/
inductive ConfigError where
  /-- A text that is no pattern, with the setting that it belongs to. -/
  | invalidPattern (rule : String) (source : Text)
  /-- An indentation level without columns. -/
  | invalidTabSize (size : Nat)
  /-- A pair of brackets that refers to one that is not there. -/
  | unknownFamily (family key : String)
deriving DecidableEq

namespace ConfigError

def message : ConfigError → String
  | invalidPattern rule source =>
      "invalid regex for " ++ rule ++ ": '" ++ String.ofList source ++ "'"
  | invalidTabSize size => "invalid tab size " ++ toString size ++ ", using 4"
  | unknownFamily family key =>
      "unknown folding family '" ++ key ++ "' referenced by '" ++ family ++ "'"

end ConfigError

abbrev Report := StateM (List ConfigError)

namespace Report

def add (e : ConfigError) : Report Unit := modify (· ++ [e])

end Report

end BlockOrder
