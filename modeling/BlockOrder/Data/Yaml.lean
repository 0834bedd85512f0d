import BlockOrder.Data.Yaml.Node

/-!
# Configuration files

A configuration file is a document in YAML, of which JSON is a part.
-/

namespace BlockOrder.Data.Yaml

/-- The data that a file describes.  It holds one document. -/
def parse? (t : Text) : Option Data := do
  let (d, rest) ← document? (← tokens? t)
  if rest.all (· = .documentEnd) then some d else none

end BlockOrder.Data.Yaml
