import BlockOrder.Pattern.Parser
import BlockOrder.Pattern.Plan
import BlockOrder.Pattern.Search

/-!
# Compiling patterns

From the text of a pattern to a matcher.
-/

namespace BlockOrder.Matcher

/-- The matcher of the pattern that a text describes, if it describes one. -/
def ofSource? (source : Text) : Option Matcher := do (← Pattern.parse? source).matcher?

end BlockOrder.Matcher
