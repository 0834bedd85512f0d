import BlockOrder.Language.Markers

/-!
# Default patterns

The patterns in force where the configuration gives none.
-/

namespace BlockOrder.Defaults

/-- The key of the pair of curly braces. -/
def curlyBraces : String := "\x7b\x7d"

/-- The brackets that nest: parentheses, square brackets, curly braces, and angle brackets that
are not part of an arrow.  Curly braces come last, and an angle bracket does not count on a line
on which a curly brace opens. -/
def foldMarkers : SortedMap FoldMarker := .ofList [
  ("()", { start := "\\(", stop := "\\)" }),
  ("[]", { start := "\\[", stop := "\\]" }),
  (curlyBraces, { start := "\\\x7b", stop := "\\\x7d", priority := 100 }),
  ("<>", { start := "<", stop := "(?<![=\\-])>", abortOn := some curlyBraces })]

/-- What closes a block: a curly brace or a closing tag. -/
def completeBlockMarkers : List String := [
  "\\\x7d",
  "</[a-zA-Z0-9\\-_=\\s]+>?"]

/-- What does not decide about blocks by its indentation: an opening curly brace, and the words
that end a block, with what may be done to its value. -/
def indentIgnoreMarkers : List String := [
  "\\\x7b",
  "end(?:for(?:each)?|if|while|case|def)?(?:\\s*[.\\[\\->|]\\s*(?:[$\\w+\\-*/^%<>=!?:]*|'[^']*'|\"[^\"]*\"|`[^`]*`)\\s*[\\]|]?)*",
  "esac|fi"]

/-- A line that goes on in the next one: it ends in a condition or a label. -/
def incompleteBlock : String :=
  "\\b(?:if|when|else|case|for|foreach|elsif|while|def|then|default)\\b\\s*(?:[A-Za-z_+\\-*/%<>\\d.,\\s]*|.*:)?$"

/-- A line that is one of several labels of a block. -/
def multiBlockHeader : String :=
  "^(?:when|case|default|else)\\b(?:'[^']*'|\"[^\"]*\"|`[^`]*`|[A-Za-z_+\\-*/%<>\\d.,\\s])*(?:.*:)?$"

/-- A block that stays behind the others: a default clause, or an `else` without condition. -/
def forceLast : String :=
  "^(?:\\s*(?:when|case)\\b.*\\r?\\n)*\\s*default\\b|^\\s*else\\b(?!\\s?if)\\s*:?$"

/-- A decorator: a line that starts with an at sign. -/
def decorator : String := "^\\s*@.*"

/-- The number of columns of an indentation level. -/
def tabSize : UInt64 := 4

def separators : String := ",;"

end BlockOrder.Defaults
