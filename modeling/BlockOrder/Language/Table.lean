import BlockOrder.Language.Defaults
import BlockOrder.Text.Case

/-!
# Languages

The markers of the known languages.  A language that is not listed has line comments that start
with two slashes or a hash, block comments between slashes with stars, and three kinds of
quotes.
-/

namespace BlockOrder.Language

/-- Comments that start with two slashes, and comments between slashes with stars. -/
def slashComments : List Delimiters := [.toLineEnd "//", .enclosed "/\\*" "\\*/"]

def comments : (language : String) → List Delimiters
  | "c" | "cpp" | "csharp" | "dart" | "go" | "groovy" | "java" | "javascript"
  | "javascriptreact" | "json" | "jsonc" | "jsx" | "kotlin" | "less" | "objective-c"
  | "objective-cpp" | "rust" | "scala" | "scss" | "stylus" | "swift" | "typescript"
  | "typescriptreact" | "vue" => slashComments
  | "css" => [.enclosed "/\\*" "\\*/"]
  | "coffeescript" => [.enclosed "###" "###", .toLineEnd "#"]
  | "ruby" => [.enclosed "^=begin" "^=end", .toLineEnd "#"]
  | "powershell" => [.enclosed "<#" "#>", .toLineEnd "#"]
  | "dockerfile" | "elixir" | "makefile" | "nim" | "perl" | "python" | "r" | "shellscript"
  | "toml" | "yaml" => [.toLineEnd "#"]
  | "ini" => [.toLineEnd ";", .toLineEnd "#"]
  | "html" | "markdown" | "svg" | "vue-html" | "xml" | "xsl" => [.enclosed "<!--" "-->"]
  | "sql" => [.toLineEnd "--", .enclosed "/\\*" "\\*/"]
  | "lua" => [.enclosed "--\\[\\[" "\\]\\]", .toLineEnd "--"]
  | "haskell" => [.enclosed "\\\x7b-" "-\\\x7d", .toLineEnd "--"]
  | "erlang" | "latex" | "matlab" | "tex" => [.toLineEnd "%"]
  | "vb" => [.toLineEnd "'"]
  | "clojure" | "lisp" | "scheme" => [.toLineEnd ";"]
  | _ => slashComments ++ [.toLineEnd "#"]

/-- The strings of a language.  Single quotes do not count where they open lifetimes as often as
characters. -/
def strings : (language : String) → List Delimiters
  | "html" | "jsx" | "sql" | "vue-html" | "xml" | "yaml" => [.quoted "\"", .quoted "'"]
  | "python" => [.quoted "\"\"\"", .quoted "'''", .quoted "\"", .quoted "'"]
  | "rust" => [.quoted "\""]
  | "markdown" | "plaintext" => []
  | _ => [.quoted "\"", .quoted "'", .quoted "`"]

def decorators : (language : String) → List String
  | "csharp" => [Defaults.decorator, "^\\s*\\[[^\\]]*\\]\\s*$"]
  | "rust" => [Defaults.decorator, "^\\s*#!?\\[.*"]
  | _ => [Defaults.decorator]

def markers (language : String) : LanguageMarkers where
  comments := comments language
  strings := strings language
  decorators := decorators language

/-- The language of the files with a given extension, in either case. -/
def ofExtension (extension : String) : String :=
  match String.ofList (extension.toList.map asciiLower) with
  | "c" | "h" => "c"
  | "cc" | "cpp" | "cxx" | "hpp" | "hh" => "cpp"
  | "cs" => "csharp"
  | "css" => "css"
  | "dart" => "dart"
  | "go" => "go"
  | "htm" | "html" => "html"
  | "ini" | "cfg" => "ini"
  | "java" => "java"
  | "js" | "mjs" | "cjs" => "javascript"
  | "json" => "json"
  | "jsonc" | "json5" => "jsonc"
  | "jsx" => "javascriptreact"
  | "kt" | "kts" => "kotlin"
  | "less" => "less"
  | "lua" => "lua"
  | "md" | "markdown" => "markdown"
  | "php" => "php"
  | "ps1" => "powershell"
  | "py" | "pyi" => "python"
  | "rb" => "ruby"
  | "rs" => "rust"
  | "scss" => "scss"
  | "sh" | "bash" | "zsh" => "shellscript"
  | "sql" => "sql"
  | "swift" => "swift"
  | "toml" => "toml"
  | "ts" | "mts" | "cts" => "typescript"
  | "tsx" => "typescriptreact"
  | "vue" => "vue"
  | "xml" | "xsl" | "svg" => "xml"
  | "yaml" | "yml" => "yaml"
  | _ => "plaintext"

end BlockOrder.Language
