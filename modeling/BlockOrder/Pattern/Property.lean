import BlockOrder.Pattern.CharSet
import BlockOrder.Text.Case
import BlockOrder.Text.Property.Category
import BlockOrder.Text.Property.Script
import BlockOrder.Text.Property.Binary

/-!
# Properties by name

The sets of characters that a pattern can ask for by the name of a property: a general category,
a script, or a property of its own.  Case, spaces, hyphens and underscores in names do not count,
nor does a leading `is`.
-/

namespace BlockOrder.CharSet

/-- The characters of some general categories, given by their two letters. -/
def categories (codes : List String) : CharSet :=
  table (LabelledRun.select (codes.map String.toList) categoryRuns)

def coded (coding : List String) : CharSet := table (codedRanges coding)

/-- The characters of a script, given by its four letters. -/
def script (code : String) : CharSet := table (LabelledRun.select [code.toList] scriptRuns)

/-- The characters that are used with a script, given by its four letters. -/
def usedWithScript (code : String) : CharSet :=
  let ranges := scriptExtensions.map fun (lo, hi, _) => (lo, hi)
  let used := scriptExtensions.filter fun (_, _, codes) =>
    (codingWords codes).contains code.toList
  union (diff (script code) (table ranges)) (table (used.map fun (lo, hi, _) => (lo, hi)))

/-- Letters and all that counts as a letter. -/
def alphabetic : CharSet :=
  union (union (range 'A' 'Z') (range 'a' 'z')) (table alphabetics)

def lowercase : CharSet := union (categories ["Ll"]) (coded otherLowercaseCoding)

def uppercase : CharSet := union (categories ["Lu"]) (coded otherUppercaseCoding)

def graphemeExtend : CharSet := union (categories ["Mn", "Me"]) (coded graphemeExtendChangesCoding)

def idStart : CharSet :=
  symmDiff (categories ["Lu", "Ll", "Lt", "Lm", "Lo", "Nl"]) (coded idStartChangesCoding)

def idContinue : CharSet :=
  symmDiff (union idStart (categories ["Mn", "Mc", "Nd", "Pc"])) (coded idContinueChangesCoding)

def changesLowercased : CharSet :=
  symmDiff (union uppercase (categories ["Lt"])) (coded lowercasedChangesCoding)

def changesUppercased : CharSet := symmDiff (categories ["Ll"]) (coded uppercasedChangesCoding)

def changesTitlecased : CharSet := symmDiff changesUppercased (coded titlecasedChangesCoding)

def changesCasefolded : CharSet := symmDiff changesLowercased (coded casefoldedChangesCoding)

/-- The name without what does not count in it. -/
def normalName (name : Text) : Text :=
  let body :=
    match name with
    | a :: b :: rest => if asciiLower a == 'i' && asciiLower b == 's' then rest else name
    | _ => name
  let letters := body.filterMap fun c =>
    if c == ' ' || c == '_' || c == '-' || 0x80 ≤ c.toNat then none else some (asciiLower c)
  if letters == ['c'] && body.length != name.length then "isc".toList else letters

/-- Whether a normal name is that of a property. -/
def isNamed (name : Text) (names : List String) : Bool :=
  names.any fun n => normalName n.toList == name

/-- The set of a property that holds or does not hold of a character. -/
def binary? (name : Text) : Option CharSet :=
  let named := isNamed name
  if named ["Alpha", "Alphabetic"] then some alphabetic
  else if named ["Lower", "Lowercase"] then some lowercase
  else if named ["Upper", "Uppercase"] then some uppercase
  else if named ["Cased"] then some (union (union lowercase uppercase) (categories ["Lt"]))
  else if named ["CI", "Case_Ignorable"] then
    some (symmDiff (categories ["Mn", "Me", "Cf", "Lm", "Sk"]) (coded caseIgnorableChangesCoding))
  else if named ["Math"] then some (union (categories ["Sm"]) (coded otherMathCoding))
  else if named ["space", "WSpace", "White_Space"] then some blanks
  else if named ["Gr_Ext", "Grapheme_Extend"] then some graphemeExtend
  else if named ["Gr_Base", "Grapheme_Base"] then
    some (compl (union graphemeExtend (categories ["Cc", "Cf", "Cs", "Co", "Cn", "Zl", "Zp"])))
  else if named ["IDS", "ID_Start"] then some idStart
  else if named ["IDC", "ID_Continue"] then some idContinue
  else if named ["XIDS", "XID_Start"] then
    some (symmDiff idStart (coded xidStartChangesCoding))
  else if named ["XIDC", "XID_Continue"] then
    some (symmDiff idContinue (coded xidContinueChangesCoding))
  else if named ["CWL", "Changes_When_Lowercased"] then some changesLowercased
  else if named ["CWU", "Changes_When_Uppercased"] then some changesUppercased
  else if named ["CWT", "Changes_When_Titlecased"] then some changesTitlecased
  else if named ["CWCF", "Changes_When_Casefolded"] then some changesCasefolded
  else if named ["CWCM", "Changes_When_Casemapped"] then
    some (union changesLowercased (union changesUppercased changesTitlecased))
  else if named ["CWKCF", "Changes_When_NFKC_Casefolded"] then
    some (symmDiff changesCasefolded (coded compatibilityFoldedChangesCoding))
  else
    (plainPropertyCoding.find? fun (short, long, _) => named [short, long]).map
      fun (_, _, coding) => coded coding

/-- The general categories by their names, with the letters of the categories they comprise. -/
def categoryNames : List (List String × List String) := [
    (["C", "Other"], ["Cc", "Cf", "Cs", "Co", "Cn"]),
    (["Cc", "Control", "Cntrl"], ["Cc"]), (["Cf", "Format"], ["Cf"]),
    (["Cn", "Unassigned"], ["Cn"]), (["Co", "Private_Use"], ["Co"]),
    (["L", "Letter"], ["Lu", "Ll", "Lt", "Lm", "Lo"]),
    (["LC", "Cased_Letter"], ["Lu", "Ll", "Lt"]), (["Ll", "Lowercase_Letter"], ["Ll"]),
    (["Lm", "Modifier_Letter"], ["Lm"]), (["Lo", "Other_Letter"], ["Lo"]),
    (["Lt", "Titlecase_Letter"], ["Lt"]), (["Lu", "Uppercase_Letter"], ["Lu"]),
    (["M", "Mark", "Combining_Mark"], ["Mn", "Mc", "Me"]), (["Mc", "Spacing_Mark"], ["Mc"]),
    (["Me", "Enclosing_Mark"], ["Me"]), (["Mn", "Nonspacing_Mark"], ["Mn"]),
    (["N", "Number"], ["Nd", "Nl", "No"]), (["Nd", "Decimal_Number", "Digit"], ["Nd"]),
    (["Nl", "Letter_Number"], ["Nl"]), (["No", "Other_Number"], ["No"]),
    (["P", "Punctuation", "Punct"], ["Pc", "Pd", "Ps", "Pe", "Pi", "Pf", "Po"]),
    (["Pc", "Connector_Punctuation"], ["Pc"]), (["Pd", "Dash_Punctuation"], ["Pd"]),
    (["Pe", "Close_Punctuation"], ["Pe"]), (["Pf", "Final_Punctuation"], ["Pf"]),
    (["Pi", "Initial_Punctuation"], ["Pi"]), (["Po", "Other_Punctuation"], ["Po"]),
    (["Ps", "Open_Punctuation"], ["Ps"]), (["S", "Symbol"], ["Sm", "Sc", "Sk", "So"]),
    (["Sc", "Currency_Symbol"], ["Sc"]), (["Sk", "Modifier_Symbol"], ["Sk"]),
    (["Sm", "Math_Symbol"], ["Sm"]), (["So", "Other_Symbol"], ["So"]),
    (["Z", "Separator"], ["Zs", "Zl", "Zp"]), (["Zl", "Line_Separator"], ["Zl"]),
    (["Zp", "Paragraph_Separator"], ["Zp"]), (["Zs", "Space_Separator"], ["Zs"])]

def category? (name : Text) : Option CharSet :=
  if isNamed name ["Any"] then some everything
  else if isNamed name ["ASCII"] then some (range '\x00' '\x7f')
  else if isNamed name ["Assigned"] then some (compl (categories ["Cn"]))
  else (categoryNames.find? fun entry => isNamed name entry.1).map fun entry => categories entry.2

def scriptCode? (name : Text) : Option String :=
  (scriptNames.find? fun entry => isNamed name (entry.1 :: entry.2)).map (·.1)

/-- The set that a name alone stands for.  Three names of categories are also short for
properties that make no set, and the category counts. -/
def ofName? (name : Text) : Option CharSet :=
  let isCategory := isNamed name ["Cf", "Sc", "LC"]
  (if isCategory then none else binary? name)
    |>.or (category? name)
    |>.or ((scriptCode? name).map script)

/-- The set of the characters that have a given value for a property. -/
def ofValue? (property value : Text) : Option CharSet :=
  if isNamed property ["gc", "General_Category"] then category? value
  else if isNamed property ["sc", "Script"] then (scriptCode? value).map script
  else if isNamed property ["scx", "Script_Extensions"] then
    (scriptCode? value).map usedWithScript
  else none

/-- What stands before and after the first occurrence of a text. -/
def splitAt? (mark : Text) : Text → Option (Text × Text)
  | [] => none
  | c :: rest =>
      match Text.after? mark (c :: rest) with
      | some more => some ([], more)
      | none => (splitAt? mark rest).map fun (before, more) => (c :: before, more)

/-- The set that a pattern asks for by a name, or by a property and its value. -/
def property? (query : Text) : Option CharSet :=
  let valued := fun (property, value) => ofValue? (normalName property) (normalName value)
  match splitAt? "!=".toList query, splitAt? [':'] query, splitAt? ['='] query with
  | some parts, _, _ => (valued parts).map compl
  | none, some parts, _ => valued parts
  | none, none, some parts => valued parts
  | none, none, none => ofName? (normalName query)

end BlockOrder.CharSet
