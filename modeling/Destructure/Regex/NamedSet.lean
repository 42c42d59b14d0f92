import Destructure.Regex.CharSet
import Destructure.Text.Listed
import Destructure.Text.ScriptExtension

set_option autoImplicit false

/-! # Named character sets

The sets that a regular expression refers to by name: the ASCII classes between `[:` and `:]`, the
Unicode properties and general categories, and scripts with and without the characters they share. -/

namespace Destructure.Regex.CharSet

open Destructure.Text

/-- The sets between `[:` and `:]`. -/
def posix? : String → Option CharSet
  | "alnum" => some (ascii [('0', '9'), ('A', 'Z'), ('a', 'z')])
  | "alpha" => some (ascii [('A', 'Z'), ('a', 'z')])
  | "ascii" => some (.range 0 0x7F)
  | "blank" => some (ascii [('\t', '\t'), (' ', ' ')])
  | "cntrl" => some (.union (.range 0 0x1F) (.range 0x7F 0x7F))
  | "digit" => some (ascii [('0', '9')])
  | "graph" => some (ascii [('!', '~')])
  | "lower" => some (ascii [('a', 'z')])
  | "print" => some (ascii [(' ', '~')])
  | "punct" => some (ascii [('!', '/'), (':', '@'), ('[', '\x60'), ('\x7b', '~')])
  | "space" => some (ascii [('\t', '\r'), (' ', ' ')])
  | "upper" => some (ascii [('A', 'Z')])
  | "word" => some (ascii [('0', '9'), ('A', 'Z'), ('_', '_'), ('a', 'z')])
  | "xdigit" => some (ascii [('0', '9'), ('A', 'F'), ('a', 'f')])
  | _ => none

/-- A name in lower case, without blanks, hyphens, underscores and a leading `is`. -/
def looseName (name : String) : String :=
  let letters := (name.toList.filter fun c => c.toNat < 0x80 && c != ' ' && c != '_' && c != '-').map
    Char.toLower
  match letters with
  | 'i' :: 's' :: rest => if rest = ['c'] then "isc" else String.ofList rest
  | _ => String.ofList letters

/-- The two-letter or one-letter abbreviation of a general category, from its loose name. -/
def categoryAbbreviation? : String → Option String
  | "c" | "other" => some "C"
  | "cc" | "control" | "cntrl" => some "Cc"
  | "cf" | "format" => some "Cf"
  | "cn" | "unassigned" => some "Cn"
  | "co" | "privateuse" => some "Co"
  | "cs" | "surrogate" => some "Cs"
  | "l" | "letter" => some "L"
  | "ll" | "lowercaseletter" => some "Ll"
  | "lm" | "modifierletter" => some "Lm"
  | "lo" | "otherletter" => some "Lo"
  | "lt" | "titlecaseletter" => some "Lt"
  | "lu" | "uppercaseletter" => some "Lu"
  | "m" | "mark" | "combiningmark" => some "M"
  | "mc" | "spacingmark" => some "Mc"
  | "me" | "enclosingmark" => some "Me"
  | "mn" | "nonspacingmark" => some "Mn"
  | "n" | "number" => some "N"
  | "nd" | "decimalnumber" | "digit" => some "Nd"
  | "nl" | "letternumber" => some "Nl"
  | "no" | "othernumber" => some "No"
  | "p" | "punctuation" | "punct" => some "P"
  | "pc" | "connectorpunctuation" => some "Pc"
  | "pd" | "dashpunctuation" => some "Pd"
  | "pe" | "closepunctuation" => some "Pe"
  | "pf" | "finalpunctuation" => some "Pf"
  | "pi" | "initialpunctuation" => some "Pi"
  | "po" | "otherpunctuation" => some "Po"
  | "ps" | "openpunctuation" => some "Ps"
  | "s" | "symbol" => some "S"
  | "sc" | "currencysymbol" => some "Sc"
  | "sk" | "modifiersymbol" => some "Sk"
  | "sm" | "mathsymbol" => some "Sm"
  | "so" | "othersymbol" => some "So"
  | "z" | "separator" => some "Z"
  | "zl" | "lineseparator" => some "Zl"
  | "zp" | "paragraphseparator" => some "Zp"
  | "zs" | "spaceseparator" => some "Zs"
  | _ => none

/-- The set of a general category or of a group of them. -/
def category? (name : String) : Option CharSet :=
  match name with
  | "any" => some (.range 0 0x10FFFF)
  | "ascii" => some (.range 0 0x7F)
  | "assigned" => some (.complement (.table Category.unassigned))
  | "lc" | "casedletter" =>
    some (unionOf [.table Category.uppercaseLetter, .table Category.lowercaseLetter,
      .table Category.titlecaseLetter])
  | _ => (categoryAbbreviation? name).map fun abbreviation =>
    unionOf ((Category.named abbreviation).map .table)

/-- The union of general categories. -/
def categories (abbreviations : List String) : CharSet :=
  unionOf ((abbreviations.flatMap Category.named).map .table)

/-! ## Derived properties -/

/-- Pattern syntax and pattern white space, which no identifier holds. -/
def patternReserved : CharSet :=
  unionOf ((["patternsyntax", "patternwhitespace"].filterMap Listed.named?).map .table)

/-- The characters that start an identifier. -/
def identifierStart : CharSet :=
  .minus (.union (categories ["L", "Nl"]) (.table Listed.identifierStart)) patternReserved

/-- The characters inside an identifier. -/
def identifierPart : CharSet :=
  .union identifierStart
    (.union (categories ["Mn", "Mc", "Nd", "Pc"]) (.table Listed.identifierPart))

/-- The characters with letter case. -/
def cased : CharSet :=
  .union (.union (.table Property.lowercase) (.table Property.uppercase)) (categories ["Lt"])

/-- The characters that do not count where the case of a word is told from its neighbours. -/
def caseIgnorable : CharSet :=
  .union (categories ["Mn", "Me", "Cf", "Lm", "Sk"]) (.table Listed.wordMiddle)

def changesWhenLowercased : CharSet :=
  .minus (.union (.table Property.uppercase) (categories ["Lt"])) (.table Listed.uppercaseOnly)

def changesWhenUppercased : CharSet :=
  .minus (.union (.table Property.lowercase) (categories ["Lt"])) (.table Listed.lowercaseOnly)

def changesWhenTitlecased : CharSet :=
  .minus (.union changesWhenUppercased (.table Listed.digraph)) (.table Listed.titlecaseOnly)

def changesWhenFolded : CharSet :=
  .minus (.union changesWhenLowercased (.table Listed.lowercaseVariant)) (.table Listed.foldTarget)

/-- The characters that stand for themselves in a line of text. -/
def graphemeBase : CharSet :=
  .complement (.union (categories ["C", "Zl", "Zp"]) (.table Property.graphemeExtend))

/-- The set of a property that a character has or has not. -/
def property? : String → Option CharSet
  | "alphabetic" | "alpha" => some (.table Property.alphabetic)
  | "lowercase" | "lower" => some (.table Property.lowercase)
  | "uppercase" | "upper" => some (.table Property.uppercase)
  | "whitespace" | "wspace" | "space" => some .space
  | "graphemeextend" | "grext" => some (.table Property.graphemeExtend)
  | "graphemebase" | "grbase" => some graphemeBase
  | "idstart" | "ids" => some identifierStart
  | "idcontinue" | "idc" => some identifierPart
  | "xidstart" | "xids" => some (.minus identifierStart (.table Listed.unstableStart))
  | "xidcontinue" | "xidc" => some (.minus identifierPart (.table Listed.unstablePart))
  | "cased" => some cased
  | "caseignorable" | "ci" => some caseIgnorable
  | "changeswhenlowercased" | "cwl" => some changesWhenLowercased
  | "changeswhenuppercased" | "cwu" => some changesWhenUppercased
  | "changeswhentitlecased" | "cwt" => some changesWhenTitlecased
  | "changeswhencasefolded" | "cwcf" => some changesWhenFolded
  | "changeswhencasemapped" | "cwcm" =>
    some (.union changesWhenLowercased (.union changesWhenUppercased changesWhenTitlecased))
  | name => (Listed.named? name).map .table

/-! ## Names -/

def script? (name : String) : Option CharSet := (Script.named? name).map .table

/-- The set of the characters that are used in a script. -/
def scriptExtension? (name : String) : Option CharSet :=
  (Script.all.find? fun entry => entry.1.contains name).map fun (names, own) =>
    if ScriptExtension.isCatchAll names then
      .minus (.table own) (unionOf (ScriptExtension.shared.map (.table ·.2)))
    else unionOf (.table own :: ((ScriptExtension.shared? names).map .table).toList)

/-- The set of a name: a property, a general category or a script, in this order. -/
def named? (name : String) : Option CharSet :=
  let loose := looseName name
  property? loose <|> category? loose <|> script? loose

/-- The set of a property with a value. -/
def valued? (property value : String) : Option CharSet :=
  match looseName property with
  | "gc" | "generalcategory" => category? (looseName value)
  | "sc" | "script" => script? (looseName value)
  | "scx" | "scriptextensions" => scriptExtension? (looseName value)
  | _ => none

end Destructure.Regex.CharSet
