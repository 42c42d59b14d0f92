set_option autoImplicit false

/-! # What can be wrong with a regular expression -/

namespace Destructure.Regex

/-- Why a text is not a regular expression. -/
inductive Fault where
  | groupUnclosed
  | groupUnopened
  | groupNameUnclosed
  | groupNameEmpty
  | groupNameInvalid
  | groupNameRepeated
  | lookAround
  | repetitionMissing
  | repetitionUnclosed
  | repetitionBound
  | repetitionTooLarge
  | repetitionOrder
  | flagUnfinished
  | flagUnknown
  | flagRepeated
  | flagNegatedTwice
  | flagDangling
  | classUnclosed
  | classRangeEnd
  | classRangeOrder
  | classItem
  | escapeUnfinished
  | escapeUnknown
  | escapeDigit
  | escapeEmpty
  | escapeCode
  | backReference
  | propertyUnknown
  | wordBoundaryUnclosed
  | wordBoundaryUnknown
  | unicodeNeeded
  | tooDeep
  | tooLarge
deriving DecidableEq

/-- How deep an expression may nest. -/
def nestLimit : Nat := 250

/-- How many bytes a compiled expression may take. -/
def sizeLimit : Nat := 10 * Nat.pow 2 20

namespace Fault

/-- What is wrong, in a few words. -/
def summary : Fault → String
  | .groupUnclosed => "unclosed group"
  | .groupUnopened => "unopened group"
  | .groupNameUnclosed => "unclosed capture group name"
  | .groupNameEmpty => "empty capture group name"
  | .groupNameInvalid => "invalid capture group character"
  | .groupNameRepeated => "duplicate capture group name"
  | .lookAround => "look-around, including look-ahead and look-behind, is not supported"
  | .repetitionMissing => "repetition operator missing expression"
  | .repetitionUnclosed => "unclosed counted repetition"
  | .repetitionBound => "repetition quantifier expects a valid decimal"
  | .repetitionTooLarge => "decimal literal invalid"
  | .repetitionOrder => "invalid repetition count range, the start must be <= the end"
  | .flagUnfinished => "expected flag but got end of regex"
  | .flagUnknown => "unrecognized flag"
  | .flagRepeated => "duplicate flag"
  | .flagNegatedTwice => "flag negation operator repeated"
  | .flagDangling => "dangling flag negation operator"
  | .classUnclosed => "unclosed character class"
  | .classRangeEnd => "invalid range boundary, must be a literal"
  | .classRangeOrder => "invalid character class range, the start must be <= the end"
  | .classItem => "invalid escape sequence found in character class"
  | .escapeUnfinished => "incomplete escape sequence, reached end of pattern prematurely"
  | .escapeUnknown => "unrecognized escape sequence"
  | .escapeDigit => "invalid hexadecimal digit"
  | .escapeEmpty => "hexadecimal literal empty"
  | .escapeCode => "hexadecimal literal is not a Unicode scalar value"
  | .backReference => "backreferences are not supported"
  | .propertyUnknown => "Unicode property not found"
  | .wordBoundaryUnclosed =>
    "special word boundary assertion is either unclosed or contains an invalid character"
  | .wordBoundaryUnknown =>
    "unrecognized special word boundary assertion, valid choices are: start, end, start-half "
      ++ "or end-half"
  | .unicodeNeeded => "pattern can match invalid UTF-8"
  | .tooDeep =>
    "exceed the maximum number of nested parentheses/brackets (" ++ toString nestLimit ++ ")"
  | .tooLarge => "Compiled regex exceeds size limit of " ++ toString sizeLimit ++ " bytes."

/-- What is wrong with an expression. Only its size is told without the expression. -/
def message (source : String) : Fault → String
  | .tooLarge => summary .tooLarge
  | fault => "regex parse error:\n    " ++ source ++ "\nerror: " ++ fault.summary

end Fault

end Destructure.Regex
