import Destructure.Pattern.Error
import Destructure.Regex.Library

set_option autoImplicit false

/-! # Expressions of patterns -/

namespace Destructure

/-- The longest expression that is compiled, in bytes. -/
def maxExpressionBytes : Nat := 4096

/-- The engine that a library makes of an expression, with the defects that a pattern reports. -/
def compileExpression (library : Regex.Library) (source : String) :
    Except PatternError Regex.Engine :=
  if maxExpressionBytes < source.utf8ByteSize then
    .error (.regexTooLong source.utf8ByteSize maxExpressionBytes)
  else
    match library.compile source with
    | .ok matcher => .ok matcher.engine
    | .error reason => .error (.invalidRegex source reason)

end Destructure
