import Destructure.Json.Writer

set_option autoImplicit false

/-! # Errors of decoding

Why a data tree is not the configuration it should be. Every error names what was expected in terms
of the configuration format. -/

namespace Destructure

/-- A data tree as an error message calls it. -/
def Json.title : Json → String
  | .null => "null"
  | .bool b => "boolean `" ++ (if b then "true" else "false") ++ "`"
  | .int n => "integer `" ++ toString n ++ "`"
  | .float x => "floating point `" ++ writeFloat x ++ "`"
  | .text s => "string " ++ Text.quoted s
  | .array _ => "sequence"
  | .object _ => "map"

/-- Why a tree cannot be decoded. -/
inductive DecodeError where
  | missingField (name : String)
  | duplicateField (name : String)
  /-- A word that is none of the known ones. -/
  | unknownVariant (found : String) (known : List String)
  /-- The number of a variant is not below their count. -/
  | unknownIndex (index : Int) (count : Nat)
  | wrongType (found : Json) (expected : String)
  | wrongLength (length : Nat) (expected : String)
  /-- A word in the form of an object must be its only key. -/
  | notSingleKey

namespace DecodeError

/-- A list of words to choose from. -/
def choices (known : List String) : String :=
  ", ".intercalate (known.map fun word => "`" ++ word ++ "`")

def message : DecodeError → String
  | .missingField name => "missing field `" ++ name ++ "`"
  | .duplicateField name => "duplicate field `" ++ name ++ "`"
  | .unknownVariant found known =>
    "unknown variant `" ++ found ++ "`, expected one of " ++ choices known
  | .unknownIndex index count =>
    "invalid value: integer `" ++ toString index ++ "`, expected variant index 0 <= i < "
      ++ toString count
  | .wrongType found expected => "invalid type: " ++ found.title ++ ", expected " ++ expected
  | .wrongLength length expected =>
    "invalid length " ++ toString length ++ ", expected " ++ expected
  | .notSingleKey => "invalid value: map, expected map with a single key"

end DecodeError

end Destructure
