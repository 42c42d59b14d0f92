import Destructure.Json.Basic
import Destructure.Number.Shortest
import Destructure.Text.Quoted

set_option autoImplicit false

/-! # Writing data trees

`Json.compact` writes a tree without blanks, keys in their order, non-ASCII characters as they are.
Floating-point numbers take their shortest digits; a number that is not finite has no written form
and becomes `null`. -/

namespace Destructure.Json

/-- Numbers are positional from `0.00001` up to sixteen digits before the point; beyond that an
exponent follows, always with its sign. -/
def numberLayout : Layout := ⟨-5, 15, true⟩

/-- A floating-point number as written in data. -/
def writeFloat (x : Number) : String :=
  if x.isFinite then numberLayout.write x else "null"

mutual

/-- A tree as text without blanks. -/
def compact : Json → String
  | .null => "null"
  | .bool b => if b then "true" else "false"
  | .int n => toString n
  | .float x => writeFloat x
  | .text s => Text.dataQuoted s
  | .array items => "[" ++ String.intercalate "," (compactItems items) ++ "]"
  | .object entries => "\x7b" ++ String.intercalate "," (compactEntries entries) ++ "\x7d"

def compactItems : List Json → List String
  | [] => []
  | item :: rest => item.compact :: compactItems rest

def compactEntries : List (String × Json) → List String
  | [] => []
  | (key, value) :: rest => (Text.dataQuoted key ++ ":" ++ value.compact) :: compactEntries rest

end

end Destructure.Json
