import Destructure.Json.Basic
import Destructure.Number.Rounding
import Destructure.Value.Basic

set_option autoImplicit false

/-! # Values and data trees

Every data tree is a value (`Value.ofJson`). In the other direction (`Value.toJson`) whole numbers
below `2 ^ 53` become integers, numbers that are not finite become `null`, and functions and domain
objects, which data cannot hold, become descriptive texts. -/

namespace Destructure.Value

mutual

/-- The value that a data tree is. -/
def ofJson : Json → Value
  | .null => .null
  | .bool b => .bool b
  | .int n => .number (Number.ofInt n)
  | .float x => .number x
  | .text s => .text s
  | .array items => .sequence (ofItems items)
  | .object entries => .mapping (ofFields entries)

def ofItems : List Json → List Value
  | [] => []
  | item :: rest => ofJson item :: ofItems rest

def ofFields : List (String × Json) → List (String × Value)
  | [] => []
  | (key, value) :: rest => (key, ofJson value) :: ofFields rest

end

/-- A number as data. -/
def numberToJson (x : Number) : Json :=
  match x.toInt? with
  | some n => .int n
  | none => if x.isFinite then .float x else .null

mutual

/-- A value as data. -/
def toJson : Value → Json
  | .null => .null
  | .bool b => .bool b
  | .number x => numberToJson x
  | .text s => .text s
  | .sequence items => .array (itemsToJson items)
  | .mapping entries => .object (entriesToJson entries)
  | .callable _ name => .text ("<callable " ++ name ++ ">")
  | .option _ _ => .text "<opaque Option>"
  | .marker _ _ => .text "<opaque Char>"
  | .sealed _ object => .text ("<opaque " ++ object.typeName ++ ">")

def itemsToJson : List Value → List Json
  | [] => []
  | item :: rest => item.toJson :: itemsToJson rest

def entriesToJson : List (String × Value) → List (String × Json)
  | [] => []
  | (key, value) :: rest => (key, value.toJson) :: entriesToJson rest

end

end Destructure.Value
