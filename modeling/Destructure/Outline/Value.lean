import Destructure.Bindings
import Destructure.Outline.Basic

set_option autoImplicit false

/-! # Outlines of values and bindings -/

namespace Destructure

/-- The outline of a function by its name. -/
def callableOutline (name : String) : Outline := .call "FnCallable" [.text name]

def CharMarker.outline (mark : CharMarker) : Outline :=
  .fields "CharMarker" [("name", .text mark.name), ("code", .nat mark.code)]

namespace Value

/-- The outline of an optional value with that content. -/
def optionOutline (content : Option Outline) : Outline :=
  .fields "TestOption" [
    ("has_value", .bool content.isSome),
    ("value", content.getD (.word "Null"))]

mutual

def outline : Value → Outline
  | .null => .word "Null"
  | .bool b => .call "Bool" [.bool b]
  | .number x => .call "Number" [.number x]
  | .text s => .call "Text" [.text s]
  | .sequence items => .call "Sequence" [.list (itemOutlines items)]
  | .mapping entries => .call "Mapping" [.table (entryOutlines entries)]
  | .callable _ name => .call "Callable" [callableOutline name]
  | .option _ none => .call "Opaque" [optionOutline none]
  | .option _ (some content) => .call "Opaque" [optionOutline (some content.outline)]
  | .marker _ mark => .call "Opaque" [mark.outline]
  | .sealed _ object => .call "Opaque" [.word object.description]

def itemOutlines : List Value → List Outline
  | [] => []
  | item :: rest => item.outline :: itemOutlines rest

def entryOutlines : List (String × Value) → List (String × Outline)
  | [] => []
  | (key, value) :: rest => (key, value.outline) :: entryOutlines rest

end

end Value

def Bindings.outline (b : Bindings) : Outline :=
  .fields "Bindings" [("values", .table (Value.entryOutlines b.entries))]

end Destructure
