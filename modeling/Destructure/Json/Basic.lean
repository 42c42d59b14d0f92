import Destructure.Entries
import Destructure.Number.Basic

set_option autoImplicit false

/-! # Data trees

`Json` is plain data: what configurations are written in, and what values are shown as. Numbers that
were written as whole numbers of at most 64 bits stay integers; all others are floating point.
Objects are ordered lists of entries. A tree just read from text may name a key twice; `Json.settled`
then keeps the key's first place and its last value. -/

namespace Destructure

/-- A tree of plain data. -/
inductive Json where
  | null
  | bool (b : Bool)
  | int (n : Int)
  | float (x : Number)
  | text (s : String)
  | array (items : List Json)
  | object (entries : List (String × Json))
deriving Inhabited

namespace Json

mutual

/-- The tree with every repeated key of its objects settled. -/
def settled : Json → Json
  | .array items => .array (settledItems items)
  | .object entries => .object (Entries.ofList (settledEntries entries))
  | .null => .null
  | .bool b => .bool b
  | .int n => .int n
  | .float x => .float x
  | .text s => .text s

def settledItems : List Json → List Json
  | [] => []
  | item :: rest => item.settled :: settledItems rest

def settledEntries : List (String × Json) → List (String × Json)
  | [] => []
  | (key, value) :: rest => (key, value.settled) :: settledEntries rest

end

def isNull : Json → Bool
  | .null => true
  | _ => false

/-- The text of a text node. -/
def text? : Json → Option String
  | .text s => some s
  | _ => none

/-- The value under a key of an object. -/
def field? (key : String) : Json → Option Json
  | .object entries => Entries.find? key entries
  | _ => none

end Json

end Destructure
