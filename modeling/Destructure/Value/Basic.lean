import Destructure.Entries
import Destructure.Json.Basic
import Destructure.Number.Basic

set_option autoImplicit false

/-! # Values

A value is what patterns are matched against: plain data, functions, and domain objects that only
their own extractors look into. Mappings keep the order of their entries.

Functions and domain objects have an *identity*, the place where they were made. Two values made in
one place are the same object; whether objects made in different places are equal is for the domain
to say. -/

namespace Destructure

/-- Where an object was made. Copies of a value keep its identity. -/
abbrev Identity := List Nat

/-- A marker for a control character. Markers are equal only when they are the same object. -/
structure CharMarker where
  name : String
  code : Nat
deriving DecidableEq

/-- What a domain object of some other type shows: what the type is called, how the object describes
itself, and the data it stands for. -/
structure Appearance where
  typeName : String
  description : String
  content : Json

/-- A domain object of some other type. It brings the equality of its domain along, which may be any. -/
structure SealedObject extends Appearance where
  /-- Whether the domain holds the object equal to one that shows this. -/
  sameAs : Appearance → Bool

/-- A runtime value. -/
inductive Value where
  /-- The absence of a value. -/
  | null
  | bool (b : Bool)
  | number (x : Number)
  | text (s : String)
  | sequence (items : List Value)
  | mapping (entries : List (String × Value))
  /-- A function, known by its name and compared by identity. -/
  | callable (identity : Identity) (name : String)
  /-- An optional value, compared by content. -/
  | option (identity : Identity) (content : Option Value)
  | marker (identity : Identity) (mark : CharMarker)
  | sealed (identity : Identity) (object : SealedObject)
deriving Inhabited

/-- The classes of values. -/
inductive Kind where
  | null
  | bool
  | number
  | text
  | sequence
  | mapping
  | callable
  | sealed
deriving DecidableEq

namespace Kind

/-- The name used in messages and configurations. -/
def name : Kind → String
  | .null => "null"
  | .bool => "bool"
  | .number => "number"
  | .text => "text"
  | .sequence => "sequence"
  | .mapping => "mapping"
  | .callable => "callable"
  | .sealed => "opaque"

/-- The name with a capital, as extractors carry it. -/
def title : Kind → String
  | .null => "Null"
  | .bool => "Bool"
  | .number => "Number"
  | .text => "Text"
  | .sequence => "Sequence"
  | .mapping => "Mapping"
  | .callable => "Callable"
  | .sealed => "Opaque"

/-- Every kind, in declaration order. -/
def all : List Kind := [.null, .bool, .number, .text, .sequence, .mapping, .callable, .sealed]

end Kind

namespace Value

def kind : Value → Kind
  | .null => .null
  | .bool _ => .bool
  | .number _ => .number
  | .text _ => .text
  | .sequence _ => .sequence
  | .mapping _ => .mapping
  | .callable _ _ => .callable
  | .option _ _ => .sealed
  | .marker _ _ => .sealed
  | .sealed _ _ => .sealed

/-- Null, false, the zeros, NaN and the empty text are falsy; everything else is truthy, empty
sequences and mappings included. -/
def isTruthy : Value → Bool
  | .null => false
  | .bool b => b
  | .number x => !x.isZero && !x.isNaN
  | .text s => !s.isEmpty
  | _ => true

def isNull : Value → Bool
  | .null => true
  | _ => false

def bool? : Value → Option Bool
  | .bool b => some b
  | _ => none

def number? : Value → Option Number
  | .number x => some x
  | _ => none

def text? : Value → Option String
  | .text s => some s
  | _ => none

def items? : Value → Option (List Value)
  | .sequence items => some items
  | _ => none

def entries? : Value → Option (List (String × Value))
  | .mapping entries => some entries
  | _ => none

/-- The name of a function. -/
def callable? : Value → Option String
  | .callable _ name => some name
  | _ => none

/-- The type name of a domain object. -/
def typeName? : Value → Option String
  | .option _ _ => some "Option"
  | .marker _ _ => some "Char"
  | .sealed _ object => some object.typeName
  | _ => none

/-- The result of a call. Functions that are values hand back their argument. -/
def call? (f argument : Value) : Option Value :=
  match f with
  | .callable _ _ => some argument
  | _ => none

/-- A mapping with these entries; a repeated key keeps its first place and its last value. -/
def ofEntries (entries : List (String × Value)) : Value := .mapping (Entries.ofList entries)

end Value

end Destructure
