import Destructure.Json.Writer
import Destructure.Registry.Basic
import Destructure.Value.Plain

set_option autoImplicit false

/-! # Values of fixtures

Subjects, scopes and expected bindings are data with *escapes* for values that data cannot express.
An escape is an object with one key that starts with a dollar sign: `$some` for an optional value with
a content, `$none` for one without, and `$const` for a registered constant.

Every object that is made gets its place in the data as its identity, so that decoding one text twice
in two places makes different objects. -/

namespace Destructure

/-- Why data of a fixture has no value. -/
inductive EscapeError where
  | unknownConstant (name : String)
  | malformed (escape : Json)

def EscapeError.message : EscapeError → String
  | .unknownConstant name => "unknown constant \"" ++ name ++ "\""
  | .malformed escape => "malformed escape " ++ escape.compact

namespace Escape

/-- Whether a key makes an object with no other key an escape. -/
def isMark (key : String) : Bool := key.startsWith "$"

/-- The escapes. -/
inductive Mark where
  | some
  | none
  | const
  | other

/-- The escape that a key stands for. -/
def mark (key : String) : Mark :=
  if key = "$some" then .some
  else if key = "$none" then .none
  else if key = "$const" then .const
  else .other

/-- The constant that a payload names. -/
def constant (r : Registry) (payload : Json) : Except EscapeError Value :=
  match payload with
  | .text name =>
    match r.constants.find? name with
    | some value => .ok value
    | none => .error (.unknownConstant name)
  | payload => .error (.malformed payload)

end Escape

namespace Value

mutual

/-- The value of data at some place. -/
def decode (r : Registry) (place : Identity) (tree : Json) : Except EscapeError Value :=
  match tree with
  | .array items => .sequence <$> decodeItems r place 0 items
  | .object [(key, payload)] =>
    if Escape.isMark key then
      match Escape.mark key with
      | .some => (fun content => .option place (some content)) <$> decode r (0 :: place) payload
      | .none => .ok (.option place none)
      | .const => Escape.constant r payload
      | .other => .error (.malformed (.object [(key, payload)]))
    else (fun value => .mapping [(key, value)]) <$> decode r (0 :: place) payload
  | .object entries => .mapping <$> decodeEntries r place 0 entries
  | .null => .ok .null
  | .bool b => .ok (.bool b)
  | .int n => .ok (ofJson (.int n))
  | .float x => .ok (ofJson (.float x))
  | .text s => .ok (.text s)

/-- The values of items, the first of which is child `index` of its array. -/
def decodeItems (r : Registry) (place : Identity) (index : Nat) (items : List Json) :
    Except EscapeError (List Value) :=
  match items with
  | [] => .ok []
  | item :: rest => do
    let value ← decode r (index :: place) item
    let values ← decodeItems r place (index + 1) rest
    return value :: values

/-- The values of entries, the first of which is child `index` of its object. -/
def decodeEntries (r : Registry) (place : Identity) (index : Nat) (entries : List (String × Json)) :
    Except EscapeError (List (String × Value)) :=
  match entries with
  | [] => .ok []
  | (key, payload) :: rest => do
    let value ← decode r (index :: place) payload
    let values ← decodeEntries r place (index + 1) rest
    return (key, value) :: values

end

end Value

/-- The bindings of the entries of an object at some place. -/
def Bindings.decode (r : Registry) (place : Identity) (entries : List (String × Json)) :
    Except EscapeError Bindings :=
  Bindings.ofList <$> Value.decodeEntries r place 0 entries

end Destructure
