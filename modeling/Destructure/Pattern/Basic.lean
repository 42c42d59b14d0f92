import Destructure.Regex.Engine

set_option autoImplicit false

/-! # Patterns

A pattern is an immutable tree with one node per matching rule. It says which values it matches and
which names a match binds.

The *shape* of a pattern is the structure that it takes a value apart into. Alternations and
conjunctions take the shape their members agree on; a member that accepts any structure has no
say. -/

namespace Destructure

/-- A pattern. -/
inductive Pattern where
  /-- Matches the values equal to this one. -/
  | literal (value : Value)
  /-- Matches anything and binds nothing. -/
  | wildcard
  /-- Matches anything and binds it. -/
  | binder (name : String)
  /-- Matches a sequence position by position; an absent element is a hole, which accepts anything.
  The items after the last element are bound to `rest`; without one there must be none. -/
  | sequence (elements : List (Option Pattern)) (rest : Option String)
  /-- Matches a mapping that has all the keys. The other entries are bound to `rest`, if given. -/
  | mapping (fields : List (String × Pattern)) (rest : Option String)
  /-- Matches when a branch does; the branches are tried in order. -/
  | alternation (branches : List Pattern)
  /-- Matches when all members match the same subject. -/
  | conjunction (members : List Pattern)
  /-- Matches when the predicate's result is truthy. -/
  | predicate (predicate : Predicate)
  /-- Matches what the extractor accepts, if `inner` matches what it is taken apart into. -/
  | extractor (extractor : Extractor) (inner : Option Pattern)
  /-- Matches the texts that the expression matches, if `inner` matches the captures. -/
  | regex (engine : Regex.Engine) (inner : Option Pattern)
deriving Inhabited

/-- The structure that a pattern takes a value apart into. -/
inductive Shape where
  /-- No structure is demanded. -/
  | any
  | sequence
  | mapping
  /-- Members demand both structures. -/
  | mixed
deriving DecidableEq

namespace Shape

/-- The shape of two members together. -/
def join : Shape → Shape → Shape
  | .any, s => s
  | s, .any => s
  | a, b => if a = b then a else .mixed

def name : Shape → String
  | .any => "any"
  | .sequence => "sequence"
  | .mapping => "mapping"
  | .mixed => "mixed"

end Shape

namespace Pattern

/-- The field `name` bound to the name `name`. -/
def field (name : String) : String × Pattern := (name, .binder name)

def isSequence : Pattern → Bool
  | .sequence _ _ => true
  | _ => false

def isMapping : Pattern → Bool
  | .mapping _ _ => true
  | _ => false

mutual

/-- The structure that a pattern takes a value apart into. -/
def shape : Pattern → Shape
  | .sequence _ _ => .sequence
  | .mapping _ _ => .mapping
  | .alternation branches => shapes branches
  | .conjunction members => shapes members
  | .literal _ => .any
  | .wildcard => .any
  | .binder _ => .any
  | .predicate _ => .any
  | .extractor _ _ => .any
  | .regex _ _ => .any

/-- The shape of members together. -/
def shapes : List Pattern → Shape
  | [] => .any
  | p :: rest => p.shape.join (shapes rest)

end

end Pattern

end Destructure
