import Destructure.Config.Decoder
import Destructure.Json.Reader

set_option autoImplicit false

/-! # Decoding documents

The outer records of a document, and documents as text. A tree that was read from text may still name
a key twice. For a field of a record that is an error; elsewhere, as in the value of a literal, the
last value counts. `decodeDocument` therefore decodes twice: the tree as it was read, to find repeated
fields, and the settled tree, whose configuration is the result. -/

namespace Destructure

open Record
open Json (Dialect)

/-- A record that is not part of a tagged form. -/
def readRecord {F : Type} {C : F → Type} (dialect : Dialect) (title : String)
    (schema : List (FieldSpec F)) (decode : (form : F) → Json → Except DecodeError (C form))
    (tree : Json) : Except DecodeError (Contents C schema) :=
  match dialect, tree with
  | _, .object entries =>
    ofEntries schema (entries.map fun entry => (entry.1, Part.ofJson decode entry.2))
  | .json, .array items => ofItems .document title schema (items.map (Part.ofJson decode))
  | _, tree => .error (.wrongType tree title)

/-- The items of an array. -/
def readItems {α : Type} (decode : Json → Except DecodeError α) (tree : Json) :
    Except DecodeError (List α) :=
  match tree with
  | .array items => items.mapM decode
  | tree => .error (.wrongType tree "a sequence")

/-- A text of a document. In the second notation every scalar is also a text. -/
def readText (dialect : Dialect) (tree : Json) : Except DecodeError String :=
  match dialect, tree with
  | _, .text s => .ok s
  | .yaml, .null => .ok "null"
  | .yaml, .bool b => .ok (if b then "true" else "false")
  | .yaml, .int n => .ok (toString n)
  | .yaml, .float x => .ok (Json.writeFloat x)
  | _, tree => .error (.wrongType tree "a string")

/-! ## Clauses -/

/-- The forms of the fields of a clause. -/
inductive ClauseForm where
  | pattern
  | guard
  | body

namespace ClauseForm

@[reducible] def Content : ClauseForm → Type
  | .pattern => PatternConfig
  | .guard => GuardConfig
  | .body => String

def decode (dialect : Dialect) : (form : ClauseForm) → Json → Except DecodeError form.Content
  | .pattern, tree => PatternConfig.ofJson tree
  | .guard, tree => GuardConfig.ofJson tree
  | .body, tree => readText dialect tree

end ClauseForm

namespace ClauseConfig

def schema : List (FieldSpec ClauseForm) :=
  [.optional "capture" .pattern, .optional "pattern" .pattern, .optional "guard" .guard,
    .required "body" .body]

/-- A tree as a clause. -/
def ofJson (dialect : Dialect) (tree : Json) : Except DecodeError (ClauseConfig String) := do
  let (capture, pattern, guard, body, _) ←
    readRecord dialect "struct ClauseConfig" schema (ClauseForm.decode dialect) tree
  return ⟨capture, pattern, guard, body⟩

end ClauseConfig

/-! ## Match expressions -/

/-- The forms of the fields of a match expression. -/
inductive MatchForm where
  | clauses
  | body

namespace MatchForm

@[reducible] def Content : MatchForm → Type
  | .clauses => List (ClauseConfig String)
  | .body => String

def decode (dialect : Dialect) : (form : MatchForm) → Json → Except DecodeError form.Content
  | .clauses, tree => readItems (ClauseConfig.ofJson dialect) tree
  | .body, tree => readText dialect tree

end MatchForm

namespace MatchConfig

def schema : List (FieldSpec MatchForm) := [.required "clauses" .clauses, .optional "default" .body]

/-- A tree as a match expression. -/
def ofJson (dialect : Dialect) (tree : Json) : Except DecodeError (MatchConfig String) := do
  let (clauses, default, _) ←
    readRecord dialect "struct MatchConfig" schema (MatchForm.decode dialect) tree
  return ⟨clauses, default⟩

end MatchConfig

/-! ## Documents as text -/

/-- Why a text does not hold a document. -/
inductive DocumentError where
  | unreadable (cause : Json.ReadError)
  | malformed (cause : DecodeError)

def DocumentError.message : DocumentError → String
  | .unreadable cause => cause.message
  | .malformed cause => cause.message

/-- What one document holds. -/
def decodeDocument {α : Type} (dialect : Dialect) (decode : Json → Except DecodeError α)
    (document : String) : Except DocumentError α := do
  let tree ← (Json.read dialect document).mapError .unreadable
  let _ ← (decode tree).mapError .malformed
  (decode tree.settled).mapError .malformed

/-- What a text of one document holds. -/
def decodeText {α : Type} (dialect : Dialect) (decode : Json → Except DecodeError α)
    (text : String) : Except DocumentError α := do
  let document ← (Json.soleDocument dialect text).mapError .unreadable
  decodeDocument dialect decode document

end Destructure
