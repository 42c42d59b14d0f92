import Destructure.Config.Document

set_option autoImplicit false

/-! # Fixtures

A fixture is a match expression with cases that say how it should behave. It is itself a document. -/

namespace Destructure

open Record
open Json (Dialect)

/-- One case of a fixture. -/
structure FixtureCase where
  name : String
  subject : Json
  scope : List (String × Json)
  /-- The body that should be selected; without one the expression should be exhausted. -/
  expect : Option String
  /-- What should be bound, in any order. -/
  bindings : Option (List (String × Json))
  /-- A part of the message of the error that should occur. -/
  error : Option String

/-- A match expression with its cases. -/
structure Fixture where
  name : String
  description : String
  expression : MatchConfig String
  /-- A part of the message with which the expression should be rejected. -/
  loadError : Option String
  cases : List FixtureCase

/-- The entries of an object. -/
def readEntries (tree : Json) : Except DecodeError (List (String × Json)) :=
  match tree with
  | .object entries => .ok entries
  | tree => .error (.wrongType tree "a map")

/-! ## Cases -/

/-- The forms of the fields of a case. -/
inductive CaseForm where
  | text
  | data
  | entries

namespace CaseForm

@[reducible] def Content : CaseForm → Type
  | .text => String
  | .data => Json
  | .entries => List (String × Json)

def decode (dialect : Dialect) : (form : CaseForm) → Json → Except DecodeError form.Content
  | .text, tree => readText dialect tree
  | .data, tree => .ok tree
  | .entries, tree => readEntries tree

end CaseForm

namespace FixtureCase

def schema : List (FieldSpec CaseForm) :=
  [.required "name" .text, .required "subject" .data, .defaulted "scope" .entries,
    .optional "expect" .text, .optional "bindings" .entries, .optional "error" .text]

/-- A tree as a case. -/
def ofJson (dialect : Dialect) (tree : Json) : Except DecodeError FixtureCase := do
  let (name, subject, scope, expect, bindings, error, _) ←
    readRecord dialect "struct TestCase" schema (CaseForm.decode dialect) tree
  return ⟨name, subject, scope.getD [], expect, bindings, error⟩

end FixtureCase

/-! ## Fixtures -/

/-- The forms of the fields of a fixture. -/
inductive FixtureForm where
  | text
  | expression
  | cases

namespace FixtureForm

@[reducible] def Content : FixtureForm → Type
  | .text => String
  | .expression => MatchConfig String
  | .cases => List FixtureCase

def decode (dialect : Dialect) : (form : FixtureForm) → Json → Except DecodeError form.Content
  | .text, tree => readText dialect tree
  | .expression, tree => MatchConfig.ofJson dialect tree
  | .cases, tree => readItems (FixtureCase.ofJson dialect) tree

end FixtureForm

namespace Fixture

def schema : List (FieldSpec FixtureForm) :=
  [.required "name" .text, .required "description" .text, .required "expression" .expression,
    .optional "load_error" .text, .defaulted "cases" .cases]

/-- A tree as a fixture. -/
def ofJson (dialect : Dialect) (tree : Json) : Except DecodeError Fixture := do
  let (name, description, expression, loadError, cases, _) ←
    readRecord dialect "struct Fixture" schema (FixtureForm.decode dialect) tree
  return ⟨name, description, expression, loadError, cases.getD []⟩

/-- The fixture of a text. -/
def ofText (text : String) : Except DocumentError Fixture :=
  decodeText .yaml (ofJson .yaml) text

/-- The fixtures of a text of several documents. -/
def allOfText (text : String) : Except DocumentError (List Fixture) :=
  (Json.documents text).mapM (decodeDocument .yaml (ofJson .yaml))

end Fixture

end Destructure
