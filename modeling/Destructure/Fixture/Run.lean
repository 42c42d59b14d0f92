import Destructure.Fixture.Basic
import Destructure.Fixture.Decode
import Destructure.MatchExpr.Evaluation
import Destructure.Outline.Value
import Destructure.Registry.Loader

set_option autoImplicit false

/-! # Running fixtures

Running a fixture loads its expression, and evaluates it for every case. A case passes when it selects
the body that it should select, binds what it should bind, or fails as it should fail. -/

namespace Destructure

/-- Why a fixture cannot be run. -/
inductive FixtureError where
  | load (fixture : String) (reason : PatternError)
  /-- The expression should have been rejected. -/
  | unexpectedLoad (fixture expected : String)
  | escape (cause : EscapeError)

def FixtureError.message : FixtureError → String
  | .load fixture reason => "fixture \"" ++ fixture ++ "\" failed to load: " ++ reason.message
  | .unexpectedLoad fixture expected =>
    "fixture \"" ++ fixture ++ "\" loaded, expected a load error containing \"" ++ expected ++ "\""
  | .escape cause => cause.message

/-- How a case went. -/
structure CaseResult where
  name : String
  passed : Bool
  expected : Option String
  actual : Option String
  /-- What went wrong besides the body. -/
  detail : Option String

/-- Whether a text stands somewhere in another one. -/
def occursIn (part whole : List Char) : Bool :=
  match whole with
  | [] => part.isEmpty
  | _ :: rest => part.isPrefixOf whole || occursIn part rest

/-- Whether a message has a text in it. -/
def mentions (message part : String) : Bool := occursIn part.toList message.toList

namespace Bindings

/-- Whether two bindings bind the same names to equal values. -/
def agree (expected actual : Bindings) : Bool :=
  expected.size == actual.size && expected.entries.all fun entry =>
    (actual.get? entry.1).any fun value => value.equals entry.2

/-- The difference between bindings, if there is one. -/
def mismatch? (expected actual : Bindings) : Option String :=
  if expected.agree actual then none
  else some ("expected bindings " ++ expected.outline.render ++ ", got " ++ actual.outline.render)

end Bindings

namespace FixtureCase

/-- The places below which the three parts of a case are decoded. -/
def places (index : Nat) : Identity × Identity × Identity :=
  ([0, index + 2], [1, index + 2], [2, index + 2])

/-- The body and the detail that a selection leads to. -/
def judgeSelection (error : Option String) (expected : Option Bindings)
    (selection : Selection String) : Option String × Option String :=
  (some selection.body,
    match error, expected with
    | some text, _ => some ("expected error containing \"" ++ text ++ "\"")
    | none, some expected => expected.mismatch? selection.bindings
    | none, none => none)

/-- The body and the detail that an error leads to. -/
def judgeError (error : Option String) (e : MatchError) : Option String × Option String :=
  (none,
    match error with
    | some text => if mentions e.message text then none else some e.message
    | none => if e.isExhausted then none else some e.message)

/-- Run case number `index` of an expression. -/
def run (r : Registry) (expr : MatchExpr String) (index : Nat) (case : FixtureCase) :
    Except EscapeError CaseResult := do
  let (subjectPlace, scopePlace, bindingsPlace) := places index
  let subject ← Value.decode r subjectPlace case.subject
  let scope ← Bindings.decode r scopePlace case.scope
  let expected ← match case.bindings with
    | some entries => some <$> Bindings.decode r bindingsPlace entries
    | none => pure none
  let (actual, detail) := match (expr.evaluate subject (.ofBindings scope)).result with
    | .ok selection => judgeSelection case.error expected selection
    | .error e => judgeError case.error e
  return ⟨case.name, actual == case.expect && detail.isNone, case.expect, actual, detail⟩

/-- Run cases, the first of which has number `index`. -/
def runAll (r : Registry) (expr : MatchExpr String) (index : Nat) :
    List FixtureCase → Except EscapeError (List CaseResult)
  | [] => .ok []
  | case :: rest => do
    let result ← case.run r expr index
    let results ← runAll r expr (index + 1) rest
    return result :: results

end FixtureCase

namespace Fixture

variable (library : Regex.Library)

/-- Run all cases. -/
def run (fixture : Fixture) (r : Registry) : Except FixtureError (List CaseResult) :=
  match r.loadMatch library fixture.expression, fixture.loadError with
  | .ok expr, none => (FixtureCase.runAll r expr 0 fixture.cases).mapError .escape
  | .ok _, some expected => .error (.unexpectedLoad fixture.name expected)
  | .error e, some expected =>
    if mentions e.message expected then .ok [] else .error (.load fixture.name e)
  | .error e, none => .error (.load fixture.name e)

/-- An optional text in the descriptive form. -/
def describe (text : Option String) : String := (Outline.option (text.map .text)).render

/-- The complaint about a case that did not pass. -/
def complaint (fixture : Fixture) (result : CaseResult) : String :=
  "Fixture '" ++ fixture.name ++ "' case '" ++ result.name ++ "' failed: expected "
    ++ describe result.expected ++ ", got " ++ describe result.actual
    ++ (match result.detail with
      | some detail => " (" ++ detail ++ ")"
      | none => "")

/-- The first complaint about a fixture, if there is one. -/
def firstComplaint? (fixture : Fixture) (r : Registry) : Option String :=
  match fixture.run library r with
  | .error e => some ("Fixture '" ++ fixture.name ++ "': " ++ e.message)
  | .ok results => (results.find? fun result => !result.passed).map fixture.complaint

end Fixture

end Destructure
