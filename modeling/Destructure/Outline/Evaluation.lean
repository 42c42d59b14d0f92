import Destructure.MatchExpr.Trace
import Destructure.Outline.Value

set_option autoImplicit false

/-! # Outlines of evaluations -/

namespace Destructure

/-- The outline of a selection whose body is a text. -/
def Selection.outline (selection : Selection String) : Outline :=
  .fields "Selection" [
    ("clause", .option (selection.clause.map .nat)),
    ("body", .text selection.body),
    ("bindings", selection.bindings.outline)]

def GuardOutcome.outline : GuardOutcome → Outline
  | .absent => .word "Absent"
  | .passed => .word "Passed"
  | .rejected => .word "Rejected"
  | .notReached => .word "NotReached"

def ClauseStep.outline (step : ClauseStep) : Outline :=
  .fields "ClauseStep" [
    ("index", .nat step.index),
    ("matched", .bool step.matched),
    ("guard", step.guard.outline),
    ("bindings", step.bindings.outline)]

/-- The outline of a trace whose bodies are texts. -/
def Trace.outline (trace : Trace String) : Outline :=
  .fields "EvalTrace" [
    ("selected", .option (trace.selected.map Selection.outline)),
    ("steps", .list (trace.steps.map ClauseStep.outline)),
    ("used_default", .bool trace.usedDefault)]

/-- The outline of an error that carries a message. -/
def messageOutline (name message : String) : Outline := .fields name [("message", .text message)]

def MatchError.outline : MatchError → Outline
  | .extractorContract extractor fault =>
    .fields "ExtractorContractViolation" [
      ("extractor", .text extractor), ("reason", .text fault.message)]
  | .guardEvaluation clause source =>
    .fields "GuardEvaluation" [
      ("clause", .nat clause), ("source", messageOutline "GuardError" source.message)]
  | .predicateEvaluation predicate source =>
    .fields "PredicateEvaluation" [
      ("predicate", .text predicate), ("source", messageOutline "CallError" source.message)]
  | .exhausted clauses => .fields "MatchExhausted" [("clauses", .nat clauses)]

end Destructure
