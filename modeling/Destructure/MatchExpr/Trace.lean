import Destructure.MatchExpr.Evaluation

set_option autoImplicit false

/-! # Traces

A trace tells how an evaluation went: for each clause that was tried, whether its pattern matched,
what it bound, and what its guard said. An exhausted expression has a trace, too; other errors end
the evaluation before there is one. -/

namespace Destructure

variable {α : Type}

/-- What became of a clause's guard. -/
inductive GuardOutcome where
  /-- The pattern matched and there is no guard. -/
  | absent
  | passed
  | rejected
  /-- The pattern did not match. -/
  | notReached
deriving DecidableEq

namespace GuardOutcome

/-- Whether a clause with that outcome is selected. -/
def admits : GuardOutcome → Bool
  | .absent => true
  | .passed => true
  | .rejected => false
  | .notReached => false

def name : GuardOutcome → String
  | .absent => "absent"
  | .passed => "passed"
  | .rejected => "rejected"
  | .notReached => "not_reached"

end GuardOutcome

/-- One clause that was tried. -/
structure ClauseStep where
  index : Nat
  matched : Bool
  guard : GuardOutcome
  bindings : Bindings

/-- How an evaluation went. -/
structure Trace (α : Type) where
  selected : Option (Selection α)
  steps : List ClauseStep
  usedDefault : Bool

def Trace.isExhausted (trace : Trace α) : Bool := trace.selected.isNone

namespace Clause

/-- Try clause `index` and tell how it went. -/
def step (clause : Clause α) (index : Nat) (subject : Value) (scope : Scope) :
    Run MatchError ClauseStep := do
  match ← clause.pattern.matchIn subject scope [index, 0] with
  | .noMatch => return ⟨index, false, .notReached, .empty⟩
  | .matched bindings =>
    match clause.guard with
    | none => return ⟨index, true, .absent, bindings⟩
    | some guard => do
      let value ← verdict guard index (scope.child bindings)
      return ⟨index, true, if value.isTruthy then .passed else .rejected, bindings⟩

end Clause

namespace MatchExpr

/-- The trace of the clauses from number `index` on; the default has no part in it. -/
def traceFrom (clauses : List (Clause α)) (index : Nat) (subject : Value) (scope : Scope) :
    Run MatchError (Trace α) :=
  match clauses with
  | [] => pure ⟨none, [], false⟩
  | clause :: rest => do
    let step ← clause.step index subject scope
    if step.guard.admits then
      return ⟨some ⟨some index, clause.body, step.bindings⟩, [step], false⟩
    else do
      let trace ← traceFrom rest (index + 1) subject scope
      return { trace with steps := step :: trace.steps }

/-- The evaluation of a subject in a scope, with a trace of it. -/
def evaluateWithTrace (expr : MatchExpr α) (subject : Value) (scope : Scope) :
    Run MatchError (Trace α) := do
  let trace ← traceFrom expr.clauses 0 subject scope
  match trace.selected, expr.default with
  | none, some body => return { trace with selected := some ⟨none, body, .empty⟩, usedDefault := true }
  | _, _ => return trace

end MatchExpr

end Destructure
