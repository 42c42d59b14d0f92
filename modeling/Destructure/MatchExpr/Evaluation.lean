import Destructure.Clause.Basic
import Destructure.Guard.Evaluation
import Destructure.Matching.Basic

set_option autoImplicit false

/-! # Evaluating a match expression

The clauses are tried in order. The first one whose pattern matches and whose guard, if it has one,
is truthy in the scope of its bindings is selected. A falsy guard moves on to the next clause: other
ways in which the same pattern could have matched are not tried. An error ends the evaluation.

The calls of clause `i` are made at sites below `[i]`: its pattern is at `[i, 0]` and its guard at
`[i, 1]`. -/

namespace Destructure

variable {α β : Type}

/-- The body that was selected, with the bindings of its clause. -/
structure Selection (α : Type) where
  /-- The number of the clause, `none` for the default. -/
  clause : Option Nat
  body : α
  bindings : Bindings

def Selection.isDefault (selection : Selection α) : Bool := selection.clause.isNone

namespace Clause

/-- The value of the guard of clause `index` in a scope. -/
def verdict (guard : Guard) (index : Nat) (scope : Scope) : Run MatchError Value :=
  (guard.evaluate scope [index, 1]).mapError (.guardEvaluation index)

/-- The bindings of clause `index`, if it takes the subject. -/
def take (clause : Clause α) (index : Nat) (subject : Value) (scope : Scope) :
    Run MatchError (Option Bindings) := do
  match ← clause.pattern.matchIn subject scope [index, 0] with
  | .noMatch => return none
  | .matched bindings =>
    match clause.guard with
    | none => return some bindings
    | some guard => do
      let value ← verdict guard index (scope.child bindings)
      return if value.isTruthy then some bindings else none

end Clause

namespace MatchExpr

/-- The selection of the first clause that takes the subject; `index` is the number of the first
clause of the list. -/
def selectFrom (clauses : List (Clause α)) (index : Nat) (subject : Value) (scope : Scope) :
    Run MatchError (Option (Selection α)) :=
  match clauses with
  | [] => pure none
  | clause :: rest => do
    match ← clause.take index subject scope with
    | some bindings => return some ⟨some index, clause.body, bindings⟩
    | none => selectFrom rest (index + 1) subject scope

/-- What happens when no clause takes the subject. -/
def fallback (expr : MatchExpr α) : Except MatchError (Selection α) :=
  match expr.default with
  | some body => .ok ⟨none, body, .empty⟩
  | none => .error (.exhausted expr.clauses.length)

/-- The selection for a subject in a scope. -/
def evaluate (expr : MatchExpr α) (subject : Value) (scope : Scope) :
    Run MatchError (Selection α) := do
  match ← selectFrom expr.clauses 0 subject scope with
  | some selection => return selection
  | none => .ofExcept expr.fallback

/-- Go on with the selected body in the scope of its bindings. -/
def run (expr : MatchExpr α) (subject : Value) (scope : Scope) (next : α → Scope → β) :
    Run MatchError β := do
  let selection ← expr.evaluate subject scope
  return next selection.body (scope.child selection.bindings)

end MatchExpr

end Destructure
