import Destructure.Clause.Head
import Destructure.Pattern.Compiled
import Destructure.Run

set_option autoImplicit false

/-! # Clauses and match expressions

A clause is a compiled pattern with an optional guard and a body. A match expression is a list of
clauses, tried in order, with an optional default body for subjects that no clause takes. -/

namespace Destructure

variable {α : Type}

/-- A clause with a body of some type. -/
structure Clause (α : Type) where
  pattern : Compiled
  guard : Option Guard
  body : α

namespace Clause

/-- The clause of a head, without a guard. -/
def ofHead (head : Head) (body : α) : Except PatternError (Clause α) := do
  let compiled ← head.pattern.compile
  return ⟨compiled, none, body⟩

/-- The clause with this guard instead of its own. -/
def withGuard (clause : Clause α) (guard : Guard) : Clause α := { clause with guard := some guard }

end Clause

/-- The most clauses of a match expression. -/
def maxClauses : Nat := 256

/-- Clauses in the order in which they are tried, and a default. -/
structure MatchExpr (α : Type) where
  clauses : List (Clause α)
  default : Option α

/-- Check the number of clauses. -/
def checkClauseCount (count : Nat) : Except PatternError Unit :=
  if maxClauses < count then .error (.tooManyClauses count maxClauses) else .ok ()

/-- Check a match expression that was put together by hand. -/
def MatchExpr.validate (expr : MatchExpr α) : Except PatternError Unit :=
  checkClauseCount expr.clauses.length

end Destructure
