import Destructure.Run

set_option autoImplicit false

/-! # Evaluating guards

Members are evaluated from left to right, and the first one that decides ends it: later members are
not evaluated, so they cannot fail. -/

namespace Destructure.Guard

mutual

/-- The value of a guard in a scope. -/
def evaluate (guard : Guard) (scope : Scope) (site : Site) : Run GuardError Value :=
  match guard with
  | .compare binding op value =>
    .called ⟨site, .check (.compare binding op value) scope⟩ (compareIn binding op value scope)
  | .bound name =>
    .called ⟨site, .check (.bound name) scope⟩ (.ok (.bool (boundIn name scope)))
  | .custom condition =>
    .called ⟨site, .check (.custom condition) scope⟩ (condition.check scope)
  | .all members => evaluateAll members scope site 0
  | .any members => evaluateAny members scope site 0
  | .not inner => do
    let value ← inner.evaluate scope (site ++ [0])
    return .bool (!value.isTruthy)

/-- Whether all members from number `index` on are truthy. -/
def evaluateAll (members : List Guard) (scope : Scope) (site : Site) (index : Nat) :
    Run GuardError Value :=
  match members with
  | [] => pure (.bool true)
  | guard :: rest => do
    let value ← guard.evaluate scope (site ++ [index])
    if value.isTruthy then evaluateAll rest scope site (index + 1) else return .bool false

/-- Whether some member from number `index` on is truthy. -/
def evaluateAny (members : List Guard) (scope : Scope) (site : Site) (index : Nat) :
    Run GuardError Value :=
  match members with
  | [] => pure (.bool false)
  | guard :: rest => do
    let value ← guard.evaluate scope (site ++ [index])
    if value.isTruthy then return .bool true else evaluateAny rest scope site (index + 1)

end

end Destructure.Guard
