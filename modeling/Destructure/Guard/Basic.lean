import Destructure.Bindings
import Destructure.Value.Equality

set_option autoImplicit false

/-! # Guards

A guard is a side condition on the names in scope. Comparisons, presence tests and custom conditions
are its leaves; `all`, `any` and `not` combine them. Only the truthiness of a guard's value counts.
A guard that fails is something else than a guard that is falsy. -/

namespace Destructure

/-- The operators that compare a bound value with a constant. -/
inductive CompareOp where
  | eq
  | ne
  | lt
  | le
  | gt
  | ge
deriving DecidableEq

namespace CompareOp

def symbol : CompareOp → String
  | .eq => "=="
  | .ne => "!="
  | .lt => "<"
  | .le => "<="
  | .gt => ">"
  | .ge => ">="

/-- Whether the operator holds of two values in that order. -/
def accepts : CompareOp → Ordering → Bool
  | .eq, o => o == .eq
  | .ne, o => o != .eq
  | .lt, o => o == .lt
  | .le, o => o != .gt
  | .gt, o => o == .gt
  | .ge, o => o != .lt

end CompareOp

/-- Why a guard fails. -/
inductive GuardError where
  | unbound (binding : String)
  /-- One of two numbers to be ordered is a NaN. -/
  | unordered (op : CompareOp)
  | incomparable (left : Kind) (op : CompareOp) (right : Kind) (binding : String)
  | custom (message : String)
deriving DecidableEq

def GuardError.message : GuardError → String
  | .unbound binding => "binding \"" ++ binding ++ "\" is not in scope"
  | .unordered op => "cannot order NaN with " ++ op.symbol
  | .incomparable left op right binding =>
    "cannot compare " ++ left.name ++ " " ++ op.symbol ++ " " ++ right.name ++ " (binding \""
      ++ binding ++ "\")"
  | .custom message => message

/-- A named condition of some domain. -/
structure CustomGuard where
  name : String
  check : Scope → Except GuardError Value
  log : Scope → List String := fun _ => []

/-- A side condition. -/
inductive Guard where
  /-- The binding compares with the constant as the operator says. -/
  | compare (binding : String) (op : CompareOp) (value : Value)
  /-- Every member is truthy; the first falsy one decides. -/
  | all (members : List Guard)
  /-- Some member is truthy; the first truthy one decides. -/
  | any (members : List Guard)
  /-- The inner guard is falsy. -/
  | not (inner : Guard)
  /-- The name is in scope and truthy. -/
  | bound (name : String)
  | custom (guard : CustomGuard)
deriving Inhabited

/-- Compare two values. All values can be equal or not; beyond that numbers compare as numbers, texts
by their code points, and nothing else compares. -/
def CompareOp.decide (op : CompareOp) (binding : String) (a b : Value) :
    Except GuardError Bool :=
  match op, a, b with
  | .eq, a, b => .ok (a.equals b)
  | .ne, a, b => .ok (!a.equals b)
  | op, .number x, .number y =>
    match x.compare? y with
    | some ordering => .ok (op.accepts ordering)
    | none => .error (.unordered op)
  | op, .text s, .text t => .ok (op.accepts (compare s t))
  | op, a, b => .error (.incomparable a.kind op b.kind binding)

namespace Guard

/-- The value of a comparison in a scope. -/
def compareIn (binding : String) (op : CompareOp) (value : Value) (scope : Scope) :
    Except GuardError Value :=
  match scope.lookup binding with
  | none => .error (.unbound binding)
  | some actual => .bool <$> op.decide binding actual value

/-- Whether a name is in scope and truthy. -/
def boundIn (name : String) (scope : Scope) : Bool := (scope.lookup name).any Value.isTruthy

end Guard

end Destructure
